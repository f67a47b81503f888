import HostStatus.Settings
import HostStatus.Stats
import HostStatus.Text.Markup

/-!
# The status page

One line each for the platform, the three usages and the two ports. Percentages have one decimal,
and only the platform needs escaping: every other text on the page is a number or a size.
-/

namespace HostStatus.Page

def title : String := "Kali Linux GUI"

def usageText (u : UsageStats) : String :=
  u.used ++ " / " ++ u.total ++ " (" ++ Decimal.fixedText 1 u.percent ++ "%)"

def render (stats : SystemStats) (settings : Settings) : String :=
  "<!DOCTYPE html>\n<html>\n<head><meta charset=\"utf-8\"><title>" ++ title ++
    "</title></head>\n<body>\n<h1>" ++ title ++ "</h1>\n" ++
    "<p>Platform: " ++ Text.Markup.escape stats.platform ++ "</p>\n" ++
    "<p>CPU Usage: " ++ Decimal.fixedText 1 stats.cpuPercent ++ "%</p>\n" ++
    "<p>Memory Used: " ++ usageText stats.memory ++ "</p>\n" ++
    "<p>Disk Used: " ++ usageText stats.disk ++ "</p>\n" ++
    "<p>RDP port: " ++ settings.desktopPort.toText ++ "</p>\n" ++
    "<p>Web UI port: " ++ settings.webPort.toText ++ "</p>\n" ++
    "</body>\n</html>\n"

end HostStatus.Page
