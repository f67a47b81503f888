import HostStatus.Json.Basic

/-!
# The description of the service

What the service offers, as an OpenAPI document: its two resources, what they may be answered
with, and the shapes of the statistics.
-/

namespace HostStatus.OpenApi

open Json

def numberSchema : Json :=
  object [("type", string "number"), ("format", string "float")]

def stringSchema : Json :=
  object [("type", string "string")]

def describedString (description : String) : Json :=
  object [("type", string "string"), ("description", string description)]

def schemaReference (name : String) : Json :=
  object [("$ref", string ("#/components/schemas/" ++ name))]

def systemStatsSchema : Json :=
  object
    [("type", string "object"),
      ("required",
        array [string "platform", string "cpu_percent", string "memory", string "disk"]),
      ("properties",
        object
          [("platform", stringSchema), ("cpu_percent", numberSchema),
            ("memory", schemaReference "UsageStats"), ("disk", schemaReference "UsageStats")])]

def usageStatsSchema : Json :=
  object
    [("type", string "object"),
      ("description", string "Used / total of one resource, sizes already human-scaled."),
      ("required", array [string "total", string "used", string "percent"]),
      ("properties",
        object
          [("total", describedString "e.g. `\"15.52 GB\"`"),
            ("used", describedString "e.g. `\"3.10 GB\"`"), ("percent", numberSchema)])]

/-- A resource that is got as a page or as data, unless the statistics cannot be read. -/
def getOperation (name description mediaType : String) (schema : Json) : Json :=
  object
    [("get",
      object
        [("tags", array [string "system"]), ("operationId", string name),
          ("responses",
            object
              [("200",
                object
                  [("description", string description),
                    ("content", object [(mediaType, object [("schema", schema)])])]),
                ("500",
                  object [("description", string "System statistics could not be read")])])])]

def document : Json :=
  object
    [("openapi", string "3.1.0"),
      ("info",
        object
          [("title", string "webui-status"),
            ("description", string "Kali Linux GUI host status sidecar"),
            ("license", object [("name", string "")]), ("version", string "1.0.0")]),
      ("paths",
        object
          [("/", getOperation "index" "Human-readable status page" "text/html" stringSchema),
            ("/api/stats",
              getOperation "api_stats" "Current host resource usage" "application/json"
                (schemaReference "SystemStats"))]),
      ("components",
        object
          [("schemas",
            object [("SystemStats", systemStatsSchema), ("UsageStats", usageStatsSchema)])]),
      ("tags",
        array [object [("name", string "system"), ("description", string "Host resource usage")]])]

end HostStatus.OpenApi
