import HostStatus.Collect.LinuxHost
import HostStatus.Json.Pointer
import HostStatus.Main
import HostStatus.OpenApi.Document
import HostStatus.Service.Secured
import HostStatus.Stats.Reader
import HostStatus.Proofs.Rounding
import HostStatus.Proofs.Value
import HostStatus.Proofs.Halfway
import HostStatus.Proofs.RelativeError
import HostStatus.Proofs.SimplestFraction
import HostStatus.Proofs.ExactSize
import HostStatus.Proofs.SizeOrder
import HostStatus.Proofs.WholeCounts
import HostStatus.Proofs.ShownQuantity
import HostStatus.Proofs.SizeText
import HostStatus.Proofs.Tenth
import HostStatus.Proofs.Percentage
import HostStatus.Proofs.MeasuredUsage
import HostStatus.Proofs.Shortest
import HostStatus.Proofs.TenthText
import HostStatus.Proofs.RecordText
import HostStatus.Proofs.NumeralText
import HostStatus.Proofs.StatsText
import HostStatus.Proofs.DoubleReading
import HostStatus.Proofs.Narrowing
import HostStatus.Proofs.SingleDigits
import HostStatus.Proofs.SingleText
import HostStatus.Proofs.RouterReply
import HostStatus.Proofs.RouterRuns
import HostStatus.Proofs.FaultReplies
import HostStatus.Proofs.MarkupText
import HostStatus.Proofs.PageText
import HostStatus.Proofs.Utf8Text
import HostStatus.Proofs.HeadReplies
import HostStatus.Proofs.TargetText
import HostStatus.Proofs.SecuredReplies
import HostStatus.Proofs.PageAndBody
import HostStatus.Proofs.Variables
import HostStatus.Proofs.LaunchSettings
import HostStatus.Proofs.PortText
import HostStatus.Proofs.PortVariables
import HostStatus.Proofs.JsonGrammar
import HostStatus.Proofs.PassedValues
import HostStatus.Proofs.Meaning
import HostStatus.Proofs.RecordMeaning
import HostStatus.Proofs.Acceptance
import HostStatus.Proofs.Schema
import HostStatus.Proofs.DescribedService
import HostStatus.Proofs.PublishedSchemas
import HostStatus.Proofs.UsageOrder
import HostStatus.Proofs.WrittenTrees
import HostStatus.Proofs.FoundTrees
import HostStatus.Proofs.Rearrangement
import HostStatus.Proofs.StatsForms
import HostStatus.Proofs.HostProbes
import HostStatus.Proofs.MeanLoad
import HostStatus.Proofs.ResolvedPlaces
import HostStatus.Proofs.ReportedTotals
import HostStatus.Proofs.QuotedText
import HostStatus.Proofs.RefusedPorts
import HostStatus.Proofs.FirstOffence
import HostStatus.Proofs.FieldKinds
import HostStatus.Proofs.StatsVerdicts
import HostStatus.Proofs.KeptOrder
import HostStatus.Proofs.NarrowedTenth
import HostStatus.Proofs.RepeatedTenth
import HostStatus.Proofs.EscapedText
