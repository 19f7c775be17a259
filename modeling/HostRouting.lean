import HostRouting.Main
import HostRouting.FileTree
import HostRouting.Proofs.Actions
import HostRouting.Proofs.RegistryGrowth
import HostRouting.Proofs.DistinctKeys
import HostRouting.Proofs.RouteTables
import HostRouting.Proofs.Declared
import HostRouting.Proofs.RouteLoading
import HostRouting.Proofs.HostLoading
import HostRouting.Proofs.DeclaredHosts
import HostRouting.Proofs.Histories
import HostRouting.Proofs.Consistency
import HostRouting.Proofs.CompiledServer
import HostRouting.Proofs.Defects
import HostRouting.Proofs.FirstDefect
import HostRouting.Proofs.Sharing
import HostRouting.Proofs.AssembledKeys
import HostRouting.Proofs.Utf8Texts
import HostRouting.Proofs.SearchTrees
import HostRouting.Proofs.StoreRuns
import HostRouting.Proofs.MediaTypes
import HostRouting.Proofs.RouteOrder
import HostRouting.Proofs.Reordered
import HostRouting.Proofs.OrderIndependence
import HostRouting.Proofs.DeclaredSteps
import HostRouting.Proofs.StepsTaken
import HostRouting.Proofs.BegunHosts
import HostRouting.Proofs.WrittenEvents
import HostRouting.Proofs.AuditTrail
import HostRouting.Proofs.WriteOnce
import HostRouting.Proofs.WholeNumbers
import HostRouting.Proofs.UnreadFields
import HostRouting.Proofs.Numerals
import HostRouting.Proofs.JsonReading
import HostRouting.Proofs.JsonTexts
import HostRouting.Proofs.ServerForms
import HostRouting.Proofs.FailedHosts
import HostRouting.Proofs.LongestPrefixes
import HostRouting.Proofs.RegistryRuns
import HostRouting.Proofs.Collisions
import HostRouting.Proofs.ServerSearch
import HostRouting.Proofs.TreeWalks
import HostRouting.Proofs.RouteGains
import HostRouting.Proofs.ShortestTexts
import HostRouting.Proofs.SettingNumbers
