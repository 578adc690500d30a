import Ranging.Bench
import Ranging.Bulletin
import Ranging.Proofs.ReplyCounts
import Ranging.Proofs.Audit
import Ranging.Proofs.OneDispatch
import Ranging.Recording
import Ranging.Sample
import Ranging.Settings.File
import Ranging.Station.Run
import Ranging.Proofs.CorrelationMarks
import Ranging.Proofs.LateEvents
import Ranging.Proofs.RoutineEffects
import Ranging.Proofs.Registrations
import Ranging.Proofs.Wakeups
import Ranging.Proofs.Lookup
import Ranging.Proofs.DeliveredResults
import Ranging.Proofs.LedgerStamps
import Ranging.Proofs.BackgroundGap
import Ranging.Proofs.UidCaps
import Ranging.Exchange
import Ranging.Proofs.Serial
import Ranging.Proofs.ReportIndependence
import Ranging.Proofs.ResolverQuestions
import Ranging.Station.Shift
import Ranging.Proofs.StationSteps
import Ranging.Proofs.ShiftHistory
import Ranging.Proofs.RequesterDeath
import Ranging.Proofs.CallTimes
import Ranging.Proofs.CorrelationOrder
import Ranging.Proofs.StationTimer
import Ranging.Proofs.StationLookups
import Ranging.Proofs.SlotBound
import Ranging.Proofs.CorrelationReuse
import Ranging.Proofs.StationRuns
import Ranging.Proofs.SlotTurnover
import Ranging.Proofs.Withdrawal
import Ranging.Proofs.CancelAndDeath
import Ranging.Proofs.AfterShutdown
import Ranging.Proofs.Announcements
import Ranging.Proofs.Matching
import Ranging.Proofs.Substitution
import Ranging.Proofs.AdmissionGates
import Ranging.Proofs.SlotFilling
import Ranging.Proofs.AuditVerdict
import Ranging.Proofs.RegistryRefinement
import Ranging.Proofs.HubContract
import Ranging.Proofs.TomlGrammar
import Ranging.Proofs.SettingsText
