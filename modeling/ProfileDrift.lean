import ProfileDrift.Check.Batch
import ProfileDrift.Check.Codec
import ProfileDrift.Check.Render
import ProfileDrift.Main
import ProfileDrift.Store.Archive
import ProfileDrift.Proofs.NearestBaseline
import ProfileDrift.Proofs.BatchCheck
import ProfileDrift.Proofs.FittedDocument
import ProfileDrift.Proofs.InspectedOnce
import ProfileDrift.Proofs.AncestorLocality
import ProfileDrift.Proofs.SameSides
import ProfileDrift.Proofs.ContentAddress
import ProfileDrift.Proofs.DescribedProfile
import ProfileDrift.Proofs.PairReports
import ProfileDrift.Proofs.AccountedTargets
import ProfileDrift.Proofs.DocumentText
import ProfileDrift.Proofs.CoherentReport
import ProfileDrift.Proofs.RefittedDocument
import ProfileDrift.Proofs.RescaledVerdict
import ProfileDrift.Proofs.RecordingOrder
import ProfileDrift.Proofs.RuleValidation
import ProfileDrift.Proofs.ArchiveListing
import ProfileDrift.Proofs.ComparisonOutcome
import ProfileDrift.Proofs.DoublePlace
import ProfileDrift.Proofs.StraightData
import ProfileDrift.Proofs.FlatData
import ProfileDrift.Proofs.RefusedData
import ProfileDrift.Proofs.FittedModel
import ProfileDrift.Proofs.CurveArea
import ProfileDrift.Proofs.FailedSearch
import ProfileDrift.Proofs.SwappedAreas
import ProfileDrift.Proofs.CertainChange
import ProfileDrift.Proofs.AverageDirection
import ProfileDrift.Proofs.ReportNumbers
import ProfileDrift.Proofs.MirroredOrder
import ProfileDrift.Proofs.LooserThresholds
import ProfileDrift.Proofs.AcceptedParameters
import ProfileDrift.Proofs.AttachedModels
import ProfileDrift.Proofs.ReadOnce
