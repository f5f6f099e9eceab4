import MarkerAudit.Main
import MarkerAudit.Pattern.Meaning
import MarkerAudit.Pattern.Trials
import MarkerAudit.Repository.Staging
import MarkerAudit.Proofs.Text
import MarkerAudit.Proofs.Utf8
import MarkerAudit.Proofs.CharSet
import MarkerAudit.Proofs.Pattern.Reading
import MarkerAudit.Proofs.Pattern.Alternation
import MarkerAudit.Proofs.MarkerSet
import MarkerAudit.Proofs.Scan
import MarkerAudit.Proofs.Report
import MarkerAudit.Proofs.Pattern.WrittenLine
import MarkerAudit.Proofs.FileTree
import MarkerAudit.Proofs.Path
import MarkerAudit.Proofs.Audit
import MarkerAudit.Proofs.Splitting
import MarkerAudit.Proofs.WorkingSet
import MarkerAudit.Proofs.Outcome
import MarkerAudit.Proofs.Undecodable
import MarkerAudit.Proofs.Candidates
import MarkerAudit.Proofs.PathFilter
import MarkerAudit.Proofs.Scope
import MarkerAudit.Proofs.NormalPath
import MarkerAudit.Proofs.Subreport
import MarkerAudit.Proofs.Attempts
import MarkerAudit.Proofs.LineTrials
import MarkerAudit.Proofs.ChosenSplit
import MarkerAudit.Proofs.Edit
import MarkerAudit.Proofs.Isolation
import MarkerAudit.Proofs.Index
import MarkerAudit.Proofs.NewRepository
import MarkerAudit.Proofs.Staging
import MarkerAudit.Proofs.Options
import MarkerAudit.Proofs.Pattern.Size
import MarkerAudit.Proofs.Refusal
import MarkerAudit.Proofs.LineText
import MarkerAudit.Proofs.Repair
import MarkerAudit.Proofs.Pattern.Search
import MarkerAudit.Proofs.Pattern.Trials
import MarkerAudit.Proofs.Pattern.Counts
import MarkerAudit.Proofs.Pattern.LastComponent
import MarkerAudit.Proofs.SelfRule
import MarkerAudit.Proofs.Selection
import MarkerAudit.Proofs.SelfExclusion
import MarkerAudit.Proofs.FilterLaw
import MarkerAudit.Proofs.PlainPatterns
import MarkerAudit.Proofs.Faults
import MarkerAudit.Proofs.Listing
import MarkerAudit.Proofs.Absent
import MarkerAudit.Proofs.LineEnds
import MarkerAudit.Proofs.ReadBack
