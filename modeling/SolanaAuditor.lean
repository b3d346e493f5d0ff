import SolanaAuditor.Lib.Shell
import SolanaAuditor.Lib.RelyGuarantee
import SolanaAuditor.Lib.Dict
import SolanaAuditor.Lib.Glob
import SolanaAuditor.Lib.Lists
import SolanaAuditor.Lib.Words
import SolanaAuditor.Lib.KeyedDiff
import SolanaAuditor.Lib.Tally
import SolanaAuditor.Lib.StableSort
import SolanaAuditor.Lib.Stopping
import SolanaAuditor.Lib.Regex
import SolanaAuditor.Lib.RegexWalls
import SolanaAuditor.Lib.LexicalPath
import SolanaAuditor.Lib.KeyedLog
import SolanaAuditor.Lib.Decimal
import SolanaAuditor.Json
import SolanaAuditor.Jq
import SolanaAuditor.Bash
import SolanaAuditor.Python
import SolanaAuditor.Numbers
import SolanaAuditor.History.Files
import SolanaAuditor.History.AuditHistory
import SolanaAuditor.History.Store
import SolanaAuditor.History.SoloRun
import SolanaAuditor.History.Sessions
import SolanaAuditor.History.LockDiscipline
import SolanaAuditor.History.Concurrency
import SolanaAuditor.History.Crashes
import SolanaAuditor.History.Races
import SolanaAuditor.History.Listing
import SolanaAuditor.History.Stats
import SolanaAuditor.History.StatsRuns
import SolanaAuditor.History.Additions
import SolanaAuditor.History.Diff
import SolanaAuditor.History.DiffVerdict
import SolanaAuditor.Hooks.PreCommit
import SolanaAuditor.Hooks.PreCommitVerdict
import SolanaAuditor.Fixes.Verification
import SolanaAuditor.Fixes.FindingsQuery
import SolanaAuditor.Fixes.VerificationRuns
import SolanaAuditor.Fixes.VerificationVerdict
import SolanaAuditor.Cvss.SeverityCounts
import SolanaAuditor.Cvss.Triage
import SolanaAuditor.Cvss.Components
import SolanaAuditor.Cvss.Grammar
import SolanaAuditor.Cvss.Agreement
import SolanaAuditor.Cvss.BaseMetrics
import SolanaAuditor.Cvss.FirstScore
import SolanaAuditor.Cvss.Recompute
import SolanaAuditor.Cvss.Repair
import SolanaAuditor.Cvss.CheckMath
import SolanaAuditor.Suggestions.FindingsFile
import SolanaAuditor.Suggestions.Confidence
import SolanaAuditor.Suggestions.FixSuggestions
import SolanaAuditor.Suggestions.Estimates
import SolanaAuditor.Suggestions.Alignment
import SolanaAuditor.Sast.RunSast
import SolanaAuditor.Sast.FindingsDocument
import SolanaAuditor.Reports.SeverityTable
import SolanaAuditor.Sast.Occurrences
import SolanaAuditor.Sast.IntegrityChecks
import SolanaAuditor.Sast.FindingIds
import SolanaAuditor.Sast.RootSpellings
import SolanaAuditor.Sast.RuleCoverage
import SolanaAuditor.Runners.QedIntegration
import SolanaAuditor.Runners.QedVerdict
import SolanaAuditor.Runners.FormalVerification
import SolanaAuditor.Runners.FormalVerdict
import SolanaAuditor.Runners.AnchorTests
import SolanaAuditor.Runners.AnchorVerdict
import SolanaAuditor.Fingerprint.ProtocolFingerprint
import SolanaAuditor.Fingerprint.ScanVerdict
import SolanaAuditor.Cpi.CpiGraph
import SolanaAuditor.Cpi.GraphIntegrity
import SolanaAuditor.Sarif.SarifCore
import SolanaAuditor.Sarif.References
import SolanaAuditor.Sarif.WellFormed
import SolanaAuditor.Reports.LevelCounts
import SolanaAuditor.Reports.Dashboard
import SolanaAuditor.Suggestions.ExploitMetadata
import SolanaAuditor.Suggestions.OutputFiles
import SolanaAuditor.Suggestions.RegressionTests
import SolanaAuditor.Suggestions.OutputPaths
import SolanaAuditor.Suggestions.RegressionFiles
import SolanaAuditor.Suggestions.RegressionModules
import SolanaAuditor.Suggestions.Validation
import SolanaAuditor.Reports.Triage
import SolanaAuditor.Reports.TriageOrder
import SolanaAuditor.Reports.TriageRows
import SolanaAuditor.Reports.TriageRuns
import SolanaAuditor.Reports.TriageFilters
import SolanaAuditor.Reports.TriageRecompute
import SolanaAuditor.Reports.TriageOpen
import SolanaAuditor.Reports.TriageScores
import SolanaAuditor.Reports.AuditReport
import SolanaAuditor.Reports.CountAgreement
import SolanaAuditor.Reports.Comparison
import SolanaAuditor.Reports.Partition
import SolanaAuditor.Reports.ReportCheck
import SolanaAuditor.Reports.ReportReaders
import SolanaAuditor.Reports.Sections
import SolanaAuditor.Reports.ReadBack
import SolanaAuditor.Reports.ReadBackVerdict
import SolanaAuditor.Reports.SectionIsolation
import SolanaAuditor.Lib.Lines
import SolanaAuditor.Reports.AuditRun
import SolanaAuditor.Reports.ReportHeadings
import SolanaAuditor.Fingerprint.SignatureDb
import SolanaAuditor.Fingerprint.InstructionNames
import SolanaAuditor.Suggestions.SafeDump
import SolanaAuditor.Suggestions.FindingIdCheck
import SolanaAuditor.Fingerprint.Evidence
import SolanaAuditor.Fingerprint.PatternVerdict
import SolanaAuditor.Lib.CheckedWords
import SolanaAuditor.Lib.SharePool
import SolanaAuditor.Klend.Fraction
import SolanaAuditor.Lib.Knots
import SolanaAuditor.Klend.BorrowRateCurve
import SolanaAuditor.Klend.CurveShape
import SolanaAuditor.Klend.WithdrawalCaps
import SolanaAuditor.Klend.CapRuns
import SolanaAuditor.Klend.Reserve
import SolanaAuditor.Klend.Operations
import SolanaAuditor.Klend.WithdrawTickets
import SolanaAuditor.Klend.Handlers
import SolanaAuditor.Klend.ExchangeRate
import SolanaAuditor.Klend.Accounting
import SolanaAuditor.Klend.Settlements
import SolanaAuditor.Klend.ReserveRuns
import SolanaAuditor.Klend.ShareValue
import SolanaAuditor.Klend.Redemption
import SolanaAuditor.Klend.TicketQueue
import SolanaAuditor.Klend.QueueRuns
