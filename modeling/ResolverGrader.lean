import ResolverGrader.Answer
import ResolverGrader.Build
import ResolverGrader.Check
import ResolverGrader.CommandLine
import ResolverGrader.Csv
import ResolverGrader.Decimal
import ResolverGrader.Dns.Message
import ResolverGrader.Dns.Name
import ResolverGrader.Dns.Name.Parser
import ResolverGrader.Dns.Name.Wire
import ResolverGrader.Dns.Record
import ResolverGrader.Dns.Record.Wire
import ResolverGrader.Duration
import ResolverGrader.Exchange
import ResolverGrader.Failure
import ResolverGrader.Host
import ResolverGrader.Host.FileSystem
import ResolverGrader.Host.Network
import ResolverGrader.IoError
import ResolverGrader.Ledger
import ResolverGrader.Listener
import ResolverGrader.Main
import ResolverGrader.Net.Address
import ResolverGrader.Plan
import ResolverGrader.Program
import ResolverGrader.Proofs.Answer.Differences
import ResolverGrader.Proofs.Answer.Mismatch
import ResolverGrader.Proofs.Answer.NormalForm
import ResolverGrader.Proofs.Answer.Numeric
import ResolverGrader.Proofs.Answer.Printing
import ResolverGrader.Proofs.Answer.Sets
import ResolverGrader.Proofs.Build.Effects
import ResolverGrader.Proofs.Build.StaleBinary
import ResolverGrader.Proofs.Check.AnswerGrading
import ResolverGrader.Proofs.Check.Misconduct
import ResolverGrader.Proofs.Check.Outcome
import ResolverGrader.Proofs.Check.PrintedAnswers
import ResolverGrader.Proofs.Check.Reasons
import ResolverGrader.Proofs.Check.Routing
import ResolverGrader.Proofs.CommandLine.AttachedValues
import ResolverGrader.Proofs.Csv.ReadBack
import ResolverGrader.Proofs.Dns.Cursor
import ResolverGrader.Proofs.Dns.Name.Compression
import ResolverGrader.Proofs.Dns.Name.Wire
import ResolverGrader.Proofs.Dns.Query
import ResolverGrader.Proofs.Dns.Record.Wire
import ResolverGrader.Proofs.Dns.Sections
import ResolverGrader.Proofs.Exchange.Fetching
import ResolverGrader.Proofs.Exchange.Receiving
import ResolverGrader.Proofs.Host.Actions
import ResolverGrader.Proofs.Host.Effects
import ResolverGrader.Proofs.Host.Removal
import ResolverGrader.Proofs.Ledger.Frame
import ResolverGrader.Proofs.Ledger.Proration
import ResolverGrader.Proofs.Ledger.Verdicts
import ResolverGrader.Proofs.Ledger.Warnings
import ResolverGrader.Proofs.Listener.Interleaving
import ResolverGrader.Proofs.Listener.Sequential
import ResolverGrader.Proofs.Listener.SingleShot
import ResolverGrader.Proofs.Net.IpAddress
import ResolverGrader.Proofs.Net.SocketAddress
import ResolverGrader.Proofs.Program.Atomicity
import ResolverGrader.Proofs.Program.Obstacles
import ResolverGrader.Proofs.Program.Phases
import ResolverGrader.Proofs.QueryDiff.Drawing
import ResolverGrader.Proofs.QueryNames.Listing
import ResolverGrader.Proofs.QueryNames.Requested
import ResolverGrader.Proofs.Report.Agreement
import ResolverGrader.Proofs.Report.Forgery
import ResolverGrader.Proofs.Report.Lines
import ResolverGrader.Proofs.Report.Quiet
import ResolverGrader.Proofs.Server.Address
import ResolverGrader.Proofs.Submission.Obstacles
import ResolverGrader.Proofs.Submission.Runs
import ResolverGrader.Proofs.SummaryTable.ReadBack
import ResolverGrader.Proofs.Text.Ascii
import ResolverGrader.Proofs.Text.Digits
import ResolverGrader.Proofs.Text.Hexadecimal
import ResolverGrader.Proofs.Text.Legible
import ResolverGrader.Proofs.Text.LetterCase
import ResolverGrader.Proofs.Text.Lines
import ResolverGrader.Proofs.Text.Lowercase
import ResolverGrader.Proofs.Text.OneLine
import ResolverGrader.Proofs.Text.Quoted
import ResolverGrader.Proofs.Text.Search
import ResolverGrader.Proofs.Text.Utf8
import ResolverGrader.Proofs.Trace.SocketThenRead
import ResolverGrader.Proofs.Trials.Effects
import ResolverGrader.Proofs.Trials.Obstacles
import ResolverGrader.Proofs.Trials.Sequence
import ResolverGrader.QueryDiff
import ResolverGrader.QueryNames
import ResolverGrader.Rehearsal
import ResolverGrader.Report
import ResolverGrader.Server
import ResolverGrader.Session
import ResolverGrader.Settings
import ResolverGrader.Submission
import ResolverGrader.SummaryTable
import ResolverGrader.Text.Digits
import ResolverGrader.Text.Lowercase
import ResolverGrader.Text.Octets
import ResolverGrader.Text.Quoted
import ResolverGrader.Text.Sorted
import ResolverGrader.Text.Split
import ResolverGrader.Text.Unicode
import ResolverGrader.Text.Utf8
import ResolverGrader.Trace
import ResolverGrader.Trial
import ResolverGrader.Trials
