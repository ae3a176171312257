import SchoolTimetable.Calendar
import SchoolTimetable.Clock
import SchoolTimetable.ClockTime
import SchoolTimetable.CommandLine.Arguments
import SchoolTimetable.CommandLine.ColorNames
import SchoolTimetable.CommandLine.Console
import SchoolTimetable.CommandLine.Display
import SchoolTimetable.CommandLine.Emoji
import SchoolTimetable.CommandLine.EmojiNames
import SchoolTimetable.CommandLine.Folder
import SchoolTimetable.CommandLine.Handler
import SchoolTimetable.CommandLine.Markup
import SchoolTimetable.CommandLine.Request
import SchoolTimetable.CommandLine.Run
import SchoolTimetable.CommandLine.Style
import SchoolTimetable.Config
import SchoolTimetable.Entries
import SchoolTimetable.Facts
import SchoolTimetable.Jobs.Job
import SchoolTimetable.Jobs.Registry
import SchoolTimetable.Jobs.Workers
import SchoolTimetable.Json.Basic
import SchoolTimetable.Json.Parser
import SchoolTimetable.Json.Printer
import SchoolTimetable.Main
import SchoolTimetable.Number.Decimal
import SchoolTimetable.Number.Whole
import SchoolTimetable.Problem.Basic
import SchoolTimetable.Problem.Catalog
import SchoolTimetable.Random.Script
import SchoolTimetable.Random.Source
import SchoolTimetable.Random.Twister
import SchoolTimetable.Record.Checked
import SchoolTimetable.Record.Form
import SchoolTimetable.Record.Numeral
import SchoolTimetable.Record.Quotation
import SchoolTimetable.Sample.Drawing
import SchoolTimetable.Sample.Generator
import SchoolTimetable.Sample.Settings
import SchoolTimetable.Sample.Stock
import SchoolTimetable.Score
import SchoolTimetable.Search.Acceptor
import SchoolTimetable.Search.ExactPlacement
import SchoolTimetable.Search.FirstFit
import SchoolTimetable.Search.LocalSearch
import SchoolTimetable.Search.Matching
import SchoolTimetable.Search.Move
import SchoolTimetable.Search.Operation
import SchoolTimetable.Search.Solver
import SchoolTimetable.Solution.Document
import SchoolTimetable.Solution.Extraction
import SchoolTimetable.Text.DecimalDigit
import SchoolTimetable.Text.HalfPair
import SchoolTimetable.Text.HexDigits
import SchoolTimetable.Text.Itemized
import SchoolTimetable.Text.LowerCase
import SchoolTimetable.Text.Printable
import SchoolTimetable.Text.Quoted
import SchoolTimetable.Text.Spelling
import SchoolTimetable.Timetable.Assembler
import SchoolTimetable.Timetable.Assembly
import SchoolTimetable.Timetable.Basic
import SchoolTimetable.Timetable.Constraint
import SchoolTimetable.Timetable.Director
import SchoolTimetable.Timetable.Evaluation
import SchoolTimetable.Timetable.Fault
import SchoolTimetable.Proofs.Entries.Grouping
import SchoolTimetable.Proofs.Evaluation.Pairs
import SchoolTimetable.Proofs.Evaluation.PositionSums
import SchoolTimetable.Proofs.Director.Accounting
import SchoolTimetable.Proofs.Director.Changes
import SchoolTimetable.Proofs.Timetable.Arrangement
import SchoolTimetable.Proofs.Search.Moves
import SchoolTimetable.Proofs.Search.Selection
import SchoolTimetable.Proofs.Search.Rounds
import SchoolTimetable.Proofs.Search.Placing
import SchoolTimetable.Proofs.Search.Construction
import SchoolTimetable.Proofs.Search.Runs
import SchoolTimetable.Proofs.Search.Delivery
import SchoolTimetable.Proofs.Search.Ranges
import SchoolTimetable.Proofs.Search.Completion
import SchoolTimetable.Proofs.Search.Success
import SchoolTimetable.Proofs.Timetable.Assembled
import SchoolTimetable.Proofs.Solution.Documents
import SchoolTimetable.Proofs.Solution.Resolution
import SchoolTimetable.Proofs.Evaluation.Feasibility
import SchoolTimetable.Proofs.Record.Reading
import SchoolTimetable.Proofs.Problem.Validity
import SchoolTimetable.Proofs.Timetable.LessonIds
import SchoolTimetable.Proofs.Problem.Sources
import SchoolTimetable.Proofs.Problem.Qualifications
import SchoolTimetable.Proofs.Timetable.Candidates
import SchoolTimetable.Proofs.Timetable.Lookups
import SchoolTimetable.Proofs.Timetable.Shortfalls
import SchoolTimetable.Proofs.Timetable.RecordOrder
import SchoolTimetable.Proofs.Solution.Fulfilment
import SchoolTimetable.Proofs.Search.PlainSearch
import SchoolTimetable.Proofs.Search.PlainConstruction
import SchoolTimetable.Proofs.Search.Refinement
import SchoolTimetable.Proofs.Evaluation.Weeks
import SchoolTimetable.Proofs.Solution.Calendars
import SchoolTimetable.Proofs.Evaluation.Counting
import SchoolTimetable.Proofs.Search.ExactPlacements
import SchoolTimetable.Proofs.Random.Inexhaustible
import SchoolTimetable.Proofs.Search.Endurance
import SchoolTimetable.Proofs.Record.Settings
import SchoolTimetable.Proofs.Record.Writing
import SchoolTimetable.Proofs.Record.Numerals
import SchoolTimetable.Proofs.Search.Outset
import SchoolTimetable.Proofs.Search.Assignments
import SchoolTimetable.Proofs.Search.Counters
import SchoolTimetable.Proofs.Search.Endings
import SchoolTimetable.Proofs.Solution.Outcomes
import SchoolTimetable.Proofs.Entries.Lookup
import SchoolTimetable.Proofs.Jobs.Effects
import SchoolTimetable.Proofs.Jobs.Lives
import SchoolTimetable.Proofs.Jobs.Manager
import SchoolTimetable.Proofs.Jobs.Sections
import SchoolTimetable.Proofs.Jobs.Starting
import SchoolTimetable.Proofs.Jobs.Order
import SchoolTimetable.Proofs.Jobs.Terms
import SchoolTimetable.Proofs.Jobs.Answers
import SchoolTimetable.Proofs.Jobs.LifeCycle
import SchoolTimetable.Proofs.Jobs.Performance
import SchoolTimetable.Proofs.Jobs.Requests
import SchoolTimetable.Proofs.Jobs.Closing
import SchoolTimetable.Proofs.Evaluation.Breakdown
import SchoolTimetable.Proofs.Solution.ScoreAccounts
import SchoolTimetable.Proofs.Search.Alike
import SchoolTimetable.Proofs.Search.Budgets
import SchoolTimetable.Proofs.Search.Histories
import SchoolTimetable.Proofs.Search.Tallies
import SchoolTimetable.Proofs.Search.Fallback
import SchoolTimetable.Proofs.Search.AllPlaced
import SchoolTimetable.Proofs.Search.RoomsLeft
import SchoolTimetable.Proofs.Search.Choosing
import SchoolTimetable.Proofs.Problem.CatalogDocuments
import SchoolTimetable.Proofs.Problem.RoundTrip
import SchoolTimetable.Proofs.Solution.RoundTrip
import SchoolTimetable.Proofs.Sample.Drafts
import SchoolTimetable.Proofs.Sample.Hours
import SchoolTimetable.Proofs.Sample.Coverage
import SchoolTimetable.Proofs.Timetable.Assembling
import SchoolTimetable.Proofs.Sample.Schools
import SchoolTimetable.Proofs.Search.RoomCosts
import SchoolTimetable.Proofs.Search.FirstChoice
import SchoolTimetable.Proofs.Search.FirstFitRuns
import SchoolTimetable.Proofs.Timetable.Capacity
import SchoolTimetable.Proofs.Timetable.DistinctIds
import SchoolTimetable.Proofs.Entries.Totals
import SchoolTimetable.Proofs.Timetable.Workload
import SchoolTimetable.Proofs.Timetable.Passes
import SchoolTimetable.Proofs.Search.Operations
import SchoolTimetable.Proofs.Search.Undoing
import SchoolTimetable.Proofs.Search.Refusals
import SchoolTimetable.Proofs.Search.ConstructionOrder
import SchoolTimetable.Proofs.Search.ListOrder
import SchoolTimetable.Proofs.Entries.Sorting
import SchoolTimetable.Proofs.Entries.Sharing
import SchoolTimetable.Proofs.Search.PastScores
import SchoolTimetable.Proofs.Search.WorkingScores
import SchoolTimetable.Proofs.Search.Connected
import SchoolTimetable.Proofs.Solution.Partition
import SchoolTimetable.Proofs.Text.Digits
import SchoolTimetable.Proofs.Text.LowerCase
import SchoolTimetable.Proofs.Text.Names
import SchoolTimetable.Proofs.Problem.Spellings
import SchoolTimetable.Proofs.Problem.Acceptance
import SchoolTimetable.Proofs.Sample.Grid
import SchoolTimetable.Proofs.Sample.Staff
