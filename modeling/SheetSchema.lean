import SheetSchema.Frame
import SheetSchema.GivenLayout
import SheetSchema.Grid
import SheetSchema.Main
import SheetSchema.NodeStore
import SheetSchema.Proofs.Building.Agreement
import SheetSchema.Proofs.Building.Nesting
import SheetSchema.Proofs.Building.RecalculatedSheets
import SheetSchema.Proofs.Building.Recalculation
import SheetSchema.Proofs.Building.Recorder
import SheetSchema.Proofs.Building.ScannedRows
import SheetSchema.Proofs.Building.SharedWorkbook
import SheetSchema.Proofs.Building.Simulation
import SheetSchema.Proofs.Building.WorkbookAccess
import SheetSchema.Proofs.Building.WorkbookOutcome
import SheetSchema.Proofs.Building.WorkbookSnapshot
import SheetSchema.Proofs.Pages.Additions
import SheetSchema.Proofs.Pages.CompiledOutcome
import SheetSchema.Proofs.Pages.CompiledPages
import SheetSchema.Proofs.Pages.Contribution
import SheetSchema.Proofs.Pages.EnclosingGroups
import SheetSchema.Proofs.Pages.Expansion
import SheetSchema.Proofs.Pages.HandedLabels
import SheetSchema.Proofs.Pages.MissingPages
import SheetSchema.Proofs.Pages.PlainPages
import SheetSchema.Proofs.Pages.ReferenceColumns
import SheetSchema.Proofs.Pages.SecondFlattening
import SheetSchema.Proofs.Pages.SheetColumns
import SheetSchema.Proofs.Pages.ShuffledPages
import SheetSchema.Proofs.Pages.SkippedContent
import SheetSchema.Proofs.Pages.StoredNodes
import SheetSchema.Proofs.Pages.SubProcesses
import SheetSchema.Proofs.Pages.Visits
import SheetSchema.Proofs.References.BuildSuccess
import SheetSchema.Proofs.References.FirstFailure
import SheetSchema.Proofs.References.NotesReference
import SheetSchema.Proofs.References.Reachability
import SheetSchema.Proofs.References.RowOrder
import SheetSchema.Proofs.References.TextGrid
import SheetSchema.Proofs.Reports.ColumnOrder
import SheetSchema.Proofs.Reports.MarkdownTables
import SheetSchema.Proofs.Reports.Splitting
import SheetSchema.Proofs.Reports.Titles
import SheetSchema.Proofs.Trees.Descriptions
import SheetSchema.Proofs.Trees.Kinds
import SheetSchema.Proofs.Trees.Paths
import SheetSchema.Proofs.Trees.Patterns
import SheetSchema.Proofs.Trees.PrefixTree
import SheetSchema.Proofs.Trees.Reoccurrence
import SheetSchema.Proofs.Trees.Shuffles
import SheetSchema.Proofs.Trees.WellTyped
