import SheetSchema.Source
import Std.Data.HashMap

/-!
Plain grids: sheets whose cells show what they were given and never change. Every row and column
can be looked at, and a cell that was not given shows the empty text.
-/
namespace SheetSchema

structure Grid where
  sheets : List String
  rowExtent : String → Int
  shown : String → Int → Int → Value

namespace Grid

/-- A sheet of a grid, cell by cell; a later cell wins over an earlier one in its place. -/
structure Listing where
  name : String
  cells : List (Int × Int × Value)
  extent : Option Int := none

/-- The extent that was given, or else the greatest row with a cell, zero if there is none. -/
def Listing.rowExtent (sheet : Listing) : Int :=
  sheet.extent.getD ((sheet.cells.map (·.1)).max?.getD 0)

/-- The cells by their places. -/
def Listing.index (sheet : Listing) : Std.HashMap (Int × Int) Value :=
  sheet.cells.foldl (fun index cell => index.insert (cell.1, cell.2.1) cell.2.2) {}

/-- The grid of a list of sheets; a later sheet wins over an earlier one of its name. -/
def ofListings (sheets : List Listing) : Grid :=
  let indexed := sheets.reverse.map fun sheet => (sheet.name, sheet.rowExtent, sheet.index)
  { sheets := sheets.map (·.name)
    rowExtent := fun name => ((indexed.lookup name).map (·.1)).getD 0
    shown := fun name row col =>
      ((indexed.lookup name).bind (·.2[(row, col)]?)).getD (.str "") }

/-- A grid as a source. Looking at it never fails and leaves any state as it is. -/
def source {σ : Type} (grid : Grid) : Source σ where
  sheets := grid.sheets
  rowExtent name _ := .ok (grid.rowExtent name)
  shown name row col s := (.ok (grid.shown name row col), s)
  recalculate _ s := s

end Grid

end SheetSchema
