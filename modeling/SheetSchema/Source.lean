import SheetSchema.Value

/-!
Sources of definition sheets. A source has a fixed list of sheets and a state `σ`; looking at a
cell may change the state, also when it fails.
-/
namespace SheetSchema

/-- The last row that a worksheet can have. -/
def lastSheetRow : Int := 1048576

/-- Why a cell or a sheet cannot be looked at. -/
inductive AccessError
  | missingSheet (name : String)
  /-- A row or a column below one. -/
  | outsideSheet
  /-- A row below the last one that a worksheet can have. -/
  | belowSheet (row : Int)
  /-- A row or a column that is no number. -/
  | noPosition
  deriving DecidableEq, Repr

def AccessError.message : AccessError → String
  | missingSheet name => "Worksheet " ++ name ++ " does not exist."
  | outsideSheet => "Row or column values must be at least 1"
  | belowSheet row =>
    "Row numbers must be between 1 and " ++ toString lastSheetRow ++ ". Row number supplied was " ++
      toString row
  | noPosition => "a row or a column is not a number"

structure Source (σ : Type) where
  sheets : List String
  /-- The last row of a sheet. -/
  rowExtent : String → σ → Except AccessError Int
  /-- What a cell shows, at a row and a column of a sheet. -/
  shown : String → Int → Int → σ → Except AccessError Value × σ
  /-- Bring the values of a sheet up to date. -/
  recalculate : String → σ → σ

end SheetSchema
