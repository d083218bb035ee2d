import SheetSchema.Value

/-!
Errors of a compilation. What an error is about is told by values: where the compiler itself
reports an error, these are the names of sheets and the numbers of rows.
-/
namespace SheetSchema

inductive SchemaError
  | other (text : Value)
  /-- The root sheet is not in the workbook. -/
  | missingDefinition (sheet : Value) (suggestions : List String)
  /-- A row refers to a type that is neither basic nor a sheet. The referrer may be unknown. -/
  | unresolvedReference (sheet : Value) (suggestions : List String) (referrer row : Value)
  /-- A sheet has no row at or after its first data row. -/
  | emptyDefinition (sheet : Value)
  /-- A sheet is referred to from within its own content. -/
  | circularReference (chain : List String)
  /-- A column has no page to stand on. -/
  | missingPage (page tag : Value)
  /-- The compilation of a root sheet failed. -/
  | compilation (root : Value) (cause : SchemaError)
  deriving DecidableEq, Repr

namespace SchemaError

/-- The text for a sheet that was not found, with the names that it may have been meant for. -/
def notFound (sheet : Value) (suggestions : List String) : String :=
  "\"" ++ sheet.display ++ "\" sheet not found! Similar sheets found: " ++
    ", ".intercalate suggestions

def message : SchemaError → String
  | other text => text.display
  | missingDefinition sheet suggestions => notFound sheet suggestions
  | unresolvedReference sheet suggestions referrer row =>
    notFound sheet suggestions ++
      (if referrer = .null then ""
        else " (referenced from '" ++ referrer.display ++ "' row " ++ row.display ++ ")")
  | emptyDefinition sheet =>
    "Sheet \"" ++ sheet.display ++ "\" does not have proper data to extract"
  | circularReference chain => "Circular sheet reference: " ++ " -> ".intercalate chain
  | missingPage page tag =>
    "No page '" ++ page.display ++ "' for column '" ++ tag.display ++ "'"
  | compilation root cause => "Failed to compile '" ++ root.display ++ "': " ++ cause.message

end SchemaError

end SheetSchema
