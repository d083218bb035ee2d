import SheetSchema.Text.Fold

/-!
Suggestions for a sheet name that was not found: the names that begin like it, regardless of
case.
-/
namespace SheetSchema.Suggestion

/-- How many characters of the wanted name are compared. -/
def prefixLength : Nat := 3

/-- Whether a name begins, regardless of case, with the first characters of the wanted one. -/
def isSimilar (wanted name : String) : Bool :=
  (Text.fold (wanted.toList.take prefixLength)).isPrefixOf (Text.fold name.toList)

def similar (wanted : String) (names : List String) : List String :=
  names.filter (isSimilar wanted)

end SheetSchema.Suggestion
