import SheetSchema.Node

/-!
The outline of a forest: a line for each node, indented by its depth.
-/
namespace SheetSchema.Outline

/-- Name, kind and type of a node, and its description if it has one. -/
def label (node : Node) : String :=
  node.name.display ++ " [" ++ node.type.kind ++
    (if node.type.name.isVoid then "]" else ": " ++ node.type.name.display ++ "]") ++
    (if node.description.isVoid then "" else " - " ++ node.description.display)

/-- An indent as often as there are levels above. -/
def margin (indent : String) (depth : Nat) : String := String.join (List.replicate depth indent)

def render (forest : Forest Node) (indent : String := "  ") : String :=
  "\n".intercalate ((forest.walkFrom 0).map fun entry => margin indent entry.1 ++ label entry.2)

/-- The margin that a value makes if it is used as an indent: texts and lists are repeated, numbers
multiplied. -/
def marginOf? : Value → (depth : Nat) → Option String
  | .str indent, depth => some (margin indent depth)
  | .cell (.int n), depth => some (toString (n * depth))
  | .cell (.bool b), depth => some (toString (if b then depth else 0))
  | .list items, depth => some (Value.list (List.replicate depth items).flatten).display
  | _, _ => none

/-- The outline with any value as its indent, if that has a use as one. -/
def renderWith? (forest : Forest Node) (indent : Value) : Option String :=
  ((forest.walkFrom 0).mapM fun entry =>
    (marginOf? indent entry.1).map (· ++ label entry.2)).map ("\n".intercalate ·)

end SheetSchema.Outline
