import SheetSchema.Forest
import SheetSchema.Value

/-!
The nodes of a compiled schema. A node is a group, a field of a basic type, or a field that
refers to another definition sheet. Its name and description are what cells show.
-/
namespace SheetSchema

inductive NodeType
  /-- A node without a type of its own, which only orders others. -/
  | structural
  | leaf (dataType : Value)
  | reference (sheet : Value)
  deriving DecidableEq, Repr, Inhabited

namespace NodeType

/-- The name of the type, empty for a structural node. -/
def name : NodeType → Value
  | structural => ""
  | leaf dataType => dataType
  | reference sheet => sheet

def kind : NodeType → String
  | structural => "structural"
  | leaf _ => "leaf"
  | reference _ => "reference"

end NodeType

/-- A node; `template` names the sheet that it is defined on and is null if there is none. -/
structure Node where
  name : Value
  type : NodeType := .structural
  template : Value := .null
  description : Value := ""
  deriving DecidableEq, Repr, Inhabited

end SheetSchema
