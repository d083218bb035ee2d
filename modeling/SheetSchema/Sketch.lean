import SheetSchema.Node

/-!
The forest of a sheet while its rows are entered. Groups are known by their paths, and a row
whose path was named before goes into the groups that are there. Fields are never merged, with
groups or with each other. New nodes come last among their siblings.
-/
namespace SheetSchema

/-- A node of a sketch: a group, which later rows may enter, or a part of a finished field. -/
inductive SketchNode
  | group (name : Value)
  | field (node : Node)
  deriving DecidableEq, Repr

/-- Whether a node is the group of a name. -/
def SketchNode.isGroup (name : Value) : SketchNode → Bool
  | group other => other.equals name
  | field _ => false

namespace Sketch

/-- Groups nested along a path, with a forest inside the last one. -/
def nest (path : List Value) (inside : Forest SketchNode) : Forest SketchNode :=
  path.foldr (fun name inner => .tree (.group name) inner) inside

/-- Enter a forest under a path. -/
def enter : List Value → Forest SketchNode → Forest SketchNode → Forest SketchNode
  | [], inside, forest => forest ++ inside
  | path, inside, .nil => nest path inside
  | name :: path, inside, .node value children rest =>
    if value.isGroup name then .node value (enter path inside children) rest
    else .node value children (enter (name :: path) inside rest)

/-- A row as it is entered: its path and the forest of its field, empty if it has none. -/
abbrev Entry := List Value × Forest Node

/-- The sketch of a sheet's rows. -/
def ofEntries (entries : List Entry) : Forest SketchNode :=
  entries.foldl (fun sketch entry => enter entry.1 (entry.2.map .field) sketch) .nil

/-- A sketch node as a node of the sheet. -/
def toNode (sheet : String) : SketchNode → Node
  | .group name => { name, template := .str sheet }
  | .field node => node

/-- The forest of a sheet's rows. -/
def assemble (sheet : String) (entries : List Entry) : Forest Node :=
  (ofEntries entries).map (toNode sheet)

end Sketch

end SheetSchema
