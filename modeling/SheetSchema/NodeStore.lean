import SheetSchema.Flatten

/-!
A store of nodes that are known by keys, may be shared by several parents and can be changed.
What hangs below a key is seen as a forest of vertices, in which a shared node appears once for
every way to it. Flattening follows the keys themselves, so that it also ends where a node stands
below itself.
-/
namespace SheetSchema

structure StoredNode where
  node : Node
  children : List Nat
  deriving Inhabited

structure NodeStore where
  nodes : Array StoredNode := #[]
  labels : Labels := {}

/-- The template of a node is set once. -/
structure TemplateAlreadySet where
  name : Value
  template : Value
  deriving DecidableEq, Repr

def TemplateAlreadySet.message (error : TemplateAlreadySet) : String :=
  "template of node '" ++ error.name.display ++ "' is already set to '" ++
    error.template.display ++ "'"

namespace NodeStore

/-- The store with a further node, and its key. -/
def add (store : NodeStore) (node : Node) (labels : List Label) (children : List Nat) :
    NodeStore × Nat :=
  let key := store.nodes.size
  ({ nodes := store.nodes.push { node, children }
     labels := if labels.isEmpty then store.labels else store.labels.insert key labels }, key)

def node? (store : NodeStore) (key : Nat) : Option Node := store.nodes[key]?.map (·.node)

def children (store : NodeStore) (key : Nat) : List Nat :=
  (store.nodes[key]?.map (·.children)).getD []

def modifyNode (store : NodeStore) (key : Nat) (f : Node → Node) : NodeStore :=
  { store with nodes := store.nodes.modify key fun stored => { stored with node := f stored.node } }

def setName (store : NodeStore) (key : Nat) (name : Value) : NodeStore :=
  store.modifyNode key fun node => { node with name }

def setDescription (store : NodeStore) (key : Nat) (description : Value) : NodeStore :=
  store.modifyNode key fun node => { node with description }

def setType (store : NodeStore) (key : Nat) (type : NodeType) : NodeStore :=
  store.modifyNode key fun node => { node with type }

/-- Set the template of a node that has none yet. -/
def setTemplate (store : NodeStore) (key : Nat) (template : Value) :
    Except TemplateAlreadySet NodeStore :=
  match (store.node? key).filter fun node => node.template ≠ .null with
  | some node => .error { name := node.name, template := node.template }
  | none => .ok (store.modifyNode key fun node => { node with template })

/-- Put a node last among the children of another. -/
def addChild (store : NodeStore) (key child : Nat) : NodeStore :=
  { store with
    nodes := store.nodes.modify key fun stored =>
      { stored with children := stored.children ++ [child] } }

/-- The forest of the nodes with the given keys, down to a depth. -/
def unfold (store : NodeStore) : (depth : Nat) → List Nat → Forest Vertex
  | 0, _ => .nil
  | depth + 1, keys =>
    keys.foldr
      (fun key rest =>
        match store.nodes[key]? with
        | some stored =>
          .node { toNode := stored.node, key } (store.unfold depth stored.children) rest
        | none => rest)
      .nil

/-- The forest of the nodes with the given keys. If no node is below itself, no path is longer
than the number of nodes; other paths are cut there. -/
def forest (store : NodeStore) (keys : List Nat) : Forest Vertex :=
  store.unfold store.nodes.size keys

def template (store : NodeStore) (key : Nat) : Value :=
  ((store.node? key).map (·.template)).getD .null

/-- The templates of the children of a node. -/
def childTemplates (store : NodeStore) (key : Nat) : List Value :=
  (store.children key).map store.template

/-- The kind of a node, if it has one. -/
def classify (store : NodeStore) (key : Nat) : Option Kind :=
  SheetSchema.classify (store.template key) (store.childTemplates key)

/-- Flatten the nodes with the given keys one after another, down to a depth. -/
def flattenTo (store : NodeStore) : (depth : Nat) → Option Vertex → List Nat → FlattenM Unit
  | 0, _, _ => pure ()
  | depth + 1, group, keys =>
    keys.forM fun key => do
      let some node := store.node? key | return
      match ← Flattening.visitBelow group { toNode := node, key } (store.childTemplates key) with
      | .stay => pure ()
      | .enter group => store.flattenTo depth group (store.children key)

/-- Flatten the nodes with the given keys. A complex node is entered only if it creates a page, so
that fewer complex nodes are entered on a path than there are nodes; and there are no more groups
between two of them, unless groups stand below themselves. -/
def flattenKeys (store : NodeStore) (keys : List Nat) : FlattenM Unit :=
  store.flattenTo ((store.nodes.size + 1) * (store.nodes.size + 1)) none keys

/-- Run a flattening on a page set and the labels of the store, where labels stay. -/
def runOn (store : NodeStore) (pages : PageSet) (run : FlattenM Unit) :
    Except FlattenError Unit × NodeStore × PageSet :=
  let (outcome, state) := run.run { pages, labels := store.labels }
  (outcome, { store with labels := state.labels }, state.pages)

/-- Add the columns of the nodes with the given keys to a page set. -/
def flatten (store : NodeStore) (keys : List Nat) (pages : PageSet) :
    Except FlattenError Unit × NodeStore × PageSet :=
  store.runOn pages (store.flattenKeys keys)

/-- Add the columns of the nodes with the given keys below a root template, whose page is created
first. -/
def flattenFrom (store : NodeStore) (root : Value) (keys : List Nat) (pages : PageSet) :
    Except FlattenError Unit × NodeStore × PageSet :=
  store.runOn pages (Flattening.below root (store.flattenKeys keys))

end NodeStore

end SheetSchema
