import SheetSchema.Journal
import SheetSchema.Node
import SheetSchema.Page
import Std.Data.HashMap

/-!
Flattening a forest onto pages, one page for each template. A node without children is simple
and becomes a column on the page of its template. A node that shares its template with one of
its children is a group: it writes nothing and hands its labels down. Any other node is complex:
it writes a column for each template of its children, creates the missing pages for them, and is
entered only if it created one, since a page that was there has been filled from the same
template before.

Nodes have keys. The labels handed to a node belong to its key and stay with it, so that nodes
with the same key share them, also between two runs.
-/
namespace SheetSchema

/-- Name and description of a group. -/
abbrev Label := Value × Value

/-- The names and descriptions of labels in one list. -/
def flatLabels {α : Type} (labels : List (α × α)) : List α :=
  labels.flatMap fun label => [label.1, label.2]

inductive Kind
  | simple
  | group
  /-- With the templates of the children, in order of first appearance. -/
  | complex (templates : List Cell)
  deriving DecidableEq, Repr

/-- The members of a list that do not agree with an earlier one. -/
def distinct (items : List Cell) : List Cell :=
  items.foldl (fun seen item => if seen.any (·.agrees item) then seen else seen ++ [item]) []

/-- The kind of a node with a template and the templates of its children. There is none if these
should name pages and one of them is a collection. -/
def classify (template : Value) (childTemplates : List Value) : Option Kind :=
  if childTemplates = [] then some .simple
  else if childTemplates.any (·.equals template) then some .group
  else (childTemplates.mapM Value.single?).map fun names => .complex (distinct names)

/-- A node with its key. -/
structure Vertex extends Node where
  key : Nat
  deriving DecidableEq, Repr

/-- A forest as vertices, each with a key of its own. -/
def Forest.vertices (forest : Forest Node) : Forest Vertex :=
  (forest.numberFrom 0).map fun entry => { toNode := entry.2, key := entry.1 }

/-- The labels of the keys that have some. -/
abbrev Labels := Std.HashMap Nat (List Label)

namespace Labels

def get (labels : Labels) (key : Nat) : List Label := labels.getD key []

def append (labels : Labels) (key : Nat) (more : List Label) : Labels :=
  labels.insert key (labels.get key ++ more)

end Labels

/-- Why a forest cannot be flattened. -/
inductive FlattenError
  /-- A simple node whose template has no page. -/
  | missingPage (page : Cell) (tag : Value)
  /-- A template that should name a page and is a collection. -/
  | namelessTemplate
  deriving DecidableEq, Repr

/-- The state of a flattening, which outlives its failure. -/
structure Flattening where
  pages : PageSet
  labels : Labels := {}
  journal : Journal := #[]

abbrev FlattenM := ExceptT FlattenError (StateM Flattening)

namespace Flattening

/-- The column of a node with the given labels. -/
def column (vertex : Vertex) (dataType : Value) (labels : List Label) : Column :=
  { tagName := vertex.name
    dataType
    description := vertex.description
    labels := .list (flatLabels labels) }

/-- Append the labels of a group and the group itself to the labels of a child. -/
def handDown (group child : Vertex) (state : Flattening) : Flattening :=
  { state with
    labels := state.labels.append child.key
      (state.labels.get group.key ++ [(group.name, group.description)]) }

/-- The name of a template's page. -/
def pageName (template : Value) : FlattenM Cell :=
  match template with
  | .cell name => return name
  | _ => throw .namelessTemplate

/-- Write the column of a simple node on a page. -/
def writeSimple (vertex : Vertex) (page : Cell) : FlattenM Unit := do
  let state ← get
  if state.pages.contains page then
    let column := column vertex vertex.type.name (state.labels.get vertex.key)
    set { state with pages := state.pages.addRows page [column] }
  else throw (.missingPage page vertex.name)

/-- Write the columns of a complex node on a page, if there is one, and create the pages that are
missing. -/
def writeComplex (vertex : Vertex) (page : Cell) (templates : List Cell) (state : Flattening) :
    Flattening :=
  let labels := state.labels.get vertex.key
  let state :=
    if state.pages.contains page then
      { state with
        pages := state.pages.addRows page
          (templates.map fun template => column vertex (.cell template) labels) }
    else
      { state with
        journal := state.journal ++
          templates.map fun template => Event.columnWithoutPage page vertex.name template }
  { state with pages := state.pages.createAll templates }

/-- Whether the children of a node are flattened, and if so, which group hands its labels to
them. -/
inductive Descent
  | stay
  | enter (group : Option Vertex)

/-- Write what a node contributes, given the templates of its children. -/
def visit (vertex : Vertex) (childTemplates : List Value) : FlattenM Descent := do
  match classify vertex.template childTemplates with
  | none => throw .namelessTemplate
  | some .simple =>
    writeSimple vertex (← pageName vertex.template)
    return .stay
  | some .group => return .enter (some vertex)
  | some (.complex templates) =>
    let page ← pageName vertex.template
    let before := (← get).pages
    modify (writeComplex vertex page templates)
    if templates.all before.contains then
      modify fun state =>
        { state with journal := state.journal.push (.childrenSkipped vertex.name templates) }
      return .stay
    else return .enter none

/-- Visit a child, to which its group hands its labels first if there is one. -/
def visitBelow (group : Option Vertex) (vertex : Vertex) (childTemplates : List Value) :
    FlattenM Descent := do
  if let some group := group then
    modify (handDown group vertex)
  visit vertex childTemplates

/-- Flatten the nodes of a forest one after another. If they are the children of a group, it
hands its labels to each of them first. -/
def run (group : Option Vertex) : Forest Vertex → FlattenM Unit
  | .nil => pure ()
  | .node vertex children rest => do
    match ← visitBelow group vertex (children.roots.map (·.template)) with
    | .stay => pure ()
    | .enter group => run group children
    run group rest

/-- Create the page of the root template and flatten what stands below it. -/
def below (root : Value) (run : FlattenM Unit) : FlattenM Unit := do
  let page ← pageName root
  modify fun state => { state with pages := state.pages.create page }
  run
  modify fun state =>
    { state with
      journal := state.journal.push (.flattened page state.pages.size state.pages.rowCount) }

end Flattening

/-- Add the columns of a forest to a page set. -/
def flatten (forest : Forest Vertex) (state : Flattening) : Except FlattenError Unit × Flattening :=
  (Flattening.run none forest).run state

/-- Add the columns of a forest below a root template, whose page is created first. -/
def flattenFrom (root : Value) (forest : Forest Vertex) (state : Flattening) :
    Except FlattenError Unit × Flattening :=
  (Flattening.below root (Flattening.run none forest)).run state

end SheetSchema
