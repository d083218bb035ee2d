import SheetSchema.Layout
import SheetSchema.Node
import SheetSchema.Placeholder

/-!
Data rows of a definition sheet and what they mean. A row names a path of groups in its hierarchy
columns and describes at most one field by its name, type and notes. A field may refer to
another sheet, whose content then stands below it. All of this is decided by what the row shows
and the scope that it is read in, before any other sheet is looked at.

The cells of a workbook show texts, and rows of texts have a meaning in every scope that hands
texts over. A grid may show other values, too, which are used as they are where that has a
meaning.
-/
namespace SheetSchema

/-- What a compilation knows about texts and positions. -/
structure Vocabulary where
  /-- What sets the sub-process when it stands in a hierarchy or name cell. -/
  subProcesses : List Cell
  /-- The basic types; any other type is the name of a sheet. -/
  dataTypes : List Cell
  layout : Layout := {}

/-- What a row is read in: its sheet, whether this is the root, and what the reference to the
sheet hands over, which is a sub-process, null if there is none, and a description pattern. -/
structure Scope where
  sheet : String
  isRoot : Bool
  subProcess : Value
  pattern : String

/-- What a row shows; `path` holds the hierarchy values that are not absent. -/
structure Row where
  number : Int
  path : List Value
  name : Value
  type : Value
  notes : Value
  deriving DecidableEq, Repr

/-- A wish for the content of a sheet, made by a row of the sheet `referrer`. -/
structure Request where
  sheet : String
  referrer : String
  row : Int
  subProcess : Value
  pattern : String
  deriving DecidableEq, Repr

/-- What a row describes besides its path. -/
inductive Content
  | nothing
  | field
  /-- On the root sheet, a named row outside of all groups whose notes name a sheet. -/
  | notesReference
  deriving DecidableEq, Repr

namespace Row

variable (vocabulary : Vocabulary) (scope : Scope) (row : Row)

def isBasic : Bool := row.type.isAmong vocabulary.dataTypes

def content : Content :=
  if scope.isRoot ∧ row.path = [] ∧ ¬row.name.isVoid ∧ ¬row.notes.isVoid ∧
      ¬row.notes.isAmong vocabulary.dataTypes then .notesReference
  else if row.name.isVoid ∧ (¬scope.isRoot ∨ row.path = [] ∨ row.type.isVoid) then .nothing
  else .field

/-- The sub-process of the row: the last one that its path names, or else the inherited one. -/
def subProcess : Value :=
  ((row.path.filter (·.isAmong vocabulary.subProcesses)).getLast?).getD scope.subProcess

/-- The sub-process of the content below the row, which the name of the row may set as well. -/
def innerSubProcess : Value :=
  if row.name.isAmong vocabulary.subProcesses then row.name else row.subProcess vocabulary scope

/-- Whether the notes are a description pattern. -/
def hasPattern : Bool := Placeholder.holds row.notes.asText

/-- The pattern that the notes hand to the content below the row, empty if they are none. -/
def innerPattern : String := if row.hasPattern then row.notes.asText else ""

/-- The description of the row's field. A pattern that was handed over decides alone. -/
def description : Value :=
  if scope.pattern ≠ "" then
    Placeholder.resolve scope.pattern (row.subProcess vocabulary scope).asText row.notes.asText
  else if row.isBasic vocabulary then row.notes
  else if row.hasPattern then ""
  else row.notes

/-- The type of the row's field. -/
def fieldType : NodeType :=
  if row.isBasic vocabulary then .leaf row.type
  else if row.type.isVoid then .structural
  else .reference row.type

/-- Whether the values of the row have a meaning where they stand. Names of groups and fields and
types are single values, sheets are named by texts, and what goes into a description by a pattern
or may be one is a text or absent. -/
def hasMeaning : Bool :=
  row.path.all Value.isSingle &&
    match row.content vocabulary scope with
    | .nothing => true
    | .notesReference => row.notes.isText
    | .field =>
      row.name.isSingle && row.type.isSingle &&
        (row.isBasic vocabulary || row.type.asText?.isSome && row.notes.asText?.isSome) &&
        (scope.pattern = "" ||
          (row.subProcess vocabulary scope).asText?.isSome && row.notes.asText?.isSome)

/-- The node that the row describes. -/
def node? : Option Node :=
  match row.content vocabulary scope with
  | .nothing => none
  | .field => some {
      name := row.name
      type := row.fieldType vocabulary
      template := .str scope.sheet
      description := row.description vocabulary scope }
  | .notesReference => some {
      name := row.notes
      type := .reference row.notes
      template := .str scope.sheet
      description := if row.hasPattern then "" else row.notes }

/-- The request that the row makes for the content below its node. -/
def request? : Option Request :=
  match row.content vocabulary scope with
  | .nothing => none
  | .field =>
    match row.fieldType vocabulary with
    | .reference (.str sheet) => some {
        sheet
        referrer := scope.sheet
        row := row.number
        subProcess := row.innerSubProcess vocabulary scope
        pattern := row.innerPattern }
    | _ => none
  | .notesReference =>
    match row.notes with
    | .str sheet => some {
        sheet
        referrer := scope.sheet
        row := row.number
        subProcess := row.subProcess vocabulary scope
        pattern := "" }
    | _ => none

end Row

end SheetSchema
