import SheetSchema.Cell

/-!
Values of any kind: single values, lists, and tables from names to values. The entries of a
configuration are values, and so is what a grid shows and what a page holds, since neither has to
come from a workbook.
-/
namespace SheetSchema

inductive Value
  | cell (c : Cell)
  | list (items : List Value)
  | table (entries : List (String × Value))
  deriving Inhabited, Repr

namespace Value

/-- Nothing, as a value. -/
@[match_pattern] abbrev null : Value := cell .null

/-- A text, as a value. -/
@[match_pattern] abbrev str (s : String) : Value := cell (.str s)

instance : Coe String Value := ⟨str⟩

mutual

/-- Equality of values is decidable, together with that of their items and entries. -/
def decEq : (v w : Value) → Decidable (v = w)
  | cell a, cell b => decidable_of_iff (a = b) (by simp)
  | list items, list others =>
    match decEqItems items others with
    | isTrue h => isTrue (by rw [h])
    | isFalse h => isFalse (by simpa using h)
  | table entries, table others =>
    match decEqEntries entries others with
    | isTrue h => isTrue (by rw [h])
    | isFalse h => isFalse (by simpa using h)
  | cell _, list _ | cell _, table _ | list _, cell _ | list _, table _ | table _, cell _
  | table _, list _ => isFalse nofun

def decEqItems : (items others : List Value) → Decidable (items = others)
  | [], [] => isTrue rfl
  | v :: rest, w :: others =>
    match decEq v w, decEqItems rest others with
    | isTrue h, isTrue t => isTrue (by rw [h, t])
    | isFalse h, _ => isFalse fun e => h (List.cons.inj e).1
    | _, isFalse t => isFalse fun e => t (List.cons.inj e).2
  | [], _ :: _ | _ :: _, [] => isFalse nofun

def decEqEntries : (entries others : List (String × Value)) → Decidable (entries = others)
  | [], [] => isTrue rfl
  | (key, v) :: rest, (other, w) :: others =>
    match instDecidableEqString key other, decEq v w, decEqEntries rest others with
    | isTrue k, isTrue h, isTrue t => isTrue (by rw [k, h, t])
    | isFalse k, _, _ => isFalse fun e => k (Prod.mk.inj (List.cons.inj e).1).1
    | _, isFalse h, _ => isFalse fun e => h (Prod.mk.inj (List.cons.inj e).1).2
    | _, _, isFalse t => isFalse fun e => t (List.cons.inj e).2
  | [], _ :: _ | _ :: _, [] => isFalse nofun

end

instance : DecidableEq Value := decEq

/-- The values that count as absent: the absent single values, the empty list and the empty
table. -/
def isVoid : Value → Bool
  | cell c => c.isVoid
  | list items => items.isEmpty
  | table entries => entries.isEmpty

/-- The text that a value counts as where a text may be left out: an absent value counts as the
empty text, and other values than texts count as none. -/
def asText? : Value → Option String
  | str s => some s
  | v => if v.isVoid then some "" else none

def asText (v : Value) : String := v.asText?.getD ""

/-- Whether a value is a single one among some others. No collection is. -/
def isAmong (cells : List Cell) : Value → Bool
  | cell c => cells.any c.equals
  | _ => false

def isText : Value → Bool
  | cell c => c.isText
  | _ => false

/-- The cell that a value is, if it is no collection. -/
def single? : Value → Option Cell
  | cell c => some c
  | _ => none

/-- A value that is no collection. -/
def isSingle : Value → Bool
  | cell _ => true
  | _ => false

/-- The members of a collection: the items of a list, the characters of a text, or the names of a
table. Other values are no collections. -/
def members? : Value → Option (List Value)
  | list items => some items
  | str s => some (s.toList.map fun c => str (String.singleton c))
  | table entries => some (entries.map fun entry => str entry.1)
  | _ => none

/-- Why a value has no two parts. -/
inductive PairError
  | notCollection
  | count (parts : Nat)
  deriving DecidableEq, Repr

def PairError.message : PairError → String
  | notCollection => "two values are expected"
  | count parts =>
    if 2 < parts then "too many values to unpack (expected 2)"
    else "not enough values to unpack (expected 2, got " ++ toString parts ++ ")"

/-- The two members of a collection. -/
def pair : Value → Except PairError (Value × Value) := fun v =>
  match v.members? with
  | some [first, second] => .ok (first, second)
  | some parts => .error (.count parts.length)
  | none => .error .notCollection

mutual

/-- The value as it appears inside a list. -/
def quoted : Value → List Char
  | cell c => c.quoted
  | list items => '[' :: quotedItems items ++ [']']
  | table entries => '\x7b' :: quotedEntries entries ++ ['\x7d']

def quotedItems : List Value → List Char
  | [] => []
  | [v] => v.quoted
  | v :: rest => v.quoted ++ ',' :: ' ' :: quotedItems rest

def quotedEntries : List (String × Value) → List Char
  | [] => []
  | [(key, v)] => Text.quote key.toList ++ ':' :: ' ' :: v.quoted
  | (key, v) :: rest =>
    Text.quote key.toList ++ ':' :: ' ' :: v.quoted ++ ',' :: ' ' :: quotedEntries rest

end

/-- The value inside a message. -/
def display : Value → String
  | cell c => c.display
  | v => String.ofList v.quoted

/-- The text that the value shows in a cell. -/
def text : Value → String
  | cell c => c.text
  | v => v.display

mutual

/-- Whether two values are the same: lists item by item, and tables name by name. -/
def equals : Value → Value → Bool
  | cell a, cell b => a.equals b
  | list items, list others => equalItems items others
  | table entries, table others => entries.length == others.length && equalEntries entries others
  | _, _ => false

def equalItems : List Value → List Value → Bool
  | [], [] => true
  | v :: rest, w :: others => v.equals w && equalItems rest others
  | _, _ => false

/-- Whether all entries are the same in a second table. -/
def equalEntries : List (String × Value) → List (String × Value) → Bool
  | [], _ => true
  | (key, v) :: rest, others =>
    (match others.lookup key with
      | some w => v.equals w
      | none => false) && equalEntries rest others

end

/-- Whether a value is among the items of a list or the names of a table, or a part of a text. It
is none if the question has no meaning: only single values are names, and only texts are parts of
texts. -/
def contains? : Value → Value → Option Bool
  | list items, v => some (items.any v.equals)
  | table entries, cell c => some (entries.any fun entry => c == .str entry.1)
  | str text, str part => some (part == "" || Text.occurs part.toList text.toList)
  | _, _ => none

@[simp] theorem asText_str (s : String) : (str s).asText = s := rfl

theorem isVoid_str (s : String) : (str s).isVoid = true ↔ s = "" := by
  simp [isVoid, Cell.isVoid]

/-- A text has the same value as itself alone. -/
@[simp] theorem equals_str {v : Value} {s : String} : v.equals (str s) = true ↔ v = str s := by
  cases v <;> simp [equals]

/-- A text is among some cells if it is one of them. -/
@[simp] theorem isAmong_str {cells : List Cell} {s : String} :
    (str s).isAmong cells = true ↔ .str s ∈ cells := by
  simp [isAmong]

end Value

end SheetSchema
