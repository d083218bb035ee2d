import SheetSchema.Text.Fold
import SheetSchema.Value

/-!
Worksheet titles. A title has 1 to 31 characters, none of which is reserved, and differs from the
other titles of its workbook regardless of case. A title that is taken gets a number at its end,
the smallest free one from 2 on, for which it is cut if need be.
-/
namespace SheetSchema.Title

def maxLength : Nat := 31

def isReserved (c : Char) : Bool := "[]:*?/\\".toList.contains c

/-- A character of a name as its title has it. -/
def allowed (c : Char) : Char := if isReserved c then '_' else c

/-- A name of allowed characters as a title. An empty name has a title too. -/
def fit (name : List Char) : List Char :=
  (if name.isEmpty then "Page".toList else name).take maxLength

/-- A name as a title: reserved characters are replaced. -/
def plain (name : List Char) : List Char := fit (name.map allowed)

def suffixOf (n : Nat) : List Char := '~' :: (Nat.repr n).toList

/-- The `n`th candidate for a title: the first is the title itself, the others are numbered. -/
def candidate (title : List Char) (n : Nat) : List Char :=
  if n ≤ 1 then title
  else title.take (maxLength - (suffixOf n).length) ++ suffixOf n

/-- What titles are compared by. -/
def key (title : List Char) : String := String.ofList (Text.fold title)

/-- The first candidate whose key is not among the used ones. One of the first
`used.length + 2` candidates is free, since all numbered ones differ. -/
def free (used : List String) (title : List Char) : List Char :=
  let n := (List.range' 1 (used.length + 2)).find? fun n =>
    !used.contains (key (candidate title n))
  candidate title (n.getD 1)

/-- The title for a name, and the keys used after it was given. -/
def next (used : List String) (name : List Char) : List Char × List String :=
  let title := free used (plain name)
  (title, key title :: used)

/-- A text that is a part of a name. Only one that is a single character is looked at. -/
def part? : Value → Option (List Char)
  | .str s =>
    match s.toList with
    | [c] => some [allowed c]
    | text => some text
  | _ => none

/-- `next` for a name that is given by its parts, which have to be texts. A text is given by its
characters. -/
def nextOf? (used : List String) (name : Value) : Option (List Char × List String) := do
  let parts ← (← name.members?).mapM part?
  let title := free used (fit parts.flatten)
  return (title, key title :: used)

/-- The titles for names that are titled one after another. -/
def all (used : List String) : List (List Char) → List (List Char)
  | [] => []
  | name :: names =>
    let (title, used) := next used name
    title :: all used names

end SheetSchema.Title
