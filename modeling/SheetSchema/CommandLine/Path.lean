import SheetSchema.Text.Occurrence

/-!
Paths of files. A path is a row of names between slashes, each of which leads from one place to
the next: an empty name and a single dot stay where they are, two dots lead back, and any other
name leads down. A place is given by the names that lead down to it from the working directory,
behind the steps out of it if there are any.
-/
namespace SheetSchema.CommandLine

abbrev Place := List String

/-- The place of which all others are below. -/
def Place.root : Place := ["/"]

/-- Whether a place holds the working directory or is it. -/
def Place.isAround (place : Place) : Bool := place == root || place.all (· == "..")

/-- Whether a place is not below the working directory. -/
def Place.isOutside (place : Place) : Bool := Place.isAround (place.take 1)

/-- The place that a name leads to. -/
def Place.step (place : Place) (name : String) : Place :=
  if name = "" ∨ name = "." then place
  else if name ≠ ".." then place ++ [name]
  else if place = root then place
  else if place.isAround then place ++ [name]
  else place.dropLast

namespace Path

/-- The names on a path. -/
def names (path : String) : List String := (Text.split ['/'] path.toList).map String.ofList

/-- Where a path starts. -/
def start (path : String) : Place := if path.toList.head? = some '/' then .root else []

/-- The place that a path leads to if all directories on its way are there. -/
def place (path : String) : Place := (names path).foldl .step (start path)

/-- The directories on the way to a file, the nearest first: the beginnings of a path up to each
of its names but the last one, where a name follows. -/
def directories (path : String) : List String :=
  let names := names path
  ((List.range names.length).reverse.filter fun n => (names.take n).getLastD "" ≠ "").map fun n =>
    "/".intercalate (names.take n)

/-- The end of the last name on a path from its last dot on. A dot that only dots precede starts
none. -/
def extension (path : String) : String :=
  let name := ((names path).getLastD "").toList.dropWhile (· == '.')
  match (Text.split ['.'] name).getLast? with
  | some last => if last.length < name.length then String.ofList ('.' :: last) else ""
  | none => ""

end Path

end SheetSchema.CommandLine
