import SheetSchema.Report

/-!
Pages as frames: the headers and the values of each page, by name. A frame keeps the numbers of
a column in one kind: next to a float or a gap, integers are floats too, and the gap is no
number. A column keeps its cells as they are if it holds anything but numbers and gaps, or
integers of more than 64 bits.
-/
namespace SheetSchema

structure Frame where
  name : Cell
  headers : List String
  values : List (List Value)
  deriving DecidableEq, Repr

/-- Why a page has no frame. -/
inductive FrameError
  | report (error : Report.ReportError)
  /-- An integer beyond the range of floats. -/
  | integerTooLarge

namespace Frame

/-- What the cells of a column were so far. -/
structure Seen where
  gap : Bool := false
  truthValue : Bool := false
  float : Bool := false
  integer : Bool := false
  /-- An integer below zero, met before any gap. -/
  negative : Bool := false
  /-- An integer that takes all of 64 bits, met before any gap. -/
  unsigned : Bool := false
  deriving DecidableEq, Repr

/-- The integers from zero that fit into 64 bits are below this bound. -/
def wordBound : Int := Binary64.pow2 64

/-- The integers from zero that leave one of 64 bits for a sign are below this bound. -/
def signedBound : Int := Binary64.pow2 63

/-- An integer after the cells so far. Behind a gap its size does not count any more. -/
def Seen.withInteger (seen : Seen) (n : Int) : Seen :=
  if seen.gap then { seen with integer := true }
  else
    { seen with
      integer := true
      negative := seen.negative || n < 0
      unsigned := seen.unsigned || signedBound ≤ n }

/-- Whether no kind of 64-bit integers holds both an integer and those before it. -/
def Seen.exceeds (seen : Seen) (n : Int) : Bool :=
  !seen.gap && ((seen.negative && seen.unsigned) || wordBound ≤ n || n < -signedBound)

/-- Whether a column with these cells is one of floats. -/
def Seen.holdsFloats (seen : Seen) : Bool :=
  !seen.truthValue && (seen.float || (seen.integer && seen.gap))

/-- Whether a column is one of floats, decided from the top. Below a cell that settles the
question no cell is looked at. -/
def isFloats (seen : Seen) : List Value → Except FrameError Bool
  | [] => .ok seen.holdsFloats
  | .null :: rest => isFloats { seen with gap := true } rest
  | .cell (.bool _) :: rest => isFloats { seen with truthValue := true } rest
  | .cell (.float _) :: rest => isFloats { seen with float := true } rest
  | .cell (.int n) :: rest =>
    if Binary64.ofInt n = .infinite (n < 0) then .error .integerTooLarge
    else if (seen.withInteger n).exceeds n then .ok false
    else isFloats (seen.withInteger n) rest
  | _ :: _ => .ok false

def asFloat : Value → Value
  | .cell (.int n) => .cell (.float (.ofInt n))
  | .null => .cell (.float .nan)
  | v => v

/-- Rows of values, with the numbers of each column in one kind. -/
def unify (rows : List (List Value)) : Except FrameError (List (List Value)) :=
  ((List.range Report.headers.length).mapM fun column =>
    isFloats {} (rows.map (·.getD column .null))).map fun floats =>
      rows.map (List.zipWith (fun float v => if float then asFloat v else v) floats)

def ofPage (page : Page) : Except FrameError Frame := do
  let rows ← (page.rows.mapM Report.values).mapError .report
  return { name := page.name, headers := Report.headers, values := ← unify rows }

end Frame

/-- The frames of a page set, in the order of its pages. -/
def PageSet.frames (pages : PageSet) : Except FrameError (List Frame) :=
  pages.pages.mapM Frame.ofPage

end SheetSchema
