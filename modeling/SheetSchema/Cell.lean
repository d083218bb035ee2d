import SheetSchema.Binary64
import SheetSchema.Text.Occurrence
import SheetSchema.Text.Quoted

/-!
What a worksheet cell holds, and the ways in which it is written: `text` is what the cell shows
on its sheet, `display` is how the value appears inside a message or a table, and `quoted` how it
appears there as a part of a list.
-/
namespace SheetSchema

structure Date where
  year : Nat
  month : Nat
  day : Nat
  deriving DecidableEq, Repr

structure TimeOfDay where
  hour : Nat
  minute : Nat
  second : Nat
  microsecond : Nat
  deriving DecidableEq, Repr

/-- A span of time, which reaches back if it is below zero. -/
structure Duration where
  microseconds : Int
  deriving DecidableEq, Repr

namespace Duration

def secondsPerDay : Nat := 24 * 60 * 60

/-- The whole days, rounded down. -/
def days (d : Duration) : Int := d.microseconds / 1000000 / secondsPerDay

/-- The whole seconds behind the days. -/
def seconds (d : Duration) : Nat := (d.microseconds / 1000000 % secondsPerDay).toNat

/-- The microseconds behind the seconds. -/
def fraction (d : Duration) : Nat := (d.microseconds % 1000000).toNat

end Duration

/-- A number with zeros in front up to `width` digits. -/
def paddedNumber (width n : Nat) : String :=
  let digits := Nat.repr n
  String.ofList (List.replicate (width - digits.length) '0') ++ digits

/-- Year, month and day, of four, two and two digits. -/
def Date.text (d : Date) : String :=
  paddedNumber 4 d.year ++ "-" ++ paddedNumber 2 d.month ++ "-" ++ paddedNumber 2 d.day

/-- Microseconds behind a point, when there are any. -/
def fractionText (microsecond : Nat) : String :=
  if microsecond = 0 then "" else "." ++ paddedNumber 6 microsecond

/-- Hours, minutes and seconds; microseconds follow when there are any. -/
def TimeOfDay.text (t : TimeOfDay) : String :=
  paddedNumber 2 t.hour ++ ":" ++ paddedNumber 2 t.minute ++ ":" ++ paddedNumber 2 t.second ++
    fractionText t.microsecond

/-- Days when there are any, then hours, minutes and seconds; microseconds follow when there are
any. The hours have no zero in front. -/
def Duration.text (d : Duration) : String :=
  (if d.days = 0 then ""
    else toString d.days ++ (if d.days.natAbs = 1 then " day, " else " days, ")) ++
  Nat.repr (d.seconds / 3600) ++ ":" ++ paddedNumber 2 (d.seconds / 60 % 60) ++ ":" ++
    paddedNumber 2 (d.seconds % 60) ++ fractionText d.fraction

/-- Read a date as `Date.text` writes it. -/
def Date.ofText? (text : String) : Option Date :=
  match (Text.split ['-'] text.toList).map Text.digits? with
  | [some year, some month, some day] => some { year, month, day }
  | _ => none

/-- Read a time as `TimeOfDay.text` writes it; the seconds may be left out. -/
def TimeOfDay.ofText? (text : String) : Option TimeOfDay :=
  let (clock, fraction) := text.toList.span (· ≠ '.')
  let microsecond :=
    if fraction.isEmpty then some 0
    else (Text.digits? (fraction.drop 1)).map (· * Nat.pow 10 (7 - fraction.length))
  match (Text.split [':'] clock).map Text.digits?, microsecond with
  | [some hour, some minute, some second], some microsecond =>
    some { hour, minute, second, microsecond }
  | [some hour, some minute], some microsecond => some { hour, minute, second := 0, microsecond }
  | _, _ => none

def TimeOfDay.midnight : TimeOfDay := ⟨0, 0, 0, 0⟩

inductive Cell
  | null
  | bool (b : Bool)
  | int (n : Int)
  | float (x : Binary64)
  | str (s : String)
  | date (d : Date)
  | dateTime (d : Date) (t : TimeOfDay)
  | time (t : TimeOfDay)
  | duration (d : Duration)
  deriving DecidableEq, Repr, Inhabited

namespace Cell

/-- The parts of a time as a list of numbers: hour and minute, then those that are needed. -/
def timeParts (t : TimeOfDay) : List Nat :=
  [t.hour, t.minute] ++
    (if t.microsecond ≠ 0 then [t.second, t.microsecond]
      else if t.second ≠ 0 then [t.second] else [])

/-- The parts of a duration that are not zero, by name, or a zero if all are. -/
def durationParts (d : Duration) : List String :=
  let parts :=
    (if d.days = 0 then [] else ["days=" ++ toString d.days]) ++
    (if d.seconds = 0 then [] else ["seconds=" ++ Nat.repr d.seconds]) ++
    (if d.fraction = 0 then [] else ["microseconds=" ++ Nat.repr d.fraction])
  if parts.isEmpty then ["0"] else parts

/-- A date, a time or a duration as it appears inside a list: its kind and its parts. -/
def moment (kind : String) (parts : List String) : List Char :=
  ("datetime." ++ kind ++ "(" ++ ", ".intercalate parts ++ ")").toList

/-- The value inside a message: nothing is `None`, and a number with a fraction part keeps it
even if the part is zero. -/
def display : Cell → String
  | null => "None"
  | bool b => if b then "True" else "False"
  | int n => toString n
  | float x => String.ofList x.literal
  | str s => s
  | date d => d.text
  | dateTime d t => d.text ++ " " ++ t.text
  | time t => t.text
  | duration d => d.text

/-- The value inside a list in a message: texts are quoted, dates, times and durations tell their
kind. -/
def quoted : Cell → List Char
  | str s => Text.quote s.toList
  | date d => moment "date" ([d.year, d.month, d.day].map Nat.repr)
  | dateTime d t => moment "datetime" (([d.year, d.month, d.day] ++ timeParts t).map Nat.repr)
  | time t => moment "time" ((timeParts t).map Nat.repr)
  | duration d => moment "timedelta" (durationParts d)
  | c => c.display.toList

/-- The text that the cell shows: nothing shows no text, an integral number all its digits, and
midnight on a date the date alone. -/
def text : Cell → String
  | null => ""
  | bool b => if b then "TRUE" else "FALSE"
  | float x =>
    match x with
    | .finite negative mantissa exponent =>
      if x.isIntegral then toString (Binary64.truncate negative mantissa exponent)
      else String.ofList x.literal
    | _ => String.ofList x.literal
  | dateTime d t => if t = .midnight then d.text else d.text ++ " " ++ t.text
  | c => c.display

/-- The values that count as absent: nothing, false, zero, the empty text and a span of no
length. -/
def isVoid : Cell → Bool
  | null => true
  | bool b => !b
  | int n => n == 0
  | float x => x.isZero
  | str s => s == ""
  | duration d => d.microseconds == 0
  | _ => false

/-- The cell that stands for all cells of the same amount: a truth value counts as one or zero,
and an integral number is an integer. -/
def amount : Cell → Cell
  | bool b => int (if b then 1 else 0)
  | float (.finite negative mantissa exponent) =>
    if (Binary64.finite negative mantissa exponent).isIntegral then
      int (Binary64.truncate negative mantissa exponent)
    else float (.finite negative mantissa exponent)
  | c => c

/-- Whether two cells have the same value: numbers and truth values are compared by their amount.
What is not a number differs even from itself. -/
def equals (a b : Cell) : Bool := a.amount == b.amount && a.amount != float .nan

/-- Whether two cells are of the same amount. This holds of every cell and itself. -/
def agrees (a b : Cell) : Bool := a.amount == b.amount

def isText : Cell → Bool
  | str _ => true
  | _ => false

/-- A text that starts with an equals sign is a formula. -/
def isFormula : Cell → Bool
  | str s => s.toList.head? == some '='
  | _ => false

/-- How many significant digits of a number are saved. -/
def savedDigits : Nat := 16

/-- How a number reads after it was saved. It is an integer if its digits tell so without an
exponent, which they have from 17 digits before the point on. What is not finite is lost. -/
def savedNumber : Binary64 → Cell
  | .finite negative mantissa exponent =>
    if mantissa = 0 then int 0
    else
      let (digits, scale) := Binary64.significant savedDigits mantissa exponent
      if 0 ≤ scale ∧ (Nat.repr digits).length + scale ≤ savedDigits then
        let size := digits * Binary64.pow10 scale
        int (if negative then -(size : Int) else size)
      else float (Binary64.ofDecimal negative digits scale)
  | _ => null

/-- The integers that are saved digit by digit are below this bound. Greater ones are saved as the
float next to them. -/
def exactBound : Nat := Binary64.pow10 15

/-- A text with a line feed for every line end, however it is marked. -/
def lineFeeds : List Char → List Char
  | [] => []
  | '\r' :: '\n' :: rest => '\n' :: lineFeeds rest
  | c :: rest => (if c = '\r' then '\n' else c) :: lineFeeds rest

/-- How the cell reads after it was saved: an empty text reads as nothing, the line ends of other
texts become line feeds, a number reads by its first digits, and a date as its midnight. -/
def saved : Cell → Cell
  | str s => if s = "" then null else str (String.ofList (lineFeeds s.toList))
  | int n => if n.natAbs < exactBound then int n else savedNumber (.ofInt n)
  | float x => savedNumber x
  | date d => dateTime d .midnight
  | c => c

/-- Whether the cell can be saved, as all but integers beyond the range of floats can. -/
def isSavable : Cell → Bool
  | int n => Binary64.ofInt n != .infinite (n < 0)
  | _ => true

@[simp] theorem text_str (s : String) : (str s).text = s := rfl

@[simp] theorem display_str (s : String) : (str s).display = s := rfl

@[simp] theorem amount_str (s : String) : (str s).amount = str s := rfl

theorem amount_eq_str {c : Cell} {s : String} : c.amount = str s ↔ c = str s := by
  cases c with
  | float x =>
    cases x with
    | finite => simp only [amount]; split <;> simp
    | _ => simp [amount]
  | _ => simp [amount]

@[simp] theorem agrees_refl (c : Cell) : c.agrees c = true := by simp [agrees]

/-- A text agrees with itself alone. -/
@[simp] theorem agrees_str {c : Cell} {s : String} : c.agrees (str s) = true ↔ c = str s := by
  simp [agrees, amount_eq_str]

@[simp] theorem str_agrees {c : Cell} {s : String} : (str s).agrees c = true ↔ c = str s := by
  rw [agrees, beq_iff_eq, eq_comm, amount_str, amount_eq_str]

/-- A text without carriage returns keeps its line ends. -/
theorem lineFeeds_eq_self {s : List Char} (h : '\r' ∉ s) : lineFeeds s = s := by
  induction s with
  | nil => rfl
  | cons c rest ih =>
    simp only [List.mem_cons, not_or] at h
    rw [lineFeeds, ih h.2, if_neg (Ne.symm h.1)]
    intro _ hc
    exact absurd hc.symm h.1

/-- A text has the same value as itself alone. -/
@[simp] theorem equals_str {c : Cell} {s : String} : c.equals (str s) = true ↔ c = str s := by
  constructor
  · intro h
    simp only [equals, amount_str, Bool.and_eq_true, beq_iff_eq] at h
    exact amount_eq_str.1 h.1
  · rintro rfl
    simp [equals]

@[simp] theorem str_equals {c : Cell} {s : String} : (str s).equals c = true ↔ c = str s := by
  constructor
  · intro h
    simp only [equals, amount_str, Bool.and_eq_true, beq_iff_eq] at h
    exact amount_eq_str.1 h.1.symm
  · rintro rfl
    simp [equals]

end Cell

end SheetSchema
