import SheetSchema.Text.Digit

/-!
Integer numerals: optional blanks on both sides, one optional sign, and decimal digits of any
script, between which single underscores may stand.
-/
namespace SheetSchema.Text

/-- The blanks that may surround a numeral. -/
def blankCodes : List Nat := [
  0x9, 0xa, 0xb, 0xc, 0xd, 0x20, 0x85, 0xa0, 0x1680, 0x2000, 0x2001, 0x2002, 0x2003, 0x2004,
  0x2005, 0x2006, 0x2007, 0x2008, 0x2009, 0x200a, 0x2028, 0x2029, 0x202f, 0x205f, 0x3000]

def isBlank (c : Char) : Bool := blankCodes.contains c.toNat

/-- A text without the blanks at both ends. -/
def trim (text : List Char) : List Char :=
  ((text.dropWhile isBlank).reverse.dropWhile isBlank).reverse

/-- The number that continues `value` by the digits of a text. `afterDigit` tells whether an
underscore may come next. -/
def digitsFrom? (value : Nat) (afterDigit : Bool) : List Char → Option Nat
  | [] => if afterDigit then some value else none
  | c :: rest =>
    match digitValue? c with
    | some d => digitsFrom? (10 * value + d) true rest
    | none => if afterDigit ∧ c = '_' then digitsFrom? value false rest else none

/-- The number that a text of digits writes, `none` for any other text. -/
def digits? (text : List Char) : Option Nat := digitsFrom? 0 false text

/-- A text without the sign that it may start with. -/
def unsigned : List Char → List Char
  | '-' :: rest | '+' :: rest => rest
  | text => text

/-- The number of digits at the start of a text, `count` of which are behind, up to what is
neither a digit nor an underscore. It is zero if an underscore there does not stand between two
digits. -/
def digitCountFrom (count : Nat) (afterDigit : Bool) : List Char → Nat
  | [] => if afterDigit then count else 0
  | c :: rest =>
    if isDigit c then digitCountFrom (count + 1) true rest
    else if !afterDigit then 0
    else if c = '_' then digitCountFrom count false rest
    else count

/-- The number of digits that a numeral at the start of a text has. -/
def leadingDigits (text : List Char) : Nat := digitCountFrom 0 false (unsigned (trim text))

/-- The greatest number of digits that an integer may have. -/
def maxDigits : Nat := 4300

/-- The integer that a numeral writes, `none` for a text that is no numeral. -/
def integer? (text : List Char) : Option Int :=
  match trim text with
  | '-' :: rest => (digits? rest).map fun n => -(n : Int)
  | '+' :: rest => (digits? rest).map fun n => (n : Int)
  | rest => (digits? rest).map fun n => (n : Int)

end SheetSchema.Text
