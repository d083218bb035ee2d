import SheetSchema.Text.Printable

/-!
Quoted text: a text between single quotes, or between double quotes when it holds a single one
and no double one, on one line and in printable characters only.
-/
namespace SheetSchema.Text

/-- The `width` last hexadecimal digits of a number, in lower case. -/
def hexDigits : (width : Nat) → Nat → List Char
  | 0, _ => []
  | width + 1, n => hexDigits width (n / 16) ++ [Nat.digitChar (n % 16)]

/-- The escape of a character that is not printable, by the shortest form that holds its code. -/
def escapeCode (code : Nat) : List Char :=
  if code ≤ 0xff then '\\' :: 'x' :: hexDigits 2 code
  else if code ≤ 0xffff then '\\' :: 'u' :: hexDigits 4 code
  else '\\' :: 'U' :: hexDigits 8 code

/-- The form of one character between quotes of the kind `mark`. -/
def quoteChar (mark c : Char) : List Char :=
  if c = mark ∨ c = '\\' then ['\\', c]
  else if c = '\n' then ['\\', 'n']
  else if c = '\r' then ['\\', 'r']
  else if c = '\t' then ['\\', 't']
  else if isPrintable c then [c]
  else escapeCode c.toNat

/-- The kind of quote that a text is put between. -/
def quoteMark (text : List Char) : Char :=
  if '\'' ∈ text ∧ '"' ∉ text then '"' else '\''

def quote (text : List Char) : List Char :=
  quoteMark text :: text.flatMap (quoteChar (quoteMark text)) ++ [quoteMark text]

end SheetSchema.Text
