import SheetSchema.Text.Numeral

/-!
Binary floating point numbers of 64 bits, exactly: a finite number is a sign and `mantissa · 2 ^
exponent`. Reading a decimal literal rounds to the nearest number, a tie to the even mantissa.
Writing gives the fewest digits that read back, the nearest such decimal if there are several,
positionally for exponents from -4 to 15.
-/
namespace SheetSchema

/-- A finite number has a mantissa below `2 ^ 53` and an exponent from -1074 to 971; the mantissa
is at least `2 ^ 52` unless the exponent is -1074. -/
inductive Binary64
  | finite (negative : Bool) (mantissa : Nat) (exponent : Int)
  | infinite (negative : Bool)
  | nan
  deriving DecidableEq, Repr, Inhabited

namespace Binary64

/-- Two to an exponent, one for a negative exponent. -/
def pow2 (exponent : Int) : Nat := Nat.pow 2 exponent.toNat

/-- Ten to an exponent, one for a negative exponent. -/
def pow10 (exponent : Int) : Nat := Nat.pow 10 exponent.toNat

/-- The quotient rounded to the nearest integer, a tie to the even one. -/
def roundDiv (num den : Nat) : Nat :=
  let q := num / den
  let twice := 2 * (num % den)
  if twice < den ∨ (twice = den ∧ q % 2 = 0) then q else q + 1

/-- The greatest `k` with `2 ^ k ≤ num / den`. -/
def floorLog2 (num den : Nat) : Int :=
  let guess : Int := (num.log2 : Int) - den.log2
  let fits := if 0 ≤ guess then den * pow2 guess ≤ num else den ≤ num * pow2 (-guess)
  if fits then guess else guess - 1

/-- The number nearest to the positive fraction `num / den`. -/
def ofRatio (negative : Bool) (num den : Nat) : Binary64 :=
  let exponent := max (-1074) (floorLog2 num den - 52)
  let mantissa :=
    if 0 ≤ exponent then roundDiv num (den * pow2 exponent)
    else roundDiv (num * pow2 (-exponent)) den
  let (mantissa, exponent) :=
    if mantissa = pow2 53 then (pow2 52, exponent + 1) else (mantissa, exponent)
  if exponent ≤ 971 then .finite negative mantissa exponent else .infinite negative

/-- The number nearest to `digits · 10 ^ scale`. Scales far outside the range of the format are
decided by their size. -/
def ofDecimal (negative : Bool) (digits : Nat) (scale : Int) : Binary64 :=
  let size : Int := digits.log2 / 3 + 1 + scale
  if digits = 0 ∨ size + 400 < 0 then .finite negative 0 (-1074)
  else if 400 < scale then .infinite negative
  else if 0 ≤ scale then ofRatio negative (digits * pow10 scale) 1
  else ofRatio negative digits (pow10 (-scale))

/-- The number nearest to an integer. -/
def ofInt (n : Int) : Binary64 := ofDecimal (n < 0) n.natAbs 0

/-- A literal without its sign: digits with an optional fraction and an optional exponent. Single
underscores may stand between digits. -/
def unsignedLiteral? (negative : Bool) (text : List Char) : Option Binary64 := do
  let (significand, power) := text.span (· ≠ 'e')
  let (whole, fraction) := significand.span (· ≠ '.')
  let fraction := fraction.drop 1
  let places := (fraction.filter (· ≠ '_')).length
  let scale ← if power.isEmpty then some 0 else Text.integer? (power.drop 1)
  let digits ← Text.digits? (whole ++ fraction)
  return ofDecimal negative digits (scale - places)

/-- The number that a literal writes: a decimal literal, an infinity or `nan`, with an optional
sign and blanks around it. Capitals count as small letters. -/
def ofLiteral? (text : List Char) : Option Binary64 :=
  let (negative, rest) :=
    match (Text.trim text).map Char.toLower with
    | '-' :: rest => (true, rest)
    | '+' :: rest => (false, rest)
    | rest => (false, rest)
  match String.ofList rest with
  | "inf" => some (.infinite negative)
  | "infinity" => some (.infinite negative)
  | "nan" => some .nan
  | _ => unsignedLiteral? negative rest

/-- The integer of a finite number, its fraction cut off. -/
def truncate (negative : Bool) (mantissa : Nat) (exponent : Int) : Int :=
  let size := if 0 ≤ exponent then mantissa * pow2 exponent
    else mantissa / pow2 (-exponent)
  if negative then -(size : Int) else size

def isIntegral : Binary64 → Bool
  | .finite _ mantissa exponent => 0 ≤ exponent || mantissa % pow2 (-exponent) == 0
  | _ => false

def isZero : Binary64 → Bool
  | .finite _ mantissa _ => mantissa == 0
  | _ => false

/-- `mantissa · 2 ^ exponent / 10 ^ scale` as a fraction of natural numbers. -/
def scaled (mantissa : Nat) (exponent scale : Int) : Nat × Nat :=
  (mantissa * pow2 exponent * pow10 (-scale), pow2 (-exponent) * pow10 scale)

/-- The greatest `k` with `10 ^ k ≤ mantissa · 2 ^ exponent`, for a mantissa that is not zero. -/
def floorLog10 (mantissa : Nat) (exponent : Int) : Int :=
  let guess := (((mantissa.log2 : Int) + exponent) * 30103).fdiv 100000 - 1
  let fits (k : Int) : Bool :=
    let (num, den) := scaled mantissa exponent k
    den ≤ num
  ((List.range 4).map fun (i : Nat) => guess + i).foldl (fun best k => if fits k then k else best)
    guess

/-- The multiple of `10 ^ scale` nearest to the number among those that read back as it. The
bounds are the halves between the number and its neighbours, in quarters of its last place;
they read back if the mantissa is even. -/
def nearestOnGrid? (mantissa : Nat) (exponent scale : Int) : Option Nat :=
  let below := if mantissa = pow2 52 ∧ -1074 < exponent then 1 else 2
  let (num, den) := scaled (4 * mantissa) (exponent - 2) scale
  let (unit, _) := scaled 1 (exponent - 2) scale
  let reads (c : Nat) : Bool :=
    let lo := num - below * unit
    let hi := num + 2 * unit
    if mantissa % 2 = 0 then lo ≤ c * den && c * den ≤ hi else lo < c * den && c * den < hi
  let floor := num / den
  match reads floor, reads (floor + 1) with
  | true, true => some (roundDiv num den)
  | true, false => some floor
  | false, true => some (floor + 1)
  | false, false => none

/-- The shortest decimal that reads back: its digits as a number and the scale of the last one. -/
def shortest (mantissa : Nat) (exponent : Int) : Nat × Int :=
  let top := floorLog10 mantissa exponent
  let hit := (List.range 17).findSome? fun (i : Nat) =>
    (nearestOnGrid? mantissa exponent (top - i)).map fun c => (c, top - i)
  hit.getD (0, 0)

/-- The digits without the zeros at the end, with the scale of the last one kept. -/
def stripZeros : (fuel : Nat) → Nat → Int → Nat × Int
  | fuel + 1, n, scale => if n % 10 = 0 then stripZeros fuel (n / 10) (scale + 1) else (n, scale)
  | 0, n, scale => (n, scale)

/-- The first `count` significant digits of a number that is not zero, rounded to the nearest and
without zeros at the end, as a number and the scale of the last one. -/
def significant (count mantissa : Nat) (exponent : Int) : Nat × Int :=
  let scale := floorLog10 mantissa exponent + 1 - count
  let (num, den) := scaled mantissa exponent scale
  stripZeros (count + 1) (roundDiv num den) scale

/-- The decimal text of digits `n`, not ending in zero, with the last at `scale`. -/
def decimalText (n : Nat) (scale : Int) : List Char :=
  let ds := (Nat.repr n).toList
  let point : Int := ds.length + scale
  if -4 < point ∧ point ≤ 16 then
    if point ≤ 0 then '0' :: '.' :: List.replicate (-point).toNat '0' ++ ds
    else if 0 ≤ scale then ds ++ List.replicate scale.toNat '0' ++ ['.', '0']
    else ds.take point.toNat ++ '.' :: ds.drop point.toNat
  else
    let power := point - 1
    let size := (Nat.repr power.natAbs).toList
    let fraction := if ds.length = 1 then [] else '.' :: ds.drop 1
    ds.take 1 ++ fraction ++ 'e' :: (if power < 0 then '-' else '+') ::
      (if size.length = 1 then '0' :: size else size)

/-- The text that reads back as the number. -/
def literal : Binary64 → List Char
  | .nan => ['n', 'a', 'n']
  | .infinite negative => if negative then ['-', 'i', 'n', 'f'] else ['i', 'n', 'f']
  | .finite negative mantissa exponent =>
    let size :=
      if mantissa = 0 then ['0', '.', '0']
      else
        let (n, scale) := shortest mantissa exponent
        let (n, scale) := stripZeros 20 n scale
        decimalText n scale
    if negative then '-' :: size else size

end SheetSchema.Binary64
