import SheetSchema.Text.Digit
import SheetSchema.Text.Occurrence

/-!
Parametric descriptions: `PD:xxx:`, decimal digits, ASCII letters and a dollar sign. In the
description of a referenced field, `xxx` stands for the sub-process and `yy` for the notes of
the field's row.
-/
namespace SheetSchema.Placeholder

/-- Letters of ASCII alone. -/
def isLetter (c : Char) : Bool := ('a' ≤ c && c ≤ 'z') || ('A' ≤ c && c ≤ 'Z')

def frame : List Char := "PD:xxx:".toList

def subProcessToken : List Char := "xxx".toList

def notesToken : List Char := "yy".toList

/-- What follows the frame: a run of digits, a run of letters, and the closing dollar sign. -/
def isBody (body : List Char) : Bool :=
  let digits := body.takeWhile Text.isDigit
  let rest := body.dropWhile Text.isDigit
  let letters := rest.takeWhile isLetter
  !digits.isEmpty && !letters.isEmpty && rest.dropWhile isLetter == ['$']

def matches? (text : List Char) : Bool :=
  frame.isPrefixOf text && isBody (text.drop frame.length)

/-- Whether a description is parametric. -/
def holds (description : String) : Bool := matches? description.toList

/-- Put the sub-process in for `xxx`, then the row's notes for `yy`. The second pass also sees
what the first one put in; what it puts in itself stays as it is. -/
def fill (subProcess notes pattern : List Char) : List Char :=
  Text.replace notesToken notes (Text.replace subProcessToken subProcess pattern)

/-- The description that a pattern gives. -/
def resolve (pattern subProcess notes : String) : String :=
  String.ofList (fill subProcess.toList notes.toList pattern.toList)

end SheetSchema.Placeholder
