/-!
Occurrences of a token in a text, taken from the left and never overlapping: `replace` exchanges
them and `split` cuts the text at them. Joining the pieces of `split` with the token gives the
text back.
-/
namespace SheetSchema.Text

/-- `replace` while the first `skip` characters still belong to the occurrence found last. -/
def replaceFrom (token new : List Char) : Nat → List Char → List Char
  | _, [] => []
  | skip + 1, _ :: rest => replaceFrom token new skip rest
  | 0, c :: rest =>
    if token.isPrefixOf (c :: rest) then new ++ replaceFrom token new (token.length - 1) rest
    else c :: replaceFrom token new 0 rest

/-- Exchange every occurrence of `token`, which is not empty, for `new`. -/
def replace (token new text : List Char) : List Char := replaceFrom token new 0 text

/-- `split` while the first `skip` characters still belong to the occurrence found last. -/
def splitFrom (token : List Char) : Nat → List Char → List (List Char)
  | _, [] => [[]]
  | skip + 1, _ :: rest => splitFrom token skip rest
  | 0, c :: rest =>
    if token.isPrefixOf (c :: rest) then [] :: splitFrom token (token.length - 1) rest
    else (splitFrom token 0 rest).modifyHead (c :: ·)

/-- The pieces of a text between the occurrences of `token`, which is not empty. -/
def split (token text : List Char) : List (List Char) := splitFrom token 0 text

/-- Whether `token`, which is not empty, occurs in a text. -/
def occurs (token text : List Char) : Bool := 1 < (split token text).length

theorem replaceFrom_eq_drop (token new : List Char) (skip : Nat) (text : List Char) :
    replaceFrom token new skip text = replace token new (text.drop skip) := by
  induction text generalizing skip with
  | nil => simp [replace, replaceFrom]
  | cons c rest ih =>
    cases skip with
    | zero => rfl
    | succ skip => simp only [replaceFrom, ih, List.drop_succ_cons]

theorem splitFrom_eq_drop (token : List Char) (skip : Nat) (text : List Char) :
    splitFrom token skip text = split token (text.drop skip) := by
  induction text generalizing skip with
  | nil => simp [split, splitFrom]
  | cons c rest ih =>
    cases skip with
    | zero => rfl
    | succ skip => simp only [splitFrom, ih, List.drop_succ_cons]

@[simp] theorem replace_nil (token new : List Char) : replace token new [] = [] := rfl

@[simp] theorem split_nil (token : List Char) : split token [] = [[]] := rfl

theorem replace_cons (token new : List Char) (c : Char) (rest : List Char) :
    replace token new (c :: rest) =
      if token.isPrefixOf (c :: rest) then
        new ++ replace token new (rest.drop (token.length - 1))
      else c :: replace token new rest := by
  rw [← replaceFrom_eq_drop]; rfl

theorem split_cons (token : List Char) (c : Char) (rest : List Char) :
    split token (c :: rest) =
      if token.isPrefixOf (c :: rest) then [] :: split token (rest.drop (token.length - 1))
      else (split token rest).modifyHead (c :: ·) := by
  rw [← splitFrom_eq_drop]; rfl

theorem split_ne_nil (token text : List Char) : split token text ≠ [] := by
  induction text with
  | nil => simp
  | cons c rest ih => rw [split_cons]; split <;> simp [ih]

end SheetSchema.Text
