import Mathlib.Data.List.TakeWhile
import SheetSchema.Placeholder
import SheetSchema.Proofs.Reports.Splitting
import SheetSchema.Value

/-! Description patterns, told by their parts. A description is a pattern if it is made of digits and
letters in the frame, and there is but one way to make it so. A pattern is resolved part by part: no
token reaches over the border of two parts, since none has a character of the frame or a digit. -/
namespace SheetSchema.Placeholder

/-- What a pattern has in its frame: a run of decimal digits and a run of letters. -/
@[ext]
structure Parts where
  digits : List Char
  letters : List Char
  digits_ne : digits ≠ []
  letters_ne : letters ≠ []
  areDigits : ∀ c ∈ digits, Text.isDigit c = true
  areLetters : ∀ c ∈ letters, isLetter c = true

namespace Parts

/-- The pattern that has the parts. -/
def text (parts : Parts) : String :=
  "PD:xxx:" ++ String.ofList parts.digits ++ String.ofList parts.letters ++ "$"

/-- What follows the frame of the pattern. -/
def body (parts : Parts) : List Char := parts.digits ++ (parts.letters ++ ['$'])

theorem toList_text (parts : Parts) : parts.text.toList = frame ++ parts.body := by
  simp only [text, body, String.toList_append, String.toList_ofList, List.append_assoc]
  rfl

end Parts

/-! ### Reading the parts -/

/-- A run of characters of one kind that ends with the text, or before a character of another kind. -/
theorem span_run {kind : Char → Bool} {run rest : List Char} (hrun : ∀ c ∈ run, kind c = true)
    (hrest : ∀ c ∈ rest.head?, kind c = false) :
    (run ++ rest).takeWhile kind = run ∧ (run ++ rest).dropWhile kind = rest := by
  rw [List.takeWhile_append_of_pos hrun, List.dropWhile_append_of_pos hrun]
  cases rest with
  | nil => simp
  | cons c rest =>
    have hc : kind c = false := hrest c rfl
    simp [hc]

/-- No letter of ASCII is a decimal digit. -/
theorem isDigit_eq_false {c : Char} (h : isLetter c = true) : Text.isDigit c = false := by
  have hcode : 65 ≤ c.toNat ∧ c.toNat ≤ 122 := by
    simp only [isLetter, Bool.or_eq_true, Bool.and_eq_true, decide_eq_true_eq, Char.le_def,
      UInt32.le_iff_toNat_le, Char.toNat_val, Char.reduceToNat] at h
    omega
  have hzeros : ∀ start ∈ Text.digitZeros, start + 10 ≤ 65 ∨ 122 < start := by decide
  have hnone : Text.digitValue? c = none := by
    rw [Text.digitValue?, Option.map_eq_none_iff, List.find?_eq_none]
    intro start hstart
    have := hzeros start hstart
    simp only [Bool.and_eq_true, decide_eq_true_eq]
    omega
  rw [Text.isDigit, hnone]
  rfl

namespace Parts

variable (parts : Parts)

/-- The digits of a pattern end where its letters begin. -/
theorem span_digits :
    parts.body.takeWhile Text.isDigit = parts.digits ∧
      parts.body.dropWhile Text.isDigit = parts.letters ++ ['$'] := by
  refine span_run parts.areDigits fun c hc => isDigit_eq_false (parts.areLetters c ?_)
  rw [List.head?_append_of_ne_nil _ parts.letters_ne] at hc
  exact List.mem_of_mem_head? hc

/-- The letters of a pattern end where its dollar sign stands. -/
theorem span_letters :
    (parts.letters ++ ['$']).takeWhile isLetter = parts.letters ∧
      (parts.letters ++ ['$']).dropWhile isLetter = ['$'] := by
  have hdollar : isLetter '$' = false := by decide
  exact span_run parts.areLetters (by simpa using hdollar)

/-- A pattern tells its parts. -/
theorem text_injective : Function.Injective text := by
  intro parts other h
  have hbody : parts.body = other.body := by
    have hlist := congrArg String.toList h
    rwa [toList_text, toList_text, List.append_cancel_left_eq] at hlist
  have hdigits : parts.digits = other.digits := by
    rw [← parts.span_digits.1, hbody, other.span_digits.1]
  rw [body, body, hdigits, List.append_cancel_left_eq, List.append_cancel_right_eq] at hbody
  exact Parts.ext hdigits hbody

end Parts

theorem isBody_iff {body : List Char} :
    isBody body = true ↔ ∃ parts : Parts, body = parts.body := by
  constructor
  · intro h
    simp only [isBody, Bool.and_eq_true, Bool.not_eq_true', List.isEmpty_eq_false_iff,
      beq_iff_eq] at h
    obtain ⟨⟨hdigits, hletters⟩, hdollar⟩ := h
    refine ⟨⟨_, _, hdigits, hletters, fun _ => List.mem_takeWhile_imp,
      fun _ => List.mem_takeWhile_imp⟩, ?_⟩
    rw [Parts.body, ← hdollar, List.takeWhile_append_dropWhile, List.takeWhile_append_dropWhile]
  · rintro ⟨parts, rfl⟩
    simp [isBody, parts.span_digits, parts.span_letters, parts.digits_ne, parts.letters_ne]

/-- The patterns are the descriptions that are made of parts. -/
theorem holds_iff_exists_parts {description : String} :
    holds description = true ↔ ∃ parts : Parts, parts.text = description := by
  have hlist (parts : Parts) :
      parts.text = description ↔ frame ++ parts.body = description.toList := by
    rw [← String.toList_inj, parts.toList_text]
  simp only [hlist, holds, matches?, Bool.and_eq_true, List.isPrefixOf_iff_prefix, isBody_iff]
  constructor
  · rintro ⟨⟨body, hbody⟩, parts, hparts⟩
    rw [← hbody, List.drop_left] at hparts
    exact ⟨parts, by rw [← hparts, hbody]⟩
  · rintro ⟨parts, hparts⟩
    rw [← hparts, List.drop_left]
    exact ⟨List.prefix_append frame _, parts, rfl⟩

/-! ### Resolving part by part -/

namespace Parts

variable (parts : Parts) {token : List Char}

/-- A token of letters has none of the digits. -/
theorem digits_kept (htoken : token.all isLetter = true) : ∀ c ∈ parts.digits, c ∉ token := by
  intro c hc hmem
  have hletter := isDigit_eq_false (List.all_eq_true.1 htoken c hmem)
  rw [parts.areDigits c hc] at hletter
  contradiction

/-- Behind the frame, a token of letters is replaced between the digits and the dollar sign alone. -/
theorem replace_body (htoken : token ≠ []) (hletters : token.all isLetter = true)
    (new middle : List Char) :
    Text.replace token new (parts.digits ++ (middle ++ ['$'])) =
      parts.digits ++ (Text.replace token new middle ++ ['$']) := by
  have hdollar : '$' ∉ token := fun h => absurd (List.all_eq_true.1 hletters '$' h) (by decide)
  rw [Text.replace_kept htoken (parts.digits_kept hletters),
    Text.replace_border htoken hdollar, Text.replace_nil]

/-- The sub-process stands in the frame and among the letters. -/
theorem replace_subProcess (subProcess : List Char) :
    Text.replace subProcessToken subProcess parts.text.toList =
      "PD:".toList ++ (subProcess ++ ':' :: (parts.digits ++
        (Text.replace subProcessToken subProcess parts.letters ++ ['$']))) := by
  have hframe : frame = "PD:".toList ++ (subProcessToken ++ [':']) := by decide
  have htoken : subProcessToken ≠ [] := by decide
  have hopening : ∀ c ∈ "PD:".toList, c ∉ subProcessToken := by simp [subProcessToken]
  have hcolon : ∀ c ∈ [':'], c ∉ subProcessToken := by simp [subProcessToken]
  rw [toList_text, body, hframe, List.append_assoc, List.append_assoc,
    Text.replace_kept htoken hopening, Text.replace_token htoken, Text.replace_kept htoken hcolon,
    List.singleton_append, parts.replace_body htoken (by decide)]

/-- The notes stand in the sub-process and among the letters. -/
theorem fill_text (subProcess notes : List Char) :
    fill subProcess notes parts.text.toList =
      "PD:".toList ++ (Text.replace notesToken notes subProcess ++ ':' :: (parts.digits ++
        (Text.replace notesToken notes (Text.replace subProcessToken subProcess parts.letters) ++
          ['$']))) := by
  have htoken : notesToken ≠ [] := by decide
  have hopening : ∀ c ∈ "PD:".toList, c ∉ notesToken := by simp [notesToken]
  rw [fill, replace_subProcess, Text.replace_kept htoken hopening,
    Text.replace_border htoken (by decide), parts.replace_body htoken (by decide)]

end Parts

/-- A description is a pattern if and only if it has parts, and it has no two ways to be taken apart.
Of a resolved pattern the frame and the digits are left, and the sub-process and the letters are
resolved apart from each other; an absent sub-process and absent notes count as empty texts. Where the
notes are put in does not depend on them: the text is cut into pieces first, and what the notes bring
in is not looked at again. -/
theorem resolve_partwise :
    (∀ description, holds description = true ↔ ∃ parts : Parts, parts.text = description) ∧
    Function.Injective Parts.text ∧
    ∀ (parts : Parts) (subProcess : Value),
      (∀ notes : Value,
        (resolve parts.text subProcess.asText notes.asText).toList =
          "PD:".toList ++
            Text.replace "yy".toList notes.asText.toList subProcess.asText.toList ++
            ":".toList ++ parts.digits ++
            Text.replace "yy".toList notes.asText.toList
              (Text.replace "xxx".toList subProcess.asText.toList parts.letters) ++
            "$".toList) ∧
      ∃ pieces, Text.Clear "yy".toList pieces ∧
        "yy".toList.intercalate pieces =
          Text.replace "xxx".toList subProcess.asText.toList parts.text.toList ∧
        ∀ notes : Value,
          (resolve parts.text subProcess.asText notes.asText).toList =
            notes.asText.toList.intercalate pieces := by
  refine ⟨fun description => holds_iff_exists_parts, Parts.text_injective,
    fun parts subProcess => ⟨fun notes => ?_, ?_⟩⟩
  · rw [resolve, String.toList_ofList, parts.fill_text]
    simp [notesToken, subProcessToken]
  · have htoken : notesToken ≠ [] := by decide
    refine ⟨Text.split notesToken _, Text.clear_split htoken _, Text.intercalate_split htoken _,
      fun notes => ?_⟩
    rw [resolve, String.toList_ofList, fill, Text.replace_eq_intercalate htoken]
    rfl

/-- A pattern whose letters end and begin with a token's character. -/
def bordered : Parts where
  digits := ['1']
  letters := "yxxxy".toList
  digits_ne := by decide
  letters_ne := by decide
  areDigits := List.all_eq_true.1 (by decide)
  areLetters := List.all_eq_true.1 (by decide)

/-- What the sub-process brings in is looked at for the notes, together with the letters beside it, and
what the notes bring in is not. -/
theorem resolve_partwise_bordered :
    bordered.text = "PD:xxx:1yxxxy$" ∧ holds "PD:xxx:1yxxxy$" = true ∧
      resolve "PD:xxx:1yxxxy$" "yya" "y" = "PD:ya:1yyay$" := by
  have htext : bordered.text = "PD:xxx:1yxxxy$" := by decide
  obtain ⟨hholds, -, hresolve⟩ := resolve_partwise
  refine ⟨htext, (hholds _).2 ⟨bordered, htext⟩, String.toList_inj.1 ?_⟩
  have hlist := (hresolve bordered "yya").1 "y"
  rw [htext] at hlist
  exact hlist.trans (by decide)

end SheetSchema.Placeholder
