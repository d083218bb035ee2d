import Mathlib.Data.List.Infix
import SheetSchema.Text.Occurrence

/-! Joining and splitting. Splitting a text and joining the pieces gives the text back; joining pieces
and splitting the text gives the pieces back if and only if they are clear of the token: it occurs
neither within a piece nor where a piece and the token after it meet. -/
namespace SheetSchema.Text

variable {token : List Char}

/-- The token occurs in no piece, nor across the end of a piece that it follows. -/
def Clear (token : List Char) : List (List Char) → Prop
  | [] => True
  | [last] => ¬ token <:+: last
  | piece :: next :: rest => ¬ token <:+: piece ++ token.dropLast ∧ Clear token (next :: rest)

theorem split_token (htoken : token ≠ []) (rest : List Char) :
    split token (token ++ rest) = [] :: split token rest := by
  obtain ⟨c, cs, rfl⟩ := List.exists_cons_of_ne_nil htoken
  have hprefix : (c :: cs).isPrefixOf (c :: (cs ++ rest)) = true :=
    List.isPrefixOf_iff_prefix.2 (List.prefix_append (c :: cs) rest)
  rw [List.cons_append, split_cons, if_pos hprefix]
  simp

theorem split_passed {c : Char} {rest : List Char} (h : ¬ token <+: c :: rest) :
    split token (c :: rest) = (split token rest).modifyHead (c :: ·) := by
  rw [split_cons, if_neg (h ∘ List.isPrefixOf_iff_prefix.1)]

/-- A text is read from the left: either the token stands first and is cut off, or the first character
is passed. -/
theorem split_induction {motive : List Char → Prop} (htoken : token ≠ []) (nil : motive [])
    (found : ∀ rest, motive rest → motive (token ++ rest))
    (passed : ∀ c rest, ¬ token <+: c :: rest → motive rest → motive (c :: rest))
    (text : List Char) : motive text := by
  induction hlength : text.length using Nat.strong_induction_on generalizing text with
  | _ length ih =>
    subst hlength
    by_cases h : token <+: text
    · obtain ⟨rest, rfl⟩ := h
      refine found rest (ih rest.length ?_ rest rfl)
      have := List.length_pos_iff.2 htoken
      rw [List.length_append]
      omega
    · cases text with
      | nil => exact nil
      | cons c rest => exact passed c rest h (ih rest.length (Nat.lt_succ_self _) rest rfl)

theorem intercalate_split (htoken : token ≠ []) (text : List Char) :
    token.intercalate (split token text) = text := by
  induction text using split_induction htoken with
  | nil => simp
  | found rest ih =>
    obtain ⟨piece, pieces, hsplit⟩ := List.exists_cons_of_ne_nil (split_ne_nil token rest)
    rw [split_token htoken, hsplit, List.intercalate_cons_cons, List.nil_append, ← hsplit, ih]
  | passed c rest h ih =>
    obtain ⟨piece, pieces, hsplit⟩ := List.exists_cons_of_ne_nil (split_ne_nil token rest)
    rw [split_passed h, hsplit, List.modifyHead_cons]
    rw [hsplit] at ih
    cases pieces with
    | nil => simpa using ih
    | cons next pieces =>
      rw [List.intercalate_cons_cons] at ih ⊢
      rw [List.cons_append, List.cons_append, ih]

/-- A character before the first piece keeps the pieces clear if no token starts with it. -/
theorem Clear.cons {c : Char} {piece : List Char} {pieces : List (List Char)}
    (hclear : Clear token (piece :: pieces))
    (h : ¬ token <+: c :: token.intercalate (piece :: pieces)) :
    Clear token ((c :: piece) :: pieces) := by
  cases pieces with
  | nil =>
    rw [List.intercalate_singleton] at h
    exact fun hinfix => (List.infix_cons_iff.1 hinfix).elim h hclear
  | cons next pieces =>
    obtain ⟨hpiece, hrest⟩ := hclear
    refine ⟨fun hinfix => (List.infix_cons_iff.1 hinfix).elim (fun hprefix => h ?_) hpiece, hrest⟩
    have hmeet : piece ++ token.dropLast <+: token.intercalate (piece :: next :: pieces) := by
      rw [List.intercalate_cons_cons, List.append_assoc, List.prefix_append_right_inj]
      exact (List.dropLast_prefix token).trans (List.prefix_append token _)
    exact hprefix.trans ((List.prefix_cons_inj c).2 hmeet)

theorem clear_split (htoken : token ≠ []) (text : List Char) : Clear token (split token text) := by
  induction text using split_induction htoken with
  | nil => exact fun h => htoken (List.infix_nil.1 h)
  | found rest ih =>
    obtain ⟨piece, pieces, hsplit⟩ := List.exists_cons_of_ne_nil (split_ne_nil token rest)
    rw [split_token htoken, hsplit]
    -- what is left of the token is too short to hold it
    refine ⟨fun h => ?_, hsplit ▸ ih⟩
    have hlong := h.length_le
    have := List.length_pos_iff.2 htoken
    simp only [List.nil_append, List.length_dropLast] at hlong
    omega
  | passed c rest h ih =>
    have hjoined := intercalate_split htoken rest
    obtain ⟨piece, pieces, hsplit⟩ := List.exists_cons_of_ne_nil (split_ne_nil token rest)
    rw [hsplit] at hjoined ih
    rw [split_passed h, hsplit, List.modifyHead_cons]
    exact ih.cons (hjoined.symm ▸ h)

/-- A text in which the token does not occur is one piece. -/
theorem split_of_not_infix {text : List Char} (h : ¬ token <:+: text) : split token text = [text] := by
  induction text with
  | nil => rfl
  | cons c rest ih =>
    have hrest : ¬ token <:+: rest := fun hinfix => h (List.infix_cons hinfix)
    rw [split_passed fun hprefix => h hprefix.isInfix, ih hrest, List.modifyHead_cons]

/-- A clear piece is cut off at the token that follows it. -/
theorem split_piece (htoken : token ≠ []) {piece : List Char}
    (h : ¬ token <:+: piece ++ token.dropLast) (rest : List Char) :
    split token (piece ++ (token ++ rest)) = piece :: split token rest := by
  induction piece with
  | nil => exact split_token htoken rest
  | cons c piece ih =>
    -- a token that begins within the piece would end before the one that follows it does
    have hpassed : ¬ token <+: c :: (piece ++ (token ++ rest)) := by
      intro hprefix
      have hmeet : c :: (piece ++ token.dropLast) <+: c :: (piece ++ (token ++ rest)) :=
        (List.prefix_cons_inj c).2 ((List.prefix_append_right_inj piece).2
          ((List.dropLast_prefix token).trans (List.prefix_append token rest)))
      refine h (List.prefix_of_prefix_length_le hprefix hmeet ?_).isInfix
      simp only [List.length_cons, List.length_append, List.length_dropLast]
      omega
    have hpiece : ¬ token <:+: piece ++ token.dropLast := fun hinfix => h (List.infix_cons hinfix)
    rw [List.cons_append, split_passed hpassed, ih hpiece, List.modifyHead_cons]

theorem split_intercalate (htoken : token ≠ []) {pieces : List (List Char)} (hpieces : pieces ≠ [])
    (h : Clear token pieces) : split token (token.intercalate pieces) = pieces := by
  induction pieces with
  | nil => exact absurd rfl hpieces
  | cons piece pieces ih =>
    cases pieces with
    | nil => rw [List.intercalate_singleton, split_of_not_infix h]
    | cons next pieces =>
      rw [List.intercalate_cons_cons, List.append_assoc, split_piece htoken h.1,
        ih (List.cons_ne_nil next pieces) h.2]

/-- Pieces that are joined are the pieces of the text if and only if they are clear of the token. -/
theorem split_intercalate_iff (htoken : token ≠ []) {pieces : List (List Char)}
    (hpieces : pieces ≠ []) :
    split token (token.intercalate pieces) = pieces ↔ Clear token pieces :=
  ⟨fun h => h ▸ clear_split htoken _, split_intercalate htoken hpieces⟩

/-- Pieces are clear of a single character if it stands in none of them. -/
theorem clear_singleton_iff {c : Char} {pieces : List (List Char)} :
    Clear [c] pieces ↔ ∀ piece ∈ pieces, c ∉ piece := by
  induction pieces with
  | nil => simp [Clear]
  | cons piece pieces ih =>
    cases pieces with
    | nil => simp [Clear, List.singleton_infix_iff]
    | cons next pieces =>
      rw [Clear, ih, List.forall_mem_cons (a := piece), List.dropLast_singleton, List.append_nil,
        List.singleton_infix_iff]

theorem intercalate_append {before after : List (List Char)} (hbefore : before ≠ [])
    (hafter : after ≠ []) :
    token.intercalate (before ++ after) =
      token.intercalate before ++ token ++ token.intercalate after := by
  induction before with
  | nil => exact absurd rfl hbefore
  | cons piece before ih =>
    by_cases hlast : before = []
    · rw [hlast, List.singleton_append, List.intercalate_cons_of_ne_nil hafter,
        List.intercalate_singleton]
    · have hrest : before ++ after ≠ [] := List.append_ne_nil_of_left_ne_nil hlast after
      rw [List.cons_append, List.intercalate_cons_of_ne_nil hrest, ih hlast,
        List.intercalate_cons_of_ne_nil hlast]
      simp only [List.append_assoc]

/-- Texts that are joined of pieces themselves are joined as all of the pieces. -/
theorem intercalate_flatten {texts : List (List (List Char))} (h : ∀ pieces ∈ texts, pieces ≠ []) :
    token.intercalate (texts.map token.intercalate) = token.intercalate texts.flatten := by
  induction texts with
  | nil => rfl
  | cons pieces texts ih =>
    obtain ⟨hpieces, h⟩ := List.forall_mem_cons.1 h
    cases texts with
    | nil => simp
    | cons next texts =>
      have hrest : (next :: texts).flatten ≠ [] := by simp [(List.forall_mem_cons.1 h).1]
      rw [List.flatten_cons (l := pieces), intercalate_append hpieces hrest, ← ih h, List.map_cons,
        List.map_cons, List.intercalate_cons_cons]

/-- A token that begins before a character which it does not have ends before it. -/
theorem prefix_of_prefix_append {c : Char} (hc : c ∉ token) (before after : List Char)
    (h : token <+: before ++ c :: after) : token <+: before := by
  have hborder : before ++ [c] <+: before ++ c :: after := by simp
  have hmem : c ∈ before ++ [c] := List.mem_append_right before (List.mem_singleton_self c)
  rcases List.prefix_or_prefix_of_prefix h hborder with hshort | hlong
  · rcases List.prefix_concat_iff.1 hshort with rfl | hbefore
    · exact absurd hmem hc
    · exact hbefore
  · exact absurd (hlong.subset hmem) hc

theorem replace_token (htoken : token ≠ []) (new rest : List Char) :
    replace token new (token ++ rest) = new ++ replace token new rest := by
  obtain ⟨c, cs, rfl⟩ := List.exists_cons_of_ne_nil htoken
  have hprefix : (c :: cs).isPrefixOf (c :: (cs ++ rest)) = true :=
    List.isPrefixOf_iff_prefix.2 (List.prefix_append (c :: cs) rest)
  rw [List.cons_append, replace_cons, if_pos hprefix]
  simp

theorem replace_passed {c : Char} {rest : List Char} (h : ¬ token <+: c :: rest) (new : List Char) :
    replace token new (c :: rest) = c :: replace token new rest := by
  rw [replace_cons, if_neg (h ∘ List.isPrefixOf_iff_prefix.1)]

/-- Replacing puts the new text where splitting cuts the text. -/
theorem replace_eq_intercalate (htoken : token ≠ []) (new text : List Char) :
    replace token new text = new.intercalate (split token text) := by
  induction text using split_induction htoken with
  | nil => simp
  | found rest ih =>
    obtain ⟨piece, pieces, hsplit⟩ := List.exists_cons_of_ne_nil (split_ne_nil token rest)
    rw [replace_token htoken, split_token htoken, ih, hsplit, List.intercalate_cons_cons,
      List.nil_append]
  | passed c rest h ih =>
    obtain ⟨piece, pieces, hsplit⟩ := List.exists_cons_of_ne_nil (split_ne_nil token rest)
    rw [replace_passed h, split_passed h, ih, hsplit, List.modifyHead_cons]
    cases pieces with
    | nil => simp
    | cons next pieces => simp only [List.intercalate_cons_cons, List.cons_append]

/-- A character that the token does not have is a border: what is before it and what is after it are
replaced apart from each other. -/
theorem replace_border (htoken : token ≠ []) {c : Char} (hc : c ∉ token)
    (new before after : List Char) :
    replace token new (before ++ c :: after) =
      replace token new before ++ c :: replace token new after := by
  induction before using split_induction htoken with
  | nil =>
    have hnone : ¬ token <+: c :: after := fun h =>
      htoken (List.prefix_nil.1 (prefix_of_prefix_append hc [] after h))
    exact replace_passed hnone new
  | found rest ih =>
    rw [List.append_assoc, replace_token htoken, ih, replace_token htoken, List.append_assoc]
  | passed first rest h ih =>
    have hnone : ¬ token <+: first :: (rest ++ c :: after) := fun hprefix =>
      h (prefix_of_prefix_append hc (first :: rest) after hprefix)
    rw [List.cons_append, replace_passed hnone, ih, replace_passed h, List.cons_append]

/-- Characters that the token does not have stay as they are. -/
theorem replace_kept (htoken : token ≠ []) {kept : List Char} (h : ∀ c ∈ kept, c ∉ token)
    (new rest : List Char) : replace token new (kept ++ rest) = kept ++ replace token new rest := by
  induction kept with
  | nil => rfl
  | cons c kept ih =>
    obtain ⟨hc, h⟩ := List.forall_mem_cons.1 h
    rw [List.cons_append, List.cons_append, ← ih h]
    exact replace_border htoken hc new [] (kept ++ rest)

/-- Replacing brings in no characters but those of the new text. -/
theorem mem_of_mem_replace {new text : List Char} {c : Char} (h : c ∈ replace token new text) :
    c ∈ new ∨ c ∈ text := by
  have hfrom : ∀ skip, c ∈ replaceFrom token new skip text → c ∈ new ∨ c ∈ text := by
    clear h
    induction text with
    | nil => simp [replaceFrom]
    | cons first rest ih =>
      intro skip h
      cases skip with
      | succ skip => exact (ih skip h).imp_right (List.mem_cons_of_mem first)
      | zero =>
        rw [replaceFrom] at h
        split at h
        case isTrue =>
          rcases List.mem_append.1 h with h | h
          · exact .inl h
          · exact (ih _ h).imp_right (List.mem_cons_of_mem first)
        case isFalse =>
          rcases List.mem_cons.1 h with rfl | h
          · exact .inr (List.mem_cons_self ..)
          · exact (ih _ h).imp_right (List.mem_cons_of_mem first)
  exact hfrom 0 h

/-- The end of a piece and the beginning of a spaced slash hold another one if the piece ends with the
beginning of one. -/
theorem infix_meet_iff {piece : List Char} :
    " / ".toList <:+: piece ++ " / ".toList.dropLast ↔
      " / ".toList <:+: piece ∨ " /".toList <:+ piece := by
  have hend : ¬ [' ', '/', ' '] <:+ piece ++ [' '] ++ ['/'] := by
    rintro ⟨before, h⟩
    simpa using congrArg List.getLast? h
  have hmeet : [' ', '/', ' '] <:+: piece ++ [' '] ++ ['/'] ↔
      [' ', '/', ' '] <:+: piece ∨ [' ', '/'] <:+ piece := by
    rw [List.infix_concat_iff, List.infix_concat_iff, or_iff_right hend, or_comm]
    exact or_congr_right (@List.suffix_append_self_iff _ [' ', '/'] piece [' '])
  simpa using hmeet

/-- Pieces are clear of a spaced slash if it stands in none of them and none but the last ends with a
blank and a slash. -/
theorem clear_iff {pieces : List (List Char)} :
    Clear " / ".toList pieces ↔
      (∀ piece ∈ pieces, ¬ " / ".toList <:+: piece) ∧
        ∀ piece ∈ pieces.dropLast, ¬ " /".toList <:+ piece := by
  induction pieces with
  | nil => simp [Clear]
  | cons piece pieces ih =>
    cases pieces with
    | nil => simp [Clear]
    | cons next pieces =>
      rw [Clear, ih, infix_meet_iff, List.dropLast_cons_cons, List.forall_mem_cons (a := piece),
        List.forall_mem_cons (a := piece), not_or, and_and_and_comm]

/-- A spaced slash that overlaps with another one is not found. -/
example : split " / ".toList "a / / b".toList = ["a".toList, "/ b".toList] := by decide

end SheetSchema.Text
