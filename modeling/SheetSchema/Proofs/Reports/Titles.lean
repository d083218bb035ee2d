import Mathlib.Algebra.Group.Nat.Defs
import Mathlib.Data.List.DropRight
import Mathlib.Data.List.Perm.Subperm
import Mathlib.Order.Bounds.Basic
import SheetSchema.Proofs.Reports.RoundTrip

/-! Titles for any names. Case folding leaves the number of a candidate as it is, so the number can be
read off the key, and the keys of numbered candidates differ. By counting, one of the first
`used.length + 2` candidates is free, and `free` gives the first such one. -/
namespace SheetSchema

namespace Title

variable {used : List String} {name title : List Char} {n : Nat}

/-! ### Numbered candidates -/

theorem isDigit_of_mem_repr {c : Char} (h : c ∈ (Nat.repr n).toList) : c.isDigit = true := by
  rw [Nat.toList_repr] at h
  exact Nat.isDigit_of_mem_toDigits (by decide) (by decide) h

theorem foldChar_digit {c : Char} (h : c.isDigit = true) : Text.foldChar c = [c] := by
  have hcode : c.toNat ≤ 57 := by
    simp only [Char.isDigit, Bool.and_eq_true, decide_eq_true_eq, UInt32.le_iff_toNat_le] at h
    exact h.2
  have hlower : c.toLower = c := dif_neg fun hupper => by
    have hletter : 65 ≤ c.toNat := UInt32.le_iff_toNat_le.1 hupper.1
    omega
  rw [Text.foldChar, if_pos (by omega), hlower]

@[simp] theorem fold_suffixOf (n : Nat) : Text.fold (suffixOf n) = suffixOf n := by
  have hdigits : (Nat.repr n).toList.flatMap Text.foldChar = (Nat.repr n).toList.flatMap ([·]) :=
    List.flatMap_congr fun c hc => foldChar_digit (isDigit_of_mem_repr hc)
  rw [suffixOf, Text.fold_cons, Text.fold, hdigits, List.flatMap_singleton']
  rfl

/-- The digits at the end of a numbered text are those of its number. -/
theorem rtakeWhile_suffixOf (before : List Char) (n : Nat) :
    (before ++ suffixOf n).rtakeWhile Char.isDigit = (Nat.repr n).toList := by
  have hdigits : ∀ c ∈ (Nat.repr n).toList.reverse, c.isDigit = true :=
    fun c hc => isDigit_of_mem_repr (List.mem_reverse.1 hc)
  -- read from the end, the digits are all that comes before the tilde
  rw [List.rtakeWhile, suffixOf, List.reverse_append, List.reverse_cons, List.append_assoc,
    List.takeWhile_append_of_pos hdigits, List.singleton_append,
    List.takeWhile_cons_of_neg (by decide), List.append_nil, List.reverse_reverse]

/-- The key of a numbered candidate ends with its number. -/
theorem key_candidate (hn : 2 ≤ n) :
    (key (candidate title n)).toList =
      Text.fold (title.take (maxLength - (suffixOf n).length)) ++ suffixOf n := by
  rw [key, String.toList_ofList, candidate, if_neg (by omega), Text.fold_append, fold_suffixOf]

/-- Numbered candidates differ regardless of case, also where one is cut shorter than the other. -/
theorem key_candidate_injOn :
    Set.InjOn (fun n => key (candidate title n)) {n | 2 ≤ n} := by
  intro m hm n hn h
  have hkeys : (key (candidate title m)).toList = (key (candidate title n)).toList :=
    congrArg String.toList h
  have hdigits : (Nat.repr m).toList = (Nat.repr n).toList := by
    rw [← rtakeWhile_suffixOf, ← key_candidate hm, hkeys, key_candidate hn, rtakeWhile_suffixOf]
  rw [Nat.toList_repr, Nat.toList_repr] at hdigits
  calc
    m = Nat.ofDigitChars 10 (Nat.toDigits 10 m) 0 := Nat.ofDigitChars_ten_toDigits.symm
    _ = Nat.ofDigitChars 10 (Nat.toDigits 10 n) 0 := by rw [hdigits]
    _ = n := Nat.ofDigitChars_ten_toDigits

/-- More candidates than there are used keys cannot all be used. -/
theorem exists_unused (used : List String) (title : List Char) :
    ∃ n, 2 ≤ n ∧ n ≤ used.length + 2 ∧ key (candidate title n) ∉ used := by
  by_contra hnone
  have hused : ∀ n ∈ List.range' 2 (used.length + 1), key (candidate title n) ∈ used := by
    intro n hn
    rw [List.mem_range'_1] at hn
    by_contra hfree
    exact hnone ⟨n, by omega, by omega, hfree⟩
  have hkeys : ((List.range' 2 (used.length + 1)).map fun n => key (candidate title n)).Nodup :=
    List.Nodup.map_on (fun m hm n hn h => key_candidate_injOn (List.mem_range'_1.1 hm).1
      (List.mem_range'_1.1 hn).1 h) (List.nodup_range' ..)
  have hlength := (hkeys.subperm (List.forall_mem_map.2 hused)).length_le
  rw [List.length_map, List.length_range'] at hlength
  omega

/-! ### The title that is given -/

/-- The number of a title: that of the first candidate that is free. -/
def IsFirstFree (used : List String) (title : List Char) (n : Nat) : Prop :=
  IsLeast {n | 1 ≤ n ∧ key (candidate title n) ∉ used} n

theorem free_spec (used : List String) (title : List Char) :
    ∃ n ≤ used.length + 2, IsFirstFree used title n ∧ free used title = candidate title n := by
  cases hfind : (List.range' 1 (used.length + 2)).find? fun n =>
      !used.contains (key (candidate title n)) with
  | none =>
    obtain ⟨n, hlower, hupper, hfree⟩ := exists_unused used title
    have hused := List.find?_range'_eq_none.1 hfind n (by omega) (by omega)
    simp [hfree] at hused
  | some n =>
    obtain ⟨hfree, hrange, hbefore⟩ := List.find?_range'_eq_some.1 hfind
    rw [List.mem_range'_1] at hrange
    refine ⟨n, by omega, ⟨⟨hrange.1, by simpa using hfree⟩, ?_⟩, by rw [free, hfind]; rfl⟩
    rintro m ⟨hpos, hm⟩
    by_contra hlt
    have hused := hbefore m hpos (by omega)
    simp [hm] at hused

/-! ### Titles are legal -/

theorem allowed_notMem (c : Char) : allowed c ∉ ['[', ']', ':', '*', '?', '/', '\\'] := by
  rw [allowed]
  split
  case isTrue => decide
  case isFalse h => exact isReserved_eq_false.1 (by simpa using h)

theorem fits_fit (h : ∀ c ∈ name, c ∉ ['[', ']', ':', '*', '?', '/', '\\']) : Fits (fit name) := by
  have hwhole : (if name.isEmpty then "Page".toList else name) ≠ [] ∧
      ∀ c ∈ if name.isEmpty then "Page".toList else name,
        c ∉ ['[', ']', ':', '*', '?', '/', '\\'] := by
    split
    case isTrue =>
      have hpage : Fits "Page".toList := by decide
      exact ⟨hpage.nonempty, hpage.allowed⟩
    case isFalse hname => exact ⟨by simpa using hname, h⟩
  refine ⟨?_, List.length_take_le .., fun c hc => hwhole.2 c (List.mem_of_mem_take hc)⟩
  rw [fit, Ne, List.take_eq_nil_iff]
  exact not_or.2 ⟨by decide, hwhole.1⟩

theorem fits_plain (name : List Char) : Fits (plain name) :=
  fits_fit (List.forall_mem_map.2 fun c _ => allowed_notMem c)

/-- Numbers of up to thirty digits leave a title short enough. -/
theorem length_suffixOf (hn : n < 10 ^ 30) : (suffixOf n).length ≤ 31 := by
  have hdigits : (Nat.toDigits 10 n).length ≤ 30 :=
    (Nat.length_toDigits_le_iff (by decide) (by decide)).2 hn
  rw [suffixOf, Nat.toList_repr, List.length_cons]
  omega

theorem digit_notMem {c : Char} (h : c.isDigit = true) :
    c ∉ ['[', ']', ':', '*', '?', '/', '\\'] := by
  have hreserved : ['[', ']', ':', '*', '?', '/', '\\'].all (!·.isDigit) = true := by decide
  intro hc
  have hother := List.all_eq_true.1 hreserved c hc
  rw [h] at hother
  contradiction

theorem fits_suffixOf (hn : n < 10 ^ 30) : Fits (suffixOf n) where
  nonempty := nofun
  short := length_suffixOf hn
  allowed := List.forall_mem_cons.2
    ⟨by decide, fun _ hc => digit_notMem (isDigit_of_mem_repr hc)⟩

theorem fits_candidate (h : Fits title) (hn : n < 10 ^ 30) : Fits (candidate title n) := by
  rw [candidate]
  split
  case isTrue => exact h
  case isFalse =>
    have hsuffix := fits_suffixOf hn
    refine ⟨List.append_ne_nil_of_right_ne_nil _ hsuffix.nonempty, ?_,
      List.forall_mem_append.2 ⟨fun c hc => h.allowed c (List.mem_of_mem_take hc), hsuffix.allowed⟩⟩
    have hshort := hsuffix.short
    rw [List.length_append, List.length_take, maxLength]
    omega

/-! ### Titles in a row -/

/-- A title is the first free candidate for its name, one of the first `used.length + 2`. -/
theorem next_spec (used : List String) (name : List Char) :
    ∃ n ≤ used.length + 2, IsFirstFree used (plain name) n ∧
      next used name =
        (candidate (plain name) n, key (candidate (plain name) n) :: used) := by
  obtain ⟨n, hn, hfirst, hfree⟩ := free_spec used (plain name)
  exact ⟨n, hn, hfirst, by rw [next, hfree]⟩

theorem all_cons (used : List String) (name : List Char) (names : List (List Char)) :
    all used (name :: names) = (next used name).1 :: all (next used name).2 names := rfl

@[simp] theorem length_all (used : List String) (names : List (List Char)) :
    (all used names).length = names.length := by
  induction names generalizing used with
  | nil => rfl
  | cons name names ih => rw [all_cons, List.length_cons, ih, List.length_cons]

theorem all_append (used : List String) (before after : List (List Char)) :
    all used (before ++ after) =
      all used before ++ all (((all used before).map key).reverse ++ used) after := by
  induction before generalizing used with
  | nil => rfl
  | cons name before ih =>
    have hused : (next used name).2 = key (next used name).1 :: used := rfl
    rw [List.cons_append, all_cons, ih, all_cons, hused]
    simp

theorem fits_all (names : List (List Char)) (h : used.length + names.length < 10 ^ 29) :
    ∀ title ∈ all used names, Fits title := by
  induction names generalizing used with
  | nil => simp [all]
  | cons name names ih =>
    obtain ⟨n, hn, -, hnext⟩ := next_spec used name
    rw [List.length_cons] at h
    rw [all_cons, hnext, List.forall_mem_cons]
    exact ⟨fits_candidate (fits_plain name) (by omega), ih (by rw [List.length_cons]; omega)⟩

/-- No two titles are equal regardless of case, nor is one equal to a title used before. -/
theorem nodup_all (used : List String) (names : List (List Char)) :
    ((all used names).map key).Nodup ∧ ∀ title ∈ all used names, key title ∉ used := by
  induction names generalizing used with
  | nil => simp [all]
  | cons name names ih =>
    obtain ⟨n, -, hfirst, hnext⟩ := next_spec used name
    obtain ⟨hnodup, hrest⟩ := ih (key (candidate (plain name) n) :: used)
    rw [all_cons, hnext, List.map_cons, List.nodup_cons, List.forall_mem_cons, List.mem_map]
    refine ⟨⟨?_, hnodup⟩, hfirst.1.2, fun title htitle hused =>
      hrest title htitle (List.mem_cons_of_mem _ hused)⟩
    rintro ⟨title, htitle, hkey⟩
    exact hrest title htitle (hkey ▸ List.mem_cons_self ..)

/-- Fewer than `10 ^ 29` names get titles that are legal, of 1 to 31 characters none of which is
reserved, no two of them equal regardless of case, whatever the names are. Numbered candidates for a title always differ, so each name gets the first
candidate that no title before it has, one of at most two more than there are titles before it. -/
theorem all_legal {names : List (List Char)} (hcount : names.length < 10 ^ 29) :
    (∀ title ∈ all [] names, (1 ≤ title.length ∧ title.length ≤ 31) ∧
        ∀ c ∈ title, c ∉ ['[', ']', ':', '*', '?', '/', '\\']) ∧
      ((all [] names).map key).Nodup ∧
      (∀ title, Set.InjOn (fun n => key (candidate title n)) {n | 2 ≤ n}) ∧
      ∀ before name after, names = before ++ name :: after →
        ∃ n ≤ (all [] before).length + 2, IsFirstFree ((all [] before).map key) (plain name) n ∧
          ∃ later, all [] names = all [] before ++ candidate (plain name) n :: later := by
  refine ⟨fun title htitle => ?_, (nodup_all [] names).1, fun _ => key_candidate_injOn, ?_⟩
  · have hfits := fits_all names (by simpa using hcount) title htitle
    exact ⟨⟨List.length_pos_iff.2 hfits.nonempty, hfits.short⟩, hfits.allowed⟩
  rintro before name after rfl
  obtain ⟨n, hn, hfirst, hnext⟩ := next_spec (((all [] before).map key).reverse ++ []) name
  have hlater := all_append [] before (name :: after)
  rw [all_cons, hnext] at hlater
  exact ⟨n, by simpa using hn, by simpa [IsFirstFree] using hfirst, _, hlater⟩

/-- Names that look like generated titles, and such that are empty or reserved. -/
theorem all_legal_generated :
    let names := ["a", "A", "a~2", "", "[]"].map String.toList
    names.length < 10 ^ 29 ∧
      (all [] names).map String.ofList = ["a", "A~2", "a~2~2", "Page", "__"] ∧
      (∀ title ∈ all [] names, (1 ≤ title.length ∧ title.length ≤ 31) ∧
        ∀ c ∈ title, c ∉ ['[', ']', ':', '*', '?', '/', '\\']) ∧
      ((all [] names).map key).Nodup :=
  have hcount : (["a", "A", "a~2", "", "[]"].map String.toList).length < 10 ^ 29 := by decide
  ⟨hcount, by decide, (all_legal hcount).1, (all_legal hcount).2.1⟩

/-- The second candidate for a title of full length that ends with a number may be the title. -/
example : candidate "abcdefghijklmnopqrstuvwxyzabc~2".toList 2 =
    "abcdefghijklmnopqrstuvwxyzabc~2".toList := by decide

end Title

/-- The worksheets of a report are titled one after another, from the first page on. -/
theorem Report.titles_of_writePages {used : List String} {pages : List Page}
    {sheets : List Worksheet} (h : Yields (writePages used pages) sheets) :
    ∃ names : List String, pages.map (·.name) = names.map Cell.str ∧
      sheets.map (·.title.toList) = Title.all used (names.map String.toList) := by
  induction pages generalizing used sheets with
  | nil =>
    rw [writePages] at h
    rw [h.of_pure]
    exact ⟨[], rfl, rfl⟩
  | cons page pages ih =>
    rw [writePages] at h
    split at h
    case h_2 => exact absurd h Yields.of_throw
    case h_1 name hname =>
      obtain ⟨rows, -, h⟩ := h.of_bind
      -- whether the page is reported as retitled or not, the other pages come next
      have hrest : ∃ others, Yields (writePages (Title.next used name.toList).2 pages) others ∧
          sheets = ⟨String.ofList (Title.next used name.toList).1, rows⟩ :: others := by
        split at h
        case isTrue =>
          obtain ⟨_, -, h⟩ := h.of_bind
          obtain ⟨others, hothers, h⟩ := h.of_bind
          exact ⟨others, hothers, h.of_pure⟩
        case isFalse =>
          obtain ⟨others, hothers, h⟩ := h.of_bind
          exact ⟨others, hothers, h.of_pure⟩
      obtain ⟨others, hothers, rfl⟩ := hrest
      obtain ⟨names, hnames, htitles⟩ := ih hothers
      refine ⟨name :: names, by rw [List.map_cons, hname, hnames, List.map_cons], ?_⟩
      rw [List.map_cons, htitles, List.map_cons, Title.all_cons, String.toList_ofList]

end SheetSchema
