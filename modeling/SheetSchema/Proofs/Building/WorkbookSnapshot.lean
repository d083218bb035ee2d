import SheetSchema.Proofs.Computation
import SheetSchema.Proofs.References.TextGrid
import SheetSchema.Workbook

/-! What a build sees of a workbook. Looking at cells makes cells exist, and formulas show their
values only on sheets that were recalculated; but a build recalculates a sheet before it looks at
it, and looks at no row of a referenced sheet below its last one. So it sees a grid of texts that
does not change: the snapshot of the workbook as it was at first. -/
namespace SheetSchema

namespace Sheet

theorem rowExtent_touch (sheet : Sheet) (place : Place) (hlast : place.row ≤ sheet.rowExtent) :
    (sheet.touch place).rowExtent = sheet.rowExtent := by
  have hcol := sheet.lastCol_pos
  have hrow := place.row_pos
  unfold rowExtent at hlast ⊢
  have hvalue : (sheet.touch place).value 1 1 = sheet.value 1 1 := rfl
  by_cases hblank : sheet.lastRow = 1 ∧ sheet.lastCol = 1 ∧ sheet.value 1 1 = .null
  · rw [if_pos hblank] at hlast
    omega
  · rw [if_neg hblank] at hlast ⊢
    have hmax : max sheet.lastRow place.row = sheet.lastRow := Nat.max_eq_left hlast
    rw [hvalue, if_neg]
    · exact hmax
    · rintro ⟨hr, hc, hv⟩
      refine hblank ⟨hmax ▸ hr, ?_, hv⟩
      have : max sheet.lastCol place.col = 1 := hc
      omega

/-- The place at a row and a column that a worksheet has. -/
theorem place_eq_ok {row col : Int} {place : Place} (h : Sheet.place row col = .ok place) :
    place.row = row ∧ place.col = col := by
  unfold Sheet.place at h
  split at h
  · contradiction
  · split at h
    · contradiction
    · cases h
      constructor <;> dsimp only <;> omega

end Sheet

namespace Workbook

theorem sheet?_modify (book : Workbook) (name other : String) (f : Sheet → Sheet) :
    (book.modify name f).sheet? other =
      if other = name then (book.sheet? other).map f else book.sheet? other := by
  unfold sheet? modify
  induction book.sheets with
  | nil => simp
  | cons entry rest ih =>
    obtain ⟨key, sheet⟩ := entry
    have hentry : (if key = name then (key, f sheet) else (key, sheet)) =
        (key, if key = name then f sheet else sheet) := by split <;> rfl
    rw [List.map_cons, hentry, List.lookup_cons, List.lookup_cons]
    by_cases hkey : other = key
    · subst hkey
      by_cases hname : other = name <;> simp [hname]
    · have hne : (other == key) = false := by simpa using hkey
      rw [hne]
      exact ih

end Workbook

namespace OpenWorkbook

/-- What a build over a workbook sees: the last rows as they are at first, and the text of every
cell once its sheet has been recalculated. -/
def snapshot (book : OpenWorkbook) (sheets : List String) : TextGrid where
  sheets := sheets
  rowExtent name :=
    match book.rowExtent name with
    | .ok extent => extent
    | .error _ => 0
  text name row col :=
    match (shown name row col (book.recalculate name)).1 with
    | .ok (.str text) => text
    | _ => ""

/-- A row that is not below the last one of a sheet, if the sheet is there. -/
def Reaches (book : OpenWorkbook) (name : String) (row : Int) : Prop :=
  ∀ extent, book.rowExtent name = .ok extent → row ≤ extent

/-- A source without a state that has the last rows of a workbook as they are at first, and in every
cell what it shows once its sheet has been recalculated. Where the workbook has an error that counts
as `Lost`, the source may show anything. -/
structure Mirrors (first : OpenWorkbook) (sheets : List String) (Lost : AccessError → Prop)
    (mirror : Source Unit) : Prop where
  sheets : mirror.sheets = sheets
  rowExtent : ∀ name, (∃ error, first.rowExtent name = .error error ∧ Lost error) ∨
    mirror.rowExtent name () = first.rowExtent name
  shown : ∀ name row col,
    (∃ error, (shown name row col (first.recalculate name)).1 = .error error ∧ Lost error) ∨
    (mirror.shown name row col ()).1 = (OpenWorkbook.shown name row col (first.recalculate name)).1

/-- How a build over a workbook goes on next to one over its mirror: no value has changed, nor has
the last row of the sheets that are `fixed`, and the sheets of the chain have been recalculated. -/
structure Follows (first : OpenWorkbook) (fixed : String → Prop) (chain : List String)
    (p : Progress OpenWorkbook) (q : Progress Unit) : Prop where
  computed : p.source.computed = first.computed
  values : ∀ name, (p.source.raw.sheet? name).map (·.values) =
    (first.raw.sheet? name).map (·.values)
  extent : ∀ name, fixed name → p.source.rowExtent name = first.rowExtent name
  recalculated : p.recalculated = q.recalculated
  included : ∀ name ∈ p.recalculated, name ∈ p.source.recalculated
  opened : ∀ name ∈ chain, name ∈ p.recalculated

/-- A build over `book` can go on next to the mirror of `first` from its start. -/
def Undisturbed (first book : OpenWorkbook) : Prop :=
  first.Follows (fun _ => True) [] { source := book } { source := () }

variable {first : OpenWorkbook} {fixed : String → Prop} {chain : List String}
  {p : Progress OpenWorkbook} {q : Progress Unit}

theorem mem_recalculate (name : String) (book : OpenWorkbook) :
    name ∈ (book.recalculate name).recalculated := by
  unfold recalculate
  split
  next h => exact h
  · simp

theorem subset_recalculate (name : String) (book : OpenWorkbook) :
    book.recalculated ⊆ (book.recalculate name).recalculated := by
  unfold recalculate
  split
  · exact List.Subset.refl _
  · exact List.subset_append_left _ _

theorem raw_recalculate (name : String) (book : OpenWorkbook) :
    (book.recalculate name).raw = book.raw := by
  unfold recalculate
  split <;> rfl

theorem computed_recalculate (name : String) (book : OpenWorkbook) :
    (book.recalculate name).computed = book.computed := by
  unfold recalculate
  split <;> rfl

theorem rowExtent_recalculate (name other : String) (book : OpenWorkbook) :
    (book.recalculate name).rowExtent other = book.rowExtent other := by
  unfold rowExtent
  rw [raw_recalculate]

/-- On a recalculated sheet, what a cell shows depends on the values alone. -/
theorem shown_congr {book other : OpenWorkbook} {name : String} (row col : Int)
    (hcomputed : book.computed = other.computed)
    (hvalues : (book.raw.sheet? name).map (·.values) = (other.raw.sheet? name).map (·.values))
    (hbook : name ∈ book.recalculated) (hother : name ∈ other.recalculated) :
    (shown name row col book).1 = (shown name row col other).1 := by
  unfold shown
  rcases hb : book.raw.sheet? name with _ | sheet
  · rw [hb] at hvalues
    rcases ho : other.raw.sheet? name with _ | sheet'
    · rfl
    · simp [ho] at hvalues
  · rw [hb] at hvalues
    rcases ho : other.raw.sheet? name with _ | sheet'
    · simp [ho] at hvalues
    · have hsame : sheet.values = sheet'.values := by simpa [ho] using hvalues
      rcases Sheet.place row col with error | place
      · rfl
      · have hvalue : sheet.value place.row place.col = sheet'.value place.row place.col := by
          unfold Sheet.value
          rw [hsame]
        simp only [effective, hvalue, hcomputed, hbook, hother]

namespace Follows

theorem shown_eq (h : Follows first fixed chain p q) {name : String} (hname : name ∈ chain)
    (row col : Int) :
    (shown name row col p.source).1 = (shown name row col (first.recalculate name)).1 := by
  refine shown_congr row col ?_ ?_ (h.included name (h.opened name hname))
    (mem_recalculate name first)
  · rw [computed_recalculate, h.computed]
  · rw [raw_recalculate, h.values]

/-- The sheet that was opened last leaves the chain. -/
theorem weaken {sheet : String} (h : Follows first fixed (chain ++ [sheet]) p q) :
    Follows first fixed chain p q :=
  { h with opened := fun name hname => h.opened name (List.mem_append_left _ hname) }

theorem exempt {fixed' : String → Prop} (h : Follows first fixed chain p q)
    (hfixed : ∀ name, fixed' name → fixed name) : Follows first fixed' chain p q :=
  { h with extent := fun name hname => h.extent name (hfixed name hname) }

theorem touch (h : Follows first fixed chain p q) {name : String} {sheet : Sheet}
    (hsheet : p.source.raw.sheet? name = some sheet) {place : Sheet.Place}
    (hrow : fixed name → place.row ≤ sheet.rowExtent) :
    Follows first fixed chain
      { p with source :=
        { p.source with raw := p.source.raw.modify name (·.touch place) } } q := by
  refine ⟨h.computed, fun other => ?_, fun other hother => ?_, h.recalculated, h.included,
    h.opened⟩
  · rw [← h.values other, Workbook.sheet?_modify]
    by_cases hname : other = name
    · rw [if_pos hname, Option.map_map]
      rfl
    · rw [if_neg hname]
  · rw [← h.extent other hother]
    unfold rowExtent
    rw [Workbook.sheet?_modify]
    by_cases hname : other = name
    · subst hname
      have hextent := sheet.rowExtent_touch place (hrow hother)
      rw [if_pos rfl, hsheet]
      simp only [Option.map_some, hextent]
    · rw [if_neg hname]

/-- A cell can be looked at, of a fixed sheet if it is not below the last row. -/
theorem after_shown (h : Follows first fixed chain p q) {name : String} {row : Int} (col : Int)
    (hrow : fixed name → first.Reaches name row) :
    Follows first fixed chain { p with source := (shown name row col p.source).2 } q := by
  rcases hsheet : p.source.raw.sheet? name with _ | sheet
  · simpa only [shown, hsheet] using h
  · rcases hplace : Sheet.place row col with error | place
    · simpa only [shown, hsheet, hplace] using h
    · have hinside (hfixed : fixed name) : place.row ≤ sheet.rowExtent := by
        have hplaced := (Sheet.place_eq_ok hplace).1
        have hextent : p.source.rowExtent name = .ok sheet.rowExtent := by
          rw [rowExtent, hsheet]
        rw [h.extent name hfixed] at hextent
        have hlast := hrow hfixed _ hextent
        omega
      simpa only [shown, hsheet, hplace] using h.touch hsheet hinside

end Follows

theorem undisturbed_self (book : OpenWorkbook) : book.Undisturbed book :=
  ⟨rfl, fun _ => rfl, fun _ _ => rfl, rfl, nofun, nofun⟩

/-- A cell that can be looked at shows a text. -/
theorem exists_text_of_shown {name : String} {row col : Int} {book : OpenWorkbook} {v : Value}
    (h : (shown name row col book).1 = .ok v) : ∃ text, v = .str text := by
  unfold shown at h
  split at h
  · contradiction
  · split at h
    · contradiction
    · dsimp only at h
      rcases heffective : book.effective name _ _ with error | c
      · rw [heffective] at h
        contradiction
      · rw [heffective] at h
        cases h
        exact ⟨c.text, rfl⟩

/-- Where a workbook has no error, its snapshot mirrors it. -/
theorem mirrors_snapshot (book : OpenWorkbook) (sheets : List String) :
    book.Mirrors sheets (fun _ => True) (book.snapshot sheets).toGrid.source := by
  refine ⟨rfl, fun name => ?_, fun name row col => ?_⟩
  · rcases h : book.rowExtent name with error | extent
    · exact .inl ⟨error, rfl, trivial⟩
    · refine .inr ?_
      change Except.ok ((book.snapshot sheets).rowExtent name) = _
      simp only [snapshot, h]
  · rcases h : (shown name row col (book.recalculate name)).1 with error | v
    · exact .inl ⟨error, rfl, trivial⟩
    · refine .inr ?_
      obtain ⟨text, rfl⟩ := exists_text_of_shown h
      change Except.ok (Value.str ((book.snapshot sheets).text name row col)) = _
      simp only [snapshot, h]

end OpenWorkbook

end SheetSchema
