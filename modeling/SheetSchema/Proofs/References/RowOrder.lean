import Mathlib.Data.List.Perm.Basic
import Mathlib.Logic.Equiv.Defs
import SheetSchema.Proofs.References.TextGrid
import SheetSchema.Proofs.Trees.Shuffles

/-! Grids of texts that differ in the order of data rows. A row means the same wherever it stands;
only a request tells where it was made, and the content that it asks for does not depend on this.
So both grids build or neither does, and what they build differs in the order of siblings. -/
namespace SheetSchema

namespace Row

variable {vocabulary : Vocabulary} {scope : Scope}

/-- A row requests the same content wherever it stands. -/
theorem request?_number (row : Row) (number : Int) :
    ({ row with number } : Row).request? vocabulary scope =
      (row.request? vocabulary scope).map fun request => { request with row := number } := by
  have hcontent : ({ row with number } : Row).content vocabulary scope =
      row.content vocabulary scope := rfl
  have htype : ({ row with number } : Row).fieldType vocabulary = row.fieldType vocabulary := rfl
  unfold request?
  rw [hcontent, htype]
  cases row.content vocabulary scope with
  | nothing => rfl
  | field => dsimp only; split <;> rfl
  | notesReference => dsimp only; split <;> rfl

/-- A row is entered alike in another place, if its request has a shuffled content there. -/
theorem Entered.renumber {row : Row} {built built' : Request → Forest Node → Prop}
    {entry : Sketch.Entry} (h : row.Entered vocabulary scope built entry) (number : Int)
    (hbuilt : ∀ request children, built request children →
      ∃ children', built' { request with row := number } children' ∧
        children.Shuffled children') :
    ∃ entry', ({ row with number } : Row).Entered vocabulary scope built' entry' ∧
      entry.Shuffled entry' := by
  cases h with
  | bare hm hn => exact ⟨_, .bare hm hn, rfl, .refl _⟩
  | field hm hn hr =>
    refine ⟨_, .field hm hn ?_, rfl, .refl _⟩
    rw [request?_number, hr, Option.map_none]
  | reference hm hn hr hchildren =>
    obtain ⟨children', hchildren', hshuffled⟩ := hbuilt _ _ hchildren
    refine ⟨_, .reference hm hn ?_ hchildren', rfl, .node _ hshuffled .nil⟩
    rw [request?_number, hr, Option.map_some]

end Row

namespace TextGrid

/-- Two grids with the same sheets, metadata and, but for their order, data rows. -/
structure SameRows (vocabulary : Vocabulary) (root : String) (grid other : TextGrid) : Prop where
  sheets : grid.sheets = other.sheets
  rowExtent : grid.rowExtent = other.rowExtent
  dataRows : ∀ sheet, (grid.dataRows vocabulary.layout (sheet = root) sheet).Perm
    (other.dataRows vocabulary.layout (sheet = root) sheet)
  description : grid.text root vocabulary.layout.descriptionCell.1
    vocabulary.layout.descriptionCell.2 = other.text root vocabulary.layout.descriptionCell.1
      vocabulary.layout.descriptionCell.2
  version : grid.text root vocabulary.layout.versionCell.1 vocabulary.layout.versionCell.2 =
    other.text root vocabulary.layout.versionCell.1 vocabulary.layout.versionCell.2

namespace SameRows

variable {vocabulary : Vocabulary} {root : String} {grid other : TextGrid}

theorem symm (h : SameRows vocabulary root grid other) : SameRows vocabulary root other grid where
  sheets := h.sheets.symm
  rowExtent := h.rowExtent.symm
  dataRows sheet := (h.dataRows sheet).symm
  description := h.description.symm
  version := h.version.symm

theorem toGrid_sheets (h : SameRows vocabulary root grid other) :
    grid.toGrid.sheets = other.toGrid.sheets := h.sheets

theorem toGrid_rowExtent (h : SameRows vocabulary root grid other) :
    grid.toGrid.rowExtent = other.toGrid.rowExtent := h.rowExtent

/-- The rows of a sheet are entered in another order, with shuffled contents. -/
theorem exists_entries (h : SameRows vocabulary root grid other) {scope : Scope}
    (hscope : scope.isRoot = decide (scope.sheet = root)) {built : Request → Forest Node → Prop}
    (built' : Request → Forest Node → Prop)
    (hbuilt : ∀ request children, built request children → ∀ number,
      ∃ children', built' { request with row := number } children' ∧
        children.Shuffled children')
    {entries : List Sketch.Entry}
    (hentries : List.Forall₂ (Row.Entered vocabulary scope built)
      (grid.toGrid.dataRows vocabulary scope.isRoot scope.sheet) entries) :
    ∃ entries',
      List.Forall₂ (Row.Entered vocabulary scope built')
        (other.toGrid.dataRows vocabulary scope.isRoot scope.sheet) entries' ∧
      (Sketch.assemble scope.sheet entries).Shuffled (Sketch.assemble scope.sheet entries') := by
  have hrows : List.Forall₂
      (fun row entry => ∃ number, (row.toRow number).Entered vocabulary scope built entry)
      (grid.dataRows vocabulary.layout scope.isRoot scope.sheet) entries := by
    rw [dataRows_toGrid, List.forall₂_map_left_iff] at hentries
    rw [TextGrid.dataRows, List.forall₂_map_left_iff]
    exact hentries.imp fun number _ hentered => ⟨number, hentered⟩
  have htexts : ∀ entry ∈ entries, Sketch.IsTexts entry.1 := by
    intro entry hentry
    obtain ⟨row, _, number, hentered⟩ := exists_of_forall₂_right hrows hentry
    exact hentered.path_eq ▸ Sketch.isTexts_map_str row.path
  have hperm := h.dataRows scope.sheet
  rw [← hscope] at hperm
  obtain ⟨middle, hmiddle, hmoved⟩ := List.perm_comp_forall₂ hperm.symm hrows
  rw [TextGrid.dataRows, List.forall₂_map_left_iff] at hmiddle
  have hplace (place : Int) (entry : Sketch.Entry)
      (hentered : ∃ number, ((other.row vocabulary.layout scope.sheet place).toRow number).Entered
        vocabulary scope built entry) :
      ∃ entry', ((other.row vocabulary.layout scope.sheet place).toRow place).Entered vocabulary
        scope built' entry' ∧ entry.Shuffled entry' := by
    obtain ⟨number, hentered⟩ := hentered
    exact hentered.renumber place fun request children hchildren =>
      hbuilt request children hchildren place
  obtain ⟨entries', hentered, hshuffled⟩ := exists_forall₂_of_related hplace hmiddle
  refine ⟨entries', ?_, Sketch.assemble_shuffled scope.sheet htexts hmoved.symm hshuffled⟩
  rw [dataRows_toGrid, List.forall₂_map_left_iff]
  exact hentered

/-- Where the one grid builds the forest of a sheet, the other one builds a shuffled one. -/
theorem exists_forest (h : SameRows vocabulary root grid other) {chain : List String}
    {scope : Scope} {forest : Forest Node} (hroot : root ∈ chain)
    (hscope : scope.isRoot = decide (scope.sheet = root))
    (hforest : grid.toGrid.forest vocabulary (grid.toGrid.content vocabulary chain) scope =
      .ok forest) :
    ∃ forest', other.toGrid.forest vocabulary (other.toGrid.content vocabulary chain) scope =
        .ok forest' ∧ forest.Shuffled forest' := by
  refine Grid.forest_induction (P := fun chain scope forest =>
    root ∈ chain → scope.isRoot = decide (scope.sheet = root) →
      ∃ forest', other.toGrid.forest vocabulary (other.toGrid.content vocabulary chain) scope =
        .ok forest' ∧ forest.Shuffled forest') ?_ hforest hroot hscope
  intro chain scope entries hentries hroot hscope
  have hbuilt (request : Request) (children : Forest Node)
      (hchildren : grid.toGrid.content vocabulary chain request = .ok children ∧
        (root ∈ chain ++ [request.sheet] →
          request.scope.isRoot = decide (request.scope.sheet = root) →
          ∃ forest', other.toGrid.forest vocabulary
            (other.toGrid.content vocabulary (chain ++ [request.sheet])) request.scope =
              .ok forest' ∧ children.Shuffled forest')) (number : Int) :
      ∃ children', other.toGrid.content vocabulary chain { request with row := number } =
        .ok children' ∧ children.Shuffled children' := by
    obtain ⟨hcontent, hbelow⟩ := hchildren
    obtain ⟨hc, hs, he, _⟩ := Grid.content_eq_ok_iff.1 hcontent
    have hne : request.sheet ≠ root := fun heq => hc (heq ▸ hroot)
    obtain ⟨children', hforest', hshuffled⟩ :=
      hbelow (List.mem_append_left _ hroot) (decide_eq_false hne).symm
    have hs' : request.sheet ∈ other.toGrid.sheets := h.toGrid_sheets ▸ hs
    have he' : vocabulary.layout.referenceFirstRow ≤ other.toGrid.rowExtent request.sheet :=
      h.toGrid_rowExtent ▸ he
    exact ⟨children', Grid.content_eq_ok_iff.2 ⟨hc, hs', he', hforest'⟩, hshuffled⟩
  obtain ⟨entries', hentries', hshuffled⟩ := h.exists_entries hscope
    (fun request children => other.toGrid.content vocabulary chain request = .ok children) hbuilt
    hentries
  exact ⟨_, Grid.forest_eq_ok_iff.2 ⟨entries', hentries', rfl⟩, hshuffled⟩

end SameRows

end TextGrid

/-- Two schemas that differ at most in the order of siblings. -/
structure Schema.Shuffled (schema other : Schema) : Prop where
  description : schema.description = other.description
  version : schema.version = other.version
  forest : schema.forest.Shuffled other.forest

namespace TextGrid

variable {vocabulary : Vocabulary} {root : String}

theorem SameRows.exists_schema {grid other : TextGrid} (h : SameRows vocabulary root grid other)
    {schema : Schema} (hschema : grid.toGrid.schema vocabulary root = .ok schema) :
    ∃ schema', other.toGrid.schema vocabulary root = .ok schema' ∧ schema.Shuffled schema' := by
  obtain ⟨hs, he, hf, hdescription, hversion⟩ := Grid.schema_eq_ok_iff.1 hschema
  obtain ⟨forest, hforest, hshuffled⟩ :=
    h.exists_forest (List.mem_singleton_self root) (by simp [rootScope]) hf
  refine ⟨{ description := schema.description, version := schema.version, forest },
    Grid.schema_eq_ok_iff.2 ⟨h.toGrid_sheets ▸ hs, h.toGrid_rowExtent ▸ he, hforest, ?_, ?_⟩,
    rfl, rfl, hshuffled⟩
  · exact hdescription.trans (congrArg Value.str h.description)
  · exact hversion.trans (congrArg Value.str h.version)

/-- The grid with the rows of a sheet rearranged: in each place there is the row that the order
has in it. -/
def rearrange (grid : TextGrid) (sheet : String) (order : Equiv.Perm Int) : TextGrid where
  sheets := grid.sheets
  rowExtent := grid.rowExtent
  text name row col := grid.text name (if name = sheet then order row else row) col

/-- An order that moves only rows within some bounds keeps the rows within them. -/
theorem range_perm {firstRow lastRow : Int} {order : Equiv.Perm Int}
    (hmoved : ∀ number, order number ≠ number → firstRow ≤ number ∧ number ≤ lastRow) :
    ((Int.range firstRow (lastRow + 1)).map order).Perm (Int.range firstRow (lastRow + 1)) := by
  have hnodup : (Int.range firstRow (lastRow + 1)).Nodup :=
    List.nodup_range.map fun offset other heq => Int.ofNat_inj.1 (Int.add_left_cancel heq)
  have hkeeps : (Int.range firstRow (lastRow + 1)).map order ⊆
      Int.range firstRow (lastRow + 1) := by
    intro number hnumber
    obtain ⟨place, hplace, rfl⟩ := List.mem_map.1 hnumber
    by_cases hstays : order place = place
    · rwa [hstays]
    · obtain ⟨hfirst, hlast⟩ := hmoved _ fun heq => hstays (order.injective heq)
      exact Int.mem_range_iff.2 ⟨hfirst, Int.lt_add_one_iff.2 hlast⟩
  exact (List.subperm_of_subset (hnodup.map order.injective) hkeeps).perm_of_length_le
    (Nat.le_of_eq (List.length_map ..).symm)

/-- Rearranging the data rows of a sheet, with the metadata above them on the root sheet, leaves
the grid with the same rows. -/
theorem sameRows_rearrange (grid : TextGrid) {sheet : String} {order : Equiv.Perm Int}
    (hmoved : ∀ number, order number ≠ number →
      vocabulary.layout.firstRow (sheet = root) ≤ number ∧ number ≤ grid.rowExtent sheet)
    (hcells : sheet = root →
      vocabulary.layout.descriptionCell.1 < vocabulary.layout.rootFirstRow ∧
        vocabulary.layout.versionCell.1 < vocabulary.layout.rootFirstRow) :
    SameRows vocabulary root grid (grid.rearrange sheet order) := by
  have hcell (row col : Int) (habove : sheet = root → row < vocabulary.layout.rootFirstRow) :
      grid.text root row col = (grid.rearrange sheet order).text root row col := by
    by_cases hroot : root = sheet
    · have hstays : order row = row := by
        by_contra hmoves
        have hbound := (hmoved row hmoves).1
        rw [decide_eq_true hroot.symm] at hbound
        exact Int.not_lt.2 hbound (habove hroot.symm)
      simp only [rearrange, if_pos hroot, hstays]
    · simp only [rearrange, if_neg hroot]
  refine ⟨rfl, rfl, fun name => ?_, hcell _ _ fun hroot => (hcells hroot).1,
    hcell _ _ fun hroot => (hcells hroot).2⟩
  by_cases hname : name = sheet
  · subst hname
    have hrows : (grid.rearrange name order).dataRows vocabulary.layout (name = root) name =
        ((Int.range (vocabulary.layout.firstRow (name = root)) (grid.rowExtent name + 1)).map
          order).map (grid.row vocabulary.layout name) := by
      rw [List.map_map]
      refine List.map_congr_left fun number _ => ?_
      simp only [row, rearrange, if_true, Function.comp_apply]
    rw [hrows]
    exact ((range_perm hmoved).map _).symm
  · apply List.Perm.of_eq
    refine List.map_congr_left fun number _ => ?_
    simp only [row, rearrange, if_neg hname]

end TextGrid

end SheetSchema
