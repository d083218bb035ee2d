import SheetSchema.Proofs.Building.WorkbookAccess

/-! Builds that share a workbook. What a build leaves behind, cells that exist since it looked at them
and sheets that count as recalculated, disturbs no build that follows: no value changes, and no sheet
gets a later last row if the description and the version stand no lower than the data. So each of
several builds answers as it would alone. -/
namespace SheetSchema

/-- The description and the version stand no lower than the first data row of the root sheet. -/
def Layout.HasHeading (layout : Layout) : Prop :=
  ∀ cell ∈ [layout.descriptionCell, layout.versionCell], cell.1 ≤ layout.rootFirstRow

instance (layout : Layout) : Decidable layout.HasHeading := by
  unfold Layout.HasHeading
  infer_instance

namespace OpenWorkbook

variable {first book : OpenWorkbook} {sheets : List String}

/-- What a build over a workbook sees, errors included: the last rows as they are at first, and every
cell as it is shown once its sheet has been recalculated. -/
def frozen (book : OpenWorkbook) (sheets : List String) : Source Unit where
  sheets := sheets
  rowExtent name _ := book.rowExtent name
  shown name row col _ := ((shown name row col (book.recalculate name)).1, ())
  recalculate _ _ := ()

theorem mirrors_frozen (book : OpenWorkbook) (sheets : List String) :
    book.Mirrors sheets (fun _ => False) (book.frozen sheets) :=
  ⟨rfl, fun _ => .inr rfl, fun _ _ _ => .inr rfl⟩

namespace Undisturbed

variable (h : first.Undisturbed book)
include h

/-- Which sheets were recalculated before does not matter. -/
theorem forget (recalculated : List String) : Undisturbed { first with recalculated } book :=
  ⟨h.computed, h.values, h.extent, rfl, nofun, nofun⟩

theorem recalculate (name : String) : first.Undisturbed (book.recalculate name) := by
  refine ⟨?_, fun other => ?_, fun other hother => ?_, rfl, nofun, nofun⟩
  · exact (computed_recalculate name book).trans h.computed
  · exact (congrArg (fun raw : Workbook => (raw.sheet? other).map (·.values))
      (raw_recalculate name book)).trans (h.values other)
  · exact (rowExtent_recalculate name other book).trans (h.extent other hother)

theorem shown {name : String} {row : Int} (hrow : first.Reaches name row) (col : Int) :
    first.Undisturbed (OpenWorkbook.shown name row col book).2 :=
  Follows.after_shown h col fun _ => hrow

end Undisturbed

end OpenWorkbook

namespace Build

open OpenWorkbook

variable {first book : OpenWorkbook} {sheets : List String}

theorem look_undisturbed {name : String} {row : Int} (hrow : first.Reaches name row) (col : Int) :
    Keeps (fun p : Progress OpenWorkbook => first.Undisturbed p.source) (fun _ => True)
      (look (OpenWorkbook.source sheets) name row col) fun _ => True := by
  intro p hp
  rw [run_look]
  refine ⟨hp.shown hrow col, ?_⟩
  split <;> exact True.intro

/-- A build looks at no row below the last one of its sheet. -/
theorem undisturbed_stable (first : OpenWorkbook) (sheets : List String) (layout : Layout) :
    Stable (OpenWorkbook.source sheets) layout first.Reaches
      (fun p => first.Undisturbed p.source) fun _ => True where
  schema _ := True.intro
  meaninglessRow _ _ := True.intro
  report _ := fun _ hp => ⟨hp, True.intro⟩
  recalculate name _ := by
    intro p hp
    rw [run_recalculate]
    refine ⟨?_, True.intro⟩
    dsimp only
    split
    · exact hp
    · exact hp.recalculate name
  rowExtent name _ := by
    intro p hp
    have hsame : (OpenWorkbook.source sheets).rowExtent name p.source = first.rowExtent name :=
      hp.extent name True.intro
    rw [run_rowExtent, hsame]
    refine ⟨hp, ?_⟩
    rcases hextent : first.rowExtent name with error | extent
    · exact True.intro
    · intro isRoot row _ hrow other hother
      cases hextent.symm.trans hother
      exact hrow
  look _ _ col hrow _ := look_undisturbed hrow col

/-- A build leaves its workbook undisturbed, also if it fails. -/
theorem undisturbed_build (hbook : first.Undisturbed book) {vocabulary : Vocabulary}
    (hlayout : vocabulary.layout.HasHeading) (root : String) (journal : Journal) :
    first.Undisturbed
      (build (OpenWorkbook.source sheets) vocabulary root book journal).2.source := by
  have hstable := undisturbed_stable first sheets vocabulary.layout
  have hM : Hereditary sheets vocabulary fun _ _ _ => True := fun _ _ _ _ => True.intro
  refine (hstable.schema_keeps hM root (fun _ hfirst cell hcell => ?_)
    { source := book, journal } hbook).1
  refine look_undisturbed (fun extent hextent => ?_) cell.2
  exact Int.le_trans (hlayout cell hcell) (hfirst extent hextent)

end Build

namespace OpenWorkbook

/-- A build that is asked for: by a builder with a vocabulary, of a root sheet. -/
structure Order where
  vocabulary : Vocabulary
  root : String

/-- The answer of a build, which is the schema or the error together with the sheets that the build
has recalculated, and the workbook as it is then. -/
def answer (sheets : List String) (book : OpenWorkbook) (order : Order) :
    (Except BuildError Schema × List String) × OpenWorkbook :=
  let (outcome, progress) := build (source sheets) order.vocabulary order.root book
  ((outcome, progress.recalculated), progress.source)

/-- The answers of builds that are made one after another, each on the workbook that the one before
has left, be it with a schema or with an error. -/
def answers (sheets : List String) :
    OpenWorkbook → List Order → List (Except BuildError Schema × List String)
  | _, [] => []
  | book, order :: orders =>
    (book.answer sheets order).1 :: answers sheets (book.answer sheets order).2 orders

variable {first book : OpenWorkbook} {sheets : List String}

/-- An undisturbed workbook answers as the first one did. -/
theorem Undisturbed.answer_eq (h : first.Undisturbed book) (order : Order) :
    (answer sheets book order).1 = (answer sheets first order).1 := by
  have hmirror := first.mirrors_frozen sheets
  obtain ⟨_, _, hlost⟩ | ⟨hbook, hbook'⟩ :=
    build_mirrored hmirror h order.vocabulary order.root #[] #[]
  · exact hlost.elim
  obtain ⟨_, _, hlost⟩ | ⟨halone, halone'⟩ :=
    build_mirrored hmirror first.undisturbed_self order.vocabulary order.root #[] #[]
  · exact hlost.elim
  exact Prod.ext (hbook.trans halone.symm) (hbook'.trans halone'.symm)

/-- Builds on an undisturbed workbook answer as each of them would on the first one. -/
theorem Undisturbed.answers_eq {orders : List Order} (h : first.Undisturbed book)
    (hlayout : ∀ order ∈ orders, order.vocabulary.layout.HasHeading) :
    book.answers sheets orders = orders.map fun order => (answer sheets first order).1 := by
  induction orders generalizing book with
  | nil => rfl
  | cons order orders ih =>
    obtain ⟨horder, horders⟩ := List.forall_mem_cons.1 hlayout
    have hafter : first.Undisturbed (answer sheets book order).2 :=
      Build.undisturbed_build h horder order.root #[]
    rw [answers, List.map_cons, ih hafter horders, h.answer_eq order]

/-- Builds do not disturb each other: each of several builds on one workbook, whatever builders make
them and whether those before it fail, answers as it would alone on the workbook as it was before
anything was recalculated. -/
theorem answers_eq_alone (book : OpenWorkbook) (orders : List Order)
    (hlayout : ∀ order ∈ orders, order.vocabulary.layout.HasHeading) :
    book.answers book.raw.names orders =
      orders.map fun order =>
        (answer book.raw.names { raw := book.raw, computed := book.computed } order).1 :=
  (book.undisturbed_self.forget []).answers_eq hlayout

end OpenWorkbook

namespace Formula

open Build

/-- The vocabulary with its notes in a column that no sheet has. -/
def broken : Vocabulary :=
  { Twice.vocabulary with layout := { Twice.vocabulary.layout with notesColumn := 0 } }

/-- The root sheet has been opened, and no other one. -/
def Opened (progress : Progress OpenWorkbook) : Prop :=
  progress.source.Accessible ["R"] ∧ progress.recalculated = ["R"]

/-- The only error is that of looking at a column that no sheet has. -/
def IsOutside (error : BuildError) : Prop := error = .access .outsideSheet

/-- Any other column can be looked at. -/
theorem look_opened {row col : Int} (hrow : 1 ≤ row ∧ row ≤ lastSheetRow) (hcol : 0 ≤ col) :
    Keeps Opened IsOutside (look (OpenWorkbook.source ["R"]) "R" row col) fun _ => 1 ≤ col := by
  rintro p ⟨haccessible, hrecalculated⟩
  have hsource : (OpenWorkbook.source ["R"]).shown "R" row col p.source =
      OpenWorkbook.shown "R" row col p.source := rfl
  rw [run_look, hsource]
  rcases Int.le_iff_eq_or_lt.1 hcol with rfl | hcol
  · obtain ⟨sheet, hsheet⟩ :=
      Option.isSome_iff_exists.1 (haccessible.sheet "R" (List.mem_singleton_self _))
    have hplace : Sheet.place row 0 = .error .outsideSheet := dif_pos (.inr (by decide))
    simp only [OpenWorkbook.shown, hsheet, hplace]
    exact ⟨⟨haccessible, hrecalculated⟩, rfl⟩
  · obtain ⟨hafter, herror⟩ := haccessible.shown (List.mem_singleton_self _) hrow.1 hcol
    refine ⟨⟨hafter, hrecalculated⟩, ?_⟩
    rcases hshown : (OpenWorkbook.shown "R" row col p.source).1 with error | value
    · exact absurd (herror error hshown).1 (Int.not_lt.2 hrow.2)
    · exact hcol

/-- The row is not read to its end. -/
theorem readEntry_opened (resolve : Request → BuildM OpenWorkbook (Forest Node)) :
    Keeps Opened IsOutside
      (readEntry (OpenWorkbook.source ["R"]) broken resolve (rootScope "R") 4) fun _ => False := by
  have hlook {col : Int} (hcol : 0 ≤ col) := look_opened (by decide : _ ∧ (4 : Int) ≤ _) hcol
  have hhierarchy : ∀ column ∈ List.range broken.layout.hierarchyColumns.toNat,
      Keeps Opened IsOutside (look (OpenWorkbook.source ["R"]) "R" 4 ((column : Nat) + 1))
        fun _ => True :=
    fun column _ => (hlook (by omega)).mono fun _ _ => True.intro
  have hrow : Keeps Opened IsOutside (readRow (OpenWorkbook.source ["R"]) broken "R" 4)
      fun _ => False := by
    refine (Keeps.mapM hhierarchy).bind fun _ _ => ?_
    refine (hlook (by decide : (0 : Int) ≤ 2)).bind fun _ _ => ?_
    refine (hlook (by decide : (0 : Int) ≤ 3)).bind fun _ _ => ?_
    exact (hlook (Int.le_refl 0)).bind fun _ hnotes => absurd hnotes (by decide)
  exact hrow.bind fun _ hfalse => hfalse.elim

/-- The workbook with the value of its formula. -/
def book : OpenWorkbook := { raw, computed := some computed }

theorem accessible_book : book.Accessible ["R"] where
  sheet := List.forall_mem_singleton.2 rfl
  computed := List.forall_mem_singleton.2 fun _ hcomputed => by cases hcomputed; rfl

/-- The build fails after it has recalculated the sheet and looked at cells. -/
theorem answer_broken :
    (book.answer ["R"] ⟨broken, "R"⟩).1 = (.error (.access .outsideSheet), ["R"]) := by
  let next (lastRow : Int) : BuildM OpenWorkbook Schema := do
    let description ← look (OpenWorkbook.source ["R"]) "R" 1 2
    let version ← look (OpenWorkbook.source ["R"]) "R" 2 2
    let forest ← scan (OpenWorkbook.source ["R"]) broken
      (resolve (OpenWorkbook.source ["R"]) broken ["R"]) (rootScope "R") 4 lastRow
    report (.built "R" forest.roots.length forest.size)
    return { description, version, forest }
  have hentries : Keeps Opened IsOutside
      ((rowNumbers 4 4).mapM (readEntry (OpenWorkbook.source ["R"]) broken
        (resolve (OpenWorkbook.source ["R"]) broken ["R"]) (rootScope "R"))) fun _ => False :=
    (readEntry_opened _).bind fun _ hfalse => hfalse.elim
  have hscan : Keeps Opened IsOutside
      (scan (OpenWorkbook.source ["R"]) broken
        (resolve (OpenWorkbook.source ["R"]) broken ["R"]) (rootScope "R") 4 4) fun _ => False :=
    hentries.bind fun _ hfalse => hfalse.elim
  have hnext : Keeps Opened IsOutside (next 4) fun _ => False := by
    refine (look_opened (by decide) (by decide)).bind fun _ _ => ?_
    refine (look_opened (by decide) (by decide)).bind fun _ _ => ?_
    exact hscan.bind fun _ hfalse => hfalse.elim
  have hopen : build (OpenWorkbook.source ["R"]) broken "R" book #[] =
      (next 4).run { source := book.recalculate "R", recalculated := ["R"] } := rfl
  obtain ⟨⟨_, hrecalculated⟩, houtcome⟩ :=
    hnext { source := book.recalculate "R", recalculated := ["R"] }
      ⟨accessible_book.recalculate "R", rfl⟩
  rw [← hopen] at hrecalculated houtcome
  refine Prod.ext ?_ hrecalculated
  change (build (OpenWorkbook.source ["R"]) broken "R" book #[]).1 = _
  rcases hbuild : (build (OpenWorkbook.source ["R"]) broken "R" book #[]).1 with error | schema
  · rw [hbuild] at houtcome
    rw [houtcome]
  · rw [hbuild] at houtcome
    exact houtcome.elim

end Formula

/-- A build that fails within its first row, after it has looked at cells and recalculated the sheet,
leaves the next one as it is. -/
theorem answers_broken_first :
    let book : OpenWorkbook := { raw := Formula.raw, computed := some Formula.computed }
    let orders : List OpenWorkbook.Order := [⟨Formula.broken, "R"⟩, ⟨Twice.vocabulary, "R"⟩]
    (book.answer ["R"] ⟨Formula.broken, "R"⟩).1 = (.error (.access .outsideSheet), ["R"]) ∧
      book.answers ["R"] orders = orders.map fun order => (book.answer ["R"] order).1 := by
  intro book orders
  refine ⟨Formula.answer_broken, ?_⟩
  refine OpenWorkbook.answers_eq_alone book orders ?_
  simp only [orders, List.forall_mem_cons, List.not_mem_nil, false_implies, implies_true, and_true]
  constructor <;> decide

end SheetSchema
