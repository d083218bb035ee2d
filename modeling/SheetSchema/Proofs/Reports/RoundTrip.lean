import Mathlib.Data.List.Nodup
import SheetSchema.Proofs.Computation
import SheetSchema.Proofs.Reports.Splitting
import SheetSchema.Report

/-! Reports read back. Pages of texts are written without a loss; what is lost in reading is a row
whose cells are all empty, an empty label that is the only one, and the borders of labels in which the
separator stands or between which it can be found in another place. Nothing else is lost, so the
pages come back exactly if no column is of that kind. -/
namespace SheetSchema

namespace Title

variable {used : List String} {name : List Char}

/-- A name that can be a title as it is. -/
structure Fits (name : List Char) : Prop where
  nonempty : name ≠ []
  short : name.length ≤ 31
  allowed : ∀ c ∈ name, c ∉ ['[', ']', ':', '*', '?', '/', '\\']

theorem isReserved_eq_false {c : Char} :
    isReserved c = false ↔ c ∉ ['[', ']', ':', '*', '?', '/', '\\'] := by
  rw [isReserved, List.contains_eq_mem, decide_eq_false_iff_not]
  rfl

instance : Decidable (Fits name) :=
  decidable_of_iff (name ≠ [] ∧ name.length ≤ 31 ∧
      name.all (· ∉ ['[', ']', ':', '*', '?', '/', '\\']) = true)
    ⟨fun ⟨nonempty, short, allowed⟩ => ⟨nonempty, short, by simpa using allowed⟩,
      fun h => ⟨h.nonempty, h.short, by simpa using h.allowed⟩⟩

theorem plain_eq_self (h : Fits name) : plain name = name := by
  have hallowed : name.map allowed = name := by
    refine (List.map_congr_left fun c hc => ?_).trans (List.map_id name)
    simp [Title.allowed, isReserved_eq_false.2 (h.allowed c hc)]
  rw [plain, hallowed, fit, if_neg (by simpa using h.nonempty), maxLength,
    List.take_of_length_le h.short]

/-- A name that can be a title is the title if no used one has its key. -/
theorem next_eq_self (h : Fits name) (hfree : key name ∉ used) :
    next used name = (name, key name :: used) := by
  have hfind : (List.range' 1 (used.length + 2)).find?
      (fun n => !used.contains (key (candidate name n))) = some 1 := by
    rw [List.range'_succ, List.find?_cons_of_pos]
    simpa [candidate] using hfree
  simp only [next, free, plain_eq_self h, hfind]
  simp [candidate]

end Title

namespace Report

/-- A row of a page whose fields and labels are texts. -/
structure TextColumn where
  tagName : String
  dataType : String
  description : String
  labels : List String
  deriving DecidableEq

namespace TextColumn

def toColumn (column : TextColumn) : Column where
  tagName := column.tagName
  dataType := column.dataType
  description := column.description
  labels := .list (column.labels.map .str)

def joined (column : TextColumn) : String := labelSeparator.intercalate column.labels

/-- The texts in the row of a column. -/
def texts (column : TextColumn) : List String :=
  [column.tagName, column.dataType, column.description, column.joined]

/-- The columns that can be read back: some text is not empty, and the labels can be told apart. -/
structure Legible (column : TextColumn) : Prop where
  shown : ∃ text ∈ column.texts, text ≠ ""
  labels_ne : column.labels ≠ [""]
  separate : ∀ label ∈ column.labels, ¬ " / ".toList <:+: label.toList
  ends : ∀ label ∈ column.labels.dropLast, ¬ " /".toList <:+ label.toList

/-- The labels as they are read back. -/
def rereadLabels (column : TextColumn) : List String :=
  if column.joined = "" then []
  else (Text.split labelSeparator.toList column.joined.toList).map String.ofList

/-- The column as it is read back, if it is. -/
def reread (column : TextColumn) : TextColumn := { column with labels := column.rereadLabels }

theorem toColumn_injective : Function.Injective toColumn := by
  rintro ⟨tagName, dataType, description, labels⟩ ⟨_, _, _, others⟩ h
  simp only [toColumn, Column.mk.injEq, Value.cell.injEq, Cell.str.injEq, Value.list.injEq] at h
  obtain ⟨rfl, rfl, rfl, hlabels⟩ := h
  rw [List.map_injective_iff.2 (fun _ _ h => by simpa using h) hlabels]

end TextColumn

/-- A page of texts. -/
structure TextPage where
  name : String
  rows : List TextColumn

namespace TextPage

def toPage (page : TextPage) : Page where
  name := .str page.name
  rows := page.rows.map TextColumn.toColumn

/-- The worksheet of the page. -/
def sheet (page : TextPage) : Worksheet where
  title := page.name
  rows := headers.map .str :: page.rows.map fun column => column.texts.map .str

/-- The texts in the cells of the page. -/
def texts (page : TextPage) : List String := headers ++ page.rows.flatMap TextColumn.texts

/-- The page as it is read back. -/
def reread (page : TextPage) : TextPage where
  name := page.name
  rows := (page.rows.filter fun column => column.texts.any (· ≠ "")).map TextColumn.reread

end TextPage

/-- The texts that a cell holds as they are. -/
structure Storable (text : String) : Prop where
  short : text.toList.length ≤ Value.maxTextLength
  legal : ∀ c ∈ text.toList, Value.isIllegal c = false

instance (text : String) : Decidable (Storable text) :=
  decidable_of_iff
    (text.toList.length ≤ Value.maxTextLength ∧ text.toList.all (!Value.isIllegal ·) = true)
    ⟨fun ⟨short, legal⟩ => ⟨short, by simpa using legal⟩,
      fun h => ⟨h.short, by simpa using h.legal⟩⟩

/-- The pages whose names are the titles of their worksheets, and whose texts can be stored. -/
structure Writable (pages : List TextPage) : Prop where
  nonempty : pages ≠ []
  titles : ∀ page ∈ pages, Title.Fits page.name.toList
  distinct : (pages.map fun page => Title.key page.name.toList).Nodup
  texts : ∀ page ∈ pages, ∀ column ∈ page.rows, ∀ text ∈ column.texts, Storable text

/-! ### Writing -/

section Writing

theorem stored_str {text : String} (h : Storable text) :
    (Value.str text).stored = .ok (.str text) := by
  have hlegal : text.toList.any Value.isIllegal = false := by simpa using h.legal
  simp [Value.stored, List.take_of_length_le h.short, hlegal]

theorem labelTexts?_map_str (texts : List String) : labelTexts? (texts.map .str) = some texts := by
  induction texts with
  | nil => rfl
  | cons text texts ih => simp [labelTexts?, ih]

variable {column : TextColumn} {page : TextPage} {pages : List TextPage}

theorem values_toColumn : values column.toColumn = .ok (column.texts.map .str) := by
  have hlabels : joinedLabels column.toColumn = .ok column.joined := by
    simp [joinedLabels, TextColumn.toColumn, Value.members?, labelTexts?_map_str,
      TextColumn.joined]
  rw [values, hlabels]
  rfl

theorem writeRow_toColumn (h : ∀ text ∈ column.texts, Storable text) :
    writeRow column.toColumn = .ok (column.texts.map .str) := by
  have hstored : (column.texts.map Value.str).mapM (fun value => value.stored.mapError .store) =
      (.ok (column.texts.map .str) : Except ReportError (List Cell)) := by
    rw [List.mapM_map]
    exact mapM_eq_ok_map fun text htext => by simp [stored_str (h text htext), Except.mapError]
  rw [writeRow, values_toColumn]
  exact hstored

theorem writeRows_toPage (h : ∀ column ∈ page.rows, ∀ text ∈ column.texts, Storable text) :
    writeRows page.toPage = .ok page.sheet.rows := by
  have hrows : page.toPage.rows.mapM writeRow =
      .ok (page.rows.map fun column => column.texts.map .str) := by
    rw [TextPage.toPage, List.mapM_map]
    exact mapM_eq_ok_map fun column hcolumn => writeRow_toColumn (h column hcolumn)
  rw [writeRows, hrows]
  rfl

/-- A page whose name is free is written under its name. -/
theorem writePages_cons {used : List String} {others : List Page}
    (hpage : Title.Fits page.name.toList) (hfree : Title.key page.name.toList ∉ used)
    (htexts : ∀ column ∈ page.rows, ∀ text ∈ column.texts, Storable text) :
    writePages used (page.toPage :: others) =
      (page.sheet :: ·) <$> writePages (Title.key page.name.toList :: used) others := by
  have hrows := writeRows_toPage htexts
  rw [writePages]
  simp only [TextPage.toPage] at hrows ⊢
  simp only [Title.next_eq_self hpage hfree, String.ofList_toList, hrows, ne_eq, not_true_eq_false,
    if_false]
  rfl

/-- Pages are written under their own names if no used title has the key of one. -/
theorem run_writePages {used : List String} {journal : Journal}
    (htitles : ∀ page ∈ pages, Title.Fits page.name.toList)
    (hfree : (pages.map (fun page => Title.key page.name.toList) ++ used).Nodup)
    (htexts : ∀ page ∈ pages, ∀ column ∈ page.rows, ∀ text ∈ column.texts, Storable text) :
    (writePages used (pages.map TextPage.toPage)).run journal =
      (.ok (pages.map TextPage.sheet), journal) := by
  induction pages generalizing used with
  | nil => rfl
  | cons page pages ih =>
    obtain ⟨hpage, htitles⟩ := List.forall_mem_cons.1 htitles
    obtain ⟨hrow, htexts⟩ := List.forall_mem_cons.1 htexts
    obtain ⟨hkey, hrest⟩ := List.nodup_cons.1 hfree
    have hafter : (pages.map (fun page => Title.key page.name.toList) ++
        Title.key page.name.toList :: used).Nodup :=
      List.perm_middle.nodup_iff.2 (List.nodup_cons.2 ⟨hkey, hrest⟩)
    rw [List.map_cons, writePages_cons hpage (fun h => hkey (List.mem_append_right _ h)) hrow,
      map_eq_pure_bind, run_bind, ih htitles hafter htexts]
    rfl

/-- Pages of texts are written, each under its name, with nothing to report. -/
theorem write_pages (h : Writable pages) (journal : Journal) :
    write ⟨pages.map TextPage.toPage⟩ journal = (.ok (pages.map TextPage.sheet), journal) := by
  have hpages : pages.map TextPage.toPage ≠ [] := by simpa using h.nonempty
  rw [write, writeAll, if_neg hpages]
  exact run_writePages h.titles (by simpa using h.distinct) h.texts

theorem saveError?_pages (pages : List TextPage) : saveError? (pages.map TextPage.sheet) = none := by
  rw [saveError?, if_pos]
  simp [TextPage.sheet, Cell.isSavable]

end Writing

/-! ### Reading -/

/-- The worksheet after it was saved and loaded, given what becomes of a cell. -/
def Worksheet.savedBy (save : Cell → Cell) (sheet : Worksheet) : Worksheet :=
  { sheet with rows := sheet.rows.map (·.map save) }

theorem savedBy_saved (sheet : Worksheet) : sheet.savedBy Cell.saved = sheet.saved := rfl

/-- Saving keeps a text, but an empty one is nothing afterwards. -/
def KeepsText (save : Cell → Cell) (text : String) : Prop :=
  save (.str text) = if text = "" then .null else .str text

/-- Texts without carriage returns are kept. -/
theorem keepsText_saved {text : String} (h : '\r' ∉ text.toList) : KeepsText Cell.saved text := by
  simp [KeepsText, Cell.saved, Cell.lineFeeds_eq_self h]

section Reading

variable {save : Cell → Cell} {column : TextColumn} {page : TextPage} {pages : List TextPage}

theorem KeepsText.eq_null_iff {text : String} (h : KeepsText save text) :
    save (.str text) = .null ↔ text = "" := by
  rw [h]
  split <;> simp [*]

theorem KeepsText.fieldText_eq {text : String} (h : KeepsText save text) :
    fieldText (save (.str text)) = text := by
  rw [h]
  split <;> simp [fieldText, Cell.isVoid, *]

theorem KeepsText.readLabels_eq (h : KeepsText save column.joined) :
    readLabels (save (.str column.joined)) = .ok (column.rereadLabels.map .str) := by
  rw [h]
  split <;> simp [readLabels, Cell.isVoid, TextColumn.rereadLabels, *]

/-- Cells that stand under the headers are found by them. -/
theorem readRow_headers (tagName dataType description labels : Cell) :
    readRow (headers.map .str) [tagName, dataType, description, labels] =
      (readLabels labels).map fun labels =>
        { tagName := fieldText tagName, dataType := fieldText dataType,
          description := fieldText description, labels := .list labels } := rfl

theorem readRow_saved (h : ∀ text ∈ column.texts, KeepsText save text) :
    readRow (headers.map .str) ((column.texts.map .str).map save) = .ok column.reread.toColumn := by
  simp only [TextColumn.texts, List.forall_mem_cons] at h
  obtain ⟨htagName, hdataType, hdescription, hjoined, -⟩ := h
  simp only [TextColumn.texts, List.map_cons, List.map_nil]
  rw [readRow_headers, hjoined.readLabels_eq, htagName.fieldText_eq, hdataType.fieldText_eq,
    hdescription.fieldText_eq]
  rfl

theorem headers_saved (h : ∀ text ∈ headers, KeepsText save text) :
    (headers.map Cell.str).map save = headers.map .str := by
  rw [List.map_map]
  refine List.map_congr_left fun text htext => ?_
  have hnonempty : text ≠ "" := fun hempty => absurd (hempty ▸ htext) (by decide)
  exact (h text htext).trans (if_neg hnonempty)

/-- The row of a column holds nothing if all of its texts are empty. -/
theorem any_saved (h : ∀ text ∈ column.texts, KeepsText save text) :
    ((column.texts.map .str).map save).any (· ≠ .null) = column.texts.any (· ≠ "") := by
  rw [List.map_map, List.any_map, Bool.eq_iff_iff, List.any_eq_true, List.any_eq_true]
  refine exists_congr fun text => and_congr_right fun htext => ?_
  simp [(h text htext).eq_null_iff]

/-- The rows of a page, once they were saved, are read as its columns without the blank ones. -/
theorem readRows_saved (h : ∀ text ∈ page.texts, KeepsText save text) :
    readRows (page.sheet.savedBy save).rows = .ok page.reread.toPage.rows := by
  obtain ⟨hheaders, htexts⟩ := List.forall_mem_append.1 h
  have hcolumn : ∀ column ∈ page.rows, ∀ text ∈ column.texts, KeepsText save text :=
    fun column hcolumn text htext => htexts text (List.mem_flatMap.2 ⟨column, hcolumn, htext⟩)
  have hsaved : (page.sheet.savedBy save).rows =
      headers.map .str :: page.rows.map fun column => (column.texts.map .str).map save := by
    rw [Worksheet.savedBy, TextPage.sheet, List.map_cons, headers_saved hheaders, List.map_map]
    rfl
  have hblank : (page.rows.map fun column => (column.texts.map .str).map save).filter
      (fun row => row.any (· ≠ .null)) =
        (page.rows.filter fun column => column.texts.any (· ≠ "")).map
          fun column => (column.texts.map .str).map save := by
    rw [List.filter_map]
    exact congrArg _ (List.filter_congr fun column hmem => any_saved (hcolumn column hmem))
  rw [hsaved, readRows, hblank, List.mapM_map, TextPage.toPage, TextPage.reread, List.map_map]
  exact mapM_eq_ok_map fun column hmem =>
    readRow_saved (hcolumn column (List.mem_of_mem_filter hmem))

/-- The page set after another worksheet was read. -/
def readNext (pages : PageSet) (sheet : Worksheet) : Except ReadError PageSet :=
  (readRows sheet.rows).map fun rows =>
    (pages.create (.str sheet.title)).addRows (.str sheet.title) rows

theorem readNext_eq {done : PageSet} {sheet : Worksheet} {page : Page}
    (hnew : .str sheet.title ∉ done.names) (hname : page.name = .str sheet.title)
    (hrows : readRows sheet.rows = .ok page.rows) :
    readNext done sheet = .ok ⟨done.pages ++ [page]⟩ := by
  obtain ⟨_, rows⟩ := page
  cases hname
  rw [readNext, hrows]
  exact congrArg Except.ok (PageSet.addRows_create_new rows (hnew ∘ PageSet.contains_str.1))

/-- Worksheets with different titles are read one by one. -/
theorem read_eq {sheets : List Worksheet} {read : List Page} (htitles : (sheets.map (·.title)).Nodup)
    (h : List.Forall₂
      (fun sheet page => page.name = .str sheet.title ∧ readRows sheet.rows = .ok page.rows)
      sheets read) :
    Report.read sheets = .ok ⟨read⟩ := by
  have hfrom : ∀ done : PageSet, (∀ sheet ∈ sheets, .str sheet.title ∉ done.names) →
      sheets.foldlM readNext done = .ok ⟨done.pages ++ read⟩ := by
    induction h with
    | nil => simp [pure, Except.pure]
    | @cons sheet page sheets read hpage _ ih =>
      intro done hdone
      obtain ⟨hnew, hdone⟩ := List.forall_mem_cons.1 hdone
      obtain ⟨hother, htitles⟩ := List.nodup_cons.1 htitles
      rw [List.foldlM_cons, readNext_eq hnew hpage.1 hpage.2]
      refine (ih htitles _ fun next hnext => ?_).trans (by simp)
      have hne : next.title ≠ sheet.title := fun h => hother (List.mem_map.2 ⟨next, hnext, h⟩)
      simpa [PageSet.names, hpage.1, hne] using hdone next hnext
  exact hfrom {} (by simp [PageSet.names])

/-- Pages that were written and saved are read as they can be. -/
theorem read_saved (hnames : (pages.map (·.name)).Nodup)
    (htexts : ∀ page ∈ pages, ∀ text ∈ page.texts, KeepsText save text) :
    read (pages.map fun page => page.sheet.savedBy save) =
      .ok ⟨pages.map fun page => page.reread.toPage⟩ := by
  have htitles : (pages.map fun page => page.sheet.savedBy save).map (·.title) =
      pages.map (·.name) := List.map_map
  refine read_eq (htitles ▸ hnames) ?_
  rw [List.forall₂_map_left_iff, List.forall₂_map_right_iff, List.forall₂_same]
  exact fun page hpage => ⟨rfl, readRows_saved (htexts page hpage)⟩

end Reading

/-! ### What comes back -/

section Legibility

variable {column : TextColumn} {page : TextPage}

theorem joined_eq_empty_iff : column.joined = "" ↔ column.labels = [] ∨ column.labels = [""] := by
  obtain ⟨_, _, _, labels⟩ := column
  rw [TextColumn.joined, ← String.toList_eq_nil_iff, String.toList_intercalate]
  match labels with
  | [] => simp
  | [label] => simp
  | label :: next :: rest => simp [List.intercalate_cons_cons, labelSeparator]

/-- The labels are read back as they are if they are not one empty label and can be told apart. -/
theorem rereadLabels_eq_iff :
    column.rereadLabels = column.labels ↔
      column.labels ≠ [""] ∧ (∀ label ∈ column.labels, ¬ " / ".toList <:+: label.toList) ∧
        ∀ label ∈ column.labels.dropLast, ¬ " /".toList <:+ label.toList := by
  by_cases hempty : column.joined = ""
  · rw [TextColumn.rereadLabels, if_pos hempty]
    rcases joined_eq_empty_iff.1 hempty with h | h <;> simp [h]
  · obtain ⟨hnone, hblank⟩ := not_or.1 (mt joined_eq_empty_iff.2 hempty)
    have hpieces : column.labels.map String.toList ≠ [] := by simpa using hnone
    have hlabels : column.labels = (column.labels.map String.toList).map String.ofList := by simp
    have hsplit : column.rereadLabels = column.labels ↔
        Text.Clear labelSeparator.toList (column.labels.map String.toList) := by
      rw [← Text.split_intercalate_iff (by decide) hpieces, TextColumn.rereadLabels, if_neg hempty,
        TextColumn.joined, String.toList_intercalate]
      exact (iff_of_eq (congrArg (_ = ·) hlabels)).trans
        (List.map_inj_right fun _ _ => String.ofList_injective)
    rw [hsplit, labelSeparator, Text.clear_iff, ← List.map_dropLast, List.forall_mem_map,
      List.forall_mem_map]
    exact (and_iff_right hblank).symm

theorem legible_iff :
    column.Legible ↔ column.texts.any (· ≠ "") = true ∧ column.reread = column := by
  have hcolumn : column.reread = column ↔ column.rereadLabels = column.labels := by
    cases column
    simp [TextColumn.reread]
  have hshown : column.texts.any (· ≠ "") = true ↔ ∃ text ∈ column.texts, text ≠ "" := by simp
  rw [hcolumn, rereadLabels_eq_iff, hshown]
  exact ⟨fun h => ⟨h.shown, h.labels_ne, h.separate, h.ends⟩,
    fun ⟨shown, labels_ne, separate, ends⟩ => ⟨shown, labels_ne, separate, ends⟩⟩

theorem map_filter_eq_self_iff {α : Type} {p : α → Bool} {f : α → α} {items : List α} :
    (items.filter p).map f = items ↔ ∀ item ∈ items, p item = true ∧ f item = item := by
  have hmap : items.map f = items ↔ ∀ item ∈ items, f item = item := by
    simpa using @List.map_inj_left _ _ items f id
  constructor
  · intro h
    have hlength : (items.filter p).length = items.length := by
      simpa using congrArg List.length h
    have hall : items.filter p = items := List.filter_sublist.eq_of_length hlength
    rw [hall, hmap] at h
    exact fun item hitem => ⟨List.filter_eq_self.1 hall item hitem, h item hitem⟩
  · intro h
    rw [List.filter_eq_self.2 fun item hitem => (h item hitem).1]
    exact hmap.2 fun item hitem => (h item hitem).2

/-- A page comes back exactly if all of its columns can be read back. -/
theorem toPage_reread_eq_iff :
    page.reread.toPage = page.toPage ↔ ∀ column ∈ page.rows, column.Legible := by
  have hrows : page.reread.toPage = page.toPage ↔
      (page.rows.filter fun column => column.texts.any (· ≠ "")).map TextColumn.reread =
        page.rows := by
    simp only [TextPage.toPage, TextPage.reread, Page.mk.injEq, true_and]
    exact List.map_inj_right TextColumn.toColumn_injective
  rw [hrows, map_filter_eq_self_iff]
  exact forall₂_congr fun _ _ => legible_iff.symm

end Legibility

/-- Pages whose names are titles and whose texts can be stored are written, and the report can be read
once it was saved. It gives the pages back exactly if no column is all empty, has one empty label
alone, or has labels that cannot be told apart. -/
theorem read_write_iff {pages : List TextPage} (hpages : Writable pages) (journal : Journal)
    {save : Cell → Cell} (hsave : ∀ page ∈ pages, ∀ text ∈ page.texts, KeepsText save text) :
    ∃ sheets back,
      write ⟨pages.map TextPage.toPage⟩ journal = (.ok sheets, journal) ∧
      saveError? sheets = none ∧
      read (sheets.map (·.savedBy save)) = .ok back ∧
      (back = ⟨pages.map TextPage.toPage⟩ ↔
        ∀ page ∈ pages, ∀ column ∈ page.rows, column.Legible) := by
  have hnames : (pages.map (·.name)).Nodup := by
    have hkeys : ((pages.map (·.name)).map fun name => Title.key name.toList).Nodup := by
      simpa [Function.comp_def] using hpages.distinct
    exact List.Nodup.of_map _ hkeys
  refine ⟨_, ⟨pages.map fun page => page.reread.toPage⟩, write_pages hpages journal,
    saveError?_pages pages, ?_, ?_⟩
  · rw [List.map_map]
    exact read_saved hnames hsave
  · rw [PageSet.mk.injEq, List.map_inj_left]
    exact forall₂_congr fun _ _ => toPage_reread_eq_iff

/-- Two pages, one of them without columns. The labels have slashes and blanks of their own. -/
def orders : List TextPage := [
  { name := "Orders"
    rows := [
      { tagName := "id", dataType := "int", description := "", labels := ["/ key", "", "and/or /"] },
      { tagName := "", dataType := "", description := "note", labels := [] }] },
  { name := "Order lines", rows := [] }]

theorem writable_orders : Writable orders where
  nonempty := by simp [orders]
  titles := by decide
  distinct := by decide
  texts := by decide

/-- Labels come back whose slashes and blanks are not those of the separator. -/
theorem read_write_orders :
    ∃ sheets,
      write ⟨orders.map TextPage.toPage⟩ = (.ok sheets, #[]) ∧
      read (sheets.map (·.saved)) = .ok ⟨orders.map TextPage.toPage⟩ := by
  have hkeeps : ∀ page ∈ orders, ∀ text ∈ page.texts, '\r' ∉ text.toList := by decide
  have hlegible : ∀ page ∈ orders, ∀ column ∈ page.rows, column.Legible := by
    simp only [legible_iff]
    decide
  obtain ⟨sheets, back, hwrite, -, hread, hback⟩ :=
    read_write_iff writable_orders #[] fun page hpage text htext =>
      keepsText_saved (hkeeps page hpage text htext)
  rw [hback.2 hlegible] at hread
  exact ⟨sheets, hwrite, by simpa only [savedBy_saved] using hread⟩

end Report

end SheetSchema
