import SheetSchema.Markdown
import SheetSchema.Proofs.Computation
import SheetSchema.Proofs.Reports.Splitting

/-! Markdown tables read back. The text is read line by line: a heading starts a table, and the cells
of a row stand between the pipes that no backslash stands directly before. An escaped text has no such
pipe and a blank stands behind each text, so no text is mistaken for the border of a cell, and no row
for a heading. Only a line feed breaks a table. -/
namespace SheetSchema.Markdown

/-- What a table shows: the name of a page and the texts in the cells of its rows. -/
structure Table where
  name : String
  rows : List (List String)
  deriving DecidableEq

/-! ### Reading -/

def headingMark : List Char := "## Page: ".toList

def isHeading (line : List Char) : Bool := headingMark.isPrefixOf line

def isRow (line : List Char) : Bool := "| ".toList.isPrefixOf line

/-- The parts of a line between the pipes that no backslash stands directly before, given whether one
stands before the line. -/
def parts : Bool → List Char → List (List Char)
  | _, [] => [[]]
  | escaped, c :: rest =>
    if c = '|' ∧ escaped = false then [] :: parts false rest
    else (parts (c == '\\') rest).modifyHead (c :: ·)

/-- A text without a blank that it starts with. -/
def dropBlank (text : List Char) : List Char := if text.head? = some ' ' then text.tail else text

/-- The text of a cell: one blank on each side is dropped. -/
def readCell (part : List Char) : String :=
  String.ofList (Text.replace ['\\', '|'] ['|'] (dropBlank (dropBlank part).reverse).reverse)

/-- The cells of a row, which starts and ends with a pipe. -/
def readRow (line : List Char) : List String := ((parts false line).tail.dropLast).map readCell

/-- The table of a heading and the lines after it. The first two lines of a table are no rows. -/
def readTable (heading : List Char) (lines : List (List Char)) : Table where
  name := String.ofList (heading.drop headingMark.length)
  rows := ((lines.filter isRow).drop 2).map readRow

/-- The tables of some lines. Each reaches from its heading to the next one. -/
def readLines : List (List Char) → List Table
  | [] => []
  | line :: rest =>
    if isHeading line then readTable line (rest.takeWhile (!isHeading ·)) :: readLines rest
    else readLines rest

def read (text : String) : List Table := readLines (Text.split ['\n'] text.toList)

/-! ### Writing -/

/-- The row of a table. -/
def escapedLine (cells : List String) : String :=
  line (cells.map fun text => String.ofList (escape text.toList))

/-- Heading and body of a table. -/
def Table.blocks (table : Table) : List String :=
  ["## Page: " ++ table.name ++ "\n",
    if table.rows = [] then "_empty page_\n"
    else
      "\n".intercalate (line Report.headers :: line (Report.headers.map fun _ => "---") ::
        table.rows.map escapedLine) ++ "\n"]

/-- Tables one after another. -/
def printed (tables : List Table) : String := "\n".intercalate (tables.flatMap Table.blocks)

/-- The texts in the row of a column. -/
def texts (column : Column) : Except Report.ReportError (List String) :=
  (Report.values column).map fun values => values.map Value.display

/-- The table of a page, with its name as it is displayed. -/
def shown (page : Page) : Except Report.ReportError Table :=
  (page.rows.mapM texts).map (Table.mk page.name.display)

theorem row_eq : row = fun column => (texts column).map escapedLine := by
  funext column
  rw [row, texts]
  rcases Report.values column with _ | values
  · rfl
  · simp only [Except.map, escapedLine, List.map_map]
    rfl

theorem blocks_eq : blocks = fun page => (shown page).map Table.blocks := by
  funext page
  rw [shown, blocks, heading]
  split
  case isTrue hrows =>
    rw [hrows]
    rfl
  case isFalse hrows =>
    rw [table, row_eq, mapM_map_results]
    cases htexts : page.rows.mapM texts with
    | error => rfl
    | ok rows =>
      have hlength := (mapM_eq_ok_iff.1 htexts).length_eq
      have hne : rows ≠ [] := by
        rintro rfl
        exact hrows (List.length_eq_zero_iff.1 hlength)
      simp [Except.map, Table.blocks, hne, bind, Except.bind, pure, Except.pure]

/-- Pages are rendered as the tables that they show. -/
theorem render_eq (pages : PageSet) : render pages = (pages.pages.mapM shown).map printed := by
  rw [render, blocks_eq, mapM_map_results]
  cases pages.pages.mapM shown with
  | error => rfl
  | ok tables => simp only [Except.map, printed, List.flatMap]

/-! ### Cells and rows -/

theorem dropBlank_blank (text : List Char) : dropBlank (' ' :: text) = text := rfl

theorem escape_cons (c : Char) (text : List Char) :
    escape (c :: text) = (if c = '|' then ['\\', '|'] else [c]) ++ escape text := rfl

/-- No escaped text starts with a pipe. -/
theorem not_prefix_escape (text : List Char) : ¬ ['|'] <+: escape text := by
  cases text with
  | nil => simp [escape]
  | cons c text =>
    rw [escape_cons]
    split
    case isTrue => simp
    case isFalse h => simpa using Ne.symm h

theorem replace_escape (text : List Char) :
    Text.replace ['\\', '|'] ['|'] (escape text) = text := by
  induction text with
  | nil => rfl
  | cons c text ih =>
    rw [escape_cons]
    split
    case isTrue h =>
      subst h
      rw [Text.replace_token (List.cons_ne_nil _ _), ih, List.singleton_append]
    case isFalse h =>
      -- a backslash of the text itself is not followed by a pipe
      have hpassed : ¬ ['\\', '|'] <+: c :: escape text := fun hprefix =>
        not_prefix_escape text ((List.cons_prefix_cons.1 hprefix).2)
      rw [List.singleton_append, Text.replace_passed hpassed, ih]

theorem readCell_escape (text : String) :
    readCell (' ' :: (escape text.toList ++ [' '])) = text := by
  rw [readCell, dropBlank_blank, List.reverse_append, List.reverse_singleton, List.singleton_append,
    dropBlank_blank, List.reverse_reverse, replace_escape, String.ofList_toList]

/-- An escaped text is passed up to the pipe behind the blank after it. -/
theorem parts_escape (escaped : Bool) (text rest : List Char) :
    parts escaped (escape text ++ ' ' :: '|' :: rest) =
      (escape text ++ [' ']) :: parts false rest := by
  induction text generalizing escaped with
  | nil => simp [escape, parts]
  | cons c text ih =>
    rw [escape_cons]
    split
    case isTrue h => simp [parts, ih]
    case isFalse h => simp [parts, ih, h]

/-- The parts of the cells of a row, each ended by a pipe. -/
theorem parts_cells (cells : List String) :
    parts false (cells.flatMap fun text => ' ' :: (escape text.toList ++ [' ', '|'])) =
      cells.map (fun text => ' ' :: (escape text.toList ++ [' '])) ++ [[]] := by
  induction cells with
  | nil => rfl
  | cons text cells ih =>
    have hblank : ∀ rest, parts false (' ' :: rest) = (parts false rest).modifyHead (' ' :: ·) :=
      fun _ => rfl
    rw [List.flatMap_cons, List.cons_append, hblank, List.append_assoc, List.cons_append,
      List.cons_append, List.nil_append, parts_escape, ih]
    rfl

/-- A line is a pipe and the cells, each between blanks and with a pipe after it. -/
theorem toList_line {cells : List String} (h : cells ≠ []) :
    (line cells).toList = '|' :: cells.flatMap fun text => ' ' :: (text.toList ++ [' ', '|']) := by
  induction cells with
  | nil => exact absurd rfl h
  | cons text cells ih =>
    cases cells with
    | nil => simp [line]
    | cons next cells =>
      have hfirst : (line (text :: next :: cells)).toList =
          '|' :: ' ' :: (text.toList ++ ' ' :: (line (next :: cells)).toList) := by
        simp [line]
      rw [hfirst, ih (List.cons_ne_nil next cells), List.flatMap_cons (x := text)]
      simp

/-- The texts of a row are read back. -/
theorem readRow_escapedLine {cells : List String} (h : cells ≠ []) :
    readRow (escapedLine cells).toList = cells := by
  have hpipe : ∀ rest, parts false ('|' :: rest) = [] :: parts false rest := fun _ => rfl
  rw [escapedLine, toList_line (by simpa using h), List.flatMap_map, readRow, hpipe]
  simp only [String.toList_ofList]
  rw [parts_cells, List.tail_cons, List.dropLast_concat, List.map_map]
  exact (List.map_congr_left fun text _ => readCell_escape text).trans (List.map_id cells)

/-! ### Lines -/

/-- The lines of a table that has rows, the two of its header first. -/
def Table.tableLines (table : Table) : List (List Char) :=
  (line Report.headers).toList :: (line (Report.headers.map fun _ => "---")).toList ::
    table.rows.map fun cells => (escapedLine cells).toList

/-- The lines below a heading. -/
def Table.bodyLines (table : Table) : List (List Char) :=
  if table.rows = [] then ["_empty page_".toList] else table.tableLines

/-- The lines of the blocks of a table. Each block ends with an empty line. -/
def Table.blockLines (table : Table) : List (List (List Char)) :=
  [[headingMark ++ table.name.toList, []], table.bodyLines ++ [[]]]

def Table.lines (table : Table) : List (List Char) := table.blockLines.flatten

theorem lines_eq (table : Table) :
    table.lines = (headingMark ++ table.name.toList) :: [] :: (table.bodyLines ++ [[]]) := by
  simp [Table.lines, Table.blockLines]

theorem bodyLines_ne_nil (table : Table) : table.bodyLines ≠ [] := by
  rw [Table.bodyLines]
  split <;> simp [Table.tableLines]

theorem toList_blocks (table : Table) :
    table.blocks.map String.toList = table.blockLines.map ['\n'].intercalate := by
  have hended : ∀ text : List Char, ['\n'].intercalate [text, []] = text ++ ['\n'] := fun text => by
    simp [List.intercalate_cons_cons]
  have hheading : ("## Page: " ++ table.name ++ "\n").toList =
      ['\n'].intercalate [headingMark ++ table.name.toList, []] := by
    rw [hended, String.toList_append, String.toList_append]
    rfl
  have hbody : (if table.rows = [] then "_empty page_\n"
      else
        "\n".intercalate (line Report.headers :: line (Report.headers.map fun _ => "---") ::
          table.rows.map escapedLine) ++ "\n").toList =
      ['\n'].intercalate (table.bodyLines ++ [[]]) := by
    rw [Text.intercalate_append (bodyLines_ne_nil table) (List.cons_ne_nil [] []),
      List.intercalate_singleton, List.append_nil, Table.bodyLines]
    split
    case isTrue => rfl
    case isFalse =>
      rw [String.toList_append, String.toList_intercalate, Table.tableLines, List.map_cons,
        List.map_cons, List.map_map]
      rfl
  rw [Table.blocks, Table.blockLines, List.map_cons, List.map_singleton, hheading, hbody,
    List.map_cons, List.map_singleton]

theorem toList_printed (tables : List Table) :
    (printed tables).toList = ['\n'].intercalate (tables.flatMap Table.lines) := by
  have hblocks : (tables.flatMap Table.blocks).map String.toList =
      (tables.flatMap Table.blockLines).map ['\n'].intercalate := by
    simp only [List.map_flatMap, toList_blocks]
  have hne : ∀ block ∈ tables.flatMap Table.blockLines, block ≠ [] := by
    intro block hblock
    obtain ⟨table, -, hblock⟩ := List.mem_flatMap.1 hblock
    rw [Table.blockLines, List.mem_pair] at hblock
    rcases hblock with rfl | rfl <;> simp
  have hlines : (tables.flatMap Table.blockLines).flatten = tables.flatMap Table.lines := by
    rw [← List.flatMap_id, List.flatMap_assoc]
    rfl
  rw [printed, String.toList_intercalate, hblocks, ← hlines]
  exact Text.intercalate_flatten hne

/-! ### Tables -/

theorem isHeading_mark (name : List Char) : isHeading (headingMark ++ name) = true :=
  List.isPrefixOf_iff_prefix.2 (List.prefix_append ..)

theorem isRow_line (cells : List String) : isRow (line cells).toList = true := by
  rw [isRow, line, String.toList_append, String.toList_append, List.append_assoc]
  exact List.isPrefixOf_iff_prefix.2 (List.prefix_append ..)

/-- No row is taken for a heading, whatever its texts are. -/
theorem isHeading_of_isRow {line : List Char} (h : isRow line = true) : isHeading line = false := by
  obtain ⟨rest, rfl⟩ := List.isPrefixOf_iff_prefix.1 h
  rfl

theorem isRow_tableLines (table : Table) : ∀ line ∈ table.tableLines, isRow line = true :=
  List.forall_mem_cons.2 ⟨isRow_line _, List.forall_mem_cons.2 ⟨isRow_line _,
    List.forall_mem_map.2 fun _ _ => isRow_line _⟩⟩

theorem isHeading_bodyLines (table : Table) : ∀ line ∈ table.bodyLines, isHeading line = false := by
  rw [Table.bodyLines]
  split
  case isTrue => decide
  case isFalse => exact fun line hline => isHeading_of_isRow (isRow_tableLines table line hline)

/-- The rows of a table are the lines of its body that look like rows, but for the first two. -/
theorem drop_filter_bodyLines (table : Table) :
    (table.bodyLines.filter isRow).drop 2 =
      table.rows.map fun cells => (escapedLine cells).toList := by
  rw [Table.bodyLines]
  split
  case isTrue hrows =>
    rw [hrows]
    decide
  case isFalse =>
    rw [List.filter_eq_self.2 (isRow_tableLines table)]
    rfl

theorem readTable_bodyLines {table : Table} (h : ∀ cells ∈ table.rows, cells ≠ []) :
    readTable (headingMark ++ table.name.toList) ([] :: (table.bodyLines ++ [[]])) = table := by
  have hrows : ([] :: (table.bodyLines ++ [[]])).filter isRow = table.bodyLines.filter isRow := by
    rw [List.filter_cons_of_neg (by decide), List.filter_append]
    simp [isRow]
  have hread : (table.rows.map fun cells => (escapedLine cells).toList).map readRow =
      table.rows := by
    rw [List.map_map]
    exact (List.map_congr_left fun cells hcells => readRow_escapedLine (h cells hcells)).trans
      (List.map_id _)
  rw [readTable, hrows, drop_filter_bodyLines, hread, List.drop_left, String.ofList_toList]

theorem readLines_append {before : List (List Char)} (h : ∀ line ∈ before, isHeading line = false)
    (after : List (List Char)) : readLines (before ++ after) = readLines after := by
  induction before with
  | nil => rfl
  | cons line before ih =>
    obtain ⟨hline, h⟩ := List.forall_mem_cons.1 h
    rw [List.cons_append, readLines, if_neg (by simp [hline]), ih h]

theorem readLines_lines {tables : List Table}
    (h : ∀ table ∈ tables, ∀ cells ∈ table.rows, cells ≠ []) :
    readLines (tables.flatMap Table.lines) = tables := by
  induction tables with
  | nil => rfl
  | cons table tables ih =>
    obtain ⟨htable, h⟩ := List.forall_mem_cons.1 h
    have hbody : ∀ line ∈ [] :: (table.bodyLines ++ [[]]), isHeading line = false :=
      List.forall_mem_cons.2 ⟨by decide,
        List.forall_mem_append.2 ⟨isHeading_bodyLines table, by decide⟩⟩
    have hnext : (tables.flatMap Table.lines).takeWhile (!isHeading ·) = [] := by
      cases tables with
      | nil => rfl
      | cons next tables =>
        rw [List.flatMap_cons, lines_eq, List.cons_append, List.takeWhile_cons_of_neg]
        simp [isHeading_mark]
    have hlines : (table :: tables).flatMap Table.lines =
        (headingMark ++ table.name.toList) ::
          ([] :: (table.bodyLines ++ [[]]) ++ tables.flatMap Table.lines) := by
      rw [List.flatMap_cons, lines_eq, List.cons_append]
    rw [hlines, readLines, if_pos (isHeading_mark _), readLines_append hbody, ih h,
      List.takeWhile_append_of_pos (by simpa using hbody), hnext, List.append_nil,
      readTable_bodyLines htable]

/-! ### Line feeds -/

/-- The tables none of whose texts holds a line feed. -/
structure Table.OneLine (table : Table) : Prop where
  name : '\n' ∉ table.name.toList
  texts : ∀ cells ∈ table.rows, ∀ text ∈ cells, '\n' ∉ text.toList

instance (table : Table) : Decidable table.OneLine :=
  decidable_of_iff ('\n' ∉ table.name.toList ∧
      ∀ cells ∈ table.rows, ∀ text ∈ cells, '\n' ∉ text.toList)
    ⟨fun ⟨name, texts⟩ => ⟨name, texts⟩, fun h => ⟨h.name, h.texts⟩⟩

theorem not_mem_escape {text : List Char} (h : '\n' ∉ text) : '\n' ∉ escape text := by
  intro hmem
  obtain ⟨c, hc, hmem⟩ := List.mem_flatMap.1 hmem
  split at hmem
  case isTrue => simp at hmem
  case isFalse => exact h (List.mem_singleton.1 hmem ▸ hc)

theorem not_mem_escapedLine {cells : List String} (hne : cells ≠ [])
    (h : ∀ text ∈ cells, '\n' ∉ text.toList) : '\n' ∉ (escapedLine cells).toList := by
  rw [escapedLine, toList_line (by simpa using hne), List.flatMap_map]
  simp only [String.toList_ofList, List.mem_cons, List.mem_flatMap, List.mem_append, not_or,
    not_exists, not_and]
  refine ⟨by decide, fun text htext => ⟨by decide, not_mem_escape (h text htext), by decide⟩⟩

theorem not_mem_lines {table : Table} (h : table.OneLine)
    (hrows : ∀ cells ∈ table.rows, cells ≠ []) : ∀ line ∈ table.lines, '\n' ∉ line := by
  have hheading : '\n' ∉ headingMark ++ table.name.toList :=
    List.not_mem_append (by decide) h.name
  have hbody : ∀ line ∈ table.bodyLines, '\n' ∉ line := by
    rw [Table.bodyLines]
    split
    case isTrue => decide
    case isFalse =>
      refine List.forall_mem_cons.2 ⟨by decide, List.forall_mem_cons.2 ⟨by decide, ?_⟩⟩
      exact List.forall_mem_map.2 fun cells hcells =>
        not_mem_escapedLine (hrows cells hcells) (h.texts cells hcells)
  rw [lines_eq]
  exact List.forall_mem_cons.2 ⟨hheading, List.forall_mem_cons.2 ⟨by decide,
    List.forall_mem_append.2 ⟨hbody, by decide⟩⟩⟩

theorem split_printed {tables : List Table} (hne : tables ≠ [])
    (h : ∀ table ∈ tables, table.OneLine)
    (hrows : ∀ table ∈ tables, ∀ cells ∈ table.rows, cells ≠ []) :
    Text.split ['\n'] (printed tables).toList = tables.flatMap Table.lines := by
  have hlines : tables.flatMap Table.lines ≠ [] := by
    obtain ⟨table, rest, rfl⟩ := List.exists_cons_of_ne_nil hne
    simp [lines_eq]
  rw [toList_printed]
  refine Text.split_intercalate (List.cons_ne_nil _ _) hlines (Text.clear_singleton_iff.2 ?_)
  intro line hline
  obtain ⟨table, htable, hline⟩ := List.mem_flatMap.1 hline
  exact not_mem_lines (h table htable) (hrows table htable) line hline

/-- A part of a line holds only characters of the line. -/
theorem subset_of_mem_parts {escaped : Bool} {line part : List Char}
    (h : part ∈ parts escaped line) : part ⊆ line := by
  induction line generalizing escaped part with
  | nil => simp_all [parts]
  | cons c line ih =>
    rw [parts] at h
    split at h
    case isTrue =>
      rcases List.mem_cons.1 h with rfl | h
      · exact List.nil_subset _
      · exact List.subset_cons_of_subset c (ih h)
    case isFalse =>
      cases hrest : parts (c == '\\') line with
      | nil => simp [hrest] at h
      | cons first others =>
        rw [hrest, List.modifyHead_cons] at h
        have hsubset : ∀ other ∈ first :: others, other ⊆ line := fun other hother =>
          ih (hrest ▸ hother)
        obtain ⟨hfirst, hothers⟩ := List.forall_mem_cons.1 hsubset
        rcases List.mem_cons.1 h with rfl | h
        · exact List.cons_subset_cons c hfirst
        · exact List.subset_cons_of_subset c (hothers part h)

theorem dropBlank_subset (text : List Char) : dropBlank text ⊆ text := by
  rw [dropBlank]
  split
  · exact List.tail_subset text
  · exact List.Subset.refl text

theorem not_mem_readCell {part : List Char} (h : '\n' ∉ part) : '\n' ∉ (readCell part).toList := by
  intro hmem
  rw [readCell, String.toList_ofList] at hmem
  rcases Text.mem_of_mem_replace hmem with hpipe | hmem
  · simp at hpipe
  · have hinner := dropBlank_subset _ (List.mem_reverse.1 hmem)
    exact h (dropBlank_subset part (List.mem_reverse.1 hinner))

/-- What is read from lines holds no line feed, as they do not. -/
theorem oneLine_readTable {heading : List Char} {lines : List (List Char)} (hheading : '\n' ∉ heading)
    (hlines : ∀ line ∈ lines, '\n' ∉ line) : (readTable heading lines).OneLine where
  name := by
    rw [readTable, String.toList_ofList]
    exact fun hmem => hheading (List.mem_of_mem_drop hmem)
  texts := by
    refine List.forall_mem_map.2 fun line hline => List.forall_mem_map.2 fun part hpart => ?_
    have hline : line ∈ lines := List.mem_of_mem_filter (List.mem_of_mem_drop hline)
    have hpart : part ∈ parts false line :=
      List.mem_of_mem_tail (List.mem_of_mem_dropLast hpart)
    exact not_mem_readCell fun hmem => hlines line hline (subset_of_mem_parts hpart hmem)

theorem oneLine_readLines {lines : List (List Char)} (h : ∀ line ∈ lines, '\n' ∉ line) :
    ∀ table ∈ readLines lines, table.OneLine := by
  induction lines with
  | nil => simp [readLines]
  | cons line lines ih =>
    obtain ⟨hline, h⟩ := List.forall_mem_cons.1 h
    rw [readLines]
    split
    case isTrue =>
      refine List.forall_mem_cons.2 ⟨oneLine_readTable hline fun other hother => ?_, ih h⟩
      exact h other ((List.takeWhile_prefix _).subset hother)
    case isFalse => exact ih h

/-- Tables are read back if and only if no text holds a line feed. -/
theorem read_printed_iff {tables : List Table}
    (hrows : ∀ table ∈ tables, ∀ cells ∈ table.rows, cells ≠ []) :
    read (printed tables) = tables ↔ ∀ table ∈ tables, table.OneLine := by
  constructor
  · intro h
    -- whatever is read stands on single lines
    rw [← h]
    exact oneLine_readLines (Text.clear_singleton_iff.1 (Text.clear_split (List.cons_ne_nil _ _) _))
  · intro h
    by_cases hempty : tables = []
    · rw [hempty]
      decide
    · rw [read, split_printed hempty h hrows, readLines_lines hrows]

/-! ### Pages -/

/-- The texts in a row are the three fields of a column as they are displayed and its joined labels. -/
theorem texts_eq (column : Column) :
    texts column = (Report.joinedLabels column).map fun joined =>
      [column.tagName.display, column.dataType.display, column.description.display, joined] := by
  rw [texts, Report.values]
  cases Report.joinedLabels column <;> rfl

theorem exists_shown_iff {page : Page} :
    (∃ table, shown page = .ok table) ↔
      ∀ column ∈ page.rows, ∃ joined, Report.joinedLabels column = .ok joined := by
  have hrows : (∃ table, shown page = .ok table) ↔ ∃ rows, page.rows.mapM texts = .ok rows := by
    simp [shown, map_eq_ok_iff]
  simp only [hrows, mapM_eq_ok_iff, exists_forall₂_iff]
  refine forall₂_congr fun column _ => ?_
  simp [texts_eq, map_eq_ok_iff]

theorem cells_ne_nil {page : Page} {table : Table} (h : shown page = .ok table) :
    ∀ cells ∈ table.rows, cells ≠ [] := by
  intro cells hcells
  obtain ⟨rows, hrows, rfl⟩ := map_eq_ok_iff.1 h
  obtain ⟨column, -, hcolumn⟩ := exists_of_forall₂_right (mapM_eq_ok_iff.1 hrows) hcells
  rw [texts_eq] at hcolumn
  obtain ⟨joined, -, rfl⟩ := map_eq_ok_iff.1 hcolumn
  exact List.cons_ne_nil _ _

/-- Pages are rendered if the labels of all columns are texts. What they show is read back, page by
page and row by row, if and only if no name and no value holds a line feed. -/
theorem read_render_iff (pages : PageSet) :
    ((∃ text, render pages = .ok text) ↔
      ∀ page ∈ pages.pages, ∀ column ∈ page.rows, ∃ joined,
        Report.joinedLabels column = .ok joined) ∧
    ∀ text, render pages = .ok text → ∃ tables, pages.pages.mapM shown = .ok tables ∧
      (read text = tables ↔ ∀ table ∈ tables, table.OneLine) := by
  constructor
  · have hrender : (∃ text, render pages = .ok text) ↔
        ∃ tables, pages.pages.mapM shown = .ok tables := by
      simp [render_eq, map_eq_ok_iff]
    simp only [hrender, mapM_eq_ok_iff, exists_forall₂_iff, exists_shown_iff]
  · intro text htext
    rw [render_eq] at htext
    obtain ⟨tables, htables, rfl⟩ := map_eq_ok_iff.1 htext
    refine ⟨tables, htables, read_printed_iff fun table htable => ?_⟩
    obtain ⟨page, -, hpage⟩ := exists_of_forall₂_right (mapM_eq_ok_iff.1 htables) htable
    exact cells_ne_nil hpage

/-- Texts that look like borders of cells, rows or headings, and such that are empty or blank. -/
def lookalikes : PageSet := ⟨[
  { name := .str "| a \\| b |"
    rows := [
      { tagName := "\\|", dataType := "a\\", description := "## Page: x"
        labels := .list [.str "---", .str ""] },
      { tagName := "", dataType := " ", description := "| |", labels := .list [] }] },
  { name := .str "## Page: " }]⟩

theorem read_render_lookalikes :
    ∃ text, render lookalikes = .ok text ∧
      read text = [
        { name := "| a \\| b |"
          rows := [["\\|", "a\\", "## Page: x", "--- / "], ["", " ", "| |", ""]] },
        { name := "## Page: ", rows := [] }] := by
  obtain ⟨hrendered, hread⟩ := read_render_iff lookalikes
  have hlabels : ∀ page ∈ lookalikes.pages, ∀ column ∈ page.rows, ∃ joined,
      Report.joinedLabels column = .ok joined := by
    simp [lookalikes, Report.joinedLabels, Value.members?, Report.labelTexts?]
  obtain ⟨text, htext⟩ := hrendered.2 hlabels
  obtain ⟨tables, htables, hback⟩ := hread text htext
  cases htables
  exact ⟨text, htext, hback.2 (by decide)⟩

end SheetSchema.Markdown
