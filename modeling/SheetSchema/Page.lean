import SheetSchema.Value

/-!
Pages: flat tables of columns, one page for each template. A page set keeps its pages in the
order in which they were created, under different names.
-/
namespace SheetSchema

/-- A row of a page: a simple field, or a reference to the page that its type names. The labels
are a collection, those of the groups that enclose the field. -/
structure Column where
  tagName : Value
  dataType : Value
  description : Value := ""
  labels : Value := .list []
  deriving DecidableEq, Repr

/-- A page. Its name is a text, or another single value that the template of a node may be. -/
structure Page where
  name : Cell
  rows : List Column := []
  deriving DecidableEq, Repr

structure PageSet where
  pages : List Page := []
  deriving DecidableEq, Repr, Inhabited

namespace PageSet

def names (set : PageSet) : List Cell := set.pages.map (·.name)

def size (set : PageSet) : Nat := set.pages.length

/-- Whether there is a page of the name. Numbers and truth values of the same amount are one
name. -/
def contains (set : PageSet) (name : Cell) : Bool := set.pages.any (·.name.agrees name)

def get? (set : PageSet) (name : Cell) : Option Page := set.pages.find? (·.name.agrees name)

/-- The set with a page of the name, which is left as it is if there is one and else comes last,
empty. -/
def create (set : PageSet) (name : Cell) : PageSet :=
  if set.contains name then set else ⟨set.pages ++ [{ name := name }]⟩

def createAll (set : PageSet) (names : List Cell) : PageSet := names.foldl create set

def ofNames (names : List Cell) : PageSet := createAll {} names

/-- The set with rows added at the end of the page of the name, if there is one. -/
def addRows (set : PageSet) (name : Cell) (rows : List Column) : PageSet :=
  ⟨set.pages.map fun page =>
    if page.name.agrees name then { page with rows := page.rows ++ rows } else page⟩

/-- The number of rows on all pages. -/
def rowCount (set : PageSet) : Nat := (set.pages.flatMap (·.rows)).length

@[simp] theorem names_addRows (set : PageSet) (name : Cell) (rows : List Column) :
    (set.addRows name rows).names = set.names := by
  simp only [names, addRows, List.map_map]
  congr 1
  funext page
  by_cases h : page.name.agrees name <;> simp [h]

theorem contains_iff {set : PageSet} {name : Cell} :
    set.contains name = true ↔ ∃ other ∈ set.names, other.agrees name = true := by
  simp only [contains, names, List.any_eq_true, List.mem_map]
  constructor
  · rintro ⟨page, h, agrees⟩
    exact ⟨page.name, ⟨page, h, rfl⟩, agrees⟩
  · rintro ⟨_, ⟨page, h, rfl⟩, agrees⟩
    exact ⟨page, h, agrees⟩

/-- Of a text there is a page if it is the name of one. -/
@[simp] theorem contains_str {set : PageSet} {name : String} :
    set.contains (.str name) = true ↔ .str name ∈ set.names := by
  simp [contains_iff]

theorem names_create (set : PageSet) (name : Cell) :
    (set.create name).names = if set.contains name then set.names else set.names ++ [name] := by
  by_cases h : set.contains name = true <;> simp [create, h, names]

/-- A page that is created and filled comes last. -/
theorem addRows_create_new {set : PageSet} {name : String} (rows : List Column)
    (h : ¬set.contains (.str name) = true) :
    (set.create (.str name)).addRows (.str name) rows =
      ⟨set.pages ++ [{ name := .str name, rows }]⟩ := by
  rw [create, if_neg h]
  simp only [addRows, List.map_append, List.map_cons, List.map_nil, mk.injEq]
  rw [contains_str] at h
  congr 1
  · refine (List.map_congr_left fun page hpage => if_neg fun hagrees => h ?_).trans (List.map_id _)
    exact Cell.agrees_str.1 hagrees ▸ List.mem_map_of_mem hpage
  · simp

end PageSet

end SheetSchema
