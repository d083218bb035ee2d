import Mathlib.Data.List.Nodup
import Mathlib.Data.List.Perm.Subperm
import SheetSchema.Proofs.References.TextGrid
import SheetSchema.Proofs.Trees.WellTyped

/-! Building ends over every source, whatever its sheets refer to. The sheets that are being read
are different existing ones, from the root on, so that no more of them are nested than there are
sheets: a build that would do anything else where this fails or where it is nested deeper is the
same build. Hence no sheet is named again below a reference to it in a tree that is built. -/
namespace SheetSchema

/-- Different existing sheets, the root being the first of them. -/
structure SheetChain (sheets : List String) (root : String) (chain : List String) : Prop where
  head : chain.head? = some root
  nodup : chain.Nodup
  subset : chain ⊆ sheets

theorem nodup_append_singleton {α : Type} {items : List α} {item : α} (h : items.Nodup)
    (hnew : item ∉ items) : (items ++ [item]).Nodup := by
  rw [← List.concat_eq_append]
  exact h.concat hnew

namespace SheetChain

variable {sheets chain : List String} {root sheet : String}

instance : Decidable (SheetChain sheets root chain) :=
  decidable_of_iff (chain.head? = some root ∧ chain.Nodup ∧ chain ⊆ sheets)
    ⟨fun h => ⟨h.1, h.2.1, h.2.2⟩, fun h => ⟨h.head, h.nodup, h.subset⟩⟩

theorem singleton (h : root ∈ sheets) : SheetChain sheets root [root] where
  head := rfl
  nodup := List.nodup_singleton root
  subset := List.cons_subset.2 ⟨h, List.nil_subset _⟩

theorem append (h : SheetChain sheets root chain) (hsheet : sheet ∈ sheets) (hnew : sheet ∉ chain) :
    SheetChain sheets root (chain ++ [sheet]) where
  head := by rw [List.head?_append, h.head, Option.some_or]
  nodup := nodup_append_singleton h.nodup hnew
  subset := List.append_subset.2 ⟨h.subset, List.cons_subset.2 ⟨hsheet, List.nil_subset _⟩⟩

/-- A chain has no more members than there are sheets. -/
theorem length_le (h : SheetChain sheets root chain) : chain.length ≤ sheets.eraseDups.length := by
  have hsubset : chain ⊆ sheets.eraseDups := fun sheet hsheet =>
    List.mem_eraseDups.2 (h.subset hsheet)
  exact (h.nodup.subperm hsubset).length_le

end SheetChain

namespace Build

variable {σ : Type} (source : Source σ) (vocabulary : Vocabulary)

/-- A way to read the rows of a sheet, told the chain of the sheets that are being read, this one
being the last. -/
abbrev Reading (σ : Type) :=
  (chain : List String) → Scope → (firstRow lastRow : Int) → BuildM σ (Forest Node)

/-- The content that a request asks for, with a way to read the requested sheet. -/
def resolveBy (reading : Reading σ) (chain : List String) (request : Request) :
    BuildM σ (Forest Node) :=
  if request.sheet ∈ chain then
    refuse (.circularReference (chain ++ [request.sheet]))
  else if request.sheet ∈ source.sheets then do
    let firstRow := vocabulary.layout.referenceFirstRow
    let lastRow ← openSheet source request.sheet firstRow
    report (.resolving request.sheet request.referrer request.row request.subProcess)
    reading (chain ++ [request.sheet]) request.scope firstRow lastRow
  else
    refuse (.unresolvedReference request.sheet (suggestions source request.sheet)
      request.referrer (.cell (.int request.row)))

/-- The schema of a root sheet, with a way to read its rows. -/
def schemaBy (reading : Reading σ) (root : String) : BuildM σ Schema := do
  let lastRow ← openRoot source vocabulary root
  let layout := vocabulary.layout
  let description ← look source root layout.descriptionCell.1 layout.descriptionCell.2
  let version ← look source root layout.versionCell.1 layout.versionCell.2
  let forest ← reading [root] (rootScope root) layout.rootFirstRow lastRow
  report (.built root forest.roots.length forest.size)
  return { description, version, forest }

/-- Sheets are scanned, and what their rows request is resolved below their chains. -/
def scanning : Reading σ := fun chain => scan source vocabulary (resolve source vocabulary chain)

theorem resolve_eq_resolveBy (chain : List String) (request : Request) :
    resolve source vocabulary chain request =
      resolveBy source vocabulary (scanning source vocabulary) chain request := by
  rw [resolve]
  rfl

theorem schema_eq_schemaBy (root : String) :
    schema source vocabulary root =
      schemaBy source vocabulary (scanning source vocabulary) root := rfl

/-- Sheets are scanned as long as no more than `depth` of them are nested and the sheets that are
being read are a chain from the root. Otherwise anything may happen. -/
def scanningWithin (root : String) (otherwise : Reading σ) : (depth : Nat) → Reading σ
  | 0 => otherwise
  | depth + 1 => fun chain =>
    if SheetChain source.sheets root chain then
      scan source vocabulary
        (resolveBy source vocabulary (scanningWithin root otherwise depth) chain)
    else otherwise chain

variable {source vocabulary}

/-- Two ways to read the longer chain resolve a request alike. -/
theorem resolveBy_congr {first second : Reading σ} {chain : List String} {request : Request}
    (h : request.sheet ∉ chain → request.sheet ∈ source.sheets →
      first (chain ++ [request.sheet]) = second (chain ++ [request.sheet])) :
    resolveBy source vocabulary first chain request =
      resolveBy source vocabulary second chain request := by
  unfold resolveBy
  by_cases hc : request.sheet ∈ chain
  · rw [if_pos hc, if_pos hc]
  · by_cases hs : request.sheet ∈ source.sheets
    · rw [if_neg hc, if_neg hc, if_pos hs, if_pos hs, h hc hs]
    · rw [if_neg hc, if_neg hc, if_neg hs, if_neg hs]

/-- Below a chain from the root nothing but scanning happens, by induction on the depth that is
left: every nested sheet takes one step of it and makes the chain longer. -/
theorem scanningWithin_eq {root : String} (otherwise : Reading σ) {depth : Nat}
    {chain : List String} (hchain : SheetChain source.sheets root chain)
    (hdepth : source.sheets.eraseDups.length < depth + chain.length) :
    scanningWithin source vocabulary root otherwise depth chain =
      scanning source vocabulary chain := by
  induction depth generalizing chain with
  | zero =>
    have hlength := hchain.length_le
    omega
  | succ depth ih =>
    simp only [scanningWithin, if_pos hchain, scanning]
    congr 1
    funext request
    rw [resolve_eq_resolveBy]
    refine resolveBy_congr fun hnew hsheet => ih (hchain.append hsheet hnew) ?_
    rw [List.length_append, List.length_singleton]
    omega

theorem schemaBy_congr {first second : Reading σ} {root : String}
    (h : root ∈ source.sheets → first [root] = second [root]) :
    schemaBy source vocabulary first root = schemaBy source vocabulary second root := by
  by_cases hroot : root ∈ source.sheets
  · unfold schemaBy
    rw [h hroot]
  · unfold schemaBy openRoot
    rw [if_pos hroot]
    rfl

theorem schemaBy_scanningWithin {root : String} (otherwise : Reading σ) {depth : Nat}
    (hdepth : source.sheets.eraseDups.length ≤ depth) :
    schemaBy source vocabulary (scanningWithin source vocabulary root otherwise depth) root =
      schema source vocabulary root := by
  rw [schema_eq_schemaBy]
  refine schemaBy_congr fun hroot => scanningWithin_eq otherwise (.singleton hroot) ?_
  exact Nat.lt_succ_of_le hdepth

end Build

/-- What a reference names. -/
def NodeType.target? : NodeType → Option Value
  | structural => none
  | leaf _ => none
  | reference sheet => some sheet

namespace Forest

/-- The paths from the top level downwards. -/
inductive Path {α : Type} : Forest α → List α → Prop
  | nil (forest : Forest α) : Path forest []
  | down {value : α} {children rest : Forest α} {path : List α} (below : Path children path) :
    Path (.node value children rest) (value :: path)
  | beside {value : α} {children rest : Forest α} {path : List α} (among : Path rest path) :
    Path (.node value children rest) path

/-- The sheets that a path names. -/
def targets (path : List Node) : List Value := path.filterMap (·.type.target?)

theorem targets_cons_of_none {value : Node} {path : List Node} (h : value.type.target? = none) :
    targets (value :: path) = targets path := List.filterMap_cons_none h

theorem targets_cons_of_some {value : Node} {path : List Node} {target : Value}
    (h : value.type.target? = some target) :
    targets (value :: path) = target :: targets path := List.filterMap_cons_some h

/-- Below a chain of different sheets, a path names further ones, different from each other and
from those of the chain. -/
theorem WellTyped.nodup_targets {sheets : List String} {dataTypes : List Cell}
    {forest : Forest Node} {chain : List String} {sheet : String}
    (h : forest.WellTyped sheets dataTypes chain sheet)
    (hchain : chain.Nodup) {path : List Node} (hpath : forest.Path path) :
    (chain.map Value.str ++ targets path).Nodup := by
  induction hpath generalizing chain sheet with
  | nil forest =>
    have hinjective : Function.Injective Value.str := fun _ _ h => by simpa using h
    rw [targets, List.filterMap_nil, List.append_nil]
    exact List.Nodup.map hinjective hchain
  | @down value children rest path below ih =>
    obtain ⟨_, htype, _⟩ := h
    cases ht : value.type with
    | structural =>
      rw [ht] at htype
      rw [targets_cons_of_none (by rw [ht]; rfl)]
      exact ih htype.2 hchain
    | leaf dataType =>
      rw [ht] at htype
      have hchildren : children.WellTyped sheets dataTypes chain sheet := htype.2 ▸ trivial
      rw [targets_cons_of_none (by rw [ht]; rfl)]
      exact ih hchildren hchain
    | reference target =>
      rw [ht] at htype
      obtain ⟨name, rfl, hname, _, _, _, hchildren⟩ := htype
      -- the name joins the chain for what stands below it
      have hbelow := ih hchildren (nodup_append_singleton hchain hname)
      rw [List.map_append, List.append_assoc] at hbelow
      rwa [targets_cons_of_some (by rw [ht]; rfl)]
  | beside among ih => exact ih h.2.2 hchain

end Forest

/-- Over every source, a build is what it would be if sheets were read only below chains of
different existing sheets from the root on, nested no deeper than there are sheets, whatever
happened otherwise. And the sheets that are named along a path of a tree that is built are different
from each other and from the root sheet. -/
theorem build_nesting {σ : Type} (source : Source σ) (vocabulary : Vocabulary) (root : String) :
    (∀ otherwise depth, source.sheets.eraseDups.length ≤ depth →
      Build.schemaBy source vocabulary
          (Build.scanningWithin source vocabulary root otherwise depth) root =
        Build.schema source vocabulary root) ∧
    ∀ state journal schema, (build source vocabulary root state journal).1 = .ok schema →
      ∀ path, schema.forest.Path path → (.str root :: Forest.targets path).Nodup := by
  refine ⟨fun otherwise depth => Build.schemaBy_scanningWithin otherwise, ?_⟩
  intro state journal schema hbuild path hpath
  exact (wellTyped_build hbuild).nodup_targets (List.nodup_singleton root) hpath

/-- Three sheets are nested, on a path that names the two below the root, so a build that would fail
if more of them were nested does not fail. -/
theorem build_nesting_diamond :
    let source : Source Unit := (Diamond.grid "T" "int").toGrid.source
    let otherwise : Build.Reading Unit := fun _ _ _ _ => throw (.meaninglessRow "R" 0)
    ((Build.schemaBy source Twice.vocabulary
        (Build.scanningWithin source Twice.vocabulary "R" otherwise 3) "R").run
      { source := () }).1 = .ok Diamond.schema ∧
    ∃ path, Diamond.schema.forest.Path path ∧ path.map (·.name) = ["a", "c", "x"] ∧
      Forest.targets path = ["S", "T"] ∧ (.str "R" :: Forest.targets path).Nodup := by
  intro source otherwise
  have hbuild : (build source Twice.vocabulary "R" () #[]).1 = .ok Diamond.schema :=
    (build_grid ..).trans Diamond.schema_eq
  obtain ⟨hwithin, hnodup⟩ := build_nesting source Twice.vocabulary "R"
  have hpath : Diamond.schema.forest.Path
      [{ name := "a", type := .reference "S", template := "R" },
        { name := "c", type := .reference "T", template := "S" },
        { name := "x", type := .leaf "int", template := "T" }] :=
    .down (.down (.down (.nil _)))
  refine ⟨?_, _, hpath, rfl, rfl, hnodup () #[] _ hbuild _ hpath⟩
  rw [hwithin otherwise 3 (by decide)]
  exact hbuild

end SheetSchema
