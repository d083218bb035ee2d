/-!
Ordered forests. A forest is empty, or a first node with the forest of its children and the
forest of the nodes after it, so that induction on a forest covers depth and breadth at once.
-/
namespace SheetSchema

inductive Forest (α : Type) where
  | nil
  | node (value : α) (children rest : Forest α)
  deriving DecidableEq, Repr, Inhabited

namespace Forest

variable {α β : Type}

/-- The nodes of the top level. -/
def roots : Forest α → List α
  | nil => []
  | node value _ rest => value :: rest.roots

/-- All nodes, each before its children and these before the nodes after it. -/
def walk : Forest α → List α
  | nil => []
  | node value children rest => value :: (children.walk ++ rest.walk)

/-- `walk`, each node with its depth, the top level at `depth`. -/
def walkFrom (depth : Nat) : Forest α → List (Nat × α)
  | nil => []
  | node value children rest =>
    (depth, value) :: (children.walkFrom (depth + 1) ++ rest.walkFrom depth)

def size : Forest α → Nat
  | nil => 0
  | node _ children rest => children.size + rest.size + 1

def append : Forest α → Forest α → Forest α
  | nil, other => other
  | node value children rest, other => node value children (rest.append other)

instance : Append (Forest α) := ⟨append⟩

def map (f : α → β) : Forest α → Forest β
  | nil => nil
  | node value children rest => node (f value) (children.map f) (rest.map f)

/-- The forest of one node with its children. -/
def tree (value : α) (children : Forest α) : Forest α := node value children nil

/-- The forest with its nodes numbered in the order of `walk`, from `start` on. -/
def numberFrom (start : Nat) : Forest α → Forest (Nat × α)
  | nil => nil
  | node value children rest =>
    node (start, value) (children.numberFrom (start + 1))
      (rest.numberFrom (start + 1 + children.size))

@[simp] theorem nil_append (other : Forest α) : nil ++ other = other := rfl

@[simp] theorem node_append (value : α) (children rest other : Forest α) :
    node value children rest ++ other = node value children (rest ++ other) := rfl

@[simp] theorem append_nil (forest : Forest α) : forest ++ nil = forest := by
  induction forest with
  | nil => rfl
  | node value children rest _ ih => simp [ih]

theorem append_assoc (a b c : Forest α) : a ++ b ++ c = a ++ (b ++ c) := by
  induction a with
  | nil => rfl
  | node value children rest _ ih => simp [ih]

@[simp] theorem roots_append (a b : Forest α) : (a ++ b).roots = a.roots ++ b.roots := by
  induction a with
  | nil => rfl
  | node value children rest _ ih => simp [roots, ih]

@[simp] theorem walk_append (a b : Forest α) : (a ++ b).walk = a.walk ++ b.walk := by
  induction a with
  | nil => rfl
  | node value children rest _ ih => simp [walk, ih]

@[simp] theorem length_walk (forest : Forest α) : forest.walk.length = forest.size := by
  induction forest with
  | nil => rfl
  | node value children rest ihc ihr => simp [walk, size, ihc, ihr]

@[simp] theorem roots_map (f : α → β) (forest : Forest α) :
    (forest.map f).roots = forest.roots.map f := by
  induction forest with
  | nil => rfl
  | node value children rest _ ih => simp [map, roots, ih]

@[simp] theorem walk_map (f : α → β) (forest : Forest α) :
    (forest.map f).walk = forest.walk.map f := by
  induction forest with
  | nil => rfl
  | node value children rest ihc ihr => simp [map, walk, ihc, ihr]

@[simp] theorem size_numberFrom (start : Nat) (forest : Forest α) :
    (forest.numberFrom start).size = forest.size := by
  induction forest generalizing start with
  | nil => rfl
  | node value children rest ihc ihr => simp [numberFrom, size, ihc, ihr]

/-- The numbers count on from the first one. -/
theorem walk_numberFrom (start : Nat) (forest : Forest α) :
    (forest.numberFrom start).walk.map (·.1) = List.range' start forest.size := by
  induction forest generalizing start with
  | nil => rfl
  | node value children rest ihc ihr =>
    simp only [numberFrom, walk, List.map_cons, List.map_append, ihc, ihr, size]
    rw [List.range'_succ, ← List.range'_append_1]

/-- Numbering leaves the nodes as they are. -/
theorem map_numberFrom (start : Nat) (forest : Forest α) :
    (forest.numberFrom start).map (·.2) = forest := by
  induction forest generalizing start with
  | nil => rfl
  | node value children rest ihc ihr => simp [numberFrom, map, ihc, ihr]

end Forest

end SheetSchema
