import SheetScript.Tree

universe u

namespace SheetScript.Tree

variable {α β : Type u}

def label : Tree α → α
  | node label _ => label

def labels : List (Tree α) → List α
  | [] => []
  | .node a branches :: rest => a :: (labels branches ++ labels rest)

def paths : List (Tree α) → List (List α)
  | [] => []
  | .node a branches :: rest => [a] :: ((paths branches).map (a :: ·) ++ paths rest)

def localTrees : List (Tree α) → List (α × List α)
  | [] => []
  | .node a branches :: rest =>
    (a, branches.map label) :: (localTrees branches ++ localTrees rest)

def mapAll (f : α → β) : List (Tree α) → List (Tree β)
  | [] => []
  | .node a branches :: rest => .node (f a) (mapAll f branches) :: mapAll f rest

@[simp] theorem labels_nil : labels ([] : List (Tree α)) = [] := by rw [labels]

theorem mem_labels_cons {a b : α} {branches rest : List (Tree α)} :
    b ∈ labels (.node a branches :: rest) ↔ (b = a ∨ b ∈ labels branches) ∨ b ∈ labels rest := by
  rw [labels, List.mem_cons, List.mem_append, or_assoc]

theorem mem_labels_iff {a : α} {ts : List (Tree α)} :
    a ∈ labels ts ↔ ∃ t ∈ ts, a ∈ labels [t] := by
  induction ts with
  | nil => simp
  | cons t ts ih =>
    obtain ⟨b, branches⟩ := t
    simp [mem_labels_cons, ih]

@[simp] theorem paths_nil : paths ([] : List (Tree α)) = [] := by rw [paths]

theorem mem_paths_cons {a : α} {branches rest : List (Tree α)} {path : List α} :
    path ∈ paths (.node a branches :: rest) ↔
      (∃ walk, path = a :: walk ∧ (walk = [] ∨ walk ∈ paths branches)) ∨ path ∈ paths rest := by
  rw [paths, List.mem_cons, List.mem_append, ← or_assoc]
  refine or_congr ?_ Iff.rfl
  constructor
  · rintro (rfl | below)
    · exact ⟨[], rfl, .inl rfl⟩
    · obtain ⟨walk, mem, rfl⟩ := List.mem_map.1 below
      exact ⟨walk, rfl, .inr mem⟩
  · rintro ⟨walk, rfl, rfl | mem⟩
    · exact .inl rfl
    · exact .inr (List.mem_map.2 ⟨walk, mem, rfl⟩)

theorem map_label_mapAll (f : α → β) (ts : List (Tree α)) :
    (mapAll f ts).map label = (ts.map label).map f := by
  fun_induction mapAll f ts with
  | case1 => rfl
  | case2 a branches rest _ ih => simp [label, ih]

end SheetScript.Tree
