import SheetScript.Ordered.Map

/-!
Directed graphs. A vertex may have its row of arrows; rows, and the arrows of a row, keep the
order in which they came in. Arrows may lead to vertices that have no row.
-/

universe u

namespace SheetScript

abbrev Graph (V : Type u) := OrderedMap V (OrderedSet V)

namespace Graph

variable {V : Type u}

def edges (g : Graph V) : List (V × V) :=
  g.entries.flatMap fun e => e.2.toList.map fun v => (e.1, v)

def targets (g : Graph V) : List V := g.entries.flatMap fun e => e.2.toList

variable [DecidableEq V]

def next (g : Graph V) (v : V) : List V :=
  match g.find? v with
  | some s => s.toList
  | none => []

def addVertex (g : Graph V) (v : V) : Graph V := g.upsert v fun s => s.getD .empty

def addEdge (g : Graph V) (u v : V) : Graph V := g.upsert u fun s => (s.getD .empty).insert v

def ofRows (rows : List (V × List V)) : Graph V :=
  rows.foldl (fun g r => r.2.foldl (fun g v => g.addEdge r.1 v) (g.addVertex r.1)) .empty

def removeEdges (g : Graph V) (cut : List (V × V)) : Graph V :=
  g.mapValues fun u s => s.filter fun v => (u, v) ∉ cut

def roots (g : Graph V) : List V := g.keys.filter (· ∉ g.targets)

theorem next_of_not_mem {g : Graph V} {v : V} (h : v ∉ g.keys) : g.next v = [] := by
  unfold next
  rw [OrderedMap.find?_eq_none.2 h]

def unseen (g : Graph V) (seen : List V) : Nat := g.keys.countP (· ∉ seen)

theorem unseen_cons_le (g : Graph V) (seen : List V) (v : V) :
    g.unseen (v :: seen) ≤ g.unseen seen :=
  List.countP_mono_left fun x _ h => by simp_all

theorem unseen_insert (g : Graph V) (seen : OrderedSet V) (v : V) :
    g.unseen (seen.insert v).toList = g.unseen (v :: seen.toList) := by
  refine List.countP_congr fun x _ => ?_
  simp [Or.comm]

theorem countP_cons_lt {v : V} {seen l : List V} (hv : v ∈ l) (hs : v ∉ seen) :
    l.countP (· ∉ v :: seen) < l.countP (· ∉ seen) := by
  induction l with
  | nil => simp at hv
  | cons x l ih =>
    have le : l.countP (· ∉ v :: seen) ≤ l.countP (· ∉ seen) :=
      List.countP_mono_left fun y _ h => by simp_all
    by_cases e : x = v
    · subst e
      rw [List.countP_cons_of_neg (by simp), List.countP_cons_of_pos (by simpa using hs)]
      omega
    · have := ih (by simpa [Ne.symm e] using hv)
      simp only [List.countP_cons, List.mem_cons, e, false_or]
      simp only [List.mem_cons] at this
      omega

theorem unseen_cons_lt {g : Graph V} {seen : List V} {v : V} (hv : v ∈ g.keys) (hs : v ∉ seen) :
    g.unseen (v :: seen) < g.unseen seen :=
  countP_cons_lt hv hs

/-- The step down in every search that follows arrows without entering a vertex twice. -/
theorem unseen_decreasing (g : Graph V) {seen : List V} {v : V} (hs : v ∉ seen) (rest : List V) :
    Prod.Lex (· < ·) (· < ·)
      (g.unseen (v :: seen), (g.next v).length) (g.unseen seen, (v :: rest).length) := by
  by_cases hv : v ∈ g.keys
  · exact .left _ _ (unseen_cons_lt hv hs)
  · rw [Prod.lex_def, next_of_not_mem hv]
    have := unseen_cons_le g seen v
    simp only [List.length_nil, List.length_cons]
    omega

end Graph

end SheetScript
