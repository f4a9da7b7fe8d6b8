import Mathlib.Data.List.Permutation
import SheetScript.Error
import SheetScript.Proofs.Graph.Order

universe u

namespace SheetScript

theorem mapError_eq_error_iff {ε ε' α : Type} {x : Except ε α} {f : ε → ε'} {e : ε'} :
    x.mapError f = .error e ↔ ∃ cause, x = .error cause ∧ e = f cause := by
  cases x <;> simp [Except.mapError, eq_comm]

variable {V : Type u} [DecidableEq V]

namespace Graph

theorem order_ofList_eq_error_iff {g : Graph V} {cells : List V} {v : V} :
    g.order (.ofList cells) = .error v ↔ cells.find? (g.ReachesCycle ·) = some v := by
  rw [order_eq_error_iff, OrderedSet.find?_ofList]

theorem exists_order_ofList_eq_error_iff {g : Graph V} {cells : List V} :
    (∃ v, g.order (.ofList cells) = .error v) ↔ ∃ c ∈ cells, g.ReachesCycle c := by
  simp only [exists_order_eq_error_iff, OrderedSet.mem_ofList]

end Graph

/-- An order fails if and only if a cycle is reached from one of the cells, and the error names the
first from which one is. -/
theorem order_fails_at_first_reaching_cycle (g : Graph String) (cells : List String) :
    ((∃ e, (g.order (.ofList cells)).mapError Error.cycle = .error e) ↔
      ∃ c ∈ cells, g.ReachesCycle c) ∧
    ∀ e, (g.order (.ofList cells)).mapError Error.cycle = .error e ↔
      ∃ cell, cells.find? (g.ReachesCycle ·) = some cell ∧ e = .cycle cell ∧
        e.message =
          "The graph has a cycle, possibly due to a circular reference involving " ++ cell := by
  simp only [mapError_eq_error_iff]
  constructor
  · rw [← Graph.exists_order_ofList_eq_error_iff]
    constructor
    · rintro ⟨e, cell, failed, _⟩
      exact ⟨cell, failed⟩
    · rintro ⟨cell, failed⟩
      exact ⟨.cycle cell, cell, failed, rfl⟩
  · intro e
    constructor
    · rintro ⟨cell, failed, rfl⟩
      exact ⟨cell, Graph.order_ofList_eq_error_iff.1 failed, rfl, rfl⟩
    · rintro ⟨cell, first, rfl, _⟩
      exact ⟨cell, Graph.order_ofList_eq_error_iff.2 first, rfl⟩

/-- An order has no repetition, lists what can be reached from the cells and nothing else, and lists
the end of every arrow before its start. -/
theorem order_lists_reachable_after_targets (g : Graph V) (cells l : List V)
    (h : g.order (.ofList cells) = .ok l) :
    l.Nodup ∧ (∀ v, v ∈ l ↔ ∃ c ∈ cells, g.Reaches c v) ∧
      ∀ u ∈ l, ∀ v ∈ g.next u, v ∈ l ∧ [v, u].Sublist l := by
  have settled := Graph.settled_of_order_eq_ok h
  refine ⟨settled.nodup, fun v => ?_, fun u hu v a => ?_⟩
  · simp only [Graph.mem_of_order_eq_ok h, OrderedSet.mem_ofList]
  · exact ⟨settled.mem_of_arrow hu a, settled.sublist hu (.single a)⟩

theorem order_of_shared_vertex :
    let g : Graph String := .ofList [("A1", .ofList ["B1", "C1"]), ("B1", .ofList ["D1"]),
      ("C1", .ofList ["D1", "E1"])]
    let cells := ["C1", "A1", "C1"]
    let l := ["D1", "E1", "C1", "B1", "A1"]
    g.order (.ofList cells) = .ok l ∧ "D1" ∉ g.keys ∧ "D1" ∉ cells ∧ l.Nodup ∧
      (∃ c ∈ cells, g.Reaches c "D1") ∧ ["D1", "B1"].Sublist l ∧ ["E1", "C1"].Sublist l := by
  intro g cells l
  have h : g.order (.ofList cells) = .ok l := by cbv
  obtain ⟨nodup, reached, ordered⟩ := order_lists_reachable_after_targets g cells l h
  exact ⟨h, by decide, by decide, nodup, (reached "D1").1 (by decide),
    (ordered "B1" (by decide) "D1" (by decide)).2, (ordered "C1" (by decide) "E1" (by decide)).2⟩

end SheetScript
