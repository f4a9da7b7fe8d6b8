import Mathlib.Data.List.Permutation
import SheetScript.Proofs.Graph.Turns

universe u

namespace SheetScript

variable {V : Type u} [DecidableEq V]

/-- Peeling lists every cell and repeats nothing; what it lists besides are ends of arrows. If all
ends of arrows are cells, it lists the cells in another order. -/
theorem peel_lists_every_cell_once (g : Graph V) (cells : OrderedSet V) :
    (g.peel cells).Nodup ∧ (∀ c ∈ cells, c ∈ g.peel cells) ∧
      (∀ v ∈ g.peel cells, v ∉ cells → ∃ u, g.Arrow u v) ∧
      ((∀ u v, g.Arrow u v → v ∈ cells) → (g.peel cells).Perm cells.toList) := by
  have inside {v : V} (mem : v ∈ g.peel cells) : v ∈ cells ∨ ∃ u, g.Arrow u v := by
    rcases Graph.mem_peel.1 mem with early | cell
    · exact (Graph.mem_cells_or_targets_of_mem_front early).imp_right Graph.mem_targets.1
    · exact .inl cell
  refine ⟨g.nodup_peel cells, fun c mem => Graph.mem_peel.2 (.inr mem), ?_, fun closed => ?_⟩
  · exact fun v mem out => (inside mem).resolve_left out
  · refine (List.perm_ext_iff_of_nodup (g.nodup_peel cells) cells.nodup).2 fun v => ?_
    constructor
    · exact fun mem => (inside mem).elim id fun ⟨u, a⟩ => closed u v a
    · exact fun mem => Graph.mem_peel.2 (.inr mem)

theorem peel_of_closed_cycle :
    let g : Graph String := .ofList [("C1", .ofList ["B1", "C1"]), ("B1", .ofList ["C1", "D1"]),
      ("A1", .ofList ["D1"])]
    let cells : OrderedSet String := .ofList ["D1", "C1", "A1", "B1"]
    g.peel cells = ["A1", "D1", "B1", "C1"] ∧ ¬ g.Acyclic ∧
      (∀ u v, g.Arrow u v → v ∈ cells) ∧ (g.peel cells).Nodup ∧
      (g.peel cells).Perm cells.toList := by
  intro g cells
  have closed : ∀ u v, g.Arrow u v → v ∈ cells := fun u v a =>
    (by decide : ∀ v ∈ g.targets, v ∈ cells) v (Graph.mem_targets.2 ⟨u, a⟩)
  obtain ⟨nodup, _, _, perm⟩ := peel_lists_every_cell_once g cells
  exact ⟨by cbv, fun acyclic => acyclic "C1" (.single (by decide)), closed, nodup, perm closed⟩

/-- Peeling lists first what no cycle reaches, each vertex after all that leads to it, and then
what some cycle reaches. -/
theorem peel_lists_first_what_no_cycle_reaches (g : Graph V) (cells : OrderedSet V)
    (keys : ∀ v ∈ g.keys, v ∈ cells) :
    (g.peel cells).Nodup ∧
      (∃ front rest, g.peel cells = front ++ rest ∧
        (∀ v, v ∈ front ↔ (v ∈ cells ∨ v ∈ g.targets) ∧ ¬ g.ReachedByCycle v) ∧
        (∀ v ∈ rest, g.ReachedByCycle v) ∧
        ∀ v ∈ front, ∀ u, g.Arrow u v → [u, v].Sublist front) ∧
      (∀ u v, g.Arrow u v → ¬ g.ReachedByCycle v → [u, v].Sublist (g.peel cells)) ∧
      (g.Acyclic → ∀ u v, g.Arrow u v → [u, v].Sublist (g.peel cells)) := by
  obtain ⟨rest, perm, eq⟩ := Graph.exists_peel_eq g cells
  have before {u v : V} (mem : v ∈ g.front cells) (a : g.Arrow u v) :
      [u, v].Sublist (g.front cells) :=
    (g.settled_front cells).sublist mem (.single (Graph.arrow_reverse.2 a))
  have ordered {u v : V} (a : g.Arrow u v) (off : ¬ g.ReachedByCycle v) :
      [u, v].Sublist (g.peel cells) := by
    have early : v ∈ g.front cells :=
      (Graph.mem_front_iff keys).2 ⟨.inr (Graph.mem_targets.2 ⟨u, a⟩), off⟩
    exact eq ▸ (before early a).trans (List.sublist_append_left _ _)
  refine ⟨g.nodup_peel cells, ⟨g.front cells, rest, eq, fun v => Graph.mem_front_iff keys, ?_, ?_⟩,
    fun u v => ordered, fun acyclic u v a => ordered a (acyclic.not_reachedByCycle v)⟩
  · intro v mem
    obtain ⟨cell, late⟩ := List.mem_filter.1 (perm.mem_iff.1 mem)
    by_contra off
    exact of_decide_eq_true late ((Graph.mem_front_iff keys).2 ⟨.inl cell, off⟩)
  · exact fun v mem u => before mem

theorem peel_of_entered_cycle :
    let g : Graph String := .ofList [("A1", .ofList ["B1", "E1"]), ("B1", .ofList ["C1"]),
      ("C1", .ofList ["B1", "D1"]), ("F1", .ofList ["E1", "A1"])]
    let cells : OrderedSet String := .ofList ["A1", "B1", "C1", "D1", "F1"]
    (∀ v ∈ g.keys, v ∈ cells) ∧ g.peel cells = ["F1", "A1", "E1", "B1", "C1", "D1"] ∧
      "E1" ∉ cells ∧ ["A1", "E1"].Sublist (g.peel cells) ∧ g.ReachedByCycle "D1" ∧
      ∃ front rest, g.peel cells = front ++ rest ∧ "E1" ∈ front ∧ "D1" ∈ rest := by
  intro g cells
  have keys : ∀ v ∈ g.keys, v ∈ cells := by decide
  have queued : g.front cells = ["F1", "A1", "E1"] := by cbv
  have free : ¬ g.ReachedByCycle "E1" :=
    ((Graph.mem_front_iff keys).1 (by rw [queued]; decide)).2
  have reached : g.ReachedByCycle "D1" :=
    ⟨"C1", .tail (.single (by decide : g.Arrow "C1" "B1")) (by decide), .single (by decide)⟩
  obtain ⟨_, ⟨front, rest, eq, first, _⟩, ordered, _⟩ :=
    peel_lists_first_what_no_cycle_reaches g cells keys
  have listed : "D1" ∈ front ++ rest := eq ▸ Graph.mem_peel.2 (.inr (by decide))
  refine ⟨keys, by cbv, by decide, ordered "A1" "E1" (by decide) free, reached, front, rest, eq,
    (first "E1").2 ⟨.inr (by decide), free⟩, ?_⟩
  exact (List.mem_append.1 listed).resolve_left fun mem => ((first "D1").1 mem).2 reached

open Peeling Stage in
/-- Between any two turns the degree of a vertex is the number of rows that lead to it and are not
taken off, so it is never negative. When the queue is empty, each turn takes off the first of the
cells that are left, in their order, to which the fewest such rows lead. All turns lead to the end,
where all that is listed is taken off. -/
theorem degrees_count_rows_left (g : Graph V) (cells : OrderedSet V) :
    ∃ last : Peeling V, last.output = g.peel cells ∧
      ∀ s, Reached g cells s →
        Relation.ReflTransGen (Turn g cells) s (.leftover last []) ∧
        (∀ v, s.peeling.degrees.get v = g.outstanding s.peeling.output v ∧
          0 ≤ s.peeling.degrees.get v) ∧
        ∀ p rest t, s = .leftover p rest → Turn g cells s t →
          ∃ w, t.peeling.output = p.output ++ [w] ∧
            FirstLeast (g.outstanding p.output) (cells.toList.filter (· ∉ p.output)) w := by
  obtain ⟨last, listed, ends⟩ := exists_last g cells
  refine ⟨last, listed, fun s reached => ⟨ends s reached, fun v => ?_, ?_⟩⟩
  · have count := reached.counted.degree v
    exact ⟨count, count ▸ Int.natCast_nonneg _⟩
  · rintro p rest t rfl turn
    exact reached.counted.exists_firstLeast turn

open Peeling Stage in
theorem degrees_of_closed_cycle :
    let g : Graph String := .ofList [("A1", .ofList ["B1"]), ("B1", .ofList ["A1", "B1", "C1"]),
      ("C1", .ofList ["B1"]), ("D1", .ofList ["C1", "E1"])]
    let cells : OrderedSet String := .ofList ["B1", "C1", "A1", "D1"]
    ∃ p rest t, Reached g cells (.leftover p rest) ∧ Turn g cells (.leftover p rest) t ∧
      p.output = ["D1", "E1"] ∧ p.degrees.get "B1" = 3 ∧
      FirstLeast (g.outstanding ["D1", "E1"]) ["B1", "C1", "A1"] "C1" ∧
      t.peeling.output = ["D1", "E1", "C1"] := by
  intro g cells
  have front : ((start g cells).drain g).output = ["D1", "E1"] := by cbv
  have left : cells.toList.filter (· ∉ ["D1", "E1"]) = ["B1", "C1", "A1"] := by decide
  have picked : "C1" = least ((start g cells).drain g).degrees "B1" ["C1", "A1"] := by cbv
  have reached := reached_leftover g cells
  rw [Graph.front, front, left] at reached
  have turn : Turn g cells (.leftover _ _) _ := .any picked
  obtain ⟨_, _, stages⟩ := degrees_count_rows_left g cells
  obtain ⟨_, counts, turns⟩ := stages _ reached
  obtain ⟨w, output, first⟩ := turns _ _ _ rfl turn
  obtain rfl : "C1" = w := List.singleton_injective (List.append_cancel_left output)
  rw [front, left] at first
  refine ⟨_, _, _, reached, turn, front, (counts "B1").1.trans ?_, first,
    by rw [output, front]; rfl⟩
  change (g.outstanding ((start g cells).drain g).output "B1" : Int) = 3
  rw [front]
  decide

end SheetScript
