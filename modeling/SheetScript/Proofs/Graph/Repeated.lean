import Mathlib.Data.List.Permutation
import SheetScript.Proofs.Graph.Refusal

universe u

namespace SheetScript

open Relation

variable {V : Type u} [DecidableEq V]

theorem Search.Sound.exists_cut_of_cycle {g : Graph V} {s : Search V} (h : Sound g s)
    (empty : s.stack = []) (ended : s.roots = []) {v : V} (cycle : TransGen (Kept g s.cut) v v) :
    ∃ w, g.Arrow v w ∧ (v, w) ∈ s.cut := by
  have opened : v ∉ s.closed := fun closed => h.inOrder.irrefl closed cycle
  obtain ⟨_, a, _⟩ := TransGen.head'_iff.1 cycle
  obtain ⟨_, w, _, row, lost, _⟩ := h.leftOpen_of_arrow empty ended a.1 opened
  exact ⟨w, by rw [Graph.Arrow, row]; simp, lost⟩

omit [DecidableEq V] in
theorem transGen_of_closed_walk {r : V → V → Prop} {v : Nat → V} {n : Nat} (closed : v n = v 0)
    (walk : ∀ i < n, r (v i) (v (i + 1))) {i : Nat} (hi : i < n) : TransGen r (v i) (v i) := by
  have path {j k : Nat} (le : j ≤ k) (hk : k ≤ n) : ReflTransGen r (v j) (v k) := by
    induction le with
    | refl => exact .refl
    | step _ ih => exact (ih (by omega)).tail (walk _ (by omega))
  have onward : ReflTransGen r (v (i + 1)) (v n) := path hi le_rfl
  have back : ReflTransGen r (v 0) (v i) := path (Nat.zero_le i) hi.le
  exact .head' (walk i hi) (onward.trans (closed ▸ back))

namespace Graph

variable {g h : Graph V} {missing : Missing}

theorem exists_lost_of_cycle (hh : g.breakCycles missing = .ok h) {v : V}
    (cycle : TransGen h.Arrow v v) : ∃ w, g.Arrow v w ∧ ¬ h.Arrow v w := by
  obtain ⟨s, hs⟩ := exists_run_of_breakCycles_eq_ok hh
  obtain ⟨sound, empty, ended⟩ := Search.sound_of_run_eq_ok hs
  rw [arrow_breakCycles hs hh] at cycle ⊢
  obtain ⟨w, a, lost⟩ := sound.exists_cut_of_cycle empty ended cycle
  exact ⟨w, a, fun kept => kept.2 lost⟩

theorem exists_lost_of_not_acyclic (hh : g.breakCycles missing = .ok h) (cyclic : ¬ g.Acyclic) :
    ∃ u w, g.Arrow u w ∧ ¬ h.Arrow u w := by
  by_contra whole
  push Not at whole
  obtain ⟨v, cycle⟩ := not_forall_not.1 cyclic
  obtain ⟨w, a, lost⟩ := exists_lost_of_cycle hh (TransGen.mono whole v v cycle)
  exact lost (whole v w a)

theorem edges_breakCycles {s : Search V} (hs : Search.run g missing (.start g) = .ok s)
    (hh : g.breakCycles missing = .ok h) : h.edges = g.edges.filter (· ∉ s.cut) := by
  rw [breakCycles_of_run_eq_ok hs, Except.ok.injEq] at hh
  rw [← hh, edges_foldl_addVertex, edges_removeEdges]

theorem length_edges_breakCycles_lt (hh : g.breakCycles missing = .ok h) (cyclic : ¬ g.Acyclic) :
    h.edges.length < g.edges.length := by
  obtain ⟨s, hs⟩ := exists_run_of_breakCycles_eq_ok hh
  obtain ⟨u, w, a, lost⟩ := exists_lost_of_not_acyclic hh cyclic
  rw [edges_breakCycles hs hh, List.length_filter_lt_length_iff_exists]
  refine ⟨(u, w), mem_edges.2 a, fun kept => lost ?_⟩
  rw [arrow_breakCycles hs hh]
  exact ⟨a, of_decide_eq_true kept⟩

def breakTimes (missing : Missing) : Nat → Graph V → Except V (Graph V)
  | 0, g => .ok g
  | n + 1, g => do breakTimes missing n (← g.breakCycles missing)

theorem breakTimes_succ {n : Nat} (hh : g.breakCycles missing = .ok h) :
    g.breakTimes missing (n + 1) = h.breakTimes missing n := by
  rw [breakTimes, hh]
  rfl

theorem exists_breakTimes (g : Graph V) (missing : Missing) :
    ∃ n ≤ g.edges.length, ∃ k, g.breakTimes missing n = .ok k ∧
      (k.Acyclic ∨ missing = .refused ∧
        ∃ w ∈ g.targets, w ∉ g.keys ∧ k.breakCycles missing = .error w) := by
  -- By induction on the number of arrows: a graph with cycles loses at least one each time.
  induction size : g.edges.length using Nat.strong_induction_on generalizing g with
  | _ size ih =>
    subst size
    by_cases acyclic : g.Acyclic
    · exact ⟨0, Nat.zero_le _, g, rfl, .inl acyclic⟩
    · cases hh : g.breakCycles missing with
      | error w =>
        obtain ⟨refused, target, absent⟩ := of_breakCycles_eq_error hh
        exact ⟨0, Nat.zero_le _, g, rfl, .inr ⟨refused, w, target, absent, hh⟩⟩
      | ok h =>
        have fewer := length_edges_breakCycles_lt hh acyclic
        obtain ⟨n, le, k, hk, result⟩ := ih _ fewer h rfl
        refine ⟨n + 1, by omega, k, (breakTimes_succ hh).trans hk, result.imp_right ?_⟩
        rintro ⟨rfl, w, target, absent, failed⟩
        obtain ⟨u, a⟩ := mem_targets.1 target
        refine ⟨rfl, w, mem_targets.2 ⟨u, arrow_of_arrow_breakCycles hh a⟩, ?_, failed⟩
        rwa [← keys_breakCycles_refused hh]

end Graph

/-- Of every cycle an arrow is taken, or else an arrow of every vertex on it; in particular a graph
with cycles loses an arrow. So repeating this leads to a graph without cycles, unless it is refused
a vertex without a row on the way. -/
theorem cycle_loses_arrow_or_every_vertex_does (g h : Graph V) (missing : Missing)
    (hh : g.breakCycles missing = .ok h) :
    (∀ (v : Nat → V) (n : Nat), 1 ≤ n → v n = v 0 → (∀ i < n, g.Arrow (v i) (v (i + 1))) →
      (∃ i < n, ¬ h.Arrow (v i) (v (i + 1))) ∨
        ∀ i < n, ∃ w, g.Arrow (v i) w ∧ ¬ h.Arrow (v i) w) ∧
    (¬ g.Acyclic → ∃ u w, g.Arrow u w ∧ ¬ h.Arrow u w) ∧
    ∃ n ≤ g.edges.length, ∃ k, g.breakTimes missing n = .ok k ∧
      (k.Acyclic ∨ missing = .refused ∧
        ∃ w ∈ g.targets, w ∉ g.keys ∧ k.breakCycles missing = .error w) := by
  refine ⟨fun v n _ closed _ => ?_, Graph.exists_lost_of_not_acyclic hh,
    g.exists_breakTimes missing⟩
  by_cases kept : ∀ i < n, h.Arrow (v i) (v (i + 1))
  · exact .inr fun i hi => Graph.exists_lost_of_cycle hh (transGen_of_closed_walk closed kept hi)
  · push Not at kept
    exact .inl kept

theorem arrows_lost_by_two_self_references :
    let g : Graph String := .ofList [("A1", .ofList ["A1", "B1"]), ("B1", .ofList ["B1", "A1"])]
    let h : Graph String := .ofList [("A1", .ofList ["B1"]), ("B1", .ofList ["A1"])]
    g.breakCycles .added = .ok h ∧ h.Arrow "A1" "B1" ∧ h.Arrow "B1" "A1" ∧
      (∃ w, g.Arrow "A1" w ∧ ¬ h.Arrow "A1" w) ∧ (∃ w, g.Arrow "B1" w ∧ ¬ h.Arrow "B1" w) ∧
      ∃ n ≤ 4, ∃ k, g.breakTimes .added n = .ok k ∧ k.Acyclic := by
  intro g h
  have hh : g.breakCycles .added = .ok h := by cbv
  have there : h.Arrow "A1" "B1" := by decide
  have back : h.Arrow "B1" "A1" := by decide
  obtain ⟨cycles, _, n, le, k, hk, result⟩ :=
    cycle_loses_arrow_or_every_vertex_does g h .added hh
  let v (i : Nat) : String := if i % 2 = 0 then "A1" else "B1"
  have lost : ∀ i < 2, ∃ w, g.Arrow (v i) w ∧ ¬ h.Arrow (v i) w := by
    refine (cycles v 2 (by decide) rfl (by decide)).resolve_left ?_
    decide
  exact ⟨hh, there, back, lost 0 (by decide), lost 1 (by decide), n, le, k, hk,
    result.resolve_right fun refused => absurd refused.1 (by decide)⟩

theorem repetition_refused_before_acyclic :
    let g : Graph String := .ofList [("A1", .ofList ["A1", "B1", "C1"]),
      ("B1", .ofList ["A1", "B1"])]
    (∃ h, g.breakCycles .refused = .ok h) ∧
      ¬ ∃ n k, g.breakTimes .refused n = .ok k ∧ k.Acyclic := by
  intro g
  let h : Graph String := .ofList [("A1", .ofList ["B1", "C1"]), ("B1", .ofList ["B1"])]
  have first : g.breakCycles .refused = .ok h := by cbv
  have second : h.breakCycles .refused = .error "C1" := by cbv
  refine ⟨⟨h, first⟩, ?_⟩
  rintro ⟨n, k, hk, acyclic⟩
  rcases n with _ | _ | n
  · cases hk
    exact acyclic "A1" (.single (by decide))
  · rw [Graph.breakTimes_succ first] at hk
    cases hk
    exact acyclic "B1" (.single (by decide))
  · rw [Graph.breakTimes_succ first, Graph.breakTimes, second] at hk
    cases hk

end SheetScript
