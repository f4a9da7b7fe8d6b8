import Mathlib.Algebra.GroupWithZero.Nat
import Mathlib.Data.List.Permutation
import SheetScript.Proofs.Graph.Order
import SheetScript.Proofs.Graph.Peeling
import SheetScript.Proofs.Graph.Reordering

/-!
Running the cells of a sheet in an order. Every cell has a function of the environment that reads
only what the cell's arrows lead to, and is assigned its value when its turn comes. In whatever
order the cells come, each after what it reads, the environment ends in the one solution of all
these equations.
-/

universe u w

namespace SheetScript

variable {V : Type u} {α : Type w} [DecidableEq V]

def Graph.ReadsOnly (g : Graph V) (f : V → (V → α) → α) : Prop :=
  ∀ c e e', (∀ d, g.Arrow c d → e d = e' d) → f c e = f c e'

def execute (f : V → (V → α) → α) (cells : List V) (e : V → α) : V → α :=
  cells.foldl (fun e c => Function.update e c (f c e)) e

def Solves (f : V → (V → α) → α) (cells : List V) (e : V → α) : Prop :=
  ∀ c ∈ cells, e c = f c e

section

variable {f : V → (V → α) → α} {g : Graph V} {l : List V}

theorem execute_snoc (l : List V) (c : V) (e : V → α) :
    execute f (l ++ [c]) e = Function.update (execute f l e) c (f c (execute f l e)) :=
  List.foldl_concat ..

namespace Graph

/-- Assigning a cell its value keeps the equations of the cells before it, which do not read it. -/
theorem Settled.solves_execute (h : g.Settled l) (reads : g.ReadsOnly f) (e : V → α) :
    Solves f l (execute f l e) := by
  induction h with
  | nil => exact fun c mem => absurd mem List.not_mem_nil
  | @snoc l v before fresh next ih =>
    have older {c : V} (mem : c ∈ l) : execute f (l ++ [v]) e c = execute f l e c := by
      rw [execute_snoc, Function.update_of_ne (by rintro rfl; exact fresh mem)]
    have same {c : V} (read : ∀ d, g.Arrow c d → d ∈ l) :
        f c (execute f (l ++ [v]) e) = f c (execute f l e) :=
      reads c _ _ fun d a => older (read d a)
    intro c mem
    rcases List.mem_append.1 mem with old | new
    · rw [older old, ih c old, same fun d a => before.mem_of_arrow old a]
    · rw [List.mem_singleton.1 new, same next, execute_snoc, Function.update_self]

theorem Settled.eq_of_solves (h : g.Settled l) (reads : g.ReadsOnly f) {e e' : V → α}
    (he : Solves f l e) (he' : Solves f l e') : ∀ c ∈ l, e c = e' c := by
  induction h with
  | nil => exact fun c mem => absurd mem List.not_mem_nil
  | @snoc l v before fresh next ih =>
    have older : ∀ c ∈ l, e c = e' c :=
      ih (fun c mem => he c (List.mem_append_left _ mem))
        fun c mem => he' c (List.mem_append_left _ mem)
    intro c mem
    rcases List.mem_append.1 mem with old | new
    · exact older c old
    · rw [he c mem, he' c mem, List.mem_singleton.1 new]
      exact reads v e e' fun d a => older d (next d a)

theorem Settled.execute_eq {l' : List V} (h : g.Settled l) (h' : g.Settled l')
    (reads : g.ReadsOnly f) (sub : ∀ c ∈ l, c ∈ l') (e e' : V → α) :
    ∀ c ∈ l, execute f l' e' c = execute f l e c :=
  h.eq_of_solves reads (fun c mem => h'.solves_execute reads e' c (sub c mem))
    (h.solves_execute reads e)

theorem Reorders.settled {g' : Graph V} (r : g.Reorders g') (h : g'.Settled l) : g.Settled l := by
  rw [settled_iff] at h ⊢
  rw [← r.arrow_eq]
  exact h

theorem Acyclic.exists_order {cells : OrderedSet V} (acyclic : g.Acyclic)
    (targets : ∀ v ∈ g.targets, v ∈ cells) :
    ∃ l, g.order cells = .ok l ∧ g.Settled l ∧ ∀ v, v ∈ l ↔ v ∈ cells := by
  cases h : g.order cells with
  | error v =>
    obtain ⟨c, _, cycle⟩ := exists_order_eq_error_iff.1 ⟨v, h⟩
    exact absurd cycle (acyclic.not_reachesCycle c)
  | ok l =>
    refine ⟨l, rfl, settled_of_order_eq_ok h, fun v => (mem_of_order_eq_ok h).trans ⟨?_, ?_⟩⟩
    · rintro ⟨c, mem, path⟩
      induction path with
      | refl => exact mem
      | tail _ a _ => exact targets _ (mem_targets.2 ⟨_, a⟩)
    · exact fun mem => ⟨v, mem, .refl⟩

end Graph

end

/-- Running the cells in their order solves all equations, and neither the environment at the
start, nor the order of rows, references and cells, nor the way of sorting them changes a value. -/
theorem execution_solves_in_any_order (g : Graph V) (cells : OrderedSet V) (acyclic : g.Acyclic)
    (keys : ∀ v ∈ g.keys, v ∈ cells) (targets : ∀ v ∈ g.targets, v ∈ cells)
    (f : V → (V → α) → α) (reads : g.ReadsOnly f) :
    ∃ l, g.order cells = .ok l ∧
      (∀ e, ∀ c ∈ cells, execute f l e c = f c (execute f l e)) ∧
      ∀ (g' : Graph V) (cells' : OrderedSet V), g.Reorders g' →
        cells'.toList.Perm cells.toList →
        ∃ l', g'.order cells' = .ok l' ∧ ∀ e e', ∀ c ∈ cells,
          execute f l' e' c = execute f l e c ∧
            execute f (g'.peel cells').reverse e' c = execute f l e c := by
  obtain ⟨l, hl, settled, all⟩ := acyclic.exists_order targets
  refine ⟨l, hl, fun e c mem => settled.solves_execute reads e c ((all c).2 mem), ?_⟩
  intro g' cells' same perm
  have cells_iff {v : V} : v ∈ cells' ↔ v ∈ cells := by
    rw [← OrderedSet.mem_toList, perm.mem_iff, OrderedSet.mem_toList]
  have keys' : ∀ v ∈ g'.keys, v ∈ cells' := fun v mem =>
    cells_iff.2 (keys v (same.keys.mem_iff.1 mem))
  have targets' : ∀ v ∈ g'.targets, v ∈ cells' := fun v mem =>
    cells_iff.2 (targets v (same.mem_targets_iff.1 mem))
  have acyclic' := same.acyclic acyclic
  obtain ⟨l', hl', settled', all'⟩ := acyclic'.exists_order targets'
  refine ⟨l', hl', fun e e' c mem => ⟨?_, ?_⟩⟩
  · refine settled.execute_eq (same.settled settled') reads (fun v hv => ?_) e e' c ((all c).2 mem)
    exact (all' v).2 (cells_iff.2 ((all v).1 hv))
  · have peeled := same.settled (Graph.settled_reverse_peel acyclic' keys')
    refine settled.execute_eq peeled reads (fun v hv => ?_) e e' c ((all c).2 mem)
    rw [List.mem_reverse, Graph.mem_peel_iff acyclic' keys']
    exact .inl (cells_iff.2 ((all v).1 hv))

theorem execution_of_shared_reference :
    let g : Graph String := .ofList [("A1", .ofList ["B1", "C1"]), ("B1", .ofList ["D1"]),
      ("C1", .ofList ["D1"])]
    let g' : Graph String := .ofList [("C1", .ofList ["D1"]), ("B1", .ofList ["D1"]),
      ("A1", .ofList ["C1", "B1"])]
    let cells : OrderedSet String := .ofList ["A1", "B1", "C1", "D1"]
    let cells' : OrderedSet String := .ofList ["D1", "C1", "B1", "A1"]
    let f (c : String) (e : String → Nat) : Nat := ((g.next c).map e).sum + 1
    g.Acyclic ∧ g.ReadsOnly f ∧ g.Reorders g' ∧ ∃ l, g.order cells = .ok l ∧
      (∀ e, execute f l e "A1" = f "A1" (execute f l e)) ∧
      ∀ e e', execute f (g'.peel cells').reverse e' "A1" = execute f l e "A1" := by
  intro g g' cells cells' f
  have acyclic : g.Acyclic := Graph.acyclic_iff_order.2 ⟨["D1", "B1", "C1", "A1"], by cbv⟩
  have reads : g.ReadsOnly f := by
    intro c e e' same
    simp only [f, List.map_congr_left same]
  have reorders : g.Reorders g' := by
    have perm : g'.keys.Perm g.keys := by decide
    have rows : ∀ v ∈ g.keys, (g'.next v).Perm (g.next v) := by decide
    refine ⟨perm, fun v => ?_⟩
    by_cases key : v ∈ g.keys
    · exact rows v key
    · rw [Graph.next_of_not_mem key, Graph.next_of_not_mem (mt perm.mem_iff.1 key)]
  obtain ⟨l, hl, solves, all⟩ := execution_solves_in_any_order g cells acyclic (by decide)
    (by decide) f reads
  obtain ⟨_, _, same⟩ := all g' cells' reorders (by decide)
  exact ⟨acyclic, reads, reorders, l, hl, fun e => solves e "A1" (by decide),
    fun e e' => (same e e' "A1" (by decide)).2⟩

end SheetScript
