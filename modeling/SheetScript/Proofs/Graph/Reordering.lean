import SheetScript.Proofs.Graph.Arrows

universe u

namespace SheetScript.Graph

open Relation

variable {V : Type u} [DecidableEq V]

structure Reorders (g h : Graph V) : Prop where
  keys : h.keys.Perm g.keys
  next : ∀ v, (h.next v).Perm (g.next v)

namespace Reorders

variable {g h : Graph V}

theorem arrow_eq (r : g.Reorders h) : h.Arrow = g.Arrow := by
  funext u v
  exact propext (r.next u).mem_iff

theorem reaches_eq (r : g.Reorders h) : h.Reaches = g.Reaches := by
  rw [Reaches, Reaches, r.arrow_eq]

theorem reachesCycle_eq (r : g.Reorders h) : h.ReachesCycle = g.ReachesCycle := by
  funext v
  simp only [ReachesCycle, r.reaches_eq, r.arrow_eq]

theorem acyclic (r : g.Reorders h) (acyclic : g.Acyclic) : h.Acyclic := by
  intro v
  rw [r.arrow_eq]
  exact acyclic v

theorem mem_targets_iff (r : g.Reorders h) {v : V} : v ∈ h.targets ↔ v ∈ g.targets := by
  simp only [mem_targets, (r.next _).mem_iff]

end Reorders

theorem exists_reorders (g : Graph V) {keys : List V} {row : V → List V}
    (hkeys : keys.Perm g.keys) (hrow : ∀ v, (row v).Perm (g.next v)) :
    ∃ h, g.Reorders h ∧ h.keys = keys ∧ h.next = row := by
  have distinct (v : V) : (row v).Nodup := (hrow v).nodup_iff.2 (g.nodup_next v)
  let h : Graph V := ⟨keys.map fun v => (v, ⟨row v, distinct v⟩), by
    simpa [Function.comp_def] using hkeys.nodup_iff.2 g.nodup_keys⟩
  have keys_eq : h.keys = keys := by simp [h, OrderedMap.keys, Function.comp_def]
  have next_eq : h.next = row := by
    funext v
    by_cases mem : v ∈ keys
    · have found : h.find? v = some ⟨row v, distinct v⟩ :=
        OrderedMap.find?_eq_some.2 (List.mem_map.2 ⟨v, mem, rfl⟩)
      rw [next, found]
    · have none : (row v).Perm [] := by
        rw [← next_of_not_mem (fun key => mem (hkeys.mem_iff.2 key) : v ∉ g.keys)]
        exact hrow v
      rw [next_of_not_mem (keys_eq ▸ mem), none.eq_nil]
  exact ⟨h, ⟨keys_eq ▸ hkeys, next_eq ▸ hrow⟩, keys_eq, next_eq⟩

end SheetScript.Graph
