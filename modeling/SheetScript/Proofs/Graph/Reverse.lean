import Mathlib.Data.Prod.Basic
import SheetScript.Graph.Reverse
import SheetScript.Proofs.Graph.Order

universe u

namespace SheetScript.Graph

open Relation

variable {V : Type u} [DecidableEq V]

theorem next_addEdge_of_not_mem {g : Graph V} {u v : V} (fresh : v ∉ g.next u) :
    (g.addEdge u v).next u = g.next u ++ [v] := by
  simp only [next, addEdge, OrderedMap.find?_upsert, if_true] at fresh ⊢
  cases found : g.find? u with
  | none => simp [OrderedSet.toList_insert]
  | some s =>
    simp only [found] at fresh
    simp [OrderedSet.toList_insert, mt OrderedSet.mem_toList.2 fresh]

theorem next_addEdge_of_ne {g : Graph V} {u v x : V} (ne : x ≠ u) :
    (g.addEdge u v).next x = g.next x := by
  simp only [next, addEdge, OrderedMap.find?_upsert, if_neg ne]

theorem next_foldl_addEdge (v : V) (edges : List (V × V)) (r : Graph V)
    (distinct : (r.next v ++ (edges.filter (·.2 = v)).map (·.1)).Nodup) :
    (edges.foldl (fun r e => r.addEdge e.2 e.1) r).next v =
      r.next v ++ (edges.filter (·.2 = v)).map (·.1) := by
  induction edges generalizing r with
  | nil => simp
  | cons e edges ih =>
    by_cases h : e.2 = v
    · subst h
      have fresh : e.1 ∉ r.next e.2 := fun mem =>
        (List.nodup_append.1 distinct).2.2 e.1 mem e.1 (by simp) rfl
      have row := next_addEdge_of_not_mem fresh
      rw [List.foldl_cons, ih _ (by simpa [row] using distinct), row]
      simp
    · have row : (r.addEdge e.2 e.1).next v = r.next v := next_addEdge_of_ne (Ne.symm h)
      rw [List.foldl_cons, ih _ (by simpa [row, h] using distinct), row]
      simp [h]

theorem filter_row (k v : V) (s : OrderedSet V) :
    ((s.toList.map fun w => (k, w)).filter (·.2 = v)).map (·.1) = if v ∈ s then [k] else [] := by
  have single : s.toList.filter (· = v) = if v ∈ s then [v] else [] := by
    rw [List.filter_eq, s.nodup.count]
    by_cases mem : v ∈ s <;> simp [mem]
  rw [List.filter_map, List.map_map]
  change (s.toList.filter (· = v)).map (fun _ => k) = _
  rw [single]
  split <;> rfl

theorem filter_edges (g : Graph V) (v : V) :
    (g.edges.filter (·.2 = v)).map (·.1) = g.keys.filter fun u => v ∈ g.next u := by
  have rows (l : List (V × OrderedSet V)) :
      ((l.flatMap fun e => e.2.toList.map fun w => (e.1, w)).filter (·.2 = v)).map (·.1) =
        (l.filter fun e => v ∈ e.2).map (·.1) := by
    induction l with
    | nil => rfl
    | cons e l ih =>
      rw [List.flatMap_cons, List.filter_append, List.map_append, ih, filter_row]
      by_cases mem : v ∈ e.2 <;> simp [mem]
  rw [edges, rows, OrderedMap.keys, List.filter_map]
  congr 1
  refine List.filter_congr fun e mem => ?_
  simp [next_of_mem_entries mem]

theorem next_reverse (g : Graph V) (v : V) :
    g.reverse.next v = g.keys.filter fun u => v ∈ g.next u := by
  have distinct : (g.keys.filter fun u => v ∈ g.next u).Nodup := g.nodup_keys.filter _
  rw [reverse, next_foldl_addEdge v g.edges .empty (by simpa [filter_edges] using distinct),
    filter_edges]
  rfl

theorem keys_foldl_addEdge (edges : List (V × V)) :
    (edges.foldl (fun (r : Graph V) e => r.addEdge e.2 e.1) .empty).keys =
      (OrderedSet.ofList (edges.map (·.2))).toList := by
  induction edges using List.reverseRecOn with
  | nil => rfl
  | append_singleton edges e ih =>
    rw [List.foldl_concat, addEdge, OrderedMap.keys_upsert, List.map_append, List.map_singleton,
      OrderedSet.ofList_concat, OrderedSet.toList_insert]
    simp only [← OrderedMap.mem_keys, ih, OrderedSet.mem_toList]

theorem keys_reverse (g : Graph V) : g.reverse.keys = (OrderedSet.ofList g.targets).toList := by
  rw [reverse, keys_foldl_addEdge, map_snd_edges]

theorem mem_keys_reverse {g : Graph V} {v : V} : v ∈ g.reverse.keys ↔ v ∈ g.targets := by
  rw [keys_reverse, OrderedSet.mem_toList, OrderedSet.mem_ofList]

theorem arrow_reverse {g : Graph V} {u v : V} : g.reverse.Arrow v u ↔ g.Arrow u v := by
  rw [Arrow, next_reverse, List.mem_filter, decide_eq_true_eq]
  exact and_iff_right_of_imp mem_keys_of_mem_next

theorem edges_reverse (g : Graph V) : g.reverse.edges.Perm (g.edges.map Prod.swap) := by
  have distinct : (g.edges.map Prod.swap).Nodup := g.nodup_edges.map Prod.swap_injective
  refine (List.perm_ext_iff_of_nodup g.reverse.nodup_edges distinct).2 fun (v, u) => ?_
  have turned : (v, u) ∈ g.edges.map Prod.swap ↔ (u, v) ∈ g.edges :=
    List.mem_map_of_injective Prod.swap_injective (a := (u, v))
  rw [turned, mem_edges, mem_edges, arrow_reverse]

theorem Settled.reverse {g : Graph V} {l : List V} (h : g.reverse.Settled l)
    (closed : ∀ u ∈ l, ∀ v, g.Arrow u v → v ∈ l) : g.Settled l.reverse := by
  rw [settled_iff]
  refine ⟨List.nodup_reverse.2 h.nodup, fun u hu v a => ?_⟩
  have listed := closed u (List.mem_reverse.1 hu) v a
  have order : [u, v].Sublist l := h.sublist listed (.single (arrow_reverse.2 a))
  simpa using order.reverse

def ReachedByCycle (g : Graph V) (v : V) : Prop := ∃ c, TransGen g.Arrow c c ∧ g.Reaches c v

theorem reachesCycle_reverse {g : Graph V} {v : V} :
    g.reverse.ReachesCycle v ↔ g.ReachedByCycle v := by
  have turned : g.reverse.Arrow = Function.swap g.Arrow := by
    funext u w
    exact propext arrow_reverse
  simp only [ReachesCycle, ReachedByCycle, Reaches, turned, transGen_swap, reflTransGen_swap,
    and_comm]

theorem ReachedByCycle.tail {g : Graph V} {u v : V} (h : g.ReachedByCycle u) (a : g.Arrow u v) :
    g.ReachedByCycle v := by
  obtain ⟨c, cycle, path⟩ := h
  exact ⟨c, cycle, ReflTransGen.tail path a⟩

theorem Acyclic.not_reachedByCycle {g : Graph V} (h : g.Acyclic) (v : V) : ¬ g.ReachedByCycle v :=
  fun ⟨c, cycle, _⟩ => h c cycle

end SheetScript.Graph

namespace SheetScript

variable {V : Type u} [DecidableEq V]

/-- Turning the arrows of a graph gives the ends of arrows rows that are not empty and list where
the arrows come from, in the order of the graph; no arrow is lost or doubled. Turning them again
gives the arrows of the graph, and rows for those of its vertices that have arrows. -/
theorem reverse_transposes (g : Graph V) :
    (∀ u v, g.reverse.Arrow v u ↔ g.Arrow u v) ∧
      (∀ v, v ∈ g.reverse.keys ↔ ∃ u, g.Arrow u v) ∧
      (∀ row ∈ g.reverse.entries, row.2.toList ≠ [] ∧
        row.2.toList = g.keys.filter fun u => g.Arrow u row.1) ∧
      g.reverse.edges.Perm (g.edges.map Prod.swap) ∧
      g.reverse.reverse.edges.Perm g.edges ∧
      ∀ u, u ∈ g.reverse.reverse.keys ↔ ∃ row ∈ g.entries, row.1 = u ∧ row.2.toList ≠ [] := by
  have keys (g : Graph V) (v : V) : v ∈ g.reverse.keys ↔ ∃ u, g.Arrow u v :=
    Graph.mem_keys_reverse.trans Graph.mem_targets
  refine ⟨fun u v => Graph.arrow_reverse, keys g, ?_, g.edges_reverse, ?_, fun u => ?_⟩
  · intro row mem
    rw [← Graph.next_of_mem_entries mem]
    refine ⟨?_, g.next_reverse row.1⟩
    obtain ⟨u, a⟩ := (keys g row.1).1 (List.mem_map_of_mem mem)
    exact List.ne_nil_of_mem (Graph.arrow_reverse.2 a)
  · have back : (g.edges.map Prod.swap).map Prod.swap = g.edges := by simp
    exact g.reverse.edges_reverse.trans (back ▸ g.edges_reverse.map Prod.swap)
  · rw [keys]
    constructor
    · rintro ⟨v, a⟩
      obtain ⟨s, found, mem⟩ := Graph.mem_next.1 (Graph.arrow_reverse.1 a)
      exact ⟨(u, s), OrderedMap.find?_eq_some.1 found, rfl, List.ne_nil_of_mem mem⟩
    · rintro ⟨row, mem, rfl, some⟩
      obtain ⟨v, a⟩ := List.exists_mem_of_ne_nil _ some
      rw [← Graph.next_of_mem_entries mem] at a
      exact ⟨v, Graph.arrow_reverse.2 a⟩

theorem reverse_of_shared_end :
    let g : Graph String := .ofList [("D1", .ofList ["C1"]), ("A1", .ofList ["B1", "C1"]),
      ("B1", .empty), ("C1", .ofList ["C1"])]
    let users : OrderedSet String := .ofList ["D1", "A1", "C1"]
    ("C1", users) ∈ g.reverse.entries ∧ users.toList = g.keys.filter (g.Arrow · "C1") ∧
      g.reverse.reverse.next "A1" = ["C1", "B1"] ∧ g.reverse.reverse.edges.Perm g.edges ∧
      "B1" ∈ g.keys ∧ "B1" ∈ g.reverse.keys ∧ "B1" ∉ g.reverse.reverse.keys := by
  intro g users
  have row : ("C1", users) ∈ g.reverse.entries := by decide
  obtain ⟨_, keys, rows, _, back, _⟩ := reverse_transposes g
  exact ⟨row, (rows _ row).2, by decide, back, by decide, (keys "B1").2 ⟨"A1", by decide⟩,
    by decide⟩

end SheetScript
