import Mathlib.Logic.Relation
import SheetScript.Graph.Basic
import SheetScript.Proofs.Ordered

universe u

namespace SheetScript.Graph

open Relation

variable {V : Type u} [DecidableEq V]

def Arrow (g : Graph V) (u v : V) : Prop := v ∈ g.next u

instance (g : Graph V) (u v : V) : Decidable (g.Arrow u v) :=
  inferInstanceAs (Decidable (v ∈ g.next u))

def Reaches (g : Graph V) : V → V → Prop := ReflTransGen g.Arrow

def Acyclic (g : Graph V) : Prop := ∀ v, ¬ TransGen g.Arrow v v

def ReachesCycle (g : Graph V) (v : V) : Prop := ∃ c, g.Reaches v c ∧ TransGen g.Arrow c c

theorem Acyclic.not_reachesCycle {g : Graph V} (h : g.Acyclic) (v : V) : ¬ g.ReachesCycle v :=
  fun ⟨c, _, cycle⟩ => h c cycle

theorem ReachesCycle.head {g : Graph V} {u v : V} (a : g.Arrow u v) (h : g.ReachesCycle v) :
    g.ReachesCycle u := by
  obtain ⟨c, path, cycle⟩ := h
  exact ⟨c, .head a path, cycle⟩

theorem ReachesCycle.exists_arrow {g : Graph V} {u : V} (h : g.ReachesCycle u) :
    ∃ v, g.Arrow u v ∧ g.ReachesCycle v := by
  obtain ⟨c, path, cycle⟩ := h
  rcases ReflTransGen.cases_head path with rfl | ⟨v, a, rest⟩
  · obtain ⟨v, a, back⟩ := TransGen.head'_iff.1 cycle
    exact ⟨v, a, u, back, cycle⟩
  · exact ⟨v, a, c, rest, cycle⟩

theorem nodup_next (g : Graph V) (v : V) : (g.next v).Nodup := by
  unfold next
  split
  · rename_i s _
    exact s.nodup
  · exact .nil

theorem mem_next {g : Graph V} {u v : V} : v ∈ g.next u ↔ ∃ s, g.find? u = some s ∧ v ∈ s := by
  unfold next
  split
  · rename_i s found
    simp [found]
  · rename_i absent
    simp [absent]

theorem next_of_mem_entries {g : Graph V} {e : V × OrderedSet V} (h : e ∈ g.entries) :
    g.next e.1 = e.2.toList := by
  have found : g.find? e.1 = some e.2 := OrderedMap.find?_eq_some.2 h
  simp [next, found]

theorem mem_keys_of_mem_next {g : Graph V} {u v : V} (h : v ∈ g.next u) : u ∈ g.keys := by
  by_contra absent
  rw [next_of_not_mem absent] at h
  exact List.not_mem_nil h

theorem mem_targets {g : Graph V} {v : V} : v ∈ g.targets ↔ ∃ u, v ∈ g.next u := by
  simp only [targets, List.mem_flatMap, mem_next, OrderedMap.find?_eq_some]
  constructor
  · rintro ⟨⟨u, s⟩, entry, mem⟩
    exact ⟨u, s, entry, mem⟩
  · rintro ⟨u, s, entry, mem⟩
    exact ⟨⟨u, s⟩, entry, mem⟩

@[simp] theorem next_empty (v : V) : next (.empty : Graph V) v = [] := rfl

theorem next_addVertex (g : Graph V) (u v : V) : (g.addVertex u).next v = g.next v := by
  simp only [next, addVertex, OrderedMap.find?_upsert]
  by_cases h : v = u
  · subst h
    rw [if_pos rfl]
    cases g.find? v <;> rfl
  · rw [if_neg h]

theorem next_foldl_addVertex (vs : List V) (g : Graph V) (v : V) :
    (vs.foldl addVertex g).next v = g.next v := by
  induction vs generalizing g with
  | nil => rfl
  | cons u vs ih => rw [List.foldl_cons, ih, next_addVertex]

theorem mem_next_addEdge {g : Graph V} {u v x y : V} :
    y ∈ (g.addEdge u v).next x ↔ y ∈ g.next x ∨ x = u ∧ y = v := by
  simp only [next, addEdge, OrderedMap.find?_upsert]
  by_cases h : x = u
  · subst h
    rw [if_pos rfl]
    cases found : g.find? x with
    | none => simp
    | some s => simp
  · simp [h]

theorem next_removeEdges (g : Graph V) (cut : List (V × V)) (u : V) :
    (g.removeEdges cut).next u = (g.next u).filter fun v => (u, v) ∉ cut := by
  simp only [next, removeEdges, OrderedMap.find?_mapValues]
  cases g.find? u with
  | none => rfl
  | some s => rfl

theorem mem_edges {g : Graph V} {u v : V} : (u, v) ∈ g.edges ↔ g.Arrow u v := by
  simp only [edges, List.mem_flatMap, List.mem_map, Prod.mk.injEq, Arrow, mem_next,
    OrderedMap.find?_eq_some]
  constructor
  · rintro ⟨⟨_, s⟩, entry, _, mem, rfl, rfl⟩
    exact ⟨s, entry, mem⟩
  · rintro ⟨s, entry, mem⟩
    exact ⟨(u, s), entry, v, mem, rfl, rfl⟩

omit [DecidableEq V] in
theorem map_snd_edges (g : Graph V) : g.edges.map (·.2) = g.targets := by
  simp [targets, edges, List.map_flatMap, Function.comp_def]

omit [DecidableEq V] in
theorem nodup_edges (g : Graph V) : g.edges.Nodup := by
  refine List.nodup_flatMap.2 ⟨fun e _ => e.2.nodup.map fun _ _ eq => (Prod.mk.inj eq).2, ?_⟩
  refine (List.pairwise_map.1 g.nodup_keys).imp fun {e e'} ne => ?_
  rintro ⟨u, v⟩ mem mem'
  obtain ⟨_, _, eq⟩ := List.mem_map.1 mem
  obtain ⟨_, _, eq'⟩ := List.mem_map.1 mem'
  exact ne ((Prod.mk.inj eq).1.trans (Prod.mk.inj eq').1.symm)

theorem edges_addVertex (g : Graph V) (v : V) : (g.addVertex v).edges = g.edges := by
  unfold addVertex OrderedMap.upsert
  split
  · simp [edges, OrderedMap.mapValues]
  · simp [edges, OrderedMap.snoc]

theorem edges_foldl_addVertex (vs : List V) (g : Graph V) :
    (vs.foldl addVertex g).edges = g.edges := by
  induction vs generalizing g with
  | nil => rfl
  | cons v vs ih => rw [List.foldl_cons, ih, edges_addVertex]

theorem edges_removeEdges (g : Graph V) (cut : List (V × V)) :
    (g.removeEdges cut).edges = g.edges.filter (· ∉ cut) := by
  simp only [edges, removeEdges, OrderedMap.mapValues, List.flatMap_map, List.filter_flatMap,
    OrderedSet.toList_filter, List.filter_map]
  rfl

end SheetScript.Graph
