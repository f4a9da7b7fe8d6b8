import Mathlib.Data.List.Permutation
import SheetScript.Proofs.Graph.Refusal

universe u

namespace SheetScript

variable {V : Type u} [DecidableEq V]

namespace Search

structure Noted (g : Graph V) (s : Search V) : Prop where
  roots : ∀ v ∈ s.roots, v ∈ g.keys
  cut : s.cut.Nodup
  arrows : ∀ e ∈ s.cut, g.Arrow e.1 e.2
  added : s.added.Nodup
  absent : ∀ v ∈ s.added, v ∈ s.entered ∧ v ∈ g.targets ∧ v ∉ g.keys

theorem noted_start (g : Graph V) : Noted g (start g) where
  roots _ mem := mem
  cut := .nil
  arrows := by simp [start]
  added := .nil
  absent := by simp [start]

theorem Followed.not_mem_cut {g : Graph V} {cut : List (V × V)} {closed done ws : List V} {v w : V}
    (h : Followed cut closed v done) (row : g.next v = done ++ w :: ws) : (v, w) ∉ cut := by
  intro mem
  have distinct := g.nodup_next v
  rw [row, List.nodup_append] at distinct
  exact distinct.2.2 w (h.all w mem) w List.mem_cons_self rfl

theorem Frames.not_mem_cut {g : Graph V} {cut : List (V × V)} {closed : List V} {v : V}
    {stack : List (V × List V)} (h : Frames g cut closed (some v) stack) :
    ∀ e ∈ entrance v stack, e ∉ cut := by
  intro e mem
  cases stack with
  | nil => exact absurd mem List.not_mem_nil
  | cons f stack =>
    obtain ⟨⟨done, row, followed⟩, _⟩ := h
    rw [List.mem_singleton.1 mem]
    exact followed.not_mem_cut (by simpa using row)

omit [DecidableEq V] in
theorem nodup_entrance (v : V) (stack : List (V × List V)) : (entrance v stack).Nodup := by
  cases stack with
  | nil => exact .nil
  | cons f stack => exact List.nodup_singleton _

section Moves

variable {g : Graph V} {roots entered closed added : List V} {cut : List (V × V)} {v w : V}
  {ws : List V} {stack : List (V × List V)}

theorem Noted.leave (h : Noted g ⟨roots, (v, w :: ws) :: stack, entered, closed, cut, added⟩)
    (sound : Sound g ⟨roots, (v, w :: ws) :: stack, entered, closed, cut, added⟩) :
    Noted g ⟨roots, stack, entered, closed, (v, w) :: entrance v stack ++ cut, added⟩ := by
  obtain ⟨⟨done, row, followed⟩, below⟩ := sound.frames
  obtain ⟨off, _⟩ := List.nodup_cons.1 sound.distinct
  replace row : g.next v = done ++ w :: ws := by simpa using row
  refine { h with cut := ?_, arrows := ?_ }
  · have apart : (entrance v stack).Disjoint cut := fun e new old => below.not_mem_cut e new old
    refine List.nodup_cons.2 ⟨fun mem => ?_, (nodup_entrance v stack).append h.cut apart⟩
    rcases List.mem_append.1 mem with new | old
    · exact off (mem_entrance new).1
    · exact followed.not_mem_cut row old
  · intro e mem
    simp only [List.cons_append, List.mem_cons, List.mem_append] at mem
    rcases mem with rfl | new | old
    · simp [Graph.Arrow, row]
    · exact below.arrow new
    · exact h.arrows e old

theorem Noted.descend (h : Noted g ⟨roots, (v, w :: ws) :: stack, entered, closed, cut, added⟩)
    (sound : Sound g ⟨roots, (v, w :: ws) :: stack, entered, closed, cut, added⟩)
    (fresh : w ∉ entered) :
    Noted g ⟨roots, (w, g.next w) :: (v, ws) :: stack, w :: entered, closed, cut,
      if w ∈ g.keys then added else added ++ [w]⟩ := by
  obtain ⟨⟨done, row, _⟩, _⟩ := sound.frames
  have target : w ∈ g.targets := Graph.mem_targets.2 ⟨v, by simp [row]⟩
  have known : ∀ x ∈ added, x ∈ w :: entered ∧ x ∈ g.targets ∧ x ∉ g.keys := fun x mem =>
    ⟨.tail _ (h.absent x mem).1, (h.absent x mem).2⟩
  by_cases key : w ∈ g.keys
  · simp only [if_pos key]
    exact { h with absent := known }
  · simp only [if_neg key]
    refine { h with added := ?_, absent := ?_ }
    · exact OrderedSet.nodup_snoc h.added fun mem => fresh (h.absent w mem).1
    · intro x mem
      rcases List.mem_append.1 mem with old | new
      · exact known x old
      · rw [List.mem_singleton.1 new]
        exact ⟨List.mem_cons_self, target, key⟩

theorem Noted.move {s s' : Search V} (h : Noted g s) (sound : Sound g s) (move : Move g s s') :
    Noted g s' := by
  cases move with
  | knownRoot _ => exact { h with roots := fun x mem => h.roots x (.tail _ mem) }
  | newRoot _ =>
    simp only [if_pos (h.roots _ List.mem_cons_self)]
    refine { h with roots := fun x mem => h.roots x (.tail _ mem), absent := fun x mem => ?_ }
    exact ⟨.tail _ (h.absent x mem).1, (h.absent x mem).2⟩
  | close => exact { h with }
  | pass _ => exact { h with }
  | leave _ _ => exact h.leave sound
  | descend fresh => exact h.descend sound fresh

end Moves

theorem noted_of_run_eq_ok {g : Graph V} {missing : Missing} {s : Search V}
    (h : run g missing (start g) = .ok s) : Noted g s := by
  have both := run_induction (P := fun s => Sound g s ∧ Noted g s)
    (fun _ _ inv move => ⟨inv.1.move move, inv.2.move inv.1 move⟩)
    ⟨sound_start g, noted_start g⟩ h
  exact both.1.2

end Search

omit [DecidableEq V] in
theorem OrderedSet.filter_eq_self {s : OrderedSet V} {p : V → Bool} (h : ∀ v ∈ s, p v = true) :
    s.filter p = s := by
  obtain ⟨l, nodup⟩ := s
  have same : l.filter p = l := List.filter_eq_self.2 h
  simp only [filter, same]

namespace Graph

variable {g h : Graph V} {missing : Missing}

theorem entries_foldl_addVertex {vs : List V} (distinct : vs.Nodup)
    (absent : ∀ v ∈ vs, v ∉ g.keys) :
    (vs.foldl addVertex g).entries = g.entries ++ vs.map (·, .empty) := by
  induction vs generalizing g with
  | nil => simp
  | cons v vs ih =>
    obtain ⟨off, later⟩ := List.nodup_cons.1 distinct
    obtain ⟨here, rest⟩ := List.forall_mem_cons.1 absent
    have first : (g.addVertex v).entries = g.entries ++ [(v, .empty)] :=
      OrderedMap.entries_upsert_of_not_mem here _
    rw [List.foldl_cons, ih later, first]
    · simp
    · intro x mem key
      rw [OrderedMap.keys, first, List.map_append, List.mem_append] at key
      rcases key with old | new
      · exact rest x mem old
      · obtain rfl : x = v := List.mem_singleton.1 new
        exact off mem

theorem entries_breakCycles {s : Search V} (hs : Search.run g missing (.start g) = .ok s)
    (hh : g.breakCycles missing = .ok h) :
    h.entries = (g.removeEdges s.cut).entries ++ s.added.map (·, .empty) := by
  have noted := Search.noted_of_run_eq_ok hs
  rw [breakCycles_of_run_eq_ok hs, Except.ok.injEq] at hh
  rw [← hh, entries_foldl_addVertex noted.added fun v mem => ?_]
  rw [removeEdges, OrderedMap.keys_mapValues]
  exact (noted.absent v mem).2.2

theorem forall₂_entries_removeEdges {P : V → Prop} {cut : List (V × V)}
    (spared : ∀ e ∈ cut, ¬ P e.1) :
    g.entries.Forall₂ (fun old row => row.1 = old.1 ∧ row.2.toList.Sublist old.2.toList ∧
      (P old.1 → row = old)) (g.removeEdges cut).entries := by
  rw [removeEdges, OrderedMap.mapValues, List.forall₂_map_right_iff, List.forall₂_same]
  rintro ⟨v, row⟩ _
  refine ⟨rfl, List.filter_sublist, fun safe => ?_⟩
  have whole : row.filter (fun w => (v, w) ∉ cut) = row :=
    OrderedSet.filter_eq_self fun w _ => decide_eq_true fun lost => spared _ lost safe
  rw [whole]

end Graph

/-- Breaking cycles adds no arrow. The rows keep their places and the order of their arrows, and a
row from which no cycle is reached keeps all of them. New rows come last, are empty, and belong to
ends of arrows that had no row. -/
theorem broken_graph_keeps_rows_in_place (g h : Graph V) (missing : Missing)
    (hh : g.breakCycles missing = .ok h) :
    (∀ u v, h.Arrow u v → g.Arrow u v) ∧
    ∃ (kept : List (V × OrderedSet V)) (new : List V),
      h.entries = kept ++ new.map (·, .empty) ∧
      g.entries.Forall₂ (fun old row => row.1 = old.1 ∧ row.2.toList.Sublist old.2.toList ∧
        (¬ g.ReachesCycle old.1 → row = old)) kept ∧
      (∀ v ∈ new, missing = .added ∧ (∃ u, g.Arrow u v) ∧ v ∉ g.keys) ∧
      (g.Acyclic → kept = g.entries) := by
  obtain ⟨s, hs⟩ := Graph.exists_run_of_breakCycles_eq_ok hh
  obtain ⟨sound, _, _⟩ := Search.sound_of_run_eq_ok hs
  have noted := Search.noted_of_run_eq_ok hs
  have rows := Graph.forall₂_entries_removeEdges (g := g) (P := (¬ g.ReachesCycle ·))
    fun e lost safe => safe (sound.cutFrom e lost).2
  refine ⟨fun u v => Graph.arrow_of_arrow_breakCycles hh, _, s.added,
    Graph.entries_breakCycles hs hh, rows, fun v mem => ?_, fun acyclic => ?_⟩
  · obtain ⟨_, target, absent⟩ := noted.absent v mem
    refine ⟨?_, Graph.mem_targets.1 target, absent⟩
    cases missing with
    | added => rfl
    | refused =>
      rw [Search.added_of_run_refused hs] at mem
      exact absurd mem List.not_mem_nil
  · have same := rows.imp fun _ _ row => (row.2.2 (acyclic.not_reachesCycle _)).symm
    exact (List.forall₂_eq_eq_eq ▸ same :).symm

theorem rows_kept_beside_circular_references :
    let g : Graph String := .ofList [("A1", .ofList ["B1", "C1"]), ("B1", .ofList ["A1"]),
      ("C1", .ofList ["D1", "E1"])]
    let h : Graph String := .ofList [("A1", .ofList ["C1"]), ("B1", .empty),
      ("C1", .ofList ["D1", "E1"]), ("D1", .empty), ("E1", .empty)]
    g.breakCycles .added = .ok h ∧ (∀ u v, h.Arrow u v → g.Arrow u v) ∧
      ∃ (kept : List (String × OrderedSet String)) (new : List String),
        h.entries = kept ++ new.map (·, .empty) ∧
        g.entries.Forall₂ (fun old row => row.1 = old.1 ∧ row.2.toList.Sublist old.2.toList ∧
          (¬ g.ReachesCycle old.1 → row = old)) kept ∧
        (∀ v ∈ new, (∃ u, g.Arrow u v) ∧ v ∉ g.keys) := by
  intro g h
  have hh : g.breakCycles .added = .ok h := by cbv
  obtain ⟨fewer, kept, new, entries, rows, added, _⟩ := broken_graph_keeps_rows_in_place g h _ hh
  exact ⟨hh, fewer, kept, new, entries, rows, fun v mem => (added v mem).2⟩

end SheetScript
