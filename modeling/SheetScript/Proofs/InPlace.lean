import SheetScript.Proofs.Graph.Frame
import SheetScript.Session

/-!
Cycles broken in a graph that is changed meanwhile. The search sees the same arrows as in a graph
that stays as it was, and every arrow that it cuts is still there when it is taken out. So the graph
left in the end is the one that breaking cycles makes, and where a vertex is refused nothing has
been changed.
-/

universe u

namespace SheetScript

variable {V : Type u} [DecidableEq V]

theorem OrderedMap.eq_of_entries_eq {κ ν : Type u} {m m' : OrderedMap κ ν}
    (h : m.entries = m'.entries) : m = m' := by
  cases m
  cases m'
  cases h
  rfl

namespace Graph

theorem mem_keys_foldl_addVertex {vs : List V} {g : Graph V} {v : V} :
    v ∈ (vs.foldl addVertex g).keys ↔ v ∈ g.keys ∨ v ∈ vs := by
  induction vs generalizing g with
  | nil => simp
  | cons w vs ih =>
    rw [List.foldl_cons, ih, addVertex, OrderedMap.mem_keys, OrderedMap.mem_upsert,
      ← OrderedMap.mem_keys, List.mem_cons, or_assoc]

theorem removeEdges_nil (g : Graph V) : g.removeEdges [] = g := by
  refine OrderedMap.eq_of_entries_eq ?_
  have rows : g.entries.map (fun e => (e.1, e.2.filter fun v => (e.1, v) ∉ [])) = g.entries := by
    simp [OrderedSet.filter_eq_self]
  exact rows

theorem removeEdges_removeEdges (g : Graph V) (cut cut' : List (V × V)) :
    (g.removeEdges cut).removeEdges cut' = g.removeEdges (cut ++ cut') := by
  refine OrderedMap.eq_of_entries_eq ?_
  simp only [removeEdges, OrderedMap.mapValues, List.map_map]
  refine List.map_congr_left fun e _ => ?_
  simp only [Function.comp_apply, OrderedSet.filter, List.filter_filter]
  congr 2
  refine List.filter_congr fun v _ => ?_
  simp [Bool.and_comm]

theorem takeOut_of_arrow {g : Graph V} {e : V × V} (missing : Missing) (h : g.Arrow e.1 e.2) :
    g.takeOut missing e = (.ok (), g.removeEdges [e]) := by
  obtain ⟨row, found, mem⟩ := mem_next.1 h
  have looked : g.lookUp missing e.1 = (.ok row.toList, g) := by simp [lookUp, found]
  rw [takeOut, looked]
  exact if_pos mem

theorem takeOutAll_eq {g : Graph V} {es : List (V × V)} (missing : Missing) (distinct : es.Nodup)
    (there : ∀ e ∈ es, g.Arrow e.1 e.2) : g.takeOutAll missing es = (.ok (), g.removeEdges es) := by
  induction es generalizing g with
  | nil => rw [removeEdges_nil, takeOutAll]
  | cons e es ih =>
    obtain ⟨off, later⟩ := List.nodup_cons.1 distinct
    obtain ⟨here, rest⟩ := List.forall_mem_cons.1 there
    have still : ∀ f ∈ es, (g.removeEdges [e]).Arrow f.1 f.2 := by
      intro f mem
      have other : f ≠ e := fun same => off (same ▸ mem)
      rw [Arrow, next_removeEdges, List.mem_filter]
      exact ⟨rest f mem, by simpa using other⟩
    rw [takeOutAll, takeOut_of_arrow missing here]
    dsimp only
    rw [ih later still, removeEdges_removeEdges, List.singleton_append]

end Graph

namespace Search

def forget (n : Nat) (s : Search V) : Search V := { s with added := s.added.drop n }

section

variable {g : Graph V} {missing : Missing} {s t : Search V} {v : V}

theorem enter_foldl_addVertex (missing : Missing) (fresh : v ∉ s.added) :
    enter (s.added.foldl Graph.addVertex g) missing s.bare v =
      (enter g missing s v).map (forget s.added.length) := by
  have row : (s.added.foldl Graph.addVertex g).next v = g.next v :=
    Graph.next_foldl_addVertex _ _ _
  have key : v ∈ (s.added.foldl Graph.addVertex g).keys ↔ v ∈ g.keys := by
    rw [Graph.mem_keys_foldl_addVertex, or_iff_left fresh]
  unfold enter
  rw [row]
  by_cases known : v ∈ g.keys
  · rw [if_pos (key.2 known), if_pos known]
    simp [Except.map, bare, forget]
  · rw [if_neg (mt key.1 known), if_neg known]
    cases missing <;> simp [Except.map, bare, forget]

theorem step_foldl_addVertex (missing : Missing) (known : ∀ v ∈ s.added, v ∈ s.entered) :
    step (s.added.foldl Graph.addVertex g) missing s.bare =
      (step g missing s).map (forget s.added.length) := by
  have fresh {v : V} (new : v ∉ s.entered) : v ∉ s.added := fun mem => new (known v mem)
  obtain ⟨roots, stack, entered, closed, cut, added⟩ := s
  -- Only a step that enters a vertex looks at the graph.
  rcases stack with _ | ⟨⟨v, _ | ⟨w, ws⟩⟩, stack⟩
  · rcases roots with _ | ⟨v, roots⟩
    · simp [step, bare, forget, Except.map]
    · by_cases old : v ∈ entered
      · simp [step, bare, forget, Except.map, old]
      · have entering := enter_foldl_addVertex (g := g)
          (s := ⟨roots, [], entered, closed, cut, added⟩) missing (fresh old)
        simpa [step, bare, old] using entering
  · simp [step, bare, forget, Except.map]
  · by_cases done : w ∈ closed
    · simp [step, bare, forget, Except.map, done]
    · by_cases old : w ∈ entered
      · simp [step, bare, forget, Except.map, done, old]
      · have entering := enter_foldl_addVertex (g := g)
          (s := ⟨roots, (v, ws) :: stack, entered, closed, cut, added⟩) missing (fresh old)
        simpa [step, bare, done, old] using entering

theorem Move.added_grows {s s' : Search V} (move : Move g s s') : s.added <+: s'.added := by
  cases move with
  | newRoot _ =>
    split
    · exact List.prefix_rfl
    · exact List.prefix_append _ _
  | descend _ =>
    split
    · exact List.prefix_rfl
    · exact List.prefix_append _ _
  | _ => exact List.prefix_rfl

theorem Move.entered_subset {s s' : Search V} (move : Move g s s') : s.entered ⊆ s'.entered := by
  cases move with
  | newRoot _ => exact List.subset_cons_self _ _
  | descend _ => exact List.subset_cons_self _ _
  | _ => exact List.Subset.refl _

theorem stepInPlace_eq (known : ∀ v ∈ s.added, v ∈ s.entered) (going : s.finished = false) :
    stepInPlace (s.added.foldl Graph.addVertex g) missing s.bare =
      match step g missing s with
      | .ok t => (.ok t.bare, t.added.foldl Graph.addVertex g)
      | .error v => (.error v, s.added.foldl Graph.addVertex g) := by
  have unnoted : s.bare.bare = s.bare := rfl
  rw [stepInPlace, unnoted, step_foldl_addVertex missing known]
  cases stepped : step g missing s with
  | error v => rfl
  | ok t =>
    have noted := List.prefix_iff_eq_append.1 (move_of_step_eq_ok going stepped).added_grows
    simp only [Except.map, forget]
    rw [← List.foldl_append, noted]
    rfl

theorem runInPlace_of_going (going : s.finished = false) :
    runInPlace g missing s =
      match stepInPlace g missing s with
      | (.error v, g') => (.error v, g')
      | (.ok t, g') => runInPlace g' missing t := by
  rw [runInPlace, dif_neg (by simp [going])]
  split <;> rename_i stepped <;> rw [stepped]

theorem added_of_failed (stepped : step g missing s = .ok t) (failed : run g missing t = .error v) :
    t.added = s.added := by
  cases missing with
  | added =>
    obtain ⟨_, ended⟩ := exists_run_added g t
    cases ended.symm.trans failed
  | refused => exact added_of_step_refused stepped

theorem runInPlace_eq (missing : Missing) (known : ∀ v ∈ s.added, v ∈ s.entered) :
    runInPlace (s.added.foldl Graph.addVertex g) missing s.bare =
      match run g missing s with
      | .ok t => (.ok t.bare, t.added.foldl Graph.addVertex g)
      | .error v => (.error v, s.added.foldl Graph.addVertex g) := by
  fun_induction run g missing s with
  | case1 s ended =>
    have ended' : s.bare.finished = true := ended
    rw [runInPlace, dif_pos ended']
  | case2 s going v failed =>
    replace going : s.finished = false := by simpa using going
    have unnoted : s.bare.finished = false := going
    rw [runInPlace_of_going unnoted, stepInPlace_eq known going, failed]
  | case3 s going s' stepped ih =>
    replace going : s.finished = false := by simpa using going
    have unnoted : s.bare.finished = false := going
    have later := (move_of_step_eq_ok going stepped).entered_subset
    have known' : ∀ v ∈ s'.added, v ∈ s'.entered := fun v mem =>
      (added_of_step stepped v mem).elim (fun old => later (known v old)) id
    rw [runInPlace_of_going unnoted, stepInPlace_eq known going, stepped]
    dsimp only
    rw [ih known']
    cases ended : run g missing s' with
    | ok t => rfl
    | error v => rw [added_of_failed stepped ended]

end

end Search

namespace Graph

theorem removeEdges_foldl_addVertex {g : Graph V} {vs : List V} (cut : List (V × V))
    (distinct : vs.Nodup) (absent : ∀ v ∈ vs, v ∉ g.keys) :
    (vs.foldl addVertex g).removeEdges cut = vs.foldl addVertex (g.removeEdges cut) := by
  have absent' : ∀ v ∈ vs, v ∉ (g.removeEdges cut).keys := by
    simpa only [removeEdges, OrderedMap.keys_mapValues] using absent
  refine OrderedMap.eq_of_entries_eq ?_
  rw [entries_foldl_addVertex distinct absent', removeEdges, OrderedMap.mapValues]
  simp only [entries_foldl_addVertex distinct absent, List.map_append, List.map_map]
  rfl

theorem breakInPlace_eq (g : Graph V) (missing : Missing) :
    g.breakInPlace missing =
      match g.breakCycles missing with
      | .ok h => (.ok (), h)
      | .error v => (.error v, g) := by
  have searched := Search.runInPlace_eq (g := g) (s := .start g) missing (by simp [Search.start])
  cases hs : Search.run g missing (.start g) with
  | error v =>
    have failed : g.breakCycles missing = .error v := by
      rw [breakCycles, hs]
      rfl
    replace searched : Search.runInPlace g missing (.start g) = (.error v, g) := by
      rwa [hs] at searched
    rw [breakInPlace, searched, failed]
  | ok s =>
    have noted := Search.noted_of_run_eq_ok hs
    -- Rows that were added meanwhile are empty, so the arrows to be taken out are all there.
    have there : ∀ e ∈ s.cut, (s.added.foldl addVertex g).Arrow e.1 e.2 := by
      intro e mem
      rw [Arrow, next_foldl_addVertex]
      exact noted.arrows e mem
    have taken : (s.added.foldl addVertex g).takeOutAll missing s.cut =
        (.ok (), s.added.foldl addVertex (g.removeEdges s.cut)) := by
      rw [takeOutAll_eq missing noted.cut there,
        removeEdges_foldl_addVertex s.cut noted.added fun v mem => (noted.absent v mem).2.2]
    replace searched : Search.runInPlace g missing (.start g) =
        (.ok s.bare, s.added.foldl addVertex g) := by
      rwa [hs] at searched
    rw [breakInPlace, searched, breakCycles_of_run_eq_ok hs]
    exact taken

theorem breakInPlace_of_eq_ok {g h : Graph V} {missing : Missing}
    (hh : g.breakCycles missing = .ok h) : g.breakInPlace missing = (.ok (), h) := by
  rw [breakInPlace_eq, hh]

end Graph

/-- Where vertices without a row are refused, breaking cycles succeeds or stops at the end of an
arrow that has no row, and then the graph is as it was before. If every arrow leads to a row it
succeeds. Where vertices are given rows it always succeeds. -/
theorem refusal_leaves_graph_unchanged (g : Graph V) :
    ((∃ h, g.breakCycles .refused = .ok h ∧ g.breakInPlace .refused = (.ok (), h)) ∨
      ∃ u v, g.Arrow u v ∧ v ∉ g.keys ∧ g.breakInPlace .refused = (.error v, g)) ∧
    ((∀ u v, g.Arrow u v → v ∈ g.keys) → ∃ h, g.breakInPlace .refused = (.ok (), h)) ∧
    ∃ h, g.breakCycles .added = .ok h ∧ g.breakInPlace .added = (.ok (), h) := by
  have added : ∃ h, g.breakCycles .added = .ok h ∧ g.breakInPlace .added = (.ok (), h) := by
    obtain ⟨h, hh, _⟩ := g.exists_breakCycles_added
    exact ⟨h, hh, Graph.breakInPlace_of_eq_ok hh⟩
  cases hh : g.breakCycles .refused with
  | ok h =>
    have broken := Graph.breakInPlace_of_eq_ok hh
    exact ⟨.inl ⟨h, rfl, broken⟩, fun _ => ⟨h, broken⟩, added⟩
  | error v =>
    obtain ⟨_, target, absent⟩ := Graph.of_breakCycles_eq_error hh
    obtain ⟨u, a⟩ := Graph.mem_targets.1 target
    refine ⟨.inr ⟨u, v, a, absent, ?_⟩, fun closed => absurd (closed u v a) absent, added⟩
    rw [Graph.breakInPlace_eq, hh]

theorem refusal_after_cut_arrow :
    let closed : Graph String := .ofList [("A1", .ofList ["A1", "B1"]), ("B1", .ofList ["A1"])]
    let g : Graph String := .ofList [("A1", .ofList ["A1"]), ("B1", .ofList ["C1"])]
    (∀ u v, closed.Arrow u v → v ∈ closed.keys) ∧
      (∃ h, closed.breakInPlace .refused = (.ok (), h)) ∧
      ∃ u v, g.Arrow u v ∧ v ∉ g.keys ∧ g.breakInPlace .refused = (.error v, g) := by
  intro closed g
  have rows : ∀ v ∈ closed.targets, v ∈ closed.keys := by decide
  have ends (u v : String) (a : closed.Arrow u v) : v ∈ closed.keys :=
    rows v (Graph.mem_targets.2 ⟨u, a⟩)
  have failed : g.breakCycles .refused = .error "C1" := by cbv
  refine ⟨ends, (refusal_leaves_graph_unchanged closed).2.1 ends,
    (refusal_leaves_graph_unchanged g).1.resolve_left ?_⟩
  rintro ⟨h, hh, _⟩
  cases failed.symm.trans hh

namespace Session

theorem afterFailure_eq {engine : Engine} {s : Session} {step : Step} {e : Error}
    {events : List Event} (failed : (s.step engine step).outcome = (.error e, events)) :
    s.afterFailure step = s := by
  cases step with
  | breakCycles =>
    rw [afterFailure, Graph.breakInPlace_eq]
    cases hh : s.graph.breakCycles s.missing with
    | error v => rfl
    | ok h =>
      have broken := Graph.breakInPlace_of_eq_ok hh
      rw [Session.step, broken] at failed
      cases failed
  | _ => rfl

end Session

end SheetScript
