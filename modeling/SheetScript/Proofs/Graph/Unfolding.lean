import SheetScript.Proofs.Graph.Order
import SheetScript.Proofs.Tree

universe u

namespace SheetScript

/-- A vertex in a tree; `again` when it was visited on the way to it. -/
structure Visit (V : Type u) where
  vertex : V
  again : Bool

def Tree.repeated {V : Type u} : List (Tree (Visit V)) → List V
  | [] => []
  | .node v branches :: rest =>
    (if v.again then [v.vertex] else []) ++ (repeated branches ++ repeated rest)

namespace Graph

open Relation

variable {V : Type u} [DecidableEq V]

def unfoldAll (g : Graph V) (visited : OrderedSet V) : List V → List (Tree (Visit V))
  | [] => []
  | v :: vs =>
    if _h : v ∈ visited then .node ⟨v, true⟩ [] :: g.unfoldAll visited vs
    else .node ⟨v, false⟩ (g.unfoldAll (visited.insert v) (g.next v)) :: g.unfoldAll visited vs
termination_by vs => (g.unseen visited.toList, vs.length)
decreasing_by
  · exact .right _ (Nat.lt_succ_self _)
  · rw [unseen_insert]
    exact g.unseen_decreasing _h vs
  · exact .right _ (Nat.lt_succ_self _)

def branches (g : Graph V) (visited : OrderedSet V) (vs : List V) : List (Tree V) :=
  Tree.mapAll Visit.vertex (g.unfoldAll visited vs)

def repeated (g : Graph V) (visited : OrderedSet V) (vs : List V) : List V :=
  Tree.repeated (g.unfoldAll visited vs)

/-- A walk along arrows from `start` over all of `walk`. It may end at a vertex where it has been or
that was visited before, and else enters none of these. -/
structure Walk (g : Graph V) (visited : OrderedSet V) (start : V) (walk : List V) : Prop where
  moves : walk ≠ []
  arrows : (start :: walk).IsChain g.Arrow
  distinct : (start :: walk).dropLast.Nodup
  fresh : ∀ v ∈ (start :: walk).dropLast, v ∉ visited

section

variable {g : Graph V} {visited : OrderedSet V} {v w : V} {vs ws : List V}

theorem walk_cons_iff : g.Walk visited v (w :: ws) ↔
    v ∉ visited ∧ g.Arrow v w ∧ (ws = [] ∨ g.Walk (visited.insert v) w ws) := by
  constructor
  · rintro ⟨_, arrows, distinct, fresh⟩
    rw [List.dropLast_cons_cons] at distinct fresh
    obtain ⟨off, distinct⟩ := List.nodup_cons.1 distinct
    obtain ⟨here, fresh⟩ := List.forall_mem_cons.1 fresh
    obtain ⟨first, arrows⟩ := List.isChain_cons_cons.1 arrows
    refine ⟨here, first, ?_⟩
    by_cases ended : ws = []
    · exact .inl ended
    · refine .inr ⟨ended, arrows, distinct, fun x mem visit => ?_⟩
      rcases OrderedSet.mem_insert.1 visit with old | rfl
      · exact fresh x mem old
      · exact off mem
  · rintro ⟨here, first, rfl | ⟨_, arrows, distinct, fresh⟩⟩
    · exact ⟨by simp, by simpa using first, by simp, by simpa using here⟩
    · refine ⟨by simp, List.isChain_cons_cons.2 ⟨first, arrows⟩, ?_, ?_⟩
      · rw [List.dropLast_cons_cons]
        exact List.nodup_cons.2 ⟨fun mem => fresh v mem (by simp), distinct⟩
      · rw [List.dropLast_cons_cons]
        refine List.forall_mem_cons.2 ⟨here, fun x mem old => fresh x mem ?_⟩
        exact OrderedSet.mem_insert.2 (.inl old)

theorem walk_iff {walk : List V} : g.Walk visited v walk ↔ v ∉ visited ∧
    ∃ w ∈ g.next v, ∃ ws, walk = w :: ws ∧ (ws = [] ∨ g.Walk (visited.insert v) w ws) := by
  constructor
  · intro h
    cases walk with
    | nil => exact absurd rfl h.moves
    | cons w ws =>
      obtain ⟨here, first, later⟩ := walk_cons_iff.1 h
      exact ⟨here, w, first, ws, rfl, later⟩
  · rintro ⟨here, w, first, ws, rfl, later⟩
    exact walk_cons_iff.2 ⟨here, first, later⟩

@[simp] theorem branches_nil (g : Graph V) (visited : OrderedSet V) :
    g.branches visited [] = [] := by
  rw [branches, unfoldAll, Tree.mapAll]

theorem branches_cons_of_mem (g : Graph V) (again : v ∈ visited) (vs : List V) :
    g.branches visited (v :: vs) = .node v [] :: g.branches visited vs := by
  rw [branches, unfoldAll, dif_pos again, Tree.mapAll, Tree.mapAll, branches]

theorem branches_cons_of_not_mem (g : Graph V) (fresh : v ∉ visited) (vs : List V) :
    g.branches visited (v :: vs) =
      .node v (g.branches (visited.insert v) (g.next v)) :: g.branches visited vs := by
  rw [branches, unfoldAll, dif_neg fresh, Tree.mapAll, branches, branches]

theorem map_label_branches (g : Graph V) (visited : OrderedSet V) (vs : List V) :
    (g.branches visited vs).map Tree.label = vs := by
  induction visited, vs using unfoldAll.induct g with
  | case1 visited => simp
  | case2 visited v vs again ih => simp [branches_cons_of_mem g again, Tree.label, ih]
  | case3 visited v vs fresh _ ih => simp [branches_cons_of_not_mem g fresh, Tree.label, ih]

theorem mem_paths_branches {path : List V} : path ∈ Tree.paths (g.branches visited vs) ↔
    ∃ v ∈ vs, ∃ walk, path = v :: walk ∧ (walk = [] ∨ g.Walk visited v walk) := by
  induction visited, vs using unfoldAll.induct g generalizing path with
  | case1 visited => simp
  | case2 visited v vs again ih =>
    have stays (walk : List V) : ¬ g.Walk visited v walk := fun h => (walk_iff.1 h).1 again
    simp only [branches_cons_of_mem g again, Tree.mem_paths_cons, ih, List.exists_mem_cons_iff,
      stays, Tree.paths_nil, List.not_mem_nil]
  | case3 visited v vs fresh ihBelow ih =>
    have below (walk : List V) :
        walk ∈ Tree.paths (g.branches (visited.insert v) (g.next v)) ↔ g.Walk visited v walk := by
      rw [ihBelow, walk_iff, and_iff_right fresh]
    simp only [branches_cons_of_not_mem g fresh, Tree.mem_paths_cons, ih,
      List.exists_mem_cons_iff, below]

theorem mem_paths_below_iff (fresh : v ∉ visited) {walk : List V} :
    walk ∈ Tree.paths (g.branches (visited.insert v) (g.next v)) ↔ g.Walk visited v walk := by
  rw [mem_paths_branches, walk_iff, and_iff_right fresh]

theorem head?_of_mem_paths_branches {path : List V}
    (mem : path ∈ Tree.paths (g.branches visited vs)) : ∃ v ∈ vs, path.head? = some v := by
  obtain ⟨v, known, walk, rfl, _⟩ := mem_paths_branches.1 mem
  exact ⟨v, known, rfl⟩

theorem nodup_paths_branches (g : Graph V) (visited : OrderedSet V) {vs : List V}
    (distinct : vs.Nodup) : (Tree.paths (g.branches visited vs)).Nodup := by
  have apart {visited : OrderedSet V} {v : V} {vs path : List V} (off : v ∉ vs)
      (head : path.head? = some v) : path ∉ Tree.paths (g.branches visited vs) := by
    intro mem
    obtain ⟨w, known, head'⟩ := head?_of_mem_paths_branches mem
    exact off (Option.some.inj (head.symm.trans head') ▸ known)
  induction visited, vs using unfoldAll.induct g with
  | case1 visited => simp
  | case2 visited v vs again ih =>
    obtain ⟨off, distinct⟩ := List.nodup_cons.1 distinct
    rw [branches_cons_of_mem g again, Tree.paths, Tree.paths_nil]
    exact List.nodup_cons.2 ⟨apart off rfl, ih distinct⟩
  | case3 visited v vs fresh ihBelow ih =>
    obtain ⟨off, distinct⟩ := List.nodup_cons.1 distinct
    rw [branches_cons_of_not_mem g fresh, Tree.paths]
    refine List.nodup_cons.2 ⟨fun mem => ?_, List.Nodup.append ?_ (ih distinct) ?_⟩
    · rcases List.mem_append.1 mem with below | later
      · obtain ⟨path, mem, eq⟩ := List.mem_map.1 below
        obtain ⟨w, _, head⟩ := head?_of_mem_paths_branches mem
        simp [(List.cons.inj eq).2] at head
      · exact apart off rfl later
    · exact (ihBelow (g.nodup_next v)).map List.cons_injective
    · intro path below later
      obtain ⟨_, _, rfl⟩ := List.mem_map.1 below
      exact apart off rfl later

theorem localTrees_branches (g : Graph V) (visited : OrderedSet V) (vs : List V) :
    ∀ t ∈ Tree.localTrees (g.branches visited vs), t.2 = [] ∨ t.2 = g.next t.1 := by
  induction visited, vs using unfoldAll.induct g with
  | case1 visited => simp [Tree.localTrees]
  | case2 visited v vs again ih =>
    simpa [branches_cons_of_mem g again, Tree.localTrees] using ih
  | case3 visited v vs fresh ihBelow ih =>
    simp only [branches_cons_of_not_mem g fresh, Tree.localTrees, List.forall_mem_cons,
      List.forall_mem_append]
    exact ⟨.inr (g.map_label_branches _ _), ihBelow, ih⟩

theorem Acyclic.mem_labels_branches (acyclic : g.Acyclic)
    (behind : ∀ v ∈ vs, ∀ p ∈ visited, ¬ g.Reaches v p) :
    w ∈ Tree.labels (g.branches visited vs) ↔ ∃ v ∈ vs, g.Reaches v w := by
  induction visited, vs using unfoldAll.induct g with
  | case1 visited => simp
  | case2 visited v vs again ih => exact absurd .refl (behind v List.mem_cons_self v again)
  | case3 visited v vs fresh ihBelow ih =>
    obtain ⟨here, later⟩ := List.forall_mem_cons.1 behind
    have below : w ∈ Tree.labels (g.branches (visited.insert v) (g.next v)) ↔
        ∃ x, g.Arrow v x ∧ g.Reaches x w := by
      refine ihBelow fun x a p visit path => ?_
      rcases OrderedSet.mem_insert.1 visit with old | rfl
      · exact here p old (.head a path)
      · exact acyclic p (.head' a path)
    rw [branches_cons_of_not_mem g fresh, Tree.mem_labels_cons, below, ih later,
      List.exists_mem_cons_iff]
    refine or_congr ?_ Iff.rfl
    rw [Reaches, ReflTransGen.cases_head_iff, eq_comm]

@[simp] theorem repeated_nil (g : Graph V) (visited : OrderedSet V) :
    g.repeated visited [] = [] := by
  rw [repeated, unfoldAll, Tree.repeated]

theorem repeated_cons_of_mem (g : Graph V) (again : v ∈ visited) (vs : List V) :
    g.repeated visited (v :: vs) = v :: g.repeated visited vs := by
  rw [repeated, unfoldAll, dif_pos again, Tree.repeated, Tree.repeated, repeated]
  rfl

theorem repeated_cons_of_not_mem (g : Graph V) (fresh : v ∉ visited) (vs : List V) :
    g.repeated visited (v :: vs) =
      g.repeated (visited.insert v) (g.next v) ++ g.repeated visited vs := by
  rw [repeated, unfoldAll, dif_neg fresh, Tree.repeated, repeated, repeated]
  rfl

theorem transGen_of_mem_repeated (leads : ∀ p ∈ visited, ∀ v ∈ vs, TransGen g.Arrow p v) :
    ∀ c ∈ g.repeated visited vs, TransGen g.Arrow c c := by
  induction visited, vs using unfoldAll.induct g with
  | case1 visited => simp
  | case2 visited v vs again ih =>
    rw [repeated_cons_of_mem g again]
    refine List.forall_mem_cons.2 ⟨leads v again v List.mem_cons_self, ih ?_⟩
    exact fun p hp x hx => leads p hp x (.tail _ hx)
  | case3 visited v vs fresh ihBelow ih =>
    rw [repeated_cons_of_not_mem g fresh]
    refine List.forall_mem_append.2 ⟨ihBelow fun p hp w a => ?_, ih ?_⟩
    · rcases OrderedSet.mem_insert.1 hp with old | rfl
      · exact (leads p old v List.mem_cons_self).tail a
      · exact .single a
    · exact fun p hp x hx => leads p hp x (.tail _ hx)

theorem exists_reaches_of_mem_repeated :
    ∀ c ∈ g.repeated visited vs, ∃ v ∈ vs, g.Reaches v c := by
  induction visited, vs using unfoldAll.induct g with
  | case1 visited => simp
  | case2 visited v vs again ih =>
    simp only [repeated_cons_of_mem g again, List.forall_mem_cons, List.exists_mem_cons_iff]
    exact ⟨.inl .refl, fun c mem => .inr (ih c mem)⟩
  | case3 visited v vs fresh ihBelow ih =>
    simp only [repeated_cons_of_not_mem g fresh, List.forall_mem_append,
      List.exists_mem_cons_iff]
    refine ⟨fun c mem => .inl ?_, fun c mem => .inr (ih c mem)⟩
    obtain ⟨w, a, path⟩ := ihBelow c mem
    exact ReflTransGen.head a path

theorem not_reachesCycle_of_repeated_eq_nil (none : g.repeated visited vs = []) :
    ∀ v ∈ vs, ¬ g.ReachesCycle v := by
  induction visited, vs using unfoldAll.induct g with
  | case1 visited => simp
  | case2 visited v vs again ih => simp [repeated_cons_of_mem g again] at none
  | case3 visited v vs fresh ihBelow ih =>
    rw [repeated_cons_of_not_mem g fresh, List.append_eq_nil_iff] at none
    refine List.forall_mem_cons.2 ⟨fun cycle => ?_, ih none.2⟩
    obtain ⟨w, a, further⟩ := cycle.exists_arrow
    exact ihBelow none.1 w a further

theorem transGen_of_mem_repeated_below {c : V}
    (mem : c ∈ g.repeated (.insert .empty v) (g.next v)) : TransGen g.Arrow c c := by
  refine transGen_of_mem_repeated (fun p hp w a => ?_) c mem
  obtain rfl : p = v := by simpa using hp
  exact .single a

theorem exists_mem_repeated_below_iff :
    (∃ c, c ∈ g.repeated (.insert .empty v) (g.next v)) ↔ g.ReachesCycle v := by
  constructor
  · rintro ⟨c, mem⟩
    obtain ⟨w, a, path⟩ := exists_reaches_of_mem_repeated c mem
    exact ⟨c, .head a path, transGen_of_mem_repeated_below mem⟩
  · intro cycle
    obtain ⟨w, a, further⟩ := cycle.exists_arrow
    refine List.exists_mem_of_ne_nil _ fun none => ?_
    exact not_reachesCycle_of_repeated_eq_nil none w a further

end

end Graph

end SheetScript
