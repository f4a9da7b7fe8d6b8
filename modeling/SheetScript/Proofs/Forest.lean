import SheetScript.Proofs.Graph.Peeling
import SheetScript.Proofs.Report

universe u

namespace SheetScript

open Relation

namespace Graph

variable {V : Type u} [DecidableEq V] {g : Graph V}

theorem mem_roots {r : V} : r ∈ g.roots ↔ r ∈ g.keys ∧ ∀ u, ¬ g.Arrow u r := by
  rw [roots, List.mem_filter, decide_eq_true_eq, mem_targets, not_exists]
  rfl

theorem Acyclic.exists_root (acyclic : g.Acyclic) {v : V} (known : v ∈ g.keys ∨ v ∈ g.targets) :
    ∃ r ∈ g.roots, g.Reaches r v := by
  -- Backwards along arrows, which comes to an end because no cycle leads to `v`.
  induction acc_of_not_reachedByCycle (acyclic.not_reachedByCycle v) with
  | intro v _ ih =>
  by_cases used : ∃ u, g.Arrow u v
  · obtain ⟨u, a⟩ := used
    obtain ⟨r, root, path⟩ := ih u a (.inl (mem_keys_of_mem_next a))
    exact ⟨r, root, ReflTransGen.tail path a⟩
  · have key : v ∈ g.keys := known.resolve_right fun target => used (mem_targets.1 target)
    exact ⟨v, mem_roots.2 ⟨key, not_exists.1 used⟩, .refl⟩

theorem Acyclic.mem_labels_roots (acyclic : g.Acyclic) {v : V} :
    v ∈ Tree.labels (g.branches .empty g.roots) ↔ v ∈ g.keys ∨ v ∈ g.targets := by
  rw [acyclic.mem_labels_branches fun _ _ p visit => absurd visit (OrderedSet.not_mem_empty p)]
  refine ⟨?_, acyclic.exists_root⟩
  rintro ⟨r, root, path⟩
  rcases ReflTransGen.cases_tail path with rfl | ⟨u, _, a⟩
  · exact .inl (mem_roots.1 root).1
  · exact .inr (mem_targets.2 ⟨u, a⟩)

theorem Acyclic.repeated_below (acyclic : g.Acyclic) (v : V) :
    g.repeated (.insert .empty v) (g.next v) = [] := by
  refine List.eq_nil_iff_forall_not_mem.2 fun c mem => ?_
  exact acyclic.not_reachesCycle v (exists_mem_repeated_below_iff.1 ⟨c, mem⟩)

end Graph

namespace Report

theorem starts_of_getD_eq {g : Graph String} {start : Option String} (h : start.getD "" = "") :
    starts g start = g.roots := by
  cases start with
  | none => rfl
  | some cell =>
    obtain rfl : cell = "" := h
    rfl

theorem prints_forM_dependencyTree {g : Graph String} {engine : Engine} {script : String}
    (runs : engine.Runs script) (acyclic : g.Acyclic)
    (plain : ∀ v ∈ g.targets, Pattern.Plain v.toList) (vs : List String)
    (names : ∀ v ∈ vs, Pattern.Plain v.toList) :
    Prints (vs.forM (dependencyTree engine script g)) ()
      ((Tree.mapAll (engine.captionOf script) (g.branches .empty vs)).map .tree) := by
  induction vs with
  | nil =>
    rw [Graph.branches_nil, Tree.mapAll]
    exact .pure ()
  | cons v vs ih =>
    obtain ⟨here, later⟩ := List.forall_mem_cons.1 names
    have first := prints_unfolding runs plain here
    rw [acyclic.repeated_below] at first
    rw [Graph.branches_cons_of_not_mem g (OrderedSet.not_mem_empty v), Tree.mapAll]
    exact first.bind (ih later)

end Report

/-- In a graph without cycles: when no cell is given, one tree is printed for each row of a vertex
to which no arrow leads, in the order of the rows, and nothing else, so no warning. The nodes of
these trees are the vertices of the graph, all of them, and each label shows whose it is. -/
theorem dependencies_show_every_vertex (g : Graph String) (acyclic : g.Acyclic)
    (names : ∀ v, v ∈ g.keys ∨ v ∈ g.targets → ∀ c ∈ v.toList, c.isAlphanum = true)
    (engine : Engine) (script : String) (runs : engine.Runs script) (start : Option String)
    (all : start.getD "" = "") :
    ∃ trees : List (Tree String),
      (Report.dependencies engine script g start).outcome =
        (.ok (), (Tree.mapAll (engine.captionOf script) trees).map .tree) ∧
      (trees.map Tree.label).Sublist g.keys ∧
      (∀ r, r ∈ trees.map Tree.label ↔ r ∈ g.keys ∧ ∀ u, ¬ g.Arrow u r) ∧
      (∀ v, Report.warning v ∉ (Report.dependencies engine script g start).outcome.2) ∧
      (∀ v, (∃ t ∈ trees, v ∈ Tree.labels [t]) ↔ v ∈ g.keys ∨ v ∈ g.targets) ∧
      ∀ v w, v ∈ g.keys ∨ v ∈ g.targets → w ∈ g.keys ∨ w ∈ g.targets →
        engine.captionOf script v = engine.captionOf script w → v = w := by
  have plain {v : String} (known : v ∈ g.keys ∨ v ∈ g.targets) : Pattern.Plain v.toList :=
    Pattern.plain_of_isAlphanum (names v known)
  have printed : (Report.dependencies engine script g start).outcome =
      (.ok (), (Tree.mapAll (engine.captionOf script) (g.branches .empty g.roots)).map .tree) := by
    rw [Report.dependencies, Report.starts_of_getD_eq all]
    refine (Report.prints_forM_dependencyTree runs acyclic ?_ g.roots ?_).outcome_eq
    · exact fun v mem => plain (.inr mem)
    · exact fun r root => plain (.inl (Graph.mem_roots.1 root).1)
  refine ⟨g.branches .empty g.roots, printed, ?_, fun r => ?_, fun v mem => ?_, fun v => ?_, ?_⟩
  · rw [Graph.map_label_branches]
    exact List.filter_sublist
  · rw [Graph.map_label_branches, Graph.mem_roots]
  · rw [printed] at mem
    simp [Report.warning] at mem
  · rw [← acyclic.mem_labels_roots, Tree.mem_labels_iff]
  · exact fun v w hv hw same => Report.eq_of_captionOf_eq runs (plain hv) (plain hw) same

theorem dependencies_of_shared_cell :
    let g : Graph String := .ofList [("B1", .ofList ["D1"]), ("A1", .ofList ["B1", "c2"]),
      ("c2", .ofList ["D1"]), ("E1", .empty)]
    let engine := Engine.ofTable (.ofList [("D1", .whole 3)]) none
    let script := "var D1 = 3;"
    g.Acyclic ∧ (∀ v, v ∈ g.keys ∨ v ∈ g.targets → ∀ c ∈ v.toList, c.isAlphanum = true) ∧
      engine.Runs script ∧
      ∃ trees : List (Tree String),
        (Report.dependencies engine script g none).outcome =
          (.ok (), (Tree.mapAll (engine.captionOf script) trees).map .tree) ∧
        "A1" ∈ trees.map Tree.label ∧ "E1" ∈ trees.map Tree.label ∧
        "c2" ∉ trees.map Tree.label ∧ ∃ t ∈ trees, "D1" ∈ Tree.labels [t] := by
  intro g engine script
  have acyclic : g.Acyclic := Graph.acyclic_iff_order.2 ⟨["D1", "B1", "c2", "A1", "E1"], by cbv⟩
  have names : ∀ v, v ∈ g.keys ∨ v ∈ g.targets → ∀ c ∈ v.toList, c.isAlphanum = true := by
    have vertices : g.keys ++ g.targets = ["B1", "A1", "c2", "E1", "D1", "B1", "c2", "D1"] := by
      decide
    intro v known
    rw [← List.mem_append, vertices] at known
    have letters : ["B1", "A1", "c2", "E1", "D1", "B1", "c2", "D1"].all
        (·.toList.all Char.isAlphanum) = true := by decide
    exact List.all_eq_true.1 (List.all_eq_true.1 letters v known)
  have runs : engine.Runs script := fun cell => ⟨_, rfl⟩
  obtain ⟨trees, printed, _, roots, _, shown, _⟩ :=
    dependencies_show_every_vertex g acyclic names engine script runs none rfl
  simp only [← Graph.mem_roots] at roots
  exact ⟨acyclic, names, runs, trees, printed, (roots _).2 (by decide), (roots _).2 (by decide),
    (roots _).not.2 (by decide), (shown _).2 (by decide)⟩

end SheetScript
