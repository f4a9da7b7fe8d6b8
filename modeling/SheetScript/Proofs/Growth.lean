import SheetScript.Proofs.Graph.Unfolding
import SheetScript.Proofs.Report

namespace SheetScript

namespace Report

variable {α β : Type}

def Gives (r : Report α) (before : List Event) (a : α) (after : List Event) : Prop :=
  (ExceptT.run r).run before = (.ok a, after)

def Answers (r : Report α) : Prop := ∀ before, ∃ a after, r.Gives before a after

theorem Gives.pure (a : α) (before : List Event) : Gives (Pure.pure a) before a before := rfl

theorem Gives.print (e : Event) (before : List Event) :
    Gives (Report.print e) before () (before ++ [e]) := rfl

theorem Gives.bind {r : Report α} {f : α → Report β} {before between after : List Event} {a : α}
    {b : β} (h : r.Gives before a between) (h' : (f a).Gives between b after) :
    (r >>= f).Gives before b after := by
  rw [Gives, ExceptT.run_bind, StateT.run_bind, h]
  exact h'

/-- A report that only adds to what was printed, also where it fails, and no other warnings than
those of `ws`. -/
def WarnsOnly (ws : List String) (r : Report α) : Prop :=
  ∀ before, ∃ said, ((ExceptT.run r).run before).2 = before ++ said ∧
    ∀ w, warning w ∈ said → w ∈ ws

namespace WarnsOnly

variable {ws : List String} {r : Report α}

theorem pure (a : α) : WarnsOnly ws (Pure.pure a : Report α) := fun before =>
  ⟨[], (List.append_nil before).symm, by simp⟩

theorem print {e : Event} (h : ∀ w, e = warning w → w ∈ ws) : WarnsOnly ws (Report.print e) :=
  fun _ => ⟨[e], rfl, by simpa [eq_comm] using h⟩

theorem ofExcept (x : Except Error α) : WarnsOnly ws (Report.ofExcept x) := fun before =>
  ⟨[], (List.append_nil before).symm, by simp⟩

theorem throw (e : Error) : WarnsOnly ws (MonadExcept.throw e : Report α) := fun before =>
  ⟨[], (List.append_nil before).symm, by simp⟩

theorem mono {ws' : List String} (h : r.WarnsOnly ws) (sub : ws ⊆ ws') : r.WarnsOnly ws' := by
  intro before
  obtain ⟨said, added, only⟩ := h before
  exact ⟨said, added, fun w mem => sub (only w mem)⟩

theorem bind {f : α → Report β} (h : r.WarnsOnly ws) (h' : ∀ a, (f a).WarnsOnly ws) :
    (r >>= f).WarnsOnly ws := by
  intro before
  obtain ⟨said, added, only⟩ := h before
  rw [ExceptT.run_bind, StateT.run_bind]
  rcases outcome : (ExceptT.run r).run before with ⟨answer, after⟩
  obtain rfl : after = before ++ said := by simpa [outcome] using added
  cases answer with
  | error e => exact ⟨said, rfl, only⟩
  | ok a =>
    obtain ⟨more, added', only'⟩ := h' a (before ++ said)
    refine ⟨said ++ more, ?_, fun w mem => (List.mem_append.1 mem).elim (only w) (only' w)⟩
    rw [← List.append_assoc]
    exact added'

end WarnsOnly

section

variable {g : Graph String} {format : String → Report String} {vs : List String}

theorem exists_growAll (answers : ∀ v ∈ g.targets, (format v).Answers)
    (visited : OrderedSet String) (known : ∀ v ∈ vs, v ∈ g.targets) (before : List Event) :
    ∃ (named : List (Tree (String × String))) (grown : Grown visited) (after : List Event),
      (growAll g format visited vs).Gives before grown after ∧
      grown.branches = Tree.mapAll Prod.snd named ∧
      Tree.mapAll Prod.fst named = g.branches visited vs ∧
      ∀ t ∈ Tree.localTrees named, ∃ before after, (format t.1.1).Gives before t.1.2 after := by
  fun_induction growAll g format visited vs generalizing before with
  | case1 visited =>
    refine ⟨[], ⟨[], visited, rfl⟩, before, .pure _ _, ?_, ?_, ?_⟩
    · rw [Tree.mapAll]
    · rw [Tree.mapAll, Graph.branches_nil]
    · simp [Tree.localTrees]
  | case2 visited v vs again ih =>
    obtain ⟨here, later⟩ := List.forall_mem_cons.1 known
    obtain ⟨name, between, label⟩ := answers v here before
    obtain ⟨named, grown, after, gives, labels, vertices, formatted⟩ :=
      ih later (between ++ [warning v])
    refine ⟨.node (v, name) [] :: named,
      ⟨.node name [] :: grown.branches, grown.left, grown.restored⟩, after, ?_, ?_, ?_, ?_⟩
    · exact label.bind ((Gives.print _ _).bind (gives.bind (.pure _ _)))
    · simp only [Tree.mapAll, labels]
    · simp only [Tree.mapAll, vertices, Graph.branches_cons_of_mem g again]
    · simp only [Tree.localTrees, List.nil_append, List.forall_mem_cons]
      exact ⟨⟨before, between, label⟩, formatted⟩
  | case3 visited v vs fresh ihBelow ih =>
    obtain ⟨here, later⟩ := List.forall_mem_cons.1 known
    obtain ⟨name, between, label⟩ := answers v here before
    obtain ⟨inner, below, between', givesBelow, labels', vertices', formatted'⟩ :=
      ihBelow (fun w a => Graph.mem_targets.2 ⟨v, a⟩) between
    obtain ⟨named, grown, after, gives, labels, vertices, formatted⟩ := ih below later between'
    -- The branches behind `v` are grown with what was visited before `v`.
    rw [below.erase_left fresh] at vertices
    refine ⟨.node (v, name) inner :: named, ⟨.node name below.branches :: grown.branches,
      grown.left, grown.restored.trans (below.erase_left fresh)⟩, after, ?_, ?_, ?_, ?_⟩
    · exact label.bind (givesBelow.bind (gives.bind (.pure _ _)))
    · simp only [Tree.mapAll, labels, labels']
    · simp only [Tree.mapAll, vertices, vertices', Graph.branches_cons_of_not_mem g fresh]
    · simp only [Tree.localTrees, List.forall_mem_cons, List.forall_mem_append]
      exact ⟨⟨before, between, label⟩, formatted', formatted⟩

end

theorem exists_grow {g : Graph String} {format : String → Report String}
    (answers : ∀ v ∈ g.targets, (format v).Answers) (visited : OrderedSet String)
    (root node : String) (before : List Event) :
    ∃ (named : List (Tree (String × String))) (after : List Event),
      (grow g format visited root node).Gives before
        (.node root (Tree.mapAll Prod.snd named), visited) after ∧
      Tree.mapAll Prod.fst named =
        (if node ∈ visited then [] else g.branches (visited.insert node) (g.next node)) ∧
      ∀ t ∈ Tree.localTrees named, ∃ before after, (format t.1.1).Gives before t.1.2 after := by
  by_cases again : node ∈ visited
  · refine ⟨[], before ++ [warning node], ?_, ?_, ?_⟩
    · rw [grow, if_pos again, Tree.mapAll]
      exact (Gives.print _ _).bind (.pure _ _)
    · rw [if_pos again, Tree.mapAll]
    · simp [Tree.localTrees]
  · obtain ⟨named, grown, after, gives, labels, vertices, formatted⟩ :=
      exists_growAll answers (visited.insert node) (fun w a => Graph.mem_targets.2 ⟨node, a⟩) before
    refine ⟨named, after, ?_, by rw [if_neg again, vertices], formatted⟩
    rw [grow, if_neg again, ← labels]
    refine gives.bind ?_
    rw [grown.erase_left again]
    exact .pure _ _

section

variable {g : Graph String} {format : String → Report String}
  (quiet : ∀ v ∈ g.targets, (format v).WarnsOnly []) (root node : String)

include quiet

end

end Report

open Report

/-- Below the root a tree has exactly the walks for paths that start at the vertex and visit no
vertex twice, and none that was visited before, until they end. Each is there once, and branches
have the order of the arrows. The visited vertices are left as they were. -/
theorem tree_paths_are_walks (g : Graph String) (format : String → Report String)
    (answers : ∀ v ∈ g.targets, (format v).Answers) (visited : OrderedSet String)
    (root node : String) (before : List Event) :
    ∃ (named : List (Tree (String × String))) (after : List Event),
      (grow g format visited root node).Gives before
        (.node root (Tree.mapAll Prod.snd named), visited) after ∧
      (∀ t ∈ Tree.localTrees named, ∃ before after, (format t.1.1).Gives before t.1.2 after) ∧
      (Tree.paths (Tree.mapAll Prod.fst named)).Nodup ∧
      (∀ walk, walk ∈ Tree.paths (Tree.mapAll Prod.fst named) ↔ g.Walk visited node walk) ∧
      ∀ t ∈ Tree.localTrees [.node node (Tree.mapAll Prod.fst named)],
        t.2 = [] ∨ t.2 = g.next t.1 := by
  obtain ⟨named, after, gives, vertices, formatted⟩ := exists_grow answers visited root node before
  refine ⟨named, after, gives, formatted, ?_⟩
  rw [vertices]
  by_cases again : node ∈ visited
  · rw [if_pos again]
    refine ⟨by simp, fun walk => ?_, by simp [Tree.localTrees]⟩
    exact iff_of_false (by simp) fun h => (Graph.walk_iff.1 h).1 again
  · rw [if_neg again]
    refine ⟨g.nodup_paths_branches _ (g.nodup_next node), fun walk => ?_, ?_⟩
    · exact Graph.mem_paths_below_iff again
    · simp only [Tree.localTrees, List.append_nil, List.forall_mem_cons]
      exact ⟨.inr (g.map_label_branches _ _), g.localTrees_branches _ _⟩

theorem tree_of_shared_and_circular_cells :
    let g : Graph String := .ofList [("A1", .ofList ["B1", "C1"]), ("B1", .ofList ["D1", "E1"]),
      ("C1", .ofList ["D1", "A1"]), ("E1", .ofList ["A1"])]
    let visited : OrderedSet String := .ofList ["E1"]
    let format (v : String) : Report String := do
      print (.line v)
      return "<" ++ v ++ ">"
    (∀ v ∈ g.targets, (format v).Answers) ∧
      ∃ (named : List (Tree (String × String))) (after : List Event),
        (grow g format visited "A1" "A1").Gives []
          (.node "A1" (Tree.mapAll Prod.snd named), visited) after ∧
        ["C1", "A1"] ∈ Tree.paths (Tree.mapAll Prod.fst named) ∧
        ["B1", "E1"] ∈ Tree.paths (Tree.mapAll Prod.fst named) ∧
        ["B1", "E1", "A1"] ∉ Tree.paths (Tree.mapAll Prod.fst named) := by
  intro g visited format
  have answers : ∀ v ∈ g.targets, (format v).Answers := fun v _ before => ⟨_, _, rfl⟩
  obtain ⟨named, after, gives, _, _, walks, _⟩ :=
    tree_paths_are_walks g format answers visited "A1" "A1" []
  refine ⟨answers, named, after, gives, (walks _).2 ?_, (walks _).2 ?_, fun mem => ?_⟩
  · exact ⟨by decide, by decide, by decide, by decide⟩
  · exact ⟨by decide, by decide, by decide, by decide⟩
  · exact ((walks _).1 mem).fresh "E1" (by decide) (by decide)

end SheetScript
