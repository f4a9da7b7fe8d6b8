import SheetScript.Proofs.Graph.Unfolding
import SheetScript.Proofs.ReadBack
import SheetScript.Proofs.Users
import SheetScript.Report

namespace SheetScript

def Report.caption (cell formula : String) (value : Value) : String :=
  let name := "[magenta]" ++ cell ++ "[/magenta] ("
  if isNumeral formula.toList then name ++ value.shown ++ ")"
  else name ++ formula ++ " => " ++ value.shown ++ ")"

def Engine.captionOf (engine : Engine) (script cell : String) : String :=
  match lookup script cell, engine.evaluate script cell with
  | .ok (some formula), .ok value => Report.caption cell formula value
  | _, _ => ""

def Engine.Runs (engine : Engine) (script : String) : Prop :=
  ∀ cell, ∃ value, engine.evaluate script cell = .ok value

namespace Report

/-- A report that answers `a` and prints `events`, whatever was printed before. -/
def Prints {α : Type} (r : Report α) (a : α) (events : List Event) : Prop :=
  ∀ printed, (ExceptT.run r).run printed = (.ok a, printed ++ events)

namespace Prints

variable {α β : Type} {r : Report α} {a : α} {b : β} {events events' : List Event}

theorem outcome_eq (h : Prints r a events) : r.outcome = (.ok a, events) := h []

theorem pure (a : α) : Prints (Pure.pure a) a [] := by
  intro printed
  simp
  rfl

theorem print (e : Event) : Prints (Report.print e) () [e] := fun _ => rfl

theorem bind {f : α → Report β} (h : Prints r a events) (h' : Prints (f a) b events') :
    Prints (r >>= f) b (events ++ events') := by
  intro printed
  rw [ExceptT.run_bind, StateT.run_bind, h printed, ← List.append_assoc]
  exact h' (printed ++ events)

theorem bind_of_nil {f : α → Report β} (h : Prints r a []) (h' : Prints (f a) b events) :
    Prints (r >>= f) b events :=
  h.bind h'

theorem bind_pure (h : Prints r a events) (f : α → β) :
    Prints (r >>= fun a => Pure.pure (f a)) (f a) events := by
  intro printed
  rw [ExceptT.run_bind, StateT.run_bind, h printed]
  rfl

theorem mapM {f : α → Report β} {g : α → β} {l : List α} (h : ∀ x ∈ l, Prints (f x) (g x) []) :
    Prints (l.mapM f) (l.map g) [] := by
  induction l with
  | nil => exact .pure []
  | cons x l ih =>
    obtain ⟨here, later⟩ := List.forall_mem_cons.1 h
    rw [List.mapM_cons]
    exact here.bind_of_nil ((ih later).bind_pure _)

theorem ofExcept (a : α) : Prints (Report.ofExcept (.ok a)) a [] := by
  intro printed
  simp [Report.ofExcept]
  rfl

end Prints

theorem prints_compute {engine : Engine} {script cell : String} {value : Value}
    (h : engine.evaluate script cell = .ok value) :
    Prints (compute engine script cell) value [] := by
  rw [compute, h]
  exact .pure value

theorem exists_lookup {cell : String} (h : Pattern.Plain cell.toList) (script : String) :
    ∃ formula, lookup script cell = .ok (some formula) :=
  ⟨_, lookup_eq h script⟩

theorem prints_growAll {g : Graph String} {format : String → Report String} {name : String → String}
    (silent : ∀ v ∈ g.targets, Prints (format v) (name v) []) (visited : OrderedSet String)
    (vs : List String) (known : ∀ v ∈ vs, v ∈ g.targets) : ∃ grown : Grown visited,
      grown.branches = Tree.mapAll name (g.branches visited vs) ∧
      Prints (growAll g format visited vs) grown ((g.repeated visited vs).map warning) := by
  fun_induction growAll g format visited vs with
  | case1 visited =>
    refine ⟨⟨[], visited, rfl⟩, ?_, ?_⟩
    · rw [Graph.branches_nil, Tree.mapAll]
    · rw [Graph.repeated_nil]
      exact .pure _
  | case2 visited v vs again ih =>
    obtain ⟨here, later⟩ := List.forall_mem_cons.1 known
    obtain ⟨grown, labels, printed⟩ := ih later
    refine ⟨⟨.node (name v) [] :: grown.branches, grown.left, grown.restored⟩, ?_, ?_⟩
    · simp only [Graph.branches_cons_of_mem g again, Tree.mapAll, labels]
    · -- A vertex that is visited already has a warning and no branches.
      rw [Graph.repeated_cons_of_mem g again]
      exact (silent v here).bind_of_nil ((Prints.print _).bind (printed.bind_pure _))
  | case3 visited v vs fresh ihBelow ih =>
    obtain ⟨here, later⟩ := List.forall_mem_cons.1 known
    obtain ⟨below, labels', printed'⟩ := ihBelow fun w a => Graph.mem_targets.2 ⟨v, a⟩
    obtain ⟨grown, labels, printed⟩ := ih below later
    have same := below.erase_left fresh
    refine ⟨⟨.node (name v) below.branches :: grown.branches, grown.left,
      grown.restored.trans same⟩, ?_, ?_⟩
    · simp only [Graph.branches_cons_of_not_mem g fresh, Tree.mapAll, labels, labels', same]
    · have events : g.repeated (below.left.erase v) vs = g.repeated visited vs := by rw [same]
      rw [events] at printed
      rw [Graph.repeated_cons_of_not_mem g fresh, List.map_append]
      exact (silent v here).bind_of_nil (printed'.bind (printed.bind_pure _))

section

variable {engine : Engine} {script : String} (runs : engine.Runs script)

include runs

theorem captionOf_eq {cell : String} (h : Pattern.Plain cell.toList) : ∃ formula value,
    lookup script cell = .ok (some formula) ∧ engine.evaluate script cell = .ok value ∧
      engine.captionOf script cell = caption cell formula value := by
  obtain ⟨formula, found⟩ := exists_lookup h script
  obtain ⟨value, computed⟩ := runs cell
  refine ⟨formula, value, found, computed, ?_⟩
  simp only [Engine.captionOf, found, computed]

theorem prints_label {cell : String} (h : Pattern.Plain cell.toList) :
    Prints (label engine script cell) (engine.captionOf script cell) [] := by
  obtain ⟨formula, value, found, computed, eq⟩ := captionOf_eq runs h
  rw [label, found, eq, caption]
  refine (Prints.ofExcept (some formula)).bind_of_nil ?_
  refine (prints_compute computed).bind_of_nil ?_
  dsimp only
  split
  · exact .pure _
  · exact .pure _

theorem eq_of_captionOf_eq {cell cell' : String} (h : Pattern.Plain cell.toList)
    (h' : Pattern.Plain cell'.toList)
    (same : engine.captionOf script cell = engine.captionOf script cell') : cell = cell' := by
  have front {name : String} (hn : Pattern.Plain name.toList) :
      ∃ rest, (engine.captionOf script name).toList =
        "[magenta]".toList ++ (name.toList ++ '[' :: rest) := by
    obtain ⟨formula, value, _, _, eq⟩ := captionOf_eq runs hn
    rw [eq, caption]
    split
    · exact ⟨"/magenta] (".toList ++ value.shown.toList ++ [')'], by simp⟩
    · exact ⟨"/magenta] (".toList ++ formula.toList ++ " => ".toList ++ value.shown.toList ++ [')'],
        by simp⟩
  have bracket {name : String} (hn : Pattern.Plain name.toList) : '[' ∉ name.toList := fun mem =>
    hn '[' mem (by decide)
  obtain ⟨rest, text⟩ := front h
  obtain ⟨rest', text'⟩ := front h'
  rw [same, text'] at text
  have names := eq_of_append_stop (bracket h') (bracket h) (List.append_cancel_left text)
  exact (String.toList_inj.1 names).symm

theorem captionOf_injective {cell cell' : String} (h : IsName cell.toList)
    (h' : IsName cell'.toList)
    (same : engine.captionOf script cell = engine.captionOf script cell') : cell = cell' :=
  eq_of_captionOf_eq runs h.not_mem_signs h'.not_mem_signs same

variable {g : Graph String}

theorem prints_unfolding (plain : ∀ v ∈ g.targets, Pattern.Plain v.toList) {cell : String}
    (h : Pattern.Plain cell.toList) : Prints (dependencyTree engine script g cell) ()
      ((g.repeated (.insert .empty cell) (g.next cell)).map warning ++
        [.tree (.node (engine.captionOf script cell) (Tree.mapAll (engine.captionOf script)
          (g.branches (.insert .empty cell) (g.next cell))))]) := by
  obtain ⟨grown, labels, printed⟩ := prints_growAll (fun v mem => prints_label runs (plain v mem))
    (.insert .empty cell) (g.next cell) fun v a => Graph.mem_targets.2 ⟨cell, a⟩
  have tree : Prints (grow g (label engine script) .empty (engine.captionOf script cell) cell)
      (.node (engine.captionOf script cell) grown.branches, grown.left.erase cell)
      ((g.repeated (.insert .empty cell) (g.next cell)).map warning) := by
    rw [grow, if_neg (OrderedSet.not_mem_empty cell)]
    exact printed.bind_pure _
  rw [← labels]
  exact (prints_label runs h).bind_of_nil (tree.bind (.print _))

theorem prints_dependencyTree (names : ∀ u v, g.Arrow u v → IsName v.toList) {cell : String}
    (h : IsName cell.toList) : ∃ (branches : List (Tree String)) (warned : List String),
      Prints (dependencyTree engine script g cell) ()
        (warned.map warning ++ [.tree (.node (engine.captionOf script cell) branches)]) ∧
      branches.map Tree.label = (g.next cell).map (engine.captionOf script) := by
  have plain : ∀ v ∈ g.targets, Pattern.Plain v.toList := by
    intro v mem
    obtain ⟨u, a⟩ := Graph.mem_targets.1 mem
    exact (names u v a).not_mem_signs
  refine ⟨_, _, prints_unfolding runs plain h.not_mem_signs, ?_⟩
  rw [Tree.map_label_mapAll, Graph.map_label_branches]

theorem prints_dependantTree (names : ∀ u v, g.Arrow u v → IsName v.toList) {cell : String}
    (h : IsName cell.toList) : Prints (dependantTree engine script g cell) ()
      [.tree (.node (engine.captionOf script cell)
        ((g.next cell).map fun u => .node (engine.captionOf script u) []))] := by
  have below : Prints ((g.next cell).mapM (label engine script))
      ((g.next cell).map (engine.captionOf script)) [] :=
    .mapM fun u mem => prints_label runs (names cell u mem).not_mem_signs
  have leaves : (g.next cell).map (fun u => .node (engine.captionOf script u) []) =
      ((g.next cell).map (engine.captionOf script)).map fun name => Tree.node name [] := by
    rw [List.map_map]
    rfl
  rw [leaves]
  exact (prints_label runs h.not_mem_signs).bind_of_nil (below.bind_of_nil (.print _))

end

theorem Prints.forM_starts {g : Graph String} {f : String → Report Unit} {cell : String}
    {events : List Event} (ne : cell ≠ "") (h : Prints (f cell) () events) :
    Prints ((starts g (some cell)).forM f) () events := by
  have start : starts g (some cell) = [cell] := if_neg (by simpa using ne)
  rw [start]
  exact h.bind_pure fun _ => ()

end Report

/-- The users of a cell are printed as the leaves of one tree, each once and in the order of the
sheet. A cell is one of them exactly when the tree of its own dependencies has the other cell right
below its root. -/
theorem dependants_dual_to_dependencies (s : Sheet) (script : Script) (h : s.toScript = .ok script)
    (engine : Engine) (runs : engine.Runs script.text) (cell : String) (hcell : IsName cell.toList)
    (ne : cell ≠ "") :
    ∃ (p : Program) (users : List String), Program.ofSheet s = .ok p ∧
      users.map .ok = (s.positions.filter (·.RefersTo cell)).map Position.name ∧
      (users.map (engine.captionOf script.text)).Nodup ∧
      (Report.dependants engine script.text p.graph (some cell)).outcome =
        (.ok (), [.tree (.node (engine.captionOf script.text cell)
          (users.map fun u => .node (engine.captionOf script.text u) []))]) ∧
      ∀ u : String, IsName u.toList → u ≠ "" →
        ∃ (warned : List String) (branches : List (Tree String)),
          (Report.dependencies engine script.text p.graph (some u)).outcome =
            (.ok (), warned.map Report.warning ++
              [.tree (.node (engine.captionOf script.text u) branches)]) ∧
          (u ∈ users ↔ engine.captionOf script.text cell ∈ branches.map Tree.label) := by
  obtain ⟨p, hp⟩ := Program.exists_ofSheet h
  have known {u v : String} (a : p.graph.Arrow u v) : IsName u.toList ∧ IsName v.toList :=
    (Program.mem_cells_of_arrow hp a).imp (Program.isName_of_mem_cells hp)
      (Program.isName_of_mem_cells hp)
  have users (u : String) (mem : u ∈ p.graph.reverse.next cell) : IsName u.toList :=
    (known (Graph.arrow_reverse.1 mem)).1
  refine ⟨p, p.graph.reverse.next cell, hp, Program.map_next_reverse hp cell, ?_, ?_, ?_⟩
  · refine (p.graph.reverse.nodup_next cell).map_on fun u hu v hv => ?_
    exact Report.captionOf_injective runs (users u hu) (users v hv)
  · refine (Report.Prints.forM_starts ne ?_).outcome_eq
    exact Report.prints_dependantTree runs (fun u v a => (known (Graph.arrow_reverse.1 a)).1) hcell
  · intro u hu une
    obtain ⟨branches, warned, printed, labels⟩ :=
      Report.prints_dependencyTree runs (fun u v a => (known a).2) hu
    refine ⟨warned, branches, (Report.Prints.forM_starts une printed).outcome_eq, ?_⟩
    rw [labels, List.mem_map]
    refine Graph.arrow_reverse.trans ⟨fun a => ⟨cell, a, rfl⟩, ?_⟩
    rintro ⟨v, a, same⟩
    exact Report.captionOf_injective runs (known a).2 hcell same ▸ a

theorem dependants_of_circular_reference :
    let s : Sheet := ⟨[[.text "=A1+B1", .text "=$A$1", .text "=A1*2+A1", .text "=A11"]]⟩
    let engine := Engine.ofTable (.ofList [("B1", .whole 3)]) none
    ∃ script, s.toScript = .ok script ∧ engine.Runs script.text ∧
      ∃ (p : Program) (users : List String) (warned : List String) (branches : List (Tree String)),
        Program.ofSheet s = .ok p ∧ users = ["A1", "B1", "C1"] ∧
        (Report.dependants engine script.text p.graph (some "A1")).outcome =
          (.ok (), [.tree (.node (engine.captionOf script.text "A1")
            (users.map fun u => .node (engine.captionOf script.text u) []))]) ∧
        (Report.dependencies engine script.text p.graph (some "C1")).outcome =
          (.ok (), warned.map Report.warning ++
            [.tree (.node (engine.captionOf script.text "C1") branches)]) ∧
        engine.captionOf script.text "A1" ∈ branches.map Tree.label := by
  intro s engine
  let p : Program := .ofDeclarations [⟨"A1", "A1+B1", some "=A1+B1", ["A1", "B1"]⟩,
    ⟨"B1", "A1", some "=$A$1", ["A1"]⟩, ⟨"C1", "A1*2+A1", some "=A1*2+A1", ["A1", "A1"]⟩,
    ⟨"D1", "A11", some "=A11", ["A11"]⟩]
  have hp : Program.ofSheet s = .ok p := by with_unfolding_all rfl
  have arranged : p.arrange = .ok ["B1", "A1", "C1", "A11", "D1"] := by cbv
  have hs : s.toScript = .ok ⟨"var B1 = A1;\nvar A1 = A1+B1;\nvar C1 = A1*2+A1;\n" ++
      "var A11 = 0;\nvar D1 = A11;",
      .ofList [("A1", "=A1+B1"), ("B1", "=$A$1"), ("C1", "=A1*2+A1"), ("D1", "=A11")]⟩ :=
    (Program.toScript_of_arrange hp arranged).trans (by with_unfolding_all rfl)
  have runs (script : String) : engine.Runs script := fun cell => ⟨_, rfl⟩
  have names : IsName "A1".toList ∧ IsName "C1".toList := by
    constructor <;> simp [IsName] <;> decide
  obtain ⟨p, users, ofSheet, listed, _, printed, dual⟩ :=
    dependants_dual_to_dependencies s _ hs engine (runs _) "A1" names.1 (by decide)
  have users_eq : users = ["A1", "B1", "C1"] := by
    have row : p.graph.reverse.next "A1" = ["A1", "B1", "C1"] := by
      rw [← Except.ok.inj (hp.symm.trans ofSheet)]
      decide +kernel
    rw [← Program.map_next_reverse ofSheet, row] at listed
    exact List.map_injective_iff.2 (fun _ _ => Except.ok.inj) listed
  obtain ⟨warned, branches, below, iff⟩ := dual "C1" names.2 (by decide)
  exact ⟨_, hs, runs _, p, users, warned, branches, ofSheet, users_eq, printed, below,
    iff.1 (by simp [users_eq])⟩

end SheetScript
