import Mathlib.Data.List.Permutation
import SheetScript.Proofs.Graph.Cycles
import SheetScript.Proofs.Graph.Order
import SheetScript.Proofs.Program
import SheetScript.Script

universe u

namespace SheetScript

open Relation

namespace Program

def entriesOf (p : Program) (names : List String) : List (String × String) :=
  names.filterMap fun name => (p.cells.find? name).map (name, ·)

theorem entriesOf_keys (p : Program) : p.entriesOf p.cells.keys = p.cells.entries := by
  have found : ∀ e ∈ p.cells.entries, p.cells.find? e.1 = some e.2 := fun e mem =>
    OrderedMap.find?_eq_some.2 mem
  rw [entriesOf, OrderedMap.keys, List.filterMap_map]
  refine (List.filterMap_congr fun e mem => ?_).trans List.filterMap_some
  simp [found e mem]

theorem map_fst_entriesOf {p : Program} {names : List String}
    (h : ∀ name ∈ names, name ∈ p.cells) : (p.entriesOf names).map (·.1) = names := by
  induction names with
  | nil => rfl
  | cons name names ih =>
    obtain ⟨here, later⟩ := List.forall_mem_cons.1 h
    obtain ⟨e, found⟩ := OrderedMap.mem_iff_find?.1 here
    rw [entriesOf, List.filterMap_cons, found]
    exact congrArg (name :: ·) (ih later)

def listing (entries : List (String × String)) : String :=
  "\n".intercalate (entries.map fun e => declare e.1 e.2)

theorem toScript_eq_map (p : Program) :
    p.toScript = p.arrange.map fun names => ⟨listing (p.entriesOf names), p.formulas⟩ := by
  have texts (names : List String) : (p.entriesOf names).map (fun e => declare e.1 e.2) =
      names.filterMap fun name => (p.cells.find? name).map (declare name) := by
    rw [entriesOf, List.map_filterMap]
    simp [Function.comp_def]
  simp only [listing, texts]
  rw [toScript]
  cases p.arrange <;> rfl

theorem toScript_eq {p : Program} {g : Graph String} (hg : p.graph.breakCycles .added = .ok g) :
    p.toScript =
      match g.order p.cells.domain with
      | .ok names => .ok ⟨listing (p.entriesOf names), p.formulas⟩
      | .error cell => .error (.cycle cell) := by
  have arranged : p.arrange = (g.order p.cells.domain).mapError .cycle := by
    rw [arrange, hg]
    rfl
  rw [toScript_eq_map, arranged]
  cases g.order p.cells.domain <;> rfl

variable {s : Sheet} {p : Program}

theorem mem_cells_of_reaches (hp : ofSheet s = .ok p) {g : Graph String}
    (hg : p.graph.breakCycles .added = .ok g) {u v : String} (hu : u ∈ p.cells)
    (path : g.Reaches u v) : v ∈ p.cells := by
  induction path with
  | refl => exact hu
  | tail _ a _ => exact (mem_cells_of_arrow hp (Graph.arrow_of_arrow_breakCycles hg a)).2

theorem perm_of_order_eq_ok (hp : ofSheet s = .ok p) {g : Graph String}
    (hg : p.graph.breakCycles .added = .ok g) {names : List String}
    (h : g.order p.cells.domain = .ok names) : names.Perm p.cells.keys := by
  refine (List.perm_ext_iff_of_nodup (Graph.settled_of_order_eq_ok h).nodup
    p.cells.nodup_keys).2 fun name => ?_
  rw [Graph.mem_of_order_eq_ok h]
  constructor
  · rintro ⟨c, hc, path⟩
    exact mem_cells_of_reaches hp hg hc path
  · exact fun mem => ⟨name, mem, .refl⟩

theorem exists_order_eq_error_iff (hp : ofSheet s = .ok p) {g : Graph String}
    (hg : p.graph.breakCycles .added = .ok g) :
    (∃ cell, g.order p.cells.domain = .error cell) ↔ ¬ g.Acyclic := by
  rw [Graph.exists_order_eq_error_iff]
  constructor
  · rintro ⟨c, _, cycle⟩ acyclic
    exact acyclic.not_reachesCycle c cycle
  · intro cyclic
    obtain ⟨v, cycle⟩ := not_forall_not.1 cyclic
    obtain ⟨w, a, _⟩ := TransGen.head'_iff.1 cycle
    exact ⟨v, (mem_cells_of_arrow hp (Graph.arrow_of_arrow_breakCycles hg a)).1, v, .refl, cycle⟩

theorem sheet_toScript_eq (hp : ofSheet s = .ok p) : s.toScript = p.toScript := by
  rw [Sheet.toScript, hp]
  rfl

theorem toScript_of_arrange (hp : ofSheet s = .ok p) {names : Except Error (List String)}
    (arranged : p.arrange = names) :
    s.toScript = names.map fun names => ⟨listing (p.entriesOf names), p.formulas⟩ := by
  rw [sheet_toScript_eq hp, toScript_eq_map, arranged]

theorem exists_order_of_toScript (hp : ofSheet s = .ok p) {g : Graph String}
    (hg : p.graph.breakCycles .added = .ok g) {script : Script} (h : s.toScript = .ok script) :
    ∃ names, g.order p.cells.domain = .ok names ∧
      script = ⟨listing (p.entriesOf names), p.formulas⟩ := by
  rw [sheet_toScript_eq hp, toScript_eq hg] at h
  cases ordered : g.order p.cells.domain with
  | error cell =>
    rw [ordered] at h
    cases h
  | ok names =>
    rw [ordered] at h
    cases h
    exact ⟨names, rfl, rfl⟩

theorem formulas_of_toScript (hp : ofSheet s = .ok p) {script : Script}
    (h : s.toScript = .ok script) : script.formulas = p.formulas := by
  obtain ⟨g, hg, _⟩ := p.graph.exists_breakCycles_added
  obtain ⟨_, _, rfl⟩ := exists_order_of_toScript hp hg h
  rfl

theorem exists_listing_of_breakCycles (hp : ofSheet s = .ok p) {g : Graph String}
    (hg : p.graph.breakCycles .added = .ok g) {script : Script} (h : s.toScript = .ok script) :
    ∃ entries, entries.Perm p.cells.entries ∧ script.text = listing entries ∧
      ∀ u v, TransGen g.Arrow u v → [v, u].Sublist (entries.map (·.1)) := by
  obtain ⟨names, ordered, rfl⟩ := exists_order_of_toScript hp hg h
  have perm := perm_of_order_eq_ok hp hg ordered
  refine ⟨p.entriesOf names, ?_, rfl, fun u v path => ?_⟩
  · rw [← p.entriesOf_keys]
    exact perm.filterMap _
  · rw [map_fst_entriesOf fun name mem => perm.subset mem]
    obtain ⟨w, a, _⟩ := TransGen.head'_iff.1 path
    have known := (mem_cells_of_arrow hp (Graph.arrow_of_arrow_breakCycles hg a)).1
    exact (Graph.settled_of_order_eq_ok ordered).sublist (perm.mem_iff.2 known) path

theorem exists_lines_of_breakCycles (hp : ofSheet s = .ok p) {g : Graph String}
    (hg : p.graph.breakCycles .added = .ok g) {script : Script} (h : s.toScript = .ok script) :
    ∃ lines : List (String × String), lines.Perm p.lines ∧
      script.text = "\n".intercalate (lines.map (·.2)) ∧
      ∀ u v, TransGen g.Arrow u v → [v, u].Sublist (lines.map (·.1)) := by
  obtain ⟨entries, perm, text, ordered⟩ := exists_listing_of_breakCycles hp hg h
  refine ⟨entries.map fun e => (e.1, declare e.1 e.2), perm.map _, ?_, ?_⟩
  · rw [text, listing, List.map_map]
    rfl
  · rw [List.map_map]
    exact ordered

theorem exists_listing (hp : ofSheet s = .ok p) {script : Script} (h : s.toScript = .ok script) :
    ∃ entries, entries.Perm p.cells.entries ∧ script.text = listing entries ∧
      (p.graph.Acyclic → ∀ u v, TransGen p.graph.Arrow u v →
        [v, u].Sublist (entries.map (·.1))) := by
  obtain ⟨g, hg, _⟩ := p.graph.exists_breakCycles_added
  obtain ⟨entries, perm, text, ordered⟩ := exists_listing_of_breakCycles hp hg h
  refine ⟨entries, perm, text, fun acyclic u v path => ordered u v ?_⟩
  rwa [acyclic.arrow_breakCycles hg]

theorem exists_toScript_of_acyclic (hp : ofSheet s = .ok p) (acyclic : p.graph.Acyclic) :
    ∃ script, s.toScript = .ok script := by
  obtain ⟨g, hg, _⟩ := p.graph.exists_breakCycles_added
  rw [sheet_toScript_eq hp, toScript_eq hg]
  cases ordered : g.order p.cells.domain with
  | ok names => exact ⟨_, rfl⟩
  | error cell =>
    have cyclic := (exists_order_eq_error_iff hp hg).1 ⟨cell, ordered⟩
    rw [Graph.Acyclic, acyclic.arrow_breakCycles hg] at cyclic
    exact absurd acyclic cyclic

end Program

/-- After cycles are broken one is left exactly when arrows that the search never follows form a
cycle, and only then a sheet has no script. -/
theorem cycle_left_iff_unfollowed {V : Type u} [DecidableEq V] (g : Graph V) (s : Sheet) :
    (∃ h, g.breakCycles .added = .ok h ∧ (h.Acyclic ↔ ∀ v, ¬ TransGen g.Unfollowed v v)) ∧
    ∀ p, Program.ofSheet s = .ok p →
      ((∃ cell, s.toScript = .error (.cycle cell)) ↔
        ∃ v, TransGen p.graph.Unfollowed v v) := by
  refine ⟨g.exists_breakCycles_added, fun p hp => ?_⟩
  obtain ⟨h, hh, acyclic⟩ := p.graph.exists_breakCycles_added
  have failure : (∃ cell, s.toScript = .error (.cycle cell)) ↔
      ∃ cell, h.order p.cells.domain = .error cell := by
    rw [Program.sheet_toScript_eq hp, Program.toScript_eq hh]
    cases h.order p.cells.domain <;> simp
  rw [failure, Program.exists_order_eq_error_iff hp hh, acyclic]
  simp

theorem cycle_left_of_two_self_references :
    (∃ h, (Graph.ofRows [("A1", ["A1", "B1"]), ("B1", ["B1", "A1"])]).breakCycles .added = .ok h ∧
      ¬ h.Acyclic) ∧
    (⟨[[.text "=A1+B1", .text "=B1+A1"]]⟩ : Sheet).toScript = .error (.cycle "A1") := by
  let p : Program := .ofDeclarations [⟨"A1", "A1+B1", some "=A1+B1", ["A1", "B1"]⟩,
    ⟨"B1", "B1+A1", some "=B1+A1", ["B1", "A1"]⟩]
  have hp : Program.ofSheet ⟨[[.text "=A1+B1", .text "=B1+A1"]]⟩ = .ok p := by
    with_unfolding_all rfl
  have arranged : p.arrange = .error (.cycle "A1") := by cbv
  refine ⟨⟨Graph.ofRows [("A1", ["B1"]), ("B1", ["A1"])], by cbv, fun acyclic => ?_⟩,
    Program.toScript_of_arrange hp arranged⟩
  have there : Graph.Arrow (Graph.ofRows [("A1", ["B1"]), ("B1", ["A1"])]) "A1" "B1" := by decide
  have back : Graph.Arrow (Graph.ofRows [("A1", ["B1"]), ("B1", ["A1"])]) "B1" "A1" := by decide
  exact acyclic "A1" (.tail (.single there) back)

theorem unfollowed_cycle_of_two_self_references :
    let p : Program := .ofDeclarations [⟨"A1", "A1+B1", some "=A1+B1", ["A1", "B1"]⟩,
      ⟨"B1", "B1+A1", some "=B1+A1", ["B1", "A1"]⟩]
    Program.ofSheet ⟨[[.text "=A1+B1", .text "=B1+A1"]]⟩ = .ok p ∧
      ∃ v, TransGen p.graph.Unfollowed v v := by
  intro p
  have hp : Program.ofSheet ⟨[[.text "=A1+B1", .text "=B1+A1"]]⟩ = .ok p := by
    with_unfolding_all rfl
  have arranged : p.arrange = .error (.cycle "A1") := by cbv
  exact ⟨hp, ((cycle_left_iff_unfollowed p.graph _).2 p hp).1
    ⟨"A1", Program.toScript_of_arrange hp arranged⟩⟩

end SheetScript
