import SheetScript.Proofs.Graph.Exposed
import SheetScript.Proofs.Script

universe u

namespace SheetScript

open Relation

/-- A reference on no cycle is kept, and its target declared first, unless the search leaves the
target open. That happens only to a target from which a cycle is reached, and for each such target
in some order of rows and references. -/
theorem acyclic_reference_kept_iff (s : Sheet) (p : Program) (hp : Program.ofSheet s = .ok p)
    (script : Script) (h : s.toScript = .ok script) :
    (∃ (lines : List (String × String)) (kept : Graph String), lines.Perm p.lines ∧
      script.text = "\n".intercalate (lines.map (·.2)) ∧
      (∀ line ∈ lines, ∃ expression, p.cells.find? line.1 = some expression ∧
        line.2 = "var " ++ line.1 ++ " = " ++ expression ++ ";") ∧
      p.graph.breakCycles .added = .ok kept ∧
      ∀ u v, p.graph.Arrow u v → ¬ p.graph.Reaches v u →
        (kept.Arrow u v ↔ ¬ p.graph.StaysOpen v ∨ p.graph.Unfollowed u v) ∧
        (kept.Arrow u v → [v, u].Sublist (lines.map (·.1))) ∧
        (¬ p.graph.ReachesCycle v → [v, u].Sublist (lines.map (·.1)))) ∧
    ∀ (V : Type u) [DecidableEq V] (g : Graph V) (u v : V), g.Arrow u v → ¬ g.Reaches v u →
      (¬ g.ReachesCycle v →
        ∀ g' k, g.Reorders g' → g'.breakCycles .added = .ok k → k.Arrow u v) ∧
      (g.ReachesCycle v →
        ∃ g' k, g.Reorders g' ∧ g'.breakCycles .added = .ok k ∧ ∀ z, ¬ k.Arrow z v) := by
  refine ⟨?_, fun V _ g u v a off => ⟨fun clear g' k same hk => ?_, fun cycle => ?_⟩⟩
  · obtain ⟨kept, hk, _⟩ := p.graph.exists_breakCycles_added
    obtain ⟨lines, perm, text, ordered⟩ := Program.exists_lines_of_breakCycles hp hk h
    refine ⟨lines, kept, perm, text, fun line mem => ?_, hk, fun u v a off => ?_⟩
    · exact Program.exists_expression_of_mem_lines (perm.subset mem)
    · have iff := Graph.arrow_breakCycles_iff_of_not_reaches hk a off
      refine ⟨iff, fun a => ordered u v (.single a), fun clear => ordered u v (.single ?_)⟩
      exact iff.2 (.inl fun stays => clear stays.reachesCycle)
  · have iff := Graph.arrow_breakCycles_iff_of_not_reaches hk (same.arrow_eq ▸ a)
      (same.reaches_eq ▸ off)
    exact iff.2 (.inl fun stays => clear (same.reachesCycle_eq ▸ stays.reachesCycle))
  · exact cycle.exists_reorders_not_arrow

theorem reference_kept_beside_self_reference :
    let s : Sheet := ⟨[[.text "=B1+C1", .text "=B1", .text "=D1"]]⟩
    let p : Program := .ofDeclarations [⟨"A1", "B1+C1", some "=B1+C1", ["B1", "C1"]⟩,
      ⟨"B1", "B1", some "=B1", ["B1"]⟩, ⟨"C1", "D1", some "=D1", ["D1"]⟩]
    let script : Script := ⟨"var D1 = 0;\nvar C1 = D1;\nvar A1 = B1+C1;\nvar B1 = B1;",
      .ofList [("A1", "=B1+C1"), ("B1", "=B1"), ("C1", "=D1")]⟩
    Program.ofSheet s = .ok p ∧ p.graph.ReachesCycle "A1" ∧ p.graph.Arrow "A1" "C1" ∧
      s.toScript = .ok script ∧ ∃ lines : List (String × String),
        lines.Perm p.lines ∧ script.text = "\n".intercalate (lines.map (·.2)) ∧
        (∀ line ∈ lines, ∃ expression, p.cells.find? line.1 = some expression ∧
          line.2 = "var " ++ line.1 ++ " = " ++ expression ++ ";") ∧
        ["C1", "A1"].Sublist (lines.map (·.1)) := by
  intro s p script
  have hp : Program.ofSheet s = .ok p := by with_unfolding_all rfl
  have arranged : p.arrange = .ok ["D1", "C1", "A1", "B1"] := by cbv
  have h : s.toScript = .ok script :=
    (Program.toScript_of_arrange hp arranged).trans (by with_unfolding_all rfl)
  have toB : p.graph.Arrow "A1" "B1" := by decide +kernel
  have toC : p.graph.Arrow "A1" "C1" := by decide +kernel
  have loop : p.graph.Arrow "B1" "B1" := by decide +kernel
  have settled : p.graph.Settled ([] ++ ["D1"] ++ ["C1"]) :=
    (Graph.Settled.nil.snoc (by simp) (by decide +kernel)).snoc (by decide) (by decide +kernel)
  have clear : ¬ p.graph.ReachesCycle "C1" := settled.not_reachesCycle (by simp)
  have off : ¬ p.graph.Reaches "C1" "A1" := fun back =>
    clear ⟨"C1", .refl, .trans_right back (.single toC)⟩
  obtain ⟨⟨lines, kept, perm, joined, declared, _, all⟩, _⟩ :=
    acyclic_reference_kept_iff.{0} s p hp _ h
  exact ⟨hp, ⟨"B1", .single toB, .single loop⟩, toC, h, lines, perm, joined, declared,
    (all _ _ toC off).2.2 clear⟩

theorem self_reference_declared_late :
    let s : Sheet := ⟨[[.text "=B1", .text "=B1"]]⟩
    let p : Program := .ofDeclarations [⟨"A1", "B1", some "=B1", ["B1"]⟩,
      ⟨"B1", "B1", some "=B1", ["B1"]⟩]
    Program.ofSheet s = .ok p ∧ p.graph.Arrow "A1" "B1" ∧ ¬ p.graph.Reaches "B1" "A1" ∧
      s.toScript = .ok ⟨"var A1 = B1;\nvar B1 = B1;", .ofList [("A1", "=B1"), ("B1", "=B1")]⟩ := by
  intro s p
  have row : p.graph.next "B1" = ["B1"] := by decide +kernel
  have stays {v : String} (path : p.graph.Reaches "B1" v) : v = "B1" := by
    induction path with
    | refl => rfl
    | tail _ a ih =>
      rw [ih, Graph.Arrow, row] at a
      exact List.mem_singleton.1 a
  have hp : Program.ofSheet s = .ok p := by with_unfolding_all rfl
  have arranged : p.arrange = .ok ["A1", "B1"] := by cbv
  exact ⟨hp, by decide +kernel, fun path => absurd (stays path) (by decide),
    (Program.toScript_of_arrange hp arranged).trans (by with_unfolding_all rfl)⟩

end SheetScript
