import SheetScript.Proofs.Mentions
import SheetScript.Proofs.Script

/-!
When a script declares all that it mentions. Cells inside a range are mentioned without being
referred to, so nothing makes a script declare them, or declare them in time.
-/

namespace SheetScript

open Formula Relation

namespace Sheet

def Arithmetic (s : Sheet) : Prop :=
  ∀ q ∈ s.positions, ∀ cs, q.value.formula? = some cs →
    ∃ e : Expr Operand .sum, cs = e.text.toList

theorem arithmetic_iff {s : Sheet} : s.Arithmetic ↔
    ∀ q ∈ s.positions, ∀ cs ∈ q.value.formula?,
      (Expr.read? (String.ofList cs)).any (fun e => e.text.toList = cs) = true := by
  refine forall₂_congr fun q _ => forall₂_congr fun cs _ => ?_
  constructor
  · rintro ⟨e, rfl⟩
    rw [String.ofList_toList, Expr.read?_text]
    simp
  · intro read
    obtain ⟨e, _, text⟩ := (Option.any_eq_true _ _).1 read
    exact ⟨e, (of_decide_eq_true text).symm⟩

instance (s : Sheet) : Decidable s.Arithmetic := decidable_of_iff _ arithmetic_iff.symm

/-- The formula of `name` has `x` inside one of its ranges. -/
def Spans (s : Sheet) (name x : String) : Prop :=
  ∃ q ∈ s.positions, q.name = .ok name ∧
    ∃ e : Expr Operand .sum, q.value.formula? = some e.text.toList ∧ x.toList ∈ e.inner

theorem Spans.defines {s : Sheet} {name x : String} (h : s.Spans name x) : s.Defines name := by
  obtain ⟨q, hq, named, e, formula, _⟩ := h
  exact ⟨q, hq, named, .inr (by simp [formula])⟩

end Sheet

namespace Position

variable {s : Sheet} {q : Position} {d : Declaration} {x : String}

theorem Declares.spans_iff (h : q.Declares d) (hq : q ∈ s.positions) : s.Spans d.name x ↔
    ∃ e : Expr Operand .sum, q.value.formula? = some e.text.toList ∧ x.toList ∈ e.inner := by
  constructor
  · rintro ⟨q', hq', named, inside⟩
    rwa [Sheet.position_eq hq hq' h.name_eq named]
  · exact fun inside => ⟨q, hq, h.name_eq, inside⟩

theorem Declares.mentions_iff (hs : s.Arithmetic) (h : q.Declares d) (hq : q ∈ s.positions) :
    Mentions d.expression x ↔ x ∈ d.references ∨ s.Spans d.name x := by
  rw [h.spans_iff hq]
  cases h with
  | number named literal =>
    rw [Mentions, Value.cellNames_literal literal]
    cases value : q.value <;> simp_all [Value.literal?, Value.formula?]
  | @formula name text cs expression named value behind compiled =>
    have formula : q.value.formula? = some cs := by simp [value, Value.formula?, behind]
    obtain ⟨e, rfl⟩ := hs q hq cs formula
    have inside : (∃ e' : Expr Operand .sum, q.value.formula? = some e'.text.toList ∧
        x.toList ∈ e'.inner) ↔ x.toList ∈ e.inner := by
      rw [formula]
      constructor
      · rintro ⟨e', same, mem⟩
        rwa [Expr.text_injective (String.toList_injective (Option.some.inj same))]
      · exact fun mem => ⟨e, rfl, mem⟩
    rw [inside]
    exact Expr.mentions_iff compiled

end Position

namespace Program

variable {s : Sheet} {p : Program}

theorem mentions_iff (hs : s.Arithmetic) (hp : ofSheet s = .ok p) {name expression x : String}
    (mem : (name, expression) ∈ p.cells.entries) :
    Mentions expression x ↔ p.graph.Arrow name x ∨ s.Spans name x := by
  obtain ⟨ds, hd, rfl⟩ := exists_declarations hp
  have arrow : (ofDeclarations ds).graph.Arrow name x ↔
      ∃ d ∈ ds, d.name = name ∧ x ∈ d.references := arrow_graphOf
  rw [arrow]
  rcases (mem_entries_iff hd).1 mem with ⟨d, here, rfl, rfl⟩ | ⟨_, undefined, rfl⟩
  · obtain ⟨q, hq, declares⟩ := Sheet.exists_declares_of_mem hd here
    have references : (∃ d' ∈ ds, d'.name = d.name ∧ x ∈ d'.references) ↔ x ∈ d.references := by
      constructor
      · rintro ⟨d', there, same, mem⟩
        rwa [Sheet.declaration_eq hd here there same.symm]
      · exact fun mem => ⟨d, here, rfl, mem⟩
    rw [references, declares.mentions_iff hs hq]
  · have absent : ¬ ∃ d ∈ ds, d.name = name ∧ x ∈ d.references := by
      rintro ⟨d, there, rfl, _⟩
      exact undefined ((Sheet.defines_iff hd).2 (List.mem_map.2 ⟨d, there, rfl⟩))
    have unspanned : ¬ s.Spans name x := fun spans => undefined spans.defines
    have zero : ¬ Mentions "0" x := by
      rw [Mentions, cellNames_eq_nil (by decide)]
      exact List.not_mem_nil
    exact iff_of_false zero (not_or.2 ⟨absent, unspanned⟩)

end Program

/-- A script of arithmetic formulas declares all that it mentions exactly when it declares the cells
inside ranges: those that are numbers or formulas, or that some formula refers to. If no references
are circular, everything is declared before it is mentioned but for the cells inside ranges that the
formula does not lead to. -/
theorem script_closed_iff_inner_declared (s : Sheet) (p : Program) (hs : s.Arithmetic)
    (hp : Program.ofSheet s = .ok p) (script : Script) (h : s.toScript = .ok script) :
    ∃ lines : List (String × String), lines.Perm p.cells.entries ∧
      script.text = "\n".intercalate
        (lines.map fun l => "var " ++ l.1 ++ " = " ++ l.2 ++ ";") ∧
      (lines.map (·.1)).Nodup ∧
      ((∀ l ∈ lines, ∀ x, Mentions l.2 x → x ∈ lines.map (·.1)) ↔
        ∀ name x, s.Spans name x → s.Defines x ∨ s.RefersTo x) ∧
      (p.graph.Acyclic →
        ((∀ l ∈ lines, ∀ x, Mentions l.2 x → [x, l.1].Sublist (lines.map (·.1))) ↔
          ∀ name x, s.Spans name x → ¬ TransGen p.graph.Arrow name x →
            [x, name].Sublist (lines.map (·.1)))) := by
  obtain ⟨lines, perm, text, ordered⟩ := Program.exists_listing hp h
  have keys : (lines.map (·.1)).Perm p.cells.keys := perm.map _
  have declared (x : String) : x ∈ lines.map (·.1) ↔ s.Defines x ∨ s.RefersTo x := by
    rw [keys.mem_iff, OrderedMap.mem_keys, Program.mem_cells_iff hp]
  have mentions {l : String × String} (hl : l ∈ lines) (x : String) :
      Mentions l.2 x ↔ p.graph.Arrow l.1 x ∨ s.Spans l.1 x :=
    Program.mentions_iff hs hp (perm.subset hl)
  have line {name x : String} (spans : s.Spans name x) : ∃ l ∈ lines, l.1 = name :=
    List.mem_map.1 ((declared name).2 (.inl spans.defines))
  refine ⟨lines, perm, text, keys.nodup_iff.2 p.cells.nodup_keys, ?_, fun acyclic => ?_⟩
  · constructor
    · intro closed name x spans
      obtain ⟨l, hl, rfl⟩ := line spans
      exact (declared x).1 (closed l hl x ((mentions hl x).2 (.inr spans)))
    · intro inner l hl x mentioned
      rcases (mentions hl x).1 mentioned with arrow | spans
      · exact keys.mem_iff.2 (Program.mem_cells_of_arrow hp arrow).2
      · exact (declared x).2 (inner l.1 x spans)
  · constructor
    · intro closed name x spans _
      obtain ⟨l, hl, rfl⟩ := line spans
      exact closed l hl x ((mentions hl x).2 (.inr spans))
    · intro inner l hl x mentioned
      by_cases path : TransGen p.graph.Arrow l.1 x
      · exact ordered acyclic l.1 x path
      · rcases (mentions hl x).1 mentioned with arrow | spans
        · exact absurd (.single arrow) path
        · exact inner l.1 x spans path

theorem script_closed_of_inner_reference :
    let s : Sheet := ⟨[[.whole 1, .blank, .whole 2, .text "=SUM(A1:C1)*B1"]]⟩
    let p : Program := .ofDeclarations [⟨"A1", "1", none, []⟩, ⟨"C1", "2", none, []⟩,
      ⟨"D1", "A1+B1+C1*B1", some "=SUM(A1:C1)*B1", ["A1", "C1", "B1"]⟩]
    s.Arithmetic ∧ Program.ofSheet s = .ok p ∧ s.Spans "D1" "B1" ∧
      ∃ script, ∃ lines : List (String × String), s.toScript = .ok script ∧
        script.text = "\n".intercalate
          (lines.map fun l => "var " ++ l.1 ++ " = " ++ l.2 ++ ";") ∧
        (∀ l ∈ lines, ∀ x, Mentions l.2 x → x ∈ lines.map (·.1)) ∧
        ∀ l ∈ lines, ∀ x, Mentions l.2 x → [x, l.1].Sublist (lines.map (·.1)) := by
  intro s p
  have acyclic : p.graph.Acyclic := by
    rw [Graph.acyclic_iff_order]
    exact ⟨["A1", "C1", "B1", "D1"], by cbv⟩
  have hp : Program.ofSheet s = .ok p := by with_unfolding_all rfl
  have hs : s.Arithmetic := by decide +kernel
  have arrow : p.graph.Arrow "D1" "B1" := by decide +kernel
  have known : "B1" ∈ p.cells := by decide +kernel
  have fourth : Position.name ⟨4, 1, .text "=SUM(A1:C1)*B1"⟩ = .ok "D1" := by decide +kernel
  let e : Expr Operand .sum := .term (.scale .times
    (.factor (.operand (.range ⟨0, 2, ⟨[1], by decide⟩, by decide⟩)))
    (.operand (.cell (.short 1 ⟨[1], by decide⟩))))
  have inner : e.inner = ["B1".toList] := by decide
  have formula : (Value.text "=SUM(A1:C1)*B1").formula? = some e.text.toList := by decide
  have places : s.positions = [⟨1, 1, .whole 1⟩, ⟨2, 1, .blank⟩, ⟨3, 1, .whole 2⟩,
      ⟨4, 1, .text "=SUM(A1:C1)*B1"⟩] := rfl
  have here : s.Spans "D1" "B1" :=
    ⟨⟨4, 1, .text "=SUM(A1:C1)*B1"⟩, by simp [places], fourth, e, formula, by simp [inner]⟩
  have only (name x : String) (spans : s.Spans name x) : name = "D1" ∧ x = "B1" := by
    obtain ⟨q, hq, named, e', formula', mem⟩ := spans
    simp only [places, List.mem_cons, List.not_mem_nil, or_false] at hq
    rcases hq with rfl | rfl | rfl | rfl
    · cases formula'
    · cases formula'
    · cases formula'
    · have same := Option.some.inj (formula.symm.trans formula')
      cases Expr.text_injective (String.toList_injective same)
      rw [inner, List.mem_singleton] at mem
      exact ⟨Except.ok.inj (named.symm.trans fourth), String.toList_injective mem⟩
  obtain ⟨script, h⟩ := Program.exists_toScript_of_acyclic hp acyclic
  obtain ⟨lines, _, text, _, closed, ordered⟩ := script_closed_iff_inner_declared s p hs hp script h
  refine ⟨hs, hp, here, script, lines, h, text, closed.2 ?_, (ordered acyclic).2 ?_⟩
  · intro name x spans
    rw [(only name x spans).2]
    exact (Program.mem_cells_iff hp).1 known
  · intro name x spans path
    obtain ⟨rfl, rfl⟩ := only name x spans
    exact absurd (.single arrow) path

theorem inner_cell_undeclared_or_late :
    let blank : Sheet := ⟨[[.whole 1, .blank, .whole 2, .text "=SUM(A1:C1)"]]⟩
    let late : Sheet := ⟨[[.text "=E1", .whole 1, .whole 2, .whole 3, .text "=SUM(B1:D1)"]]⟩
    (blank.Arithmetic ∧ blank.toScript = .ok ⟨"var A1 = 1;\nvar C1 = 2;\nvar D1 = A1+B1+C1;",
      .ofList [("D1", "=SUM(A1:C1)")]⟩ ∧ Mentions "A1+B1+C1" "B1") ∧
    late.Arithmetic ∧ late.toScript = .ok
      ⟨"var B1 = 1;\nvar D1 = 3;\nvar E1 = B1+C1+D1;\nvar A1 = E1;\nvar C1 = 2;",
        .ofList [("A1", "=E1"), ("E1", "=SUM(B1:D1)")]⟩ ∧ Mentions "B1+C1+D1" "C1" := by
  intro blank late
  let p : Program := .ofDeclarations [⟨"A1", "1", none, []⟩, ⟨"C1", "2", none, []⟩,
    ⟨"D1", "A1+B1+C1", some "=SUM(A1:C1)", ["A1", "C1"]⟩]
  let q : Program := .ofDeclarations [⟨"A1", "E1", some "=E1", ["E1"]⟩, ⟨"B1", "1", none, []⟩,
    ⟨"C1", "2", none, []⟩, ⟨"D1", "3", none, []⟩,
    ⟨"E1", "B1+C1+D1", some "=SUM(B1:D1)", ["B1", "D1"]⟩]
  have hp : Program.ofSheet blank = .ok p := by with_unfolding_all rfl
  have hq : Program.ofSheet late = .ok q := by with_unfolding_all rfl
  have first : p.arrange = .ok ["A1", "C1", "D1"] := by cbv
  have second : q.arrange = .ok ["B1", "D1", "E1", "A1", "C1"] := by cbv
  refine ⟨⟨?_, ?_, ?_⟩, ?_, ?_, ?_⟩
  · decide +kernel
  · exact (Program.toScript_of_arrange hp first).trans (by with_unfolding_all rfl)
  · decide
  · decide +kernel
  · exact (Program.toScript_of_arrange hq second).trans (by with_unfolding_all rfl)
  · decide

end SheetScript
