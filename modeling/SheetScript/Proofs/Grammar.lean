import SheetScript.Proofs.Formula.Compile
import SheetScript.Proofs.Formula.Expr
import SheetScript.Proofs.Formula.References
import SheetScript.Proofs.Users

namespace SheetScript

namespace Formula

inductive Kind where
  | formula (digit : Bool)
  | arguments

/-- The phrases of the grammar. No argument behind a comma begins with a digit, which would be read
as a part of a decimal number. -/
inductive Phrase : Kind → Type
  | number (n : Numeral) : Phrase (.formula true)
  | cell (r : Reference) : Phrase (.formula false)
  | sum (r : Range) : Phrase (.formula false)
  | signed (s : Sign) {b : Bool} (e : Phrase (.formula b)) : Phrase (.formula false)
  | binary (o : Operator) {b b' : Bool} (e : Phrase (.formula b)) (e' : Phrase (.formula b')) :
      Phrase (.formula b)
  | group {b : Bool} (e : Phrase (.formula b)) : Phrase (.formula false)
  | call (f : Extreme) (a : Phrase .arguments) : Phrase (.formula false)
  | first {b : Bool} (e : Phrase (.formula b)) : Phrase .arguments
  | next (a : Phrase .arguments) (e : Phrase (.formula false)) : Phrase .arguments

structure Spelling where
  cell : Reference → List Char
  sum : Range → List Char
  call : Extreme → List Char

namespace Spelling

def sheet : Spelling := ⟨Reference.text, Range.text, Extreme.text⟩

def script : Spelling :=
  ⟨Reference.name, fun r => ['+'].intercalate (r.cells.map Reference.name), Extreme.method⟩

def token (w : Spelling) : Token → List Char
  | .cell r => w.cell r
  | .sum r => w.sum r
  | .call f => w.call f
  | t => t.text

theorem token_sheet : sheet.token = Token.text := by
  funext t
  cases t <;> rfl

theorem token_script : script.token = Token.compiled := by
  funext t
  cases t with
  | sum r =>
    simp only [token, script, Range.cells, List.map_cons, intercalate_cons, Token.compiled,
      Token.spelled]
    simp [List.flatMap_map]
  | _ => rfl

end Spelling

namespace Phrase

def write (w : Spelling) {k : Kind} : Phrase k → List Char
  | number n => n.text
  | cell r => w.cell r
  | sum r => w.sum r
  | signed s e => s.operator.char :: e.write w
  | binary o e e' => e.write w ++ o.char :: e'.write w
  | group e => '(' :: (e.write w ++ [')'])
  | call f a => w.call f ++ (a.write w ++ [')'])
  | first e => e.write w
  | next a e => a.write w ++ ',' :: e.write w

def references {k : Kind} : Phrase k → List Reference
  | number _ => []
  | cell r => [r]
  | sum r => [.short r.first r.row, .short r.last r.row]
  | signed _ e | group e | first e => e.references
  | binary _ e e' => e.references ++ e'.references
  | call _ a => a.references
  | next a e => a.references ++ e.references

def tokens {k : Kind} : Phrase k → List Token
  | number n => [.number n]
  | cell r => [.cell r]
  | sum r => [.sum r]
  | signed s e => .operator s.operator :: e.tokens
  | binary o e e' => e.tokens ++ .operator o :: e'.tokens
  | group e => .opening :: (e.tokens ++ [.closing])
  | call f a => .call f :: (a.tokens ++ [.closing])
  | first e => e.tokens
  | next a e => a.tokens ++ .comma :: e.tokens

theorem flatMap_token (w : Spelling) {k : Kind} (e : Phrase k) :
    e.tokens.flatMap w.token = e.write w := by
  induction e <;> simp [tokens, write, Spelling.token, Token.text, *]

theorem flatMap_names {k : Kind} (e : Phrase k) :
    e.tokens.flatMap Token.names = e.references.map Reference.name := by
  induction e <;> simp [tokens, references, Token.names, *]

theorem exists_tokens_eq_cons {k : Kind} (e : Phrase k) {b : Bool} (h : k = .formula b) :
    ∃ t ts, e.tokens = t :: ts ∧ t.isNumber = b := by
  induction e with
  | binary o e e' ih _ =>
    obtain ⟨t, ts, tokens, number⟩ := ih h
    exact ⟨t, _, by rw [Phrase.tokens, tokens, List.cons_append], number⟩
  | first _ _ | next _ _ _ _ => cases h
  | _ =>
    cases h
    exact ⟨_, _, rfl, rfl⟩

theorem isChain_tokens {k : Kind} (e : Phrase k) : e.tokens.IsChain Token.Apart := by
  induction e with
  | number _ | cell _ | sum _ => exact .singleton _
  | signed s e ih => exact Expr.isChain_append_sign (t := .operator s.operator) rfl .nil ih
  | binary o e e' ih ih' => exact Expr.isChain_append_sign rfl ih ih'
  | group e ih =>
    exact Expr.isChain_append_sign (t := .opening) rfl .nil
      (Expr.isChain_append_sign (t := .closing) rfl ih .nil)
  | call f a ih =>
    exact List.isChain_cons.2 ⟨fun _ _ => trivial,
      Expr.isChain_append_sign (t := .closing) rfl ih .nil⟩
  | first e ih => exact ih
  | next a e iha ihe =>
    obtain ⟨t, ts, tokens, number⟩ := e.exists_tokens_eq_cons rfl
    have behind : (.comma :: e.tokens : List Token).IsChain Token.Apart := by
      rw [tokens] at ihe ⊢
      exact .cons_cons number ihe
    refine List.isChain_append.2 ⟨iha, behind, ?_⟩
    rintro u _ _ ⟨⟩
    cases u <;> trivial

theorem write_sheet {k : Kind} (e : Phrase k) : e.write .sheet = render e.tokens := by
  rw [← e.flatMap_token, Spelling.token_sheet, render]

theorem isDecimal_head_write {b : Bool} (e : Phrase (.formula b)) :
    ∃ c cs, e.write .sheet = c :: cs ∧ Text.isDecimal c = b := by
  obtain ⟨t, ts, tokens, number⟩ := e.exists_tokens_eq_cons rfl
  obtain ⟨c, cs, text, decimal⟩ := t.exists_text_eq_cons
  refine ⟨c, cs ++ render ts, ?_, decimal.trans number⟩
  rw [write_sheet, tokens, render, List.flatMap_cons, text, List.cons_append, render]

theorem compileChars_write {k : Kind} (e : Phrase k) :
    compileChars (e.write .sheet) = .ok (e.write .script) := by
  rw [write_sheet, compileChars_render e.isChain_tokens, ← Spelling.token_script, flatMap_token]

theorem references_write {k : Kind} (e : Phrase k) :
    Formula.references (e.write .sheet) = e.references.map fun r => String.ofList r.name := by
  rw [write_sheet, references_render e.isChain_tokens, flatMap_names, List.map_map]
  rfl

end Phrase

end Formula

open Formula

theorem Position.declaration?_write {b : Bool} (e : Phrase (.formula b)) {q : Position}
    {name : String} (named : q.name = .ok name)
    (value : q.value = .text ("=" ++ String.ofList (e.write .sheet))) :
    q.declaration? = .ok (some ⟨name, String.ofList (e.write .script),
      some ("=" ++ String.ofList (e.write .sheet)),
      e.references.map fun r => String.ofList r.name⟩) := by
  simp [declaration?, named, value, Value.literal?, e.compileChars_write, e.references_write, bind,
    Except.bind, pure, Except.pure]

/-- A formula of the grammar is compiled to the same phrase in the spelling of scripts, and a cell
that holds it refers to exactly the cells that are written in it. -/
theorem phrase_compiled_to_script_spelling {b : Bool} (e : Phrase (.formula b)) :
    (∃ c cs, e.write .sheet = c :: cs ∧ Text.isDecimal c = b) ∧
    compile (String.ofList (e.write .sheet)) = .ok (String.ofList (e.write .script)) ∧
    ∀ (q : Position) (name : String), q.name = .ok name →
      q.value = .text ("=" ++ String.ofList (e.write .sheet)) →
      (∃ d, q.declaration? = .ok (some d) ∧ d.expression = String.ofList (e.write .script)) ∧
      ∀ (s : Sheet) (p : Program), Program.ofSheet s = .ok p → q ∈ s.positions → ∀ cell,
        p.graph.Arrow name cell ↔ ∃ r ∈ e.references, cell = String.ofList r.name := by
  refine ⟨e.isDecimal_head_write, ?_, fun q name named value =>
    ⟨⟨_, Position.declaration?_write e named value, rfl⟩, fun s p hp mem cell => ?_⟩⟩
  · rw [compile, String.toList_ofList, e.compileChars_write]
    rfl
  · have refers : q.RefersTo cell ↔ ∃ r ∈ e.references, cell = String.ofList r.name := by
      have declares : q.Declares _ :=
        Position.declaration?_spec (Position.declaration?_write e named value)
      rw [declares.refersTo_iff, List.mem_map]
      simp only [eq_comm]
    rw [Program.arrow_iff hp, ← refers]
    constructor
    · rintro ⟨q', mem', named', refers'⟩
      rwa [Sheet.position_eq mem mem' named named']
    · exact fun refers => ⟨q, mem, named, refers⟩

theorem script_spelling_of_nested_calls :
    let e : Phrase (.formula false) := .call .greatest (.next (.next
      (.first (.binary .times (.sum ⟨0, 2, ⟨[2], by decide⟩, by decide⟩)
        (.number ⟨[2], by decide⟩)))
      (.call .least (.next
        (.first (.binary .plus (.number ⟨[1], by decide⟩)
          (.cell ⟨true, [1], true, ⟨[1], by decide⟩, by decide, by decide⟩)))
        (.binary .divide (.group (.binary .minus
          (.cell ⟨false, [0, 1], false, ⟨[1, 2], by decide⟩, by decide, by decide⟩)
          (.number ⟨[3], by decide⟩))) (.number ⟨[4], by decide⟩)))))
      (.signed .minus (.cell ⟨false, [3], true, ⟨[7], by decide⟩, by decide, by decide⟩)))
    let s : Sheet := ⟨[[.text "=MAX(SUM(A2:C2)*2,MIN(1+$B$1,(AB12-3)/4),-D$7)"]]⟩
    String.ofList (e.write .sheet) = "MAX(SUM(A2:C2)*2,MIN(1+$B$1,(AB12-3)/4),-D$7)" ∧
      compile "MAX(SUM(A2:C2)*2,MIN(1+$B$1,(AB12-3)/4),-D$7)" =
        .ok "Math.max(A2+B2+C2*2,Math.min(1+B1,(AB12-3)/4),-D7)" ∧
      ∃ p, Program.ofSheet s = .ok p ∧
        ∀ cell, p.graph.Arrow "A1" cell ↔ cell ∈ ["A2", "C2", "B1", "AB12", "D7"] := by
  intro e s
  have text : String.ofList (e.write .sheet) =
      "MAX(SUM(A2:C2)*2,MIN(1+$B$1,(AB12-3)/4),-D$7)" := by decide +kernel
  have script : String.ofList (e.write .script) =
      "Math.max(A2+B2+C2*2,Math.min(1+B1,(AB12-3)/4),-D7)" := by decide +kernel
  have names : e.references.map (fun r => String.ofList r.name) =
      ["A2", "C2", "B1", "AB12", "D7"] := by decide +kernel
  let q : Position := ⟨1, 1, .text "=MAX(SUM(A2:C2)*2,MIN(1+$B$1,(AB12-3)/4),-D$7)"⟩
  have positions : s.positions = [q] := rfl
  have value : q.value = .text ("=" ++ String.ofList (e.write .sheet)) := by
    rw [text]
    rfl
  have named : q.name = .ok "A1" := by decide +kernel
  obtain ⟨_, compiled, extracted⟩ := phrase_compiled_to_script_spelling e
  obtain ⟨⟨d, declared, _⟩, arrows⟩ := extracted q "A1" named value
  have hp : Program.ofSheet s = .ok (.ofDeclarations [d]) := by
    rw [Program.ofSheet, Sheet.declarations, positions, List.mapM_cons, declared]
    rfl
  rw [text, script] at compiled
  refine ⟨text, compiled, _, hp, fun cell => ?_⟩
  rw [arrows s _ hp (by simp [positions]), ← names, List.mem_map]
  simp only [eq_comm]

end SheetScript
