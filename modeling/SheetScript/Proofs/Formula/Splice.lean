import SheetScript.Proofs.Formula.Compile
import SheetScript.Proofs.Formula.Expr

/-!
The script expression of an arithmetic formula. Sums are written out where they stand, without
parentheses, so that the cells of a range become parts of whatever sum or product is around them.
-/

namespace SheetScript.Formula

def Reference.bare (r : Reference) : Reference :=
  { r with columnAnchor := false, rowAnchor := false }

theorem Reference.text_bare (r : Reference) : r.bare.text = r.name := rfl

namespace Operand

def pieces : Operand → Operand × List Operand
  | number negative n => (number negative n, [])
  | cell r => (cell r.bare, [])
  | range r => (cell (.short r.first r.row), r.later.map fun c => cell (.short c r.row))

def wide : Operand → Bool
  | range r => r.first ≠ r.last
  | _ => false

theorem flatMap_compiled_tokens (o : Operand) :
    o.tokens.flatMap Token.compiled = render (Expr.written o.pieces) := by
  cases o with
  | number negative n =>
    cases negative <;> simp [tokens, pieces, Expr.written, render, Token.compiled, Token.spelled]
  | cell r =>
    simp [tokens, pieces, Expr.written, render, Token.compiled, Token.text, Reference.text_bare]
  | range r =>
    have cells (c : Fin 26) : (Reference.short c r.row).text = (Reference.short c r.row).name := rfl
    simp [tokens, pieces, Expr.written, render, Token.compiled, Token.spelled, Token.text, cells,
      List.flatMap_map, List.flatMap_assoc, Operator.char]

end Operand

namespace Expr

def spliced (e : Expr Operand .sum) : Expr Operand .sum := (e.splice Operand.pieces .empty).close

theorem flatMap_compiled_tokens {l : Level} (e : Expr Operand l) :
    (e.tokens Operand.tokens).flatMap Token.compiled =
      render (e.tokens (written ∘ Operand.pieces)) := by
  induction e with
  | operand o => exact o.flatMap_compiled_tokens
  | group e ih => simp [tokens, ih, render, Token.compiled, Token.spelled]
  | factor e ih => exact ih
  | scale o e a ihe iha => simp [tokens, ihe, iha, render, Token.compiled, Token.spelled]
  | term e ih => exact ih
  | add s e q ihe ihq => simp [tokens, ihe, ihq, render, Token.compiled, Token.spelled]

theorem compileChars_text (e : Expr Operand .sum) :
    compileChars e.text.toList = .ok (render (e.tokens (written ∘ Operand.pieces))) := by
  rw [text, String.toList_ofList, compileChars_render (e.isChain_tokens isChain_operand),
    flatMap_compiled_tokens]

theorem compile_text (e : Expr Operand .sum) :
    ∃ out, compile e.text = .ok out ∧ read? out = some e.spliced := by
  refine ⟨String.ofList (render (e.tokens (written ∘ Operand.pieces))), ?_, read?_splice _ e⟩
  rw [compile, compileChars_text]
  rfl

end Expr

end SheetScript.Formula
