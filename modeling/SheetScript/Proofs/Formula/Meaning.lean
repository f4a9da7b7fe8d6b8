import Mathlib.Tactic.Linarith
import Mathlib.Tactic.Ring
import SheetScript.Proofs.Formula.Splice

/-!
When a script expression has the value of its formula. The shape of a formula is the formula with
nothing said of an operand but whether it is a sum over more than one cell. A shape is safe if no
such sum is a factor beside others or is subtracted. Formulas of a safe shape keep their value,
whatever the values of the cells and whatever division means; among the formulas of any other shape
there is one that does not.
-/

namespace SheetScript.Formula

namespace Operand

theorem pieces_of_not_wide {o : Operand} (h : o.wide = false) : o.pieces.2 = [] := by
  cases o with
  | number negative n => rfl
  | cell r => rfl
  | range r =>
    have same : r.first = r.last := by simpa [wide] using h
    have none : r.later = [] := by
      rw [Range.later, same]
      exact List.filter_eq_nil_iff.2 fun c _ => by simp
    simp [pieces, none]

theorem value_pieces (ρ : String → ℚ) (o : Operand) :
    o.value ρ = o.pieces.1.value ρ + (o.pieces.2.map (value ρ)).sum := by
  cases o with
  | number negative n => simp [pieces]
  | cell r => simp [pieces, value, Reference.bare, Reference.name]
  | range r => simp [pieces, value, Range.cells, Function.comp_def]

end Operand

namespace Expr

def exposed {l : Level} : Expr Bool l → Bool
  | operand wide => wide
  | factor e => e.exposed
  | _ => false

def safe {l : Level} : Expr Bool l → Bool
  | operand _ => true
  | group e => e.safe
  | factor e => e.safe
  | scale _ e a => e.safe && a.safe && !e.exposed && !a.exposed
  | term e => e.safe
  | add s e p => e.safe && p.safe && !(s = .minus && p.exposed)

section Value

variable {β : Type} (v : β → ℚ) (div : ℚ → ℚ → ℚ)

def sumValue : Option (Expr β .sum × Sign) → ℚ → ℚ
  | none, x => x
  | some (e, s), x => s.apply (e.value v div) x

def productValue : Option (Expr β .product × Scale) → ℚ → ℚ
  | none, x => x
  | some (e, o), x => o.apply div (e.value v div) x

variable {v div}

@[simp] theorem value_close (r : Reading β) :
    r.close.value v div = sumValue v div r.sum (r.product.value v div) := by
  obtain ⟨sum, product⟩ := r
  cases sum <;> rfl

@[simp] theorem value_fill (p : Pending β) (a : Expr β .atom) :
    (p.fill a).product.value v div = productValue v div p.product (a.value v div) := by
  obtain ⟨sum, product⟩ := p
  cases product <;> rfl

theorem value_foldl (bs : List β) (r : Reading β) :
    (bs.foldl (fun r b => (r.add .plus).fill (operand b)) r).close.value v div =
      r.close.value v div + (bs.map v).sum := by
  induction bs generalizing r with
  | nil => simp
  | cons b bs ih =>
    rw [List.foldl_cons, ih, List.map_cons, List.sum_cons, ← add_assoc]
    rfl

end Value

section Safe

variable (ρ : String → ℚ) (div : ℚ → ℚ → ℚ)

def shape {l : Level} (e : Expr Operand l) : Expr Bool l := e.map Operand.wide

theorem value_splice_operand {k : Option (Expr Operand .sum × Sign)} (o : Operand)
    (added : ∀ e s, k = some (e, s) → s = .plus) :
    ((operand o).splice Operand.pieces ⟨k, none⟩).close.value (Operand.value ρ) div =
      sumValue (Operand.value ρ) div k (o.value ρ) := by
  rw [splice, value_foldl, o.value_pieces]
  cases k with
  | none => rfl
  | some es =>
    obtain ⟨e, s⟩ := es
    cases added e s rfl
    exact add_assoc _ _ _

theorem exists_operand_of_exposed {e : Expr Operand .product} (h : e.shape.exposed = true) :
    ∃ o, e = factor (operand o) := by
  cases e with
  | factor a =>
    cases a with
    | operand o => exact ⟨o, rfl⟩
    | group e => cases h
  | scale o e a => cases h

variable {ρ div} in
theorem value_splice_product {k : Option (Expr Operand .sum × Sign)} {p : Expr Operand .product}
    (narrow : p.shape.exposed = false → ∃ q : Expr Operand .product,
      q.value (Operand.value ρ) div = p.value (Operand.value ρ) div ∧
      ∀ k, p.splice Operand.pieces ⟨k, none⟩ = ⟨k, q⟩)
    (added : p.shape.exposed = true → ∀ e s, k = some (e, s) → s = .plus) :
    (p.splice Operand.pieces ⟨k, none⟩).close.value (Operand.value ρ) div =
      sumValue (Operand.value ρ) div k (p.value (Operand.value ρ) div) := by
  cases exposed : p.shape.exposed with
  | true =>
    obtain ⟨o, rfl⟩ := exists_operand_of_exposed exposed
    exact value_splice_operand ρ div o (added exposed)
  | false =>
    obtain ⟨q, same, fill⟩ := narrow exposed
    rw [fill, value_close, same]

theorem splice_of_safe {l : Level} (e : Expr Operand l) (safe : e.shape.safe = true) :
    match l with
    | .atom => e.shape.exposed = false → ∃ a : Expr Operand .atom,
        a.value (Operand.value ρ) div = e.value (Operand.value ρ) div ∧
        ∀ p, e.splice Operand.pieces p = p.fill a
    | .product => e.shape.exposed = false → ∃ q : Expr Operand .product,
        q.value (Operand.value ρ) div = e.value (Operand.value ρ) div ∧
        ∀ k, e.splice Operand.pieces ⟨k, none⟩ = ⟨k, q⟩
    | .sum => (e.splice Operand.pieces .empty).close.value (Operand.value ρ) div =
        e.value (Operand.value ρ) div := by
  induction e with
  | operand o =>
    intro narrow
    have one := Operand.pieces_of_not_wide narrow
    refine ⟨operand o.pieces.1, ?_, fun p => by rw [splice, one]; rfl⟩
    simp [value, o.value_pieces, one]
  | group e ih =>
    intro _
    exact ⟨group (e.splice Operand.pieces .empty).close, ih safe, fun p => rfl⟩
  | factor e ih =>
    intro narrow
    obtain ⟨a, same, fill⟩ := ih safe narrow
    exact ⟨factor a, same, fun k => fill ⟨k, none⟩⟩
  | scale o e a ihe iha =>
    intro _
    obtain ⟨⟨⟨safe_e, safe_a⟩, narrow_e⟩, narrow_a⟩ : ((e.shape.safe = true ∧ a.shape.safe = true) ∧
        e.shape.exposed = false) ∧ a.shape.exposed = false := by
      simpa [shape, map, Expr.safe] using safe
    obtain ⟨q, same_q, fill_q⟩ := ihe safe_e narrow_e
    obtain ⟨b, same_b, fill_b⟩ := iha safe_a narrow_a
    refine ⟨scale o q b, by simp [value, same_q, same_b], fun k => ?_⟩
    rw [splice, fill_q, fill_b]
    rfl
  | term e ih =>
    refine value_splice_product (ih safe) fun _ _ _ pending => ?_
    exact absurd pending.symm (Option.some_ne_none _)
  | add s e p ihe ihp =>
    obtain ⟨⟨safe_e, safe_p⟩, added⟩ : (e.shape.safe = true ∧ p.shape.safe = true) ∧
        (¬ s = .minus ∨ p.shape.exposed = false) := by
      simpa [shape, map, Expr.safe] using safe
    have plus : p.shape.exposed = true → s = .plus := by
      intro exposed
      cases s with
      | plus => rfl
      | minus => cases exposed.symm.trans (added.resolve_left (not_not_intro rfl))
    have whole := value_splice_product (k := some ((e.splice Operand.pieces .empty).close, s))
      (ihp safe_p) (by rintro exposed _ _ ⟨⟩; exact plus exposed)
    calc
      _ = s.apply ((e.splice Operand.pieces .empty).close.value (Operand.value ρ) div)
          (p.value (Operand.value ρ) div) := whole
      _ = _ := by rw [ihe safe_e]; rfl

end Safe

end Expr

end SheetScript.Formula
