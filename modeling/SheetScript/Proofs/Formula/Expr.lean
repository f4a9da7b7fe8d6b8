import Mathlib.Algebra.Ring.Rat
import SheetScript.Proofs.Formula.Lexer

namespace SheetScript.Formula

inductive Level where
  | sum
  | product
  | atom

inductive Sign where
  | plus
  | minus
deriving DecidableEq

def Sign.operator : Sign → Operator
  | plus => .plus
  | minus => .minus

def Sign.apply : Sign → ℚ → ℚ → ℚ
  | plus, x, y => x + y
  | minus, x, y => x - y

inductive Scale where
  | times
  | divide
deriving DecidableEq

def Scale.operator : Scale → Operator
  | times => .times
  | divide => .divide

def Scale.apply (div : ℚ → ℚ → ℚ) : Scale → ℚ → ℚ → ℚ
  | times, x, y => x * y
  | divide, x, y => div x y

inductive Expr (α : Type) : Level → Type
  | operand (a : α) : Expr α .atom
  | group (e : Expr α .sum) : Expr α .atom
  | factor (e : Expr α .atom) : Expr α .product
  | scale (o : Scale) (e : Expr α .product) (a : Expr α .atom) : Expr α .product
  | term (e : Expr α .product) : Expr α .sum
  | add (s : Sign) (e : Expr α .sum) (p : Expr α .product) : Expr α .sum

namespace Expr

variable {α β : Type}

def map (f : α → β) {l : Level} : Expr α l → Expr β l
  | operand a => operand (f a)
  | group e => group (e.map f)
  | factor e => factor (e.map f)
  | scale o e a => scale o (e.map f) (a.map f)
  | term e => term (e.map f)
  | add s e p => add s (e.map f) (p.map f)

def value (v : α → ℚ) (div : ℚ → ℚ → ℚ) {l : Level} : Expr α l → ℚ
  | operand a => v a
  | group e => e.value v div
  | factor e => e.value v div
  | scale o e a => o.apply div (e.value v div) (a.value v div)
  | term e => e.value v div
  | add s e p => s.apply (e.value v div) (p.value v div)

def tokens (write : α → List Token) {l : Level} : Expr α l → List Token
  | operand a => write a
  | group e => .opening :: (e.tokens write ++ [.closing])
  | factor e => e.tokens write
  | scale o e a => e.tokens write ++ .operator o.operator :: a.tokens write
  | term e => e.tokens write
  | add s e p => e.tokens write ++ .operator s.operator :: p.tokens write

end Expr

inductive Operand where
  | number (negative : Bool) (n : Numeral)
  | cell (r : Reference)
  | range (r : Range)

namespace Operand

def tokens : Operand → List Token
  | number false n => [.number n]
  | number true n => [.operator .minus, .number n]
  | cell r => [.cell r]
  | range r => [.sum r]

def value (ρ : String → ℚ) : Operand → ℚ
  | number false n => n.value
  | number true n => -n.value
  | cell r => ρ (String.ofList r.name)
  | range r => (r.cells.map fun c => ρ (String.ofList c.name)).sum

end Operand

namespace Expr

structure Pending (α : Type) where
  sum : Option (Expr α .sum × Sign)
  product : Option (Expr α .product × Scale)

structure Reading (α : Type) where
  sum : Option (Expr α .sum × Sign)
  product : Expr α .product

variable {α β : Type}

def Pending.empty : Pending α := ⟨none, none⟩

def attach : Option (Expr α .sum × Sign) → Expr α .product → Expr α .sum
  | none, p => term p
  | some (e, s), p => add s e p

def extend : Option (Expr α .product × Scale) → Expr α .atom → Expr α .product
  | none, a => factor a
  | some (e, o), a => scale o e a

def Pending.fill (p : Pending α) (a : Expr α .atom) : Reading α := ⟨p.sum, extend p.product a⟩

namespace Reading

def close (r : Reading α) : Expr α .sum := attach r.sum r.product

def add (r : Reading α) (s : Sign) : Pending α := ⟨some (r.close, s), none⟩

def scale (r : Reading α) (o : Scale) : Pending α := ⟨r.sum, some (r.product, o)⟩

end Reading

/-- A reader stands before an operand, behind the minus sign of a number, or behind an operand. The
pending parts around open parentheses wait outside. -/
inductive State where
  | before (p : Pending Operand) (outer : List (Pending Operand))
  | negated (p : Pending Operand) (outer : List (Pending Operand))
  | behind (r : Reading Operand) (outer : List (Pending Operand))

namespace State

def step : State → Token → Option State
  | before p outer, .number n => some (behind (p.fill (operand (.number false n))) outer)
  | before p outer, .cell r => some (behind (p.fill (operand (.cell r))) outer)
  | before p outer, .sum r => some (behind (p.fill (operand (.range r))) outer)
  | before p outer, .operator .minus => some (negated p outer)
  | before p outer, .opening => some (before .empty (p :: outer))
  | negated p outer, .number n => some (behind (p.fill (operand (.number true n))) outer)
  | behind r outer, .operator .plus => some (before (r.add .plus) outer)
  | behind r outer, .operator .minus => some (before (r.add .minus) outer)
  | behind r outer, .operator .times => some (before (r.scale .times) outer)
  | behind r outer, .operator .divide => some (before (r.scale .divide) outer)
  | behind r (p :: outer), .closing => some (behind (p.fill (group r.close)) outer)
  | _, _ => none

def run : State → List Token → Option State
  | s, [] => some s
  | s, t :: ts => (s.step t).bind (run · ts)

end State

def read? (text : String) : Option (Expr Operand .sum) :=
  match (Token.readAll? text.toList).bind (State.run (.before .empty [])) with
  | some (.behind r []) => some r.close
  | _ => none

def text (e : Expr Operand .sum) : String := String.ofList (render (e.tokens Operand.tokens))

/-- What a reader has after a formula whose operands are each written as several, added up. -/
def splice (pieces : α → β × List β) {l : Level} : Expr α l → Pending β → Reading β
  | operand a, p => (pieces a).2.foldl (fun r b => (r.add .plus).fill (operand b))
      (p.fill (operand (pieces a).1))
  | group e, p => p.fill (group (e.splice pieces .empty).close)
  | factor e, p => e.splice pieces p
  | scale o e a, p => a.splice pieces ((e.splice pieces p).scale o)
  | term e, p => e.splice pieces p
  | add s e q, p => q.splice pieces ((e.splice pieces p).add s)

def written (os : Operand × List Operand) : List Token :=
  os.1.tokens ++ os.2.flatMap fun o => .operator .plus :: o.tokens

namespace State

theorem run_operand (o : Operand) (p : Pending Operand) (outer : List (Pending Operand))
    (ts : List Token) :
    run (before p outer) (o.tokens ++ ts) = run (behind (p.fill (operand o)) outer) ts := by
  cases o with
  | number negative n => cases negative <;> rfl
  | cell r => rfl
  | range r => rfl

theorem run_later (os : List Operand) (r : Reading Operand) (outer : List (Pending Operand))
    (ts : List Token) :
    run (behind r outer) (os.flatMap (fun o => .operator .plus :: o.tokens) ++ ts) =
      run (behind (os.foldl (fun r o => (r.add .plus).fill (operand o)) r) outer) ts := by
  induction os generalizing r with
  | nil => rfl
  | cons o os ih =>
    rw [List.flatMap_cons, List.cons_append, List.cons_append, List.append_assoc, List.foldl_cons,
      ← ih, ← run_operand]
    rfl

theorem run_tokens (pieces : α → Operand × List Operand) {l : Level} (e : Expr α l)
    (p : Pending Operand) (outer : List (Pending Operand)) (ts : List Token) :
    run (before p outer) (e.tokens (written ∘ pieces) ++ ts) =
      run (behind (e.splice pieces p) outer) ts := by
  induction e generalizing p outer ts with
  | operand a =>
    rw [tokens, Function.comp_apply, written, List.append_assoc, run_operand, run_later]
    rfl
  | group e ih =>
    rw [tokens, List.cons_append, List.append_assoc]
    exact ih .empty (p :: outer) (.closing :: ts)
  | factor e ih => exact ih p outer ts
  | scale o e a ihe iha =>
    rw [tokens, List.append_assoc, ihe, splice, ← iha]
    cases o <;> rfl
  | term e ih => exact ih p outer ts
  | add s e q ihe ihq =>
    rw [tokens, List.append_assoc, ihe, splice, ← ihq]
    cases s <;> rfl

end State

theorem isChain_append_sign {t : Token} (h : t.isSign = true) {ts us : List Token}
    (ht : ts.IsChain Token.Apart) (hu : us.IsChain Token.Apart) :
    (ts ++ t :: us).IsChain Token.Apart := by
  have behind := List.isChain_cons.2 ⟨fun u _ => (Token.apart_sign h u).2, hu⟩
  refine List.isChain_append.2 ⟨ht, behind, ?_⟩
  rintro u _ _ ⟨⟩
  exact (Token.apart_sign h u).1

theorem isChain_tokens {write : α → List Token} (h : ∀ a, (write a).IsChain Token.Apart)
    {l : Level} (e : Expr α l) : (e.tokens write).IsChain Token.Apart := by
  induction e with
  | operand a => exact h a
  | group e ih =>
    have closed : (e.tokens write ++ [Token.closing]).IsChain Token.Apart :=
      isChain_append_sign rfl ih .nil
    exact isChain_append_sign (t := .opening) rfl .nil closed
  | factor e ih => exact ih
  | scale o e a ihe iha => exact isChain_append_sign rfl ihe iha
  | term e ih => exact ih
  | add s e q ihe ihq => exact isChain_append_sign rfl ihe ihq

theorem isChain_operand (o : Operand) : o.tokens.IsChain Token.Apart := by
  cases o with
  | number negative n =>
    cases negative with
    | false => exact .singleton _
    | true => exact isChain_append_sign (t := .operator .minus) rfl .nil (.singleton _)
  | cell r => exact .singleton _
  | range r => exact .singleton _

theorem isChain_written (os : Operand × List Operand) : (written os).IsChain Token.Apart := by
  obtain ⟨first, later⟩ := os
  unfold written
  generalize ht : first.tokens = ts
  have chain : ts.IsChain Token.Apart := ht ▸ isChain_operand first
  clear ht
  induction later generalizing ts with
  | nil => simpa using chain
  | cons o later ih =>
    have next := isChain_append_sign (t := .operator .plus) rfl chain (isChain_operand o)
    simpa using ih _ next

theorem read?_splice (pieces : α → Operand × List Operand) (e : Expr α .sum) :
    read? (String.ofList (render (e.tokens (written ∘ pieces)))) =
      some (e.splice pieces .empty).close := by
  have chain : (e.tokens (written ∘ pieces)).IsChain Token.Apart :=
    e.isChain_tokens fun a => isChain_written (pieces a)
  have parsed := State.run_tokens pieces e .empty [] []
  rw [List.append_nil] at parsed
  rw [read?, String.toList_ofList, readAll?_render chain, Option.bind_some, parsed]
  rfl

theorem splice_self {l : Level} (e : Expr α l) :
    match l with
    | .atom => ∀ p, e.splice (·, []) p = p.fill e
    | .product => ∀ k, e.splice (·, []) ⟨k, none⟩ = ⟨k, e⟩
    | .sum => (e.splice (·, []) .empty).close = e := by
  induction e with
  | operand a => exact fun p => rfl
  | group e ih =>
    intro p
    rw [splice, ih]
  | factor e ih => exact fun k => ih ⟨k, none⟩
  | scale o e a ihe iha =>
    intro k
    rw [splice, ihe, iha]
    rfl
  | term e ih => exact congrArg Reading.close (ih none)
  | add s e q ihe ihq =>
    have left : (e.splice (·, []) .empty).add s = ⟨some (e, s), none⟩ := by rw [Reading.add, ihe]
    calc
      (q.splice (·, []) ((e.splice (·, []) .empty).add s)).close
        = (q.splice (·, []) ⟨some (e, s), none⟩).close := by rw [left]
      _ = add s e q := congrArg Reading.close (ihq (some (e, s)))

theorem read?_text (e : Expr Operand .sum) : read? e.text = some e := by
  have plain : (written ∘ (·, [])) = Operand.tokens := by
    funext o
    simp [written]
  rw [text, ← plain, read?_splice, e.splice_self]

theorem text_injective : Function.Injective text := by
  intro e e' h
  have same := congrArg read? h
  rw [read?_text, read?_text] at same
  exact Option.some.inj same

end Expr

end SheetScript.Formula
