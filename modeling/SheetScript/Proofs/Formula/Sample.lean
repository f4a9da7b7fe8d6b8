import SheetScript.Proofs.Formula.Meaning

namespace SheetScript.Formula

def sampleCells (name : String) : ℚ := if name = "A1" ∨ name = "B2" then 1 else 0

namespace Operand

def zero : Operand := number false ⟨[0], List.cons_ne_nil _ _⟩

def one : Operand := number false ⟨[1], List.cons_ne_nil _ _⟩

def pair (row : Fin 10) : Operand := range ⟨0, 1, ⟨[row], List.cons_ne_nil _ _⟩, by decide⟩

def left (row : Fin 10) : Operand := cell (.short 0 ⟨[row], List.cons_ne_nil _ _⟩)

def right (row : Fin 10) : Operand := cell (.short 1 ⟨[row], List.cons_ne_nil _ _⟩)

theorem pieces_pair (row : Fin 10) : (pair row).pieces = (left row, [right row]) := rfl

end Operand

namespace Expr

/-- The value of a formula in those cells, when division is multiplication. -/
def sample {l : Level} (e : Expr Operand l) : ℚ := e.value (Operand.value sampleCells) (· * ·)

def sumSample (k : Option (Expr Operand .sum × Sign)) (x : ℚ) : ℚ :=
  sumValue (Operand.value sampleCells) (· * ·) k x

def productSample (k : Option (Expr Operand .product × Scale)) (x : ℚ) : ℚ :=
  productValue (Operand.value sampleCells) (· * ·) k x

@[simp] theorem sample_zero : sample (operand .zero) = 0 := by
  simp [sample, value, Operand.value, Operand.zero, Numeral.value]

@[simp] theorem sample_one : sample (operand .one) = 1 := by
  simp [sample, value, Operand.value, Operand.one, Numeral.value]

theorem sample_left (row : Fin 10) : sample (operand (.left row)) = if row = 1 then 1 else 0 := by
  revert row
  decide

theorem sample_right (row : Fin 10) : sample (operand (.right row)) = if row = 2 then 1 else 0 := by
  revert row
  decide

theorem sample_pair (row : Fin 10) :
    sample (operand (.pair row)) =
      sample (operand (.left row)) + sample (operand (.right row)) := by
  simp [sample, value, Operand.value_pieces _ (.pair row), Operand.pieces_pair]

@[simp] theorem sample_group (e : Expr Operand .sum) : sample (group e) = sample e := rfl

@[simp] theorem sample_factor (e : Expr Operand .atom) : sample (factor e) = sample e := rfl

@[simp] theorem sample_scale (o : Scale) (e : Expr Operand .product) (a : Expr Operand .atom) :
    sample (scale o e a) = sample e * sample a := by
  cases o <;> rfl

@[simp] theorem sample_term (e : Expr Operand .product) : sample (term e) = sample e := rfl

@[simp] theorem sample_add (s : Sign) (e : Expr Operand .sum) (p : Expr Operand .product) :
    sample (add s e p) = s.apply (sample e) (sample p) := rfl

@[simp] theorem sample_close (r : Reading Operand) :
    sample r.close = sumSample r.sum (sample r.product) := value_close r

@[simp] theorem sample_fill (p : Pending Operand) (a : Expr Operand .atom) :
    sample (p.fill a).product = productSample p.product (sample a) := value_fill p a

@[simp] theorem fill_sum (p : Pending Operand) (a : Expr Operand .atom) :
    (p.fill a).sum = p.sum := rfl

@[simp] theorem sumSample_none (x : ℚ) : sumSample none x = x := rfl

@[simp] theorem sumSample_some (e : Expr Operand .sum) (s : Sign) (x : ℚ) :
    sumSample (some (e, s)) x = s.apply (sample e) x := rfl

@[simp] theorem productSample_none (x : ℚ) : productSample none x = x := rfl

@[simp] theorem productSample_some (e : Expr Operand .product) (o : Scale) (x : ℚ) :
    productSample (some (e, o)) x = sample e * x := by
  cases o <;> rfl

@[simp] theorem productSample_zero (k : Option (Expr Operand .product × Scale)) :
    productSample k 0 = 0 := by
  cases k with
  | none => rfl
  | some eo =>
    obtain ⟨e, o⟩ := eo
    simp

@[simp] theorem apply_zero (s : Sign) (x : ℚ) : s.apply x 0 = x := by
  cases s <;> simp [Sign.apply]

theorem sumSample_injective (k : Option (Expr Operand .sum × Sign)) :
    Function.Injective (sumSample k) := by
  intro x y h
  cases k with
  | none => exact h
  | some es =>
    obtain ⟨e, s⟩ := es
    cases s with
    | plus => exact add_left_cancel h
    | minus => exact sub_right_injective h

theorem splice_pair (row : Fin 10) (p : Pending Operand) :
    (operand (.pair row)).splice Operand.pieces p =
      ⟨some ((p.fill (operand (.left row))).close, .plus), factor (operand (.right row))⟩ := rfl

/-- A formula that is zero and stays zero, and whose parts leave the sum before it as it is. -/
structure Vanishes {l : Level} (e : Expr Operand l) : Prop where
  value : sample e = 0
  product : ∀ p, sample (e.splice Operand.pieces p).product = 0
  sum : ∀ p, sumSample (e.splice Operand.pieces p).sum 0 = sumSample p.sum 0

theorem Vanishes.close {l : Level} {e : Expr Operand l} (h : Vanishes e) (p : Pending Operand) :
    sample (e.splice Operand.pieces p).close = sumSample p.sum 0 := by
  rw [sample_close, h.product, h.sum]

theorem exists_vanishes {l : Level} (s : Expr Bool l) :
    ∃ e : Expr Operand l, e.shape = s ∧ Vanishes e := by
  induction s with
  | operand wide =>
    cases wide with
    | false =>
      refine ⟨operand .zero, rfl, sample_zero, fun p => ?_, fun p => rfl⟩
      exact (sample_fill p (operand .zero)).trans (by simp)
    | true =>
      refine ⟨operand (.pair 3), rfl, ?_, fun p => ?_, fun p => ?_⟩
      · simp [sample_pair, sample_left, sample_right]
      · simp [splice_pair, sample_right]
      · simp [splice_pair, sample_left]
  | group s ih =>
    obtain ⟨e, rfl, zero⟩ := ih
    refine ⟨group e, rfl, zero.value, fun p => ?_, fun p => rfl⟩
    rw [splice, sample_fill, sample_group, zero.close]
    exact productSample_zero p.product
  | factor s ih =>
    obtain ⟨e, rfl, zero⟩ := ih
    exact ⟨factor e, rfl, zero.value, zero.product, zero.sum⟩
  | scale o s t ihs iht =>
    obtain ⟨e, rfl, zero⟩ := ihs
    obtain ⟨a, rfl, zero'⟩ := iht
    refine ⟨scale o e a, rfl, by simp [zero.value], fun p => zero'.product _, fun p => ?_⟩
    exact (zero'.sum _).trans (zero.sum p)
  | term s ih =>
    obtain ⟨e, rfl, zero⟩ := ih
    exact ⟨term e, rfl, zero.value, zero.product, zero.sum⟩
  | add sign s t ihs iht =>
    obtain ⟨e, rfl, zero⟩ := ihs
    obtain ⟨q, rfl, zero'⟩ := iht
    refine ⟨add sign e q, rfl, by simp [zero.value, zero'.value], fun p => zero'.product _,
      fun p => ?_⟩
    calc
      _ = sign.apply (sample (e.splice Operand.pieces p).close) 0 := zero'.sum _
      _ = sumSample p.sum 0 := by rw [apply_zero, zero.close]

/-- A formula that is one and stays one. In a product it does so behind a sum that is zero. -/
def StaysOne {l : Level} (e : Expr Operand l) : Prop :=
  sample e = 1 ∧
  match l with
  | .sum => sample (e.splice Operand.pieces .empty).close = 1
  | _ => ∀ p, (∀ x, sumSample p.sum x = x) → (∀ x, productSample p.product x = x) →
      sample (e.splice Operand.pieces p).product = 1 ∧
      ∀ x, sumSample (e.splice Operand.pieces p).sum x = x

theorem exists_staysOne {l : Level} (s : Expr Bool l) :
    ∃ e : Expr Operand l, e.shape = s ∧ StaysOne e := by
  induction s with
  | operand wide =>
    cases wide with
    | false =>
      refine ⟨operand .one, rfl, sample_one, fun p free unit => ⟨?_, free⟩⟩
      exact (sample_fill p (operand .one)).trans (by simp [unit])
    -- Of `A2+B2` only the last cell is one, and that is the one the product goes on with.
    | true =>
      refine ⟨operand (.pair 2), rfl, ?_, fun p free unit => ⟨?_, fun x => ?_⟩⟩
      · simp [sample_pair, sample_left, sample_right]
      · simp [splice_pair, sample_right]
      · simp [splice_pair, sample_left, free, Sign.apply]
  | group s ih =>
    obtain ⟨e, rfl, one, stays⟩ := ih
    refine ⟨group e, rfl, one, fun p free unit => ⟨?_, free⟩⟩
    rw [splice, sample_fill, unit]
    exact stays
  | factor s ih =>
    obtain ⟨e, rfl, one, stays⟩ := ih
    exact ⟨factor e, rfl, one, stays⟩
  | scale o s t ihs iht =>
    obtain ⟨e, rfl, one, stays⟩ := ihs
    obtain ⟨a, rfl, one', stays'⟩ := iht
    refine ⟨scale o e a, rfl, by simp [one, one'], fun p free unit => ?_⟩
    obtain ⟨product, sum⟩ := stays p free unit
    exact stays' _ sum (by simp [Reading.scale, product])
  | term s ih =>
    obtain ⟨e, rfl, one, stays⟩ := ih
    obtain ⟨product, sum⟩ := stays .empty (fun _ => rfl) fun _ => rfl
    exact ⟨term e, rfl, one, (sample_close _).trans ((sum _).trans product)⟩
  | add sign s t ihs _ =>
    obtain ⟨e, rfl, one, stays⟩ := ihs
    obtain ⟨q, rfl, zero⟩ := exists_vanishes t
    refine ⟨add sign e q, rfl, by simp [one, zero.value], ?_⟩
    calc
      _ = sign.apply (sample (e.splice Operand.pieces .empty).close) 0 := zero.close _
      _ = 1 := by rw [apply_zero, stays]

end Expr

end SheetScript.Formula
