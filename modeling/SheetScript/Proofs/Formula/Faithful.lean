import SheetScript.Proofs.Formula.Sample

namespace SheetScript.Formula

namespace Expr

theorem exists_one_atom {s : Expr Bool .atom} (narrow : s.exposed = false) :
    ∃ e a : Expr Operand .atom, e.shape = s ∧ sample e = 1 ∧ sample a = 1 ∧
      ∀ p, e.splice Operand.pieces p = p.fill a := by
  cases s with
  | operand wide =>
    cases narrow
    exact ⟨operand .one, operand .one, rfl, sample_one, sample_one, fun _ => rfl⟩
  | group s =>
    obtain ⟨e, rfl, one, stays⟩ := exists_staysOne s
    exact ⟨group e, group (e.splice Operand.pieces .empty).close, rfl, one, stays, fun _ => rfl⟩

theorem exists_one_product {s : Expr Bool .product} (safe : s.safe = true)
    (narrow : s.exposed = false) :
    ∃ e q : Expr Operand .product, e.shape = s ∧ sample e = 1 ∧ sample q = 1 ∧
      ∀ k, e.splice Operand.pieces ⟨k, none⟩ = ⟨k, q⟩ := by
  match s with
  | factor s =>
    obtain ⟨e, a, rfl, one, one', fill⟩ := exists_one_atom (s := s) narrow
    exact ⟨factor e, factor a, rfl, one, one', fun k => fill ⟨k, none⟩⟩
  | scale o s t =>
    obtain ⟨⟨⟨safe_s, _⟩, narrow_s⟩, narrow_t⟩ : ((s.safe = true ∧ t.safe = true) ∧
        s.exposed = false) ∧ t.exposed = false := by
      simpa [Expr.safe] using safe
    obtain ⟨e, q, rfl, one_e, one_q, fill_q⟩ := exists_one_product safe_s narrow_s
    obtain ⟨b, a, rfl, one_b, one_a, fill_a⟩ := exists_one_atom narrow_t
    refine ⟨scale o e b, scale o q a, rfl, by simp [one_e, one_b], by simp [one_q, one_a],
      fun k => ?_⟩
    rw [splice, fill_q, fill_a]
    rfl

/-- Zero times a sum that ends in one is zero, but the one is added to the product. -/
theorem exists_changed_last (o : Scale) (s : Expr Bool .product)
    (k : Option (Expr Operand .sum × Sign)) :
    ∃ e : Expr Operand .product, e.shape = scale o s (operand true) ∧
      sample (e.splice Operand.pieces ⟨k, none⟩).close ≠ sumSample k (sample e) := by
  obtain ⟨e, rfl, zero⟩ := exists_vanishes s
  refine ⟨scale o e (operand (.pair 2)), rfl, ?_⟩
  have script : sample ((scale o e (operand (.pair 2))).splice Operand.pieces ⟨k, none⟩).close =
      sumSample k 0 + 1 := by
    rw [splice, splice_pair]
    simp [Reading.scale, sample_left, sample_right, zero.sum, Sign.apply]
  rw [script, sample_scale, zero.value, zero_mul]
  simp

/-- A sum that begins with one, times zero, is zero, but the one stands before the product. -/
theorem exists_changed_first (o : Scale) (t : Expr Bool .atom)
    (k : Option (Expr Operand .sum × Sign)) :
    ∃ e : Expr Operand .product, e.shape = scale o (factor (operand true)) t ∧
      sample (e.splice Operand.pieces ⟨k, none⟩).close ≠ sumSample k (sample e) := by
  obtain ⟨a, rfl, zero⟩ := exists_vanishes t
  refine ⟨scale o (factor (operand (.pair 1))) a, rfl, ?_⟩
  have script : sample ((scale o (factor (operand (.pair 1))) a).splice Operand.pieces
      ⟨k, none⟩).close = sumSample k 1 := by
    rw [splice, zero.close, splice, splice_pair]
    simp [Reading.scale, Pending.fill, extend, sample_left]
  rw [script, sample_scale, zero.value, mul_zero]
  exact fun same => one_ne_zero (sumSample_injective k same)

theorem eq_operand_of_exposed {s : Expr Bool .atom} (h : s.exposed = true) : s = operand true := by
  cases s with
  | operand wide =>
    cases h
    rfl
  | group s => cases h

theorem eq_factor_of_exposed {s : Expr Bool .product} (h : s.exposed = true) :
    s = factor (operand true) := by
  cases s with
  | factor s => rw [eq_operand_of_exposed h]
  | scale o s t => cases h

def Changes : {l : Level} → Expr Bool l → Prop
  | .atom, s => ∃ e a : Expr Operand .atom, e.shape = s ∧ sample a ≠ sample e ∧
      ∀ p, e.splice Operand.pieces p = p.fill a
  | .product, s => ∀ k, ∃ e : Expr Operand .product, e.shape = s ∧
      sample (e.splice Operand.pieces ⟨k, none⟩).close ≠ sumSample k (sample e)
  | .sum, s => ∃ e : Expr Operand .sum, e.shape = s ∧ sample e.spliced ≠ sample e

theorem changes_scale {o : Scale} {s : Expr Bool .product} {t : Expr Bool .atom}
    (h : (scale o s t).safe = false) (hs : s.safe = false → Changes s)
    (ht : t.safe = false → Changes t) : Changes (scale o s t) := by
  intro k
  by_cases last : t.exposed = true
  · rw [eq_operand_of_exposed last]
    exact exists_changed_last o s k
  by_cases first : s.exposed = true
  · rw [eq_factor_of_exposed first]
    exact exists_changed_first o t k
  have narrow_s : s.exposed = false := by simpa using first
  have narrow_t : t.exposed = false := by simpa using last
  by_cases safe : s.safe = true
  · obtain ⟨e, q, rfl, one_e, one_q, fill_q⟩ := exists_one_product safe narrow_s
    obtain ⟨b, a, rfl, differs, fill_a⟩ := ht (by simpa [Expr.safe, last, first, safe] using h)
    refine ⟨scale o e b, rfl, fun same => differs (sumSample_injective k ?_)⟩
    rw [splice, fill_q, fill_a] at same
    simpa [Reading.scale, one_e, one_q] using same
  · obtain ⟨e, rfl, differs⟩ := hs (by simpa using safe) k
    obtain ⟨b, a, rfl, one_b, one_a, fill_a⟩ := exists_one_atom narrow_t
    refine ⟨scale o e b, rfl, fun same => differs ?_⟩
    rw [splice, fill_a] at same
    simpa [Reading.scale, one_a, one_b] using same

theorem changes_add {sign : Sign} {s : Expr Bool .sum} {t : Expr Bool .product}
    (h : (add sign s t).safe = false) (hs : s.safe = false → Changes s)
    (ht : t.safe = false → Changes t) : Changes (add sign s t) := by
  by_cases safe : s.safe = true
  · obtain ⟨e, rfl, zero⟩ := exists_vanishes s
    have left : sample (e.splice Operand.pieces .empty).close = 0 := zero.close .empty
    by_cases safe' : t.safe = true
    · obtain ⟨rfl, exposed⟩ : sign = .minus ∧ t.exposed = true := by
        simpa [Expr.safe, safe, safe'] using h
      rw [eq_factor_of_exposed exposed]
      refine ⟨add .minus e (factor (operand (.pair 2))), rfl, ?_⟩
      have script : sample (add .minus e (factor (operand (.pair 2)))).spliced = 1 := by
        rw [spliced, splice, splice, splice_pair]
        simp [Reading.add, left, sample_left, sample_right, Sign.apply]
      rw [script]
      simp [zero.value, sample_pair, sample_left, sample_right, Sign.apply]
      norm_num
    · obtain ⟨q, rfl, differs⟩ :=
        ht (by simpa using safe') (some ((e.splice Operand.pieces .empty).close, sign))
      refine ⟨add sign e q, rfl, fun same => differs ?_⟩
      rw [sumSample_some, left, ← zero.value]
      exact same
  · obtain ⟨e, rfl, differs⟩ := hs (by simpa using safe)
    obtain ⟨q, rfl, zero⟩ := exists_vanishes t
    refine ⟨add sign e q, rfl, fun same => differs ?_⟩
    rw [spliced, splice, zero.close] at same
    simpa [spliced, Reading.add, zero.value] using same

theorem changes_of_not_safe {l : Level} (s : Expr Bool l) (h : s.safe = false) : Changes s := by
  induction s with
  | operand wide => cases h
  | group s ih =>
    obtain ⟨e, rfl, differs⟩ := ih h
    exact ⟨group e, group e.spliced, rfl, differs, fun _ => rfl⟩
  | factor s ih =>
    intro k
    obtain ⟨e, a, rfl, differs, fill⟩ := ih h
    refine ⟨factor e, rfl, fun same => differs (sumSample_injective k ?_)⟩
    rw [splice, fill] at same
    simpa using same
  | scale o s t ihs iht => exact changes_scale h ihs iht
  | term s ih =>
    obtain ⟨e, rfl, differs⟩ := ih h none
    exact ⟨term e, rfl, differs⟩
  | add sign s t ihs iht => exact changes_add h ihs iht

theorem value_spliced_of_safe {e : Expr Operand .sum} (safe : e.shape.safe = true)
    (ρ : String → ℚ) (div : ℚ → ℚ → ℚ) :
    e.spliced.value (Operand.value ρ) div = e.value (Operand.value ρ) div :=
  splice_of_safe ρ div e safe

end Expr

open SheetScript.Formula.Expr in
/-- Every arithmetic formula has a script expression, and both are read in one way. That both have
the same value, whatever the values of the cells and whatever division means, holds of all formulas
of a shape exactly when the shape is safe. -/
theorem meaning_kept_iff_safe (s : Expr Bool .sum) :
    (∀ e : Expr Operand .sum, read? e.text = some e ∧
      ∃ out e', compile e.text = .ok out ∧ read? out = some e') ∧
    (s.safe = true ↔ ∀ e : Expr Operand .sum, e.shape = s →
      ∀ out e', compile e.text = .ok out → read? out = some e' →
        ∀ ρ div, e'.value (Operand.value ρ) div = e.value (Operand.value ρ) div) := by
  refine ⟨fun e => ⟨e.read?_text, ?_⟩, ?_, ?_⟩
  · obtain ⟨out, compiled, read⟩ := e.compile_text
    exact ⟨out, e.spliced, compiled, read⟩
  · rintro safe e rfl out e' compiled read ρ div
    obtain ⟨_, compiled', read'⟩ := e.compile_text
    cases compiled.symm.trans compiled'
    cases read.symm.trans read'
    exact value_spliced_of_safe safe ρ div
  · intro kept
    by_contra changed
    obtain ⟨e, same, differs⟩ := changes_of_not_safe s (by simpa using changed)
    obtain ⟨out, compiled, read⟩ := e.compile_text
    exact differs (kept e same out e.spliced compiled read sampleCells (· * ·))

open SheetScript.Formula.Expr in
theorem meaning_kept_of_grouped_sum :
    let e : Expr Operand .sum := term (scale .times
      (factor (group (add .plus (term (factor (operand .one))) (factor (operand (.pair 1))))))
      (operand (.number true ⟨[2], List.cons_ne_nil _ _⟩)))
    e.text = "(1+SUM(A1:B1))*-2" ∧ compile e.text = .ok "(1+A1+B1)*-2" ∧
      read? "(1+A1+B1)*-2" = some e.spliced ∧
      ∀ ρ div, e.spliced.value (Operand.value ρ) div = e.value (Operand.value ρ) div := by
  intro e
  have text : e.text = "(1+SUM(A1:B1))*-2" := by decide +kernel
  have compiled : compile e.text = .ok "(1+A1+B1)*-2" := by decide +kernel
  obtain ⟨_, compiled', read⟩ := e.compile_text
  cases compiled.symm.trans compiled'
  refine ⟨text, compiled, read, ?_⟩
  exact (meaning_kept_iff_safe e.shape).2.1 rfl e rfl _ _ compiled read

open SheetScript.Formula.Expr in
theorem meaning_changed_of_doubled_sum :
    ∃ e e' : Expr Operand .sum, read? "2*SUM(A1:B1)" = some e ∧
      compile "2*SUM(A1:B1)" = .ok "2*A1+B1" ∧ read? "2*A1+B1" = some e' ∧
      e.value (Operand.value fun _ => 1) (· / ·) = 4 ∧
      e'.value (Operand.value fun _ => 1) (· / ·) = 3 := by
  refine ⟨term (scale .times (factor (operand (.number false ⟨[2], List.cons_ne_nil _ _⟩)))
      (operand (.pair 1))),
    add .plus (term (scale .times (factor (operand (.number false ⟨[2], List.cons_ne_nil _ _⟩)))
      (operand (.left 1)))) (factor (operand (.right 1))), ?_, ?_, ?_, ?_, ?_⟩
  · with_unfolding_all rfl
  · decide +kernel
  · with_unfolding_all rfl
  · decide +kernel
  · decide +kernel

end SheetScript.Formula
