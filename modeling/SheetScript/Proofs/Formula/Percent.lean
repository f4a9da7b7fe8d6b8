import SheetScript.Proofs.Decimal.Hundredths
import SheetScript.Proofs.Decimal.Notation
import SheetScript.Proofs.Formula.Compile

namespace SheetScript.Formula

open Text Decimal Decimal.Binary

namespace Numeral

theorem value_eq (n : Numeral) :
    n.value = n.digits.foldl (fun v (d : Fin 10) => 10 * v + d.val) 0 := by
  rw [← List.foldl_map, List.map_eq_flatMap]
  rfl

theorem foldl_lt (ds : List (Fin 10)) (v : Nat) :
    ds.foldl (fun v (d : Fin 10) => 10 * v + d.val) v < (v + 1) * 10 ^ ds.length := by
  induction ds generalizing v with
  | nil => simp
  | cons d ds ih =>
    have digit := d.isLt
    calc ds.foldl (fun v (d : Fin 10) => 10 * v + d.val) (10 * v + d)
        < (10 * v + d + 1) * 10 ^ ds.length := ih _
      _ ≤ ((v + 1) * 10) * 10 ^ ds.length := Nat.mul_le_mul_right _ (by omega)
      _ = (v + 1) * 10 ^ (d :: ds).length := by rw [List.length_cons, Nat.pow_succ']; ring

theorem value_lt (n : Numeral) : n.value < 10 ^ n.digits.length := by
  have := foldl_lt n.digits 0
  rwa [Nat.zero_add, Nat.one_mul, ← value_eq] at this

theorem digitsValue_text (n : Numeral) : digitsValue n.text = n.value := by
  have digits : ∀ d : Fin 10, digitValue? (digit d) = some d.val := by decide
  simp [digitsValue, text, value_eq, List.foldl_map, digits]

theorem reading_text (n : Numeral) : reading n.text = n.value := by
  have digits : ∀ d : Fin 10, (digit d).toNat - 48 = d.val := by decide
  simp [reading, text, value_eq, Nat.ofDigitChars_eq_foldl, List.foldl_map, digits]

theorem isDigit_of_mem_text (n : Numeral) : ∀ c ∈ n.text, c.isDigit = true := by
  have digits : ∀ d : Fin 10, (digit d).isDigit = true := by decide
  simp [text, digits]

def pointed (a b : Numeral) : ℚ := a.value + b.value / 10 ^ b.digits.length

theorem denoted?_pointed (a b : Numeral) :
    denoted? (a.text ++ '.' :: b.text) = some (a.pointed b) := by
  rw [denoted?_append a.isDigit_of_mem_text b.isDigit_of_mem_text a.text_ne_nil b.text_ne_nil,
    reading_text, reading_text, pointed, text, List.length_map]

end Numeral

theorem number_text (n : Numeral) (short : n.digits.length ≤ Literal.maxDigits) :
    number n.text = .ok n.value := by
  rw [number, Numeral.digitsValue_text]
  exact if_pos (by rwa [Numeral.text, List.length_map])

theorem double_eq {n : Nat} (fits : n < 2 ^ 53) : double n = .ok (ofNat n).float := by
  have finite : (ofNat n).float.isInf = false := by
    rcases Nat.eq_zero_or_pos n with rfl | pos
    · rfl
    · exact (normal_ofNat pos fits).isInf_float
  simp [double, nearestDouble_eq fits, finite]

theorem denoted?_ofFloat {x : Binary} (normal : x.Normal) (lower : 10 ^ (-4 : ℤ) ≤ x.shortest.value)
    (upper : x.shortest.value < 10 ^ (16 : ℤ)) :
    denoted? (Literal.ofFloat x.float).toList = some x.shortest.value := by
  rw [Literal.ofFloat, normal.text_float, Scientific.write_eq_positional lower upper,
    Scientific.denoted?_positional]

section Short

variable {a b : Numeral} (short : a.digits.length + b.digits.length ≤ 15)
include short

theorem value_lt_of_short : a.value < 10 ^ 14 ∧ b.value < 10 ^ 14 := by
  have left := List.length_pos_iff.2 a.nonempty
  have right := List.length_pos_iff.2 b.nonempty
  exact ⟨a.value_lt.trans_le (Nat.pow_le_pow_right (by decide) (by omega)),
    b.value_lt.trans_le (Nat.pow_le_pow_right (by decide) (by omega))⟩

theorem writeCommaPercent_eq : writeCommaPercent (a.text, b.text) = .ok
    ((Literal.ofFloat ((ofNat a.value).float + (ofNat b.value).float / 100.0)).toList ++
      overHundred) := by
  have limit : 15 ≤ Literal.maxDigits := by decide
  obtain ⟨ha, hb⟩ := value_lt_of_short short
  rw [writeCommaPercent, number_text a (by omega), number_text b (by omega)]
  dsimp only [bind, Except.bind]
  rw [double_eq (by omega), double_eq (by omega)]
  rfl

theorem denoted?_of_pos (pos : 0 < b.value) :
    denoted? (Literal.ofFloat
      ((ofNat a.value).float + (ofNat b.value).float / 100.0)).toList =
        some (mixed a.value b.value).shortest.value := by
  obtain ⟨ha, hb⟩ := value_lt_of_short short
  have lt : (a.value : ℚ) + b.value / 100 < 2 ^ (47 : ℤ) := exact_lt ha hb (by norm_num)
  obtain ⟨normal, -, -, near, least⟩ := shortest_mixed le_rfl (by omega) pos (by omega) lt
  have bounds := abs_le.1 near
  norm_num at bounds lt
  rw [float_mixed (by omega) pos (by omega)]
  refine denoted?_ofFloat normal ?_ ?_
  · norm_num
    linarith
  · norm_num
    linarith

theorem denoted?_of_zero (none : b.value = 0) :
    denoted? (Literal.ofFloat
      ((ofNat a.value).float + (ofNat b.value).float / 100.0)).toList = some (a.value : ℚ) := by
  obtain ⟨ha, -⟩ := value_lt_of_short short
  rw [none, zero_div_hundred]
  rcases Nat.eq_zero_or_pos a.value with zero | pos
  · have text : Literal.ofFloat ((ofNat 0).float + (ofNat 0).float) = "0.0" := rfl
    have digits : ∀ c ∈ zeroes 1, c.isDigit = true := isDigit_of_mem_zeroes
    have number : "0.0".toList = zeroes 1 ++ '.' :: zeroes 1 := by decide
    rw [zero, text, number, denoted?_append digits digits (by decide) (by decide)]
    simp
  · have normal := normal_ofNat pos (by omega)
    have value := value_shortest_ofNat pos (by omega)
    have one : (1 : ℚ) ≤ a.value := by exact_mod_cast pos
    have less : (a.value : ℚ) < 10 ^ 14 := by exact_mod_cast ha
    rw [normal.add_zero, denoted?_ofFloat normal, value]
    · rw [value]
      norm_num
      linarith
    · rw [value]
      norm_num at less ⊢
      linarith

theorem exists_written :
    ∃ number v, writeCommaPercent (a.text, b.text) = .ok (number ++ overHundred) ∧
      denoted? number = some v ∧
      (v = a.pointed b ↔ b.value = 0 ∨ b.digits.length = 2 ∧ b.value ∉ drifts a.value) := by
  rcases Nat.eq_zero_or_pos b.value with none | pos
  · refine ⟨_, _, writeCommaPercent_eq short, denoted?_of_zero short none, ?_⟩
    simp [Numeral.pointed, none]
  · refine ⟨_, _, writeCommaPercent_eq short, denoted?_of_pos short pos, ?_⟩
    have iff := value_shortest_eq_iff a.value_lt b.value_lt (List.length_pos_iff.2 a.nonempty)
      short pos
    simpa [Numeral.pointed, pos.ne'] using iff

end Short

theorem commaPercent?_text (a b : Numeral) (rest : List Char) :
    commaPercent? ((a.text ++ ',' :: (b.text ++ ['%'])) ++ rest) =
      some ((a.text, b.text), (a.text ++ ',' :: (b.text ++ ['%'])).length) := by
  have comma : ∀ c ∈ (',' :: (b.text ++ '%' :: rest)).head?, isDecimal c = false := by
    rintro _ ⟨⟩
    decide
  have percent : ∀ c ∈ ('%' :: rest).head?, isDecimal c = false := by
    rintro _ ⟨⟩
    decide
  have whole : (a.text ++ ',' :: (b.text ++ ['%'])) ++ rest =
      a.text ++ ',' :: (b.text ++ '%' :: rest) := by simp
  rw [whole]
  unfold commaPercent?
  dsimp only
  rw [takeWhile_numeral a comma, List.drop_left]
  simp [takeWhile_numeral b percent, a.text_ne_nil, b.text_ne_nil]
  omega

theorem Numeral.not_mem_text (n : Numeral) {c : Char} (h : c.isDigit = false) : c ∉ n.text :=
  fun mem => Bool.false_ne_true (h.symm.trans (n.isDigit_of_mem_text c mem))

theorem compileChars_comma (a b : Numeral) :
    compileChars (a.text ++ ',' :: b.text) = .ok (a.text ++ '.' :: b.text) := by
  have absent {c mark : Char} (h : c.isDigit = false) (ne : c ≠ mark) :
      c ∉ a.text ++ mark :: b.text := by
    simp [a.not_mem_text h, b.not_mem_text h, ne]
  have pointed : pointDecimals (a.text ++ ',' :: (b.text ++ [])) =
      a.text ++ '.' :: (b.text ++ pointDecimals []) := pointDecimals_comma a b (by simp)
  rw [List.append_nil] at pointed
  rw [compileChars_of_not_mem (absent (by decide) (by decide)) (absent (by decide) (by decide))
    (absent (by decide) (by decide)), pointed, pointDecimals_of_not_mem (by simp),
    List.append_nil, dropAnchors_of_not_mem (absent (by decide) (by decide))]

theorem compileChars_overHundred {number : List Char} {v : ℚ} (h : denoted? number = some v) :
    '%' ∉ number ++ overHundred ∧
      compileChars (number ++ overHundred) = .ok (number ++ overHundred) := by
  have absent {c : Char} (digit : c.isDigit = false) (point : c ≠ '.') (hundred : c ∉ overHundred) :
      c ∉ number ++ overHundred := by
    intro mem
    rcases List.mem_append.1 mem with mem | mem
    · rcases isDigit_of_mem_denoted? h c mem with yes | yes
      · exact Bool.false_ne_true (digit.symm.trans yes)
      · exact point yes
    · exact hundred mem
  have percent := absent (c := '%') (by decide) (by decide) (by decide)
  refine ⟨percent, ?_⟩
  rw [compileChars_of_not_mem percent (absent (by decide) (by decide) (by decide))
    (absent (by decide) (by decide) (by decide)),
    pointDecimals_of_not_mem (absent (by decide) (by decide) (by decide)),
    dropAnchors_of_not_mem (absent (by decide) (by decide) (by decide))]

theorem compileChars_percent {a b : Numeral} {number : List Char} {v : ℚ}
    (written : writeCommaPercent (a.text, b.text) = .ok (number ++ overHundred))
    (h : denoted? number = some v) :
    compileChars (a.text ++ ',' :: (b.text ++ ['%'])) = .ok (number ++ overHundred) := by
  obtain ⟨percent, rest⟩ := compileChars_overHundred h
  have found : expandCommaPercents (a.text ++ ',' :: (b.text ++ ['%'])) =
      .ok (number ++ overHundred) :=
    (turns_replaceM_found (commaPercent?_text a b) (by simp) written).all replaceM_nil
  rw [← rest, compileChars, found, compileChars, expandCommaPercents_eq_self percent]

/-- A percentage with a comma is compiled to a number over a hundred. That number is the one that is
compiled from the same digits without the percent sign exactly when nothing but zeros stand behind
the comma, or two digits that do not drift. -/
theorem comma_percent_agrees_iff (a b : Numeral)
    (short : a.digits.length + b.digits.length ≤ 15) :
    ∃ number v,
      compile (String.ofList (a.text ++ ',' :: (b.text ++ ['%']))) =
        .ok (String.ofList (number ++ overHundred)) ∧
      denoted? number = some v ∧
      compile (String.ofList (a.text ++ ',' :: b.text)) =
        .ok (String.ofList (a.text ++ '.' :: b.text)) ∧
      denoted? (a.text ++ '.' :: b.text) = some (a.pointed b) ∧
      (v = a.pointed b ↔ b.value = 0 ∨ b.digits.length = 2 ∧ b.value ∉ drifts a.value) := by
  obtain ⟨number, v, written, denoted, agrees⟩ := exists_written short
  refine ⟨number, v, ?_, denoted, ?_, a.denoted?_pointed b, agrees⟩
  · rw [compile, String.toList_ofList, compileChars_percent written denoted]
    rfl
  · rw [compile, String.toList_ofList, compileChars_comma]
    rfl

theorem comma_percent_of_two_digits :
    let a : Numeral := ⟨[1, 2], by decide⟩
    let b : Numeral := ⟨[3, 4], by decide⟩
    a.digits.length + b.digits.length ≤ 15 ∧ ∃ number,
      compile "12,34%" = .ok (String.ofList (number ++ overHundred)) ∧
        denoted? number = some (617 / 50) ∧ compile "12,34" = .ok "12.34" := by
  intro a b
  obtain ⟨number, v, percent, denoted, plain, -, agrees⟩ :=
    comma_percent_agrees_iff a b (by decide)
  have value : v = 617 / 50 := by
    rw [agrees.2 (.inr ⟨rfl, by decide⟩)]
    norm_num [Numeral.pointed, a, b, Numeral.value]
  exact ⟨by decide, number, percent, value ▸ denoted, plain⟩

theorem comma_percent_differs :
    compile "1,5%" = .ok "1.05/100" ∧ compile "1,5" = .ok "1.5" ∧
      compile "1,57%" = .ok "1.5699999999999998/100" ∧ compile "1,57" = .ok "1.57" := by
  refine ⟨?_, ?_, ?_, ?_⟩ <;> decide +kernel

end SheetScript.Formula
