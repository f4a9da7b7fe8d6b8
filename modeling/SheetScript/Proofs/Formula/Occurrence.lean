import Mathlib.Data.List.Induction
import Mathlib.Data.List.TakeWhile
import SheetScript.Formula.Reference
import SheetScript.Proofs.Text.Scan

/-!
What a formula refers to, said without a scanner: wherever capital letters and digits stand in the
formula, as many as there are and with at most a dollar sign between them, they refer to a cell. The
references of a formula come in the order of their places.
-/

namespace SheetScript.Formula

open Text

theorem isUpper_of_isDecimal {c : Char} (h : isDecimal c = true) : c.isUpper = false := by
  have rows : ∀ z ∈ zeros, z = 48 ∨ 90 < z := by decide
  obtain ⟨z, mem, lo, hi⟩ : ∃ z ∈ zeros, z ≤ c.toNat ∧ c.toNat < z + 10 := by
    simpa [isDecimal, digitValue?] using h
  cases upper : c.isUpper with
  | false => rfl
  | true =>
    have letter : 65 ≤ c.toNat ∧ c.toNat ≤ 90 := of_decide_eq_true upper
    have := rows z mem
    omega

structure Spelled (column anchor row : List Char) : Prop where
  column_ne : column ≠ []
  upper : ∀ c ∈ column, c.isUpper = true
  anchored : anchor = [] ∨ anchor = ['$']
  row_ne : row ≠ []
  decimal : ∀ c ∈ row, isDecimal c = true

/-- Behind the first `place` characters of a formula stands a reference to the cell `name` that no
further letters or digits extend. -/
def OccursAt (formula : List Char) (place : Nat) (name : List Char) : Prop :=
  ∃ before column anchor row after, formula = before ++ (column ++ (anchor ++ row)) ++ after ∧
    before.length = place ∧ Spelled column anchor row ∧ name = column ++ row ∧
    (∀ c ∈ before.getLast?, c.isUpper = false) ∧ ∀ c ∈ after.head?, isDecimal c = false

def Occurs (name formula : List Char) : Prop :=
  ∃ place, OccursAt formula place name

namespace Spelled

variable {column anchor row : List Char}

theorem not_upper (h : Spelled column anchor row) : ∀ c ∈ anchor ++ row, c.isUpper = false := by
  intro c mem
  rcases List.mem_append.1 mem with sign | digit
  · rcases h.anchored with rfl | rfl
    · exact absurd sign List.not_mem_nil
    · rw [List.mem_singleton.1 sign]
      decide
  · exact isUpper_of_isDecimal (h.decimal c digit)

theorem not_upper_last (h : Spelled column anchor row) :
    ∀ c ∈ (column ++ (anchor ++ row)).getLast?, c.isUpper = false := by
  intro c mem
  rw [List.getLast?_append_of_ne_nil _ (by simp [h.row_ne])] at mem
  exact h.not_upper c (List.mem_of_getLast? mem)

theorem reference?_append (h : Spelled column anchor row) {after : List Char}
    (ends : ∀ c ∈ after.head?, isDecimal c = false) :
    reference? ((column ++ (anchor ++ row)) ++ after) =
      some (column ++ row, (column ++ (anchor ++ row)).length) := by
  obtain ⟨d, ds, rfl⟩ := List.exists_cons_of_ne_nil h.row_ne
  have first : (column ++ (anchor ++ (d :: ds ++ after))).takeWhile Char.isUpper = column := by
    refine takeWhile_append_of_stop h.upper fun c head => h.not_upper c ?_
    rcases h.anchored with rfl | rfl <;> cases head <;> simp
  have digit : d ≠ '$' := by
    rintro rfl
    exact absurd (h.decimal '$' List.mem_cons_self) (by decide)
  have second : ((anchor ++ (d :: ds ++ after)).takeWhile (· = '$')).take 1 = anchor := by
    rcases h.anchored with rfl | rfl <;> simp [digit]
  have third : (d :: ds ++ after).takeWhile isDecimal = d :: ds :=
    takeWhile_append_of_stop h.decimal ends
  rw [List.append_assoc, List.append_assoc, reference?]
  rw [first, List.drop_left, second, List.drop_left, third, if_neg (by simp [h.column_ne])]
  simp [Nat.add_assoc]

end Spelled

theorem exists_spelled_of_reference? {t name : List Char} {n : Nat}
    (h : reference? t = some (name, n)) :
    ∃ column anchor row after, t = (column ++ (anchor ++ row)) ++ after ∧
      Spelled column anchor row ∧ name = column ++ row ∧
      n = (column ++ (anchor ++ row)).length ∧ ∀ c ∈ after.head?, isDecimal c = false := by
  let column := t.takeWhile Char.isUpper
  let signed := t.drop column.length
  let anchor := (signed.takeWhile (· = '$')).take 1
  let digits := signed.drop anchor.length
  let row := digits.takeWhile isDecimal
  have cut : (if column = [] ∨ row = [] then none
      else some (column ++ row, column.length + anchor.length + row.length)) = some (name, n) := h
  split at cut
  · cases cut
  · rename_i filled
    obtain ⟨column_ne, row_ne⟩ := not_or.1 filled
    obtain ⟨rfl, rfl⟩ := Prod.mk.inj (Option.some.inj cut)
    have whole : column ++ signed = t :=
      List.prefix_iff_eq_append.1 (List.takeWhile_prefix _)
    have behind : anchor ++ digits = signed :=
      List.prefix_iff_eq_append.1 ((List.take_prefix _ _).trans (List.takeWhile_prefix _))
    have last : row ++ digits.drop row.length = digits :=
      List.prefix_iff_eq_append.1 (List.takeWhile_prefix _)
    have anchored : anchor = [] ∨ anchor = ['$'] := by
      have signs : ∀ c ∈ signed.takeWhile (· = '$'), c = '$' := fun c mem => by
        simpa using List.mem_takeWhile_imp mem
      simp only [anchor]
      cases run : signed.takeWhile (· = '$') with
      | nil => exact .inl rfl
      | cons c cs =>
        rw [signs c (run ▸ List.mem_cons_self)]
        exact .inr rfl
    refine ⟨column, anchor, row, digits.drop row.length, ?_,
      ⟨column_ne, fun c => List.mem_takeWhile_imp, anchored, row_ne,
        fun c => List.mem_takeWhile_imp⟩, rfl, ?_, fun c => stop_of_mem_head?_drop⟩
    · rw [List.append_assoc, List.append_assoc, last, behind, whole]
    · simp [Nat.add_assoc]

theorem reference?_eq_none {c : Char} {cs : List Char} (h : c.isUpper = false) :
    reference? (c :: cs) = none := by
  simp [reference?, h]

theorem finds_plain {piece : List Char} (h : ∀ c ∈ piece, c.isUpper = false) (rest : List Char) :
    finds Char.isUpper reference? (piece ++ rest) = finds Char.isUpper reference? rest := by
  refine finds_kept (fun t ne suffix => ?_) h
  cases t with
  | nil => exact absurd rfl ne
  | cons c t => exact reference?_eq_none (h c (suffix.subset List.mem_cons_self))

theorem occursAt_zero_iff {formula name : List Char} :
    OccursAt formula 0 name ↔ ∃ n, reference? formula = some (name, n) := by
  constructor
  · rintro ⟨before, column, anchor, row, after, rfl, start, spelled, rfl, _, ends⟩
    rw [List.eq_nil_of_length_eq_zero start, List.nil_append]
    exact ⟨_, spelled.reference?_append ends⟩
  · rintro ⟨n, found⟩
    obtain ⟨column, anchor, row, after, text, spelled, rfl, _, ends⟩ :=
      exists_spelled_of_reference? found
    exact ⟨[], column, anchor, row, after, text, rfl, spelled, rfl, by simp, ends⟩

theorem exists_between {letters others after before t : List Char} {d : Char}
    (upper : ∀ c ∈ letters, c.isUpper = true) (other : ∀ c ∈ others, c.isUpper = false)
    (text : (letters ++ others) ++ after = before ++ d :: t) (hd : d.isUpper = true)
    (ne : before ≠ []) (last : ∀ c ∈ before.getLast?, c.isUpper = false) :
    ∃ between, before = (letters ++ others) ++ between ∧ after = between ++ d :: t := by
  rcases List.append_eq_append_iff.1 text with ⟨between, rfl, rfl⟩ | ⟨into, covered, rest⟩
  · exact ⟨between, rfl, rfl⟩
  cases into with
  | nil => exact ⟨[], by simpa using covered.symm, rest.symm⟩
  | cons e into =>
    obtain ⟨rfl, rest⟩ := List.cons.inj rest
    rcases List.append_eq_append_iff.1 covered with ⟨_, _, rfl⟩ | ⟨_, rfl, _⟩
    · have := other d (by simp)
      simp [hd] at this
    · have letter := upper _ (List.mem_append_left _ (List.getLast_mem ne))
      simp [last _ (List.getLast?_eq_some_getLast ne)] at letter

/-- What a scanner goes over in one piece: capital letters and other characters behind them, with no
more letters that belong to the first ones. -/
structure Piece (letters others after : List Char) : Prop where
  upper : ∀ c ∈ letters, c.isUpper = true
  other : ∀ c ∈ others, c.isUpper = false
  ne : letters ++ others ≠ []
  apart : (∀ c ∈ (letters ++ others).getLast?, c.isUpper = false) ∨
    ∀ c ∈ after.head?, c.isUpper = false

theorem Piece.occursAt_iff {letters others after name : List Char} {place : Nat}
    (h : Piece letters others after) (pos : 0 < place) :
    OccursAt ((letters ++ others) ++ after) place name ↔
      ∃ i, place = (letters ++ others).length + i ∧ OccursAt after i name := by
  constructor
  · rintro ⟨before, column, anchor, row, behind, text, rfl, spelled, rfl, last, ends⟩
    obtain ⟨d, ds, rfl⟩ := List.exists_cons_of_ne_nil spelled.column_ne
    replace text : (letters ++ others) ++ after =
        before ++ d :: (ds ++ (anchor ++ row) ++ behind) := by simpa using text
    obtain ⟨between, rfl, rfl⟩ := exists_between h.upper h.other text
      (spelled.upper d List.mem_cons_self) (List.ne_nil_of_length_pos pos) last
    refine ⟨between.length, List.length_append, between, d :: ds, anchor, row, behind, ?_, rfl,
      spelled, rfl, fun c mem => ?_, ends⟩
    · simp
    · exact last c (by simp [Option.mem_def.1 mem])
  · rintro ⟨_, rfl, before, column, anchor, row, behind, rfl, rfl, spelled, rfl, last, ends⟩
    refine ⟨(letters ++ others) ++ before, column, anchor, row, behind, by simp,
      List.length_append, spelled, rfl, ?_, ends⟩
    cases before using List.reverseRecOn with
    | nil =>
      rw [List.append_nil]
      refine h.apart.resolve_right fun other => ?_
      obtain ⟨d, ds, rfl⟩ := List.exists_cons_of_ne_nil spelled.column_ne
      have letter := spelled.upper d List.mem_cons_self
      simp [other d rfl] at letter
    | append_singleton before d => simpa using last

theorem Piece.occursAt_append_iff {letters others after name : List Char} {place : Nat}
    (h : Piece letters others after) :
    OccursAt ((letters ++ others) ++ after) place name ↔
      (place = 0 ∧ ∃ n, reference? ((letters ++ others) ++ after) = some (name, n)) ∨
        ∃ i, place = (letters ++ others).length + i ∧ OccursAt after i name := by
  have pos := List.length_pos_of_ne_nil h.ne
  rcases Nat.eq_zero_or_pos place with rfl | beyond
  · have off : ¬ ∃ i, 0 = (letters ++ others).length + i ∧ OccursAt after i name := by
      rintro ⟨i, start, _⟩
      omega
    rw [occursAt_zero_iff, or_iff_left off, and_iff_right rfl]
  · rw [h.occursAt_iff beyond, or_iff_right fun start => beyond.ne' start.1]

theorem finds_step (c : Char) (rest : List Char) : ∃ letters others after,
    c :: rest = (letters ++ others) ++ after ∧ Piece letters others after ∧
      finds Char.isUpper reference? (c :: rest) =
        ((reference? (c :: rest)).map (·.1)).toList ++ finds Char.isUpper reference? after := by
  cases found : reference? (c :: rest) with
  | some result =>
    obtain ⟨name, n⟩ := result
    obtain ⟨column, anchor, row, after, text, spelled, rfl, _, ends⟩ :=
      exists_spelled_of_reference? found
    refine ⟨column, anchor ++ row, after, text, ⟨spelled.upper, spelled.not_upper,
      by simp [spelled.column_ne], .inl spelled.not_upper_last⟩, ?_⟩
    rw [text]
    exact finds_found (spelled.reference?_append ends) (by simp [spelled.column_ne])
  | none =>
    by_cases upper : c.isUpper = true
    · have whole := List.prefix_iff_eq_append.1 (List.takeWhile_prefix Char.isUpper (l := rest))
      have inside : ∀ x ∈ c :: rest.takeWhile Char.isUpper, x.isUpper = true :=
        List.forall_mem_cons.2 ⟨upper, fun x => List.mem_takeWhile_imp⟩
      have ends : ∀ x ∈ (rest.drop (rest.takeWhile Char.isUpper).length).head?,
          x.isUpper = false := fun x => stop_of_mem_head?_drop
      have text : c :: rest = c :: rest.takeWhile Char.isUpper ++
          rest.drop (rest.takeWhile Char.isUpper).length := by rw [List.cons_append, whole]
      refine ⟨c :: rest.takeWhile Char.isUpper, [], _, by simpa using text,
        ⟨inside, by simp, by simp, .inr ends⟩, ?_⟩
      rw [Option.map_none, Option.toList_none, List.nil_append,
        ← finds_run (text ▸ found) inside ends, ← text]
    · have other : ∀ x ∈ [c], x.isUpper = false := by simpa using upper
      exact ⟨[], [c], rest, rfl, ⟨by simp, other, by simp, .inl (by simpa using upper)⟩,
        finds_plain other rest⟩

theorem exists_places (formula : List Char) : ∃ l : List (Nat × List Char),
    l.Pairwise (fun a b => a.1 < b.1) ∧
      (∀ place name, (place, name) ∈ l ↔ OccursAt formula place name) ∧
      l.map (·.2) = finds Char.isUpper reference? formula := by
  induction size : formula.length using Nat.strong_induction_on generalizing formula with
  | _ n ih =>
  cases formula with
  | nil =>
    refine ⟨[], .nil, fun place name => ?_, by simp⟩
    simp only [List.not_mem_nil, false_iff]
    rintro ⟨before, column, anchor, row, after, text, _, spelled, _⟩
    simp [spelled.column_ne] at text
  | cons c rest =>
    obtain ⟨letters, others, after, text, piece, scanned⟩ := finds_step c rest
    have pos := List.length_pos_of_ne_nil piece.ne
    have shorter : after.length < n := by
      rw [← size, text, List.length_append]
      omega
    obtain ⟨l, sorted, places, names⟩ := ih _ shorter after rfl
    refine ⟨((reference? (c :: rest)).map fun r => (0, r.1)).toList ++
      l.map fun e => ((letters ++ others).length + e.1, e.2), ?_, fun place name => ?_, ?_⟩
    · have later : (l.map fun e => ((letters ++ others).length + e.1, e.2)).Pairwise
          fun a b => a.1 < b.1 :=
        List.pairwise_map.2 (sorted.imp fun lt => Nat.add_lt_add_left lt _)
      cases reference? (c :: rest) with
      | none => exact later
      | some r =>
        refine List.pairwise_cons.2 ⟨fun e mem => ?_, later⟩
        obtain ⟨e, _, rfl⟩ := List.mem_map.1 mem
        exact Nat.add_pos_left pos e.1
    · have first : (place, name) ∈ ((reference? (c :: rest)).map fun r => (0, r.1)).toList ↔
          place = 0 ∧ ∃ n, reference? (c :: rest) = some (name, n) := by
        cases reference? (c :: rest) <;> simp [Prod.ext_iff, eq_comm]
      rw [List.mem_append, first, text, piece.occursAt_append_iff, ← text, List.mem_map]
      refine or_congr_right ⟨?_, ?_⟩
      · rintro ⟨⟨i, cs⟩, mem, same⟩
        obtain ⟨rfl, rfl⟩ := Prod.mk.inj same
        exact ⟨i, rfl, (places i cs).1 mem⟩
      · rintro ⟨i, rfl, occurs⟩
        exact ⟨(i, name), (places i name).2 occurs, rfl⟩
    · rw [scanned, ← names]
      cases reference? (c :: rest) <;> simp

theorem mem_references_iff {name : String} {formula : List Char} :
    name ∈ references formula ↔ Occurs name.toList formula := by
  obtain ⟨l, _, places, names⟩ := exists_places formula
  rw [Occurs, references, ← names, List.mem_map]
  constructor
  · rintro ⟨_, mem, rfl⟩
    obtain ⟨⟨place, cs⟩, listed, rfl⟩ := List.mem_map.1 mem
    exact ⟨place, by simpa using (places place cs).1 listed⟩
  · rintro ⟨place, occurs⟩
    exact ⟨_, List.mem_map.2 ⟨_, (places place _).2 occurs, rfl⟩, String.ofList_toList⟩

instance (name : String) (formula : List Char) : Decidable (Occurs name.toList formula) :=
  decidable_of_iff _ mem_references_iff

end SheetScript.Formula
