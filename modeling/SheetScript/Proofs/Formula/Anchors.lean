import SheetScript.Proofs.Formula.Compile
import SheetScript.Proofs.Formula.Expr

namespace SheetScript.Formula

open Text

structure Side where
  columnAnchor : Bool
  column : Fin 26
  rowAnchor : Bool

namespace Side

def anchored (s : Side) : Bool := s.columnAnchor || s.rowAnchor

def bare (s : Side) : Side := ⟨false, s.column, false⟩

def cell (s : Side) (row : Numeral) : Reference :=
  { Reference.short s.column row with columnAnchor := s.columnAnchor, rowAnchor := s.rowAnchor }

end Side

inductive Anchored where
  | number (n : Numeral)
  | cell (s : Side) (row : Numeral)
  | sum (first last : Side) (row : Numeral)
  | signed (s : Sign) (e : Anchored)
  | binary (o : Operator) (e e' : Anchored)
  | group (e : Anchored)

def summed (first last : Fin 26) (row : Numeral) : List Char :=
  if h : first ≤ last then (Token.sum ⟨first, last, row, h⟩).compiled else []

namespace Anchored

def text : Anchored → List Char
  | number n => n.text
  | cell s row => (s.cell row).text
  | sum first last row => sumText (first.cell row).text (last.cell row).text
  | signed s e => s.operator.char :: e.text
  | binary o e e' => e.text ++ o.char :: e'.text
  | group e => '(' :: (e.text ++ [')'])

def bare : Anchored → Anchored
  | number n => number n
  | cell s row => cell s.bare row
  | sum first last row => sum first.bare last.bare row
  | signed s e => signed s e.bare
  | binary o e e' => binary o e.bare e'.bare
  | group e => group e.bare

def rangeEnds : Anchored → List Side
  | number _ | cell _ _ => []
  | sum first last _ => [first, last]
  | signed _ e | group e => e.rangeEnds
  | binary _ e e' => e.rangeEnds ++ e'.rangeEnds

def script : Anchored → List Char
  | number n => n.text
  | cell s row => (s.cell row).name
  | sum first last row =>
    if first.anchored || last.anchored then sumText (first.cell row).name (last.cell row).name
    else summed first.column last.column row
  | signed s e => s.operator.char :: e.script
  | binary o e e' => e.script ++ o.char :: e'.script
  | group e => '(' :: (e.script ++ [')'])

end Anchored

def Rewritten (cs out : List Char) : Prop :=
  ∃ sums, expandSums cs = .ok sums ∧ dropAnchors (nameFunctions sums) = out

theorem turns_rewritten {piece sums halfway named : List Char}
    (expand : Turns (expandSums · = .ok ·) piece sums)
    (least : Turns (replaceText "MIN".toList "Math.min".toList · = ·) sums halfway)
    (greatest : Turns (replaceText "MAX".toList "Math.max".toList · = ·) halfway named) :
    Turns Rewritten piece (dropAnchors named) := by
  rintro rest _ ⟨later, expanded, rfl⟩
  refine ⟨sums ++ later, expand _ _ expanded, ?_⟩
  rw [nameFunctions, least _ _ rfl, greatest _ _ rfl, dropAnchors_append]
  rfl

theorem turns_token (t : Token) : Turns Rewritten t.text t.compiled := by
  have turns := turns_rewritten (turns_expandSums t) (turns_functions (by decide) turns_least t)
    (turns_functions (by decide) turns_greatest t)
  rwa [dropAnchors_spelled] at turns

theorem compileChars_of_rewritten {cs out : List Char} (percent : '%' ∉ cs) (comma : ',' ∉ out)
    (h : Rewritten cs out) : compileChars cs = .ok out := by
  obtain ⟨sums, expanded, rfl⟩ := h
  have free : ',' ∉ nameFunctions sums := fun mem => comma (List.mem_filter.2 ⟨mem, by decide⟩)
  rw [compileChars_eq_ok percent expanded, pointDecimals_of_not_mem free]

namespace Side

theorem exists_drop_eq_cons {s : Side} (h : s.anchored = true) (row : Numeral)
    (rest : List Char) :
    ∃ more, ((s.cell row).text ++ rest).drop
      (((s.cell row).text ++ rest).takeWhile isWord).length = '$' :: more := by
  obtain ⟨columnAnchor, column, rowAnchor⟩ := s
  have dollar : isWord '$' = false := by decide +kernel
  cases columnAnchor with
  | true => simp [cell, Reference.text, anchor, dollar]
  | false =>
    cases rowAnchor with
    | true => simp [cell, Reference.text, Reference.short, anchor, isWord_letter, dollar]
    | false => cases h

theorem text_of_not_anchored {s : Side} (h : s.anchored = false) (row : Numeral) :
    (s.cell row).text = letter s.column :: row.text := by
  obtain ⟨columnAnchor, column, rowAnchor⟩ := s
  obtain ⟨rfl, rfl⟩ := Bool.or_eq_false_iff.1 h
  rfl

theorem name_cell (s : Side) (row : Numeral) : (s.cell row).name = letter s.column :: row.text :=
  rfl

end Side

theorem sumRange?_of_anchored {first last : Side}
    (h : (first.anchored || last.anchored) = true) (row : Numeral) (rest : List Char) :
    sumRange? (sumText (first.cell row).text (last.cell row).text ++ rest) = none := by
  have text : sumText (first.cell row).text (last.cell row).text ++ rest = 'S' :: 'U' :: 'M' ::
      '(' :: ((first.cell row).text ++ ':' :: ((last.cell row).text ++ ')' :: rest)) := by
    simp [sumText]
  rw [text]
  cases left : first.anchored with
  | true =>
    obtain ⟨more, stop⟩ := first.exists_drop_eq_cons left row
      (':' :: ((last.cell row).text ++ ')' :: rest))
    simp [sumRange?, stop]
  | false =>
    rw [left, Bool.false_or] at h
    obtain ⟨more, stop⟩ := last.exists_drop_eq_cons h row (')' :: rest)
    have side : ((first.cell row).text ++ ':' :: ((last.cell row).text ++ ')' :: rest)).takeWhile
        isWord = (first.cell row).text := by
      have colon : isWord ':' = false := by decide +kernel
      rw [Side.text_of_not_anchored left]
      exact takeWhile_append_of_stop isWord_of_mem_side (by simpa using colon)
    simp [sumRange?, side, stop]

theorem writeSum_of_lt {first last : Fin 26} (h : last < first) (row : Numeral) :
    writeSum (letter first :: row.text, letter last :: row.text) = .ok [] := by
  have none : last.val + 1 + 1 - (first.val + 1) = 0 := by omega
  rw [writeSum, sideColumn_side, sideColumn_side]
  change Except.ok (['+'].intercalate (rowCells _ (first.val + 1) _)) = _
  rw [none]
  rfl

theorem turns_summed (first last : Fin 26) (row : Numeral) :
    Turns Rewritten (sumText (letter first :: row.text) (letter last :: row.text))
      (summed first last row) := by
  rw [summed]
  split
  · rename_i h
    rw [← Range.text_eq ⟨first, last, row, h⟩]
    exact turns_token (.sum ⟨first, last, row, h⟩)
  · rename_i h
    have gone : Turns (expandSums · = .ok ·)
        (sumText (letter first :: row.text) (letter last :: row.text)) [] :=
      turns_replaceM_found
        (sumRange?_sumText isWord_of_mem_side isWord_of_mem_side (by simp) (by simp))
        (by simp [sumText]) (writeSum_of_lt (not_le.1 h) row)
    have kept (w new : List Char) : Turns (replaceText w new · = ·) [] [] := fun _ _ same => same
    exact turns_rewritten gone (kept _ _) (kept _ _)

theorem turns_functions_sumText {w new : List Char} (h : w ∈ functions) (first last : Reference) :
    Turns (replaceText w new · = ·) (sumText first.text last.text)
      (sumText first.text last.text) := by
  have cell (r : Reference) : Turns (replaceText w new · = ·) r.text r.text :=
    replaceText_kept fun _ ne suffix _ => not_function_prefix_cell h ne suffix
  have free (piece : List Char) (absent : 'M' ∉ piece) :
      Turns (replaceText w new · = ·) piece piece := by
    refine replaceText_kept fun t ne suffix rest => ?_
    rcases List.mem_pair.1 h with rfl | rfl <;> exact not_prefix_of_not_mem absent ne suffix
  have opening : Turns (replaceText w new · = ·) ['M', '('] ['M', '('] := by
    refine replaceText_kept fun t ne suffix rest => ?_
    rcases List.mem_pair.1 h with rfl | rfl <;>
      exact not_prefix_of_ne (by decide) (by decide) ne suffix
  have start := (free ['S', 'U'] (by decide)).append opening
  exact start.append ((cell first).append
    ((free [':'] (by decide)).append ((cell last).append (free [')'] (by decide)))))

theorem turns_expandSums_sumText {first last : Side}
    (h : (first.anchored || last.anchored) = true) (row : Numeral) :
    Turns (expandSums · = .ok ·) (sumText (first.cell row).text (last.cell row).text)
      (sumText (first.cell row).text (last.cell row).text) := by
  have free (piece : List Char) (absent : 'S' ∉ piece) :
      Turns (expandSums · = .ok ·) piece piece :=
    turns_expandSums_kept fun _ ne suffix _ => not_prefix_of_not_mem absent ne suffix
  have cell (s : Side) : Turns (expandSums · = .ok ·) (s.cell row).text (s.cell row).text :=
    turns_expandSums (.cell (s.cell row))
  have behind := (free ['U', 'M', '('] (by decide)).append ((cell first).append
    ((free [':'] (by decide)).append ((cell last).append (free [')'] (by decide)))))
  intro rest out later
  have missed := sumRange?_of_anchored h row rest
  have start : Segment.rewrite writeSum (.plain ['S']) = .ok ['S'] := rfl
  have whole := replaceM_of_scan (scan_plain missed rfl) start (behind _ _ later)
  exact whole

theorem dropAnchors_sumText (first last : Reference) :
    dropAnchors (sumText first.text last.text) = sumText first.name last.name := by
  have parts : sumText first.text last.text =
      ['S', 'U', 'M', '('] ++ (first.text ++ ([':'] ++ (last.text ++ [')']))) := rfl
  have sign (cs : List Char) (h : cs ∈ [['S', 'U', 'M', '('], [':'], [')']]) :
      dropAnchors cs = cs := by
    revert cs
    decide
  simp only [parts, dropAnchors_append, dropAnchors_text]
  rw [sign _ (by simp), sign _ (by simp), sign _ (by simp)]
  rfl

namespace Anchored

theorem turns_text (e : Anchored) : Turns Rewritten e.text e.script := by
  induction e with
  | number n => exact turns_token (.number n)
  | cell s row => exact turns_token (.cell (s.cell row))
  | sum first last row =>
    rw [text, script]
    split
    · rename_i h
      rw [← dropAnchors_sumText]
      exact turns_rewritten (turns_expandSums_sumText h row)
        (turns_functions_sumText (by decide) _ _) (turns_functions_sumText (by decide) _ _)
    · rename_i h
      obtain ⟨left, right⟩ := Bool.or_eq_false_iff.1 (Bool.eq_false_iff.2 h)
      rw [Side.text_of_not_anchored left, Side.text_of_not_anchored right]
      exact turns_summed first.column last.column row
  | signed s e ih => exact (turns_token (.operator s.operator)).append ih
  | binary o e e' ih ih' => exact ih.append ((turns_token (.operator o)).append ih')
  | group e ih => exact (turns_token .opening).append (ih.append (turns_token .closing))

theorem percent_not_mem_text (e : Anchored) : '%' ∉ e.text := by
  have cell (r : Reference) : '%' ∉ r.text := Token.percent_not_mem_text (.cell r)
  have operator (o : Operator) : '%' ≠ o.char := by cases o <;> decide
  induction e with
  | number n => exact Token.percent_not_mem_text (.number n)
  | cell s row => exact cell _
  | sum first last row => simp [text, sumText, cell]
  | signed s e ih => simp [text, operator, ih]
  | binary o e e' ih ih' => simp [text, operator, ih, ih']
  | group e ih => simp [text, ih]

theorem mem_summed {c : Char} {first last : Fin 26} {row : Numeral}
    (h : c ∈ summed first last row) : c = '+' ∨ (∃ a, c = letter a) ∨ ∃ d, c = digit d := by
  have cell {a : Fin 26} (mem : c ∈ (Reference.short a row).name) :
      (∃ a, c = letter a) ∨ ∃ d, c = digit d := by
    rcases List.mem_append.1 mem with mem | mem
    · obtain ⟨a, _, rfl⟩ := List.mem_map.1 mem
      exact .inl ⟨a, rfl⟩
    · obtain ⟨d, _, rfl⟩ := List.mem_map.1 mem
      exact .inr ⟨d, rfl⟩
  rw [summed] at h
  split at h
  · rcases List.mem_append.1 h with mem | mem
    · exact .inr (cell mem)
    · obtain ⟨a, _, mem⟩ := List.mem_flatMap.1 mem
      exact (List.mem_cons.1 mem).imp_right cell
  · exact absurd h List.not_mem_nil

theorem mem_script_iff {c : Char} (digits : ∀ d, digit d ≠ c) (letters : ∀ a, letter a ≠ c)
    (signs : c ∉ ['+', '-', '*', '/', '(', ')']) (e : Anchored) :
    c ∈ e.script ↔ c = ':' ∧ ∃ s ∈ e.rangeEnds, s.anchored = true := by
  have number (n : Numeral) : c ∉ n.text := by simp [Numeral.text, digits]
  have cell (s : Side) (row : Numeral) : c ∉ (s.cell row).name := by
    simp [Side.name_cell, (letters _).symm, number]
  have operator (o : Operator) : c ≠ o.char := by
    rintro rfl
    cases o <;> simp [Operator.char] at signs
  obtain ⟨plus, opening, closing⟩ : c ≠ '+' ∧ c ≠ '(' ∧ c ≠ ')' := by
    simp only [List.mem_cons, not_or] at signs
    exact ⟨signs.1, signs.2.2.2.2.1, signs.2.2.2.2.2.1⟩
  have sum : c ≠ 'S' ∧ c ≠ 'U' ∧ c ≠ 'M' :=
    ⟨(letters 18).symm, (letters 20).symm, (letters 12).symm⟩
  induction e with
  | number n => simp [script, rangeEnds, number]
  | cell s row => simp [script, rangeEnds, cell]
  | sum first last row =>
    rw [script]
    split
    -- With an end anchored, the sum is left as it is, colon included.
    · rename_i h
      simp [sumText, rangeEnds, cell, opening, closing, sum, Bool.or_eq_true_iff.1 h]
    · rename_i h
      have none : c ∉ summed first.column last.column row := by
        intro mem
        rcases mem_summed mem with h | ⟨a, h⟩ | ⟨d, h⟩
        · exact plus h
        · exact letters a h.symm
        · exact digits d h.symm
      simpa [rangeEnds, none] using fun _ => h
  | signed s e ih => simp [script, rangeEnds, operator, ih]
  | binary o e e' ih ih' =>
    simp only [script, rangeEnds, List.mem_append, List.mem_cons, operator, false_or, ih, ih',
      ← and_or_left, or_and_right, exists_or]
  | group e ih => simp [script, rangeEnds, opening, closing, ih]

theorem text_bare (e : Anchored) : e.bare.text = dropAnchors e.text := by
  have cell (s : Side) (row : Numeral) : (s.bare.cell row).text = (s.cell row).name := rfl
  have operator (o : Operator) (cs : List Char) :
      dropAnchors (o.char :: cs) = o.char :: dropAnchors cs := by
    cases o <;> rfl
  induction e with
  | number n => exact (dropAnchors_map digit_ne_anchor n.digits).symm
  | cell s row => rw [bare, text, text, dropAnchors_text, cell]
  | sum first last row => rw [bare, text, text, dropAnchors_sumText, cell, cell]
  | signed s e ih => rw [bare, text, text, operator, ih]
  | binary o e e' ih ih' => rw [bare, text, text, dropAnchors_append, operator, ih, ih']
  | group e ih =>
    have signs : dropAnchors ('(' :: (e.text ++ [')'])) = '(' :: (dropAnchors e.text ++ [')']) := by
      simp [dropAnchors]
    rw [bare, text, text, signs, ih]

theorem not_anchored_of_mem_rangeEnds_bare {e : Anchored} {s : Side} (h : s ∈ e.bare.rangeEnds) :
    s.anchored = false := by
  induction e with
  | number n | cell _ _ => cases h
  | sum first last row =>
    rcases List.mem_pair.1 h with rfl | rfl <;> rfl
  | signed _ e ih | group e ih => exact ih h
  | binary o e e' ih ih' => exact (List.mem_append.1 h).elim ih ih'

theorem script_bare {e : Anchored} (h : ∀ s ∈ e.rangeEnds, s.anchored = false) :
    e.bare.script = e.script := by
  induction e with
  | number n | cell _ _ => rfl
  | sum first last row =>
    have left : first.anchored = false := h first (by simp [rangeEnds])
    have right : last.anchored = false := h last (by simp [rangeEnds])
    have gone (s : Side) : s.bare.anchored = false := rfl
    simp only [bare, script, left, right, gone]
    rfl
  | signed s e ih | group e ih =>
    have part := ih h
    simp [bare, script, part]
  | binary o e e' ih ih' =>
    obtain ⟨left, right⟩ := List.forall_mem_append.1 h
    rw [bare, script, script, ih left, ih' right]

theorem compile_text (e : Anchored) :
    compile (String.ofList e.text) = .ok (String.ofList e.script) := by
  have comma : ',' ∉ e.script := by
    rw [e.mem_script_iff (by decide) (by decide) (by decide)]
    simp
  have nothing : Rewritten [] [] :=
    ⟨[], replaceM_nil, by simp [nameFunctions, replaceText, dropAnchors]⟩
  have rewritten : Rewritten e.text e.script := e.turns_text.all nothing
  rw [compile, String.toList_ofList,
    compileChars_of_rewritten e.percent_not_mem_text comma rewritten]
  rfl

end Anchored

/-- A formula and the formula without its dollar signs both have a script expression. The two are
the same exactly when no end of a range is anchored. -/
theorem anchors_dropped_iff_ranges_bare (e : Anchored) :
    ∃ out bare, compile (String.ofList e.text) = .ok out ∧
      compile (String.ofList (e.text.filter (· ≠ '$'))) = .ok bare ∧
      (out = bare ↔ ∀ s ∈ e.rangeEnds, s.anchored = false) := by
  have without := e.bare.compile_text
  rw [e.text_bare] at without
  refine ⟨_, _, e.compile_text, without, ?_⟩
  rw [String.ofList_inj]
  constructor
  · intro same s mem
    have colon := e.bare.mem_script_iff (c := ':') (by decide) (by decide) (by decide)
    rw [← same, e.mem_script_iff (by decide) (by decide) (by decide)] at colon
    by_contra anchored
    obtain ⟨_, s', mem', anchored'⟩ := colon.1 ⟨rfl, s, mem, by simpa using anchored⟩
    rw [Anchored.not_anchored_of_mem_rangeEnds_bare mem'] at anchored'
    cases anchored'
  · exact fun h => (Anchored.script_bare h).symm

theorem sum_left_in_anchored_range :
    let e : Anchored := .sum ⟨true, 0, false⟩ ⟨false, 1, false⟩ ⟨[1], by decide⟩
    String.ofList e.text = "SUM($A1:B1)" ∧
      String.ofList (e.text.filter (· ≠ '$')) = "SUM(A1:B1)" ∧
      compile "SUM($A1:B1)" = .ok "SUM(A1:B1)" ∧ compile "SUM(A1:B1)" = .ok "A1+B1" := by
  refine ⟨by decide, by decide, ?_, ?_⟩ <;> decide +kernel

end SheetScript.Formula
