import SheetScript.Formula.Compile
import SheetScript.Proofs.Formula.Lexer
import SheetScript.Proofs.Text.Scan

namespace SheetScript.Formula

open Text

def Extreme.method : Extreme → List Char
  | least => "Math.min(".toList
  | greatest => "Math.max(".toList

namespace Token

def spelled (spell : Extreme → List Char) : Token → List Char
  | sum r => (Reference.short r.first r.row).name ++
      r.later.flatMap fun c => '+' :: (Reference.short c r.row).name
  | call f => spell f
  | t => t.text

def compiled : Token → List Char
  | cell r => r.name
  | t => t.spelled Extreme.method

theorem percent_not_mem_text (t : Token) : '%' ∉ t.text := by
  have letters : ∀ a, letter a ≠ '%' := by decide
  have digits : ∀ d, digit d ≠ '%' := by decide
  cases t with
  | number n => simp [text, Numeral.text, digits]
  | cell r =>
    intro mem
    rcases Reference.mem_text mem with h | ⟨a, h⟩ | ⟨d, h⟩
    · cases h
    · exact letters a h.symm
    · exact digits d h.symm
  | sum r => simp [text, Range.text, Numeral.text, digits, (letters _).symm]
  | call f => cases f <;> decide
  | operator o => cases o <;> decide
  | comma | opening | closing => decide

end Token

theorem commaPercent?_eq_none {cs : List Char} (h : '%' ∉ cs) : commaPercent? cs = none := by
  unfold commaPercent?
  dsimp only
  split
  · rename_i more after
    split
    · rename_i later behind
      have suffix : '%' :: later <:+ cs :=
        (behind ▸ List.drop_suffix _ _ : '%' :: later <:+ more).trans
          ((List.suffix_cons ',' more).trans (after ▸ List.drop_suffix _ _))
      exact absurd (suffix.subset List.mem_cons_self) h
    · rfl
  · rfl

theorem percent?_eq_none {cs : List Char} (h : '%' ∉ cs) : percent? cs = none := by
  unfold percent?
  dsimp only
  split
  · rename_i later behind
    have suffix : '%' :: later <:+ cs := behind ▸ List.drop_suffix _ _
    exact absurd (suffix.subset List.mem_cons_self) h
  · rfl

theorem expandCommaPercents_eq_self {cs : List Char} (h : '%' ∉ cs) :
    expandCommaPercents cs = .ok cs :=
  replaceM_eq_self fun _ suffix => commaPercent?_eq_none fun mem => h (suffix.subset mem)

theorem expandPercents_eq_self {cs : List Char} (h : '%' ∉ cs) : expandPercents cs = .ok cs :=
  replaceM_eq_self fun _ suffix => percent?_eq_none fun mem => h (suffix.subset mem)

theorem sumRange?_eq_none {cs : List Char} (h : ¬ "SUM(".toList <+: cs) : sumRange? cs = none := by
  unfold sumRange?
  split
  · exact absurd (by simp) h
  · rfl

theorem isWord_letter (c : Fin 26) : isWord (letter c) = true := by
  revert c
  decide +kernel

theorem isWord_digit (d : Fin 10) : isWord (digit d) = true := by
  revert d
  decide +kernel

def sumText (left right : List Char) : List Char :=
  'S' :: 'U' :: 'M' :: '(' :: (left ++ ':' :: (right ++ [')']))

theorem sumRange?_sumText {left right : List Char} (hl : ∀ c ∈ left, isWord c = true)
    (hr : ∀ c ∈ right, isWord c = true) (nl : left ≠ []) (nr : right ≠ []) (rest : List Char) :
    sumRange? (sumText left right ++ rest) =
      some ((left, right), (sumText left right).length) := by
  have colon : isWord ':' = false := by decide +kernel
  have closing : isWord ')' = false := by decide +kernel
  have first : (left ++ ':' :: (right ++ ')' :: rest)).takeWhile isWord = left :=
    takeWhile_append_of_stop hl (by simpa using colon)
  have second : (right ++ ')' :: rest).takeWhile isWord = right :=
    takeWhile_append_of_stop hr (by simpa using closing)
  simp [sumRange?, sumText, first, second, nl, nr]
  omega

theorem isWord_of_mem_side {a : Fin 26} {row : Numeral} :
    ∀ c ∈ letter a :: row.text, isWord c = true := by
  simp [isWord_letter, Numeral.text, isWord_digit]

theorem Range.text_eq (r : Range) :
    r.text = sumText (letter r.first :: r.row.text) (letter r.last :: r.row.text) := by
  simp [text, sumText]

theorem sumRange?_text (r : Range) (rest : List Char) :
    sumRange? (r.text ++ rest) =
      some ((letter r.first :: r.row.text, letter r.last :: r.row.text), r.text.length) := by
  rw [r.text_eq]
  exact sumRange?_sumText isWord_of_mem_side isWord_of_mem_side (by simp) (by simp) rest

theorem sideColumn_side (c : Fin 26) (row : List Char) :
    sideColumn (letter c :: row) = .ok (c.val + 1) := by
  have column : Column.ofChar? (letter c) = some (c.val + 1) := by
    revert c
    decide
  simp [sideColumn, column]

theorem letters_succ (c : Fin 26) : Column.letters (c.val + 1) = [letter c] := by
  have small : c.val / 26 = 0 := Nat.div_eq_of_lt c.2
  have digit : c.val % 26 = c := Nat.mod_eq_of_lt c.2
  rw [Column.letters, if_neg (Nat.succ_ne_zero _), Nat.add_sub_cancel, small, digit,
    Column.letters, if_pos rfl]
  rfl

theorem map_add_range (r : Range) : (List.range (r.last + 1 - r.first)).map (r.first.val + ·) =
    (r.first :: r.later).map Fin.val := by
  have all : ∀ a b : Fin 26, a ≤ b → (List.range (b.val + 1 - a)).map (a.val + ·) =
      (a :: (List.finRange 26).filter fun c => a < c ∧ c ≤ b).map Fin.val := by
    decide +kernel
  exact all r.first r.last r.ordered

theorem rowCells_range (r : Range) :
    rowCells r.row.text (r.first + 1) (r.last + 1 + 1 - (r.first + 1)) =
      r.cells.map Reference.name := by
  have cell (c : Fin 26) : Column.letters (c.val + 1) ++ r.row.text =
      (Reference.short c r.row).name := by
    rw [letters_succ]
    rfl
  calc
    _ = ((List.range (r.last + 1 - r.first)).map (r.first.val + ·)).map
        fun i => Column.letters (i + 1) ++ r.row.text := by
      rw [rowCells, Nat.add_sub_add_right, List.map_map]
      refine List.map_congr_left fun i _ => ?_
      rw [Function.comp_apply, Nat.add_right_comm]
    _ = r.cells.map Reference.name := by
      rw [map_add_range, Range.cells, List.map_map, List.map_map]
      exact List.map_congr_left fun c _ => cell c

theorem intercalate_cons (sep a : List Char) (l : List (List Char)) :
    sep.intercalate (a :: l) = a ++ l.flatMap (sep ++ ·) := by
  induction l generalizing a with
  | nil => simp [List.intercalate]
  | cons b l ih =>
    have later := ih b
    rw [List.intercalate] at later ⊢
    rw [List.intersperse_cons_cons, List.flatten_cons, List.flatten_cons, later]
    simp

theorem writeSum_range (r : Range) :
    writeSum (letter r.first :: r.row.text, letter r.last :: r.row.text) =
      .ok ((Token.sum r).spelled Extreme.text) := by
  have joined : ['+'].intercalate (r.cells.map Reference.name) =
      (Token.sum r).spelled Extreme.text := by
    rw [Range.cells, List.map_cons, List.map_cons, intercalate_cons]
    simp [Token.spelled, List.flatMap_map]
  rw [writeSum, sideColumn_side, sideColumn_side, ← joined, ← rowCells_range]
  rfl

theorem not_prefix_of_not_mem {c : Char} {w piece t rest : List Char} (absent : c ∉ piece)
    (ne : t ≠ []) (suffix : t <:+ piece) : ¬ c :: w <+: t ++ rest := by
  cases t with
  | nil => exact absurd rfl ne
  | cons d t =>
    intro h
    obtain ⟨rfl, _⟩ := List.cons_prefix_cons.1 h
    exact absent (suffix.subset List.mem_cons_self)

theorem not_prefix_of_ne {a x y : Char} {w piece t rest : List Char} (differs : y ≠ x)
    (absent : a ∉ x :: piece) (ne : t ≠ []) (suffix : t <:+ a :: x :: piece) :
    ¬ a :: y :: w <+: t ++ rest := by
  rcases List.suffix_cons_iff.1 suffix with rfl | later
  · simp [differs]
  · exact not_prefix_of_not_mem absent ne later

theorem turns_expandSums_kept {piece : List Char}
    (h : ∀ t, t ≠ [] → t <:+ piece → ∀ rest, ¬ "SUM(".toList <+: t ++ rest) :
    Turns (expandSums · = .ok ·) piece piece :=
  turns_replaceM_kept (fun t ne suffix rest => sumRange?_eq_none (h t ne suffix rest))
    fun _ _ => rfl

theorem expandSums_of_not_mem {cs : List Char} (h : 'S' ∉ cs) : expandSums cs = .ok cs :=
  (turns_expandSums_kept fun _ ne suffix _ => not_prefix_of_not_mem h ne suffix).all replaceM_nil

theorem turns_expandSums (t : Token) :
    Turns (expandSums · = .ok ·) t.text (t.spelled Extreme.text) := by
  cases t with
  | number n =>
    exact turns_expandSums_kept fun _ ne suffix _ =>
      Token.not_call_prefix n.exists_last n.opening_not_mem_text ne suffix _ (by decide)
  | cell r =>
    exact turns_expandSums_kept fun _ ne suffix _ =>
      Token.not_call_prefix r.exists_last r.opening_not_mem_text ne suffix _ (by decide)
  | sum r =>
    exact turns_replaceM_found (sumRange?_text r) (by simp [Token.text, Range.text])
      (writeSum_range r)
  | call f =>
    have absent : 'S' ∉ f.text := by cases f <;> decide
    exact turns_expandSums_kept fun _ ne suffix _ => not_prefix_of_not_mem absent ne suffix
  | operator o =>
    have absent : 'S' ∉ [o.char] := by cases o <;> decide
    exact turns_expandSums_kept fun _ ne suffix _ => not_prefix_of_not_mem absent ne suffix
  | comma | opening | closing =>
    exact turns_expandSums_kept fun _ ne suffix _ => not_prefix_of_not_mem (by decide) ne suffix

theorem replaceText_kept {old new piece : List Char}
    (h : ∀ t, t ≠ [] → t <:+ piece → ∀ rest, ¬ old <+: t ++ rest) :
    Turns (replaceText old new · = ·) piece piece :=
  turns_replace_kept (fun t ne suffix rest => by simp [h t ne suffix rest]) fun _ _ => rfl

theorem replaceText_found {old new : List Char} (ne : old ≠ []) :
    Turns (replaceText old new · = ·) old new :=
  turns_replace_found (a := ()) (fun rest => by simp) ne

theorem replaceText_of_not_mem {old new cs : List Char} {c : Char} (ne : old ≠ []) (mem : c ∈ new)
    (absent : c ∉ replaceText old new cs) : replaceText old new cs = cs ∧ ¬ old <:+: cs := by
  induction cs with
  | nil => exact ⟨replace_nil, fun h => ne (List.infix_nil.1 h)⟩
  | cons d cs ih =>
    have start : ¬ old <+: d :: cs := by
      rintro ⟨rest, text⟩
      rw [← text, replaceText_found ne rest _ rfl] at absent
      exact absent (List.mem_append_left _ mem)
    have step : replaceText old new (d :: cs) = d :: replaceText old new cs := by
      rw [replaceText, replace, scan_plain (by simp [start]) rfl]
      simp [replace]
    rw [step] at absent ⊢
    obtain ⟨same, free⟩ := ih fun later => absent (.tail d later)
    rw [same, List.infix_cons_iff]
    exact ⟨rfl, not_or.2 ⟨start, free⟩⟩

def functions : List (List Char) := ["MIN".toList, "MAX".toList]

theorem digit_not_mem_of_mem_functions {d : Fin 10} : ∀ w ∈ functions, digit d ∉ w := by
  revert d
  decide

theorem filter_isUpper_of_mem_functions : ∀ w ∈ functions, w.filter Char.isUpper = w := by
  decide

theorem filter_isUpper_text (r : Reference) : r.text.filter Char.isUpper = r.column.map letter := by
  have anchors (b : Bool) : (anchor b).filter Char.isUpper = [] := by cases b <;> decide
  have column : (r.column.map letter).filter Char.isUpper = r.column.map letter := by
    simp [List.filter_eq_self, isUpper_letter]
  have row : r.row.text.filter Char.isUpper = [] := by
    simp [Numeral.text, List.filter_eq_nil_iff, isUpper_digit]
  simp [Reference.text, anchors, column, row]

theorem not_function_infix_text (r : Reference) : ∀ w ∈ functions, ¬ w <:+: r.text := by
  intro w h inside
  have upper := inside.filter Char.isUpper
  rw [filter_isUpper_of_mem_functions w h, filter_isUpper_text] at upper
  rcases List.mem_pair.1 h with rfl | rfl
  · exact r.plain.1 upper
  · exact r.plain.2 upper

theorem not_function_prefix_cell {r : Reference} {w t rest : List Char} (h : w ∈ functions)
    (ne : t ≠ []) (suffix : t <:+ r.text) : ¬ w <+: t ++ rest := by
  obtain ⟨cs, d, text⟩ := r.exists_last
  obtain rfl | ⟨t, rfl, _⟩ := List.suffix_concat_iff.1 (text ▸ suffix)
  · exact absurd rfl ne
  · refine not_prefix_append (fun start => ?_) (digit_not_mem_of_mem_functions w h)
    exact not_function_infix_text r w h (start.isInfix.trans suffix.isInfix)

theorem turns_functions {w new : List Char} (h : w ∈ functions) {spell spell' : Extreme → List Char}
    (calls : ∀ f, Turns (replaceText w new · = ·) (spell f) (spell' f)) (t : Token) :
    Turns (replaceText w new · = ·) (t.spelled spell) (t.spelled spell') := by
  have cell (r : Reference) : Turns (replaceText w new · = ·) r.text r.text :=
    replaceText_kept fun _ ne suffix _ => not_function_prefix_cell h ne suffix
  have free (piece : List Char) (absent : 'M' ∉ piece) :
      Turns (replaceText w new · = ·) piece piece := by
    refine replaceText_kept fun t ne suffix rest => ?_
    rcases List.mem_pair.1 h with rfl | rfl <;> exact not_prefix_of_not_mem absent ne suffix
  cases t with
  | number n =>
    have digits : ∀ d, digit d ≠ 'M' := by decide
    exact free n.text (by simp [Numeral.text, digits])
  | cell r => exact cell r
  | sum r =>
    refine (cell (.short r.first r.row)).append (Turns.flatMap fun c _ => ?_)
    exact (free ['+'] (by decide)).append (cell (.short c r.row))
  | call f => exact calls f
  | operator o => exact free [o.char] (by cases o <;> decide)
  | comma => exact free [','] (by decide)
  | opening => exact free ['('] (by decide)
  | closing => exact free [')'] (by decide)

def Extreme.halfway : Extreme → List Char
  | least => "Math.min(".toList
  | greatest => "MAX(".toList

theorem turns_least (f : Extreme) :
    Turns (replaceText "MIN".toList "Math.min".toList · = ·) f.text f.halfway := by
  cases f with
  | least =>
    have bracket : Turns (replaceText "MIN".toList "Math.min".toList · = ·) ['('] ['('] :=
      replaceText_kept fun _ ne suffix _ => not_prefix_of_not_mem (by decide) ne suffix
    exact (replaceText_found (by decide)).append bracket
  | greatest =>
    exact replaceText_kept fun _ ne suffix _ =>
      not_prefix_of_ne (by decide) (by decide) ne suffix

theorem turns_greatest (f : Extreme) :
    Turns (replaceText "MAX".toList "Math.max".toList · = ·) f.halfway f.method := by
  cases f with
  | least =>
    exact replaceText_kept fun _ ne suffix _ =>
      not_prefix_of_ne (by decide) (by decide) ne suffix
  | greatest =>
    have bracket : Turns (replaceText "MAX".toList "Math.max".toList · = ·) ['('] ['('] :=
      replaceText_kept fun _ ne suffix _ => not_prefix_of_not_mem (by decide) ne suffix
    exact (replaceText_found (by decide)).append bracket

theorem nameFunctions_spelled (ts : List Token) :
    nameFunctions (ts.flatMap (Token.spelled Extreme.text)) =
      ts.flatMap (Token.spelled Extreme.method) := by
  have first := (Turns.flatMap fun t (_ : t ∈ ts) =>
    turns_functions (by decide) turns_least t).all replace_nil
  have second := (Turns.flatMap fun t (_ : t ∈ ts) =>
    turns_functions (by decide) turns_greatest t).all replace_nil
  rw [nameFunctions, first, second]

theorem nameFunctions_of_not_mem {cs : List Char} (h : 'M' ∉ cs) : nameFunctions cs = cs := by
  have kept {w new : List Char} : replaceText ('M' :: w) new cs = cs :=
    (replaceText_kept fun _ ne suffix _ => not_prefix_of_not_mem h ne suffix).all replace_nil
  have least : replaceText "MIN".toList "Math.min".toList cs = cs := kept
  have greatest : replaceText "MAX".toList "Math.max".toList cs = cs := kept
  rw [nameFunctions, least, greatest]

theorem mem_nameFunctions {c : Char} {cs : List Char} (h : c ∈ nameFunctions cs) :
    c ∈ cs ∨ c ∈ "Math.min".toList ∨ c ∈ "Math.max".toList := by
  rcases mem_of_mem_replace h with h | ⟨_, h⟩
  · rcases mem_of_mem_replace h with h | ⟨_, h⟩
    · exact .inl h
    · exact .inr (.inl h)
  · exact .inr (.inr h)

theorem nameFunctions_of_point_not_mem {cs : List Char} (h : '.' ∉ nameFunctions cs) :
    nameFunctions cs = cs ∧ ∀ w ∈ functions, ¬ w <:+: cs := by
  obtain ⟨greatest, noMax⟩ := replaceText_of_not_mem (by decide) (by decide) h
  rw [nameFunctions, greatest] at h ⊢
  obtain ⟨least, noMin⟩ := replaceText_of_not_mem (by decide) (by decide) h
  rw [least] at noMax
  refine ⟨least, fun w mem => ?_⟩
  rcases List.mem_pair.1 mem with rfl | rfl
  · exact noMin
  · exact noMax

theorem decimalComma?_eq_none {cs : List Char}
    (h : cs.IsChain fun a b => a = ',' → isDecimal b = false) : decimalComma? cs = none := by
  unfold decimalComma?
  dsimp only
  split
  · rename_i more after
    have part : more.takeWhile isDecimal = [] := by
      cases more with
      | nil => rfl
      | cons b more =>
        have behind := h.suffix (after ▸ List.drop_suffix _ _ : ',' :: b :: more <:+ cs)
        exact List.takeWhile_cons_of_neg (by simp [(List.isChain_cons_cons.1 behind).1 rfl])
    simp [part]
  · rfl

theorem pointDecimals_eq_self {cs : List Char}
    (h : cs.IsChain fun a b => a = ',' → isDecimal b = false) : pointDecimals cs = cs :=
  replace_eq_self fun _ suffix => decimalComma?_eq_none (h.suffix suffix)

theorem pointDecimals_of_not_mem {cs : List Char} (h : ',' ∉ cs) : pointDecimals cs = cs := by
  refine pointDecimals_eq_self (List.pairwise_of_forall_mem_list fun a mem b _ => ?_).isChain
  rintro rfl
  exact absurd mem h

theorem decimalComma?_cons {c : Char} (h : isDecimal c = false) (rest : List Char) :
    decimalComma? (c :: rest) = none := by
  unfold decimalComma?
  simp only [List.takeWhile_cons_of_neg (by simp [h] : ¬ isDecimal c = true)]
  split
  · simp
  · rfl

theorem pointDecimals_cons {c : Char} (h : isDecimal c = false) (rest : List Char) :
    pointDecimals (c :: rest) = c :: pointDecimals rest := by
  simp [pointDecimals, replace, scan_plain (decimalComma?_cons h rest) h]

theorem takeWhile_numeral (n : Numeral) {rest : List Char}
    (ends : ∀ c ∈ rest.head?, isDecimal c = false) :
    (n.text ++ rest).takeWhile isDecimal = n.text := by
  refine takeWhile_append_of_stop (fun c mem => ?_) ends
  obtain ⟨d, _, rfl⟩ := List.mem_map.1 mem
  exact isDecimal_digit d

theorem pointDecimals_numeral (n : Numeral) {rest : List Char}
    (ends : ∀ c ∈ rest.head?, isDecimal c = false)
    (apart : ∀ more, rest = ',' :: more → ∀ c ∈ more.head?, isDecimal c = false) :
    pointDecimals (n.text ++ rest) = n.text ++ pointDecimals rest := by
  have missed : decimalComma? (n.text ++ rest) = none := by
    unfold decimalComma?
    dsimp only
    rw [takeWhile_numeral n ends, List.drop_left]
    split
    · rename_i more
      have part : more.takeWhile isDecimal = [] :=
        takeWhile_append_of_stop (l := []) (by simp) (apart more rfl)
      simp [part]
    · rfl
  obtain ⟨d, ds, text⟩ := n.exists_head
  have inside : ∀ c ∈ n.text, isDecimal c = true := by
    simp [Numeral.text, isDecimal_digit]
  rw [text] at missed inside ⊢
  rw [pointDecimals, replace, scan_run missed inside ends]
  simp [replace]

theorem pointDecimals_comma (n m : Numeral) {rest : List Char}
    (ends : ∀ c ∈ rest.head?, isDecimal c = false) :
    pointDecimals (n.text ++ ',' :: (m.text ++ rest)) =
      n.text ++ '.' :: (m.text ++ pointDecimals rest) := by
  have comma : ∀ c ∈ (',' :: (m.text ++ rest)).head?, isDecimal c = false := by
    rintro _ ⟨⟩
    decide
  have found : decimalComma? ((n.text ++ ',' :: m.text) ++ rest) =
      some ((n.text, m.text), (n.text ++ ',' :: m.text).length) := by
    rw [List.append_assoc, List.cons_append]
    unfold decimalComma?
    dsimp only
    rw [takeWhile_numeral n comma, List.drop_left]
    simp [takeWhile_numeral m ends, n.text_ne_nil, m.text_ne_nil]
    omega
  have whole : n.text ++ ',' :: (m.text ++ rest) = (n.text ++ ',' :: m.text) ++ rest := by simp
  rw [whole, pointDecimals, replace, scan_found found (by simp)]
  simp [replace]

theorem comma_not_mem_spelled {t : Token} (h : t ≠ .comma) : ',' ∉ t.spelled Extreme.method := by
  have letters : ∀ a, letter a ≠ ',' := by decide
  have digits : ∀ d, digit d ≠ ',' := by decide
  cases t with
  | number n => simp [Token.spelled, Token.text, Numeral.text, digits]
  | cell r =>
    intro mem
    rcases Reference.mem_text mem with h | ⟨a, h⟩ | ⟨d, h⟩
    · cases h
    · exact letters a h.symm
    · exact digits d h.symm
  | sum r =>
    simp [Token.spelled, Reference.name, Reference.short, Numeral.text, digits, (letters _).symm]
  | call f => cases f <;> decide
  | operator o => cases o <;> decide
  | comma => exact absurd rfl h
  | opening | closing => decide

theorem exists_spelled_eq_cons (t : Token) : ∃ c cs, t.spelled Extreme.method = c :: cs ∧
    (t.isNumber = false → isDecimal c = false) := by
  cases t with
  | number n =>
    obtain ⟨d, cs, text⟩ := n.exists_head
    exact ⟨_, _, text, nofun⟩
  | cell r =>
    obtain ⟨c, cs, text, head⟩ := r.exists_head
    refine ⟨c, cs, text, fun _ => ?_⟩
    rcases head with rfl | ⟨a, rfl⟩
    · decide
    · exact isDecimal_letter a
  | sum r => exact ⟨letter r.first, _, rfl, fun _ => isDecimal_letter r.first⟩
  | call f => cases f <;> exact ⟨'M', _, rfl, by decide⟩
  | operator o => cases o <;> exact ⟨_, _, rfl, by decide⟩
  | comma | opening | closing => exact ⟨_, _, rfl, by decide⟩

theorem isChain_spelled {ts : List Token} (apart : ts.IsChain Token.Apart) :
    (ts.flatMap (Token.spelled Extreme.method)).IsChain
      fun a b => a = ',' → isDecimal b = false := by
  induction ts with
  | nil => exact .nil
  | cons t ts ih =>
    rw [List.flatMap_cons, List.isChain_append]
    refine ⟨?_, ih apart.tail, ?_⟩
    · by_cases h : t = .comma
      · subst h
        exact .singleton _
      · refine (List.pairwise_of_forall_mem_list fun a mem b _ comma => ?_).isChain
        exact absurd (comma ▸ mem) (comma_not_mem_spelled h)
    · rintro _ last b head rfl
      have comma : t = .comma := by
        by_contra h
        exact comma_not_mem_spelled h (List.mem_of_getLast? last)
      cases ts with
      | nil => cases head
      | cons u ts =>
        have free : Token.Apart t u := (List.isChain_cons_cons.1 apart).1
        obtain ⟨c, cs, spelled, decimal⟩ := exists_spelled_eq_cons u
        rw [List.flatMap_cons, spelled] at head
        cases head
        subst comma
        exact decimal free

theorem dropAnchors_of_not_mem {cs : List Char} (h : '$' ∉ cs) : dropAnchors cs = cs := by
  refine List.filter_eq_self.2 fun c mem => decide_eq_true ?_
  rintro rfl
  exact h mem

theorem dropAnchors_append (l l' : List Char) :
    dropAnchors (l ++ l') = dropAnchors l ++ dropAnchors l' :=
  List.filter_append l l'

theorem dropAnchors_map {α : Type} {write : α → Char} (h : ∀ a, write a ≠ '$') (l : List α) :
    dropAnchors (l.map write) = l.map write := by
  simp [dropAnchors, List.filter_eq_self, h]

theorem dropAnchors_text (r : Reference) : dropAnchors r.text = r.name := by
  have anchors (b : Bool) : dropAnchors (anchor b) = [] := by cases b <;> decide
  have letters := dropAnchors_map letter_ne_anchor r.column
  have digits : dropAnchors r.row.text = r.row.text := dropAnchors_map digit_ne_anchor r.row.digits
  simp only [Reference.text, dropAnchors_append, anchors, letters, digits, Reference.name]
  rfl

theorem dropAnchors_spelled (t : Token) : dropAnchors (t.spelled Extreme.method) = t.compiled := by
  cases t with
  | number n => exact dropAnchors_map digit_ne_anchor n.digits
  | cell r => exact dropAnchors_text r
  | sum r =>
    have cell (c : Fin 26) : dropAnchors (Reference.short c r.row).name =
        (Reference.short c r.row).name := dropAnchors_text (.short c r.row)
    have later : dropAnchors (r.later.flatMap fun c => '+' :: (Reference.short c r.row).name) =
        r.later.flatMap fun c => '+' :: (Reference.short c r.row).name := by
      rw [dropAnchors, List.filter_flatMap]
      exact List.flatMap_congr fun c _ => congrArg ('+' :: ·) (cell c)
    change dropAnchors (_ ++ _) = _ ++ _
    rw [dropAnchors_append, cell, later]
  | call f => cases f <;> decide
  | operator o => cases o <;> decide
  | comma | opening | closing => decide

theorem compileChars_eq_ok {cs summed : List Char} (percent : '%' ∉ cs)
    (sums : expandSums cs = .ok summed) :
    compileChars cs = .ok (dropAnchors (pointDecimals (nameFunctions summed))) := by
  rw [compileChars, expandCommaPercents_eq_self percent]
  dsimp only [bind, Except.bind]
  rw [expandPercents_eq_self percent]
  dsimp only
  rw [sums]
  rfl

theorem compileChars_of_not_mem {cs : List Char} (percent : '%' ∉ cs) (sums : 'S' ∉ cs)
    (functions : 'M' ∉ cs) : compileChars cs = .ok (dropAnchors (pointDecimals cs)) := by
  rw [compileChars_eq_ok percent (expandSums_of_not_mem sums), nameFunctions_of_not_mem functions]

theorem percent_not_mem_render (ts : List Token) : '%' ∉ render ts := by
  simp [render, Token.percent_not_mem_text]

theorem expandSums_render (ts : List Token) :
    expandSums (render ts) = .ok (ts.flatMap (Token.spelled Extreme.text)) :=
  (Turns.flatMap fun t _ => turns_expandSums t).all replaceM_nil

theorem dropAnchors_flatMap_spelled (ts : List Token) :
    dropAnchors (ts.flatMap (Token.spelled Extreme.method)) = ts.flatMap Token.compiled := by
  rw [dropAnchors, List.filter_flatMap]
  exact List.flatMap_congr fun t _ => dropAnchors_spelled t

theorem compileChars_render {ts : List Token} (apart : ts.IsChain Token.Apart) :
    compileChars (render ts) = .ok (ts.flatMap Token.compiled) := by
  rw [compileChars_eq_ok (percent_not_mem_render ts) (expandSums_render ts), nameFunctions_spelled,
    pointDecimals_eq_self (isChain_spelled apart), dropAnchors_flatMap_spelled]

end SheetScript.Formula
