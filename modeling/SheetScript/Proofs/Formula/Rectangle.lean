import SheetScript.Proofs.Formula.Compile
import SheetScript.Proofs.Names

namespace SheetScript

namespace Column

def widest : Nat → Nat
  | 0 => 0
  | k + 1 => 26 * widest k + 26

theorem length_letters_le {k n : Nat} (h : n ≤ widest k) : (letters n).length ≤ k := by
  induction k generalizing n with
  | zero =>
    rw [Nat.le_zero.1 h, letters]
    rfl
  | succ k ih =>
    rw [letters]
    split
    · exact Nat.zero_le _
    · have shorter : (n - 1) / 26 ≤ widest k := by
        rw [widest] at h
        omega
      rw [List.length_append]
      exact Nat.succ_le_succ (ih shorter)

theorem getLast?_letters_succ (n : Nat) :
    (letters (n + 1)).getLast? = some (Char.ofNat (65 + n % 26)) := by
  rw [letters, if_neg n.succ_ne_zero, Nat.add_sub_cancel, List.getLast?_concat]

theorem getLast?_letters_ne (n : Nat) :
    (letters (n + 1 + 1)).getLast? ≠ (letters (n + 1)).getLast? := by
  rw [getLast?_letters_succ, getLast?_letters_succ]
  intro same
  have digits := congrArg Char.toNat (Option.some.inj same)
  rw [toNat_digit, toNat_digit] at digits
  omega

end Column

namespace Formula

open Text

def cellName (column row : Nat) : List Char := Column.letters column ++ Nat.toDigits 10 row

structure Rectangle where
  left : Nat
  right : Nat
  top : Nat
  bottom : Nat
  left_pos : 1 ≤ left
  left_le : left ≤ right
  right_le : right ≤ Column.last
  top_pos : 1 ≤ top
  top_le : top ≤ bottom

namespace Rectangle

def text (b : Rectangle) : List Char := sumText (cellName b.left b.top) (cellName b.right b.bottom)

def ListedBy (b : Rectangle) (text : List Char) : Prop :=
  ∃ cells : List (Nat × Nat), cells.Nodup ∧
    (∀ column row, (column, row) ∈ cells ↔
      b.left ≤ column ∧ column ≤ b.right ∧ b.top ≤ row ∧ row ≤ b.bottom) ∧
    text = ['+'].intercalate (cells.map fun c => cellName c.1 c.2)

end Rectangle

theorem exists_letters (n : Nat) :
    ∃ column : List (Fin 26), Column.letters n = column.map letter := by
  fun_induction Column.letters n with
  | case1 => exact ⟨[], rfl⟩
  | case2 n h ih =>
    obtain ⟨column, letters⟩ := ih
    refine ⟨column ++ [⟨(n - 1) % 26, Nat.mod_lt _ (by decide)⟩], ?_⟩
    rw [letters, List.map_append]
    rfl

theorem exists_numeral (n : Nat) : ∃ row : Numeral, row.text = Nat.toDigits 10 n := by
  have digits : Nat.toDigits 10 n ∈ Set.range (List.map digit) := by
    rw [Set.range_list_map]
    intro c mem
    have bounds : 48 ≤ c.toNat ∧ c.toNat ≤ 57 :=
      Char.isDigit_iff_toNat.1 (Nat.isDigit_of_mem_toDigits (by decide) (by decide) mem)
    refine ⟨⟨c.toNat - 48, by omega⟩, ?_⟩
    rw [digit, Nat.add_sub_cancel' bounds.1, Char.ofNat_toNat]
  obtain ⟨ds, text⟩ := digits
  refine ⟨⟨ds, ?_⟩, text⟩
  rintro rfl
  exact Nat.toDigits_ne_nil text.symm

theorem exists_letters_eq_cons {n : Nat} (h : 1 ≤ n) :
    ∃ (a : Fin 26) (as : List (Fin 26)), Column.letters n = (a :: as).map letter := by
  obtain ⟨column, letters⟩ := exists_letters n
  cases column with
  | nil =>
    have last := Column.getLast?_letters_succ (n - 1)
    rw [Nat.sub_add_cancel h, letters] at last
    cases last
  | cons a as => exact ⟨a, as, letters⟩

theorem letter_injective : Function.Injective letter := by
  intro a b same
  rw [← Option.some.injEq, ← letter?_letter a, same, letter?_letter]

theorem single_letter {n : Nat} (pos : 1 ≤ n) (h : n ≤ 26) {a : Fin 26} {as : List (Fin 26)}
    (letters : Column.letters n = (a :: as).map letter) : as = [] ∧ n = a.val + 1 := by
  have one := letters_succ ⟨n - 1, by omega⟩
  rw [Nat.sub_add_cancel pos, letters] at one
  obtain ⟨head, tail⟩ := List.cons.inj one
  have value : a.val = n - 1 := congrArg Fin.val (letter_injective head)
  exact ⟨List.map_eq_nil_iff.1 tail, by omega⟩

theorem isWord_of_mem_cellName {column row : Nat} :
    ∀ c ∈ cellName column row, isWord c = true := by
  obtain ⟨as, letters⟩ := exists_letters column
  obtain ⟨n, digits⟩ := exists_numeral row
  rw [cellName, letters, ← digits]
  simp only [List.mem_append, Numeral.text, List.mem_map]
  rintro _ (⟨a, _, rfl⟩ | ⟨d, _, rfl⟩)
  · exact isWord_letter a
  · exact isWord_digit d

theorem cellName_ne_nil (column row : Nat) : cellName column row ≠ [] := by
  simp [cellName, Nat.toDigits_ne_nil]

def Words (l : List (List Char)) : Prop := ∀ w ∈ l, w ≠ [] ∧ ∀ c ∈ w, isWord c = true

namespace Words

variable {l l' : List (List Char)}

theorem mem_intercalate (h : Words l) {c : Char} (mem : c ∈ ['+'].intercalate l) :
    c = '+' ∨ isWord c = true := by
  cases l with
  | nil => cases mem
  | cons w ws =>
    rw [intercalate_cons, List.mem_append, List.mem_flatMap] at mem
    rcases mem with mem | ⟨v, hv, mem⟩
    · exact .inr ((h w List.mem_cons_self).2 c mem)
    · exact (List.mem_cons.1 mem).imp_right ((h v (.tail w hv)).2 c)

theorem plus_not_mem (h : Words l) : ∀ w ∈ l, '+' ∉ w := by
  have plus : isWord '+' = false := by decide +kernel
  intro w mem sign
  simpa [plus] using (h w mem).2 '+' sign

theorem intercalate_ne_nil {w : List Char} (h : Words (w :: l)) :
    ['+'].intercalate (w :: l) ≠ [] := by
  rw [intercalate_cons]
  intro empty
  exact (h w List.mem_cons_self).1 (List.append_eq_nil_iff.1 empty).1

theorem eq_of_intercalate_eq (h : Words l) (h' : Words l')
    (same : ['+'].intercalate l = ['+'].intercalate l') : l = l' := by
  cases l with
  | nil =>
    cases l' with
    | nil => rfl
    | cons w ws => exact absurd same.symm h'.intercalate_ne_nil
  | cons v vs =>
    cases l' with
    | nil => exact absurd same h.intercalate_ne_nil
    | cons w ws =>
      rw [← List.splitOn_intercalate '+' h.plus_not_mem (List.cons_ne_nil v vs), same,
        List.splitOn_intercalate '+' h'.plus_not_mem (List.cons_ne_nil w ws)]

end Words

theorem mem_rowCells {row w : List Char} {first last : Fin 26} :
    w ∈ rowCells row (first + 1) (last + 1 + 1 - (first + 1)) ↔
      ∃ a, first ≤ a ∧ a ≤ last ∧ w = letter a :: row := by
  have cell (a : Fin 26) : Column.letters (a.val + 1) ++ row = letter a :: row := by
    rw [letters_succ]
    rfl
  rw [rowCells, List.mem_map]
  constructor
  · rintro ⟨i, mem, rfl⟩
    have bound : first.val + i ≤ last := by
      rw [List.mem_range] at mem
      omega
    refine ⟨⟨first + i, by omega⟩, by simp [Fin.le_def], bound, ?_⟩
    rw [← cell, Nat.add_right_comm]
  · rintro ⟨a, lower, upper, rfl⟩
    have bound : first.val ≤ a ∧ a.val ≤ last := ⟨lower, upper⟩
    refine ⟨a - first, List.mem_range.2 (by omega), ?_⟩
    rw [← cell]
    congr 2
    omega

namespace Rectangle

variable {b : Rectangle} {x y : Fin 26} {xs ys : List (Fin 26)}

/-- The names that the sum over a rectangle is written out with, when `x` is the first letter of its
first column, `xs` are the other letters of it and `y` is the first letter of its last column. -/
def counted (b : Rectangle) (x : Fin 26) (xs : List (Fin 26)) (y : Fin 26) : List (List Char) :=
  rowCells (xs.map letter ++ Nat.toDigits 10 b.top) (x + 1) (y + 1 + 1 - (x + 1))

theorem mem_counted {w : List Char} :
    w ∈ b.counted x xs y ↔
      ∃ a, x ≤ a ∧ a ≤ y ∧ w = (a :: xs).map letter ++ Nat.toDigits 10 b.top :=
  mem_rowCells

theorem words_counted : Words (b.counted x xs y) := by
  obtain ⟨row, digits⟩ := exists_numeral b.top
  intro w mem
  obtain ⟨a, _, _, rfl⟩ := mem_counted.1 mem
  refine ⟨by simp, fun c mem => ?_⟩
  simp only [← digits, Numeral.text, List.mem_append, List.mem_map] at mem
  rcases mem with ⟨a, _, rfl⟩ | ⟨d, _, rfl⟩
  · exact isWord_letter a
  · exact isWord_digit d

theorem counted_self : b.counted x xs x = [(x :: xs).map letter ++ Nat.toDigits 10 b.top] := by
  have one : x.val + 1 + 1 - (x.val + 1) = 1 := by omega
  rw [counted, one, rowCells, List.range_one, List.map_singleton, Nat.add_zero, letters_succ]
  rfl

theorem writeSum_cellName (left : Column.letters b.left = (x :: xs).map letter)
    (right : Column.letters b.right = (y :: ys).map letter) :
    writeSum (cellName b.left b.top, cellName b.right b.bottom) =
      .ok (['+'].intercalate (b.counted x xs y)) := by
  rw [cellName, cellName, left, right, List.map_cons, List.map_cons, List.cons_append,
    List.cons_append, writeSum, sideColumn_side, sideColumn_side]
  rfl

theorem compileChars_text (left : Column.letters b.left = (x :: xs).map letter)
    (right : Column.letters b.right = (y :: ys).map letter) :
    compileChars b.text = .ok (nameFunctions (['+'].intercalate (b.counted x xs y))) := by
  have percent : '%' ∉ b.text := by
    have word : isWord '%' = false := by decide +kernel
    have cell (column row : Nat) : '%' ∉ cellName column row := by
      intro mem
      simpa [word] using isWord_of_mem_cellName _ mem
    simp [text, sumText, cell]
  have sums : expandSums b.text = .ok (['+'].intercalate (b.counted x xs y)) :=
    (turns_replaceM_found (sumRange?_sumText isWord_of_mem_cellName isWord_of_mem_cellName
      (cellName_ne_nil _ _) (cellName_ne_nil _ _)) (by simp [sumText])
      (writeSum_cellName left right)).all replaceM_nil
  have free {c : Char} (plus : c ≠ '+') (word : isWord c = false) (method : c ∉ "Math.min".toList)
      (method' : c ∉ "Math.max".toList) :
      c ∉ nameFunctions (['+'].intercalate (b.counted x xs y)) := by
    intro mem
    rcases mem_nameFunctions mem with mem | mem | mem
    · simpa [plus, word] using words_counted.mem_intercalate mem
    · exact method mem
    · exact method' mem
  rw [compileChars_eq_ok percent sums,
    pointDecimals_of_not_mem (free (by decide) (by decide +kernel) (by decide) (by decide)),
    dropAnchors_of_not_mem (free (by decide) (by decide +kernel) (by decide) (by decide))]

theorem exists_letter_of_listedBy
    (h : b.ListedBy (nameFunctions (['+'].intercalate (b.counted x xs y)))) :
    (∀ w ∈ functions, ¬ w <:+: ['+'].intercalate (b.counted x xs y)) ∧
    ∀ column row, b.left ≤ column → column ≤ b.right → b.top ≤ row → row ≤ b.bottom →
      (∃ a : Fin 26, Column.letters column = (a :: xs).map letter) ∧ row = b.top := by
  obtain ⟨cells, _, mem, text⟩ := h
  have names : Words (cells.map fun c => cellName c.1 c.2) := by
    intro w mem
    obtain ⟨c, _, rfl⟩ := List.mem_map.1 mem
    exact ⟨cellName_ne_nil _ _, isWord_of_mem_cellName⟩
  have point : '.' ∉ nameFunctions (['+'].intercalate (b.counted x xs y)) := by
    have word : isWord '.' = false := by decide +kernel
    rw [text]
    intro mem
    simpa [word] using names.mem_intercalate mem
  obtain ⟨same, free⟩ := nameFunctions_of_point_not_mem point
  have listed : b.counted x xs y = cells.map fun c => cellName c.1 c.2 :=
    words_counted.eq_of_intercalate_eq names (same.symm.trans text)
  refine ⟨free, fun column row left right top bottom => ?_⟩
  have cell : cellName column row ∈ b.counted x xs y := by
    rw [listed]
    exact List.mem_map.2 ⟨(column, row), (mem column row).2 ⟨left, right, top, bottom⟩, rfl⟩
  obtain ⟨a, _, _, name⟩ := mem_counted.1 cell
  have upper : ∀ c ∈ (a :: xs).map letter, c.isUpper = true := by
    simp [isUpper_letter]
  obtain ⟨letters, row⟩ :=
    eq_of_append_toDigits_eq (fun c => Column.isUpper_of_mem_letters) upper name
  exact ⟨⟨a, letters⟩, row⟩

theorem letter_eq_of_single (left : Column.letters b.left = (x :: xs).map letter)
    (right : Column.letters b.right = (y :: ys).map letter) (same : b.left = b.right) : x = y := by
  rw [same, right] at left
  exact (letter_injective (List.cons.inj left).1).symm

theorem narrow_of_listedBy (left : Column.letters b.left = (x :: xs).map letter)
    (right : Column.letters b.right = (y :: ys).map letter)
    (h : b.ListedBy (nameFunctions (['+'].intercalate (b.counted x xs y)))) :
    b.top = b.bottom ∧ (b.right ≤ 26 ∨ b.left = b.right ∧
      Column.letters b.left ≠ "MIN".toList ∧ Column.letters b.left ≠ "MAX".toList) := by
  obtain ⟨free, cells⟩ := exists_letter_of_listedBy h
  refine ⟨(cells b.left b.bottom le_rfl b.left_le b.top_le le_rfl).2.symm, ?_⟩
  rcases b.left_le.eq_or_lt with same | less
  · obtain rfl := letter_eq_of_single left right same
    rw [counted_self, ← left, List.intercalate_singleton] at free
    have named : ∀ w ∈ functions, Column.letters b.left ≠ w := by
      rintro w mem rfl
      exact free _ mem (List.prefix_append _ _).isInfix
    exact .inr ⟨same, named _ (by decide), named _ (by decide)⟩
  · obtain ⟨⟨a, next⟩, _⟩ := cells (b.left + 1) b.top (Nat.le_succ _) less le_rfl b.top_le
    obtain ⟨⟨a', last⟩, _⟩ := cells b.right b.top b.left_le le_rfl le_rfl b.top_le
    cases xs with
    | nil =>
      have column : b.right = a'.val + 1 :=
        Column.letters_injective (last.trans (letters_succ a').symm)
      exact .inl (by omega)
    | cons a'' xs =>
      have differ := Column.getLast?_letters_ne (b.left - 1)
      rw [Nat.sub_add_cancel b.left_pos, left, next] at differ
      exact absurd (by simp) differ

theorem listedBy_of_right_le (left : Column.letters b.left = (x :: xs).map letter)
    (right : Column.letters b.right = (y :: ys).map letter) (row : b.top = b.bottom)
    (h : b.right ≤ 26) : b.ListedBy (nameFunctions (['+'].intercalate (b.counted x xs y))) := by
  obtain ⟨rfl, first⟩ := single_letter b.left_pos (b.left_le.trans h) left
  obtain ⟨rfl, last⟩ := single_letter (b.left_pos.trans b.left_le) h right
  obtain ⟨n, digits⟩ := exists_numeral b.top
  have ordered : x ≤ y := by
    have := b.left_le
    rw [Fin.le_def]
    omega
  -- The same text is the sum over a range of one row, in which no function is found.
  have kept : nameFunctions (['+'].intercalate (b.counted x [] y)) =
      ['+'].intercalate (b.counted x [] y) := by
    have written := writeSum_range ⟨x, y, n, ordered⟩
    have counted := writeSum_cellName left right
    rw [cellName, cellName, left, right, ← row, ← digits] at counted
    have spelled := nameFunctions_spelled [.sum ⟨x, y, n, ordered⟩]
    rw [List.flatMap_singleton, List.flatMap_singleton,
      Except.ok.inj (written.symm.trans counted)] at spelled
    rw [spelled]
    exact Except.ok.inj (written.symm.trans counted)
  refine ⟨(List.range' b.left (b.right + 1 - b.left)).map (·, b.top), ?_, ?_, ?_⟩
  · exact .map (fun _ _ same => (Prod.mk.inj same).1) List.nodup_range'
  · intro column row'
    simp only [List.mem_map, List.mem_range'_1, Prod.mk.injEq]
    have := b.left_le
    constructor
    · rintro ⟨c, bounds, rfl, rfl⟩
      omega
    · intro bounds
      exact ⟨column, by omega, rfl, by omega⟩
  · rw [kept, counted, rowCells, first, last, List.range'_eq_map_range, List.map_map, List.map_map]
    rfl

theorem listedBy_of_single (left : Column.letters b.left = (x :: xs).map letter)
    (right : Column.letters b.right = (y :: ys).map letter) (row : b.top = b.bottom)
    (same : b.left = b.right) (least : Column.letters b.left ≠ "MIN".toList)
    (greatest : Column.letters b.left ≠ "MAX".toList) :
    b.ListedBy (nameFunctions (['+'].intercalate (b.counted x xs y))) := by
  obtain rfl := letter_eq_of_single left right same
  obtain ⟨n, digits⟩ := exists_numeral b.top
  have short : ((x :: xs).map letter).length ≤ 3 := by
    rw [← left]
    exact Column.length_letters_le (b.left_le.trans b.right_le)
  have whole {w : List Char} (three : w.length = 3) (inside : w <:+: (x :: xs).map letter) :
      Column.letters b.left = w := by
    rw [left]
    exact (inside.eq_of_length_le (by omega)).symm
  let r : Reference := ⟨false, x :: xs, false, n, List.cons_ne_nil _ _,
    fun inside => least (whole rfl inside), fun inside => greatest (whole rfl inside)⟩
  have kept := nameFunctions_spelled [.cell r]
  have text : ['+'].intercalate (b.counted x xs x) =
      [Token.cell r].flatMap (Token.spelled Extreme.text) := by
    rw [counted_self, List.intercalate_singleton, ← digits, List.flatMap_singleton]
    rfl
  refine ⟨[(b.left, b.top)], List.nodup_singleton _, ?_, ?_⟩
  · intro column row'
    simp only [List.mem_singleton, Prod.mk.injEq]
    omega
  · rw [text, kept, List.map_singleton, List.intercalate_singleton, cellName, left, ← digits,
      List.flatMap_singleton]
    rfl

theorem ListedBy.cellName_subset {text : List Char} (h : b.ListedBy text) {column row : Nat}
    (bounds : b.left ≤ column ∧ column ≤ b.right ∧ b.top ≤ row ∧ row ≤ b.bottom) :
    cellName column row ⊆ text := by
  obtain ⟨cells, _, mem, rfl⟩ := h
  have inside := (mem column row).2 bounds
  cases cells with
  | nil => cases inside
  | cons c cells =>
    rw [List.map_cons, intercalate_cons]
    rcases List.mem_cons.1 inside with rfl | later
    · exact List.subset_append_left _ _
    · intro d hd
      refine List.mem_append_right _ (List.mem_flatMap.2 ⟨cellName column row, ?_, .tail '+' hd⟩)
      exact List.mem_map.2 ⟨(column, row), later, rfl⟩

end Rectangle

/-- The sum over a rectangle is always written out. It is the list of the cells of the rectangle
exactly when the rectangle has one row, and either its columns have one letter each or it is a
single cell in whose column no function is found. -/
theorem sum_lists_rectangle_iff (b : Rectangle) :
    ∃ out, compile (String.ofList b.text) = .ok out ∧
      (b.ListedBy out.toList ↔ b.top = b.bottom ∧ (b.right ≤ 26 ∨ b.left = b.right ∧
        Column.letters b.left ≠ "MIN".toList ∧ Column.letters b.left ≠ "MAX".toList)) := by
  obtain ⟨x, xs, left⟩ := exists_letters_eq_cons b.left_pos
  obtain ⟨y, ys, right⟩ := exists_letters_eq_cons (b.left_pos.trans b.left_le)
  refine ⟨String.ofList (nameFunctions (['+'].intercalate (b.counted x xs y))), ?_, ?_⟩
  · rw [compile, String.toList_ofList, Rectangle.compileChars_text left right]
    rfl
  · rw [String.toList_ofList]
    refine ⟨Rectangle.narrow_of_listedBy left right, ?_⟩
    rintro ⟨row, narrow | ⟨same, least, greatest⟩⟩
    · exact Rectangle.listedBy_of_right_le left right row narrow
    · exact Rectangle.listedBy_of_single left right row same least greatest

theorem cells_lost_in_sums :
    let tall : Rectangle :=
      ⟨1, 1, 1, 2, by decide, by decide, by decide, by decide, by decide⟩
    let wide : Rectangle :=
      ⟨27, 28, 1, 1, by decide, by decide, by decide, by decide, by decide⟩
    (String.ofList tall.text = "SUM(A1:A2)" ∧ compile "SUM(A1:A2)" = .ok "A1" ∧
      ¬ tall.ListedBy "A1".toList) ∧
    (String.ofList wide.text = "SUM(AA1:AB1)" ∧ compile "SUM(AA1:AB1)" = .ok "AA1" ∧
      ¬ wide.ListedBy "AA1".toList) ∧
    compile "SUM(MIN1:MIN1)" = .ok "Math.min1" := by
  intro tall wide
  refine ⟨⟨by decide +kernel, by decide +kernel, fun h => ?_⟩,
    ⟨by decide +kernel, by decide +kernel, fun h => ?_⟩, by decide +kernel⟩
  · have name : cellName 1 2 = ['A', '2'] := by decide +kernel
    have listed : cellName 1 2 ⊆ "A1".toList := h.cellName_subset (by decide)
    rw [name] at listed
    exact absurd (@listed '2' (by decide)) (by decide)
  · have name : cellName 28 1 = ['A', 'B', '1'] := by decide +kernel
    have listed : cellName 28 1 ⊆ "AA1".toList := h.cellName_subset (by decide)
    rw [name] at listed
    exact absurd (@listed 'B' (by decide)) (by decide)

end Formula

end SheetScript
