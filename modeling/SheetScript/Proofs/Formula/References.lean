import SheetScript.Proofs.Formula.Lexer
import SheetScript.Proofs.Formula.Occurrence

namespace SheetScript.Formula

open Text

def Token.names : Token → List (List Char)
  | cell r => [r.name]
  | sum r => [(Reference.short r.first r.row).name, (Reference.short r.last r.row).name]
  | _ => []

theorem reference?_cell {column : List (Fin 26)} (ne : column ≠ []) (b : Bool) (row : Numeral)
    {rest : List Char} (ends : ∀ c ∈ rest.head?, isDecimal c = false) :
    reference? ((column.map letter ++ (anchor b ++ row.text)) ++ rest) = some
      (column.map letter ++ row.text, (column.map letter ++ (anchor b ++ row.text)).length) := by
  have spelled : Spelled (column.map letter) (anchor b) row.text :=
    { column_ne := by simp [ne]
      upper := by simp [isUpper_letter]
      anchored := by cases b <;> simp [anchor]
      row_ne := row.text_ne_nil
      decimal := by simp [Numeral.text, isDecimal_digit] }
  exact spelled.reference?_append ends

theorem reference?_function {w rest : List Char} (h : ∀ c ∈ w, c.isUpper = true) :
    reference? (w ++ '(' :: rest) = none := by
  have first : (w ++ '(' :: rest).takeWhile Char.isUpper = w :=
    takeWhile_append_of_stop h (by simp)
  rw [reference?]
  rw [first, List.drop_left]
  exact if_pos (.inr rfl)

theorem finds_function {c : Char} {w : List Char} (h : ∀ x ∈ c :: w, x.isUpper = true)
    (rest : List Char) : finds Char.isUpper reference? (c :: w ++ '(' :: rest) =
      finds Char.isUpper reference? rest := by
  have opening : ∀ x ∈ ['('], x.isUpper = false := by simp
  rw [finds_run (reference?_function h) h (by simp)]
  exact finds_plain opening rest

theorem finds_cell {column : List (Fin 26)} (ne : column ≠ []) (b : Bool) (row : Numeral)
    {rest : List Char} (ends : ∀ c ∈ rest.head?, isDecimal c = false) :
    finds Char.isUpper reference? ((column.map letter ++ (anchor b ++ row.text)) ++ rest) =
      (column.map letter ++ row.text) :: finds Char.isUpper reference? rest :=
  finds_found (reference?_cell ne b row ends) (by simp [ne])

theorem finds_short (c : Fin 26) (row : Numeral) {sign : Char} (upper : sign.isUpper = false)
    (decimal : isDecimal sign = false) (rest : List Char) :
    finds Char.isUpper reference? (letter c :: (row.text ++ sign :: rest)) =
      (Reference.short c row).name :: finds Char.isUpper reference? rest := by
  have ends : ∀ x ∈ (sign :: rest).head?, isDecimal x = false := by simpa using decimal
  have passed : ∀ x ∈ [sign], x.isUpper = false := by simpa using upper
  rw [← finds_plain passed rest]
  exact finds_cell (List.cons_ne_nil c []) false row ends

theorem finds_text (t : Token) {rest : List Char}
    (ends : t.isOpen = true → ∀ c ∈ rest.head?, isDecimal c = false) :
    finds Char.isUpper reference? (t.text ++ rest) =
      t.names ++ finds Char.isUpper reference? rest := by
  cases t with
  | number n => exact finds_plain (by simp [Token.text, Numeral.text, isUpper_digit]) rest
  | cell r =>
    have anchors : ∀ c ∈ anchor r.columnAnchor, c.isUpper = false := by
      cases r.columnAnchor <;> simp [anchor]
    rw [Token.text, Reference.text, List.append_assoc, finds_plain anchors,
      finds_cell r.nonempty r.rowAnchor r.row (ends rfl)]
    rfl
  | sum r =>
    have text : (Token.sum r).text ++ rest = 'S' :: "UM".toList ++ '(' :: (letter r.first ::
        (r.row.text ++ ':' :: (letter r.last :: (r.row.text ++ ')' :: rest)))) := by
      simp [Token.text, Range.text]
    rw [text, finds_function (by simp), finds_short r.first r.row (by decide) (by decide),
      finds_short r.last r.row (by decide) (by decide)]
    rfl
  | call f =>
    cases f with
    | least => exact finds_function (c := 'M') (w := ['I', 'N']) (by simp) rest
    | greatest => exact finds_function (c := 'M') (w := ['A', 'X']) (by simp) rest
  | operator o => exact finds_plain (by cases o <;> simp [Token.text, Operator.char]) rest
  | comma | opening | closing => exact finds_plain (by simp [Token.text]) rest

theorem references_render {ts : List Token} (apart : ts.IsChain Token.Apart) :
    references (render ts) = (ts.flatMap Token.names).map String.ofList := by
  have found : finds Char.isUpper reference? (render ts) = ts.flatMap Token.names := by
    induction ts with
    | nil => exact finds_nil
    | cons t ts ih =>
      rw [render, List.flatMap_cons, List.flatMap_cons, ← ih apart.tail]
      exact finds_text t (isDecimal_head_render apart)
  rw [references, found]

end SheetScript.Formula
