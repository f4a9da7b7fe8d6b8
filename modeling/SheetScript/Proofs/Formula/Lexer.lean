import SheetScript.Proofs.Formula.Token

namespace SheetScript.Formula

def digit? (c : Char) : Option (Fin 10) := (List.finRange 10).find? (digit · = c)

def letter? (c : Char) : Option (Fin 26) := (List.finRange 26).find? (letter · = c)

def leading {α : Type} (read? : Char → Option α) : List Char → List α
  | [] => []
  | c :: cs =>
    match read? c with
    | some a => a :: leading read? cs
    | none => []

def Numeral.read? (cs : List Char) : Option (Numeral × List Char) :=
  if h : leading digit? cs = [] then none
  else some (⟨leading digit? cs, h⟩, cs.drop (leading digit? cs).length)

def readAnchor : List Char → Bool × List Char
  | '$' :: cs => (true, cs)
  | cs => (false, cs)

def Reference.read? (cs : List Char) : Option (Reference × List Char) := do
  let (columnAnchor, cs) := readAnchor cs
  let column := leading letter? cs
  let (rowAnchor, cs) := readAnchor (cs.drop column.length)
  let (row, cs) ← Numeral.read? cs
  if h : column ≠ [] ∧ Plain column then
    return (⟨columnAnchor, column, rowAnchor, row, h.1, h.2⟩, cs)
  else none

def Range.readSide? : List Char → Option (Fin 26 × Numeral × List Char)
  | [] => none
  | c :: cs => do
    let column ← letter? c
    let (row, cs) ← Numeral.read? cs
    return (column, row, cs)

def Range.read? (cs : List Char) : Option (Range × List Char) := do
  let (first, row, ':' :: cs) ← readSide? cs | none
  let (last, row', ')' :: cs) ← readSide? cs | none
  if h : first ≤ last ∧ row = row' then return (⟨first, last, row, h.1⟩, cs) else none

namespace Token

def symbol? : Char → Option Token
  | '+' => some (operator .plus)
  | '-' => some (operator .minus)
  | '*' => some (operator .times)
  | '/' => some (operator .divide)
  | ',' => some comma
  | '(' => some opening
  | ')' => some closing
  | _ => none

def read? : List Char → Option (Token × List Char)
  | [] => none
  | c :: cs =>
    match symbol? c with
    | some t => some (t, cs)
    | none =>
      if "MIN(".toList <+: c :: cs then some (call .least, cs.drop 3)
      else if "MAX(".toList <+: c :: cs then some (call .greatest, cs.drop 3)
      else if "SUM(".toList <+: c :: cs then
        (Range.read? (cs.drop 3)).map fun (r, cs) => (sum r, cs)
      else if (digit? c).isSome then
        (Numeral.read? (c :: cs)).map fun (n, cs) => (number n, cs)
      else (Reference.read? (c :: cs)).map fun (r, cs) => (cell r, cs)

def readAll? (cs : List Char) : Option (List Token) :=
  match cs with
  | [] => some []
  | c :: cs =>
    match read? (c :: cs) with
    | none => none
    | some (t, rest) =>
      if rest.length ≤ cs.length then (readAll? rest).map (t :: ·) else none
termination_by cs.length

end Token

@[simp] theorem digit?_digit (d : Fin 10) : digit? (digit d) = some d := by
  revert d
  decide

@[simp] theorem letter?_letter (c : Fin 26) : letter? (letter c) = some c := by
  revert c
  decide

theorem letter?_digit (d : Fin 10) : letter? (digit d) = none := by
  revert d
  decide

theorem letter_ne_anchor (c : Fin 26) : letter c ≠ '$' := by
  revert c
  decide

theorem digit_ne_anchor (d : Fin 10) : digit d ≠ '$' := by
  revert d
  decide

theorem digit?_eq_none {c : Char} (h : Text.isDecimal c = false) : digit? c = none := by
  rw [digit?, List.find?_eq_none]
  rintro d _ same
  rw [← of_decide_eq_true same, isDecimal_digit] at h
  cases h

theorem leading_map_append {α : Type} {read? : Char → Option α} {write : α → Char}
    (h : ∀ a, read? (write a) = some a) (l : List α) {rest : List Char}
    (ends : ∀ c ∈ rest.head?, read? c = none) : leading read? (l.map write ++ rest) = l := by
  induction l with
  | nil =>
    cases rest with
    | nil => rfl
    | cons c rest => simp [leading, ends c rfl]
  | cons a l ih => simp [leading, h, ih]

theorem Numeral.read?_text (n : Numeral) {rest : List Char}
    (ends : ∀ c ∈ rest.head?, digit? c = none) : read? (n.text ++ rest) = some (n, rest) := by
  have digits : leading digit? (n.text ++ rest) = n.digits :=
    leading_map_append digit?_digit n.digits ends
  have behind : (n.text ++ rest).drop n.digits.length = rest := List.drop_left' (by simp [text])
  simp [read?, digits, behind, n.nonempty]

theorem Numeral.exists_head (n : Numeral) : ∃ d cs, n.text = digit d :: cs := by
  cases h : n.digits with
  | nil => exact absurd h n.nonempty
  | cons d ds => exact ⟨d, ds.map digit, by rw [text, h, List.map_cons]⟩

theorem readAnchor_append (b : Bool) {rest : List Char} (h : ∀ c ∈ rest.head?, c ≠ '$') :
    readAnchor (anchor b ++ rest) = (b, rest) := by
  cases b with
  | true => rfl
  | false =>
    change readAnchor rest = (false, rest)
    unfold readAnchor
    split
    · exact absurd rfl (h _ rfl)
    · rfl

theorem head?_map_letter_append {column : List (Fin 26)} (ne : column ≠ []) (rest : List Char) :
    ∃ c, (column.map letter ++ rest).head? = some (letter c) := by
  cases column with
  | nil => exact absurd rfl ne
  | cons c column => exact ⟨c, rfl⟩

theorem Reference.read?_text (r : Reference) {rest : List Char}
    (ends : ∀ c ∈ rest.head?, digit? c = none) : read? (r.text ++ rest) = some (r, rest) := by
  obtain ⟨d, ds, row⟩ := r.row.exists_head
  have second : readAnchor (anchor r.rowAnchor ++ (r.row.text ++ rest)) =
      (r.rowAnchor, r.row.text ++ rest) := by
    refine readAnchor_append _ fun c mem => ?_
    rw [row] at mem
    cases mem
    exact digit_ne_anchor d
  have column : leading letter?
      (r.column.map letter ++ (anchor r.rowAnchor ++ (r.row.text ++ rest))) = r.column := by
    refine leading_map_append letter?_letter _ fun c mem => ?_
    cases h : r.rowAnchor with
    | true =>
      rw [h] at mem
      cases mem
      decide
    | false =>
      rw [h, row] at mem
      cases mem
      exact letter?_digit d
  have first : readAnchor (r.text ++ rest) =
      (r.columnAnchor, r.column.map letter ++ (anchor r.rowAnchor ++ (r.row.text ++ rest))) := by
    rw [text, List.append_assoc, List.append_assoc, List.append_assoc]
    refine readAnchor_append _ fun c mem => ?_
    obtain ⟨a, head⟩ :=
      head?_map_letter_append r.nonempty (anchor r.rowAnchor ++ (r.row.text ++ rest))
    cases head.symm.trans mem
    exact letter_ne_anchor a
  simp [read?, first, column, second, r.row.read?_text ends, r.nonempty, r.plain]

theorem Range.readSide?_append (c : Fin 26) (row : Numeral) {rest : List Char}
    (ends : ∀ c ∈ rest.head?, digit? c = none) :
    readSide? (letter c :: (row.text ++ rest)) = some (c, row, rest) := by
  simp [readSide?, row.read?_text ends]

theorem Range.read?_append (r : Range) (rest : List Char) :
    read? (letter r.first :: (r.row.text ++ ':' :: letter r.last :: (r.row.text ++ ')' :: rest))) =
      some (r, rest) := by
  have colon : ∀ c ∈ (':' :: letter r.last :: (r.row.text ++ ')' :: rest)).head?,
      digit? c = none := by
    rintro _ ⟨⟩
    decide
  have closing : ∀ c ∈ (')' :: rest).head?, digit? c = none := by
    rintro _ ⟨⟩
    decide
  simp [read?, readSide?_append r.first r.row colon, readSide?_append r.last r.row closing,
    r.ordered]

theorem not_prefix_append {w t rest : List Char} {c : Char} (start : ¬ w <+: t ++ [c])
    (ends : c ∉ w) : ¬ w <+: t ++ [c] ++ rest := by
  intro h
  rcases List.prefix_or_prefix_of_prefix h (List.prefix_append (t ++ [c]) rest) with h | h
  · exact start h
  · exact ends (h.subset (by simp))

theorem Numeral.exists_last (n : Numeral) : ∃ cs d, n.text = cs ++ [digit d] := by
  refine ⟨n.digits.dropLast.map digit, n.digits.getLast n.nonempty, ?_⟩
  rw [text, ← List.map_singleton, ← List.map_append, List.dropLast_append_getLast]

theorem Numeral.text_ne_nil (n : Numeral) : n.text ≠ [] := by
  obtain ⟨d, cs, text⟩ := n.exists_head
  simp [text]

theorem Numeral.opening_not_mem_text (n : Numeral) : '(' ∉ n.text := by
  have digits : ∀ d, digit d ≠ '(' := by decide
  simp [text, digits]

theorem Reference.text_ne_nil (r : Reference) : r.text ≠ [] := by
  simp [text, r.nonempty]

theorem Reference.exists_head (r : Reference) :
    ∃ c cs, r.text = c :: cs ∧ (c = '$' ∨ ∃ a, c = letter a) := by
  cases h : r.columnAnchor with
  | true => exact ⟨'$', _, by rw [text, h]; rfl, .inl rfl⟩
  | false =>
    cases column : r.column with
    | nil => exact absurd column r.nonempty
    | cons a column' => exact ⟨letter a, _, by rw [text, h, column]; rfl, .inr ⟨a, rfl⟩⟩

theorem Reference.exists_last (r : Reference) : ∃ cs d, r.text = cs ++ [digit d] := by
  obtain ⟨cs, d, row⟩ := r.row.exists_last
  exact ⟨anchor r.columnAnchor ++ (r.column.map letter ++ (anchor r.rowAnchor ++ cs)), d,
    by simp [text, row]⟩

theorem Reference.mem_text {r : Reference} {c : Char} (h : c ∈ r.text) :
    c = '$' ∨ (∃ a, c = letter a) ∨ ∃ d, c = digit d := by
  simp only [text, Numeral.text, List.mem_append, List.mem_map] at h
  have dollar (b : Bool) (mem : c ∈ anchor b) : c = '$' := by
    cases b with
    | true => exact List.mem_singleton.1 mem
    | false => exact absurd mem List.not_mem_nil
  rcases h with h | ⟨a, _, rfl⟩ | h | ⟨d, _, rfl⟩
  · exact .inl (dollar _ h)
  · exact .inr (.inl ⟨a, rfl⟩)
  · exact .inl (dollar _ h)
  · exact .inr (.inr ⟨d, rfl⟩)

theorem Reference.opening_not_mem_text (r : Reference) : '(' ∉ r.text := by
  intro mem
  rcases mem_text mem with h | ⟨a, h⟩ | ⟨d, h⟩
  · cases h
  · revert a
    decide
  · revert d
    decide

namespace Token

def calls : List (List Char) := ["MIN(".toList, "MAX(".toList, "SUM(".toList]

theorem digit_not_mem_of_mem_calls {d : Fin 10} : ∀ w ∈ calls, digit d ∉ w := by
  revert d
  decide

theorem opening_mem_of_mem_calls : ∀ w ∈ calls, '(' ∈ w := by
  decide

theorem not_call_prefix {piece t rest : List Char} (ends : ∃ cs d, piece = cs ++ [digit d])
    (opening : '(' ∉ piece) (ne : t ≠ []) (suffix : t <:+ piece) :
    ∀ w ∈ calls, ¬ w <+: t ++ rest := by
  intro w h
  obtain ⟨cs, d, rfl⟩ := ends
  obtain rfl | ⟨t, rfl, _⟩ := List.suffix_concat_iff.1 suffix
  · exact absurd rfl ne
  · refine not_prefix_append (fun start => ?_) (digit_not_mem_of_mem_calls w h)
    exact opening (suffix.subset (start.subset (opening_mem_of_mem_calls w h)))

theorem not_call_prefix_number {n : Numeral} {rest : List Char} :
    ∀ w ∈ calls, ¬ w <+: n.text ++ rest :=
  not_call_prefix n.exists_last n.opening_not_mem_text n.text_ne_nil List.suffix_rfl

theorem not_call_prefix_cell {r : Reference} {rest : List Char} :
    ∀ w ∈ calls, ¬ w <+: r.text ++ rest :=
  not_call_prefix r.exists_last r.opening_not_mem_text r.text_ne_nil List.suffix_rfl

theorem symbol?_digit (d : Fin 10) : symbol? (digit d) = none := by
  revert d
  decide

theorem symbol?_letter (c : Fin 26) : symbol? (letter c) = none := by
  revert c
  decide

theorem read?_operand {c : Char} {cs : List Char} (symbol : symbol? c = none)
    (call : ∀ w ∈ calls, ¬ w <+: c :: cs) :
    read? (c :: cs) =
      if (digit? c).isSome then (Numeral.read? (c :: cs)).map fun (n, cs) => (number n, cs)
      else (Reference.read? (c :: cs)).map fun (r, cs) => (cell r, cs) := by
  rw [read?, symbol]
  dsimp only
  rw [if_neg (call _ (by decide)), if_neg (call _ (by decide)), if_neg (call _ (by decide))]

theorem read?_number (n : Numeral) {rest : List Char} (ends : ∀ c ∈ rest.head?, digit? c = none) :
    read? (n.text ++ rest) = some (number n, rest) := by
  obtain ⟨d, cs, text⟩ := n.exists_head
  have whole := n.read?_text ends
  have call : ∀ w ∈ calls, ¬ w <+: n.text ++ rest := not_call_prefix_number
  rw [text, List.cons_append] at *
  rw [read?_operand (symbol?_digit d) call, whole]
  simp

theorem read?_cell (r : Reference) {rest : List Char} (ends : ∀ c ∈ rest.head?, digit? c = none) :
    read? (r.text ++ rest) = some (cell r, rest) := by
  obtain ⟨c, cs, text, head⟩ := r.exists_head
  have operand : symbol? c = none ∧ digit? c = none := by
    rcases head with rfl | ⟨a, rfl⟩
    · decide
    · exact ⟨symbol?_letter a, digit?_eq_none (isDecimal_letter a)⟩
  have whole := r.read?_text ends
  have call : ∀ w ∈ calls, ¬ w <+: r.text ++ rest := not_call_prefix_cell
  rw [text, List.cons_append] at *
  rw [read?_operand operand.1 call, whole]
  simp [operand.2]

theorem read?_sum (r : Range) (rest : List Char) : read? (r.text ++ rest) = some (sum r, rest) := by
  simp [Range.text, read?, symbol?, Range.read?_append]

def isOpen : Token → Bool
  | number _ | cell _ => true
  | _ => false

theorem read?_text (t : Token) {rest : List Char}
    (ends : t.isOpen = true → ∀ c ∈ rest.head?, Text.isDecimal c = false) :
    read? (t.text ++ rest) = some (t, rest) := by
  cases t with
  | number n => exact read?_number n fun c head => digit?_eq_none (ends rfl c head)
  | cell r => exact read?_cell r fun c head => digit?_eq_none (ends rfl c head)
  | sum r => exact read?_sum r rest
  | call f => cases f <;> simp [text, Extreme.text, read?, symbol?]
  | operator o => cases o <;> rfl
  | comma | opening | closing => rfl

theorem exists_text_eq_cons (t : Token) :
    ∃ c cs, t.text = c :: cs ∧ Text.isDecimal c = t.isNumber := by
  cases t with
  | number n =>
    obtain ⟨d, cs, text⟩ := n.exists_head
    exact ⟨_, _, text, isDecimal_digit d⟩
  | cell r =>
    obtain ⟨c, cs, text, head⟩ := r.exists_head
    refine ⟨c, cs, text, ?_⟩
    rcases head with rfl | ⟨a, rfl⟩
    · rfl
    · exact isDecimal_letter a
  | sum r => exact ⟨'S', _, rfl, rfl⟩
  | call f => cases f <;> exact ⟨'M', _, rfl, by decide⟩
  | operator o => cases o <;> exact ⟨_, _, rfl, by decide⟩
  | comma | opening | closing => exact ⟨_, _, rfl, by decide⟩

end Token

theorem isDecimal_head_render {t : Token} {ts : List Token} (apart : (t :: ts).IsChain Token.Apart)
    (h : t.isOpen = true) : ∀ c ∈ (render ts).head?, Text.isDecimal c = false := by
  cases ts with
  | nil => exact nofun
  | cons u ts =>
    obtain ⟨c, cs, text, decimal⟩ := u.exists_text_eq_cons
    rw [render, List.flatMap_cons, text]
    rintro _ ⟨⟩
    have free : Token.Apart t u := (List.isChain_cons_cons.1 apart).1
    cases t with
    | number n => exact decimal.trans free
    | cell r => exact decimal.trans free
    | _ => cases h

theorem readAll?_render {ts : List Token} (apart : ts.IsChain Token.Apart) :
    Token.readAll? (render ts) = some ts := by
  induction ts with
  | nil => simp [render, Token.readAll?]
  | cons t ts ih =>
    obtain ⟨c, cs, text, _⟩ := t.exists_text_eq_cons
    have first : Token.read? (render (t :: ts)) = some (t, render ts) :=
      t.read?_text (isDecimal_head_render apart)
    have later := ih apart.tail
    rw [render, List.flatMap_cons, text, List.cons_append] at first ⊢
    have shorter : (ts.flatMap Token.text).length ≤ (cs ++ ts.flatMap Token.text).length := by simp
    rw [Token.readAll?, first]
    dsimp only [render] at later ⊢
    rw [if_pos shorter, later]
    rfl

end SheetScript.Formula
