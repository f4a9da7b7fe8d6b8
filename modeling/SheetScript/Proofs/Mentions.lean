import SheetScript.Proofs.Formula.References
import SheetScript.Proofs.Formula.Splice
import SheetScript.Proofs.Names

namespace SheetScript

def isCellName (word : List Char) : Bool :=
  let row := word.dropWhile Char.isUpper
  word.takeWhile Char.isUpper ≠ [] && row ≠ [] && row.all Char.isDigit

def cellNames (text : List Char) : List (List Char) :=
  (text.splitOnP fun c => !c.isAlphanum).filter isCellName

def Mentions (text name : String) : Prop := name.toList ∈ cellNames text.toList

instance (text name : String) : Decidable (Mentions text name) :=
  inferInstanceAs (Decidable (_ ∈ _))

theorem cellNames_append {c : Char} (h : c.isAlphanum = false) (before after : List Char) :
    cellNames (before ++ c :: after) = cellNames before ++ cellNames after := by
  rw [cellNames, List.splitOnP_append_cons before after (by simp [h]), List.filter_append]
  rfl

theorem cellNames_word {word : List Char} (h : ∀ c ∈ word, c.isAlphanum = true) :
    cellNames word = [word].filter isCellName := by
  rw [cellNames, List.splitOnP_eq_singleton (by simpa using h)]

theorem cellNames_nil : cellNames [] = [] := rfl

theorem mem_of_mem_splitOnP {α : Type} {p : α → Bool} {l w : List α} (h : w ∈ l.splitOnP p) {a : α}
    (ha : a ∈ w) : a ∈ l := by
  induction l generalizing w with
  | nil =>
    rw [List.splitOnP_nil, List.mem_singleton] at h
    rwa [h] at ha
  | cons b l ih =>
    rw [List.splitOnP_cons_eq_if_modifyHead] at h
    split at h
    · rcases List.mem_cons.1 h with rfl | h
      · exact absurd ha List.not_mem_nil
      · exact .tail b (ih h ha)
    · cases words : l.splitOnP p with
      | nil => exact absurd words (List.splitOnP_ne_nil p l)
      | cons v vs =>
        rw [words] at h ih
        rcases List.mem_cons.1 h with rfl | h
        · exact List.mem_cons.2 ((List.mem_cons.1 ha).imp_right (ih List.mem_cons_self))
        · exact .tail b (ih (.tail v h) ha)

def NoCapital (text : List Char) : Prop := ∀ c ∈ text, c.isUpper = false

instance (text : List Char) : Decidable (NoCapital text) := List.decidableBAll _ text

namespace NoCapital

theorem append {a b : List Char} (ha : NoCapital a) (hb : NoCapital b) : NoCapital (a ++ b) :=
  List.forall_mem_append.2 ⟨ha, hb⟩

theorem of_subset {a b : List Char} (hb : NoCapital b) (h : a ⊆ b) : NoCapital a :=
  fun c hc => hb c (h hc)

theorem pointed {a : List Char} (h : NoCapital a) (n : Nat) :
    NoCapital (a.take n ++ '.' :: a.drop n) := by
  have fraction : NoCapital (a.drop n) := h.of_subset (List.drop_subset n a)
  exact (h.of_subset (List.take_subset n a)).append (List.forall_mem_cons.2 ⟨rfl, fraction⟩)

theorem toDigits (n : Nat) : NoCapital (Nat.toDigits 10 n) := fun _ => isUpper_of_mem_toDigits

theorem replicate (n : Nat) : NoCapital (List.replicate n '0') := by
  intro c hc
  rw [List.eq_of_mem_replicate hc]
  rfl

theorem positional (x : Decimal.Scientific) : NoCapital x.positional.toList := by
  have digits := toDigits x.coefficient
  have zeroes (n : Nat) : NoCapital (Decimal.zeroes n) := replicate n
  rw [Decimal.Scientific.positional, String.toList_ofList]
  split
  · exact (digits.append (zeroes _)).append (by decide)
  · split
    · exact digits.pointed _
    · exact (append (by decide) (zeroes _)).append digits

theorem withExponent (l : Decimal.Layout) (x : Decimal.Scientific) :
    NoCapital (l.withExponent x).toList := by
  have digits := toDigits x.coefficient
  rw [Decimal.Layout.withExponent]
  simp only [String.toList_append, Decimal.padded, String.toList_ofList]
  refine .append (.append ?_ ?_) ((replicate _).append (toDigits _))
  · split
    · exact digits
    · exact digits.pointed _
  · split <;> decide

theorem write (l : Decimal.Layout) (x : Decimal.Scientific) : NoCapital (l.write x).toList := by
  rw [Decimal.Layout.write]
  split
  · exact positional x
  · exact withExponent l x

theorem text (l : Decimal.Layout) (x : Float) : NoCapital (l.text x).toList := by
  have signed {number : String} (h : NoCapital number.toList) :
      NoCapital ((if Nat.pow 2 63 ≤ x.toBits.toNat then "-" else "") ++ number).toList := by
    rw [String.toList_append]
    exact append (by split <;> decide) h
  rw [Decimal.Layout.text]
  split
  · decide
  · dsimp only
    split
    · exact signed (by decide)
    · split
      · exact signed (by decide)
      · exact signed (write l _)

end NoCapital

theorem cellNames_eq_nil {text : List Char} (h : NoCapital text) : cellNames text = [] := by
  refine List.filter_eq_nil_iff.2 fun word mem name => ?_
  have lower : NoCapital word := fun c hc => h c (mem_of_mem_splitOnP mem hc)
  cases word with
  | nil => cases name
  | cons c word => simp [isCellName, lower c List.mem_cons_self] at name

theorem Value.cellNames_literal {v : Value} {literal : String} (h : v.literal? = some literal) :
    cellNames literal.toList = [] := by
  have natural (n : Nat) : NoCapital (Literal.ofNat n).toList := by
    rw [Literal.ofNat, String.toList_ofList]
    exact .toDigits n
  cases v with
  | blank | text | date => cases h
  | flag b =>
    cases h
    cases b <;> rfl
  | whole n =>
    cases h
    cases n with
    | ofNat n => exact cellNames_eq_nil (natural n)
    | negSucc n =>
      rw [Literal.ofInt, String.toList_append]
      exact cellNames_eq_nil (.append (by decide) (natural (n + 1)))
  | real x =>
    cases h
    exact cellNames_eq_nil (.text Literal.layout x)

namespace Formula

theorem render_append (ts us : List Token) (o : Operator) :
    render (ts ++ .operator o :: us) = render ts ++ o.char :: render us := by
  simp [render, Token.text]

namespace Expr

variable {α : Type}

def operands {l : Level} : Expr α l → List α
  | operand a => [a]
  | group e => e.operands
  | factor e => e.operands
  | scale _ e a => e.operands ++ a.operands
  | term e => e.operands
  | add _ e p => e.operands ++ p.operands

theorem flatMap_tokens {β : Type} {write : α → List Token} {f : Token → List β}
    (signs : ∀ t, t.isSign = true → f t = []) {l : Level} (e : Expr α l) :
    (e.tokens write).flatMap f = e.operands.flatMap fun a => (write a).flatMap f := by
  induction e with
  | operand a => simp [tokens, operands]
  | group e ih => simp [tokens, operands, ih, signs .opening rfl, signs .closing rfl]
  | factor e ih => exact ih
  | scale o e a ihe iha => simp [tokens, operands, ihe, iha, signs (.operator _) rfl]
  | term e ih => exact ih
  | add s e q ihe ihq => simp [tokens, operands, ihe, ihq, signs (.operator _) rfl]

theorem cellNames_tokens (write : α → List Token) {l : Level} (e : Expr α l) :
    cellNames (render (e.tokens write)) =
      e.operands.flatMap fun a => cellNames (render (write a)) := by
  induction e with
  | operand a => simp [tokens, operands]
  | group e ih =>
    have text : render ((group e).tokens write) =
        [] ++ '(' :: (render (e.tokens write) ++ ')' :: []) := by
      simp [tokens, render, Token.text]
    rw [text, cellNames_append (by decide), cellNames_append (by decide), ih]
    simp [operands, cellNames_nil]
  | factor e ih => exact ih
  | scale o e a ihe iha =>
    rw [tokens, render_append, cellNames_append (by cases o <;> rfl), ihe, iha, operands,
      List.flatMap_append]
  | term e ih => exact ih
  | add s e q ihe ihq =>
    rw [tokens, render_append, cellNames_append (by cases s <;> rfl), ihe, ihq, operands,
      List.flatMap_append]

end Expr

namespace Reference

theorem isAlphanum_of_mem_name (r : Reference) {c : Char} (h : c ∈ r.name) :
    c.isAlphanum = true := by
  have letters : ∀ c, (letter c).isAlphanum = true := by decide
  have digits : ∀ d, (digit d).isAlphanum = true := by decide
  rcases List.mem_append.1 h with h | h
  · obtain ⟨c, _, rfl⟩ := List.mem_map.1 h
    exact letters c
  · obtain ⟨d, _, rfl⟩ := List.mem_map.1 h
    exact digits d

theorem isCellName_name (r : Reference) : isCellName r.name = true := by
  obtain ⟨d, ds, text⟩ := r.row.exists_head
  have digits : ∀ d, (digit d).isDigit = true := by decide
  have column : r.name.takeWhile Char.isUpper = r.column.map letter := by
    refine Text.takeWhile_append_of_stop (by simp [isUpper_letter]) fun c head => ?_
    rw [text] at head
    cases head
    exact isUpper_digit d
  have row : r.name.dropWhile Char.isUpper = r.row.text := by
    have whole := List.takeWhile_append_dropWhile (p := Char.isUpper) (l := r.name)
    rw [column] at whole
    exact List.append_cancel_left whole
  rw [isCellName, column, row]
  simp [r.nonempty, r.row.nonempty, Numeral.text, digits]

end Reference

theorem cellNames_name (r : Reference) : cellNames r.name = [r.name] := by
  rw [cellNames_word fun c => r.isAlphanum_of_mem_name, List.filter_cons_of_pos r.isCellName_name]
  rfl

theorem cellNames_sum (r : Reference) (rs : List Reference) :
    cellNames (r.name ++ rs.flatMap fun q => '+' :: q.name) = r.name :: rs.map Reference.name := by
  induction rs generalizing r with
  | nil => simp [cellNames_name]
  | cons q rs ih =>
    rw [List.flatMap_cons, List.cons_append, cellNames_append (by decide), cellNames_name, ih]
    rfl

def Range.inner (r : Range) : List (Fin 26) :=
  (List.finRange 26).filter fun c => r.first < c ∧ c < r.last

theorem Range.mem_columns (r : Range) {c : Fin 26} :
    c ∈ r.first :: r.later ↔ c = r.first ∨ c = r.last ∨ c ∈ r.inner := by
  have ordered := r.ordered
  simp only [later, inner, List.mem_cons, List.mem_filter, List.mem_finRange, true_and,
    decide_eq_true_eq]
  omega

namespace Operand

def inner : Operand → List (List Char)
  | range r => r.inner.map fun c => (Reference.short c r.row).name
  | _ => []

theorem mem_cellNames_pieces (o : Operand) {w : List Char} :
    w ∈ cellNames (render (Expr.written o.pieces)) ↔
      w ∈ o.tokens.flatMap Token.names ∨ w ∈ o.inner := by
  cases o with
  | number negative n =>
    have lower : NoCapital (render (Expr.written (number negative n).pieces)) := by
      cases negative <;> simp [NoCapital, Expr.written, pieces, tokens, render, Token.text,
        Numeral.text, isUpper_digit, Operator.char]
    rw [cellNames_eq_nil lower]
    cases negative <;> simp [tokens, inner, Token.names]
  | cell r =>
    have text : render (Expr.written (cell r).pieces) = r.name := by
      simp [Expr.written, pieces, tokens, render, Token.text, Reference.text_bare]
    rw [text, cellNames_name]
    simp [tokens, inner, Token.names]
  | range r =>
    have text : render (Expr.written (range r).pieces) = (Reference.short r.first r.row).name ++
        (r.later.map (Reference.short · r.row)).flatMap fun q => '+' :: q.name := by
      simp [Expr.written, pieces, tokens, render, Token.text, List.flatMap_map, List.flatMap_assoc,
        Operator.char]
      rfl
    have cells : (Reference.short r.first r.row).name ::
        (r.later.map (Reference.short · r.row)).map Reference.name =
          (r.first :: r.later).map fun c => (Reference.short c r.row).name := by
      simp
    have ends : w ∈ (range r).tokens.flatMap Token.names ↔
        (Reference.short r.first r.row).name = w ∨ (Reference.short r.last r.row).name = w := by
      simp [tokens, Token.names, eq_comm]
    rw [text, cellNames_sum, cells, List.mem_map, ends, inner, List.mem_map, or_assoc]
    simp only [r.mem_columns, or_and_right, exists_or, exists_eq_left]

end Operand

namespace Expr

def inner (e : Expr Operand .sum) : List (List Char) := e.operands.flatMap Operand.inner

theorem references_text (e : Expr Operand .sum) : references e.text.toList =
    (e.operands.flatMap fun o => o.tokens.flatMap Token.names).map String.ofList := by
  have signs : ∀ t : Token, t.isSign = true → t.names = [] := by
    intro t h
    cases t <;> first | rfl | cases h
  rw [text, String.toList_ofList, references_render (e.isChain_tokens isChain_operand),
    flatMap_tokens signs]

theorem mentions_iff {e : Expr Operand .sum} {expression : List Char}
    (h : compileChars e.text.toList = .ok expression) {name : String} :
    Mentions (String.ofList expression) name ↔
      name ∈ references e.text.toList ∨ name.toList ∈ e.inner := by
  have named : name ∈ references e.text.toList ↔
      name.toList ∈ e.operands.flatMap fun o => o.tokens.flatMap Token.names := by
    rw [references_text, List.mem_map]
    constructor
    · rintro ⟨w, mem, rfl⟩
      rwa [String.toList_ofList]
    · exact fun mem => ⟨_, mem, String.ofList_toList⟩
  rw [compileChars_text] at h
  cases h
  rw [Mentions, String.toList_ofList, cellNames_tokens, named, inner]
  simp only [List.mem_flatMap, Function.comp_apply, Operand.mem_cellNames_pieces, and_or_left,
    exists_or]

end Expr

end Formula

end SheetScript
