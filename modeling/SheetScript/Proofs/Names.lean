import Mathlib.Data.List.Forall2
import SheetScript.Proofs.Formula.Occurrence
import SheetScript.Proofs.Program

namespace SheetScript

namespace Column

theorem toNat_digit (n : Nat) : (Char.ofNat (65 + n % 26)).toNat = 65 + n % 26 := by
  have all : ∀ d : Fin 26, (Char.ofNat (65 + d)).toNat = 65 + d := by decide
  exact all ⟨n % 26, Nat.mod_lt n (by decide)⟩

theorem isUpper_digit (n : Nat) : (Char.ofNat (65 + n % 26)).isUpper = true := by
  have all : ∀ d : Fin 26, (Char.ofNat (65 + d)).isUpper = true := by decide
  exact all ⟨n % 26, Nat.mod_lt n (by decide)⟩

theorem number_letters (n : Nat) : number (letters n) = n := by
  fun_induction letters n with
  | case1 => rfl
  | case2 n h ih =>
    rw [number] at ih ⊢
    rw [List.foldl_append, ih, List.foldl_cons, List.foldl_nil, toNat_digit]
    omega

theorem letters_injective : Function.Injective letters := by
  intro m n h
  rw [← number_letters m, h, number_letters]

theorem isUpper_of_mem_letters {n : Nat} {c : Char} (h : c ∈ letters n) : c.isUpper = true := by
  fun_induction letters n with
  | case1 => exact absurd h List.not_mem_nil
  | case2 n hn ih =>
    rcases List.mem_append.1 h with h | h
    · exact ih h
    · rw [List.mem_singleton.1 h]
      exact isUpper_digit (n - 1)

end Column

theorem isUpper_of_isDigit {c : Char} (h : c.isDigit = true) : c.isUpper = false := by
  change decide ('A'.val ≤ c.val ∧ c.val ≤ 'Z'.val) = false
  rw [Char.isDigit] at h
  grind

theorem isUpper_of_mem_toDigits {n : Nat} {c : Char} (h : c ∈ Nat.toDigits 10 n) :
    c.isUpper = false :=
  isUpper_of_isDigit (Nat.isDigit_of_mem_toDigits (by decide) (by decide) h)

theorem toDigits_injective : Function.Injective (Nat.toDigits 10) := by
  intro m n h
  rw [← @Nat.ofDigitChars_ten_toDigits m, h, Nat.ofDigitChars_ten_toDigits]

theorem eq_of_append_toDigits_eq {a b : List Char} {m n : Nat} (ha : ∀ c ∈ a, c.isUpper = true)
    (hb : ∀ c ∈ b, c.isUpper = true) (same : a ++ Nat.toDigits 10 m = b ++ Nat.toDigits 10 n) :
    a = b ∧ m = n := by
  have rows (n : Nat) : ∀ c ∈ (Nat.toDigits 10 n).head?, c.isUpper = false :=
    fun c head => isUpper_of_mem_toDigits (List.mem_of_head? head)
  have letters := congrArg (List.takeWhile Char.isUpper) same
  rw [Text.takeWhile_append_of_stop ha (rows m), Text.takeWhile_append_of_stop hb (rows n)]
    at letters
  rw [letters] at same
  exact ⟨letters, toDigits_injective (List.append_cancel_left same)⟩

namespace Position

theorem toList_of_name_eq_ok {p : Position} {name : String} (h : p.name = .ok name) :
    name.toList = Column.letters p.column ++ Nat.toDigits 10 p.row := by
  unfold Position.name Column.name? at h
  split at h
  · rename_i letters column
    split at column
    · cases column
      cases h
      simp [Literal.ofNat]
    · cases column
  · cases h

theorem eq_of_name_eq_ok {p q : Position} {name : String} (hp : p.name = .ok name)
    (hq : q.name = .ok name) : p.column = q.column ∧ p.row = q.row := by
  have same := (toList_of_name_eq_ok hp).symm.trans (toList_of_name_eq_ok hq)
  obtain ⟨letters, row⟩ := eq_of_append_toDigits_eq (fun c => Column.isUpper_of_mem_letters)
    (fun c => Column.isUpper_of_mem_letters) same
  exact ⟨Column.letters_injective letters, row⟩

end Position

namespace Sheet

theorem nodup_indices {α : Type} (l : List α) : ((l.zipIdx 1).map (·.2)).Nodup := by
  simp [List.nodup_range']

theorem nodup_positions (s : Sheet) : (s.positions.map fun p => (p.column, p.row)).Nodup := by
  rw [List.Nodup, List.pairwise_map, positions, List.pairwise_flatMap]
  constructor
  · rintro ⟨cells, row⟩ _
    have columns := List.pairwise_map.1 (nodup_indices cells)
    exact List.pairwise_map.2 (columns.imp fun differ same => differ (congrArg Prod.fst same))
  · refine (List.pairwise_map.1 (nodup_indices s.rows)).imp fun differ p hp q hq same => differ ?_
    obtain ⟨_, _, rfl⟩ := List.mem_map.1 hp
    obtain ⟨_, _, rfl⟩ := List.mem_map.1 hq
    exact (Prod.mk.inj same).2

theorem position_eq {s : Sheet} {p q : Position} (hp : p ∈ s.positions) (hq : q ∈ s.positions)
    {name : String} (pname : p.name = .ok name) (qname : q.name = .ok name) : p = q := by
  obtain ⟨column, row⟩ := Position.eq_of_name_eq_ok pname qname
  exact List.inj_on_of_nodup_map s.nodup_positions hp hq (Prod.ext column row)

end Sheet

theorem Position.Declares.unique {p : Position} {d d' : Declaration} (h : p.Declares d)
    (h' : p.Declares d') : d = d' := by
  cases h with
  | number name literal =>
    cases h' with
    | number name' literal' => simp_all
    | formula name' value text compiled => simp [value, Value.literal?] at literal
  | formula name value text compiled =>
    cases h' with
    | number name' literal => simp [value, Value.literal?] at literal
    | formula name' value' text' compiled' => simp_all

theorem Sheet.declaration_eq {s : Sheet} {ds : List Declaration} (h : s.declarations = .ok ds)
    {d d' : Declaration} (hd : d ∈ ds) (hd' : d' ∈ ds) (same : d.name = d'.name) : d = d' := by
  obtain ⟨p, hp, declares⟩ := exists_declares_of_mem h hd
  obtain ⟨q, hq, declares'⟩ := exists_declares_of_mem h hd'
  have name := declares'.name_eq
  rw [← same] at name
  cases position_eq hp hq declares.name_eq name
  exact declares.unique declares'

def IsName (name : List Char) : Prop := ∀ c ∈ name, c.isUpper = true ∨ Text.isDecimal c = true

theorem isDecimal_of_isDigit {c : Char} (h : c.isDigit = true) : Text.isDecimal c = true := by
  have digit : 48 ≤ c.toNat ∧ c.toNat ≤ 57 := Char.isDigit_iff_toNat.1 h
  have row : ∃ z ∈ Text.zeros, z ≤ c.toNat ∧ c.toNat < z + 10 := ⟨48, by decide, by omega⟩
  simpa [Text.isDecimal, Text.digitValue?] using row

theorem IsName.not_mem {name : List Char} (h : IsName name) {c : Char}
    (upper : c.isUpper = false) (decimal : Text.isDecimal c = false) : c ∉ name := by
  intro mem
  have := h c mem
  simp [upper, decimal] at this

theorem eq_of_append_stop {a b rest rest' : List Char} {stop : Char} (ha : stop ∉ a)
    (hb : stop ∉ b) (text : a ++ stop :: rest = b ++ stop :: rest') : a = b := by
  have inside {name : List Char} (h : stop ∉ name) : ∀ c ∈ name, decide (c ≠ stop) = true :=
    fun c mem => decide_eq_true fun eq => h (eq ▸ mem)
  have names := congrArg (List.takeWhile (· ≠ stop)) text
  rwa [Text.takeWhile_append_of_stop (inside ha) (by simp),
    Text.takeWhile_append_of_stop (inside hb) (by simp)] at names

theorem IsName.eq_of_append_eq {a b rest rest' : List Char} {stop : Char} (ha : IsName a)
    (hb : IsName b) (upper : stop.isUpper = false) (decimal : Text.isDecimal stop = false)
    (text : a ++ stop :: rest = b ++ stop :: rest') : a = b :=
  eq_of_append_stop (ha.not_mem upper decimal) (hb.not_mem upper decimal) text

theorem Position.isName {p : Position} {name : String} (h : p.name = .ok name) :
    IsName name.toList := by
  rw [toList_of_name_eq_ok h]
  intro c mem
  rcases List.mem_append.1 mem with letter | digit
  · exact .inl (Column.isUpper_of_mem_letters letter)
  · exact .inr (isDecimal_of_isDigit (Nat.isDigit_of_mem_toDigits (by decide) (by decide) digit))

theorem Formula.Occurs.isName {name formula : List Char} (h : Occurs name formula) :
    IsName name := by
  obtain ⟨_, _, column, _, row, _, _, _, spelled, rfl, _⟩ := h
  intro c mem
  exact (List.mem_append.1 mem).imp (spelled.upper c) (spelled.decimal c)

namespace Program

theorem isName_of_mem_cells {s : Sheet} {p : Program} (h : ofSheet s = .ok p) {name : String}
    (mem : name ∈ p.cells) : IsName name.toList := by
  rcases (mem_cells_iff h).1 mem with ⟨q, _, named, _⟩ | ⟨q, _, cs, _, refers⟩
  · exact Position.isName named
  · exact (Formula.mem_references_iff.1 refers).isName

theorem mem_entries_iff {s : Sheet} {ds : List Declaration} (h : s.declarations = .ok ds)
    {name expression : String} :
    (name, expression) ∈ (ofDeclarations ds).cells.entries ↔
      (∃ d ∈ ds, d.name = name ∧ d.expression = expression) ∨
        s.RefersTo name ∧ ¬ s.Defines name ∧ expression = "0" := by
  have listed (name expression : String) :
      (name, expression) ∈ ds.map (fun d => (d.name, d.expression)) ++
        ((graphOf ds).targets.filter (· ∉ ds.map (·.name))).map (·, "0") ↔
      (∃ d ∈ ds, d.name = name ∧ d.expression = expression) ∨
        s.RefersTo name ∧ ¬ s.Defines name ∧ expression = "0" := by
    rw [Sheet.refersTo_iff h, Sheet.defines_iff h, List.mem_append, ← mem_targets_graphOf]
    grind
  rw [← listed]
  refine OrderedMap.mem_entries_ofList fun name x y hx hy => ?_
  rw [listed] at hx hy
  have defined {d : Declaration} (hd : d ∈ ds) : s.Defines d.name :=
    (Sheet.defines_iff h).2 (List.mem_map.2 ⟨d, hd, rfl⟩)
  rcases hx with ⟨d, hd, rfl, rfl⟩ | ⟨_, undefined, rfl⟩
  · rcases hy with ⟨d', hd', same, rfl⟩ | ⟨_, undefined, _⟩
    · rw [Sheet.declaration_eq h hd' hd same]
    · exact absurd (defined hd) undefined
  · rcases hy with ⟨d', hd', rfl, _⟩ | ⟨_, _, rfl⟩
    · exact absurd (defined hd') undefined
    · rfl

end Program

end SheetScript
