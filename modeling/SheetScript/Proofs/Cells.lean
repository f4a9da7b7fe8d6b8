import SheetScript.Proofs.Extraction

namespace SheetScript

namespace Value

def defines : Value → Bool
  | flag _ | whole _ | real _ => true
  | text s => s.toList.head? = some '='
  | blank | date _ => false

theorem formula?_eq_some {v : Value} {cs : List Char} :
    v.formula? = some cs ↔ v = .text ("=" ++ String.ofList cs) := by
  cases v with
  | text s =>
    have written : Value.text s = .text ("=" ++ String.ofList cs) ↔ s.toList = '=' :: cs := by
      rw [Value.text.injEq, ← String.toList_inj]
      simp
    rw [written, formula?]
    split <;> simp_all
  | _ => simp [formula?]

theorem defines_iff {v : Value} :
    v.defines = true ↔ v.literal?.isSome = true ∨ v.formula?.isSome = true := by
  cases v with
  | text s =>
    simp only [defines, literal?, formula?, List.head?_eq_some_iff, decide_eq_true_eq]
    split <;> simp_all
  | _ => simp [defines, literal?, formula?]

end Value

namespace Position

def references (q : Position) : List String := q.value.formula?.elim [] Formula.references

def RefersAt (q : Position) (i : Nat) (cell : String) : Prop :=
  ∃ cs, q.value.formula? = some cs ∧ Formula.OccursAt cs i cell.toList

theorem Declares.references_eq_references {q : Position} {d : Declaration} (h : q.Declares d) :
    d.references = q.references := by
  cases formula : q.value.formula? with
  | none =>
    refine (List.eq_nil_iff_forall_not_mem.2 fun r mem => ?_).trans (by simp [references, formula])
    obtain ⟨cs, found, _⟩ := h.formula_of_mem mem
    simp [formula] at found
  | some cs => simp [references, formula, h.references_eq formula]

theorem exists_places (q : Position) : ∃ l : List (Nat × String),
    l.Pairwise (fun a b => a.1 < b.1) ∧ (∀ i cell, (i, cell) ∈ l ↔ q.RefersAt i cell) ∧
      l.map (·.2) = q.references := by
  cases formula : q.value.formula? with
  | none => exact ⟨[], .nil, by simp [RefersAt, formula], by simp [references, formula]⟩
  | some cs =>
    obtain ⟨l, sorted, places, names⟩ := Formula.exists_places cs
    refine ⟨l.map fun e => (e.1, String.ofList e.2), List.pairwise_map.2 sorted,
      fun i cell => ?_, ?_⟩
    · have listed : q.RefersAt i cell ↔ (i, cell.toList) ∈ l := by simp [RefersAt, formula, places]
      rw [listed, List.mem_map]
      constructor
      · rintro ⟨⟨j, name⟩, mem, same⟩
        obtain ⟨rfl, rfl⟩ := Prod.mk.inj same
        rwa [String.toList_ofList]
      · exact fun mem => ⟨_, mem, by simp⟩
    · simp [references, formula, Formula.references, ← names]

end Position

def Earlier (a b : Nat × Nat) : Prop := a.1 < b.1 ∨ a.1 = b.1 ∧ a.2 < b.2

namespace Sheet

def RefersAt (s : Sheet) (place : Nat × Nat) (cell : String) : Prop :=
  ∃ q, s.positions[place.1]? = some q ∧ q.RefersAt place.2 cell

def RefersBefore (s : Sheet) (cell other : String) : Prop :=
  ∃ place, s.RefersAt place cell ∧ ∀ place', s.RefersAt place' other → Earlier place place'

theorem exists_places (s : Sheet) : ∃ l : List ((Nat × Nat) × String),
    l.Pairwise (fun a b => Earlier a.1 b.1) ∧
      (∀ place cell, (place, cell) ∈ l ↔ s.RefersAt place cell) ∧
      l.map (·.2) = s.positions.flatMap Position.references := by
  unfold RefersAt
  generalize s.positions = qs
  induction qs using List.reverseRecOn with
  | nil => exact ⟨[], .nil, by simp, rfl⟩
  | append_singleton qs q ih =>
    obtain ⟨l, sorted, places, names⟩ := ih
    obtain ⟨here, sorted', places', names'⟩ := q.exists_places
    refine ⟨l ++ here.map fun e => ((qs.length, e.1), e.2), ?_, fun place cell => ?_, ?_⟩
    · refine List.pairwise_append.2 ⟨sorted, List.pairwise_map.2 ?_, fun a ha b hb => ?_⟩
      · exact sorted'.imp fun lt => .inr ⟨rfl, lt⟩
      · obtain ⟨e, _, rfl⟩ := List.mem_map.1 hb
        obtain ⟨q', there, _⟩ := (places a.1 a.2).1 ha
        exact .inl (List.getElem?_eq_some_iff.1 there).1
    · have last (q' : Position) : (qs ++ [q])[place.1]? = some q' ↔
          qs[place.1]? = some q' ∨ place.1 = qs.length ∧ q' = q := by grind
      rw [List.mem_append, places, List.mem_map]
      simp only [last, or_and_right, exists_or]
      refine or_congr_right ⟨?_, ?_⟩
      · rintro ⟨e, mem, same⟩
        obtain ⟨rfl, rfl⟩ := Prod.mk.inj same
        exact ⟨q, ⟨rfl, rfl⟩, (places' e.1 e.2).1 mem⟩
      · rintro ⟨_, ⟨start, rfl⟩, refers⟩
        refine ⟨(place.2, cell), (places' _ _).2 refers, ?_⟩
        exact Prod.ext (Prod.ext start.symm rfl) rfl
    · simp [names, ← names', Function.comp_def]

def references (s : Sheet) : OrderedSet String :=
  .ofList (s.positions.flatMap Position.references)

theorem mem_references_iff {s : Sheet} {cell : String} :
    cell ∈ s.references ↔ ∃ place, s.RefersAt place cell := by
  obtain ⟨l, _, places, names⟩ := s.exists_places
  rw [references, OrderedSet.mem_ofList, ← names, List.mem_map]
  constructor
  · rintro ⟨⟨place, cell⟩, mem, rfl⟩
    exact ⟨place, (places place cell).1 mem⟩
  · rintro ⟨place, refers⟩
    exact ⟨(place, cell), (places place cell).2 refers, rfl⟩

theorem pairwise_references (s : Sheet) : s.references.toList.Pairwise s.RefersBefore := by
  obtain ⟨l, sorted, places, names⟩ := s.exists_places
  rw [references, ← names]
  refine (OrderedSet.pairwise_ofList sorted).imp fun {cell other} first => ?_
  simpa only [RefersBefore, places] using first

end Sheet

namespace Declared

variable {qs : List Position} {ds : List Declaration}

theorem forall₂_declares (h : Declared qs ds) :
    (qs.filter (·.value.defines)).Forall₂ Position.Declares ds := by
  induction h with
  | nil => exact .nil
  | @skip q _ _ literal formula _ ih =>
    have off : q.value.defines = false := by
      rw [← Bool.not_eq_true, Value.defines_iff, literal, formula]
      simp
    simpa [off] using ih
  | declare declares _ ih => simpa [Value.defines_iff.2 declares.defines] using ⟨declares, ih⟩

theorem flatMap_references (h : Declared qs ds) :
    ds.flatMap (·.references) = qs.flatMap Position.references := by
  induction h with
  | nil => rfl
  | skip _ formula _ ih => simpa [Position.references, formula] using ih
  | declare declares _ ih => simpa [declares.references_eq_references] using ih

end Declared

namespace Program

theorem targets_graphOf {ds : List Declaration} (distinct : (ds.map (·.name)).Nodup) :
    (graphOf ds).targets = ds.flatMap fun d => (OrderedSet.ofList d.references).toList := by
  rw [Graph.targets, entries_graphOf distinct, List.flatMap_map]
  clear distinct
  induction ds with
  | nil => rfl
  | cons d ds ih => by_cases none : d.references = [] <;> simp_all [OrderedSet.ofList]

variable {s : Sheet} {p : Program}

theorem entries_cells {ds : List Declaration} (h : s.declarations = .ok ds) :
    (ofDeclarations ds).cells.entries = ds.map (fun d => (d.name, d.expression)) ++
      (s.references.filter (· ∉ ds.map (·.name))).toList.map (·, "0") := by
  have distinct := Sheet.nodup_names h
  have mentioned : OrderedSet.ofList (graphOf ds).targets = s.references := by
    rw [targets_graphOf distinct, OrderedSet.ofList_flatMap, (Sheet.declared h).flatMap_references,
      Sheet.references]
  -- The names behind the declared ones may repeat, but none of them is declared.
  rw [ofDeclarations, OrderedMap.entries_ofList_append]
  · rw [OrderedSet.toList_ofList_filter, mentioned, OrderedSet.toList_filter]
  · rwa [List.map_map]
  · intro r mem
    rw [List.map_map]
    simpa using (List.mem_filter.1 mem).2

theorem find?_formulas_iff (h : ofSheet s = .ok p) {name text : String} :
    p.formulas.find? name = some text ↔
      ∃ q ∈ s.positions, q.name = .ok name ∧ q.value = .text text ∧
        text.toList.head? = some '=' := by
  have listed : (name, text) ∈ p.formulas.entries ↔ (.ok name, text) ∈
      p.formulas.entries.map fun e => ((.ok e.1 : Except Error String), e.2) := by simp
  rw [OrderedMap.find?_eq_some, listed, entries_formulas h, List.mem_filterMap]
  refine exists_congr fun q => and_congr_right fun _ => ?_
  simp only [Option.map_eq_some_iff, Value.formula?_eq_some, Prod.mk.injEq]
  constructor
  · rintro ⟨cs, value, named, rfl⟩
    exact ⟨named, value, by simp⟩
  · rintro ⟨named, value, head⟩
    obtain ⟨cs, text⟩ := List.head?_eq_some_iff.1 head
    have written : _ = "=" ++ String.ofList cs := String.toList_inj.1 (by simpa using text)
    exact ⟨cs, written ▸ value, named, written.symm⟩

end Program

/-- A program lists the cells that its sheet defines, row by row, and behind them those that its
formulas only refer to, in the order in which they first do so and with zero as their value. Its
graph has a row for each formula that refers to a cell, and its formulas are those of the sheet. -/
theorem cells_listed_by_position_then_mention (s : Sheet) (p : Program)
    (h : Program.ofSheet s = .ok p) :
    (∃ (ds : List Declaration) (absent : List String),
      (s.positions.filter (·.value.defines)).Forall₂ Position.Declares ds ∧
      p.lines = ds.map (fun d => (d.name, "var " ++ d.name ++ " = " ++ d.expression ++ ";")) ++
        absent.map (fun r => (r, "var " ++ r ++ " = 0;")) ∧
      (∀ r, r ∈ absent ↔ (∃ place, s.RefersAt place r) ∧ ¬ s.Defines r) ∧
      absent.Pairwise s.RefersBefore) ∧
    (p.lines.map (·.1)).Nodup ∧
    (∀ name, name ∈ p.graph.keys ↔
      ∃ q ∈ s.positions, q.name = .ok name ∧ ∃ cell, q.RefersTo cell) ∧
    (∀ name cell, p.graph.Arrow name cell → cell ∈ p.lines.map (·.1)) ∧
    ∀ name text, p.formulas.find? name = some text ↔
      ∃ q ∈ s.positions, q.name = .ok name ∧ q.value = .text text ∧
        text.toList.head? = some '=' := by
  obtain ⟨ds, hd, rfl⟩ := Program.exists_declarations h
  refine ⟨⟨ds, (s.references.filter (· ∉ ds.map (·.name))).toList,
    (Sheet.declared hd).forall₂_declares, ?_, fun r => ?_, ?_⟩, ?_, fun name => ?_,
    fun name cell a => ?_, fun _ _ => Program.find?_formulas_iff h⟩
  · have zero (r : String) : declare r "0" = "var " ++ r ++ " = 0;" :=
      String.toList_inj.1 (by simp [declare])
    rw [Program.lines, Program.entries_cells hd, List.map_append, List.map_map, List.map_map]
    simp only [Function.comp_def, zero]
    rfl
  · rw [OrderedSet.toList_filter, List.mem_filter, OrderedSet.mem_toList, Sheet.mem_references_iff,
      Sheet.defines_iff hd]
    simp
  · exact s.pairwise_references.filter _
  · rw [Program.map_fst_lines]
    exact OrderedMap.nodup_keys _
  · rw [Program.mem_keys_graph_iff h]
    simp only [Program.arrow_iff h]
    grind
  · rw [Program.map_fst_lines]
    exact (Program.mem_cells_of_arrow h a).2

theorem cells_of_ragged_sheet :
    let s : Sheet := ⟨[[.text "=$B$9+C1", .whole 3], [.text "note"],
      [.blank, .text "=C1+A2+B1+B9", .flag true]]⟩
    let p : Program := .ofDeclarations [⟨"A1", "B9+C1", some "=$B$9+C1", ["B9", "C1"]⟩,
      ⟨"B1", "3", none, []⟩,
      ⟨"B3", "C1+A2+B1+B9", some "=C1+A2+B1+B9", ["C1", "A2", "B1", "B9"]⟩,
      ⟨"C3", "True", none, []⟩]
    Program.ofSheet s = .ok p ∧ p.lines = [("A1", "var A1 = B9+C1;"), ("B1", "var B1 = 3;"),
        ("B3", "var B3 = C1+A2+B1+B9;"), ("C3", "var C3 = True;"), ("B9", "var B9 = 0;"),
        ("C1", "var C1 = 0;"), ("A2", "var A2 = 0;")] ∧
      ["B9", "C1", "A2"].Pairwise s.RefersBefore ∧
      p.formulas.find? "B3" = some "=C1+A2+B1+B9" := by
  intro s p
  have hp : Program.ofSheet s = .ok p := by with_unfolding_all rfl
  have listed : p.lines = [("A1", "var A1 = B9+C1;"), ("B1", "var B1 = 3;"),
      ("B3", "var B3 = C1+A2+B1+B9;"), ("C3", "var C3 = True;"), ("B9", "var B9 = 0;"),
      ("C1", "var C1 = 0;"), ("A2", "var A2 = 0;")] := by with_unfolding_all rfl
  obtain ⟨⟨ds, absent, declared, lines, _, ordered⟩, _, _, _, formulas⟩ :=
    cells_listed_by_position_then_mention s p hp
  have four : ds.length = 4 := declared.length_eq.symm.trans rfl
  have behind : absent = ["B9", "C1", "A2"] := by
    have rest := (List.append_inj (lines.symm.trans (listed.trans
      (List.take_append_drop 4 _).symm)) (by simp [four])).2
    simpa [Function.comp_def] using congrArg (List.map (·.1)) rest
  exact ⟨hp, listed, behind ▸ ordered, (formulas _ _).2
    ⟨⟨2, 3, .text "=C1+A2+B1+B9"⟩, by simp [s, Sheet.positions], by decide +kernel, rfl, by decide⟩⟩

end SheetScript
