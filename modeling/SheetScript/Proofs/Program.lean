import Mathlib.Data.List.Forall2
import SheetScript.Program
import SheetScript.Proofs.Graph.Arrows

namespace SheetScript

theorem forall₂_of_mapM_eq_ok {α β ε : Type} {f : α → Except ε β} {l : List α} {r : List β}
    (h : l.mapM f = .ok r) : List.Forall₂ (fun a b => f a = .ok b) l r := by
  induction l generalizing r with
  | nil =>
    cases h
    exact .nil
  | cons a l ih =>
    rw [List.mapM_cons] at h
    cases ha : f a with
    | error e =>
      rw [ha] at h
      cases h
    | ok b =>
      cases hl : l.mapM f with
      | error e =>
        rw [ha, hl] at h
        cases h
      | ok bs =>
        rw [ha, hl] at h
        cases h
        exact .cons ha (ih hl)

def Value.formula? : Value → Option (List Char)
  | .text s =>
    match s.toList with
    | '=' :: cs => some cs
    | _ => none
  | _ => none

namespace Sheet

def Defines (s : Sheet) (name : String) : Prop :=
  ∃ p ∈ s.positions, p.name = .ok name ∧
    (p.value.literal?.isSome = true ∨ p.value.formula?.isSome = true)

def RefersTo (s : Sheet) (name : String) : Prop :=
  ∃ p ∈ s.positions, ∃ cs, p.value.formula? = some cs ∧ name ∈ Formula.references cs

end Sheet

inductive Position.Declares (p : Position) : Declaration → Prop
  | number {name literal : String} : p.name = .ok name → p.value.literal? = some literal →
      Declares p ⟨name, literal, none, []⟩
  | formula {name s : String} {cs expression : List Char} : p.name = .ok name →
      p.value = .text s → s.toList = '=' :: cs → Formula.compileChars cs = .ok expression →
      Declares p ⟨name, String.ofList expression, some s, Formula.references cs⟩

namespace Position

theorem declaration?_spec {p : Position} {o : Option Declaration} (h : p.declaration? = .ok o) :
    match o with
    | some d => p.Declares d
    | none => p.value.literal? = none ∧ p.value.formula? = none := by
  unfold declaration? at h
  cases hn : p.name with
  | error e =>
    rw [hn] at h
    cases h
  | ok name =>
    rw [hn] at h
    simp only [bind, Except.bind] at h
    split at h
    · rename_i literal hl
      cases h
      exact .number hn hl
    · rename_i s hl hv
      split at h
      · rename_i cs hs
        cases hc : Formula.compileChars cs with
        | error e =>
          rw [hc] at h
          cases h
        | ok expression =>
          rw [hc] at h
          cases h
          exact .formula hn hv hs hc
      · rename_i hs
        cases h
        refine ⟨hl, ?_⟩
        rw [hv, Value.formula?]
        split
        · exact absurd ‹_› (hs _)
        · rfl
    · rename_i hl hv
      cases h
      refine ⟨hl, ?_⟩
      cases value : p.value with
      | text s => exact absurd value (hv s)
      | _ => rfl

theorem Declares.name_eq {p : Position} {d : Declaration} (h : p.Declares d) :
    p.name = .ok d.name := by
  cases h with
  | number name _ => exact name
  | formula name _ _ _ => exact name

theorem Declares.defines {p : Position} {d : Declaration} (h : p.Declares d) :
    p.value.literal?.isSome = true ∨ p.value.formula?.isSome = true := by
  cases h with
  | number _ literal => exact .inl (by simp [literal])
  | formula _ value text _ => exact .inr (by simp [value, Value.formula?, text])

theorem Declares.formula_of_mem {p : Position} {d : Declaration} (h : p.Declares d) {r : String}
    (mem : r ∈ d.references) :
    ∃ cs, p.value.formula? = some cs ∧ d.references = Formula.references cs := by
  cases h with
  | number _ _ => exact absurd mem List.not_mem_nil
  | formula _ value text _ => exact ⟨_, by simp [value, Value.formula?, text], rfl⟩

theorem Declares.references_eq {p : Position} {d : Declaration} (h : p.Declares d)
    {cs : List Char} (formula : p.value.formula? = some cs) :
    d.references = Formula.references cs := by
  cases h with
  | number _ literal =>
    cases value : p.value <;> simp [value, Value.literal?, Value.formula?] at literal formula
  | formula _ value text _ =>
    simp only [value, Value.formula?, text, Option.some.injEq] at formula
    rw [formula]

end Position

inductive Declared : List Position → List Declaration → Prop
  | nil : Declared [] []
  | skip {p : Position} {ps : List Position} {ds : List Declaration} : p.value.literal? = none →
      p.value.formula? = none → Declared ps ds → Declared (p :: ps) ds
  | declare {p : Position} {d : Declaration} {ps : List Position} {ds : List Declaration} :
      p.Declares d → Declared ps ds → Declared (p :: ps) (d :: ds)

namespace Declared

variable {ps : List Position} {ds : List Declaration}

theorem exists_declares_of_mem (h : Declared ps ds) {d : Declaration} (mem : d ∈ ds) :
    ∃ p ∈ ps, p.Declares d := by
  induction h with
  | nil => exact absurd mem List.not_mem_nil
  | skip _ _ _ ih =>
    obtain ⟨p, hp, declares⟩ := ih mem
    exact ⟨p, .tail _ hp, declares⟩
  | declare declares _ ih =>
    rcases List.mem_cons.1 mem with rfl | mem
    · exact ⟨_, List.mem_cons_self, declares⟩
    · obtain ⟨p, hp, declares⟩ := ih mem
      exact ⟨p, .tail _ hp, declares⟩

theorem exists_mem_declares (h : Declared ps ds) {p : Position} (hp : p ∈ ps)
    (defines : p.value.literal?.isSome = true ∨ p.value.formula?.isSome = true) :
    ∃ d ∈ ds, p.Declares d := by
  induction h with
  | nil => exact absurd hp List.not_mem_nil
  | skip literal formula _ ih =>
    rcases List.mem_cons.1 hp with rfl | hp
    · simp [literal, formula] at defines
    · exact ih hp
  | declare declares _ ih =>
    rcases List.mem_cons.1 hp with rfl | hp
    · exact ⟨_, List.mem_cons_self, declares⟩
    · obtain ⟨d, mem, declares⟩ := ih hp
      exact ⟨d, .tail _ mem, declares⟩

end Declared

namespace Sheet

variable {s : Sheet} {ds : List Declaration}

theorem declared (h : s.declarations = .ok ds) : Declared s.positions ds := by
  unfold declarations at h
  cases hm : s.positions.mapM Position.declaration? with
  | error e =>
    rw [hm] at h
    cases h
  | ok os =>
    rw [hm] at h
    cases h
    have all := forall₂_of_mapM_eq_ok hm
    clear hm
    generalize s.positions = ps at all
    induction all with
    | nil => exact .nil
    | @cons p o ps os found _ ih =>
      have spec := Position.declaration?_spec found
      cases o with
      | none => exact .skip spec.1 spec.2 ih
      | some d => exact .declare spec ih

theorem exists_declares_of_mem (h : s.declarations = .ok ds) {d : Declaration} (mem : d ∈ ds) :
    ∃ p ∈ s.positions, p.Declares d :=
  (declared h).exists_declares_of_mem mem

theorem exists_mem_declares (h : s.declarations = .ok ds) {p : Position} (hp : p ∈ s.positions)
    (defines : p.value.literal?.isSome = true ∨ p.value.formula?.isSome = true) :
    ∃ d ∈ ds, p.Declares d :=
  (declared h).exists_mem_declares hp defines

theorem defines_iff (h : s.declarations = .ok ds) {name : String} :
    s.Defines name ↔ name ∈ ds.map (·.name) := by
  simp only [Defines, List.mem_map]
  constructor
  · rintro ⟨p, hp, hn, defines⟩
    obtain ⟨d, mem, declares⟩ := exists_mem_declares h hp defines
    exact ⟨d, mem, Except.ok.inj (declares.name_eq.symm.trans hn)⟩
  · rintro ⟨d, mem, rfl⟩
    obtain ⟨p, hp, declares⟩ := exists_declares_of_mem h mem
    exact ⟨p, hp, declares.name_eq, declares.defines⟩

theorem refersTo_iff (h : s.declarations = .ok ds) {name : String} :
    s.RefersTo name ↔ ∃ d ∈ ds, name ∈ d.references := by
  constructor
  · rintro ⟨p, hp, cs, formula, mem⟩
    obtain ⟨d, hd, declares⟩ := exists_mem_declares h hp (.inr (by simp [formula]))
    exact ⟨d, hd, declares.references_eq formula ▸ mem⟩
  · rintro ⟨d, hd, mem⟩
    obtain ⟨p, hp, declares⟩ := exists_declares_of_mem h hd
    obtain ⟨cs, formula, refs⟩ := declares.formula_of_mem mem
    exact ⟨p, hp, cs, formula, refs ▸ mem⟩

end Sheet

namespace Program

theorem mem_next_foldl_addEdge {g : Graph String} {name : String} {refs : List String}
    {u v : String} :
    v ∈ (refs.foldl (fun g r => g.addEdge name r) g).next u ↔
      v ∈ g.next u ∨ u = name ∧ v ∈ refs := by
  induction refs generalizing g with
  | nil => simp
  | cons r refs ih =>
    rw [List.foldl_cons, ih, Graph.mem_next_addEdge, List.mem_cons]
    tauto

theorem arrow_graphOf {ds : List Declaration} {u v : String} :
    (graphOf ds).Arrow u v ↔ ∃ d ∈ ds, d.name = u ∧ v ∈ d.references := by
  suffices h : ∀ g : Graph String,
      v ∈ (ds.foldl (fun g d => d.references.foldl (fun g r => g.addEdge d.name r) g) g).next u ↔
        v ∈ g.next u ∨ ∃ d ∈ ds, d.name = u ∧ v ∈ d.references by
    simpa [Graph.Arrow, graphOf] using h .empty
  induction ds with
  | nil => simp
  | cons d ds ih =>
    intro g
    rw [List.foldl_cons, ih, mem_next_foldl_addEdge, List.exists_mem_cons_iff, or_assoc, eq_comm]

theorem mem_targets_graphOf {ds : List Declaration} {name : String} :
    name ∈ (graphOf ds).targets ↔ ∃ d ∈ ds, name ∈ d.references := by
  rw [Graph.mem_targets]
  simp only [← Graph.Arrow.eq_def, arrow_graphOf]
  constructor
  · rintro ⟨_, d, hd, _, mem⟩
    exact ⟨d, hd, mem⟩
  · rintro ⟨d, hd, mem⟩
    exact ⟨d.name, d, hd, rfl, mem⟩

theorem mem_cells_ofDeclarations {ds : List Declaration} {name : String} :
    name ∈ (ofDeclarations ds).cells ↔
      name ∈ ds.map (·.name) ∨ ∃ d ∈ ds, name ∈ d.references := by
  simp only [ofDeclarations, OrderedMap.mem_ofList, List.map_append, List.map_map,
    List.mem_append, Function.comp_def, List.map_id']
  rw [List.mem_filter, mem_targets_graphOf]
  by_cases defined : name ∈ ds.map (·.name) <;> simp [defined]

theorem map_fst_lines (p : Program) : p.lines.map (·.1) = p.cells.keys := by
  rw [lines, List.map_map]
  rfl

theorem exists_expression_of_mem_lines {p : Program} {line : String × String}
    (mem : line ∈ p.lines) : ∃ expression, p.cells.find? line.1 = some expression ∧
      line.2 = "var " ++ line.1 ++ " = " ++ expression ++ ";" := by
  obtain ⟨e, listed, rfl⟩ := List.mem_map.1 mem
  exact ⟨e.2, OrderedMap.find?_eq_some.2 listed, rfl⟩

theorem exists_declarations {s : Sheet} {p : Program} (h : ofSheet s = .ok p) :
    ∃ ds, s.declarations = .ok ds ∧ p = ofDeclarations ds := by
  unfold ofSheet at h
  cases hd : s.declarations with
  | error e =>
    rw [hd] at h
    cases h
  | ok ds =>
    rw [hd] at h
    cases h
    exact ⟨ds, rfl, rfl⟩

theorem mem_cells_iff {s : Sheet} {p : Program} (h : ofSheet s = .ok p) {name : String} :
    name ∈ p.cells ↔ s.Defines name ∨ s.RefersTo name := by
  obtain ⟨ds, hd, rfl⟩ := exists_declarations h
  rw [mem_cells_ofDeclarations, Sheet.defines_iff hd, Sheet.refersTo_iff hd]

theorem mem_cells_of_arrow {s : Sheet} {p : Program} (h : ofSheet s = .ok p) {u v : String}
    (a : p.graph.Arrow u v) : u ∈ p.cells ∧ v ∈ p.cells := by
  obtain ⟨ds, hd, rfl⟩ := exists_declarations h
  obtain ⟨d, mem, rfl, ref⟩ := arrow_graphOf.1 a
  exact ⟨mem_cells_ofDeclarations.2 (.inl (List.mem_map.2 ⟨d, mem, rfl⟩)),
    mem_cells_ofDeclarations.2 (.inr ⟨d, mem, ref⟩)⟩

end Program

end SheetScript
