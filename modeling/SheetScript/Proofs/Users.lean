import SheetScript.Proofs.Graph.Reverse
import SheetScript.Proofs.Names

namespace SheetScript

namespace Position

def RefersTo (q : Position) (cell : String) : Prop :=
  ∃ cs, q.value.formula? = some cs ∧ Formula.Occurs cell.toList cs

instance (q : Position) (cell : String) : Decidable (q.RefersTo cell) :=
  decidable_of_iff (∃ cs ∈ q.value.formula?, Formula.Occurs cell.toList cs) Iff.rfl

theorem Declares.refersTo_iff {q : Position} {d : Declaration} (h : q.Declares d) {cell : String} :
    q.RefersTo cell ↔ cell ∈ d.references := by
  constructor
  · rintro ⟨cs, formula, occurs⟩
    rw [h.references_eq formula]
    exact Formula.mem_references_iff.2 occurs
  · intro mem
    obtain ⟨cs, formula, refs⟩ := h.formula_of_mem mem
    exact ⟨cs, formula, Formula.mem_references_iff.1 (refs ▸ mem)⟩

end Position

namespace Declared

variable {qs : List Position} {ds : List Declaration}

theorem nodup_names (h : Declared qs ds) (distinct : (qs.map fun q => (q.column, q.row)).Nodup) :
    (ds.map (·.name)).Nodup := by
  induction h with
  | nil => exact .nil
  | skip _ _ _ ih => exact ih (List.nodup_cons.1 distinct).2
  | declare declares later ih =>
    -- A second declaration of the name would come from the same place.
    obtain ⟨apart, distinct⟩ := List.nodup_cons.1 distinct
    refine List.nodup_cons.2 ⟨fun mem => apart ?_, ih distinct⟩
    obtain ⟨d', mem', same⟩ := List.mem_map.1 mem
    obtain ⟨q', hq', declares'⟩ := later.exists_declares_of_mem mem'
    have name := declares'.name_eq
    rw [same] at name
    obtain ⟨column, row⟩ := Position.eq_of_name_eq_ok declares.name_eq name
    exact List.mem_map.2 ⟨q', hq', Prod.ext column.symm row.symm⟩

theorem users_eq (h : Declared qs ds) (cell : String) :
    (qs.filter (·.RefersTo cell)).map Position.name =
      (ds.filter (cell ∈ ·.references)).map fun d => .ok d.name := by
  induction h with
  | nil => rfl
  | @skip q _ _ _ formula _ ih =>
    have unused : ¬ q.RefersTo cell := by
      rintro ⟨cs, found, _⟩
      simp [formula] at found
    simpa [unused] using ih
  | @declare _ d _ _ declares _ ih =>
    by_cases mem : cell ∈ d.references
    · simpa [declares.refersTo_iff, mem, declares.name_eq] using ih
    · simpa [declares.refersTo_iff, mem] using ih

end Declared

theorem Sheet.nodup_names {s : Sheet} {ds : List Declaration} (h : s.declarations = .ok ds) :
    (ds.map (·.name)).Nodup :=
  (declared h).nodup_names s.nodup_positions

namespace Program

theorem entries_foldl_addEdge {g : Graph String} {name : String} (fresh : name ∉ g.keys)
    (refs : List String) : (refs.foldl (fun g r => g.addEdge name r) g).entries =
      g.entries ++ if refs = [] then [] else [(name, OrderedSet.ofList refs)] := by
  induction refs using List.reverseRecOn with
  | nil => simp
  | append_singleton refs r ih =>
    rw [List.foldl_concat, Graph.addEdge, if_neg (by simp), OrderedSet.ofList_concat]
    by_cases first : refs = []
    · subst first
      exact OrderedMap.entries_upsert_of_not_mem fresh _
    · rw [if_neg first] at ih
      exact OrderedMap.entries_upsert_of_last ih _

theorem graphOf_concat (ds : List Declaration) (d : Declaration) :
    graphOf (ds ++ [d]) = d.references.foldl (fun g r => g.addEdge d.name r) (graphOf ds) :=
  List.foldl_concat ..

theorem entries_graphOf {ds : List Declaration} (distinct : (ds.map (·.name)).Nodup) :
    (graphOf ds).entries = (ds.filter (·.references ≠ [])).map fun d =>
      (d.name, OrderedSet.ofList d.references) := by
  induction ds using List.reverseRecOn with
  | nil => rfl
  | append_singleton ds d ih =>
    rw [List.map_append, List.nodup_append] at distinct
    obtain ⟨front, _, apart⟩ := distinct
    have fresh : d.name ∉ (graphOf ds).keys := by
      rw [OrderedMap.keys, ih front, List.map_map]
      intro mem
      obtain ⟨d', mem', same⟩ := List.mem_map.1 mem
      exact apart d'.name (List.mem_map_of_mem (List.mem_filter.1 mem').1) d.name (by simp) same
    rw [graphOf_concat, entries_foldl_addEdge fresh, ih front]
    by_cases none : d.references = [] <;> simp [none]

theorem keys_graphOf {ds : List Declaration} (distinct : (ds.map (·.name)).Nodup) :
    (graphOf ds).keys = (ds.filter (·.references ≠ [])).map (·.name) := by
  rw [OrderedMap.keys, entries_graphOf distinct, List.map_map]
  rfl

theorem next_reverse_graphOf {ds : List Declaration} (distinct : (ds.map (·.name)).Nodup)
    (cell : String) :
    (graphOf ds).reverse.next cell = (ds.filter (cell ∈ ·.references)).map (·.name) := by
  have row {d : Declaration} (mem : d ∈ ds) :
      cell ∈ (graphOf ds).next d.name ↔ cell ∈ d.references := by
    refine arrow_graphOf.trans ⟨?_, fun refers => ⟨d, mem, rfl, refers⟩⟩
    rintro ⟨d', mem', same, refers⟩
    rwa [← List.inj_on_of_nodup_map distinct mem' mem same]
  rw [Graph.next_reverse, keys_graphOf distinct, List.filter_map, List.filter_filter]
  congr 1
  refine List.filter_congr fun d mem => ?_
  by_cases refers : cell ∈ d.references
  · simp [row mem, refers, List.ne_nil_of_mem refers]
  · simp [row mem, refers]

theorem map_next_reverse {s : Sheet} {p : Program} (h : ofSheet s = .ok p) (cell : String) :
    (p.graph.reverse.next cell).map .ok =
      (s.positions.filter (·.RefersTo cell)).map Position.name := by
  obtain ⟨ds, hd, rfl⟩ := exists_declarations h
  have row : (ofDeclarations ds).graph.reverse.next cell = _ :=
    next_reverse_graphOf (Sheet.nodup_names hd) cell
  rw [(Sheet.declared hd).users_eq, row, List.map_map]
  rfl

theorem arrow_iff {s : Sheet} {p : Program} (h : ofSheet s = .ok p) {name cell : String} :
    p.graph.Arrow name cell ↔ ∃ q ∈ s.positions, q.name = .ok name ∧ q.RefersTo cell := by
  have users : (.ok name : Except Error String) ∈ (p.graph.reverse.next cell).map .ok ↔
      p.graph.Arrow name cell := by
    rw [List.mem_map_of_injective fun _ _ => Except.ok.inj]
    exact Graph.arrow_reverse
  rw [← users, map_next_reverse h, List.mem_map]
  simp only [List.mem_filter, decide_eq_true_eq]
  constructor
  · rintro ⟨q, ⟨mem, refers⟩, named⟩
    exact ⟨q, mem, named, refers⟩
  · rintro ⟨q, mem, named, refers⟩
    exact ⟨q, ⟨mem, refers⟩, named⟩

theorem mem_keys_graph_iff {s : Sheet} {p : Program} (h : ofSheet s = .ok p) {name : String} :
    name ∈ p.graph.keys ↔ ∃ cell, p.graph.Arrow name cell := by
  refine ⟨fun mem => ?_, fun ⟨_, a⟩ => Graph.mem_keys_of_mem_next a⟩
  obtain ⟨ds, hd, rfl⟩ := exists_declarations h
  have rows : (ofDeclarations ds).graph.keys = _ := keys_graphOf (Sheet.nodup_names hd)
  rw [rows] at mem
  obtain ⟨d, row, rfl⟩ := List.mem_map.1 mem
  obtain ⟨here, some⟩ := List.mem_filter.1 row
  obtain ⟨r, refers⟩ := List.exists_mem_of_ne_nil _ (of_decide_eq_true some)
  exact ⟨r, arrow_graphOf.2 ⟨d, here, rfl, refers⟩⟩

end Program

end SheetScript
