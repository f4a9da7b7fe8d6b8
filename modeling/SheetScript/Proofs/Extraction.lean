import SheetScript.Proofs.Users

namespace SheetScript

theorem filterMap_map_const {α β γ : Type} (f : α → Option β) (g : α → γ) (l : List α) :
    (l.filterMap fun a => (f a).map fun _ => g a) = (l.filter (f · |>.isSome)).map g := by
  induction l with
  | nil => rfl
  | cons a l ih => cases h : f a <;> simp [h, ih]

theorem Position.Declares.formula_eq {q : Position} {d : Declaration} (h : q.Declares d) :
    d.formula = q.value.formula?.map fun cs => "=" ++ String.ofList cs := by
  cases h with
  | number _ literal =>
    cases value : q.value <;> simp [value, Value.literal?, Value.formula?] at literal ⊢
  | @formula _ s cs _ _ value text _ =>
    have written : s = "=" ++ String.ofList cs := String.toList_inj.1 (by simp [text])
    simp [value, Value.formula?, text, ← written]

theorem Declared.formulas_eq {qs : List Position} {ds : List Declaration} (h : Declared qs ds) :
    (ds.filterMap fun d => d.formula.map (d.name, ·)).map (fun e => (.ok e.1, e.2)) =
      qs.filterMap fun q => q.value.formula?.map fun cs => (q.name, "=" ++ String.ofList cs) := by
  induction h with
  | nil => rfl
  | skip _ formula _ ih => simpa [formula] using ih
  | @declare q _ _ _ declares _ ih =>
    have written := declares.formula_eq
    cases formula : q.value.formula? with
    | none => simpa [written, formula] using ih
    | some cs => simpa [written, formula, declares.name_eq] using ih

namespace Program

variable {s : Sheet} {p : Program}

theorem entries_formulas (h : ofSheet s = .ok p) :
    p.formulas.entries.map (fun e => (.ok e.1, e.2)) = s.positions.filterMap fun q =>
      q.value.formula?.map fun cs => (q.name, "=" ++ String.ofList cs) := by
  obtain ⟨ds, hd, rfl⟩ := exists_declarations h
  have names : (ds.filterMap fun d => d.formula.map (d.name, ·)).map (·.1) =
      (ds.filter (·.formula.isSome)).map (·.name) := by
    rw [← filterMap_map_const, List.map_filterMap]
    simp [Function.comp_def]
  have distinct : ((ds.filterMap fun d => d.formula.map (d.name, ·)).map (·.1)).Nodup := by
    rw [names]
    exact (Sheet.nodup_names hd).sublist (List.filter_sublist.map _)
  rw [← (Sheet.declared hd).formulas_eq, ofDeclarations, OrderedMap.entries_ofList distinct]

theorem map_keys_formulas (h : ofSheet s = .ok p) :
    p.formulas.keys.map .ok =
      (s.positions.filter (·.value.formula?.isSome)).map Position.name := by
  have names := congrArg (List.map (·.1)) (entries_formulas h)
  rw [List.map_map, List.map_filterMap] at names
  rw [← filterMap_map_const, OrderedMap.keys, List.map_map]
  simpa [Function.comp_def] using names

end Program

end SheetScript
