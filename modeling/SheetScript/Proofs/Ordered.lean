import Mathlib.Data.List.Induction
import Mathlib.Data.List.Nodup
import SheetScript.Ordered.Map

universe u v

namespace SheetScript

@[simp] theorem OrderedSet.not_mem_empty {α : Type u} (a : α) : a ∉ (empty : OrderedSet α) :=
  List.not_mem_nil

namespace OrderedSet

variable {α : Type u} [DecidableEq α]

theorem find?_foldl_insert (p : α → Bool) (l : List α) (s : OrderedSet α) :
    (l.foldl insert s).toList.find? p = (s.toList ++ l).find? p := by
  induction l generalizing s with
  | nil => simp
  | cons a l ih =>
    rw [List.foldl_cons, ih, toList_insert]
    split
    · rename_i known
      rw [List.find?_append, List.find?_append]
      cases found : s.toList.find? p with
      | some x => rfl
      | none =>
        have fails : p a = false := by simpa using List.find?_eq_none.1 found a known
        rw [List.find?_cons_of_neg (by simp [fails])]
    · rw [List.append_assoc, List.singleton_append]

theorem find?_ofList (p : α → Bool) (l : List α) : (ofList l).toList.find? p = l.find? p :=
  find?_foldl_insert p l empty

theorem mem_ofList {l : List α} {a : α} : a ∈ ofList l ↔ a ∈ l := by
  have found (l : List α) : a ∈ l ↔ (l.find? (· = a)).isSome := by simp
  rw [← mem_toList, found, find?_ofList, ← found]

theorem ofList_concat (l : List α) (a : α) : ofList (l ++ [a]) = (ofList l).insert a :=
  List.foldl_concat ..

theorem insert_of_mem {s : OrderedSet α} {a : α} (h : a ∈ s) : s.insert a = s := dif_pos h

theorem mem_foldl_insert {l : List α} {s : OrderedSet α} {a : α} :
    a ∈ l.foldl insert s ↔ a ∈ s ∨ a ∈ l := by
  induction l generalizing s with
  | nil => simp
  | cons b l ih => rw [List.foldl_cons, ih, mem_insert, List.mem_cons, or_assoc]

theorem toList_ofList_filter (p : α → Bool) (l : List α) :
    (ofList (l.filter p)).toList = (ofList l).toList.filter p := by
  induction l using List.reverseRecOn with
  | nil => rfl
  | append_singleton l a ih =>
    have mem : a ∈ ofList (l.filter p) ↔ a ∈ ofList l ∧ p a = true := by
      rw [← mem_toList, ih, List.mem_filter, mem_toList]
    rw [List.filter_append, ofList_concat, toList_insert]
    by_cases pass : p a = true
    · by_cases known : a ∈ ofList l <;>
        simp [pass, known, ofList_concat, toList_insert, mem, ih]
    · by_cases known : a ∈ ofList l <;> simp [pass, known, ih]

theorem foldl_insert_ofList (l : List α) (s : OrderedSet α) :
    (ofList l).toList.foldl insert s = l.foldl insert s := by
  induction l using List.reverseRecOn with
  | nil => rfl
  | append_singleton l a ih =>
    rw [ofList_concat, toList_insert, List.foldl_concat]
    split
    · rename_i known
      rw [ih, insert_of_mem (mem_foldl_insert.2 (.inr (mem_ofList.1 known)))]
    · rw [List.foldl_concat, ih]

theorem ofList_flatMap {β : Type v} (f : β → List α) (l : List β) :
    ofList (l.flatMap fun b => (ofList (f b)).toList) = ofList (l.flatMap f) := by
  simp only [ofList, List.foldl_flatMap]
  exact congrArg (fun step => l.foldl step empty)
    (funext fun s => funext fun b => foldl_insert_ofList (f b) s)

theorem pairwise_ofList {ι : Type v} {R : ι → ι → Prop} {l : List (ι × α)}
    (sorted : l.Pairwise fun x y => R x.1 y.1) :
    (ofList (l.map (·.2))).toList.Pairwise
      fun a b => ∃ i, (i, a) ∈ l ∧ ∀ j, (j, b) ∈ l → R i j := by
  induction l using List.reverseRecOn with
  | nil => exact .nil
  | append_singleton l e ih =>
    obtain ⟨front, _, behind⟩ := List.pairwise_append.1 sorted
    have earlier {i : ι} {a : α} (mem : (i, a) ∈ l) : R i e.1 := behind _ mem e (by simp)
    have old := (ih front).imp fun {a b} first => by
      obtain ⟨i, mem, before⟩ := first
      refine (⟨i, by simp [mem], fun j mem' => ?_⟩ :
        ∃ i, (i, a) ∈ l ++ [e] ∧ ∀ j, (j, b) ∈ l ++ [e] → R i j)
      rcases List.mem_append.1 mem' with inside | last
      · exact before j inside
      · obtain rfl := List.mem_singleton.1 last
        exact earlier mem
    rw [List.map_append, List.map_singleton, ofList_concat, toList_insert]
    split
    · exact old
    · rename_i fresh
      refine List.pairwise_append.2 ⟨old, List.pairwise_singleton _ _, fun a ha b hb => ?_⟩
      obtain rfl := List.mem_singleton.1 hb
      obtain ⟨⟨i, a⟩, mem, rfl⟩ := List.mem_map.1 (mem_ofList.1 (mem_toList.1 ha))
      refine ⟨i, by simp [mem], fun j mem' => ?_⟩
      rcases List.mem_append.1 mem' with inside | last
      · exact absurd (mem_ofList.2 (List.mem_map.2 ⟨_, inside, rfl⟩)) fresh
      · rw [← congrArg Prod.fst (List.mem_singleton.1 last)] at earlier
        exact earlier mem

end OrderedSet

namespace OrderedMap

variable {κ : Type u} {ν : Type v} [DecidableEq κ]

theorem find?_eq_some {m : OrderedMap κ ν} {k : κ} {x : ν} :
    m.find? k = some x ↔ (k, x) ∈ m.entries := by
  obtain ⟨entries, distinct⟩ := m
  simp only [find?]
  induction entries with
  | nil => simp
  | cons e entries ih =>
    obtain ⟨head, tail⟩ := List.nodup_cons.1 distinct
    by_cases h : e.1 = k
    · subst h
      have absent : (e.1, x) ∉ entries := fun mem => head (List.mem_map.2 ⟨_, mem, rfl⟩)
      simp [absent, Prod.ext_iff, eq_comm]
    · have other : (k, x) ≠ e := fun eq => h (congrArg Prod.fst eq).symm
      simp [h, other, ih tail]

theorem mem_iff_find? {m : OrderedMap κ ν} {k : κ} : k ∈ m ↔ ∃ x, m.find? k = some x := by
  rw [← Option.ne_none_iff_exists', ne_eq, find?_eq_none, not_not]

@[simp] theorem find?_empty (k : κ) : (empty : OrderedMap κ ν).find? k = none := rfl

@[simp] theorem find?_mapValues {ω : Type v} (f : κ → ν → ω) (m : OrderedMap κ ν) (k : κ) :
    (m.mapValues f).find? k = (m.find? k).map (f k) := by
  obtain ⟨entries, distinct⟩ := m
  simp only [find?, mapValues]
  clear distinct
  induction entries with
  | nil => rfl
  | cons e entries ih =>
    by_cases h : e.1 = k
    · simp [h]
    · simpa [h] using ih

theorem find?_snoc (m : OrderedMap κ ν) {k : κ} (x : ν) (h : k ∉ m.keys) (l : κ) :
    (m.snoc k x h).find? l = if l = k then some x else m.find? l := by
  simp only [find?, snoc, List.find?_append]
  split
  · subst l
    have absent : m.find? k = none := find?_eq_none.2 h
    simp only [find?, Option.map_eq_none_iff] at absent
    simp [absent]
  · have other : ¬ k = l := fun eq => by simp_all
    simp [other]

@[simp] theorem find?_upsert (m : OrderedMap κ ν) (k : κ) (f : Option ν → ν) (l : κ) :
    (m.upsert k f).find? l = if l = k then some (f (m.find? k)) else m.find? l := by
  unfold upsert
  split
  · rename_i mem
    rw [find?_mapValues]
    split
    · subst l
      obtain ⟨x, hx⟩ := mem_iff_find?.1 mem
      simp [hx]
    · simp
  · rename_i absent
    rw [find?_snoc, find?_eq_none.2 absent]

@[simp] theorem mem_upsert {m : OrderedMap κ ν} {k l : κ} {f : Option ν → ν} :
    l ∈ m.upsert k f ↔ l ∈ m ∨ l = k := by
  simp only [mem_iff_find?, find?_upsert]
  split <;> simp_all

theorem entries_upsert_of_not_mem {m : OrderedMap κ ν} {k : κ} (h : k ∉ m) (f : Option ν → ν) :
    (m.upsert k f).entries = m.entries ++ [(k, f none)] := by
  rw [upsert, dif_neg (mt mem_keys.1 h), snoc]

theorem entries_upsert_of_mem {m : OrderedMap κ ν} {k : κ} (h : k ∈ m) (f : Option ν → ν) :
    (m.upsert k f).entries =
      m.entries.map fun e => (e.1, if e.1 = k then f (some e.2) else e.2) := by
  rw [upsert, dif_pos (mem_keys.2 h), mapValues]

theorem entries_insert_of_mem {m : OrderedMap κ ν} {k : κ} {x : ν} (h : (k, x) ∈ m.entries) :
    (m.insert k x).entries = m.entries := by
  have here := find?_eq_some.2 h
  rw [insert, entries_upsert_of_mem (mem_iff_find?.2 ⟨x, here⟩)]
  have same : ∀ e ∈ m.entries, (e.1, if e.1 = k then x else e.2) = e := by
    rintro ⟨l, y⟩ mem
    by_cases eq : l = k
    · subst eq
      rw [if_pos rfl, Option.some.inj (here.symm.trans (find?_eq_some.2 mem))]
    · rw [if_neg eq]
  rw [List.map_congr_left same, List.map_id']

theorem entries_upsert_of_last {m : OrderedMap κ ν} {l : List (κ × ν)} {k : κ} {x : ν}
    (h : m.entries = l ++ [(k, x)]) (f : Option ν → ν) :
    (m.upsert k f).entries = l ++ [(k, f (some x))] := by
  have apart := m.distinct
  rw [h, List.map_append, List.nodup_append] at apart
  have same : ∀ e ∈ l, (e.1, if e.1 = k then f (some e.2) else e.2) = e := by
    intro e mem
    rw [if_neg (apart.2.2 e.1 (List.mem_map_of_mem mem) k (by simp))]
  have mem : k ∈ m := mem_keys.1 (by simp [keys, h])
  rw [entries_upsert_of_mem mem, h, List.map_append, List.map_congr_left same, List.map_id']
  simp

theorem foldl_insert_find? (l : List (κ × ν)) (m : OrderedMap κ ν) (k : κ) :
    (l.foldl (fun m e => m.insert e.1 e.2) m).find? k =
      ((l.reverse.find? fun e => e.1 = k).map (·.2)).or (m.find? k) := by
  induction l generalizing m with
  | nil => rfl
  | cons e l ih =>
    rw [List.foldl_cons, ih, insert, find?_upsert, List.reverse_cons, List.find?_append]
    by_cases h : e.1 = k
    · subst h
      cases l.reverse.find? fun x => x.1 = e.1 <;> simp
    · have other : ¬ k = e.1 := fun eq => h eq.symm
      cases l.reverse.find? fun x => x.1 = k <;> simp [h, other]

theorem find?_ofList (l : List (κ × ν)) (k : κ) :
    (ofList l).find? k = (l.reverse.find? fun e => e.1 = k).map (·.2) := by
  rw [ofList, foldl_insert_find?, find?_empty, Option.or_none]

theorem mem_ofList {l : List (κ × ν)} {k : κ} : k ∈ ofList l ↔ k ∈ l.map (·.1) := by
  rw [mem_iff_find?, find?_ofList, ← Option.isSome_iff_exists, Option.isSome_map,
    List.find?_isSome]
  simp

theorem ofList_concat (l : List (κ × ν)) (e : κ × ν) :
    ofList (l ++ [e]) = (ofList l).insert e.1 e.2 :=
  List.foldl_concat ..

theorem entries_ofList {l : List (κ × ν)} (distinct : (l.map (·.1)).Nodup) :
    (ofList l).entries = l := by
  induction l using List.reverseRecOn with
  | nil => rfl
  | append_singleton l e ih =>
    rw [List.map_append, List.nodup_append] at distinct
    obtain ⟨front, _, apart⟩ := distinct
    have fresh : e.1 ∉ (ofList l).keys := by
      rw [keys, ih front]
      exact fun mem => apart e.1 mem e.1 (by simp) rfl
    rw [ofList_concat, insert, entries_upsert_of_not_mem fresh, ih front]

theorem entries_ofList_append {l : List (κ × ν)} {ks : List κ} {x : ν}
    (distinct : (l.map (·.1)).Nodup) (apart : ∀ k ∈ ks, k ∉ l.map (·.1)) :
    (ofList (l ++ ks.map (·, x))).entries = l ++ (OrderedSet.ofList ks).toList.map (·, x) := by
  induction ks using List.reverseRecOn with
  | nil => simpa [OrderedSet.ofList] using entries_ofList distinct
  | append_singleton ks k ih =>
    obtain ⟨front, last⟩ := List.forall_mem_append.1 apart
    have old := ih front
    rw [List.map_append, List.map_singleton, ← List.append_assoc, ofList_concat,
      OrderedSet.ofList_concat, OrderedSet.toList_insert]
    split
    · rename_i known
      rw [entries_insert_of_mem, old]
      simp [old, known]
    · rename_i fresh
      have absent : k ∉ ofList (l ++ ks.map (·, x)) := by
        rw [← mem_keys, keys, old]
        have := last k (by simp)
        simp_all
      rw [insert, entries_upsert_of_not_mem absent, old]
      simp

theorem mem_entries_ofList {l : List (κ × ν)} (h : ∀ k x y, (k, x) ∈ l → (k, y) ∈ l → x = y)
    {k : κ} {x : ν} : (k, x) ∈ (ofList l).entries ↔ (k, x) ∈ l := by
  have sound {y : ν} (mem : (k, y) ∈ (ofList l).entries) : (k, y) ∈ l := by
    rw [← find?_eq_some, find?_ofList, Option.map_eq_some_iff] at mem
    obtain ⟨e, found, rfl⟩ := mem
    have key : e.1 = k := by simpa using List.find?_some found
    rw [← key]
    exact List.mem_reverse.1 (List.mem_of_find?_eq_some found)
  refine ⟨sound, fun mem => ?_⟩
  obtain ⟨y, found⟩ := mem_iff_find?.1 (mem_ofList.2 (List.mem_map.2 ⟨_, mem, rfl⟩))
  have kept := find?_eq_some.1 found
  rwa [h k x y mem (sound kept)]

end OrderedMap

end SheetScript
