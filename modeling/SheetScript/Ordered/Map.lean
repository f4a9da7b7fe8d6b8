import SheetScript.Ordered.Set

universe u v

namespace SheetScript

structure OrderedMap (κ : Type u) (ν : Type v) where
  entries : List (κ × ν)
  distinct : (entries.map (·.1)).Nodup
deriving DecidableEq

namespace OrderedMap

variable {κ : Type u} {ν : Type v}

def empty : OrderedMap κ ν := ⟨[], List.nodup_nil⟩

def keys (m : OrderedMap κ ν) : List κ := m.entries.map (·.1)

theorem nodup_keys (m : OrderedMap κ ν) : m.keys.Nodup := m.distinct

instance : Membership κ (OrderedMap κ ν) := ⟨fun m k => k ∈ m.keys⟩

theorem mem_keys {m : OrderedMap κ ν} {k : κ} : k ∈ m.keys ↔ k ∈ m := Iff.rfl

def domain (m : OrderedMap κ ν) : OrderedSet κ := ⟨m.keys, m.distinct⟩

def mapValues {ω : Type v} (f : κ → ν → ω) (m : OrderedMap κ ν) : OrderedMap κ ω :=
  ⟨m.entries.map fun e => (e.1, f e.1 e.2), by simpa [Function.comp_def] using m.distinct⟩

@[simp] theorem keys_mapValues {ω : Type v} (f : κ → ν → ω) (m : OrderedMap κ ν) :
    (m.mapValues f).keys = m.keys := by
  simp [keys, mapValues, Function.comp_def]

variable [DecidableEq κ]

def find? (m : OrderedMap κ ν) (k : κ) : Option ν :=
  (m.entries.find? fun e => e.1 = k).map (·.2)

instance (k : κ) (m : OrderedMap κ ν) : Decidable (k ∈ m) :=
  inferInstanceAs (Decidable (k ∈ m.keys))

theorem find?_eq_none {m : OrderedMap κ ν} {k : κ} : m.find? k = none ↔ k ∉ m := by
  rw [← mem_keys]
  simp only [find?, keys, Option.map_eq_none_iff, List.find?_eq_none, List.mem_map]
  grind

def snoc (m : OrderedMap κ ν) (k : κ) (x : ν) (h : k ∉ m.keys) : OrderedMap κ ν :=
  ⟨m.entries ++ [(k, x)], by simpa using OrderedSet.nodup_snoc m.distinct h⟩

/-- Gives `k` a new value, made from its old one if it has one. A new key comes last; one that is
there keeps its place. -/
def upsert (m : OrderedMap κ ν) (k : κ) (f : Option ν → ν) : OrderedMap κ ν :=
  if h : k ∈ m.keys then m.mapValues fun l x => if l = k then f (some x) else x
  else m.snoc k (f none) h

def insert (m : OrderedMap κ ν) (k : κ) (x : ν) : OrderedMap κ ν := m.upsert k fun _ => x

def ofList (l : List (κ × ν)) : OrderedMap κ ν := l.foldl (fun m e => m.insert e.1 e.2) empty

theorem keys_upsert (m : OrderedMap κ ν) (k : κ) (f : Option ν → ν) :
    (m.upsert k f).keys = if k ∈ m then m.keys else m.keys ++ [k] := by
  unfold upsert
  split
  · rename_i h
    rw [keys_mapValues, if_pos (mem_keys.1 h)]
  · rename_i h
    rw [if_neg (mt mem_keys.2 h)]
    simp [snoc, keys]

end OrderedMap

end SheetScript
