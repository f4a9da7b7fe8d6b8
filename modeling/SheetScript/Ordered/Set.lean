universe u

namespace SheetScript

structure OrderedSet (α : Type u) where
  toList : List α
  nodup : toList.Nodup
deriving DecidableEq

namespace OrderedSet

variable {α : Type u}

instance : Membership α (OrderedSet α) := ⟨fun s a => a ∈ s.toList⟩

@[simp] theorem mem_toList {s : OrderedSet α} {a : α} : a ∈ s.toList ↔ a ∈ s := Iff.rfl

instance [DecidableEq α] (a : α) (s : OrderedSet α) : Decidable (a ∈ s) :=
  inferInstanceAs (Decidable (a ∈ s.toList))

def empty : OrderedSet α := ⟨[], List.nodup_nil⟩

@[simp] theorem toList_empty : (empty : OrderedSet α).toList = [] := rfl

theorem nodup_snoc {l : List α} {a : α} (hl : l.Nodup) (ha : a ∉ l) : (l ++ [a]).Nodup := by
  refine List.nodup_append.2 ⟨hl, by simp, fun x hx y hy => ?_⟩
  rintro rfl
  exact ha (by simpa using List.mem_singleton.1 hy ▸ hx)

variable [DecidableEq α]

def insert (s : OrderedSet α) (a : α) : OrderedSet α :=
  if h : a ∈ s.toList then s else ⟨s.toList ++ [a], nodup_snoc s.nodup h⟩

theorem toList_insert (s : OrderedSet α) (a : α) :
    (s.insert a).toList = if a ∈ s then s.toList else s.toList ++ [a] := by
  unfold insert
  split
  · rename_i h
    rw [if_pos (mem_toList.1 h)]
  · rename_i h
    rw [if_neg (mt mem_toList.2 h)]

@[simp] theorem mem_insert {s : OrderedSet α} {a b : α} : b ∈ s.insert a ↔ b ∈ s ∨ b = a := by
  rw [← mem_toList, toList_insert]
  split
  · rename_i h
    exact ⟨.inl, fun hb => hb.elim id fun e => e ▸ h⟩
  · simp

def ofList (l : List α) : OrderedSet α := l.foldl insert empty

omit [DecidableEq α] in
theorem nodup_filter (p : α → Bool) {l : List α} (h : l.Nodup) : (l.filter p).Nodup :=
  List.Pairwise.filter p h

omit [DecidableEq α] in
def filter (p : α → Bool) (s : OrderedSet α) : OrderedSet α :=
  ⟨s.toList.filter p, nodup_filter p s.nodup⟩

omit [DecidableEq α] in
@[simp] theorem toList_filter (p : α → Bool) (s : OrderedSet α) :
    (s.filter p).toList = s.toList.filter p := rfl

def erase (s : OrderedSet α) (a : α) : OrderedSet α := s.filter (· ≠ a)

theorem erase_insert {s : OrderedSet α} {a : α} (h : a ∉ s) : (s.insert a).erase a = s := by
  have kept : s.toList.filter (· ≠ a) = s.toList :=
    List.filter_eq_self.2 fun b mem => decide_eq_true fun eq => h (eq ▸ mem)
  have same : ((s.insert a).erase a).toList = s.toList := by
    rw [erase, toList_filter, toList_insert, if_neg h, List.filter_append, kept]
    simp
  generalize (s.insert a).erase a = t at same
  cases t
  cases same
  rfl

end OrderedSet

end SheetScript
