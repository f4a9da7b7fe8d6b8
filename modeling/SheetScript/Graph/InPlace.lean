import SheetScript.Graph.Cycles

/-!
Breaking cycles in a graph that is changed meanwhile. A vertex that is met without a row is given
one at once; the arrows are taken out one by one when the search is over. Every operation says how
it went and what graph it leaves, also where it fails.
-/

universe u

namespace SheetScript

variable {V : Type u} [DecidableEq V]

namespace Graph

theorem unseen_addVertex (g : Graph V) {seen : List V} {v : V} (h : v ∈ seen) :
    (g.addVertex v).unseen seen = g.unseen seen := by
  rw [unseen, addVertex, OrderedMap.keys_upsert]
  split
  · rfl
  · simp [unseen, h]

theorem unseen_foldl_addVertex {vs seen : List V} (g : Graph V) (h : ∀ v ∈ vs, v ∈ seen) :
    (vs.foldl addVertex g).unseen seen = g.unseen seen := by
  induction vs generalizing g with
  | nil => rfl
  | cons v vs ih =>
    rw [List.foldl_cons, ih _ fun w mem => h w (.tail _ mem),
      unseen_addVertex g (h v List.mem_cons_self)]

end Graph

namespace Search

def bare (s : Search V) : Search V := { s with added := [] }

/-- One step. Vertices met without a row are given it before the next step. -/
def stepInPlace (g : Graph V) (missing : Missing) (s : Search V) : Except V (Search V) × Graph V :=
  match step g missing s.bare with
  | .error v => (.error v, g)
  | .ok t => (.ok t.bare, t.added.foldl Graph.addVertex g)

theorem added_of_enter {g : Graph V} {missing : Missing} {s t : Search V} {v : V}
    (h : enter g missing s v = .ok t) : ∀ w ∈ t.added, w ∈ s.added ∨ w ∈ t.entered := by
  unfold enter at h
  split at h
  · cases h
    exact fun w mem => .inl mem
  · split at h
    · cases h
      intro w mem
      rcases List.mem_append.1 mem with old | new
      · exact .inl old
      · exact .inr (List.mem_cons.2 (.inl (List.mem_singleton.1 new)))
    · cases h

theorem added_of_step {g : Graph V} {missing : Missing} {s t : Search V}
    (h : step g missing s = .ok t) : ∀ w ∈ t.added, w ∈ s.added ∨ w ∈ t.entered := by
  obtain ⟨roots, stack, entered, closed, cut, added⟩ := s
  simp only [step] at h
  split at h
  · split at h
    · cases h
      exact fun w mem => .inl mem
    · split at h
      · cases h
        exact fun w mem => .inl mem
      · exact (added_of_enter h :)
  · cases h
    exact fun w mem => .inl mem
  · split at h
    · cases h
      exact fun w mem => .inl mem
    · split at h
      · cases h
        exact fun w mem => .inl mem
      · exact (added_of_enter h :)

theorem stepInPlace_decreasing {g g' : Graph V} {missing : Missing} {s t : Search V}
    (going : s.finished = false) (h : stepInPlace g missing s = (.ok t, g')) :
    Prod.Lex (· < ·) (· < ·) (g'.unseen t.entered, t.load) (g.unseen s.entered, s.load) := by
  unfold stepInPlace at h
  split at h
  · cases h
  · rename_i t' stepped
    cases h
    have fresh : ∀ v ∈ t'.added, v ∈ t'.entered := fun v mem =>
      (added_of_step stepped v mem).resolve_left List.not_mem_nil
    simp only [bare]
    rw [Graph.unseen_foldl_addVertex g fresh]
    exact step_decreasing (s := s.bare) going stepped

def runInPlace (g : Graph V) (missing : Missing) (s : Search V) : Except V (Search V) × Graph V :=
  if _hf : s.finished = true then (.ok s, g)
  else
    match _h : stepInPlace g missing s with
    | (.error v, g') => (.error v, g')
    | (.ok s', g') => runInPlace g' missing s'
termination_by (g.unseen s.entered, s.load)
decreasing_by exact stepInPlace_decreasing (by simpa using _hf) _h

end Search

namespace Graph

def lookUp (g : Graph V) (missing : Missing) (v : V) : Except V (List V) × Graph V :=
  match g.find? v, missing with
  | some row, _ => (.ok row.toList, g)
  | none, .added => (.ok [], g.addVertex v)
  | none, .refused => (.error v, g)

def takeOut (g : Graph V) (missing : Missing) (e : V × V) : Except V Unit × Graph V :=
  match g.lookUp missing e.1 with
  | (.error v, g) => (.error v, g)
  | (.ok row, g) => if e.2 ∈ row then (.ok (), g.removeEdges [e]) else (.error e.2, g)

def takeOutAll (g : Graph V) (missing : Missing) : List (V × V) → Except V Unit × Graph V
  | [] => (.ok (), g)
  | e :: es =>
    match g.takeOut missing e with
    | (.error v, g) => (.error v, g)
    | (.ok _, g) => g.takeOutAll missing es

def breakInPlace (g : Graph V) (missing : Missing) : Except V Unit × Graph V :=
  match Search.runInPlace g missing (.start g) with
  | (.error v, g) => (.error v, g)
  | (.ok s, g) => g.takeOutAll missing s.cut

end Graph

end SheetScript
