import SheetScript.Graph.Basic

/-!
Arrows that close a cycle, found by a depth-first search and taken out of the graph.

A vertex is open from when it is entered until all its arrows have been followed, and closed after
that. An arrow to an open vertex is cut, and the search leaves its start at once, which so stays
open; the arrow by which that start was entered is cut as well.
-/

universe u

namespace SheetScript

/-- What happens when an arrow leads to a vertex without a row: it gets an empty row, or the
search is given up. -/
inductive Missing where
  | added
  | refused
deriving DecidableEq

/-- A depth-first search. `stack` holds the vertices being followed, innermost first, each with the
arrows still to follow; `roots` are to be searched from after that. `entered` and `closed` list
vertices last first, `added` lists those without a row in the order in which they were met. -/
structure Search (V : Type u) where
  roots : List V
  stack : List (V × List V)
  entered : List V
  closed : List V
  cut : List (V × V)
  added : List V

namespace Search

variable {V : Type u}

def start (g : Graph V) : Search V := ⟨g.keys, [], [], [], [], []⟩

def finished (s : Search V) : Bool := s.stack.isEmpty && s.roots.isEmpty

def entrance (v : V) : List (V × List V) → List (V × V)
  | [] => []
  | (u, _) :: _ => [(u, v)]

variable [DecidableEq V]

def enter (g : Graph V) (missing : Missing) (s : Search V) (v : V) : Except V (Search V) :=
  let entered := { s with stack := (v, g.next v) :: s.stack, entered := v :: s.entered }
  if v ∈ g.keys then .ok entered
  else match missing with
    | .added => .ok { entered with added := s.added ++ [v] }
    | .refused => .error v

def step (g : Graph V) (missing : Missing) (s : Search V) : Except V (Search V) :=
  match s.stack with
  | [] =>
    match s.roots with
    | [] => .ok s
    | v :: roots =>
      if v ∈ s.entered then .ok { s with roots } else enter g missing { s with roots } v
  | (v, []) :: stack => .ok { s with stack, closed := v :: s.closed }
  | (v, w :: ws) :: stack =>
    if w ∈ s.closed then .ok { s with stack := (v, ws) :: stack }
    else if w ∈ s.entered then .ok { s with stack, cut := (v, w) :: entrance v stack ++ s.cut }
    else enter g missing { s with stack := (v, ws) :: stack } w

def load (s : Search V) : Nat :=
  2 * s.roots.length + s.stack.foldr (fun f n => 2 * f.2.length + 1 + n) 0

theorem enter_decreasing {g : Graph V} {missing : Missing} {s s' t : Search V} {v : V}
    (h : enter g missing s v = .ok s') (hv : v ∉ s.entered) (ht : t.entered = s.entered)
    (hl : s.load + 1 < t.load) :
    Prod.Lex (· < ·) (· < ·) (g.unseen s'.entered, s'.load) (g.unseen t.entered, t.load) := by
  rw [ht]
  by_cases hk : v ∈ g.keys
  · simp only [enter, hk, if_true, Except.ok.injEq] at h
    subst h
    exact .left _ _ (Graph.unseen_cons_lt hk hv)
  · have next := Graph.next_of_not_mem hk
    have le := Graph.unseen_cons_le g s.entered v
    cases missing with
    | refused => simp [enter, hk] at h
    | added =>
      simp only [enter, hk, if_false, Except.ok.injEq] at h
      subst h
      rw [Prod.lex_def]
      simp only [load, next, List.foldr_cons, List.length_nil] at hl ⊢
      omega

theorem step_decreasing {g : Graph V} {missing : Missing} {s s' : Search V}
    (hf : s.finished = false) (h : step g missing s = .ok s') :
    Prod.Lex (· < ·) (· < ·) (g.unseen s'.entered, s'.load) (g.unseen s.entered, s.load) := by
  obtain ⟨roots, stack, entered, closed, cut, added⟩ := s
  simp only [step] at h
  split at h
  · split at h
    · simp [finished] at hf
    · split at h
      · cases h
        exact .right _ (by simp [load])
      · rename_i hv
        refine enter_decreasing h hv rfl ?_
        simp only [load, List.length_cons]
        omega
  · cases h
    exact .right _ (by simp [load])
  · split at h
    · cases h
      exact .right _ (by simp [load])
    · split at h
      · cases h
        exact .right _ (by simp [load])
      · rename_i hw
        refine enter_decreasing h hw rfl ?_
        simp only [load, List.foldr_cons, List.length_cons]
        omega

def run (g : Graph V) (missing : Missing) (s : Search V) : Except V (Search V) :=
  if _hf : s.finished = true then .ok s
  else
    match _h : step g missing s with
    | .error v => .error v
    | .ok s' => run g missing s'
termination_by (g.unseen s.entered, s.load)
decreasing_by exact step_decreasing (by simpa using _hf) _h

end Search

/-- The graph without the arrows that a search from its rows cuts. Vertices that were met without a
row come last; where they are refused, the first of them is the error. -/
def Graph.breakCycles {V : Type u} [DecidableEq V] (g : Graph V) (missing : Missing) :
    Except V (Graph V) := do
  let s ← Search.run g missing (.start g)
  return s.added.foldl Graph.addVertex (g.removeEdges s.cut)

end SheetScript
