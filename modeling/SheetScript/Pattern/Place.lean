namespace SheetScript.Pattern

/-- A place in a text: what stands before it, last character first, what follows, and how long that
is. -/
structure Place where
  before : List Char
  rest : List Char
  left : Nat
  left_eq : left = rest.length

namespace Place

def step (s : Place) (allowed : Char → Bool) : Option Place :=
  match _h : s.rest with
  | [] => none
  | c :: rest =>
    if allowed c then some ⟨c :: s.before, rest, s.left - 1, by rw [s.left_eq, _h]; rfl⟩ else none

theorem left_lt_of_step {s s' : Place} {allowed : Char → Bool} (h : s.step allowed = some s') :
    s'.left < s.left := by
  unfold step at h
  split at h
  · cases h
  · rename_i c rest hrest
    split at h
    · cases h
      simp only [s.left_eq, hrest, List.length_cons]
      omega
    · cases h

def steps (s : Place) (same : Char → Char → Bool) : List Char → Option Place
  | [] => some s
  | c :: cs => (s.step (same c)).bind (Place.steps · same cs)

def skip (s : Place) (allowed : Char → Bool) : Nat → Option Place
  | 0 => some s
  | n + 1 => (s.step allowed).bind (Place.skip · allowed n)

def back (s : Place) : Nat → Option Place
  | 0 => some s
  | n + 1 =>
    match s.before with
    | [] => none
    | c :: before => Place.back ⟨before, c :: s.rest, s.left + 1, by rw [s.left_eq]; rfl⟩ n

end Place

end SheetScript.Pattern
