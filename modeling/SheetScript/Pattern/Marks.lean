import SheetScript.Pattern.Place

namespace SheetScript.Pattern

structure Mark where
  rest : List Char
  left : Nat

def Place.mark (s : Place) : Mark := ⟨s.rest, s.left⟩

abbrev Marks := List (Option Mark)

namespace Marks

def put (m : Marks) (i : Nat) (mark : Mark) : Marks :=
  if i < m.length then m.set i (some mark)
  else m ++ List.replicate (i - m.length) none ++ [some mark]

def begin (m : Marks) (group : Nat) (s : Place) : Marks := m.put (2 * group - 2) s.mark

def finish (m : Marks) (group : Nat) (s : Place) : Marks := m.put (2 * group - 1) s.mark

/-- Where a group begins and ends, if both marks are set. They can stem from different passes
through the group. -/
def ends (m : Marks) (group : Nat) : Option (Mark × Mark) :=
  match m[2 * group - 2]?, m[2 * group - 1]? with
  | some (some start), some (some stop) => some (start, stop)
  | _, _ => none

def taken (m : Marks) (group : Nat) : Option (List Char) :=
  (m.ends group).bind fun (start, stop) =>
    if stop.left ≤ start.left then some (start.rest.take (start.left - stop.left)) else none

def hasTaken (m : Marks) (group : Nat) : Bool :=
  (m.ends group).any fun (start, stop) => stop.left ≤ start.left

def crossed (m : Marks) : Bool :=
  (List.range (m.length / 2)).any fun i =>
    (m.ends (i + 1)).any fun (start, stop) => start.left < stop.left

/-- The marks that hold when what was tried with the marks `saved` has failed and left others. In a
repeated part they are as they were; elsewhere only those that were added are dropped. -/
def afterFailure (inRepeated : Bool) (saved now : Marks) : Marks :=
  if inRepeated then saved else now.take saved.length

end Marks

end SheetScript.Pattern
