import SheetScript.Pattern.Compare
import SheetScript.Pattern.Marks

/-!
Matching by trying the alternatives of a pattern in order. What has to match next is passed along,
so that the first way to match the whole is taken. An attempt that fails leaves marks behind, and
what is tried after it can see those that are not taken back.
-/

namespace SheetScript.Pattern

inductive Attempt where
  | found (s : Place) (m : Marks)
  | failed (m : Marks)

@[inline] def Attempt.orTry (a : Attempt) (other : Marks → Attempt) : Attempt :=
  match a with
  | found s m => .found s m
  | failed m => other m

abbrev Next := Place → Marks → Attempt

abbrev Matcher := Place → Marks → Next → Attempt

def more : Option Nat → Bool
  | some 0 => false
  | _ => true

def Place.stepWithin (s : Place) (allowed : Char → Bool) (bound : Option Nat) : Option Place :=
  if more bound then s.step allowed else none

theorem Place.left_lt_of_stepWithin {s s' : Place} {allowed : Char → Bool} {bound : Option Nat}
    (h : s.stepWithin allowed bound = some s') : s'.left < s.left := by
  unfold stepWithin at h
  split at h
  · exact left_lt_of_step h
  · cases h

def Place.reach (allowed : Char → Bool) (bound : Option Nat) (s : Place) (reached : List Place) :
    List Place :=
  match _h : s.stepWithin allowed bound with
  | none => s :: reached
  | some s' => s'.reach allowed (bound.map (· - 1)) (s :: reached)
termination_by s.left
decreasing_by exact left_lt_of_stepWithin _h

def Place.reachable (s : Place) (allowed : Char → Bool) (lo : Nat) (hi : Option Nat) : List Place :=
  let places := s.reach allowed hi []
  places.take (places.length - lo)

def fromFirst (inRepeated : Bool) (m : Marks) (next : Next) : List Place → Attempt
  | [] => .failed m
  | s :: places =>
    (next s m).orTry fun m' => fromFirst inRepeated (m.afterFailure inRepeated m') next places

def fewest (allowed : Char → Bool) (inRepeated : Bool) (bound : Option Nat) (s : Place) (m : Marks)
    (next : Next) : Attempt :=
  (next s m).orTry fun m' =>
    match _h : s.stepWithin allowed bound with
    | none => .failed (m.afterFailure inRepeated m')
    | some s' =>
      fewest allowed inRepeated (bound.map (· - 1)) s' (m.afterFailure inRepeated m') next
termination_by s.left
decreasing_by exact Place.left_lt_of_stepWithin _h

def charTimes (allowed : Char → Bool) (lo : Nat) (hi : Option Nat) (greed : Greed)
    (inRepeated : Bool) : Matcher :=
  fun s m next =>
    match greed with
    | .greedy => fromFirst inRepeated m next (s.reachable allowed lo hi)
    | .possessive =>
      match s.reachable allowed lo hi with
      | [] => .failed m
      | s' :: _ => next s' m
    | .lazy =>
      match s.skip allowed lo with
      | none => .failed m
      | some s' => fewest allowed inRepeated (hi.map (· - lo)) s' m next

def exactly (body : Matcher) : Nat → Matcher
  | 0, s, m, next => next s m
  | n + 1, s, m, next => body s m fun s' m' => exactly body n s' m' next

def greedily (body : Matcher) (bound : Option Nat) (s : Place) (m : Marks) (next : Next) :
    Attempt :=
  if more bound then
    (body s m fun s' m' =>
      if s'.left < s.left then greedily body (bound.map (· - 1)) s' m' next
      else next s' m').orTry fun _ => next s m
  else next s m
termination_by s.left

def lazily (body : Matcher) (inRepeated : Bool) (bound : Option Nat) (s : Place) (m : Marks)
    (next : Next) : Attempt :=
  (next s m).orTry fun left =>
    let m := m.afterFailure inRepeated left
    if more bound then
      body s m fun s' m' =>
        if s'.left < s.left then lazily body inRepeated (bound.map (· - 1)) s' m' next
        else (next s' m').orTry fun left => .failed (m'.afterFailure inRepeated left)
    else .failed m
termination_by s.left

def keeping (body : Matcher) (bound : Option Nat) (s : Place) (m : Marks) : Place × Marks :=
  if more bound then
    match body s m .found with
    | .failed _ => (s, m)
    | .found s' m' =>
      if s'.left < s.left then keeping body (bound.map (· - 1)) s' m' else (s', m')
  else (s, m)
termination_by s.left

def keepingExactly (body : Matcher) : Nat → Place → Marks → Attempt
  | 0, s, m => .found s m
  | n + 1, s, m =>
    match body s m .found with
    | .found s' m' => keepingExactly body n s' m'
    | .failed m' => .failed m'

def look (negated inRepeated : Bool) (s : Place) (m : Marks) (result : Attempt) (next : Next) :
    Attempt :=
  match result with
  | .found _ m' => if negated then .failed m' else next s m'
  | .failed m' => if negated then next s (m.afterFailure inRepeated m') else .failed m'

def one (allowed : Char → Bool) : Matcher :=
  fun s m next =>
    match s.step allowed with
    | none => .failed m
    | some s' => next s' m

/-- `inRepeated` says whether the part is inside of one that is repeated and does not stand for a
single character. -/
def Node.matcher : Node → (inRepeated : Bool) → Matcher
  | .empty, _, s, m, next => next s m
  | .char folding code, _, s, m, next => one (folding.allows code) s m next
  | .other folding code, _, s, m, next => one (fun c => !folding.allows code c) s m next
  | .any breaks, _, s, m, next => one (fun c => breaks || c ≠ '\n') s m next
  | .oneOf folding negated items, _, s, m, next =>
    one (fun c => items.any (·.holds folding c) != negated) s m next
  | .anchor a, _, s, m, next => if a.holds s then next s m else .failed m
  | .backref folding g, _, s, m, next =>
    match (m.taken g).bind (s.steps folding.same) with
    | none => .failed m
    | some s' => next s' m
  | .cat a b, deep, s, m, next => a.matcher deep s m fun s' m' => b.matcher deep s' m' next
  | .alt a b, deep, s, m, next =>
    (a.matcher deep s m next).orTry fun left =>
      let m := m.afterFailure deep left
      (b.matcher deep s m next).orTry fun left => .failed (m.afterFailure deep left)
  | .group g body, deep, s, m, next =>
    body.matcher deep s (m.begin g s) fun s' m' => next s' (m'.finish g s')
  | .repeated lo hi greed body, deep, s, m, next =>
    match body.allowed? with
    | some allowed => charTimes allowed lo hi greed deep s m next
    | none =>
      let bound := hi.map (· - lo)
      match greed with
      | .greedy =>
        let once := body.matcher true
        exactly once lo s m fun s' m' => greedily once bound s' m' next
      | .lazy =>
        let once := body.matcher true
        exactly once lo s m fun s' m' => lazily once deep bound s' m' next
      | .possessive =>
        match keepingExactly (body.matcher deep) lo s m with
        | .failed m' => .failed m'
        | .found s' m' =>
          let (s', m') := keeping (body.matcher deep) bound s' m'
          next s' m'
  | .ahead negated body, deep, s, m, next =>
    look negated deep s m (body.matcher deep s m .found) next
  | .behind negated width body, deep, s, m, next =>
    match s.back width.least with
    | none => if negated then next s m else .failed m
    | some s' => look negated deep s m (body.matcher deep s' m .found) next
  | .atomic body, deep, s, m, next =>
    match body.matcher deep s m .found with
    | .found s' m' => next s' m'
    | .failed m' => .failed m'
  | .scope body, deep, s, m, next => body.matcher deep s m next
  | .given g yes no, deep, s, m, next =>
    if m.hasTaken g then yes.matcher deep s m next else no.matcher deep s m next

def Node.searchFrom (n : Node) (reserve : Nat) (before : List Char) :
    (rest : List Char) → (left : Nat) → left = rest.length → Option (Place × Marks)
  | rest, left, h =>
    if left < reserve then none
    else
      match n.matcher false ⟨before, rest, left, h⟩ [] .found with
      | .found s m => some (s, m)
      | .failed _ =>
        match rest, h with
        | [], _ => none
        | c :: rest, h => n.searchFrom reserve (c :: before) rest (left - 1) (by rw [h]; rfl)

end SheetScript.Pattern

namespace SheetScript

/-- The end of the leftmost match, with the marks of its groups. A text that is shorter than the
parts of the pattern has none. Unless a match is known to start with some character, none is looked
for where fewer characters follow than all but one of those that the parts take. -/
def Pattern.search (p : Pattern) (text : List Char) : Option (Pattern.Place × Pattern.Marks) :=
  if text.length < p.least then none
  else
    p.body.searchFrom (if p.startsWithChar then 0 else p.least - 1) [] text text.length rfl

end SheetScript
