import SheetScript.Pattern.Branches
import SheetScript.Pattern.Token
import SheetScript.Pattern.Width

namespace SheetScript.Pattern

/-- An item of a branch: a part of the pattern, or the parts inside of a plain parenthesis, which
can be repeated together and else are parts of the branch itself. -/
inductive Item where
  | part (n : Node)
  | bundle (parts : List Node)

def Item.parts : Item → List Node
  | part n => [n]
  | bundle ns => ns

/-- An open parenthesis. `index` is the number of its group if it captures, or of the group on which
its choice depends; it was opened when `start` characters were still to come. The other fields keep
what held outside of it. -/
structure Frame where
  opening : Opening
  index : Nat
  start : Nat
  mode : Mode
  behind : Option Nat
  branches : List (List Node)
  items : List Item

/-- What was read so far. The first fields are about the innermost open parenthesis: the mode; in a
part that looks behind a place, how many groups were opened in front of that part; and the branches
and items inside, last first. The others are the number of groups that were opened, the widths of
those that were closed, the names of those that have one, and the groups on which choices depend,
with the places where they are first named. -/
structure Reading where
  frames : List Frame := []
  mode : Mode := {}
  behind : Option Nat := none
  branches : List (List Node) := []
  items : List Item := []
  groups : Nat := 0
  widths : List (Nat × Width) := []
  names : List (String × Nat) := []
  choices : List (Nat × Nat) := []

namespace Reading

def push (r : Reading) (n : Node) : Reading := { r with items := .part n :: r.items }

def branch (r : Reading) : List Node := r.items.reverse.flatMap Item.parts

def allBranches (r : Reading) : List (List Node) := (r.branch :: r.branches).reverse

def width (r : Reading) (n : Node) : Width :=
  n.width fun g => (r.widths.lookup g).getD .zero

def isClosed (r : Reading) (group : Nat) : Bool := (r.widths.lookup group).isSome

def checkBehind (r : Reading) (group : Nat) (left : Nat) : Except Fault Unit :=
  match r.behind with
  | none => .ok ()
  | some groups =>
    if !r.isClosed group then .error (.misread .groupStillOpen left)
    else if groups < group then .error (.misread .groupBehind left)
    else .ok ()

def named (r : Reading) (name : String) (left : Nat) : Except Fault Nat :=
  match r.names.lookup name with
  | some index => .ok index
  | none => .error (.misread (.unknownName name) left)

def reference (r : Reading) (group : GroupRef) (left width : Nat) : Except Fault Reading := do
  let index ← match group with
    | .number n =>
      if r.groups < n then .error (.misread (.unknownGroup n) (left - 1))
      else if r.isClosed n then pure n
      else .error (.misread .groupStillOpen left)
    | .name name => do
      let n ← r.named name (left - 4)
      if r.isClosed n then pure n else .error (.misread .groupStillOpen (left - 4))
  r.checkBehind index (left - width)
  return r.push (.backref r.mode.folding index)

def enter (r : Reading) (o : Opening) (index left : Nat) : Reading :=
  { r with
    frames := ⟨o, index, left, r.mode, r.behind, r.branches, r.items⟩ :: r.frames
    branches := []
    items := [] }

def openCapture (r : Reading) (name : Option String) (left : Nat) : Except Fault Reading :=
  let index := r.groups + 1
  let entered := { r.enter (.capture name) index left with groups := index }
  match name with
  | none => .ok entered
  | some s =>
    match r.names.lookup s with
    | some earlier => .error (.misread (.repeatedName s index earlier) (left - 4))
    | none => .ok { entered with names := (s, index) :: r.names }

def openChoice (r : Reading) (group : GroupRef) (left width : Nat) : Except Fault Reading := do
  let (index, choices) ← match group with
    | .name name => do pure (← r.named name (left - 3), r.choices)
    | .number n =>
      pure (n, if r.choices.any (·.1 = n) then r.choices else r.choices ++ [(n, left - 3)])
  r.checkBehind index (left - width)
  return { r.enter (.given group) index left with choices }

def opened (r : Reading) (o : Opening) (left width : Nat) : Except Fault Reading :=
  match o with
  | .capture name => r.openCapture name left
  | .plain change => .ok { r.enter o 0 left with mode := r.mode.change change }
  | .look true _ => .ok { r.enter o 0 left with behind := r.behind.or (some r.groups) }
  | .look false _ => .ok (r.enter o 0 left)
  | .atomic => .ok (r.enter o 0 left)
  | .given group => r.openChoice group left width

def close (r : Reading) (f : Frame) : Item :=
  let parts := unite r.allBranches
  let body := Node.ofItems parts
  match f.opening with
  | .capture _ => .part (.group f.index body)
  | .plain change => if change.isNone then .bundle parts else .part (.scope body)
  | .look false negated => .part (.ahead negated body)
  | .look true negated => .part (.behind negated (r.width body) body)
  | .atomic => .part (.atomic body)
  | .given _ =>
    let branch (i : Nat) := Node.ofItems (r.allBranches[i]?.getD [])
    .part (.given f.index (branch 0) (branch 1))

def closed (r : Reading) (left : Nat) : Except Fault Reading :=
  match r.frames with
  | [] => .error (.misread .unbalanced left)
  | f :: frames =>
    let item := r.close f
    .ok
      { r with
        frames
        mode := f.mode
        behind := f.behind
        branches := f.branches
        items := item :: f.items
        widths := match f.opening with
          | .capture _ => (f.index, r.width (.ofItems item.parts)) :: r.widths
          | _ => r.widths }

def bar (r : Reading) (left : Nat) : Except Fault Reading :=
  match r.frames, r.branches with
  | ⟨.given _, _, _, _, _, _, _⟩ :: _, _ :: _ => .error (.misread .thirdBranch left)
  | _, _ => .ok { r with branches := r.branch :: r.branches, items := [] }

def times (r : Reading) (lo : Nat) (hi : Option Nat) (greed : Greed) (left : Nat) :
    Except Fault Reading :=
  match r.items with
  | [] => .error (.misread .nothingToRepeat left)
  | .part (.anchor _) :: _ => .error (.misread .nothingToRepeat left)
  | .part (.repeated ..) :: _ => .error (.misread .multipleRepeat left)
  | item :: items =>
    .ok { r with items := .part (.repeated lo hi greed (.ofItems item.parts)) :: items }

def take (r : Reading) (left width : Nat) : Token → Except Fault Reading
  | .item n => .ok (r.push n)
  | .reference group => r.reference group left width
  | .opened o => r.opened o left width
  | .closed => r.closed left
  | .bar => r.bar left
  | .times lo hi greed => r.times lo hi greed left
  | .comment => .ok r

def finish (r : Reading) : Except Fault Pattern :=
  match r.frames, r.choices.find? fun choice => r.groups < choice.1 with
  | f :: _, _ => .error (.misread .openGroup f.start)
  | [], some (group, left) => .error (.misread (.unknownGroup group) left)
  | [], none =>
    let body := Node.ofItems (unite r.allBranches)
    .ok ⟨body, (r.width body).least, r.allBranches.all beginsWithChar⟩

def run (r : Reading) : List Char → Except Fault Pattern
  | [] => r.finish
  | c :: rest =>
    match token r.mode c rest with
    | .error e => .error e
    | .ok (t, n) =>
      match r.take (rest.length + 1) n t with
      | .error e => .error e
      | .ok r => r.run (rest.drop (n - 1))
termination_by cs => cs.length
decreasing_by
  rw [List.length_drop, List.length_cons]
  omega

end Reading

def parse (text : List Char) : Except Error Pattern :=
  match Reading.run {} text with
  | .error f => .error (f.locate text)
  | .ok p =>
    match p.body.behindError? with
    | some e => .error e
    | none => .ok p

end SheetScript.Pattern
