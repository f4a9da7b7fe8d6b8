namespace SheetScript.Text

inductive Segment (α : Type) where
  | plain (cs : List Char)
  | found (a : α)

/-- `find?` looks at the start of a text and says what stands there and how many characters it
covers, at least one. Nothing starts in the middle of a run of characters that `inner` holds of, so
that such a run is passed over as a whole. -/
def scan {α : Type} (inner : Char → Bool) (find? : List Char → Option (α × Nat)) :
    List Char → List (Segment α)
  | [] => []
  | c :: rest =>
    match find? (c :: rest) with
    | some (a, n) => .found a :: scan inner find? (rest.drop (n - 1))
    | none =>
      let run := if inner c then rest.takeWhile inner else []
      .plain (c :: run) :: scan inner find? (rest.drop run.length)
termination_by cs => cs.length
decreasing_by
  · rw [List.length_drop, List.length_cons]
    omega
  · rw [List.length_drop, List.length_cons]
    omega

def finds {α : Type} (inner : Char → Bool) (find? : List Char → Option (α × Nat))
    (cs : List Char) : List α :=
  (scan inner find? cs).filterMap fun
    | .plain _ => none
    | .found a => some a

def replace {α : Type} (inner : Char → Bool) (find? : List Char → Option (α × Nat))
    (write : α → List Char) (cs : List Char) : List Char :=
  (scan inner find? cs).flatMap fun
    | .plain cs => cs
    | .found a => write a

def replaceM {α ε : Type} (inner : Char → Bool) (find? : List Char → Option (α × Nat))
    (write : α → Except ε (List Char)) (cs : List Char) : Except ε (List Char) := do
  let parts ← (scan inner find? cs).mapM fun
    | .plain cs => .ok cs
    | .found a => write a
  return parts.flatten

def nowhere (_ : Char) : Bool := false

def replaceText (old new : List Char) : List Char → List Char :=
  replace nowhere (fun cs => if old.isPrefixOf cs then some ((), old.length) else none) fun _ => new

end SheetScript.Text
