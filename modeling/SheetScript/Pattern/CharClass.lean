import SheetScript.Pattern.Escape

namespace SheetScript.Pattern

def classAtom (narrow : Bool) : List Char → Except Fault (ClassItem × Nat)
  | [] => .error (.misread .openClass 0)
  | ['\\'] => .error (.misread .endInEscape 1)
  | '\\' :: c :: rest =>
    let left := rest.length + 2
    match kind? narrow c with
    | some item => .ok (item, 2)
    | none =>
      if c = 'b' then .ok (.char 8, 2)
      else if isOctal c then do
        let (code, n) ← octalCode left (c :: (rest.take 2).takeWhile isOctal)
        return (.char code, n)
      else do
        let (code, n) ← charEscape left c rest
        return (.char code, n)
  | c :: _ => .ok (.char c.toNat, 1)

def classRange (lo hi : ClassItem) (loSign hiSign : List Char) (left : Nat) :
    Except Fault ClassItem :=
  let refused : Except Fault ClassItem :=
    .error (.misread (.badRange (String.ofList loSign) (String.ofList hiSign))
      (left + loSign.length + 1 + hiSign.length))
  match lo, hi with
  | .char a, .char b => if b < a then refused else .ok (.range a b)
  | _, _ => refused

def classItems (narrow : Bool) (start : Nat) (items : List ClassItem) :
    List Char → Except Fault (List ClassItem × List Char)
  | [] => .error (.misread .openClass start)
  | c :: rest =>
    if c = ']' ∧ items ≠ [] then .ok (items, rest)
    else
      match classAtom narrow (c :: rest) with
      | .error e => .error e
      | .ok (a, n) =>
        match _h : rest.drop (n - 1) with
        | '-' :: ']' :: more => .ok (items ++ [a, .char 45], more)
        | ['-'] => .error (.misread .openClass start)
        | '-' :: d :: more =>
          match classAtom narrow (d :: more) with
          | .error e => .error e
          | .ok (b, m) =>
            let after := more.drop (m - 1)
            match classRange a b (sign (c :: rest)) (sign (d :: more)) after.length with
            | .error e => .error e
            | .ok r => classItems narrow start (items ++ [r]) after
        | after => classItems narrow start (items ++ [a]) after
termination_by cs => cs.length
decreasing_by
  · have := congrArg List.length _h
    simp only [List.length_drop, List.length_cons] at this ⊢
    omega
  · have := congrArg List.length _h
    simp only [List.length_drop, List.length_cons] at this ⊢
    omega

end SheetScript.Pattern
