import SheetScript.Pattern.Syntax

namespace SheetScript.Pattern

def Node.isLeaf : Node → Bool
  | .char .. | .other .. | .any _ | .oneOf .. | .anchor _ | .backref .. => true
  | _ => false

def splitShared : (first : List Node) → (others : List (List Node)) →
    List Node × List (List Node)
  | [], others => ([], [] :: others)
  | n :: ns, others =>
    if n.isLeaf && others.all (·.head? = some n) then
      let (shared, branches) := splitShared ns (others.map List.tail)
      (n :: shared, branches)
    else ([], (n :: ns) :: others)

def classMembers? : List Node → Option (Folding × List ClassItem)
  | [.char folding code] => some (folding, [.char code])
  | [.oneOf folding false items] => some (folding, items)
  | _ => none

def unitedClass? (branches : List (List Node)) : Option Node :=
  match branches.mapM classMembers? with
  | some ((folding, items) :: members) =>
    some (.oneOf folding false (items ++ members.flatMap (·.2)).eraseDups)
  | _ => none

def unite : List (List Node) → List Node
  | [] => []
  | [items] => items
  | first :: others =>
    let (shared, branches) := splitShared first others
    shared ++ [(unitedClass? branches).getD (.ofBranches (branches.map .ofItems))]

def beginsWithChar : List Node → Bool
  | .char .exact _ :: _ => true
  | _ => false

end SheetScript.Pattern
