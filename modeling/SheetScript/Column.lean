namespace SheetScript.Column

def last : Nat := 18278

/-- Letters count in base 26 with digits from one to 26. -/
def letters (n : Nat) : List Char :=
  if n = 0 then [] else letters ((n - 1) / 26) ++ [Char.ofNat (65 + (n - 1) % 26)]
termination_by n
decreasing_by omega

def name? (n : Nat) : Option String :=
  if 1 ≤ n ∧ n ≤ last then some (String.ofList (letters n)) else none

/-- The capital letters that a character stands for. Ligatures and the sharp s stand for more than
one; a character without plain capitals gives none. -/
def capitals (c : Char) : List Char :=
  if c.isUpper then [c]
  else if c.isLower then [c.toUpper]
  else match c with
    | 'ß' => ['S', 'S']
    | 'ı' => ['I']
    | 'ſ' => ['S']
    | 'ﬀ' => ['F', 'F']
    | 'ﬁ' => ['F', 'I']
    | 'ﬂ' => ['F', 'L']
    | 'ﬃ' => ['F', 'F', 'I']
    | 'ﬄ' => ['F', 'F', 'L']
    | 'ﬅ' => ['S', 'T']
    | 'ﬆ' => ['S', 'T']
    | _ => []

def number (letters : List Char) : Nat :=
  letters.foldl (fun n c => 26 * n + (c.toNat - 64)) 0

def ofChar? (c : Char) : Option Nat :=
  match capitals c with
  | [] => none
  | cs => some (number cs)

end SheetScript.Column
