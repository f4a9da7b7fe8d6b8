namespace SheetScript.Text

def cutAt (mark : Char) : List Char → List (List Char)
  | [] => [[]]
  | c :: cs =>
    if c = mark then [] :: cutAt mark cs
    else
      match cutAt mark cs with
      | [] => [[c]]
      | part :: parts => (c :: part) :: parts

end SheetScript.Text
