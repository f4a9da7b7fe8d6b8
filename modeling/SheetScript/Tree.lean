universe u

namespace SheetScript

inductive Tree (α : Type u) where
  | node (label : α) (branches : List (Tree α))

end SheetScript
