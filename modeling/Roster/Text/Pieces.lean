/-
The pieces of a list between separators.
-/

namespace Roster.Text

/-- The pieces between the elements that are `sep`: one more than there are separators. -/
def pieces [DecidableEq α] (sep : α) : List α → List (List α)
  | [] => [[]]
  | a :: r =>
      if a = sep then [] :: pieces sep r
      else match pieces sep r with
        | p :: ps => (a :: p) :: ps
        | [] => [[a]]

end Roster.Text
