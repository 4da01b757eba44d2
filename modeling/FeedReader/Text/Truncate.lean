import FeedReader.Text.Width

/-!
# Cutting a text to a number of columns
-/

namespace FeedReader.Text

def ellipsis : Char := '…'

/-- The longest initial part whose characters, added up one by one, fit into `budget` columns. -/
def fitting (budget : Nat) : List Char → List Char
  | [] => []
  | c :: rest =>
      if columns c ≤ budget then c :: fitting (budget - columns c) rest else []

def truncate (s : String) (limit : Nat) : String :=
  if displayWidth s ≤ limit then s
  else if limit = 0 then ""
  else String.ofList (fitting (limit - 1) s.toList ++ [ellipsis])

end FeedReader.Text
