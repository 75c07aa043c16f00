/-!
# Pieces

A list cut at its separators. Two separators side by side have an empty piece between them, and so
has a separator at either end.
-/

namespace SqlWorkload.Text

/-- The list of lists with one element more at the front of its first list. -/
def consHead {α : Type} (a : α) : List (List α) → List (List α)
  | piece :: rest => (a :: piece) :: rest
  | [] => [[a]]

def pieces {α : Type} (isSeparator : α → Bool) : List α → List (List α)
  | [] => [[]]
  | a :: rest =>
    if isSeparator a then [] :: pieces isSeparator rest else consHead a (pieces isSeparator rest)

end SqlWorkload.Text
