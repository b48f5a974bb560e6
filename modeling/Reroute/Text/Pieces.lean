/-
  Reroute.Text.Pieces — cutting a text at a separator.
-/

namespace Reroute

/-- The pieces of a text between occurrences of `separator`; there is always at least one. -/
def splitAtChar (separator : Char) : List Char → List (List Char)
  | [] => [[]]
  | c :: rest =>
    if c = separator then [] :: splitAtChar separator rest
    else match splitAtChar separator rest with
      | [] => [[c]]
      | piece :: pieces => (c :: piece) :: pieces

end Reroute
