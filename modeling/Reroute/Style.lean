/-
  Reroute.Style — coloured text on a terminal.
-/

namespace Reroute

/-- How a text is shown. -/
structure Style where
  /-- Terminal codes for the colour and the weight, in this order. -/
  codes : List Nat
deriving DecidableEq, Repr

namespace Style

/-- A red text. -/
def red : Style := ⟨[31]⟩

/-- A bold red text. -/
def redBold : Style := ⟨[31, 1]⟩

/-- A bold green text. -/
def greenBold : Style := ⟨[32, 1]⟩

/-- A yellow text. -/
def yellow : Style := ⟨[33]⟩

/-- A blue text. -/
def blue : Style := ⟨[34]⟩

/-- A bold magenta text. -/
def magentaBold : Style := ⟨[35, 1]⟩

/-- A dim text. -/
def dim : Style := ⟨[2]⟩

/-- The escape sequence for a code. -/
def escape (code : Nat) : String := "\x1b[" ++ Nat.repr code ++ "m"

/-- The text in the style, or as it is without colours. -/
def apply (colors : Bool) (style : Style) (text : String) : String :=
  if colors then "".intercalate (style.codes.map escape) ++ text ++ escape 0 else text

end Style

end Reroute
