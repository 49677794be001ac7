/-!
# Coloured text

A terminal shows text in a style between an escape sequence that starts the style and one that
resets it.  Where styled text itself holds a reset, the style is started again behind it.

* `Style.paint` — a text in a style.
* `coloursWanted` — whether styles are shown at all.
-/

namespace AddonRegistry

/-- How a stretch of text is shown. -/
inductive Style where
  | red
  | green
  | yellow
  | bold
  | dimmed
  deriving DecidableEq, Repr

namespace Style

/-- The parameter of the escape sequence that starts a style. -/
def parameter : Style → String
  | .red => "31"
  | .green => "32"
  | .yellow => "33"
  | .bold => "1"
  | .dimmed => "2"

/-- The escape sequence that starts a style. -/
def start (style : Style) : List Char := ("\x1b[" ++ style.parameter ++ "m").toList

/-- The escape sequence that ends every style. -/
def reset : List Char := "\x1b[0m".toList

/-- A text with `added` behind every occurrence of `mark`; `begun` characters of an occurrence are
still to be copied. -/
def addBehind (mark added : List Char) : Nat → List Char → List Char
  | _, [] => []
  | begun, c :: rest =>
      let left :=
        if begun = 0 then if mark.isPrefixOf (c :: rest) then mark.length else 0 else begun
      if left = 1 then c :: (added ++ addBehind mark added 0 rest)
      else c :: addBehind mark added (left - 1) rest

/-- A text in a style, or as it is where no colours are shown. -/
def paint (style : Style) (colours : Bool) (text : String) : String :=
  if colours then
    String.ofList (style.start ++ addBehind reset style.start 0 text.toList ++ reset)
  else text

end Style

/-- Whether a variable of the environment says yes: everything but a zero does. -/
def saysYes (value : String) : Bool := value ≠ "0"

/-- Whether styles are shown: they are on a terminal, unless the environment asks for none; and they
are everywhere where it insists on them. -/
def coloursWanted (onTerminal : Bool) (insisted refused allowed : Option String) : Bool :=
  if insisted.any saysYes then true
  else if refused.isSome then false
  else onTerminal && allowed.all saysYes

end AddonRegistry
