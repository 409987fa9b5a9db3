/-!
# Colours on a terminal

Texts in colours and weights, for terminals that understand the escape sequences for them. Anywhere
else a styled text is the text.

## Main definitions

- `Style` — colours and weights
- `Style.paint` — a text in a style
-/

namespace Patchwise

/-- A colour or a weight, or both. -/
inductive Style
  | bold
  | dimmed
  | red
  | green
  | yellow
  | cyan
  | boldRed
  | boldGreen
  | boldYellow
  deriving DecidableEq, Repr

namespace Style

/-- The codes that switch a style on. -/
def codes : Style → String
  | bold => "1"
  | dimmed => "2"
  | red => "31"
  | green => "32"
  | yellow => "33"
  | cyan => "36"
  | boldRed => "1;31"
  | boldGreen => "1;32"
  | boldYellow => "1;33"

/-- The sequence that switches a style on. -/
def opening (style : Style) : List Char :=
  '\x1b' :: '[' :: style.codes.toList ++ ['m']

/-- The sequence that switches every style off. -/
def reset : List Char :=
  ['\x1b', '[', '0', 'm']

/-- A text in which a style is switched on again wherever all styles are switched off. -/
def reopen (style : List Char) : List Char → List Char
  | '\x1b' :: '[' :: '0' :: 'm' :: rest => reset ++ style ++ reopen style rest
  | c :: rest => c :: reopen style rest
  | [] => []

/-- A text in a style. Without a terminal it is the text alone. -/
def paint (terminal : Bool) (style : Style) (text : String) : String :=
  if terminal then .ofList (style.opening ++ reopen style.opening text.toList ++ reset) else text

end Style

end Patchwise
