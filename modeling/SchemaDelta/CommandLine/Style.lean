/-!
# Styles

Text for a terminal: a style opens with its codes and ends with a reset. A reset inside
the text would end it early, so the style is opened again behind every one of them.
-/

namespace SchemaDelta.CommandLine

inductive Style where
  | bold
  | cyan
  | yellow
  | green
  | brightBlue
  | boldBrightBlue
  | boldRed
  | boldGreen
  deriving DecidableEq

namespace Style

def codes : Style → String
  | bold => "1"
  | cyan => "36"
  | yellow => "33"
  | green => "32"
  | brightBlue => "94"
  | boldBrightBlue => "1;94"
  | boldRed => "1;31"
  | boldGreen => "1;32"

def opening (s : Style) : String := "\x1b[" ++ s.codes ++ "m"

def reset : String := "\x1b[0m"

/-- Open the style again behind every reset. -/
def reopen (s : Style) : List Char → List Char
  | '\x1b' :: '[' :: '0' :: 'm' :: rest => reset.toList ++ s.opening.toList ++ reopen s rest
  | c :: rest => c :: reopen s rest
  | [] => []

/-- A text in a style; plain where there are no colors. -/
def paint (colored : Bool) (s : Style) (text : String) : String :=
  if colored then s.opening ++ String.ofList (s.reopen text.toList) ++ reset else text

end Style

end SchemaDelta.CommandLine
