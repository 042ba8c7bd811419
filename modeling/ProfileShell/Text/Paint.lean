/-!
# Paint

Text in a style of an ANSI terminal: a sequence that turns the style on, the text,
and a sequence that turns all styles off.  Where the text itself turns styles off,
the style is turned on again behind it.
-/

namespace ProfileShell.Text

inductive Paint where
  | boldRed
  | boldYellow
  | boldBlue
  | dimmed
  | cyan
  deriving DecidableEq, Repr

namespace Paint

def on : Paint → List Char
  | boldRed => "\x1b[1;31m".toList
  | boldYellow => "\x1b[1;33m".toList
  | boldBlue => "\x1b[1;34m".toList
  | dimmed => "\x1b[2m".toList
  | cyan => "\x1b[36m".toList

def off : List Char := "\x1b[0m".toList

/-- A text with the style turned on again behind each end of all styles. -/
def renew (paint : Paint) : List Char → List Char
  | [] => []
  | '\x1b' :: '[' :: '0' :: 'm' :: rest => off ++ paint.on ++ paint.renew rest
  | character :: rest => character :: paint.renew rest

def apply (paint : Paint) (text : String) : String :=
  String.ofList (paint.on ++ paint.renew text.toList ++ off)

end Paint

end ProfileShell.Text
