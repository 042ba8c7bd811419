import ProfileShell.Text.Terminal

/-!
# Styled text

A text for a reader whose pieces have roles, such as a heading or a wrong value.  A
terminal shows each role in a style of its own.  Elsewhere the text is written
without any sequence that would steer a terminal, be it that of a style or one that
came in with a piece.
-/

namespace ProfileShell.Text

/-- What a piece of text is to its reader. -/
inductive Role where
  | plain
  | heading
  /-- The word that announces an error. -/
  | alarm
  /-- What is to be typed as it stands. -/
  | literal
  | valid
  | invalid
  deriving DecidableEq, Repr

def Role.on : Role → String
  | plain => ""
  | heading => "\x1b[1m\x1b[4m"
  | alarm => "\x1b[1m\x1b[31m"
  | literal => "\x1b[1m"
  | valid => "\x1b[32m"
  | invalid => "\x1b[33m"

def Role.off : Role → String
  | plain => ""
  | _ => "\x1b[0m"

/-- A text in pieces. -/
abbrev Styled := List (Role × String)

namespace Styled

/-- A text with the sequences of its styles. -/
def marked (styled : Styled) : String :=
  String.join (styled.map fun (role, text) => role.on ++ text ++ role.off)

/-- The octets to write, with styles if they are asked for. -/
def octets (coloured : Bool) (styled : Styled) : Bytes :=
  let whole := Utf8.encode styled.marked
  if coloured then whole else Terminal.strip whole

/-- The text without styles. -/
def text (styled : Styled) : String :=
  Utf8.lossy (styled.octets false)

/-- Texts with a separator between them. -/
def separated (separator : String) : List Styled → Styled
  | [] => []
  | [styled] => styled
  | styled :: rest => styled ++ (.plain, separator) :: separated separator rest

end Styled

end ProfileShell.Text
