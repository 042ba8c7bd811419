/-!
# UTF-8

Text crosses the boundary to files, environments and processes as bytes.
`encode` writes text, `pieces` reads bytes back one octet at a time, and the two
readers `decode?` and `lossy` differ only in what they make of an ill-formed
piece: the first refuses, the second shows a replacement character.

An ill-formed piece is a longest run of octets that starts some character but
completes none, or a single octet that starts no character at all.  Each such
piece counts once, so a truncated character costs one replacement, not one per
octet.
-/

namespace ProfileShell

/-- A string of octets: the content of a file, a path, the name or the value of
an environment variable. -/
abbrev Bytes := List UInt8

namespace Utf8

def encode (text : String) : Bytes :=
  text.toList.flatMap String.utf8EncodeChar

/-- A character whose first octets have been read: the bounds on the octet that
must come next, how many octets follow that one, and the bits read so far. -/
structure Pending where
  low : UInt8
  high : UInt8
  further : Nat
  bits : Nat
  deriving DecidableEq, Repr

/-- The part an octet plays where a character may start. -/
inductive Lead where
  /-- The octet is a whole character. -/
  | complete (character : Char)
  /-- The octet starts a longer character. -/
  | starts (pending : Pending)
  /-- No character starts with this octet. -/
  | stray
  deriving DecidableEq, Repr

/-- The tighter bounds after `E0`, `ED`, `F0` and `F4` keep out overlong forms,
surrogates and numbers beyond the last code point. -/
def lead (octet : UInt8) : Lead :=
  let value := octet.toNat
  if value < 0x80 then .complete (Char.ofNat value)
  else if value < 0xC2 then .stray
  else if value < 0xE0 then .starts ⟨0x80, 0xBF, 0, value - 0xC0⟩
  else if value = 0xE0 then .starts ⟨0xA0, 0xBF, 1, 0⟩
  else if value = 0xED then .starts ⟨0x80, 0x9F, 1, 0xD⟩
  else if value < 0xF0 then .starts ⟨0x80, 0xBF, 1, value - 0xE0⟩
  else if value = 0xF0 then .starts ⟨0x90, 0xBF, 2, 0⟩
  else if value < 0xF4 then .starts ⟨0x80, 0xBF, 2, value - 0xF0⟩
  else if value = 0xF4 then .starts ⟨0x80, 0x8F, 2, 4⟩
  else .stray

/-- The pieces an octet completes between characters, and the character it
leaves open. -/
def start (octet : UInt8) : List (Option Char) × Option Pending :=
  match lead octet with
  | .complete character => ([some character], none)
  | .starts pending => ([], some pending)
  | .stray => ([none], none)

/-- One octet after `pending`.  An octet that cannot continue the open
character ends it as an ill-formed piece and is read afresh. -/
def advance (pending : Option Pending) (octet : UInt8) :
    List (Option Char) × Option Pending :=
  match pending with
  | none => start octet
  | some ⟨low, high, further, bits⟩ =>
    if low ≤ octet ∧ octet ≤ high then
      let value := bits * 64 + (octet.toNat - 0x80)
      match further with
      | 0 => ([some (Char.ofNat value)], none)
      | more + 1 => ([], some ⟨0x80, 0xBF, more, value⟩)
    else
      let (completed, opened) := start octet
      (none :: completed, opened)

/-- The characters of the remaining octets, with `none` in the place of each
ill-formed piece. -/
def piecesFrom : Option Pending → Bytes → List (Option Char)
  | none, [] => []
  | some _, [] => [none]
  | pending, octet :: rest =>
    let (completed, opened) := advance pending octet
    completed ++ piecesFrom opened rest

/-- The characters of a byte string, with `none` in the place of each ill-formed
piece. -/
def pieces (bytes : Bytes) : List (Option Char) :=
  piecesFrom none bytes

/-- The text of a byte string, if all of it is well-formed. -/
def decode? (bytes : Bytes) : Option String :=
  ((pieces bytes).mapM id).map String.ofList

/-- The text of a byte string, with U+FFFD in the place of each ill-formed
piece. -/
def lossy (bytes : Bytes) : String :=
  String.ofList ((pieces bytes).map (·.getD '\uFFFD'))

end Utf8

end ProfileShell
