import ProfileShell.Text.Utf8

/-!
# Text without terminal control

A log line is written without the sequences that would steer a terminal and
without control characters other than white space.  The reader below follows the
states of an ANSI terminal.  Text is kept, and so is ASCII white space wherever
it stands, even inside a sequence: the text after it is then read as plain text
until the next octet that is neither.
-/

namespace ProfileShell.Text.Terminal

/-- Where a reader stands.  All states but `ground` and `character` are inside a
control sequence. -/
inductive State where
  | ground
  /-- Inside a multi-octet character, with this many octets to come. -/
  | character (remaining : Nat)
  | escape
  | escapeIntermediate
  | csiEntry
  | csiParameter
  | csiIntermediate
  | csiIgnore
  | dcsEntry
  | dcsParameter
  | dcsIntermediate
  | dcsPassthrough
  | dcsIgnore
  | osc
  /-- A start-of-string, privacy or application string. -/
  | ignoredString
  deriving DecidableEq, Repr

/-- What an octet is to the state that reads it. -/
inductive Effect where
  /-- A printable octet or the start of a multi-octet character. -/
  | shown
  /-- A control octet that acts at once. -/
  | control
  /-- A part of a sequence. -/
  | consumed
  deriving DecidableEq, Repr

/-- The number of octets that follow the first octet of a longer character. -/
def continuationCount (value : Nat) : Nat :=
  if value < 0xE0 then 1 else if value < 0xF0 then 2 else 3

/-- A control octet that no state treats in its own way. -/
def isControl (value : Nat) : Bool :=
  value ≤ 0x17 || value == 0x19 || (0x1C ≤ value && value ≤ 0x1F)

/-- One octet read in a state outside a character: the next state and the
effect. -/
def read (state : State) (octet : UInt8) : State × Effect :=
  let value := octet.toNat
  let within := fun low high => low ≤ value && value ≤ high
  if value = 0x18 || value = 0x1A then (.ground, .control)
  else if value = 0x1B then (.escape, .consumed)
  else match state with
  | .ground | .character _ =>
    if within 0x20 0x7E then (state, .shown)
    else if within 0xC2 0xF4 then (.character (continuationCount value), .shown)
    else (state, .control)
  | .escape =>
    if isControl value then (state, .control)
    else if within 0x20 0x2F then (.escapeIntermediate, .consumed)
    else if value = 0x50 then (.dcsEntry, .consumed)
    else if value = 0x5B then (.csiEntry, .consumed)
    else if value = 0x5D then (.osc, .consumed)
    else if value = 0x58 || value = 0x5E || value = 0x5F then
      (.ignoredString, .consumed)
    else if within 0x30 0x7E then (.ground, .consumed)
    else (state, .consumed)
  | .escapeIntermediate =>
    if isControl value then (state, .control)
    else if within 0x30 0x7E then (.ground, .consumed)
    else (state, .consumed)
  | .csiEntry =>
    if isControl value then (state, .control)
    else if within 0x20 0x2F then (.csiIntermediate, .consumed)
    else if within 0x30 0x3F then (.csiParameter, .consumed)
    else if within 0x40 0x7E then (.ground, .consumed)
    else (state, .consumed)
  | .csiParameter =>
    if isControl value then (state, .control)
    else if within 0x20 0x2F then (.csiIntermediate, .consumed)
    else if within 0x3C 0x3F then (.csiIgnore, .consumed)
    else if within 0x40 0x7E then (.ground, .consumed)
    else (state, .consumed)
  | .csiIntermediate =>
    if isControl value then (state, .control)
    else if within 0x30 0x3F then (.csiIgnore, .consumed)
    else if within 0x40 0x7E then (.ground, .consumed)
    else (state, .consumed)
  | .csiIgnore =>
    if isControl value then (state, .control)
    else if within 0x40 0x7E then (.ground, .consumed)
    else (state, .consumed)
  | .dcsEntry =>
    if within 0x20 0x2F then (.dcsIntermediate, .consumed)
    else if value = 0x3A then (.dcsIgnore, .consumed)
    else if within 0x30 0x3F then (.dcsParameter, .consumed)
    else if within 0x40 0x7E then (.dcsPassthrough, .consumed)
    else (state, .consumed)
  | .dcsParameter =>
    if within 0x20 0x2F then (.dcsIntermediate, .consumed)
    else if value = 0x3A || within 0x3C 0x3F then (.dcsIgnore, .consumed)
    else if within 0x40 0x7E then (.dcsPassthrough, .consumed)
    else (state, .consumed)
  | .dcsIntermediate =>
    if within 0x30 0x3F then (.dcsIgnore, .consumed)
    else if within 0x40 0x7E then (.dcsPassthrough, .consumed)
    else (state, .consumed)
  | .dcsPassthrough | .dcsIgnore | .ignoredString =>
    if value = 0x9C then (.ground, .consumed) else (state, .consumed)
  | .osc =>
    if value = 0x07 then (.ground, .consumed) else (state, .consumed)

def isSpace (octet : UInt8) : Bool :=
  octet == 0x20 || octet == 0x09 || octet == 0x0A || octet == 0x0C || octet == 0x0D

/-- Whether an octet with this effect is kept. -/
def keeps (effect : Effect) (octet : UInt8) : Bool :=
  effect == .shown || (effect == .control && isSpace octet)

/-- One octet of a line.  `running` says that the octet before was kept; a run
of kept octets is read as plain text whatever sequence it interrupted. -/
def step (running : Bool) (state : State) (octet : UInt8) : State × Bool :=
  match state with
  | .character (more + 1) =>
    (if more = 0 then .ground else .character more, true)
  | _ =>
    let enter := fun (before : State) =>
      match read .ground octet with
      | (.ground, effect) =>
        (if octet == 0x18 || octet == 0x1A then .ground else before,
          keeps effect octet)
      | (after, effect) => (after, keeps effect octet)
    let resume := fun (before : State) =>
      let (after, effect) := read before octet
      if keeps effect octet then
        match after with
        | .character _ => (after, true)
        | _ => enter after
      else (after, false)
    if running then
      let (after, kept) := enter state
      if kept then (after, true) else resume after
    else resume state

/-- The octets kept of the rest of a line. -/
def stripFrom (running : Bool) (state : State) : Bytes → Bytes
  | [] => []
  | octet :: rest =>
    let (next, kept) := step running state octet
    if kept then octet :: stripFrom true next rest else stripFrom false next rest

/-- A line without control sequences and control characters. -/
def strip (line : Bytes) : Bytes :=
  stripFrom false .ground line

end ProfileShell.Text.Terminal
