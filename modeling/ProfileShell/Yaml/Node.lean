import ProfileShell.Yaml.Lexer

/-!
# From tokens to nodes

A document is a tree of nodes.  The grammar of the tokens is followed by
recursive descent.  Anchors share a numbering: an anchor takes as its slot the
number of different anchor names before it, an alias refers to the slot of the
latest anchor of its name, and a slot belongs to the last node that took it.
-/

namespace ProfileShell.Yaml

/-- A node of a document: where it starts, its resolved tag, the anchor slot it
takes and its content. -/
inductive Node where
  | scalar (mark : Mark) (tag : Option Bytes) (slot : Option Nat) (plain : Bool)
      (text : String)
  | sequence (mark : Mark) (tag : Option Bytes) (slot : Option Nat) (items : List Node)
  | mapping (mark : Mark) (tag : Option Bytes) (slot : Option Nat)
      (entries : List (Node × Node))
  | alias (mark : Mark) (slot : Nat)

/-- What the reader of tokens knows: the tokens ahead, the slots of the anchor
names so far, and what the tag handles stand for. -/
structure Reader where
  tokens : List Token
  anchors : List (String × Nat)
  handles : List (String × Bytes)

/-- A step of the reader, which fails where the tokens follow no rule. -/
abbrev Parse := StateT Reader Option

namespace Parse

def peek : Parse Token := fun reader =>
  match reader.tokens with
  | token :: _ => some (token, reader)
  | [] => none

def skip : Parse Unit := fun reader =>
  some ((), { reader with tokens := reader.tokens.tail })

/-- The slot of a new anchor.  A name that was used before gives up its old
slot. -/
def register (name : String) : Parse Nat := fun reader =>
  let slot := reader.anchors.length
  let anchors :=
    if reader.anchors.any (·.1 == name) then
      reader.anchors.map fun entry => if entry.1 == name then (name, slot) else entry
    else reader.anchors ++ [(name, slot)]
  some (slot, { reader with anchors := anchors })

/-- The slot of the latest anchor of a name. -/
def slotOf (name : String) : Parse Nat := fun reader =>
  (reader.anchors.lookup name).map fun slot => (slot, reader)

/-- A tag with its handle expanded. -/
def expandTag (handle : String) (suffix : Bytes) : Parse Bytes := fun reader =>
  if handle.isEmpty then some (suffix, reader)
  else (reader.handles.lookup handle).map fun expansion => (expansion ++ suffix, reader)

/-- The anchor and the tag before a node, in either order, and where they
start. -/
structure Properties where
  mark : Option Mark
  slot : Option Nat
  tag : Option Bytes

/-- Reads at most one anchor and at most one tag. -/
def properties : Parse Properties := do
  let first ← peek
  match first.kind with
  | .anchor name =>
    skip
    let second ← peek
    match second.kind with
    | .tag handle suffix =>
      skip
      let tag ← expandTag handle suffix
      return ⟨some first.mark, some (← register name), some tag⟩
    | _ => return ⟨some first.mark, some (← register name), none⟩
  | .tag handle suffix =>
    skip
    let second ← peek
    let tag ← expandTag handle suffix
    match second.kind with
    | .anchor name =>
      skip
      return ⟨some first.mark, some (← register name), some tag⟩
    | _ => return ⟨some first.mark, none, some tag⟩
  | _ => return ⟨none, none, none⟩

/-- The node of an omitted value. -/
def omitted (mark : Mark) : Node :=
  .scalar mark none none true ""

/-- The place of a node in the grammar. -/
inductive Position where
  | flow
  | block
  /-- After a mapping indicator, where a sequence needs no further indentation. -/
  | blockValue
  deriving DecidableEq, Repr

mutual

/-- A node.  The fuel bounds the number of steps. -/
def node (fuel : Nat) (position : Position) : Parse Node :=
  match fuel with
  | 0 => failure
  | fuel + 1 => do
    let first ← peek
    match first.kind with
    | .alias name =>
      skip
      return .alias first.mark (← slotOf name)
    | _ =>
      let properties ← properties
      let token ← peek
      let mark := properties.mark.getD token.mark
      match token.kind, position with
      | .blockEntry, .blockValue =>
        return .sequence mark properties.tag properties.slot (← dashItems fuel)
      | .scalar plain text, _ =>
        skip
        return .scalar mark properties.tag properties.slot plain text
      | .flowSequenceStart, _ =>
        skip
        return .sequence mark properties.tag properties.slot (← flowItems fuel true)
      | .flowMappingStart, _ =>
        skip
        return .mapping mark properties.tag properties.slot (← flowEntries fuel true)
      | .blockSequenceStart, .block | .blockSequenceStart, .blockValue =>
        skip
        return .sequence mark properties.tag properties.slot (← blockItems fuel)
      | .blockMappingStart, .block | .blockMappingStart, .blockValue =>
        skip
        return .mapping mark properties.tag properties.slot (← blockEntries fuel)
      | _, _ =>
        if properties.mark.isSome then
          return .scalar mark properties.tag properties.slot true ""
        else failure

/-- The items of a sequence that is indented like the mapping around it. -/
def dashItems (fuel : Nat) : Parse (List Node) :=
  match fuel with
  | 0 => failure
  | fuel + 1 => do
    let dash ← peek
    match dash.kind with
    | .blockEntry =>
      skip
      let token ← peek
      let item ← match token.kind with
        | .blockEntry | .key | .value | .blockEnd => pure (omitted dash.finish)
        | _ => node fuel .block
      return item :: (← dashItems fuel)
    | _ => return []

def blockItems (fuel : Nat) : Parse (List Node) :=
  match fuel with
  | 0 => failure
  | fuel + 1 => do
    let dash ← peek
    match dash.kind with
    | .blockEntry =>
      skip
      let token ← peek
      let item ← match token.kind with
        | .blockEntry | .blockEnd => pure (omitted dash.finish)
        | _ => node fuel .block
      return item :: (← blockItems fuel)
    | .blockEnd =>
      skip
      return []
    | _ => failure

/-- The entries of a block mapping.  An entry has a key, a value or both. -/
def blockEntries (fuel : Nat) : Parse (List (Node × Node)) :=
  match fuel with
  | 0 => failure
  | fuel + 1 => do
    let token ← peek
    match token.kind with
    | .key =>
      skip
      let ahead ← peek
      let key ← match ahead.kind with
        | .key | .value | .blockEnd => pure (omitted token.finish)
        | _ => node fuel .blockValue
      let colon ← peek
      let value ← match colon.kind with
        | .value => do
          skip
          let ahead ← peek
          match ahead.kind with
          | .key | .value | .blockEnd => pure (omitted colon.finish)
          | _ => node fuel .blockValue
        | _ => pure (omitted colon.mark)
      return (key, value) :: (← blockEntries fuel)
    | .blockEnd =>
      skip
      return []
    | _ => failure

/-- The items of a flow sequence.  A key among them makes a mapping of one
entry. -/
def flowItems (fuel : Nat) (first : Bool) : Parse (List Node) :=
  match fuel with
  | 0 => failure
  | fuel + 1 => do
    let before ← peek
    match before.kind, first with
    | .flowSequenceEnd, _ =>
      skip
      return []
    | .flowEntry, false => skip
    | _, false => failure
    | _, true => pure ()
    let token ← peek
    match token.kind with
    | .flowSequenceEnd =>
      skip
      return []
    | .key =>
      skip
      let entry ← pairEntry fuel
      return .mapping token.mark none none [entry] :: (← flowItems fuel false)
    | _ =>
      let item ← node fuel .flow
      return item :: (← flowItems fuel false)

/-- The entry of a mapping that is one item of a flow sequence.  Where the key is
omitted, the token in its place goes with it. -/
def pairEntry (fuel : Nat) : Parse (Node × Node) :=
  match fuel with
  | 0 => failure
  | fuel + 1 => do
    let token ← peek
    let key ← match token.kind with
      | .value | .flowEntry | .flowSequenceEnd =>
        skip
        pure (omitted token.finish)
      | _ => node fuel .flow
    let colon ← peek
    match colon.kind with
    | .value =>
      skip
      let ahead ← peek
      match ahead.kind with
      | .flowEntry | .flowSequenceEnd => return (key, omitted ahead.mark)
      | _ => return (key, ← node fuel .flow)
    | _ => return (key, omitted colon.mark)

/-- The entries of a flow mapping.  An entry without a colon has no value. -/
def flowEntries (fuel : Nat) (first : Bool) : Parse (List (Node × Node)) :=
  match fuel with
  | 0 => failure
  | fuel + 1 => do
    let before ← peek
    match before.kind, first with
    | .flowMappingEnd, _ =>
      skip
      return []
    | .flowEntry, false => skip
    | _, false => failure
    | _, true => pure ()
    let token ← peek
    match token.kind with
    | .flowMappingEnd =>
      skip
      return []
    | .key =>
      skip
      let ahead ← peek
      let key ← match ahead.kind with
        | .value | .flowEntry | .flowMappingEnd => pure (omitted ahead.mark)
        | _ => node fuel .flow
      let colon ← peek
      let value ← match colon.kind with
        | .value => do
          skip
          let ahead ← peek
          match ahead.kind with
          | .flowEntry | .flowMappingEnd => pure (omitted ahead.mark)
          | _ => node fuel .flow
        | _ => pure (omitted colon.mark)
      return (key, value) :: (← flowEntries fuel false)
    | _ =>
      let key ← node fuel .flow
      let ahead ← peek
      return (key, omitted ahead.mark) :: (← flowEntries fuel false)

end

/-- The directives before a document: at most one version, which must be 1.1 or
1.2, and no handle twice.  A directive of its own may redefine the two handles
that every document has. -/
def directives (versioned : Bool) : List Token → Parse Unit
  | [] => failure
  | token :: rest =>
    match token.kind with
    | .versionDirective major minor =>
      if versioned ∨ major ≠ 1 ∨ (minor ≠ 1 ∧ minor ≠ 2) then failure
      else do
        skip
        directives true rest
    | .tagDirective handle expansion => do
      let reader ← get
      if reader.handles.any (·.1 == handle) then failure
      else
        set { reader with handles := reader.handles ++ [(handle, expansion)] }
        skip
        directives versioned rest
    | _ => pure ()

/-- The two handles of every document, after those that directives define. -/
def addStandardHandles : Parse Unit :=
  modify fun reader => { reader with
    handles := reader.handles ++
      [("!", Utf8.encode "!"), ("!!", Utf8.encode "tag:yaml.org,2002:")] }

/-- Whether a token means that a document has no content. -/
def endsDocument (kind : Token.Kind) : Bool :=
  match kind with
  | .versionDirective _ _ | .tagDirective _ _ | .documentStart | .documentEnd
  | .streamEnd => true
  | _ => false

/-- The content of a document after its start marker. -/
def content (fuel : Nat) : Parse Node := do
  let token ← peek
  if endsDocument token.kind then pure (omitted token.mark) else node fuel .block

/-- A stream of at most one document: its root, or nothing for a stream without
documents. -/
def stream (fuel : Nat) : Parse (Option Node) := do
  let first ← peek
  match first.kind with
  | .streamEnd => pure none
  | .versionDirective _ _ | .tagDirective _ _ | .documentStart =>
    directives false (← get).tokens
    addStandardHandles
    let token ← peek
    if token.kind ≠ .documentStart then failure
    skip
    some <$> content fuel
  | _ =>
    addStandardHandles
    some <$> node fuel .block

end Parse

/-- Whether nothing but document end markers is left of a stream. -/
def isStreamTail : List Token → Bool
  | [] => false
  | token :: rest =>
    match token.kind with
    | .documentEnd => isStreamTail rest
    | .streamEnd => true
    | _ => false

/-- A document, or the lack of one, in a well-formed stream.  Each step of the
reader takes a token or goes one level down, and there are at most three levels
to a token. -/
def document? (text : String) : Option (Option Node) := do
  let source ← prepare? text
  let tokens ← tokens? source
  let (root, reader) ← Parse.stream (3 * tokens.length + 3) ⟨tokens, [], []⟩
  if isStreamTail reader.tokens then some root else none

mutual

/-- The nodes of a tree that take a slot, in document order. -/
def Node.anchored : Node → List (Nat × Node)
  | .scalar mark tag slot plain text =>
    (slot.map fun taken => (taken, .scalar mark tag slot plain text)).toList
  | .sequence mark tag slot items =>
    (slot.map fun taken => (taken, .sequence mark tag slot items)).toList
      ++ anchoredItems items
  | .mapping mark tag slot entries =>
    (slot.map fun taken => (taken, .mapping mark tag slot entries)).toList
      ++ anchoredEntries entries
  | .alias _ _ => []

/-- `Node.anchored` for a list of nodes. -/
def anchoredItems : List Node → List (Nat × Node)
  | [] => []
  | item :: rest => item.anchored ++ anchoredItems rest

/-- `Node.anchored` for a list of entries. -/
def anchoredEntries : List (Node × Node) → List (Nat × Node)
  | [] => []
  | (key, value) :: rest => key.anchored ++ value.anchored ++ anchoredEntries rest

end

mutual

/-- The number of events that spell a tree out: one for a scalar or an alias, two
for a collection besides those of its parts. -/
def Node.eventCount : Node → Nat
  | .scalar .. | .alias .. => 1
  | .sequence _ _ _ items => 2 + eventCountItems items
  | .mapping _ _ _ entries => 2 + eventCountEntries entries

/-- `Node.eventCount` for a list of nodes. -/
def eventCountItems : List Node → Nat
  | [] => 0
  | item :: rest => item.eventCount + eventCountItems rest

/-- `Node.eventCount` for a list of entries. -/
def eventCountEntries : List (Node × Node) → Nat
  | [] => 0
  | (key, value) :: rest => key.eventCount + value.eventCount + eventCountEntries rest

end

/-- Where a node starts. -/
def Node.mark : Node → Mark
  | .scalar mark .. | .sequence mark .. | .mapping mark .. | .alias mark _ => mark

end ProfileShell.Yaml
