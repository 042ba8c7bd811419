import ProfileShell.Proofs.Yaml.Flow
import ProfileShell.Yaml.Node

/-!
# Nodes of a flow collection

What the reader of tokens makes of the tokens of a JSON value: a tree of the same shape.
Only the kinds of the tokens matter for the shape, so nothing is said about their places.
-/

namespace ProfileShell.Yaml

open Text (IsPrintable AllPrintable)

/-! ## Trees that spell a JSON value -/

mutual

/-- A node without tag and anchor that spells a value. -/
inductive Spells : Node → Json → Prop where
  | null (mark : Mark) : Spells (.scalar mark none none true "null") .null
  | text (mark : Mark) (value : String) :
      Spells (.scalar mark none none false value) (.text value)
  | list (mark : Mark) {nodes : List Node} {items : List Json}
      (each : SpellsItems nodes items) : Spells (.sequence mark none none nodes) (.list items)
  | object (mark : Mark) {entries : List (Node × Node)} {fields : List (String × Json)}
      (each : SpellsFields entries fields) :
      Spells (.mapping mark none none entries) (.object fields)

inductive SpellsItems : List Node → List Json → Prop where
  | nil : SpellsItems [] []
  | cons {node : Node} {item : Json} {nodes : List Node} {items : List Json}
      (first : Spells node item) (later : SpellsItems nodes items) :
      SpellsItems (node :: nodes) (item :: items)

inductive SpellsFields : List (Node × Node) → List (String × Json) → Prop where
  | nil : SpellsFields [] []
  | cons {mark : Mark} {name : String} {node : Node} {value : Json}
      {entries : List (Node × Node)} {fields : List (String × Json)}
      (first : Spells node value) (later : SpellsFields entries fields) :
      SpellsFields ((.scalar mark none none false name, node) :: entries)
        ((name, value) :: fields)

end

namespace Parse

variable {fuel : Nat} {position : Position} {mark finish : Mark} {token : Token}
variable {rest : List Token} {anchors : List (String × Nat)} {handles : List (String × Bytes)}

/-! ## Single steps of the reader -/

theorem node_scalar (plain : Bool) (text : String) :
    node (fuel + 1) position ⟨⟨.scalar plain text, mark, finish⟩ :: rest, anchors, handles⟩ =
      some (.scalar mark none none plain text, ⟨rest, anchors, handles⟩) := by
  cases position <;> rfl

theorem node_flowSequence :
    node (fuel + 1) position ⟨⟨.flowSequenceStart, mark, finish⟩ :: rest, anchors, handles⟩ =
      (flowItems fuel true ⟨rest, anchors, handles⟩).bind fun read =>
        some (.sequence mark none none read.1, read.2) := by
  cases position <;> rfl

theorem node_flowMapping :
    node (fuel + 1) position ⟨⟨.flowMappingStart, mark, finish⟩ :: rest, anchors, handles⟩ =
      (flowEntries fuel true ⟨rest, anchors, handles⟩).bind fun read =>
        some (.mapping mark none none read.1, read.2) := by
  cases position <;> rfl

/-- Whether a value of a flow collection starts with a token. -/
def startsValue : Token.Kind → Bool
  | .scalar _ _ | .flowSequenceStart | .flowMappingStart => true
  | _ => false

theorem flowItems_end (first : Bool) :
    flowItems (fuel + 1) first ⟨⟨.flowSequenceEnd, mark, finish⟩ :: rest, anchors, handles⟩ =
      some ([], ⟨rest, anchors, handles⟩) := by
  cases first <;> rfl

theorem flowItems_value (starts : startsValue token.kind) :
    flowItems (fuel + 1) true ⟨token :: rest, anchors, handles⟩ =
      (node fuel .flow ⟨token :: rest, anchors, handles⟩).bind fun read =>
        (flowItems fuel false read.2).bind fun later => some (read.1 :: later.1, later.2) := by
  obtain ⟨kind, mark, finish⟩ := token
  cases kind with
  | scalar | flowSequenceStart | flowMappingStart => rfl
  | _ => exact absurd starts Bool.false_ne_true

theorem flowItems_comma (starts : startsValue token.kind) :
    flowItems (fuel + 1) false
        ⟨⟨.flowEntry, mark, finish⟩ :: token :: rest, anchors, handles⟩ =
      flowItems (fuel + 1) true ⟨token :: rest, anchors, handles⟩ := by
  obtain ⟨kind, mark, finish⟩ := token
  cases kind with
  | scalar | flowSequenceStart | flowMappingStart => rfl
  | _ => exact absurd starts Bool.false_ne_true

theorem flowEntries_end (first : Bool) :
    flowEntries (fuel + 1) first ⟨⟨.flowMappingEnd, mark, finish⟩ :: rest, anchors, handles⟩ =
      some ([], ⟨rest, anchors, handles⟩) := by
  cases first <;> rfl

theorem flowEntries_field {keyMark keyFinish colonMark colonFinish : Mark} {name : String}
    (starts : startsValue token.kind) :
    flowEntries (fuel + 2) true
        ⟨⟨.key, keyMark, keyFinish⟩ :: ⟨.scalar false name, mark, finish⟩ ::
          ⟨.value, colonMark, colonFinish⟩ :: token :: rest, anchors, handles⟩ =
      (node (fuel + 1) .flow ⟨token :: rest, anchors, handles⟩).bind fun read =>
        (flowEntries (fuel + 1) false read.2).bind fun later =>
          some ((.scalar mark none none false name, read.1) :: later.1, later.2) := by
  obtain ⟨kind, mark, finish⟩ := token
  cases kind with
  | scalar | flowSequenceStart | flowMappingStart => rfl
  | _ => exact absurd starts Bool.false_ne_true

theorem flowEntries_comma {keyMark keyFinish : Mark} :
    flowEntries (fuel + 1) false
        ⟨⟨.flowEntry, mark, finish⟩ :: ⟨.key, keyMark, keyFinish⟩ :: rest, anchors, handles⟩ =
      flowEntries (fuel + 1) true ⟨⟨.key, keyMark, keyFinish⟩ :: rest, anchors, handles⟩ := rfl

/-! ## Whole values -/

/-- Whether a reader takes tokens of some kinds and makes something good of them. -/
def Accepts {α : Type} (parse : Parse α) (kinds : List Token.Kind) (good : α → Prop) : Prop :=
  ∀ (tokens rest : List Token) (anchors : List (String × Nat))
    (handles : List (String × Bytes)), tokens.map Token.kind = kinds →
    ∃ value, good value ∧
      parse ⟨tokens ++ rest, anchors, handles⟩ = some (value, ⟨rest, anchors, handles⟩)

/-- Whether some kinds of tokens start with a good one. -/
def StartsWith (good : Token.Kind → Bool) (kinds : List Token.Kind) : Prop :=
  ∃ first later, kinds = first :: later ∧ good first

theorem tokenKinds_startsValue (json : Json) : StartsWith startsValue (tokenKinds json) := by
  cases json <;> (rw [tokenKinds]; exact ⟨_, _, rfl, rfl⟩)

variable {json : Json} {kinds more : List Token.Kind}

theorem StartsWith.exists_first {good : Token.Kind → Bool} {tokens : List Token}
    (startsWith : StartsWith good kinds) (spelled : tokens.map Token.kind = kinds) :
    ∃ first later, tokens = first :: later ∧ good first.kind := by
  obtain ⟨kind, furtherKinds, shape, starts⟩ := startsWith
  rw [shape, List.map_eq_cons_iff] at spelled
  obtain ⟨first, later, rfl, rfl, _⟩ := spelled
  exact ⟨first, later, rfl, starts⟩

/-- Whether a node is read with as much fuel as it has tokens. -/
def Reads (kinds : List Token.Kind) (good : Node → Prop) : Prop :=
  ∀ fuel position, kinds.length ≤ fuel → Accepts (node fuel position) kinds good

/-- Whether a value is read with as much fuel as it has tokens. -/
def IsRead (json : Json) : Prop :=
  Reads (tokenKinds json) (Spells · json)

/-! ## Sequences -/

section Sequences

variable {α : Type} {kindsOf : α → List Token.Kind} {spells : Node → α → Prop} {item : α}
variable {items : List α}

theorem accepts_item (starts : StartsWith startsValue (kindsOf item))
    (first : Accepts (node fuel .flow) (kindsOf item) (spells · item))
    (later : Accepts (flowItems fuel false) more (List.Forall₂ spells · items)) :
    Accepts (flowItems (fuel + 1) true) (kindsOf item ++ more)
      (List.Forall₂ spells · (item :: items)) := by
  intro tokens rest anchors handles spelled
  obtain ⟨itemTokens, laterTokens, rfl, itemKinds, laterKinds⟩ :=
    List.map_eq_append_iff.mp spelled
  obtain ⟨node, nodeSpells, readNode⟩ :=
    first itemTokens (laterTokens ++ rest) anchors handles itemKinds
  obtain ⟨nodes, nodesSpell, readNodes⟩ := later laterTokens rest anchors handles laterKinds
  obtain ⟨token, more, rfl, starts⟩ := starts.exists_first itemKinds
  refine ⟨node :: nodes, .cons nodeSpells nodesSpell, ?_⟩
  rw [List.cons_append] at readNode
  rw [List.append_assoc, List.cons_append, flowItems_value starts, readNode, Option.bind_some,
    readNodes, Option.bind_some]

theorem accepts_commaItem {good : List Node → Prop} (startsWith : StartsWith startsValue kinds)
    (accepts : Accepts (flowItems (fuel + 1) true) (kinds ++ more) good) :
    Accepts (flowItems (fuel + 1) false) (.flowEntry :: (kinds ++ more)) good := by
  intro tokens rest anchors handles spelled
  obtain ⟨⟨kind, mark, finish⟩, laterTokens, rfl, rfl, laterKinds⟩ :=
    List.map_eq_cons_iff.mp spelled
  obtain ⟨value, isGood, read⟩ := accepts laterTokens rest anchors handles laterKinds
  obtain ⟨itemTokens, others, rfl, itemKinds, _⟩ := List.map_eq_append_iff.mp laterKinds
  obtain ⟨token, more, rfl, starts⟩ := startsWith.exists_first itemKinds
  refine ⟨value, isGood, ?_⟩
  simp only [List.cons_append] at read ⊢
  rw [flowItems_comma starts, read]

theorem accepts_flowItems_end (spells : Node → α → Prop) (first : Bool) :
    Accepts (flowItems (fuel + 1) first) [.flowSequenceEnd] (List.Forall₂ spells · []) := by
  intro tokens rest anchors handles spelled
  obtain ⟨⟨kind, mark, finish⟩, rfl, rfl⟩ := List.map_eq_singleton_iff.mp spelled
  exact ⟨[], .nil, flowItems_end first⟩

theorem accepts_laterItems (starts : ∀ item, StartsWith startsValue (kindsOf item))
    (each : ∀ item ∈ items, Reads (kindsOf item) (spells · item))
    (enough : (items.flatMap (.flowEntry :: kindsOf ·)).length < fuel) :
    Accepts (flowItems fuel false)
      (items.flatMap (.flowEntry :: kindsOf ·) ++ [.flowSequenceEnd])
      (List.Forall₂ spells · items) := by
  induction items generalizing fuel with
  | nil =>
      obtain ⟨fuel, rfl⟩ := Nat.exists_eq_succ_of_ne_zero (Nat.ne_of_gt enough)
      exact accepts_flowItems_end spells false
  | cons item later ih =>
      obtain ⟨first, others⟩ := List.forall_mem_cons.mp each
      rw [List.flatMap_cons, List.length_append, List.length_cons] at enough
      obtain ⟨fuel, rfl⟩ := Nat.exists_eq_succ_of_ne_zero (by omega : fuel ≠ 0)
      rw [List.flatMap_cons, List.append_assoc, List.cons_append]
      apply accepts_commaItem (starts item)
      apply accepts_item (starts item)
      · exact first fuel .flow (by omega)
      · exact ih others (by omega)

theorem accepts_items (starts : ∀ item, StartsWith startsValue (kindsOf item))
    (each : ∀ item ∈ items, Reads (kindsOf item) (spells · item))
    (enough : (separated .flowEntry (items.map kindsOf)).length < fuel) :
    Accepts (flowItems fuel true)
      (separated .flowEntry (items.map kindsOf) ++ [.flowSequenceEnd])
      (List.Forall₂ spells · items) := by
  obtain ⟨fuel, rfl⟩ := Nat.exists_eq_succ_of_ne_zero (Nat.ne_zero_of_lt enough)
  cases items with
  | nil => exact accepts_flowItems_end spells true
  | cons item later =>
      obtain ⟨first, others⟩ := List.forall_mem_cons.mp each
      obtain ⟨kind, kinds, shape, _⟩ := starts item
      have nonempty : 0 < (kindsOf item).length := by simp [shape]
      rw [List.map_cons, separated, List.flatMap_map] at enough ⊢
      rw [List.length_append] at enough
      rw [List.append_assoc]
      apply accepts_item (starts item)
      · exact first fuel .flow (by omega)
      · exact accepts_laterItems starts others (by omega)

/-- A sequence in brackets is read item by item. -/
theorem reads_flowSequence (starts : ∀ item, StartsWith startsValue (kindsOf item))
    (each : ∀ item ∈ items, Reads (kindsOf item) (spells · item)) :
    Reads (.flowSequenceStart :: separated .flowEntry (items.map kindsOf) ++ [.flowSequenceEnd])
      fun node => ∃ mark nodes,
        node = .sequence mark none none nodes ∧ List.Forall₂ spells nodes items := by
  intro fuel position enough tokens rest anchors handles spelled
  simp only [List.cons_append, List.length_cons, List.length_append, List.length_nil] at enough
  obtain ⟨fuel, rfl⟩ := Nat.exists_eq_succ_of_ne_zero (by omega : fuel ≠ 0)
  obtain ⟨⟨kind, mark, finish⟩, inner, rfl, rfl, innerKinds⟩ := List.map_eq_cons_iff.mp spelled
  obtain ⟨nodes, nodesSpell, read⟩ :=
    accepts_items starts each (by omega : _ < fuel) inner rest anchors handles innerKinds
  refine ⟨.sequence mark none none nodes, ⟨mark, nodes, rfl, nodesSpell⟩, ?_⟩
  rw [List.cons_append, node_flowSequence, read, Option.bind_some]

end Sequences

theorem spellsItems_of_forall₂ {nodes : List Node} {items : List Json}
    (each : List.Forall₂ Spells nodes items) : SpellsItems nodes items := by
  induction each with
  | nil => exact .nil
  | cons first _ later => exact .cons first later

theorem isRead_list {items : List Json} (each : ∀ item ∈ items, IsRead item) :
    IsRead (.list items) := by
  intro fuel position enough tokens rest anchors handles spelled
  rw [tokenKinds] at enough spelled
  obtain ⟨node, ⟨mark, nodes, rfl, nodesSpell⟩, read⟩ :=
    reads_flowSequence tokenKinds_startsValue each fuel position enough tokens rest anchors
      handles spelled
  exact ⟨_, .list mark (spellsItems_of_forall₂ nodesSpell), read⟩

/-! ## Mappings -/

theorem accepts_field {name : String} {fields : List (String × Json)}
    (first : Accepts (node (fuel + 1) .flow) (tokenKinds json) (Spells · json))
    (later : Accepts (flowEntries (fuel + 1) false) kinds (SpellsFields · fields)) :
    Accepts (flowEntries (fuel + 2) true)
      (.key :: .scalar false name :: .value :: (tokenKinds json ++ kinds))
      (SpellsFields · ((name, json) :: fields)) := by
  intro tokens rest anchors handles spelled
  obtain ⟨⟨_, keyMark, keyFinish⟩, behindKey, rfl, rfl, fromName⟩ :=
    List.map_eq_cons_iff.mp spelled
  obtain ⟨⟨_, mark, finish⟩, behindName, rfl, rfl, fromColon⟩ := List.map_eq_cons_iff.mp fromName
  obtain ⟨⟨_, colonMark, colonFinish⟩, behindColon, rfl, rfl, fromValue⟩ :=
    List.map_eq_cons_iff.mp fromColon
  obtain ⟨valueTokens, laterTokens, rfl, valueKinds, laterKinds⟩ :=
    List.map_eq_append_iff.mp fromValue
  obtain ⟨node, nodeSpells, readNode⟩ :=
    first valueTokens (laterTokens ++ rest) anchors handles valueKinds
  obtain ⟨entries, entriesSpell, readEntries⟩ :=
    later laterTokens rest anchors handles laterKinds
  obtain ⟨token, more, rfl, starts⟩ := (tokenKinds_startsValue json).exists_first valueKinds
  refine ⟨(.scalar mark none none false name, node) :: entries,
    .cons nodeSpells entriesSpell, ?_⟩
  rw [List.cons_append] at readNode
  simp only [List.cons_append, List.append_assoc]
  rw [flowEntries_field starts, readNode, Option.bind_some, readEntries, Option.bind_some]

theorem accepts_commaField {good : List (Node × Node) → Prop}
    (accepts : Accepts (flowEntries (fuel + 1) true) (.key :: kinds) good) :
    Accepts (flowEntries (fuel + 1) false) (.flowEntry :: .key :: kinds) good := by
  intro tokens rest anchors handles spelled
  obtain ⟨⟨_, mark, finish⟩, fieldTokens, rfl, rfl, fieldKinds⟩ :=
    List.map_eq_cons_iff.mp spelled
  obtain ⟨value, isGood, read⟩ := accepts fieldTokens rest anchors handles fieldKinds
  obtain ⟨⟨_, keyMark, keyFinish⟩, behindKey, rfl, rfl, _⟩ := List.map_eq_cons_iff.mp fieldKinds
  refine ⟨value, isGood, ?_⟩
  simp only [List.cons_append] at read ⊢
  rw [flowEntries_comma, read]

theorem accepts_flowEntries_end (first : Bool) :
    Accepts (flowEntries (fuel + 1) first) [.flowMappingEnd] (SpellsFields · []) := by
  intro tokens rest anchors handles spelled
  obtain ⟨⟨kind, mark, finish⟩, rfl, rfl⟩ := List.map_eq_singleton_iff.mp spelled
  exact ⟨[], .nil, flowEntries_end first⟩

theorem accepts_laterFields {fields : List (String × Json)}
    (each : ∀ field ∈ fields, IsRead field.2)
    (enough : (fields.flatMap (.flowEntry :: fieldKinds ·)).length < fuel) :
    Accepts (flowEntries fuel false)
      (fields.flatMap (.flowEntry :: fieldKinds ·) ++ [.flowMappingEnd])
      (SpellsFields · fields) := by
  induction fields generalizing fuel with
  | nil =>
      obtain ⟨fuel, rfl⟩ := Nat.exists_eq_succ_of_ne_zero (Nat.ne_of_gt enough)
      exact accepts_flowEntries_end false
  | cons field later ih =>
      obtain ⟨first, others⟩ := List.forall_mem_cons.mp each
      rw [List.flatMap_cons, List.length_append, fieldKinds] at enough
      simp only [List.length_cons] at enough
      obtain ⟨fuel, rfl⟩ := Nat.exists_eq_add_of_le' (by omega : 2 ≤ fuel)
      rw [List.flatMap_cons, List.append_assoc, fieldKinds]
      apply accepts_commaField
      apply accepts_field
      · exact first (fuel + 1) .flow (by omega)
      · exact ih others (by omega)

theorem accepts_fields {fields : List (String × Json)}
    (each : ∀ field ∈ fields, IsRead field.2)
    (enough : (separated .flowEntry (fields.map fieldKinds)).length < fuel) :
    Accepts (flowEntries fuel true)
      (separated .flowEntry (fields.map fieldKinds) ++ [.flowMappingEnd])
      (SpellsFields · fields) := by
  cases fields with
  | nil =>
      obtain ⟨fuel, rfl⟩ := Nat.exists_eq_succ_of_ne_zero (Nat.ne_zero_of_lt enough)
      exact accepts_flowEntries_end true
  | cons field later =>
      obtain ⟨first, others⟩ := List.forall_mem_cons.mp each
      rw [List.map_cons, separated, List.flatMap_map] at enough ⊢
      rw [List.length_append, fieldKinds] at enough
      simp only [List.length_cons] at enough
      obtain ⟨fuel, rfl⟩ := Nat.exists_eq_add_of_le' (by omega : 2 ≤ fuel)
      rw [List.append_assoc, fieldKinds]
      apply accepts_field
      · exact first (fuel + 1) .flow (by omega)
      · exact accepts_laterFields others (by omega)

theorem isRead_object {fields : List (String × Json)}
    (each : ∀ field ∈ fields, IsRead field.2) : IsRead (.object fields) := by
  intro fuel position enough tokens rest anchors handles spelled
  rw [tokenKinds_object] at enough spelled
  simp only [List.cons_append, List.length_cons, List.length_append, List.length_nil] at enough
  obtain ⟨fuel, rfl⟩ := Nat.exists_eq_succ_of_ne_zero (by omega : fuel ≠ 0)
  obtain ⟨⟨_, mark, finish⟩, inner, rfl, rfl, innerKinds⟩ := List.map_eq_cons_iff.mp spelled
  obtain ⟨entries, spells, read⟩ :=
    accepts_fields each (by omega : _ < fuel) inner rest anchors handles innerKinds
  refine ⟨.mapping mark none none entries, .object mark spells, ?_⟩
  rw [List.cons_append, node_flowMapping, read, Option.bind_some]

theorem reads_scalar (plain : Bool) (text : String) :
    Reads [.scalar plain text] fun node => ∃ mark, node = .scalar mark none none plain text := by
  intro fuel position enough tokens rest anchors handles spelled
  obtain ⟨fuel, rfl⟩ := Nat.exists_eq_succ_of_ne_zero (Nat.ne_zero_of_lt enough)
  obtain ⟨⟨_, mark, finish⟩, rfl, rfl⟩ := List.map_eq_singleton_iff.mp spelled
  exact ⟨_, ⟨mark, rfl⟩, node_scalar plain text⟩

theorem isRead_scalar {plain : Bool} {text : String}
    (kinds : tokenKinds json = [.scalar plain text])
    (spells : ∀ mark, Spells (.scalar mark none none plain text) json) : IsRead json := by
  intro fuel position enough tokens rest anchors handles spelled
  rw [kinds] at enough spelled
  obtain ⟨node, ⟨mark, rfl⟩, read⟩ :=
    reads_scalar plain text fuel position enough tokens rest anchors handles spelled
  exact ⟨_, spells mark, read⟩

/-- The reader makes of the tokens of a value a node that spells it. -/
theorem isRead (json : Json) : IsRead json := by
  induction json using tokenKinds.induct with
  | case1 => exact isRead_scalar (by rw [tokenKinds]) .null
  | case2 value => exact isRead_scalar (by rw [tokenKinds]) (.text · value)
  | case3 items each => exact isRead_list each
  | case4 fields each => exact isRead_object each

end Parse

/-! ## A whole document -/

theorem printable_of_mentions {json : Json} (inline : IsInline json) {word : String}
    (mentions : Json.Mentions word json) : AllPrintable word := by
  induction mentions with
  | text =>
      cases inline with
      | text printable => exact printable
  | item listed _ ih =>
      cases inline with
      | list each => exact ih (each _ listed)
  | name listed named =>
      cases inline with
      | object printable => exact named ▸ printable _ listed
  | field listed _ ih =>
      cases inline with
      | object _ _ each => exact ih (each _ listed)

theorem printable_of_mem_write {json : Json} (inline : IsInline json) :
    ∀ character ∈ json.write, IsPrintable character :=
  Json.forall_mem_write (fun _ printable => printable) fun _ mentions character listed _ =>
    printable_of_mentions inline mentions character listed

private theorem normalizeBreaks_eq_self {text : List Char}
    (unchanged : ∀ character ∈ text, character ≠ '\r' ∧ character ≠ '\u0085') :
    normalizeBreaks text = text := by
  induction text with
  | nil => rfl
  | cons character rest ih =>
      obtain ⟨⟨carriageReturn, nextLine⟩, others⟩ := List.forall_mem_cons.mp unchanged
      rw [normalizeBreaks, ih others]
      · simp [carriageReturn, nextLine]
      · intro _ isReturn
        exact absurd isReturn carriageReturn

/-- Whether a text consists of printable characters and line feeds. -/
def IsSource (text : List Char) : Prop :=
  ∀ character ∈ text, IsPrintable character ∨ character = '\n'

theorem prepare?_eq_some {text : String} (isSource : IsSource text.toList) :
    prepare? text = some text.toList := by
  have allowed : text.toList.all isAllowed := by
    rw [List.all_eq_true]
    intro character member
    rcases isSource character member with ⟨above, below⟩ | rfl
    · simp [isAllowed, above, below]
    · rfl
  have unchanged : ∀ character ∈ text.toList, character ≠ '\r' ∧ character ≠ '\u0085' := by
    intro character member
    rcases isSource character member with inside | rfl
    · exact ⟨inside.ne_of_lt '\r' (by decide), inside.ne_of_gt '\u0085' (by decide)⟩
    · decide
  rw [prepare?, if_pos allowed, normalizeBreaks_eq_self unchanged]

theorem Parse.stream_content {fuel : Nat} {first : Token}
    (starts : (!endsDocument first.kind) = true) (rest : List Token)
    (anchors : List (String × Nat)) (handles : List (String × Bytes)) :
    Parse.stream fuel ⟨first :: rest, anchors, handles⟩ =
      (Parse.node fuel .block ⟨first :: rest, anchors, handles ++
        [("!", Utf8.encode "!"), ("!!", Utf8.encode "tag:yaml.org,2002:")]⟩).bind fun read =>
          some (some read.1, read.2) := by
  obtain ⟨kind, mark, finish⟩ := first
  cases kind with
  | versionDirective | tagDirective | documentStart | documentEnd | streamEnd =>
      exact absurd starts Bool.false_ne_true
  | _ => rfl

/-- A source whose tokens are those of a single node is a document of that node. -/
theorem document?_of_accepts {text : String} {kinds : List Token.Kind} {good : Node → Prop}
    (isSource : IsSource text.toList)
    (lexed : ∃ tokens, tokens? text.toList = some tokens ∧
      tokens.map Token.kind = kinds ++ [.streamEnd])
    (starts : Parse.StartsWith (!Parse.endsDocument ·) kinds)
    (accepts : ∀ fuel, kinds.length ≤ fuel → Parse.Accepts (Parse.node fuel .block) kinds good) :
    ∃ root, document? text = some (some root) ∧ good root := by
  obtain ⟨tokens, lexed, spelled⟩ := lexed
  obtain ⟨inner, last, rfl, innerKinds, lastKinds⟩ := List.map_eq_append_iff.mp spelled
  obtain ⟨finish, rfl, isEnd⟩ := List.map_eq_singleton_iff.mp lastKinds
  have enough : kinds.length ≤ 3 * (inner ++ [finish]).length + 3 := by
    rw [← innerKinds, List.length_map, List.length_append]
    omega
  obtain ⟨root, isGood, read⟩ :=
    accepts _ enough inner [finish] []
      [("!", Utf8.encode "!"), ("!!", Utf8.encode "tag:yaml.org,2002:")] innerKinds
  obtain ⟨first, more, rfl, firstStarts⟩ := starts.exists_first innerKinds
  refine ⟨root, ?_, isGood⟩
  rw [document?, prepare?_eq_some isSource]
  simp only [Option.bind_eq_bind, Option.bind_some, lexed]
  rw [List.cons_append] at read ⊢
  rw [Parse.stream_content firstStarts, List.nil_append, read]
  simp [isStreamTail, isEnd]

/-- An object on one line is a document that spells it. -/
theorem document?_render {fields : List (String × Json)} (inline : IsInline (.object fields)) :
    ∃ root, document? (Json.object fields).render = some (some root) ∧
      Spells root (.object fields) := by
  apply document?_of_accepts
  · intro character member
    rw [Json.render, String.toList_ofList] at member
    exact .inl (printable_of_mem_write inline character member)
  · rw [Json.render, String.toList_ofList]
    exact tokens?_write inline
  · rw [tokenKinds_object]
    exact ⟨_, _, rfl, rfl⟩
  · intro fuel enough
    exact Parse.isRead (.object fields) fuel .block enough

end ProfileShell.Yaml
