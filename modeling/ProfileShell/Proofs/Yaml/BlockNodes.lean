import ProfileShell.Proofs.Yaml.Block
import ProfileShell.Proofs.Yaml.Nodes

/-!
# Nodes of block collections

What the reader of tokens makes of keys with a value below them.  A block mapping is closed
by a token of its own, and a sequence that is indented like the key ends where the mapping
around it does.
-/

namespace ProfileShell.Yaml

open Text (IsPrintable)

/-! ## Trees of keys -/

/-- A mapping whose only key is a plain text. -/
inductive HasOnly (name : String) (good : Node → Prop) : Node → Prop where
  | entry (mark keyMark : Mark) {value : Node} (isGood : good value) :
      HasOnly name good (.mapping mark none none [(.scalar keyMark none none true name, value)])

/-- Something good below some keys, each of which is the only one of its mapping. -/
def Below : List (List Char) → (Node → Prop) → Node → Prop
  | [], good => good
  | name :: inner, good => HasOnly (String.ofList name) (Below inner good)

/-- A plain text without tag and anchor. -/
def IsPlain (node : Node) (text : List Char) : Prop :=
  ∃ mark, node = .scalar mark none none true (String.ofList text)

/-- A sequence of plain texts. -/
def ListsPlain (texts : List (List Char)) (node : Node) : Prop :=
  ∃ mark nodes, node = .sequence mark none none nodes ∧ List.Forall₂ IsPlain nodes texts

namespace Parse

variable {fuel : Nat} {position : Position} {mark finish : Mark} {token : Token}
variable {rest : List Token} {anchors : List (String × Nat)} {handles : List (String × Bytes)}

/-! ## Single steps of the reader -/

theorem node_blockMapping (inBlock : position ≠ .flow) :
    node (fuel + 1) position ⟨⟨.blockMappingStart, mark, finish⟩ :: rest, anchors, handles⟩ =
      (blockEntries fuel ⟨rest, anchors, handles⟩).bind fun read =>
        some (.mapping mark none none read.1, read.2) := by
  cases position with
  | flow => exact absurd rfl inBlock
  | block | blockValue => rfl

/-- Whether a value below a key starts with a token. -/
def startsBlockValue : Token.Kind → Bool
  | .scalar _ _ | .flowSequenceStart | .blockMappingStart | .blockEntry => true
  | _ => false

theorem blockEntries_end :
    blockEntries (fuel + 1) ⟨⟨.blockEnd, mark, finish⟩ :: rest, anchors, handles⟩ =
      some ([], ⟨rest, anchors, handles⟩) := rfl

theorem blockEntries_entry {keyMark keyFinish colonMark colonFinish : Mark} {name : String}
    (starts : startsBlockValue token.kind) :
    blockEntries (fuel + 2)
        ⟨⟨.key, keyMark, keyFinish⟩ :: ⟨.scalar true name, mark, finish⟩ ::
          ⟨.value, colonMark, colonFinish⟩ :: token :: rest, anchors, handles⟩ =
      (node (fuel + 1) .blockValue ⟨token :: rest, anchors, handles⟩).bind fun read =>
        (blockEntries (fuel + 1) read.2).bind fun later =>
          some ((.scalar mark none none true name, read.1) :: later.1, later.2) := by
  obtain ⟨kind, mark, finish⟩ := token
  cases kind with
  | scalar | flowSequenceStart | blockMappingStart | blockEntry => rfl
  | _ => exact absurd starts Bool.false_ne_true

theorem node_dashItems :
    node (fuel + 1) .blockValue ⟨⟨.blockEntry, mark, finish⟩ :: rest, anchors, handles⟩ =
      (dashItems fuel ⟨⟨.blockEntry, mark, finish⟩ :: rest, anchors, handles⟩).bind fun read =>
        some (.sequence mark none none read.1, read.2) := rfl

theorem dashItems_scalar {dashMark dashFinish : Mark} {text : String} :
    dashItems (fuel + 2)
        ⟨⟨.blockEntry, dashMark, dashFinish⟩ :: ⟨.scalar true text, mark, finish⟩ :: rest,
          anchors, handles⟩ =
      (dashItems (fuel + 1) ⟨rest, anchors, handles⟩).bind fun later =>
        some (.scalar mark none none true text :: later.1, later.2) := rfl

theorem dashItems_end :
    dashItems (fuel + 1) ⟨⟨.blockEnd, mark, finish⟩ :: rest, anchors, handles⟩ =
      some ([], ⟨⟨.blockEnd, mark, finish⟩ :: rest, anchors, handles⟩) := rfl

/-! ## Values below a key -/

variable {name : List Char} {kinds : List Token.Kind} {good : Node → Prop}

/-- Whether a reader takes tokens of some kinds in front of the end of a block. -/
def AcceptsInBlock {α : Type} (parse : Parse α) (kinds : List Token.Kind) (good : α → Prop) :
    Prop :=
  ∀ (tokens : List Token) (finish : Token) (rest : List Token) (anchors : List (String × Nat))
    (handles : List (String × Bytes)), tokens.map Token.kind = kinds → finish.kind = .blockEnd →
    ∃ value, good value ∧
      parse ⟨tokens ++ finish :: rest, anchors, handles⟩ =
        some (value, ⟨finish :: rest, anchors, handles⟩)

theorem Accepts.inBlock {α : Type} {parse : Parse α} {good : α → Prop}
    (accepts : Accepts parse kinds good) : AcceptsInBlock parse kinds good :=
  fun tokens finish rest anchors handles spelled _ =>
    accepts tokens (finish :: rest) anchors handles spelled

/-- Whether tokens of some kinds are read as the value below a key. -/
structure ReadsBelow (kinds : List Token.Kind) (good : Node → Prop) : Prop where
  starts : StartsWith startsBlockValue kinds
  accepts : ∀ fuel, kinds.length < fuel → AcceptsInBlock (node fuel .blockValue) kinds good

/-- The tokens of a key and of the value below it. -/
def mappingKinds (name : List Char) (kinds : List Token.Kind) : List Token.Kind :=
  Lexer.keyKinds name ++ kinds ++ [.blockEnd]

theorem accepts_blockMapping (below : ReadsBelow kinds good) (name : List Char)
    (enough : (mappingKinds name kinds).length ≤ fuel) (inBlock : position ≠ .flow) :
    Accepts (node fuel position) (mappingKinds name kinds)
      (HasOnly (String.ofList name) good) := by
  intro tokens rest anchors handles spelled
  simp only [mappingKinds, Lexer.keyKinds, List.cons_append, List.nil_append] at enough spelled
  simp only [List.length_cons, List.length_append, List.length_nil] at enough
  obtain ⟨fuel, rfl⟩ := Nat.exists_eq_add_of_le' (by omega : 3 ≤ fuel)
  obtain ⟨⟨_, mark, _⟩, behindStart, rfl, rfl, fromKey⟩ := List.map_eq_cons_iff.mp spelled
  obtain ⟨⟨_, _, _⟩, behindKey, rfl, rfl, fromName⟩ := List.map_eq_cons_iff.mp fromKey
  obtain ⟨⟨_, keyMark, _⟩, behindName, rfl, rfl, fromColon⟩ := List.map_eq_cons_iff.mp fromName
  obtain ⟨⟨_, _, _⟩, behindColon, rfl, rfl, fromValue⟩ := List.map_eq_cons_iff.mp fromColon
  obtain ⟨valueTokens, last, rfl, valueKinds, lastKinds⟩ := List.map_eq_append_iff.mp fromValue
  obtain ⟨⟨_, endMark, endFinish⟩, rfl, rfl⟩ := List.map_eq_singleton_iff.mp lastKinds
  obtain ⟨value, isGood, read⟩ :=
    below.accepts (fuel + 1) (by omega) valueTokens ⟨.blockEnd, endMark, endFinish⟩ rest anchors
      handles valueKinds rfl
  obtain ⟨token, more, rfl, starts⟩ := below.starts.exists_first valueKinds
  refine ⟨_, .entry mark keyMark isGood, ?_⟩
  rw [List.cons_append] at read
  simp only [List.cons_append, List.append_assoc, List.nil_append]
  rw [node_blockMapping inBlock, blockEntries_entry starts, read, Option.bind_some,
    blockEntries_end]
  rfl

theorem ReadsBelow.mapping (below : ReadsBelow kinds good) (name : List Char) :
    ReadsBelow (mappingKinds name kinds) (HasOnly (String.ofList name) good) where
  starts := ⟨_, _, rfl, rfl⟩
  accepts fuel enough := by
    have inBlock : Position.blockValue ≠ .flow := by decide
    exact (accepts_blockMapping below name (Nat.le_of_lt enough) inBlock).inBlock

/-- The tokens of nested keys: all the keys, the innermost value and the ends of the blocks. -/
def nestedKinds (names : List (List Char)) (kinds : List Token.Kind) : List Token.Kind :=
  names.flatMap Lexer.keyKinds ++ kinds ++ List.replicate names.length .blockEnd

theorem nestedKinds_cons (name : List Char) (inner : List (List Char))
    (kinds : List Token.Kind) :
    nestedKinds (name :: inner) kinds = mappingKinds name (nestedKinds inner kinds) := by
  simp [nestedKinds, mappingKinds, List.replicate_succ']

theorem ReadsBelow.nested (below : ReadsBelow kinds good) (names : List (List Char)) :
    ReadsBelow (nestedKinds names kinds) (Below names good) := by
  induction names with
  | nil =>
      rw [nestedKinds, List.flatMap_nil, List.nil_append, List.length_nil, List.replicate_zero,
        List.append_nil]
      exact below
  | cons name inner ih =>
      rw [nestedKinds_cons]
      exact ih.mapping name

/-! ## Lists of words -/

theorem readsBelow_flowKinds (words : List (List Char)) :
    ReadsBelow (Lexer.flowKinds words) (ListsPlain words) where
  starts := ⟨_, _, rfl, rfl⟩
  accepts fuel enough := by
    apply Accepts.inBlock
    apply reads_flowSequence _ _ fuel .blockValue (Nat.le_of_lt enough)
    · exact fun word => ⟨_, _, rfl, rfl⟩
    · exact fun word _ => reads_scalar true (String.ofList word)

theorem acceptsInBlock_dashItems {words : List (List Char)} (enough : words.length < fuel) :
    AcceptsInBlock (dashItems fuel) (words.flatMap Lexer.itemKinds)
      (List.Forall₂ IsPlain · words) := by
  induction words generalizing fuel with
  | nil =>
      intro tokens finish rest anchors handles spelled isEnd
      obtain ⟨fuel, rfl⟩ := Nat.exists_eq_succ_of_ne_zero (Nat.ne_zero_of_lt enough)
      obtain ⟨kind, mark, endMark⟩ := finish
      cases isEnd
      rw [List.map_eq_nil_iff.mp spelled]
      exact ⟨[], .nil, dashItems_end⟩
  | cons word later ih =>
      intro tokens finish rest anchors handles spelled isEnd
      rw [List.length_cons] at enough
      obtain ⟨fuel, rfl⟩ := Nat.exists_eq_add_of_le' (by omega : 2 ≤ fuel)
      obtain ⟨⟨_, _, _⟩, behindDash, rfl, rfl, fromWord⟩ := List.map_eq_cons_iff.mp spelled
      obtain ⟨⟨_, mark, _⟩, behindWord, rfl, rfl, laterKinds⟩ := List.map_eq_cons_iff.mp fromWord
      obtain ⟨nodes, plain, read⟩ :=
        ih (by omega : later.length < fuel + 1) behindWord finish rest anchors handles laterKinds
          isEnd
      refine ⟨_, .cons ⟨mark, rfl⟩ plain, ?_⟩
      rw [List.cons_append, List.cons_append, dashItems_scalar, read, Option.bind_some]

private theorem length_itemKinds (words : List (List Char)) :
    (words.flatMap Lexer.itemKinds).length = 2 * words.length := by
  induction words with
  | nil => rfl
  | cons word later ih =>
      rw [List.flatMap_cons, List.length_append, ih, Lexer.itemKinds, List.length_cons,
        List.length_singleton, List.length_cons]
      omega

theorem readsBelow_itemKinds {words : List (List Char)} (nonempty : words ≠ []) :
    ReadsBelow (words.flatMap Lexer.itemKinds) (ListsPlain words) := by
  obtain ⟨first, later, rfl⟩ := List.exists_cons_of_ne_nil nonempty
  constructor
  case starts => exact ⟨_, _, rfl, rfl⟩
  case accepts =>
    intro fuel enough tokens finish rest anchors handles spelled isEnd
    rw [length_itemKinds, List.length_cons] at enough
    obtain ⟨fuel, rfl⟩ := Nat.exists_eq_succ_of_ne_zero (Nat.ne_zero_of_lt enough)
    have fewer : (first :: later).length < fuel := by
      rw [List.length_cons]
      omega
    -- The reader of the items meets the first dash again: the node has only looked at it.
    obtain ⟨nodes, plain, read⟩ :=
      acceptsInBlock_dashItems fewer tokens finish rest anchors handles spelled isEnd
    obtain ⟨⟨_, mark, _⟩, behindDash, rfl, rfl, _⟩ := List.map_eq_cons_iff.mp spelled
    refine ⟨.sequence mark none none nodes, ⟨mark, nodes, rfl, plain⟩, ?_⟩
    rw [List.cons_append] at read ⊢
    rw [node_dashItems, read, Option.bind_some]

end Parse

/-! ## A whole document -/

section Sources

open Lexer

theorem isSource_nil : IsSource [] :=
  nofun

theorem IsSource.append {front back : List Char} (first : IsSource front)
    (second : IsSource back) : IsSource (front ++ back) :=
  List.forall_mem_append.mpr ⟨first, second⟩

theorem IsSource.cons {character : Char} {text : List Char} (later : IsSource text)
    (first : IsPrintable character ∨ character = '\n') :
    IsSource (character :: text) :=
  List.forall_mem_cons.mpr ⟨first, later⟩

theorem isSource_word {text : List Char} (word : isWord text = true) : IsSource text :=
  fun character member =>
    .inl (isPrintable_of_continuesWord (continuesWord_of_isWord word character member))

theorem isSource_indentation (width : Nat) : IsSource (List.replicate width ' ') := by
  intro character member
  rw [List.eq_of_mem_replicate member]
  exact .inl (by decide)

theorem isSource_ending {ending : List Char} (isEnding : IsEnding ending) :
    IsSource ending := by
  rcases isEnding with rfl | rfl
  · exact isSource_nil
  · exact isSource_nil.cons (.inr rfl)

theorem isSource_keyLines {names : List (List Char)}
    (words : ∀ name ∈ names, isWord name = true) (width : Nat) :
    IsSource (keyLines width names) := by
  induction names generalizing width with
  | nil => exact isSource_nil
  | cons name inner ih =>
      obtain ⟨word, others⟩ := List.forall_mem_cons.mp words
      have colon : IsPrintable ':' := by decide
      have below := (ih others (width + 2)).cons (.inl colon)
      have line := (isSource_indentation (width + 2)).append ((isSource_word word).append below)
      exact line.cons (.inr rfl)

variable {first : List Char} {later : List (List Char)}

theorem isSource_flowText (words : ∀ word ∈ first :: later, isWord word = true) :
    IsSource (flowText first later) := by
  obtain ⟨isFirst, others⟩ := List.forall_mem_cons.mp words
  have comma : IsPrintable ',' ∧ IsPrintable ' ' := by decide
  have brackets : IsPrintable '[' ∧ IsPrintable ']' := by decide
  have behind : IsSource (later.flatMap fun word => ',' :: ' ' :: word) := by
    intro character member
    obtain ⟨word, listed, inside⟩ := List.mem_flatMap.mp member
    have spaced := (isSource_word (others word listed)).cons (.inl comma.2)
    exact spaced.cons (.inl comma.1) character inside
  have opened := ((isSource_word isFirst).append behind).cons (.inl brackets.1)
  exact (opened.cons (.inl comma.2)).append (isSource_nil.cons (.inl brackets.2))

theorem isSource_itemText {word : List Char} (isItem : isWord word = true) :
    IsSource (itemText word) := by
  have dash : IsPrintable '-' ∧ IsPrintable ' ' := by decide
  exact ((isSource_word isItem).cons (.inl dash.2)).cons (.inl dash.1)

theorem isSource_itemsText (words : ∀ word ∈ first :: later, isWord word = true)
    (width : Nat) : IsSource (itemsText width first later) := by
  obtain ⟨isFirst, others⟩ := List.forall_mem_cons.mp words
  apply (isSource_itemText isFirst).append
  intro character member
  obtain ⟨word, listed, inside⟩ := List.mem_flatMap.mp member
  have line := (isSource_indentation width).append (isSource_itemText (others word listed))
  exact line.cons (.inr rfl) character inside

/-- A value below nested keys is a document of nested mappings. -/
theorem document?_keyLines {text : String} {outermost value : List Char}
    {names : List (List Char)} {kinds : List Token.Kind} {good : Node → Prop}
    (spelled : text.toList = outermost ++ ':' :: (keyLines 0 names ++ value))
    (words : ∀ name ∈ outermost :: names, isWord name = true)
    (short : ∀ name ∈ outermost :: names, name.length ≤ 1024) (ends : atWordEnd value = true)
    (isSource : IsSource value) (isLast : IsLastValue (2 * names.length) value kinds)
    (below : Parse.ReadsBelow kinds good) :
    ∃ root, document? text = some (some root) ∧ Below (outermost :: names) good root := by
  obtain ⟨word, others⟩ := List.forall_mem_cons.mp words
  have inner : Parse.ReadsBelow (Parse.nestedKinds names kinds) (Below names good) :=
    below.nested names
  obtain ⟨tokens, lexed, tokensKinds⟩ := tokens?_keyLines words short ends isLast
  apply document?_of_accepts
  case kinds => exact Parse.mappingKinds outermost (Parse.nestedKinds names kinds)
  case isSource =>
    have colon : IsPrintable ':' := by decide
    rw [spelled]
    apply (isSource_word word).append
    exact ((isSource_keyLines others 0).append isSource).cons (.inl colon)
  case lexed =>
    refine ⟨tokens, by rw [spelled, lexed], ?_⟩
    rw [tokensKinds, ← Parse.nestedKinds_cons, Parse.nestedKinds, List.length_cons]
  case starts => exact ⟨_, _, rfl, rfl⟩
  case accepts =>
    intro fuel enough
    exact Parse.accepts_blockMapping inner outermost enough (by decide)

end Sources

end ProfileShell.Yaml
