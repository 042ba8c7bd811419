import ProfileShell.Proofs.Json
import ProfileShell.Proofs.Yaml.Lexing
import ProfileShell.Proofs.Yaml.Word

/-!
# Tokens of a flow collection

What the lexer makes of a JSON text.  Inside a flow collection no block is opened or
closed, so its state there is known as a whole: the characters ahead, the tokens so far
and the places where keys may have started.
-/

namespace ProfileShell.Yaml

open Text (IsPrintable AllPrintable)

/-! ## The tokens of a JSON value -/

def tokenKinds : Json → List Token.Kind
  | .null => [.scalar true "null"]
  | .text value => [.scalar false value]
  | .list items =>
    .flowSequenceStart :: separated .flowEntry (items.map tokenKinds) ++ [.flowSequenceEnd]
  | .object fields =>
    .flowMappingStart ::
      separated .flowEntry (fields.map fun field =>
        .key :: .scalar false field.1 :: .value :: tokenKinds field.2)
      ++ [.flowMappingEnd]
decreasing_by
  · next listed =>
      have smaller := List.sizeOf_lt_of_mem listed
      simp only [Json.list.sizeOf_spec]
      omega
  · next listed =>
      have smaller := List.sizeOf_lt_of_mem listed
      simp only [Json.object.sizeOf_spec]
      rw [Prod.mk.sizeOf_spec] at smaller
      omega

def fieldKinds (field : String × Json) : List Token.Kind :=
  .key :: .scalar false field.1 :: .value :: tokenKinds field.2

theorem tokenKinds_object (fields : List (String × Json)) :
    tokenKinds (.object fields) =
      .flowMappingStart :: separated .flowEntry (fields.map fieldKinds) ++ [.flowMappingEnd] := by
  rw [tokenKinds]
  rfl

namespace Lexer

variable {before after : Lexer} {frame : Frame} {rest : List Char} {column : Nat}
variable {reversed : List Token} {outer : List (Option KeyStart)}
variable {outerKey key : Option KeyStart} {allowed : Bool}

/-! ## One token -/

/-- The collections of JSON. -/
inductive Collection where
  | sequence
  | mapping

namespace Collection

def opening : Collection → Char
  | sequence => '['
  | mapping => '\x7b'

def closing : Collection → Char
  | sequence => ']'
  | mapping => '\x7d'

def startKind : Collection → Token.Kind
  | sequence => .flowSequenceStart
  | mapping => .flowMappingStart

def endKind : Collection → Token.Kind
  | sequence => .flowSequenceEnd
  | mapping => .flowMappingEnd

end Collection

theorem token?_opening (lexer : Lexer) (collection : Collection) (rest : List Char) :
    lexer.token? collection.opening rest = lexer.openFlow? collection.startKind := by
  cases collection <;> simp [token?, atDocumentMarker, Collection.opening, Collection.startKind]

theorem token?_closing (lexer : Lexer) (collection : Collection) (rest : List Char) :
    lexer.token? collection.closing rest = lexer.closeFlow? collection.endKind := by
  cases collection <;> simp [token?, atDocumentMarker, Collection.closing, Collection.endKind]

theorem token?_comma (lexer : Lexer) (rest : List Char) :
    lexer.token? ',' rest = lexer.flowEntry? := by
  simp [token?, atDocumentMarker]

theorem token?_colon (lexer : Lexer) (inside : lexer.inFlow) (rest : List Char) :
    lexer.token? ':' rest = lexer.value? := by
  simp [token?, atDocumentMarker, inside]

theorem token?_quotationMark (lexer : Lexer) (rest : List Char) :
    lexer.token? '"' rest = lexer.quoted? true := by
  simp [token?, atDocumentMarker]

/-- Nothing but a plain scalar starts with a character of a word. -/
theorem token?_word {first : Char} (starts : startsWord first = true) (lexer : Lexer)
    (noMarker : lexer.cursor.mark.column = 0 → atDocumentMarker (first :: rest) = false) :
    lexer.token? first rest = lexer.plain? := by
  have other : ∀ indicator ∈ ['%', '[', '\x7b', ']', '\x7d', ',', '-', '?', ':', '*', '&', '!',
      '|', '>', '\'', '"', ' ', '\t', '\n', '\u2028', '\u2029', '#', '@', '\x60'],
      first ≠ indicator :=
    ne_of_startsWord starts (by decide)
  simp only [List.forall_mem_cons] at other
  have unmarked : ¬ (lexer.cursor.mark.column = 0 ∧ atDocumentMarker (first :: rest) = true) := by
    rintro ⟨lineStart, marker⟩
    simp [noMarker lineStart] at marker
  have plainStart : startsPlain lexer.inFlow (first :: rest) = true := by
    simp [startsPlain, isGap, isBreak, other]
  rw [token?, if_neg (by simp [other]), if_neg unmarked]
  simp [other, plainStart]

theorem leads_opening (holds : frame.Holds outer column) (droppable : Droppable key)
    (collection : Collection) (rest : List Char) :
    Leads (frame.lexer (collection.opening :: rest) column reversed outer key allowed)
      (frame.lexer rest (column + 1)
        (⟨collection.startKind, ⟨frame.line, column⟩, ⟨frame.line, column + 1⟩⟩ :: reversed)
        (frame.saved column reversed key allowed :: outer) none true) := by
  have printable : IsPrintable collection.opening := by cases collection <;> decide
  apply Leads.of_token? holds.within printable
  · cases collection <;> decide
  · cases collection <;> decide
  · rw [token?_opening, openFlow?, saveKey?_lexer holds droppable, Option.map_some,
      take_lexer printable]
    rfl
  · exact Nat.le_refl _

theorem leads_closing (droppable : Droppable key) (collection : Collection)
    (rest : List Char) :
    Leads
      (frame.lexer (collection.closing :: rest) column reversed (outerKey :: outer) key allowed)
      (frame.lexer rest (column + 1)
        (⟨collection.endKind, ⟨frame.line, column⟩, ⟨frame.line, column + 1⟩⟩ :: reversed)
        outer outerKey false) := by
  have printable : IsPrintable collection.closing := by cases collection <;> decide
  apply Leads.of_token? (.inl (List.cons_ne_nil _ _)) printable
  · cases collection <;> decide
  · cases collection <;> decide
  · rw [token?_closing, closeFlow?, dropKey?_lexer droppable, Option.map_some,
      take_lexer printable]
    rfl
  · exact Nat.le_refl _

theorem leads_comma (inside : outer ≠ []) (droppable : Droppable key)
    (rest : List Char) :
    Leads (frame.lexer (',' :: rest) column reversed outer key allowed)
      (frame.lexer rest (column + 1)
        (⟨.flowEntry, ⟨frame.line, column⟩, ⟨frame.line, column + 1⟩⟩ :: reversed)
        outer none true) := by
  have printable : IsPrintable ',' := by decide
  apply Leads.of_token? (.inl inside) printable (by decide) (by decide)
  · rw [token?_comma, flowEntry?, dropKey?_lexer droppable, Option.map_some,
      take_lexer printable]
    rfl
  · exact Nat.le_refl _

/-- A colon makes a key of the quoted text in front of it. -/
theorem leads_colon (inside : outer ≠ []) {start : Nat} {token : Token}
    (near : column ≤ start + 1024) (rest : List Char) :
    Leads
      (frame.lexer (':' :: rest) column (token :: reversed) outer
        (some ⟨false, reversed.length, ⟨frame.line, start⟩⟩) false)
      (frame.lexer rest (column + 1)
        (⟨.value, ⟨frame.line, column⟩, ⟨frame.line, column + 1⟩⟩ :: token ::
          ⟨.key, ⟨frame.line, start⟩, ⟨frame.line, start⟩⟩ :: reversed)
        outer none false) := by
  have printable : IsPrintable ':' := by decide
  apply Leads.of_token? (.inl inside) printable (by decide) (by decide)
  · rw [token?_colon _ (by simp [inFlow, Frame.lexer, inside]), value?,
      reachableKey?_lexer near]
    simp [Frame.lexer, insert, openBlock, inFlow, inside, take, emit, Cursor.skipMany,
      Cursor.skip, Mark.after_of_printable printable]
  · exact Nat.le_refl _

theorem leads_quote (inside : outer ≠ []) (droppable : Droppable key) {value : String}
    (printable : AllPrintable value) (rest : List Char) :
    Leads (frame.lexer (Json.quote value ++ rest) column reversed outer key allowed)
      (frame.lexer rest (column + (Json.quote value).length)
        (⟨.scalar false value, ⟨frame.line, column⟩,
          ⟨frame.line, column + (Json.quote value).length⟩⟩ :: reversed)
        outer (frame.saved column reversed key allowed) false) := by
  have quotationMark : IsPrintable '"' := by decide
  obtain ⟨body, quoted, shorter, read⟩ :=
    doubleQuoted_quote printable frame.line column rest
  rw [quoted]
  apply Leads.of_token? (.inl inside) quotationMark (by decide) (by decide)
  · rw [token?_quotationMark, quoted?, saveKey?_lexer (.inl inside) droppable]
    simp [Frame.lexer, Cursor.skip, Mark.after_of_printable quotationMark, read, advance, emit]
  · exact shorter

/-- A plain scalar, which ends where its reader says. -/
theorem leads_plain {text remaining : List Char} {finish : Mark} {flow broken : Bool}
    (place : (!outer.isEmpty) = flow) (word : isWord text = true)
    (holds : frame.Holds outer column) (droppable : Droppable key)
    (noMarker : column = 0 → atDocumentMarker (text ++ rest) = false)
    (read : plain flow (frame.indent + 1) none text.reverse
      ⟨frame.line, column + text.length⟩ rest = some ⟨text, ⟨remaining, finish⟩, broken⟩)
    (shorter : remaining.length ≤ rest.length) :
    Leads (frame.lexer (text ++ rest) column reversed outer key allowed)
      ({ frame with line := finish.line }.lexer remaining finish.column
        (⟨.scalar true (String.ofList text), ⟨frame.line, column⟩, finish⟩ :: reversed) outer
        (frame.saved column reversed key allowed) broken) := by
  have characters := continuesWord_of_isWord word
  cases text with
  | nil => cases word
  | cons first more =>
      rw [isWord, Bool.and_eq_true] at word
      have whole : plain flow (frame.indent + 1) none [] ⟨frame.line, column⟩
          (first :: (more ++ rest)) = some ⟨first :: more, ⟨remaining, finish⟩, broken⟩ := by
        rw [← List.cons_append, plain_word characters, List.append_nil]
        exact read
      have printable := isPrintable_of_continuesWord (continuesWord_of_startsWord word.1)
      have other : ∀ symbol ∈ [' ', '#'], first ≠ symbol := ne_of_startsWord word.1 (by decide)
      obtain ⟨visible, others⟩ := List.forall_mem_cons.mp other
      rw [List.cons_append]
      apply Leads.of_token? holds.within printable visible (others '#' List.mem_cons_self)
      · rw [token?_word word.1 _ noMarker, plain?, saveKey?_lexer holds droppable]
        simp [Frame.lexer, inFlow, place, whole, advance, emit]
      · rw [List.length_append]
        exact Nat.le_trans shorter (Nat.le_add_left _ _)

theorem leads_flowWord {text : List Char} (word : isWord text = true) (inside : outer ≠ [])
    (droppable : Droppable key) (ends : rest.head?.any isFlowIndicator = true) :
    Leads (frame.lexer (text ++ rest) column reversed outer key allowed)
      (frame.lexer rest (column + text.length)
        (⟨.scalar true (String.ofList text), ⟨frame.line, column⟩,
          ⟨frame.line, column + text.length⟩⟩ :: reversed)
        outer (frame.saved column reversed key allowed) false) := by
  cases rest with
  | nil => simp at ends
  | cons indicator more =>
      have indicates : isFlowIndicator indicator = true := by simpa using ends
      obtain ⟨foreign, noGap, _⟩ := foreign_of_isFlowIndicator indicates
      have place : (!outer.isEmpty) = true := by simpa using inside
      have read : plain true (frame.indent + 1) none text.reverse
          ⟨frame.line, column + text.length⟩ (indicator :: more) =
            some ⟨text, ⟨indicator :: more, ⟨frame.line, column + text.length⟩⟩, false⟩ := by
        rw [plain_indicator indicates, List.reverse_reverse]
      apply leads_plain place word (.inl inside) droppable _ read (Nat.le_refl _)
      intro _
      exact atDocumentMarker_word word foreign noGap more

/-! ## A whole value -/

/-- Whether a text inside a flow collection becomes tokens of some kinds, up to the
indicator behind it. -/
def IsLexed (text : List Char) (kinds : List Token.Kind) (allowed : Bool) : Prop :=
  ∀ (frame : Frame) (column : Nat) (reversed : List Token) (outer : List (Option KeyStart))
    (key : Option KeyStart) (rest : List Char),
    outer ≠ [] → Droppable key → rest.head?.any isFlowIndicator →
    ∃ (further : Nat) (read : List Token) (last : Option KeyStart),
      read.map Token.kind = kinds.reverse ++ reversed.map Token.kind ∧ Droppable last ∧
        Leads (frame.lexer (text ++ rest) column reversed outer key allowed)
          (frame.lexer rest further read outer last false)

theorem isLexed_word {text : List Char} (word : isWord text = true) :
    IsLexed text [.scalar true (String.ofList text)] allowed := by
  intro frame column reversed outer key rest inside droppable ends
  exact ⟨_, _, _, rfl, droppable_saved droppable, leads_flowWord word inside droppable ends⟩

/-- A part may stand behind a space. -/
theorem isLexed_space {text : List Char} {kinds : List Token.Kind}
    (lexed : IsLexed text kinds allowed) : IsLexed (' ' :: text) kinds allowed := by
  intro frame column reversed outer key rest inside droppable ends
  obtain ⟨further, read, last, kindsRead, lastDroppable, leads⟩ :=
    lexed frame (column + 1) reversed outer key rest inside droppable ends
  exact ⟨further, read, last, kindsRead, lastDroppable, (leads_space _).trans leads⟩

theorem isLexed_null : IsLexed Json.null.write (tokenKinds .null) allowed := by
  rw [Json.write, tokenKinds]
  exact isLexed_word (by decide)

theorem isLexed_text {value : String} (printable : AllPrintable value) :
    IsLexed (Json.text value).write (tokenKinds (.text value)) allowed := by
  intro frame column reversed outer key rest inside droppable ends
  rw [tokenKinds]
  exact ⟨_, _, _, rfl, droppable_saved droppable,
    leads_quote inside droppable printable rest⟩

/-- A key with its value, where a key may start. -/
theorem isLexed_field {name : String} {text : List Char} {kinds : List Token.Kind}
    (printable : AllPrintable name) (short : (Json.quote name).length ≤ 1024)
    (lexed : IsLexed text kinds false) :
    IsLexed (Json.quote name ++ ':' :: text) (.key :: .scalar false name :: .value :: kinds)
      true := by
  intro frame column reversed outer key rest inside droppable ends
  have near : column + (Json.quote name).length ≤ column + 1024 := by omega
  obtain ⟨further, read, last, kindsRead, lastDroppable, valueRead⟩ :=
    lexed frame (column + (Json.quote name).length + 1) _ outer none rest inside droppable_none
      ends
  refine ⟨further, read, last, ?_, lastDroppable, ?_⟩
  -- The run goes first: it settles which tokens stand in front of those of the value.
  rotate_left
  · rw [List.append_assoc, List.cons_append]
    apply (leads_quote inside droppable printable (':' :: (text ++ rest))).trans
    exact (leads_colon inside near (text ++ rest)).trans valueRead
  · rw [kindsRead]
    simp

/-! ## Collections -/

/-- A part of a collection as it is written, and its tokens. -/
structure Part where
  text : List Char
  kinds : List Token.Kind

variable {parts : List Part}

private theorem head?_separated (parts : List Part) (ends : rest.head?.any isFlowIndicator) :
    (parts.flatMap (',' :: ·.text) ++ rest).head?.any isFlowIndicator := by
  cases parts with
  | nil => exact ends
  | cons part later => rfl

/-- The parts behind the first one. -/
theorem leads_later (each : ∀ part ∈ parts, IsLexed part.text part.kinds true)
    (inside : outer ≠ []) (droppable : Droppable key) (ends : rest.head?.any isFlowIndicator) :
    ∃ (further : Nat) (read : List Token) (last : Option KeyStart),
      read.map Token.kind =
          (parts.flatMap (.flowEntry :: ·.kinds)).reverse ++ reversed.map Token.kind ∧
        Droppable last ∧
        Leads (frame.lexer (parts.flatMap (',' :: ·.text) ++ rest) column reversed outer key false)
          (frame.lexer rest further read outer last false) := by
  induction parts generalizing column reversed key with
  | nil => exact ⟨column, reversed, key, rfl, droppable, .refl _⟩
  | cons part later ih =>
      obtain ⟨first, others⟩ := List.forall_mem_cons.mp each
      obtain ⟨middle, partRead, partKey, partKinds, partDroppable, readPart⟩ :=
        first frame (column + 1) _ outer none (later.flatMap (',' :: ·.text) ++ rest) inside
          droppable_none (head?_separated later ends)
      obtain ⟨further, read, last, laterKinds, lastDroppable, readLater⟩ :=
        ih others partDroppable
      refine ⟨further, read, last, ?_, lastDroppable, ?_⟩
      rotate_left
      · rw [List.flatMap_cons, List.append_assoc, List.cons_append]
        apply (leads_comma inside droppable _).trans
        exact readPart.trans readLater
      · rw [laterKinds, partKinds]
        simp

theorem leads_parts (each : ∀ part ∈ parts, IsLexed part.text part.kinds true)
    (inside : outer ≠ []) (ends : rest.head?.any isFlowIndicator) (frame : Frame)
    (column : Nat) (reversed : List Token) :
    ∃ (further : Nat) (read : List Token) (last : Option KeyStart) (lastAllowed : Bool),
      read.map Token.kind =
          (separated .flowEntry (parts.map Part.kinds)).reverse ++ reversed.map Token.kind ∧
        Droppable last ∧
        Leads
          (frame.lexer (separated ',' (parts.map Part.text) ++ rest) column reversed outer none
            true)
          (frame.lexer rest further read outer last lastAllowed) := by
  cases parts with
  | nil => exact ⟨column, reversed, none, true, rfl, droppable_none, .refl _⟩
  | cons part later =>
      obtain ⟨first, others⟩ := List.forall_mem_cons.mp each
      obtain ⟨middle, partRead, partKey, partKinds, partDroppable, readPart⟩ :=
        first frame column reversed outer none (later.flatMap (',' :: ·.text) ++ rest) inside
          droppable_none (head?_separated later ends)
      obtain ⟨further, read, last, laterKinds, lastDroppable, readLater⟩ :=
        leads_later others inside partDroppable ends
      refine ⟨further, read, last, false, ?_, lastDroppable, ?_⟩
      rotate_left
      · rw [List.map_cons, separated, List.append_assoc, List.flatMap_map]
        exact readPart.trans readLater
      · rw [laterKinds, partKinds]
        simp [separated, List.flatMap_map]

theorem leads_collection (each : ∀ part ∈ parts, IsLexed part.text part.kinds true)
    (collection : Collection) (holds : frame.Holds outer column) (droppable : Droppable key)
    (rest : List Char) (reversed : List Token) (allowed : Bool) :
    ∃ (further : Nat) (read : List Token),
      read.map Token.kind =
          (collection.startKind ::
            separated .flowEntry (parts.map Part.kinds) ++ [collection.endKind]).reverse
            ++ reversed.map Token.kind ∧
        Leads
          (frame.lexer
            (collection.opening :: separated ',' (parts.map Part.text)
              ++ collection.closing :: rest)
            column reversed outer key allowed)
          (frame.lexer rest further read outer (frame.saved column reversed key allowed)
            false) := by
  have inside : frame.saved column reversed key allowed :: outer ≠ [] := List.cons_ne_nil _ _
  have ends : (collection.closing :: rest).head?.any isFlowIndicator := by
    cases collection <;> rfl
  let start : Token :=
    ⟨collection.startKind, ⟨frame.line, column⟩, ⟨frame.line, column + 1⟩⟩
  obtain ⟨further, read, last, lastAllowed, kindsRead, lastDroppable, readParts⟩ :=
    leads_parts each inside ends frame (column + 1) (start :: reversed)
  let finish : Token :=
    ⟨collection.endKind, ⟨frame.line, further⟩, ⟨frame.line, further + 1⟩⟩
  refine ⟨further + 1, finish :: read, ?_, ?_⟩
  · rw [List.map_cons, kindsRead]
    simp [start, finish]
  · apply (leads_opening holds droppable collection _).trans
    exact readParts.trans (leads_closing lastDroppable collection rest)

theorem isLexed_collection (each : ∀ part ∈ parts, IsLexed part.text part.kinds true)
    (collection : Collection) (allowed : Bool) :
    IsLexed (collection.opening :: separated ',' (parts.map Part.text) ++ [collection.closing])
      (collection.startKind :: separated .flowEntry (parts.map Part.kinds)
        ++ [collection.endKind]) allowed := by
  intro frame column reversed outer key rest inside droppable ends
  obtain ⟨further, read, kindsRead, readAll⟩ :=
    leads_collection each collection (.inl inside : frame.Holds outer column) droppable rest
      reversed allowed
  refine ⟨further, read, frame.saved column reversed key allowed, kindsRead,
    droppable_saved droppable, ?_⟩
  rw [List.append_assoc, List.singleton_append]
  exact readAll

end Lexer

/-- Whether a JSON value can stand on one line: its texts are printable, and its keys are
short enough to be found when the colon behind them is met. -/
inductive IsInline : Json → Prop where
  | null : IsInline .null
  | text {value : String} (printable : AllPrintable value) : IsInline (.text value)
  | list {items : List Json} (each : ∀ item ∈ items, IsInline item) : IsInline (.list items)
  | object {fields : List (String × Json)}
      (printable : ∀ field ∈ fields, AllPrintable field.1)
      (short : ∀ field ∈ fields, (Json.quote field.1).length ≤ 1024)
      (each : ∀ field ∈ fields, IsInline field.2) : IsInline (.object fields)

/-- An item of a list as a part of it. -/
def itemPart (item : Json) : Lexer.Part :=
  ⟨item.write, tokenKinds item⟩

/-- A field of an object as a part of it. -/
def fieldPart (field : String × Json) : Lexer.Part :=
  ⟨Json.quote field.1 ++ ':' :: field.2.write, fieldKinds field⟩

theorem isLexed_fieldParts {fields : List (String × Json)}
    (printable : ∀ field ∈ fields, AllPrintable field.1)
    (short : ∀ field ∈ fields, (Json.quote field.1).length ≤ 1024)
    (lexed : ∀ field ∈ fields, Lexer.IsLexed field.2.write (tokenKinds field.2) false) :
    ∀ part ∈ fields.map fieldPart, Lexer.IsLexed part.text part.kinds true := by
  intro part member
  obtain ⟨field, listed, rfl⟩ := List.mem_map.mp member
  exact Lexer.isLexed_field (printable field listed) (short field listed) (lexed field listed)

theorem isLexed_write {json : Json} (inline : IsInline json) (allowed : Bool) :
    Lexer.IsLexed json.write (tokenKinds json) allowed := by
  induction inline generalizing allowed with
  | null => exact Lexer.isLexed_null
  | text printable => exact Lexer.isLexed_text printable
  | @list items each ih =>
      have lexed : ∀ part ∈ items.map itemPart, Lexer.IsLexed part.text part.kinds true := by
        intro part member
        obtain ⟨item, listed, rfl⟩ := List.mem_map.mp member
        exact ih item listed true
      have whole := Lexer.isLexed_collection lexed .sequence allowed
      rw [List.map_map, List.map_map] at whole
      rw [Json.write, Json.writeItems_eq, tokenKinds]
      exact whole
  | object printable short each ih =>
      have lexed := isLexed_fieldParts printable short fun field listed => ih field listed false
      have whole := Lexer.isLexed_collection lexed .mapping allowed
      rw [List.map_map, List.map_map] at whole
      rw [Json.write, Json.writeFields_eq, tokenKinds_object]
      exact whole

/-- An object on one line is a stream of its tokens. -/
theorem tokens?_write {fields : List (String × Json)} (inline : IsInline (.object fields)) :
    ∃ tokens, tokens? (Json.object fields).write = some tokens ∧
      tokens.map Token.kind = tokenKinds (.object fields) ++ [.streamEnd] := by
  cases inline with
  | object printable short each =>
      have lexed := isLexed_fieldParts printable short fun field listed =>
        isLexed_write (each field listed) false
      have holds : Lexer.Frame.Holds ⟨0, -1, []⟩ [] 0 := .inr (by decide)
      obtain ⟨further, read, kindsRead, leads⟩ :=
        Lexer.leads_collection lexed .mapping holds Lexer.droppable_none [] [] true
      obtain ⟨ends, endKinds, tokens⟩ :=
        Lexer.tokens?_of_leads leads .outside (Lexer.droppable_saved Lexer.droppable_none)
      rw [List.map_map] at kindsRead tokens
      refine ⟨read.reverse ++ ends, ?_, ?_⟩
      · rw [Json.write, Json.writeFields_eq]
        exact tokens
      · rw [tokenKinds_object, List.map_append, List.map_reverse, kindsRead, endKinds,
          List.map_nil, List.append_nil, List.reverse_reverse]
        rfl

end ProfileShell.Yaml
