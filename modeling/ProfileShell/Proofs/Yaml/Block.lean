import ProfileShell.Proofs.Yaml.Flow

/-!
# Tokens of block collections

What the lexer makes of a file that is laid out in lines.  A key with its colon on a line
that is indented further opens a block mapping, and a line with a dash in the column of the
key is an item of its value.
-/

namespace ProfileShell.Yaml.Lexer

open Text (IsPrintable)

variable {frame : Frame} {rest name : List Char} {column : Nat} {reversed : List Token}
variable {key : Option KeyStart} {word ending : List Char} {width : Nat}

theorem outside : (!([] : List (Option KeyStart)).isEmpty) = false := rfl

/-! ## Keys -/

/-- What a block mapping in a column leaves open around it. -/
def Frame.inner (frame : Frame) (column : Nat) : Frame :=
  ⟨frame.line, column, frame.indent :: frame.indents⟩

/-- The tokens of a key that opens a block mapping. -/
def keyKinds (name : List Char) : List Token.Kind :=
  [.blockMappingStart, .key, .scalar true (String.ofList name), .value]

theorem token?_blockColon (ends : atWordEnd rest = true) (lexer : Lexer) :
    lexer.token? ':' rest = lexer.value? := by
  simp [token?, atDocumentMarker, ends]

/-- A colon makes a key of the text in front of it, and the key opens a block mapping. -/
theorem leads_blockColon {start : Nat} (deeper : frame.indent < (start : Int))
    (behind : start ≤ column) (near : column ≤ start + 1024) (ends : atWordEnd rest = true)
    (token : Token) (reversed : List Token) :
    Leads
      (frame.lexer (':' :: rest) column (token :: reversed) []
        (some ⟨false, reversed.length, ⟨frame.line, start⟩⟩) false)
      ((frame.inner start).lexer rest (column + 1)
        (⟨.value, ⟨frame.line, column⟩, ⟨frame.line, column + 1⟩⟩ :: token ::
          ⟨.key, ⟨frame.line, start⟩, ⟨frame.line, start⟩⟩ ::
          ⟨.blockMappingStart, ⟨frame.line, start⟩, ⟨frame.line, start⟩⟩ :: reversed)
        [] none false) := by
  have printable : IsPrintable ':' := by decide
  apply Leads.of_token? (.inr (by omega)) printable (by decide) (by decide)
  · have opens : ¬ (start : Int) ≤ frame.indent := by omega
    have twoBack : reversed.length + 1 + 1 - reversed.length = 2 := by omega
    rw [token?_blockColon ends, value?, reachableKey?_lexer near]
    simp [Frame.lexer, Frame.inner, insert, openBlock, inFlow, opens, twoBack, take, emit,
      Cursor.skipMany, Cursor.skip, Mark.after_of_printable printable]
  · exact Nat.le_refl _

theorem leads_blockKey (word : isWord name = true) (short : name.length ≤ 1024)
    (deeper : frame.indent < (column : Int)) (ends : atWordEnd rest = true)
    (reversed : List Token) :
    ∃ read : List Token,
      read.map Token.kind = (keyKinds name).reverse ++ reversed.map Token.kind ∧
        Leads (frame.lexer (name ++ ':' :: rest) column reversed [] none true)
          ((frame.inner column).lexer rest (column + name.length + 1) read [] none false) := by
  have read : plain false (frame.indent + 1) none name.reverse
      ⟨frame.line, column + name.length⟩ (':' :: rest) =
        some ⟨name, ⟨':' :: rest, ⟨frame.line, column + name.length⟩⟩, false⟩ := by
    rw [plain_colon ends, List.reverse_reverse]
  have noMarker : atDocumentMarker (name ++ ':' :: rest) = false :=
    atDocumentMarker_word word (by decide) (by decide) rest
  let token : Token := ⟨.scalar true (String.ofList name), ⟨frame.line, column⟩,
    ⟨frame.line, column + name.length⟩⟩
  have plainRead : Leads (frame.lexer (name ++ ':' :: rest) column reversed [] none true)
      (frame.lexer (':' :: rest) (column + name.length) (token :: reversed) []
        (some ⟨false, reversed.length, ⟨frame.line, column⟩⟩) false) :=
    leads_plain outside word (.inr deeper) droppable_none (fun _ => noMarker) read
      (Nat.le_refl _)
  have near : column + name.length ≤ column + 1024 := Nat.add_le_add_left short column
  have colonRead :=
    leads_blockColon deeper (Nat.le_add_right column name.length) near ends token reversed
  exact ⟨_, rfl, plainRead.trans colonRead⟩

/-- Keys below a key in column `width`, each of them on a line of its own that is indented by
two more columns than the line before. -/
def keyLines : Nat → List (List Char) → List Char
  | _, [] => []
  | width, name :: inner =>
    '\n' :: (List.replicate (width + 2) ' ' ++ (name ++ ':' :: keyLines (width + 2) inner))

theorem atWordEnd_keyLines {names : List (List Char)} (ends : atWordEnd rest = true)
    (width : Nat) : atWordEnd (keyLines width names ++ rest) = true := by
  cases names with
  | nil => exact ends
  | cons name inner => rfl

theorem leads_keyLines {names : List (List Char)} {width : Nat}
    (words : ∀ name ∈ names, isWord name = true) (short : ∀ name ∈ names, name.length ≤ 1024)
    (ends : atWordEnd rest = true) (inColumn : frame.indent = (width : Int))
    (nested : Nested frame.indent frame.indents) (behind : width < column)
    (reversed : List Token) :
    ∃ (inner : Frame) (further : Nat) (read : List Token),
      inner.indent = ((width + 2 * names.length : Nat) : Int) ∧
        width + 2 * names.length < further ∧
        inner.indents.length = frame.indents.length + names.length ∧
        Nested inner.indent inner.indents ∧
        read.map Token.kind = (names.flatMap keyKinds).reverse ++ reversed.map Token.kind ∧
        Leads (frame.lexer (keyLines width names ++ rest) column reversed [] none false)
          (inner.lexer rest further read [] none false) := by
  induction names generalizing frame width column reversed with
  | nil => exact ⟨frame, column, reversed, inColumn, behind, rfl, nested, rfl, .refl _⟩
  | cons name names ih =>
      obtain ⟨word, otherWords⟩ := List.forall_mem_cons.mp words
      obtain ⟨nameShort, othersShort⟩ := List.forall_mem_cons.mp short
      let next : Frame := ⟨frame.line + 1, frame.indent, frame.indents⟩
      have deeper : next.indent < ((width + 2 : Nat) : Int) := by
        simp only [next]
        omega
      obtain ⟨between, keyRead, leads⟩ :=
        leads_blockKey word nameShort deeper (atWordEnd_keyLines ends (width + 2)) reversed
      -- The key opens a block of its own, so the keys below it are read in a deeper frame.
      have innerBehind : width + 2 < width + 2 + name.length + 1 := by omega
      obtain ⟨inner, further, read, innerIndent, valueBehind, count, innerNested, kinds,
          innerLeads⟩ :=
        ih otherWords othersShort (rfl : (next.inner (width + 2)).indent = _)
          (.inside deeper nested) innerBehind between
      refine ⟨inner, further, read, ?_, ?_, ?_, innerNested, ?_, ?_⟩
      · rw [innerIndent, List.length_cons]
        omega
      · rw [List.length_cons]
        omega
      · rw [count, List.length_cons]
        simp only [next, Frame.inner, List.length_cons]
        omega
      · rw [kinds, keyRead]
        simp
      · rw [keyLines, List.cons_append, List.append_assoc, List.append_assoc, List.cons_append]
        exact (leads_nextLine (width + 2) _).trans (leads.trans innerLeads)

/-! ## The way to the end of a source -/

/-- Whether the tokens up to the end of the source are of some kinds, and the blocks that
are open stay open until there. -/
def ReachesEnd (lexer : Lexer) (kinds : List Token.Kind) : Prop :=
  ∃ (line column : Nat) (read : List Token) (last : Option KeyStart) (allowed : Bool),
    read.map Token.kind = kinds.reverse ++ lexer.reversed.map Token.kind ∧ Droppable last ∧
      Leads lexer
        (Frame.lexer ⟨line, lexer.indent, lexer.indents⟩ [] column read [] last allowed)

theorem ReachesEnd.behind {line further : Nat} {text : List Char} {before : Lexer}
    {read : List Token} {last : Option KeyStart} {allowed : Bool}
    {kinds laterKinds : List Token.Kind}
    (reaches : ReachesEnd
      (Frame.lexer ⟨line, before.indent, before.indents⟩ text further read [] last allowed)
      laterKinds)
    (leads : Leads before
      (Frame.lexer ⟨line, before.indent, before.indents⟩ text further read [] last allowed))
    (readKinds : read.map Token.kind = kinds.reverse ++ before.reversed.map Token.kind) :
    ReachesEnd before (kinds ++ laterKinds) := by
  obtain ⟨finalLine, column, final, finalKey, finalAllowed, finalKinds, droppable, finalLeads⟩ :=
    reaches
  refine ⟨finalLine, column, final, finalKey, finalAllowed, ?_, droppable,
    leads.trans finalLeads⟩
  simp only [Frame.lexer] at finalKinds
  rw [finalKinds, readKinds, List.reverse_append, List.append_assoc]

theorem reachesEnd_ending (isEnding : IsEnding ending) (droppable : Droppable key)
    (column : Nat) (reversed : List Token) (allowed : Bool) :
    ReachesEnd (frame.lexer ending column reversed [] key allowed) [] := by
  rcases isEnding with rfl | rfl
  · exact ⟨frame.line, column, reversed, key, allowed, rfl, droppable, .refl _⟩
  · exact ⟨frame.line + 1, 0, reversed, key, true, rfl, droppable, leads_lineFeed []⟩

/-! ## Items -/

theorem token?_dash (lexer : Lexer) (rest : List Char) :
    lexer.token? '-' (' ' :: rest) = lexer.blockEntry? := by
  simp [token?, atDocumentMarker, atWordEnd, isGap]

/-- A dash in the column of the mapping around it, and the space behind it. -/
theorem leads_dash (inColumn : frame.indent = (column : Int)) (droppable : Droppable key)
    (rest : List Char) (reversed : List Token) :
    Leads (frame.lexer ('-' :: ' ' :: rest) column reversed [] key true)
      (frame.lexer rest (column + 2)
        (⟨.blockEntry, ⟨frame.line, column⟩, ⟨frame.line, column + 1⟩⟩ :: reversed) [] none
        true) := by
  have printable : IsPrintable '-' := by decide
  have entered : blockEntry? (frame.lexer ('-' :: ' ' :: rest) column reversed [] key true) =
      some (frame.lexer (' ' :: rest) (column + 1)
        (⟨.blockEntry, ⟨frame.line, column⟩, ⟨frame.line, column + 1⟩⟩ :: reversed) [] none
        true) := by
    have opened : (frame.lexer ('-' :: ' ' :: rest) column reversed [] key true).openBlock none
        .blockSequenceStart ⟨frame.line, column⟩ =
          frame.lexer ('-' :: ' ' :: rest) column reversed [] key true :=
      if_pos (.inr (Int.le_of_eq inColumn.symm))
    have mark : (frame.lexer ('-' :: ' ' :: rest) column reversed [] key true).cursor.mark =
        ⟨frame.line, column⟩ := rfl
    rw [ blockEntry?, if_neg (by simp [Frame.lexer]), mark, opened, dropKey?_lexer droppable,
      Option.map_some, take_lexer printable]
    rfl
  apply Leads.trans _ (leads_space rest)
  apply Leads.of_token? (.inr (Int.le_of_eq inColumn)) printable (by decide) (by decide)
  · rw [token?_dash, entered]
  · exact Nat.le_refl _

/-- A word as an item. -/
def itemKinds (word : List Char) : List Token.Kind :=
  [.blockEntry, .scalar true (String.ofList word)]

def itemText (word : List Char) : List Char :=
  '-' :: ' ' :: word

theorem leads_item {remaining : List Char} {finish : Mark} {broken : Bool}
    (isWord : isWord word = true) (inColumn : frame.indent = (width : Int))
    (droppable : Droppable key)
    (ends : plain false (frame.indent + 1) none word.reverse
      ⟨frame.line, width + 2 + word.length⟩ rest = some ⟨word, ⟨remaining, finish⟩, broken⟩)
    (shorter : remaining.length ≤ rest.length) (reversed : List Token) :
    ∃ (read : List Token) (last : Option KeyStart),
      read.map Token.kind = (itemKinds word).reverse ++ reversed.map Token.kind ∧
        Droppable last ∧
        Leads (frame.lexer (itemText word ++ rest) width reversed [] key true)
          (Frame.lexer ⟨finish.line, frame.indent, frame.indents⟩ remaining finish.column read []
            last broken) := by
  let dash : Token := ⟨.blockEntry, ⟨frame.line, width⟩, ⟨frame.line, width + 1⟩⟩
  let token : Token := ⟨.scalar true (String.ofList word), ⟨frame.line, width + 2⟩, finish⟩
  have holds : frame.Holds [] (width + 2) := .inr (by omega)
  refine ⟨token :: dash :: reversed, frame.saved (width + 2) (dash :: reversed) none true, rfl,
    droppable_saved droppable_none, ?_⟩
  apply (leads_dash inColumn droppable _ reversed).trans
  exact leads_plain outside isWord holds droppable_none nofun ends shorter

/-- An item and the indentation of the next one. -/
theorem leads_itemLine (isWord : isWord word = true) (inColumn : frame.indent = (width : Int))
    (droppable : Droppable key) (second rest : List Char) (reversed : List Token) :
    ∃ (read : List Token) (last : Option KeyStart),
      read.map Token.kind = (itemKinds word).reverse ++ reversed.map Token.kind ∧
        Droppable last ∧
        Leads
          (frame.lexer
            (itemText word ++ '\n' :: (List.replicate width ' ' ++ (itemText second ++ rest)))
            width reversed [] key true)
          (Frame.lexer ⟨frame.line + 1, frame.indent, frame.indents⟩ (itemText second ++ rest)
            width read [] last true) := by
  have ends : plain false (frame.indent + 1) none word.reverse
      ⟨frame.line, width + 2 + word.length⟩
        ('\n' :: (List.replicate width ' ' ++ (itemText second ++ rest))) =
          some ⟨word, ⟨itemText second ++ rest, ⟨frame.line + 1, width⟩⟩, true⟩ := by
    rw [itemText, List.cons_append, plain_nextLine (by decide) (by decide) (by omega),
      List.reverse_reverse]
  apply leads_item isWord inColumn droppable ends
  simp only [List.length_cons, List.length_append]
  omega

theorem reachesEnd_item (isWord : isWord word = true) (isEnding : IsEnding ending)
    (inColumn : frame.indent = (width : Int)) (droppable : Droppable key)
    (reversed : List Token) :
    ReachesEnd (frame.lexer (itemText word ++ ending) width reversed [] key true)
      (itemKinds word) := by
  have ends : ∃ (finish : Mark) (broken : Bool),
      plain false (frame.indent + 1) none word.reverse
        ⟨frame.line, width + 2 + word.length⟩ ending =
          some ⟨word.reverse.reverse, ⟨[], finish⟩, broken⟩ :=
    plain_ending isEnding
  obtain ⟨finish, broken, ends⟩ := ends
  rw [List.reverse_reverse] at ends
  obtain ⟨read, last, kinds, lastDroppable, leads⟩ :=
    leads_item isWord inColumn droppable ends (Nat.zero_le _) reversed
  exact ⟨finish.line, finish.column, read, last, broken, kinds, lastDroppable, leads⟩

/-- The lines of a block sequence behind the indentation of the first one. -/
def itemsText (width : Nat) (first : List Char) (later : List (List Char)) : List Char :=
  itemText first ++ later.flatMap fun word => '\n' :: (List.replicate width ' ' ++ itemText word)

theorem reachesEnd_items {first : List Char} {later : List (List Char)}
    (words : ∀ word ∈ first :: later, isWord word = true) (isEnding : IsEnding ending)
    (inColumn : frame.indent = (width : Int)) (droppable : Droppable key)
    (reversed : List Token) :
    ReachesEnd (frame.lexer (itemsText width first later ++ ending) width reversed [] key true)
      ((first :: later).flatMap itemKinds) := by
  obtain ⟨isWord, others⟩ := List.forall_mem_cons.mp words
  induction later generalizing first frame key reversed with
  | nil =>
      have whole : itemsText width first [] ++ ending = itemText first ++ ending := by
        rw [itemsText, List.flatMap_nil, List.append_nil]
      rw [whole, List.flatMap_singleton]
      exact reachesEnd_item isWord isEnding inColumn droppable reversed
  | cons second later ih =>
      have whole : itemsText width first (second :: later) ++ ending =
          itemText first ++ '\n' ::
            (List.replicate width ' ' ++ (itemsText width second later ++ ending)) := by
        simp [itemsText]
      obtain ⟨isSecond, remaining⟩ := List.forall_mem_cons.mp others
      -- The scalar of an item only ends once the dash of the next one is met.
      let rest := (later.flatMap fun word =>
        '\n' :: (List.replicate width ' ' ++ itemText word)) ++ ending
      have text : itemsText width second later ++ ending = itemText second ++ rest :=
        List.append_assoc _ _ _
      obtain ⟨read, possible, kinds, nextDroppable, leads⟩ :=
        leads_itemLine isWord inColumn droppable second rest reversed
      let next : Frame := ⟨frame.line + 1, frame.indent, frame.indents⟩
      have nextInColumn : next.indent = (width : Int) := inColumn
      have reaches := ih others nextInColumn nextDroppable read isSecond remaining
      rw [List.flatMap_cons, whole, text]
      rw [text] at reaches
      exact reaches.behind leads kinds

/-! ## A whole source -/

/-- Whether a text up to the end of a source becomes tokens of some kinds, as the value of a
key in column `width`. -/
def IsLastValue (width : Nat) (text : List Char) (kinds : List Token.Kind) : Prop :=
  ∀ (frame : Frame) (column : Nat) (reversed : List Token), frame.indent = (width : Int) →
    width < column → ReachesEnd (frame.lexer text column reversed [] none false) kinds

/-- The keys on the way to a value, and the value. -/
theorem tokens?_keyLines {outermost value : List Char} {names : List (List Char)}
    {kinds : List Token.Kind} (words : ∀ name ∈ outermost :: names, isWord name = true)
    (short : ∀ name ∈ outermost :: names, name.length ≤ 1024) (ends : atWordEnd value = true)
    (isLast : IsLastValue (2 * names.length) value kinds) :
    ∃ tokens, tokens? (outermost ++ ':' :: (keyLines 0 names ++ value)) = some tokens ∧
      tokens.map Token.kind =
        (outermost :: names).flatMap keyKinds ++ kinds ++
          List.replicate (names.length + 1) .blockEnd ++ [.streamEnd] := by
  obtain ⟨word, otherWords⟩ := List.forall_mem_cons.mp words
  obtain ⟨outermostShort, othersShort⟩ := List.forall_mem_cons.mp short
  let unopened : Frame := ⟨0, -1, []⟩
  have deeper : unopened.indent < ((0 : Nat) : Int) := by decide
  obtain ⟨first, firstKinds, firstLeads⟩ :=
    leads_blockKey word outermostShort deeper (atWordEnd_keyLines ends 0) []
  obtain ⟨inner, column, keys, innerIndent, behind, count, nested, keysKinds, keysLeads⟩ :=
    leads_keyLines otherWords othersShort ends (rfl : (unopened.inner 0).indent = _)
      (.inside deeper .outside) (Nat.succ_pos _) first
  rw [Nat.zero_add] at innerIndent behind
  obtain ⟨line, further, read, last, allowed, readKinds, droppable, leads⟩ :=
    isLast inner column keys innerIndent behind
  obtain ⟨closing, closingKinds, tokens⟩ :=
    tokens?_of_leads (firstLeads.trans (keysLeads.trans leads)) nested droppable
  refine ⟨read.reverse ++ closing, tokens, ?_⟩
  simp only [Frame.lexer] at readKinds closingKinds
  rw [List.map_append, List.map_reverse, readKinds, keysKinds, firstKinds, closingKinds, count]
  simp [unopened, Frame.inner, Nat.add_comm 1]

/-! ## The two ways to list words -/

/-- Words in brackets, with a comma and a space between them. -/
def flowText (first : List Char) (later : List (List Char)) : List Char :=
  ' ' :: '[' :: (first ++ later.flatMap fun word => ',' :: ' ' :: word) ++ [']']

/-- The tokens of a word in a flow collection. -/
def wordKinds (word : List Char) : List Token.Kind :=
  [.scalar true (String.ofList word)]

def flowKinds (words : List (List Char)) : List Token.Kind :=
  .flowSequenceStart :: separated .flowEntry (words.map wordKinds) ++ [.flowSequenceEnd]

/-- A word in brackets as a part of the list. -/
def firstPart (word : List Char) : Part :=
  ⟨word, wordKinds word⟩

/-- The comma in front of a word is followed by a space. -/
def laterPart (word : List Char) : Part :=
  ⟨' ' :: word, wordKinds word⟩

theorem isLexed_wordParts {first : List Char} {later : List (List Char)}
    (words : ∀ word ∈ first :: later, isWord word = true) :
    ∀ part ∈ firstPart first :: later.map laterPart, IsLexed part.text part.kinds true := by
  obtain ⟨isWord, others⟩ := List.forall_mem_cons.mp words
  rw [List.forall_mem_cons, List.forall_mem_map]
  constructor
  · exact isLexed_word isWord
  · intro word listed
    exact isLexed_space (isLexed_word (others word listed))

theorem isLastValue_flowText {first : List Char} {later : List (List Char)}
    (words : ∀ word ∈ first :: later, isWord word = true) (isEnding : IsEnding ending)
    (width : Nat) :
    IsLastValue width (flowText first later ++ ending) (flowKinds (first :: later)) := by
  intro frame column reversed inColumn behind
  let parts : List Part := firstPart first :: later.map laterPart
  have texts : flowText first later ++ ending =
      ' ' :: (Collection.sequence.opening :: separated ',' (parts.map Part.text) ++
        Collection.sequence.closing :: ending) := by
    simp [flowText, parts, separated, firstPart, laterPart, Collection.opening,
      Collection.closing, List.flatMap_map]
  have kinds : parts.map Part.kinds = (first :: later).map wordKinds := by
    simp [parts, firstPart, laterPart]
  have holds : frame.Holds [] (column + 1) := .inr (by omega)
  obtain ⟨further, read, readKinds, leads⟩ :=
    leads_collection (isLexed_wordParts words) .sequence holds droppable_none ending reversed
      false
  rw [kinds] at readKinds
  have reaches : ReachesEnd (frame.lexer ending further read [] none false) [] :=
    reachesEnd_ending isEnding droppable_none further read false
  rw [texts, ← List.append_nil (flowKinds (first :: later))]
  exact reaches.behind ((leads_space _).trans leads) readKinds

/-- A dash on every line, each of them indented like the key. -/
theorem isLastValue_itemsText {first : List Char} {later : List (List Char)}
    (words : ∀ word ∈ first :: later, isWord word = true) (isEnding : IsEnding ending)
    (width : Nat) :
    IsLastValue width
      ('\n' :: (List.replicate width ' ' ++ (itemsText width first later ++ ending)))
      ((first :: later).flatMap itemKinds) := by
  intro frame column reversed inColumn _
  let next : Frame := ⟨frame.line + 1, frame.indent, frame.indents⟩
  have nextInColumn : next.indent = (width : Int) := inColumn
  have reaches := reachesEnd_items words isEnding nextInColumn droppable_none reversed
  rw [← List.nil_append ((first :: later).flatMap itemKinds)]
  exact reaches.behind (leads_nextLine width _) rfl

end ProfileShell.Yaml.Lexer
