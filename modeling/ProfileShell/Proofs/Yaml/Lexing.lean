import ProfileShell.Proofs.Yaml.Quotation
import ProfileShell.Yaml.Lexer

/-!
# Runs of the lexer

The way of the lexer through a source, told as steps from one state to the next.  As long as
the line and the open blocks stay the same, a state is known by what is ahead of the cursor,
the tokens so far and the places where keys may have started.  At the end of the source
every open block is closed.
-/

namespace ProfileShell.Yaml.Lexer

open Text (IsPrintable)

/-- A lexer comes to another state after some of the characters ahead of it. -/
def Leads (before after : Lexer) : Prop :=
  ∃ steps, steps + after.cursor.rest.length ≤ before.cursor.rest.length ∧
    ∀ rounds, before.run (rounds + steps) = after.run rounds

variable {before between after : Lexer}

theorem Leads.refl (lexer : Lexer) : Leads lexer lexer :=
  ⟨0, by simp, fun _ => rfl⟩

theorem Leads.trans (first : Leads before between) (second : Leads between after) :
    Leads before after := by
  obtain ⟨steps, fewer, run⟩ := first
  obtain ⟨furtherSteps, stillFewer, furtherRun⟩ := second
  refine ⟨furtherSteps + steps, by omega, fun rounds => ?_⟩
  rw [← Nat.add_assoc, run, furtherRun]

/-- What no token changes as long as the line and the blocks stay the same. -/
structure Frame where
  line : Nat
  indent : Int
  indents : List Int

variable {frame : Frame} {rest : List Char} {column : Nat} {reversed : List Token}
variable {outer : List (Option KeyStart)} {key : Option KeyStart} {allowed : Bool} {level : Int}

/-- The lexer at a column of its line. -/
def Frame.lexer (frame : Frame) (rest : List Char) (column : Nat) (reversed : List Token)
    (outer : List (Option KeyStart)) (key : Option KeyStart) (allowed : Bool) : Lexer :=
  { cursor := ⟨rest, ⟨frame.line, column⟩⟩
    reversed := reversed
    count := reversed.length
    indent := frame.indent
    indents := frame.indents
    keyStart := key
    outerKeys := outer
    keyAllowed := allowed }

/-- Whether a token at a column belongs to the open blocks: inside a flow collection, or to
the right of the innermost block. -/
def Frame.Holds (frame : Frame) (outer : List (Option KeyStart)) (column : Nat) : Prop :=
  outer ≠ [] ∨ frame.indent < (column : Int)

/-- Whether a possible key may be forgotten. -/
def Droppable (key : Option KeyStart) : Prop :=
  ∀ start ∈ key, start.required = false

/-- The possible key once a token stands there that may start one. -/
def Frame.saved (frame : Frame) (column : Nat) (reversed : List Token)
    (key : Option KeyStart) (allowed : Bool) : Option KeyStart :=
  if allowed then some ⟨false, reversed.length, ⟨frame.line, column⟩⟩ else key

theorem droppable_none : Droppable none := nofun

theorem droppable_saved (droppable : Droppable key) :
    Droppable (frame.saved column reversed key allowed) := by
  unfold Frame.saved
  split
  · intro start isStart
    cases isStart
    rfl
  · exact droppable

/-! ## One token -/

theorem closeBlocks_lexer (within : outer ≠ [] ∨ frame.indent ≤ level) (rest : List Char)
    (column : Nat) (reversed : List Token) (key : Option KeyStart) (allowed : Bool) :
    (frame.lexer rest column reversed outer key allowed).closeBlocks level =
      frame.lexer rest column reversed outer key allowed := by
  unfold closeBlocks
  split
  · rfl
  · next outside =>
      rcases within with inside | notDeeper
      · simp [inFlow, Frame.lexer, inside] at outside
      · simp only [Frame.lexer]
        cases frame.indents with
        | nil => rfl
        | cons further others => rw [closeBlocks.go, if_neg (Int.not_lt.mpr notDeeper)]

theorem dropKey?_lexer (droppable : Droppable key) :
    (frame.lexer rest column reversed outer key allowed).dropKey? =
      some (frame.lexer rest column reversed outer none allowed) := by
  cases key with
  | none => rfl
  | some start => simp [dropKey?, Frame.lexer, droppable start rfl]

theorem saveKey?_lexer (holds : frame.Holds outer column) (droppable : Droppable key) :
    (frame.lexer rest column reversed outer key allowed).saveKey? =
      some (frame.lexer rest column reversed outer
        (frame.saved column reversed key allowed) allowed) := by
  have notRequired :
      (!(frame.lexer rest column reversed outer key allowed).inFlow &&
        frame.indent == (column : Int)) = false := by
    rcases holds with inside | deeper
    · simp [inFlow, Frame.lexer, inside]
    · simp [Int.ne_of_lt deeper]
  cases allowed with
  | false => rfl
  | true =>
      rw [saveKey?, dropKey?_lexer droppable]
      simp only [Frame.lexer] at notRequired ⊢
      simp [notRequired, Frame.saved]

/-- A possible key on the same line can be found from the next 1024 columns. -/
theorem reachableKey?_lexer {start : Nat} (near : column ≤ start + 1024) (count : Nat)
    (rest : List Char) (reversed : List Token) (outer : List (Option KeyStart))
    (allowed : Bool) :
    (frame.lexer rest column reversed outer (some ⟨false, count, ⟨frame.line, start⟩⟩)
      allowed).reachableKey? = some ⟨false, count, ⟨frame.line, start⟩⟩ := by
  simp [reachableKey?, Frame.lexer, Option.filter, near]

theorem take_lexer {character : Char} (printable : IsPrintable character)
    (kind : Token.Kind) :
    (frame.lexer (character :: rest) column reversed outer key allowed).take 1 kind =
      frame.lexer rest (column + 1)
        (⟨kind, ⟨frame.line, column⟩, ⟨frame.line, column + 1⟩⟩ :: reversed) outer key
        allowed := by
  simp [Frame.lexer, take, emit, Cursor.skipMany, Cursor.skip,
    Mark.after_of_printable printable]

theorem toNextToken_visible {character : Char} (printable : IsPrintable character)
    (visible : character ≠ ' ') (noComment : character ≠ '#') (flow : Bool) (mark : Mark) :
    toNextToken flow allowed false mark (character :: rest) =
      (⟨character :: rest, mark⟩, allowed) := by
  have tab := printable.ne_of_lt '\t' (by decide)
  have byteOrderMark := printable.ne_of_gt '\uFEFF' (by decide)
  simp [toNextToken, isBreak_of_printable printable, visible, noComment, tab, byteOrderMark]

theorem Leads.of_token? {character : Char} (within : outer ≠ [] ∨ frame.indent ≤ (column : Int))
    (printable : IsPrintable character) (visible : character ≠ ' ') (noComment : character ≠ '#')
    (read : (frame.lexer (character :: rest) column reversed outer key allowed).token?
      character rest = some after)
    (shorter : after.cursor.rest.length ≤ rest.length) :
    Leads (frame.lexer (character :: rest) column reversed outer key allowed) after := by
  refine ⟨1, ?_, fun rounds => ?_⟩
  · simp only [Frame.lexer, List.length_cons]
    omega
  · have next (flow : Bool) : toNextToken flow allowed false ⟨frame.line, column⟩
        (character :: rest) = _ :=
      toNextToken_visible printable visible noComment flow _
    have closed := closeBlocks_lexer within (character :: rest) column reversed key allowed
    rw [run]
    simp only [Frame.lexer] at next closed read ⊢
    rw [next]
    dsimp only
    rw [closed, read]

theorem Frame.Holds.within (holds : frame.Holds outer column) :
    outer ≠ [] ∨ frame.indent ≤ (column : Int) :=
  holds.imp_right Int.le_of_lt

/-! ## Gaps -/

theorem Leads.of_toNextToken (lexer : Lexer) {cursor : Cursor} {allowed : Bool}
    (same : toNextToken lexer.inFlow lexer.keyAllowed false lexer.cursor.mark lexer.cursor.rest =
      toNextToken lexer.inFlow allowed false cursor.mark cursor.rest)
    (shorter : cursor.rest.length ≤ lexer.cursor.rest.length) :
    Leads lexer { lexer with cursor := cursor, keyAllowed := allowed } := by
  refine ⟨0, by rwa [Nat.zero_add], fun rounds => ?_⟩
  cases rounds with
  | zero => rfl
  | succ rounds =>
      rw [Nat.add_zero, run, run, same]
      rfl

theorem leads_space (rest : List Char) :
    Leads (frame.lexer (' ' :: rest) column reversed outer key allowed)
      (frame.lexer rest (column + 1) reversed outer key allowed) := by
  apply Leads.of_toNextToken (frame.lexer (' ' :: rest) column reversed outer key allowed)
  · rw [Frame.lexer, toNextToken]
    rfl
  · exact Nat.le_succ _

theorem leads_indentation (width : Nat) (rest : List Char) :
    Leads (frame.lexer (List.replicate width ' ' ++ rest) column reversed outer key allowed)
      (frame.lexer rest (column + width) reversed outer key allowed) := by
  induction width generalizing column with
  | zero => exact .refl _
  | succ width ih =>
      rw [List.replicate_succ, List.cons_append, Nat.add_comm width, ← Nat.add_assoc]
      exact (leads_space _).trans ih

/-- A key may start on a new line. -/
theorem leads_lineFeed (rest : List Char) :
    Leads (frame.lexer ('\n' :: rest) column reversed [] key allowed)
      ({ frame with line := frame.line + 1 }.lexer rest 0 reversed [] key true) := by
  apply Leads.of_toNextToken (frame.lexer ('\n' :: rest) column reversed [] key allowed)
  · rw [Frame.lexer, toNextToken]
    simp [isBreak, inFlow, Mark.after]
  · exact Nat.le_succ _

theorem leads_nextLine (width : Nat) (rest : List Char) :
    Leads
      (frame.lexer ('\n' :: (List.replicate width ' ' ++ rest)) column reversed [] key allowed)
      ({ frame with line := frame.line + 1 }.lexer rest width reversed [] key true) := by
  apply (leads_lineFeed _).trans
  apply (leads_indentation width rest).trans
  rw [Nat.zero_add]
  exact .refl _

/-! ## The end of the source -/

/-- The columns of the open blocks, which grow from the outermost to the innermost. -/
inductive Nested : Int → List Int → Prop where
  | outside : Nested (-1) []
  | inside {column : Nat} {outer : Int} {further : List Int} (deeper : outer < column)
      (nested : Nested outer further) : Nested column (outer :: further)

/-- The tokens that close blocks. -/
def AllBlockEnds (tokens : List Token) : Prop :=
  ∀ token ∈ tokens, token.kind = .blockEnd

/-- Some of the open blocks are closed, all of them at a level below every column. -/
theorem closeBlocks_go {indent : Int} {indents : List Int} (nested : Nested indent indents)
    (line : Nat) (level : Int) (rest : List Char) (column : Nat) (reversed : List Token)
    (key : Option KeyStart) (allowed : Bool) :
    ∃ (ends : List Token) (left : Int) (lefts : List Int),
      AllBlockEnds ends ∧ ends.length + lefts.length = indents.length ∧ Nested left lefts ∧
        (level < 0 → lefts = []) ∧
        closeBlocks.go level
            (Frame.lexer ⟨line, indent, indents⟩ rest column reversed [] key allowed) indents =
          Frame.lexer ⟨line, left, lefts⟩ rest column (ends ++ reversed) [] key allowed := by
  induction nested generalizing reversed with
  | outside =>
      exact ⟨[], -1, [], nofun, rfl, .outside, fun _ => rfl, rfl⟩
  | @inside blockColumn outer further deeper nested ih =>
      rw [closeBlocks.go]
      split
      case isTrue =>
        let last : Token := ⟨.blockEnd, ⟨line, column⟩, ⟨line, column⟩⟩
        obtain ⟨ends, left, lefts, allEnds, count, leftNested, all, closed⟩ :=
          ih (last :: reversed)
        refine ⟨ends ++ [last], left, lefts, ?_, ?_, leftNested, all, ?_⟩
        · intro token member
          rcases List.mem_append.mp member with later | first
          · exact allEnds token later
          · rw [List.mem_singleton.mp first]
        · simp only [List.length_append, List.length_cons, List.length_nil]
          omega
        · rw [List.append_assoc, List.singleton_append]
          exact closed
      case isFalse kept =>
        refine ⟨[], blockColumn, outer :: further, nofun, Nat.zero_add _, .inside deeper nested,
          ?_, rfl⟩
        intro below
        have shallow : ¬ level < (blockColumn : Int) := kept
        omega

theorem closeBlocks_nested (nested : Nested frame.indent frame.indents) (level : Int)
    (rest : List Char) (column : Nat) (reversed : List Token) (key : Option KeyStart)
    (allowed : Bool) :
    ∃ (ends : List Token) (closed : Frame),
      AllBlockEnds ends ∧ ends.length + closed.indents.length = frame.indents.length ∧
        closed.line = frame.line ∧ Nested closed.indent closed.indents ∧
        (level < 0 → closed.indents = []) ∧
        (frame.lexer rest column reversed [] key allowed).closeBlocks level =
          closed.lexer rest column (ends ++ reversed) [] key allowed := by
  obtain ⟨ends, left, lefts, allEnds, count, leftNested, all, closed⟩ :=
    closeBlocks_go nested frame.line level rest column reversed key allowed
  exact ⟨ends, ⟨frame.line, left, lefts⟩, allEnds, count, rfl, leftNested, all, closed⟩

/-- At the end the cursor moves to the start of a line. -/
theorem finish?_lexer (nested : Nested frame.indent frame.indents) (droppable : Droppable key)
    (column : Nat) (reversed : List Token) (allowed : Bool) :
    ∃ ends : List Token,
      ends.map Token.kind = List.replicate frame.indents.length .blockEnd ++ [.streamEnd] ∧
        (frame.lexer [] column reversed [] key allowed).finish? =
          some (reversed.reverse ++ ends) := by
  let last : Mark := if column = 0 then ⟨frame.line, column⟩ else ⟨frame.line + 1, 0⟩
  let moved : Frame := { frame with line := last.line }
  have movedNested : Nested moved.indent moved.indents := nested
  obtain ⟨ends, closed, allEnds, count, _, _, all, closedBlocks⟩ :=
    closeBlocks_nested movedNested (-1) [] last.column reversed key allowed
  have empty : closed.indents = [] := all (by decide)
  have level : (moved.lexer [] last.column reversed [] key allowed).atDocumentLevel? =
      some (closed.lexer [] last.column (ends ++ reversed) [] none false) := by
    rw [atDocumentLevel?, closedBlocks, dropKey?_lexer droppable]
    rfl
  have finished : (frame.lexer [] column reversed [] key allowed).finish? =
      (moved.lexer [] last.column reversed [] key allowed).atDocumentLevel?.map fun cleared =>
        (cleared.emit .streamEnd last last).reversed.reverse := rfl
  refine ⟨ends.reverse ++ [⟨.streamEnd, last, last⟩], ?_, ?_⟩
  · rw [empty, List.length_nil, Nat.add_zero] at count
    rw [List.map_append, List.map_reverse, List.map_eq_replicate_iff.mpr allEnds, count,
      List.reverse_replicate]
    rfl
  · rw [finished, level]
    simp [emit, Frame.lexer]

theorem run_end (nested : Nested frame.indent frame.indents) (droppable : Droppable key)
    (column : Nat) (reversed : List Token) (allowed : Bool) :
    ∃ ends : List Token,
      ends.map Token.kind = List.replicate frame.indents.length .blockEnd ++ [.streamEnd] ∧
        ∀ rounds, (frame.lexer [] column reversed [] key allowed).run (rounds + 1) =
          some (reversed.reverse ++ ends) := by
  obtain ⟨first, closed, allEnds, count, _, closedNested, _, closedBlocks⟩ :=
    closeBlocks_nested nested column [] column reversed key allowed
  obtain ⟨later, kinds, finished⟩ :=
    finish?_lexer closedNested droppable column (first ++ reversed) allowed
  refine ⟨first.reverse ++ later, ?_, fun rounds => ?_⟩
  · rw [List.map_append, List.map_reverse, List.map_eq_replicate_iff.mpr allEnds, kinds,
      List.reverse_replicate, ← List.append_assoc, List.replicate_append_replicate, count]
  · rw [run, ← List.append_assoc, ← List.reverse_append, ← finished]
    exact congrArg finish? closedBlocks

/-- The tokens of a source are those on the way to its end and the ends of the blocks that
are open there. -/
theorem tokens?_of_leads {source : List Char}
    (leads : Leads (start source) (frame.lexer [] column reversed [] key allowed))
    (nested : Nested frame.indent frame.indents) (droppable : Droppable key) :
    ∃ ends : List Token,
      ends.map Token.kind = List.replicate frame.indents.length .blockEnd ++ [.streamEnd] ∧
        tokens? source = some (reversed.reverse ++ ends) := by
  obtain ⟨steps, fewer, run⟩ := leads
  obtain ⟨ends, kinds, ended⟩ := run_end nested droppable column reversed allowed
  have enough : source.length + 1 = source.length - steps + 1 + steps := by
    simp only [start] at fewer
    omega
  refine ⟨ends, kinds, ?_⟩
  rw [tokens?, enough, run, ended]

end ProfileShell.Yaml.Lexer
