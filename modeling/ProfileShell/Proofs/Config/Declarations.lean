import ProfileShell.Proofs.Config.Description
import ProfileShell.Proofs.Yaml.BlockNodes

/-!
# Declarations without quotation marks

A file that declares plain words for a profile, in brackets or one on each line.  Both ways
to write them are the same configuration, and the words in it are the words of the file,
whatever type they look like.
-/

namespace ProfileShell.Config

open Yaml (isWord IsEnding IsPlain ListsPlain HasOnly Below)
open Yaml.Lexer (keyLines flowText flowKinds itemText itemsText itemKinds)

/-- The lines of a file that declares words for the profile `p` in brackets. -/
def flowLines (values : List String) : List String :=
  ["profile:", "  p:", "    env: [" ++ ", ".intercalate values ++ "]"]

/-- The lines of a file that declares words for the profile `p` on lines of their own. -/
def blockLines (values : List String) : List String :=
  ["profile:", "  p:", "    env:"] ++ values.map ("    - " ++ ·)

/-- A configuration with nothing but a profile `p` and its declarations. -/
def declaring (values : List String) : Config :=
  ⟨.empty, ⟨[("p", ⟨none, values, [], []⟩)]⟩⟩

/-! ## The nodes of the file -/

variable {anchors : Anchors} {path : KeyPath} {node : Yaml.Node} {texts : List (List Char)}

private theorem readTextsFrom_of_plain {nodes : List Yaml.Node}
    (plain : List.Forall₂ IsPlain nodes texts) (position : Nat) :
    readTextsFrom anchors path position nodes = pure (texts.map String.ofList) := by
  induction plain generalizing position with
  | nil => rfl
  | cons first _ ih =>
      obtain ⟨mark, rfl⟩ := first
      rw [readTextsFrom, readText_scalar, pure_bind, ih, pure_bind, List.map_cons]

theorem readTexts_of_listsPlain (lists : ListsPlain texts node) :
    readTexts anchors path node = pure (texts.map String.ofList) := by
  obtain ⟨mark, nodes, rfl, plain⟩ := lists
  rw [readTexts, follow_sequence, pure_bind]
  dsimp only
  rw [readTextsFrom_of_plain plain, placing_pure]

theorem readProfile_of_env (only : HasOnly "env" (ListsPlain texts) node) :
    readProfile anchors path node = pure ⟨none, texts.map String.ofList, [], []⟩ := by
  obtain ⟨mark, keyMark, lists⟩ := only
  apply readRecord_of_read
  · simp only [readFields, readText_scalar, pure_bind, profileField, fill, map_pure,
      readTexts_of_listsPlain lists]
    rfl
  · rfl

theorem readCatalog_of_only {α : Type} {name : String} {good : Yaml.Node → Prop} {content : α}
    {value : KeyPath → Yaml.Node → Reading α}
    (reads : ∀ {path : KeyPath} {node : Yaml.Node}, good node → value path node = pure content)
    (only : HasOnly name good node) :
    readCatalog anchors path value node = pure ⟨[(name, content)]⟩ := by
  obtain ⟨mark, keyMark, isGood⟩ := only
  rw [readCatalog, follow_mapping, pure_bind]
  simp only [tagOf, Option.any_none, Bool.false_eq_true, if_false, readEntries, readText_scalar,
    pure_bind, reads isGood, placing_pure]

theorem readConfig_of_below
    (below : Below ["profile".toList, "p".toList, "env".toList] (ListsPlain texts) node) :
    readConfig node = .ok (declaring (texts.map String.ofList)) := by
  obtain ⟨mark, keyMark, profiles⟩ := below
  rw [readConfig, readRecord_of_read]
  · rfl
  · simp only [readFields, readText_scalar, pure_bind, configField, fill, map_pure,
      readCatalog_of_only readProfile_of_env profiles]
    rfl
  · rfl

/-! ## The text of the file -/

variable {first ending : String} {later : List String}

private theorem intercalate_cons {α : Type} (separator first : List α) (later : List (List α)) :
    separator.intercalate (first :: later) = first ++ later.flatMap (separator ++ ·) := by
  induction later generalizing first with
  | nil => rw [List.intercalate_singleton, List.flatMap_nil, List.append_nil]
  | cons second later ih =>
      rw [List.intercalate_cons_cons, ih, List.flatMap_cons, List.append_assoc,
        List.append_assoc]

private theorem toList_intercalate_cons (separator first : String) (later : List String) :
    (separator.intercalate (first :: later)).toList =
      first.toList ++ later.flatMap fun text => separator.toList ++ text.toList := by
  rw [String.toList_intercalate, List.map_cons, intercalate_cons, List.flatMap_map]

/-- The text up to the value. -/
def keysText (value : List Char) : List Char :=
  "profile".toList ++ ':' :: (keyLines 0 ["p".toList, "env".toList] ++ value)

private theorem keysText_eq (value : List Char) :
    keysText value =
      "profile:".toList ++ '\n' :: ("  p:".toList ++ '\n' :: ("    env:".toList ++ value)) :=
  rfl

private theorem toList_flowLines (first : String) (later : List String) (ending : String) :
    ("\n".intercalate (flowLines (first :: later)) ++ ending).toList =
      keysText (flowText first.toList (later.map String.toList) ++ ending.toList) := by
  have lineFeed : "\n".toList = ['\n'] := rfl
  have comma : ", ".toList = [',', ' '] := rfl
  have bracket : "    env: [".toList = "    env:".toList ++ [' ', '['] := rfl
  have closing : "]".toList = [']'] := rfl
  rw [keysText_eq]
  simp only [flowLines, flowText, toList_intercalate_cons, String.toList_append,
    List.flatMap_cons, List.flatMap_nil, List.flatMap_map, lineFeed, comma, bracket, closing,
    List.append_assoc, List.cons_append, List.nil_append, List.append_nil]

private theorem toList_blockLines (first : String) (later : List String) (ending : String) :
    ("\n".intercalate (blockLines (first :: later)) ++ ending).toList =
      keysText ('\n' :: (List.replicate 4 ' ' ++
        (itemsText 4 first.toList (later.map String.toList) ++ ending.toList))) := by
  have lineFeed : "\n".toList = ['\n'] := rfl
  have dash : "    - ".toList = List.replicate 4 ' ' ++ ['-', ' '] := rfl
  rw [keysText_eq]
  simp only [blockLines, itemsText, itemText, toList_intercalate_cons, String.toList_append,
    List.map_cons, List.flatMap_cons, List.flatMap_map, lineFeed, dash, List.append_assoc,
    List.cons_append, List.nil_append]

theorem parse_keysText {text : String} {value : List Char} {kinds : List Yaml.Token.Kind}
    (spelled : text.toList = keysText value) (ends : Yaml.atWordEnd value = true)
    (isSource : Yaml.IsSource value) (isLast : Yaml.Lexer.IsLastValue 4 value kinds)
    (below : Yaml.Parse.ReadsBelow kinds (ListsPlain texts)) :
    parse text = .ok (declaring (texts.map String.ofList)) := by
  have words : ∀ name ∈ ["profile".toList, "p".toList, "env".toList], isWord name = true := by
    decide
  have short : ∀ name ∈ ["profile".toList, "p".toList, "env".toList], name.length ≤ 1024 := by
    decide
  obtain ⟨root, document, isBelow⟩ :=
    Yaml.document?_keyLines spelled words short ends isSource isLast below
  rw [parse, Text.isNone_nonBlank?_of_visible spelled (by decide), document]
  exact congrArg (Except.mapError ParseError.fault) (readConfig_of_below isBelow)

section Words

variable (words : ∀ value ∈ first :: later, isWord value.toList = true)
include words

private theorem isWord_toList :
    ∀ text ∈ first.toList :: later.map String.toList, isWord text = true := by
  rwa [← List.map_cons, List.forall_mem_map]

theorem parse_flowLines (isEnding : IsEnding ending.toList) :
    parse ("\n".intercalate (flowLines (first :: later)) ++ ending) =
      .ok (declaring (first :: later)) := by
  have texts := isWord_toList words
  have parsed := parse_keysText (toList_flowLines first later ending) rfl
    ((Yaml.isSource_flowText texts).append (Yaml.isSource_ending isEnding))
    (Yaml.Lexer.isLastValue_flowText texts isEnding 4) (Yaml.Parse.readsBelow_flowKinds _)
  simpa using parsed

theorem parse_blockLines (isEnding : IsEnding ending.toList) :
    parse ("\n".intercalate (blockLines (first :: later)) ++ ending) =
      .ok (declaring (first :: later)) := by
  have texts := isWord_toList words
  have items := (Yaml.isSource_itemsText texts 4).append (Yaml.isSource_ending isEnding)
  have parsed := parse_keysText (toList_blockLines first later ending) rfl
    (((Yaml.isSource_indentation 4).append items).cons (.inr rfl))
    (Yaml.Lexer.isLastValue_itemsText texts isEnding 4)
    (Yaml.Parse.readsBelow_itemKinds (List.cons_ne_nil _ _))
  simpa using parsed

end Words

/-- Plain words are declared as they are written, in brackets or on lines of their own. -/
theorem parse_declarations {values : List String} (nonempty : values ≠ [])
    (words : ∀ value ∈ values, isWord value.toList = true)
    (isEnding : ending = "" ∨ ending = "\n") :
    parse ("\n".intercalate (flowLines values) ++ ending) = .ok (declaring values) ∧
      parse ("\n".intercalate (blockLines values) ++ ending) = .ok (declaring values) := by
  obtain ⟨first, later, rfl⟩ := List.exists_cons_of_ne_nil nonempty
  have endsFile : IsEnding ending.toList := by
    rcases isEnding with rfl | rfl
    · exact .inl rfl
    · exact .inr rfl
  exact ⟨parse_flowLines words endsFile, parse_blockLines words endsFile⟩

/-- Words that look like numbers, truth values, null and the end of a document. -/
theorem parse_declarations_numerals :
    let values := ["007", "1.50", "0x10", "true", "null", "~", "...", "_A=/b.c+~-"]
    parse ("\n".intercalate (flowLines values) ++ "\n") = .ok (declaring values) ∧
      parse ("\n".intercalate (blockLines values) ++ "\n") = .ok (declaring values) := by
  intro values
  have nonempty : values ≠ [] := by decide
  have words : ∀ value ∈ values, isWord value.toList = true := by decide
  exact parse_declarations nonempty words (.inr rfl)

end ProfileShell.Config
