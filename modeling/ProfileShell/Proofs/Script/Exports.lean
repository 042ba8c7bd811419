import ProfileShell.Posix.Export
import ProfileShell.Proofs.Text.Utf8.Ascii
import ProfileShell.Script

/-!
# Exports of scripts

An export line of a script gives a shell the text of its variable back.  Backslashes and
double quotes stand behind a backslash there, so a value needs only to be free of the
signs that start an expansion.
-/

namespace ProfileShell

namespace Posix

namespace DoubleQuotes

variable {octets rest tail : Bytes} {pieces : List Piece}

/-- An octet that is nothing but itself. -/
def IsPlain (octet : UInt8) : Prop :=
  octet ≠ quoteMark ∧ octet ≠ backslash ∧ expands octet = false

theorem read?_quoteMark (tail : Bytes) : read? (quoteMark :: tail) = some ([], tail) := by
  rw [read?.eq_def]
  exact if_pos rfl

theorem read?_plain {octet : UInt8} (plain : IsPlain octet)
    (read : read? rest = some (pieces, tail)) :
    read? (octet :: rest) = some (.octet octet :: pieces, tail) := by
  obtain ⟨notQuote, notBackslash, notExpansion⟩ := plain
  rw [read?.eq_def]
  simp [notQuote, notBackslash, notExpansion, read, behind]

theorem read?_plain_append (plain : ∀ octet ∈ octets, IsPlain octet)
    (read : read? rest = some (pieces, tail)) :
    read? (octets ++ rest) = some (octets.map .octet ++ pieces, tail) := by
  induction octets with
  | nil => exact read
  | cons first others ih =>
      obtain ⟨plainFirst, plainOthers⟩ := List.forall_mem_cons.mp plain
      exact read?_plain plainFirst (ih plainOthers)

theorem read?_quoted (octet : UInt8) (quotable : isQuotable octet = true)
    (read : read? rest = some (pieces, tail)) :
    read? (backslash :: octet :: rest) = some (.octet octet :: pieces, tail) := by
  rw [read?]
  simp [quotable, read, behind, show backslash ≠ quoteMark by decide]

/-- A character that neither starts an expansion nor is written behind a backslash is
nothing but itself, octet by octet. -/
theorem isPlain_of_mem {character : Char}
    (ordinary : character ≠ '"' ∧ character ≠ '\\')
    (unexpanded : character ≠ '$' ∧ character ≠ '\x60') {octet : UInt8}
    (member : octet ∈ String.utf8EncodeChar character) : IsPlain octet := by
  have same := (Utf8.spelled_utf8EncodeChar character).eq_ofNat_of_mem member
  refine ⟨?_, ?_, ?_⟩
  · rintro rfl
    exact ordinary.1 (same (by decide))
  · rintro rfl
    exact ordinary.2 (same (by decide))
  · rw [expands, Bool.or_eq_false_iff, beq_eq_false_iff_ne, beq_eq_false_iff_ne]
    constructor
    · rintro rfl
      exact unexpanded.1 (same (by decide))
    · rintro rfl
      exact unexpanded.2 (same (by decide))

theorem read?_escape {characters : List Char}
    (unexpanded : ∀ character ∈ characters, character ≠ '$' ∧ character ≠ '\x60')
    (tail : Bytes) :
    read? ((Text.Quoted.escape characters).flatMap String.utf8EncodeChar
        ++ quoteMark :: tail) =
      some ((characters.flatMap String.utf8EncodeChar).map .octet, tail) := by
  induction characters with
  | nil => exact read?_quoteMark tail
  | cons character others ih =>
      obtain ⟨unexpandedFirst, unexpandedOthers⟩ := List.forall_mem_cons.mp unexpanded
      have readOthers := ih unexpandedOthers
      rw [Text.Quoted.escape_cons]
      split
      case isTrue special =>
        rw [Bool.or_eq_true, decide_eq_true_eq, decide_eq_true_eq] at special
        rcases special with rfl | rfl
        · exact read?_quoted quoteMark rfl readOthers
        · exact read?_quoted backslash rfl readOthers
      case isFalse ordinary =>
        rw [Bool.or_eq_true, decide_eq_true_eq, decide_eq_true_eq, not_or] at ordinary
        rw [List.flatMap_cons, List.append_assoc,
          read?_plain_append (fun _ => isPlain_of_mem ordinary unexpandedFirst) readOthers,
          List.flatMap_cons, List.map_append]

end DoubleQuotes

namespace Export

theorem isNameCharacter_of_isName {name : Bytes} (identifier : isName name = true)
    {octet : UInt8} (member : octet ∈ name) :
    isNameCharacter (Char.ofNat octet.toNat) = true := by
  have listed : Char.ofNat octet.toNat ∈ characters name := List.mem_map.mpr ⟨octet, member, rfl⟩
  unfold isName at identifier
  split at identifier
  · cases identifier
  case h_2 first rest split =>
    rw [Bool.and_eq_true, List.all_eq_true] at identifier
    rw [split] at listed
    rcases List.mem_cons.mp listed with here | later
    · have starts := identifier.1
      rw [← here] at starts
      unfold isNameStart at starts
      unfold isNameCharacter Char.isAlphanum
      rw [Bool.or_eq_true] at starts ⊢
      rw [Bool.or_eq_true]
      exact starts.imp_left .inl
    · exact identifier.2 _ later

theorem ascii_of_isNameCharacter {octet : UInt8}
    (inName : isNameCharacter (Char.ofNat octet.toNat) = true) : octet.toNat < 0x80 := by
  have value : (Char.ofNat octet.toNat).val.toNat = octet.toNat :=
    Utf8.toNat_ofNat_of_valid (by unfold Nat.isValidChar; have := octet.toNat_lt; omega)
  unfold isNameCharacter Char.isAlphanum Char.isAlpha Char.isUpper Char.isLower Char.isDigit
    at inName
  rw [Bool.or_eq_true, beq_iff_eq] at inName
  rcases inName with alphanumeric | underscore
  · simp [UInt32.le_iff_toNat_le, value] at alphanumeric
    omega
  · rw [underscore] at value
    exact value ▸ (by decide : ('_').val.toNat < 0x80)

private theorem ne_equalsSign_of_isNameCharacter {octet : UInt8}
    (inName : isNameCharacter (Char.ofNat octet.toNat) = true) : octet ≠ equalsSign := by
  rintro rfl
  exact absurd inName (by decide)

theorem takeWhile_name {name : Bytes} (identifier : isName name = true) (rest : Bytes) :
    (name ++ equalsSign :: rest).takeWhile (· != equalsSign) = name := by
  rw [List.takeWhile_append_of_pos, List.takeWhile_cons_of_neg, List.append_nil]
  · simp
  · intro octet member
    simpa using ne_equalsSign_of_isNameCharacter (isNameCharacter_of_isName identifier member)

private theorem encode_exportLine {name value : Bytes} (identifier : isName name = true) :
    Utf8.encode (Script.exportLine name value) =
      keyword ++ (name ++ equalsSign :: DoubleQuotes.quoteMark ::
        ((Text.Quoted.escape (Utf8.lossy value).toList).flatMap String.utf8EncodeChar
          ++ [DoubleQuotes.quoteMark])) := by
  have ascii : ∀ octet ∈ name, octet.toNat < 0x80 := fun octet member =>
    ascii_of_isNameCharacter (isNameCharacter_of_isName identifier member)
  have quoted : Utf8.encode (Text.Quoted.quote (Utf8.lossy value)) =
      DoubleQuotes.quoteMark ::
        ((Text.Quoted.escape (Utf8.lossy value).toList).flatMap String.utf8EncodeChar
          ++ [DoubleQuotes.quoteMark]) := by
    rw [Text.Quoted.quote, Utf8.encode, String.toList_ofList, List.cons_append,
      List.flatMap_cons, List.flatMap_append]
    rfl
  rw [Script.exportLine, Utf8.encode_append, Utf8.encode_append, Utf8.encode_append,
    Utf8.encode_lossy_of_ascii ascii, quoted, List.append_assoc, List.append_assoc]
  rfl

/-- An export line is read as an export of the text of its value. -/
theorem read?_exportLine {name value : Bytes} (identifier : isName name = true)
    (unexpanded : DoubleQuotes.dollarSign ∉ value ∧ DoubleQuotes.backtick ∉ value)
    (tail : Bytes) :
    read? (Utf8.encode (Script.exportLine name value) ++ Script.lineFeed :: tail) =
      some (⟨name, (Utf8.encode (Utf8.lossy value)).map .octet⟩, tail) := by
  have characters : ∀ character ∈ (Utf8.lossy value).toList,
      character ≠ '$' ∧ character ≠ '\x60' := by
    intro character member
    constructor
    · rintro rfl
      exact unexpanded.1 (Utf8.mem_of_mem_lossy member (by decide) (by decide))
    · rintro rfl
      exact unexpanded.2 (Utf8.mem_of_mem_lossy member (by decide) (by decide))
  have inside := DoubleQuotes.read?_escape characters (Script.lineFeed :: tail)
  rw [encode_exportLine identifier, List.append_assoc, List.append_assoc, List.cons_append,
    List.cons_append, List.append_assoc, List.singleton_append, read?,
    if_pos (List.isPrefixOf_iff_prefix.mpr (List.prefix_append _ _))]
  dsimp only
  rw [List.drop_left, takeWhile_name identifier, List.drop_left]
  dsimp only
  rw [if_pos ⟨identifier, rfl, rfl⟩, inside]
  rfl

end Export

end Posix

/-! ## Whole scripts -/

namespace Script

/-- Between the line that names the shell and the body, a script has an export line for
each variable, in their order.  Whatever follows such a line, it is read in full, starts
no expansion, and assigns the text of the value, which for a value that is text is the
value itself. -/
theorem exports_read_back {host : Host} {path : Path} {shell : String} {environ : Environ}
    {script : Bytes} (identifiers : ∀ name ∈ environ.names, Posix.Export.isName name = true)
    (written : ofFile host path shell (some environ) = .ok script) :
    (∃ body, script = Utf8.encode ("#!" ++ shell) ++ [lineFeed]
      ++ (environ.entries.flatMap fun (name, value) =>
        Utf8.encode (exportLine name value) ++ [lineFeed])
      ++ body) ∧
    ∀ name value, (name, value) ∈ environ.entries →
      Posix.DoubleQuotes.dollarSign ∉ value → Posix.DoubleQuotes.backtick ∉ value →
        (∀ tail, Posix.Export.read?
            (Utf8.encode (exportLine name value) ++ [lineFeed] ++ tail) =
          some (⟨name, (Utf8.encode (Utf8.lossy value)).map .octet⟩, tail)) ∧
        ((Utf8.decode? value).isSome → Utf8.encode (Utf8.lossy value) = value) := by
  constructor
  · unfold ofFile at written
    cases found : host.read path with
    | error error =>
        rw [found] at written
        cases written
    | ok octets =>
        rw [found] at written
        refine ⟨body shell octets, ?_⟩
        rw [← Except.ok.inj written, render, header, List.flatMap_cons, Option.elim_some,
          List.flatMap_map]
        rfl
  · intro name value member notDollar notBacktick
    constructor
    · intro tail
      have identifier := identifiers name (List.mem_map.mpr ⟨_, member, rfl⟩)
      rw [List.append_assoc]
      exact Posix.Export.read?_exportLine identifier ⟨notDollar, notBacktick⟩ tail
    · intro isText
      obtain ⟨text, read⟩ := Option.isSome_iff_exists.mp isText
      exact Utf8.encode_lossy_of_decode? read

/-- A directory with an rc-file. -/
def folder : Host :=
  { volume := ⟨[([Utf8.encode "rc"], .file (Utf8.encode "X=1\n") 0o600)]⟩
    directory := Path.ofText "/"
    environ := .empty
    output := []
    errors := []
    outputIsTerminal := false
    errorsIsTerminal := false
    journal := []
    temporaryEndings := []
    process := 1 }

/-- A value with everything that is written behind a backslash, and the end of a line. -/
def spoken : Bytes := Utf8.encode "\\say \"hi\"\\\nand go"

theorem exports_read_back_spoken :
    (∃ script, ofFile folder (Path.ofText "rc") "/bin/sh"
      (some (.ofList [(Utf8.encode "Q", spoken)])) = .ok script) ∧
    Posix.Export.read?
        (Utf8.encode (exportLine (Utf8.encode "Q") spoken) ++ [lineFeed]
          ++ Utf8.encode "X=1\n") =
      some (⟨Utf8.encode "Q", spoken.map .octet⟩, Utf8.encode "X=1\n") := by
  have written : (ofFile folder (Path.ofText "rc") "/bin/sh"
      (some (.ofList [(Utf8.encode "Q", spoken)]))).toOption.isSome = true := by
    decide +kernel
  cases script : ofFile folder (Path.ofText "rc") "/bin/sh"
      (some (.ofList [(Utf8.encode "Q", spoken)])) with
  | error error =>
      rw [script] at written
      cases written
  | ok octets =>
      obtain ⟨_, exports⟩ := exports_read_back (by decide) script
      obtain ⟨reads, same⟩ := exports (Utf8.encode "Q") spoken (by decide) (by decide)
        (by decide)
      refine ⟨⟨octets, rfl⟩, ?_⟩
      rw [reads, same (by decide +kernel)]

/-- A variable that is no text, and one whose value names another variable. -/
def garbled : Environ :=
  .ofList [(Utf8.encode "A", [0xFF]), (Utf8.encode "B", Utf8.encode "$HOME")]

/-- A value that is no text is exported as the text that its octets are shown as, and a
dollar sign in a value starts an expansion. -/
theorem exports_garbled :
    (∀ name ∈ garbled.names, Posix.Export.isName name = true) ∧
    (∀ entry ∈ garbled.entries, (0 : UInt8) ∉ entry.2) ∧
    garbled.entries.map (fun (name, value) =>
        Posix.Export.read? (Utf8.encode (exportLine name value) ++ [lineFeed])) =
      [ some (⟨Utf8.encode "A", [.octet 0xEF, .octet 0xBF, .octet 0xBD]⟩, []),
        some (⟨Utf8.encode "B", .expansion 0x24 :: (Utf8.encode "HOME").map .octet⟩, []) ] := by
  decide +kernel

end Script

end ProfileShell
