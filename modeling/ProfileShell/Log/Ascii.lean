import Mathlib.Data.List.Basic
import ProfileShell.Log.Record

/-!
# Ascii logs

The text of a log in the ascii format, and a reader of such texts.  A record starts with
its level and its message, and its fields follow, each behind a space.  Values stand
between double quotes and may hold line ends and text that looks like a record, so the
reader cuts the log into records and not into lines.
-/

namespace ProfileShell.Log.Ascii

/-- The lines of records, as they are before what would steer a terminal is taken out. -/
def text (records : List Record) : String :=
  String.join (records.map fun record => record.line .ascii false ++ "\n")

def level? (name : List Char) : Option Level :=
  [Level.debug, .info, .warn, .error].find? fun level => level.name.toList == name

/-- Reads fields up to the end of the line of a record, and yields what follows it.  A key
ends at the first equals sign. -/
def fields? : List Char → Option (List (String × String) × List Char)
  | '\n' :: rest => some ([], rest)
  | ' ' :: rest =>
    match _read : Text.Quoted.unquote? ((rest.dropWhile (· != '=')).drop 1) with
    | none => none
    | some (value, behind) =>
      (fields? behind).map fun (fields, tail) =>
        ((String.ofList (rest.takeWhile (· != '=')), String.ofList value) :: fields, tail)
  | _ => none
termination_by characters => characters.length
decreasing_by
  have shorter := Text.Quoted.length_lt_of_unquote? _read
  have keyed := (List.dropWhile_suffix (l := rest) (· != '=')).length_le
  rw [List.length_drop] at shorter
  rw [List.length_cons]
  omega

theorem length_lt_of_fields? {characters tail : List Char} {fields : List (String × String)}
    (read : fields? characters = some (fields, tail)) : tail.length < characters.length := by
  fun_induction fields? characters generalizing fields with
  | case1 =>
      cases read
      exact Nat.lt_succ_self _
  | case2 => cases read
  | case3 rest value behind readValue ih =>
      obtain ⟨⟨others, last⟩, readOthers, same⟩ := Option.map_eq_some_iff.mp read
      cases same
      have valueShorter := Text.Quoted.length_lt_of_unquote? readValue
      have keyed := (List.dropWhile_suffix (l := rest) (· != '=')).length_le
      have othersShorter := ih readOthers
      rw [List.length_drop] at valueShorter
      rw [List.length_cons]
      omega
  | case4 => cases read

/-- Reads a record and the end of its line, and yields what follows. -/
def record? (characters : List Char) : Option (Record × List Char) := do
  let labelled ← "level=".toList.isPrefixOf? characters
  let name := labelled.takeWhile (· != ' ')
  let level ← level? name
  let quoted ← " msg=".toList.isPrefixOf? (labelled.drop name.length)
  let (message, behind) ← Text.Quoted.unquote? quoted
  let (fields, tail) ← fields? behind
  some (⟨level, String.ofList message, fields⟩, tail)

theorem length_lt_of_record? {characters tail : List Char} {record : Record}
    (read : record? characters = some (record, tail)) : tail.length < characters.length := by
  simp only [record?, Option.bind_eq_bind, Option.bind_eq_some_iff] at read
  obtain ⟨labelled, atLevel, level, _, quoted, atMessage, ⟨message, behind⟩, readMessage,
    ⟨fields, _⟩, readFields, same⟩ := read
  cases same
  have levelShorter := congrArg List.length (List.append_eq_of_isPrefixOf?_eq_some atLevel)
  have labelShorter := congrArg List.length (List.append_eq_of_isPrefixOf?_eq_some atMessage)
  have messageShorter := Text.Quoted.length_lt_of_unquote? readMessage
  have fieldsShorter := length_lt_of_fields? readFields
  rw [List.length_append] at levelShorter labelShorter
  rw [List.length_drop] at labelShorter
  dsimp only at messageShorter fieldsShorter ⊢
  omega

/-- Reads records up to the end of a text. -/
def records? (characters : List Char) : Option (List Record) :=
  if characters.isEmpty then some []
  else match _read : record? characters with
    | none => none
    | some (record, tail) => (records? tail).map (record :: ·)
termination_by characters.length
decreasing_by exact length_lt_of_record? _read

/-- Reads the records of a log. -/
def read? (log : String) : Option (List Record) :=
  records? log.toList

end ProfileShell.Log.Ascii
