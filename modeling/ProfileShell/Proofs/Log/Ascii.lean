import ProfileShell.Log.Ascii

/-!
# Ascii logs are read back

The reader of an ascii log finds the records that were written, whatever their messages
and values are.  At each place it stands where the writer stood: a quoted value is read to
its own closing quote, whatever follows, and behind it either a field or the end of the
record follows.  So the text of a log tells its records, and no two logs have one text.
-/

namespace ProfileShell.Log.Ascii

/-- A key ends at the first equals sign, so none stands in it. -/
def HasPlainKeys (record : Record) : Prop :=
  ∀ field ∈ record.fields, '=' ∉ field.1.toList

instance : DecidablePred HasPlainKeys :=
  fun record => inferInstanceAs (Decidable (∀ field ∈ record.fields, _))

variable {rest tail : List Char} {fields : List (String × String)}

/-- The characters of a quoted value. -/
theorem unquote?_quote (value : String) (rest : List Char) :
    Text.Quoted.unquote? ((Text.Quoted.quote value).toList ++ rest) =
      some (value.toList, rest) := by
  rw [Text.Quoted.quote, String.toList_ofList, List.append_assoc, List.cons_append,
    Text.Quoted.unquote?]
  exact Text.Quoted.unescape?_escape value.toList rest

def fieldText (field : String × String) : String :=
  " " ++ field.1 ++ "=" ++ Text.Quoted.quote field.2

private theorem asciiLine_eq (record : Record) :
    record.asciiLine = "level=" ++ record.level.name ++ " msg=" ++
      Text.Quoted.quote record.message ++ String.join (record.fields.map fieldText) := rfl

theorem fields?_field {field : String × String} (plain : '=' ∉ field.1.toList)
    (read : fields? rest = some (fields, tail)) :
    fields? ((fieldText field).toList ++ rest) = some (field :: fields, tail) := by
  have keyed : ∀ character ∈ field.1.toList, (character != '=') = true := by
    intro character member
    rw [bne_iff_ne]
    rintro rfl
    exact plain member
  have shape : (fieldText field).toList ++ rest =
      ' ' :: (field.1.toList ++ '=' :: ((Text.Quoted.quote field.2).toList ++ rest)) := by
    simp [fieldText]
  rw [shape, fields?, List.dropWhile_append_of_pos keyed,
    List.dropWhile_cons_of_neg (by decide), List.drop_one, List.tail_cons, unquote?_quote]
  dsimp only
  rw [read, List.takeWhile_append_of_pos keyed, List.takeWhile_cons_of_neg (by decide)]
  simp

theorem fields?_fields (keys : ∀ field ∈ fields, '=' ∉ field.1.toList) (rest : List Char) :
    fields? ((String.join (fields.map fieldText)).toList ++ '\n' :: rest) =
      some (fields, rest) := by
  rw [String.toList_join, List.flatMap_map]
  induction fields with
  | nil => rw [List.flatMap_nil, List.nil_append, fields?]
  | cons field others ih =>
      obtain ⟨first, later⟩ := List.forall_mem_cons.mp keys
      rw [List.flatMap_cons, List.append_assoc]
      exact fields?_field first (ih later)

private theorem level?_name (level : Level) : level? level.name.toList = some level := by
  cases level <;> decide

/-- The name of a level ends ahead of the label of the message. -/
theorem takeWhile_name (level : Level) (rest : List Char) :
    (level.name.toList ++ (" msg=".toList ++ rest)).takeWhile (· != ' ') =
      level.name.toList := by
  have spaced : " msg=".toList = ' ' :: "msg=".toList := by decide
  rw [spaced, List.cons_append, List.takeWhile_append_of_pos,
    List.takeWhile_cons_of_neg (by decide), List.append_nil]
  cases level <;> simp [Level.name]

private theorem isPrefixOf?_append (label rest : List Char) :
    label.isPrefixOf? (label ++ rest) = some rest :=
  List.isPrefixOf?_eq_some_iff_append_eq.mpr rfl

theorem record?_line {record : Record} (keys : HasPlainKeys record) (rest : List Char) :
    record? ((record.line .ascii false ++ "\n").toList ++ rest) = some (record, rest) := by
  have shape : (record.line .ascii false ++ "\n").toList ++ rest =
      "level=".toList ++ (record.level.name.toList ++ (" msg=".toList ++
        ((Text.Quoted.quote record.message).toList ++
          ((String.join (record.fields.map fieldText)).toList ++ '\n' :: rest)))) := by
    simp [Record.line, asciiLine_eq]
  rw [shape, record?, isPrefixOf?_append]
  simp only [Option.bind_eq_bind, Option.bind_some, takeWhile_name, level?_name,
    List.drop_left, isPrefixOf?_append, unquote?_quote, fields?_fields keys,
    String.ofList_toList]

theorem records?_lines {records : List Record}
    (keys : ∀ record ∈ records, HasPlainKeys record) :
    records? (records.flatMap fun record => (record.line .ascii false ++ "\n").toList) =
      some records := by
  induction records with
  | nil => rw [List.flatMap_nil, records?, List.isEmpty_nil, if_pos rfl]
  | cons record others ih =>
      obtain ⟨first, later⟩ := List.forall_mem_cons.mp keys
      rw [List.flatMap_cons, records?]
      split
      case isTrue ended => simp at ended
      case isFalse =>
        split
        case h_1 read =>
          rw [record?_line first] at read
          cases read
        case h_2 found tail read =>
          rw [record?_line first] at read
          cases read
          rw [ih later]
          rfl

theorem read?_of_text {records : List Record} (keys : ∀ record ∈ records, HasPlainKeys record) :
    read? (text records) = some records := by
  rw [read?, text, String.toList_join, List.flatMap_map]
  exact records?_lines keys

/-- A log is read back as the records that were written, so different records never make
the same log. -/
theorem read?_text (records : List Record) (keys : ∀ record ∈ records, HasPlainKeys record) :
    read? (text records) = some records ∧
      ∀ others, (∀ record ∈ others, HasPlainKeys record) → text others = text records →
        others = records := by
  have readBack := read?_of_text keys
  refine ⟨readBack, ?_⟩
  intro others otherKeys same
  have readOthers := read?_of_text otherKeys
  rw [same, readBack] at readOthers
  exact (Option.some.inj readOthers).symm

/-- A message that looks like the end of its record and another record, and a field that is
given twice with values full of marks. -/
def deceptive : List Record :=
  [ ⟨.warn, "done\"\nlevel=info msg=\"more\\", [("a", "\\\""), ("a", " b=\"c\""), ("d", "\n")]⟩,
    ⟨.debug, "", []⟩,
    ⟨.error, "=", [("a", "")]⟩ ]

theorem read?_text_deceptive :
    (∀ record ∈ deceptive, HasPlainKeys record) ∧
      read? (text deceptive) = some deceptive ∧
      (∀ record ∈ deceptive.reverse, HasPlainKeys record) ∧
      text deceptive.reverse ≠ text deceptive := by
  have keys : ∀ record ∈ deceptive, HasPlainKeys record := by decide
  have reverseKeys : ∀ record ∈ deceptive.reverse, HasPlainKeys record := by decide
  obtain ⟨readBack, unique⟩ := read?_text deceptive keys
  refine ⟨keys, readBack, reverseKeys, fun same => ?_⟩
  exact absurd (unique deceptive.reverse reverseKeys same) (by decide)

end ProfileShell.Log.Ascii
