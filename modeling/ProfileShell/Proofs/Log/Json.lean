import Mathlib.Data.List.Induction
import Mathlib.Data.String.Basic
import ProfileShell.Entries
import ProfileShell.Log.Record
import ProfileShell.Proofs.Json.Reader
import ProfileShell.Proofs.Text.Terminal
import ProfileShell.Proofs.Text.Utf8.Ascii

/-!
# JSON logs

A record in JSON is one object on a line of its own.  Whatever could end the line or steer
a terminal is escaped, so nothing is taken out of the line, and who reads it finds the
level, the message and, once for every key, the last value of the key.
-/

namespace ProfileShell.Log.Record

open Text.Terminal (IsVisible KeepsText)

variable {key value : String} {fields : List (String × String)}

/-! ## Sorted fields -/

/-- Fields are in the order of their keys, and no key is there twice. -/
def IsSorted (fields : List (String × String)) : Prop :=
  fields.Pairwise fun first second => first.1 < second.1

private theorem lookup_insertField (key value query : String) (fields : List (String × String)) :
    (insertField key value fields).lookup query =
      if query = key then some value else fields.lookup query := by
  induction fields with
  | nil => rw [insertField, lookup_cons_ite]
  | cons field rest ih =>
      obtain ⟨other, current⟩ := field
      by_cases before : key < other
      · rw [insertField, if_pos before, lookup_cons_ite]
      · by_cases replaced : key = other
        · subst other
          rw [insertField, if_neg before, if_pos rfl, lookup_cons_ite, lookup_cons_ite]
          by_cases same : query = key <;> simp [same]
        · rw [insertField, if_neg before, if_neg replaced, lookup_cons_ite, lookup_cons_ite, ih]
          by_cases here : query = other
          · simp [here, Ne.symm replaced]
          · simp [here]

private theorem mem_insertField {field : String × String}
    (member : field ∈ insertField key value fields) :
    field = (key, value) ∨ field ∈ fields := by
  induction fields with
  | nil => exact .inl (List.mem_singleton.mp member)
  | cons first rest ih =>
      obtain ⟨other, current⟩ := first
      rw [insertField] at member
      split at member
      · exact List.mem_cons.mp member
      · split at member
        · rcases List.mem_cons.mp member with isNew | later
          · exact .inl isNew
          · exact .inr (List.mem_cons_of_mem _ later)
        · rcases List.mem_cons.mp member with isFirst | later
          · exact .inr (List.mem_cons.mpr (.inl isFirst))
          · rcases ih later with isNew | among
            · exact .inl isNew
            · exact .inr (List.mem_cons_of_mem _ among)

theorem isSorted_insertField (sorted : IsSorted fields) (key value : String) :
    IsSorted (insertField key value fields) := by
  induction fields with
  | nil => exact List.pairwise_singleton _ _
  | cons first rest ih =>
      obtain ⟨other, current⟩ := first
      obtain ⟨above, sortedRest⟩ := List.pairwise_cons.mp sorted
      rw [insertField]
      split
      case isTrue before =>
        refine List.pairwise_cons.mpr ⟨?_, sorted⟩
        rw [List.forall_mem_cons]
        exact ⟨before, fun later listed => before.trans (above later listed)⟩
      case isFalse notBefore =>
        split
        case isTrue same =>
          subst other
          exact List.pairwise_cons.mpr ⟨above, sortedRest⟩
        case isFalse different =>
          refine List.pairwise_cons.mpr ⟨fun field member => ?_, ih sortedRest⟩
          rcases mem_insertField member with rfl | among
          · exact lt_of_le_of_ne (String.not_lt.mp notBefore) (Ne.symm different)
          · exact above field among

theorem sortedFields_concat (fields : List (String × String)) (field : String × String) :
    sortedFields (fields ++ [field]) = insertField field.1 field.2 (sortedFields fields) := by
  rw [sortedFields, List.foldl_append]
  rfl

theorem isSorted_sortedFields (fields : List (String × String)) :
    IsSorted (sortedFields fields) := by
  induction fields using List.reverseRecOn with
  | nil => exact List.Pairwise.nil
  | append_singleton earlier last ih =>
      rw [sortedFields_concat]
      exact isSorted_insertField ih last.1 last.2

theorem nodup_keys_sortedFields (fields : List (String × String)) :
    ((sortedFields fields).map Prod.fst).Nodup :=
  List.pairwise_map.mpr ((isSorted_sortedFields fields).imp String.ne_of_lt)

/-- Of the values of a key the last one counts. -/
theorem lookup_sortedFields (fields : List (String × String)) (query : String) :
    (sortedFields fields).lookup query = fields.reverse.lookup query := by
  induction fields using List.reverseRecOn with
  | nil => rfl
  | append_singleton earlier last ih =>
      rw [sortedFields_concat, lookup_insertField, List.reverse_concat, lookup_cons_ite, ih]

theorem mem_sortedFields {field : String × String} (member : field ∈ sortedFields fields) :
    field ∈ fields := by
  induction fields using List.reverseRecOn with
  | nil => exact member
  | append_singleton earlier last ih =>
      rw [sortedFields_concat] at member
      rcases mem_insertField member with rfl | among
      · exact List.mem_append_right _ (List.mem_singleton.mpr rfl)
      · exact List.mem_append_left _ (ih among)

/-! ## Lines -/

/-- No text of a record has the delete character in it, the only one that could steer a
terminal and is not escaped. -/
structure LacksDelete (record : Record) : Prop where
  message : '\x7f' ∉ record.message.toList
  keys : ∀ field ∈ record.fields, '\x7f' ∉ field.1.toList
  values : ∀ field ∈ record.fields, '\x7f' ∉ field.2.toList

private theorem isVisible_of_printable {character : Char} (printable : Text.IsPrintable character) :
    IsVisible character := by
  refine ⟨printable.1, ?_⟩
  rintro rfl
  exact absurd printable.2 (by decide)

private theorem lacksDelete_of_mentions_fields {record : Record} (clean : record.LacksDelete)
    {word : String} (mentions : Json.Mentions word
      (.object ((sortedFields record.fields).map fun (key, value) => (key, .text value)))) :
    '\x7f' ∉ word.toList := by
  cases mentions with
  | name listed named =>
      obtain ⟨field, sorted, rfl⟩ := List.mem_map.mp listed
      exact named ▸ clean.keys field (mem_sortedFields sorted)
  | field listed inside =>
      obtain ⟨field, sorted, rfl⟩ := List.mem_map.mp listed
      cases inside with
      | text => exact clean.values field (mem_sortedFields sorted)

theorem lacksDelete_of_mentions {record : Record} (clean : record.LacksDelete) {word : String}
    (mentions : Json.Mentions word record.toJson) : '\x7f' ∉ word.toList := by
  cases mentions with
  | name listed named =>
      simp only [List.mem_cons, List.not_mem_nil, or_false] at listed
      have isLabel : word = "fields" ∨ word = "level" ∨ word = "message" := by
        rcases listed with rfl | rfl | rfl <;> simp [← named]
      rcases isLabel with rfl | rfl | rfl <;> decide
  | field listed inside =>
      simp only [List.mem_cons, List.not_mem_nil, or_false] at listed
      rcases listed with rfl | rfl | rfl
      · exact lacksDelete_of_mentions_fields clean inside
      · cases inside with
        | text => cases record.level <;> decide
      · cases inside with
        | text => exact clean.message

theorem toList_line_json (record : Record) (coloured : Bool) :
    (record.line .json coloured).toList = record.toJson.write :=
  String.toList_ofList

theorem isVisible_of_mem_line {record : Record} (clean : record.LacksDelete) (coloured : Bool) :
    ∀ character ∈ (record.line .json coloured).toList, IsVisible character := by
  rw [toList_line_json]
  apply Json.forall_mem_write fun _ printable => isVisible_of_printable printable
  intro word mentions character listed above
  refine ⟨above, ?_⟩
  rintro rfl
  exact lacksDelete_of_mentions clean mentions listed

private theorem lineFeed_notMem_encode {text : String}
    (visible : ∀ character ∈ text.toList, IsVisible character) : 0x0A ∉ Utf8.encode text := by
  intro member
  have listed := Utf8.mem_of_mem_encode (by decide) member
  exact absurd (visible _ listed) (by decide)

theorem keepsText_line {record : Record} (clean : record.LacksDelete) (coloured : Bool)
    {strip : Bytes → Bytes} (keeps : KeepsText strip) :
    strip (Utf8.encode (record.line .json coloured ++ "\n")) =
      Utf8.encode (record.line .json coloured ++ "\n") := by
  apply keeps
  rw [String.toList_append, List.forall_mem_append]
  refine ⟨fun character listed => .inl (isVisible_of_mem_line clean coloured character listed), ?_⟩
  exact List.forall_mem_singleton.mpr (.inr (by decide))

theorem value_toJson (record : Record) :
    record.toJson.value = .object
      [ ("fields", .object ((sortedFields record.fields).map fun field =>
          (field.1, .text field.2))),
        ("level", .text record.level.name),
        ("message", .text record.message) ] := by
  simp [toJson, Json.value]

/-- What is written for a record in JSON is one line that nothing is taken out of, and it is
read as an object of the level, the message and the last value of each key. -/
theorem octets_json (record : Record) (coloured : Bool) (clean : record.LacksDelete) :
    record.octets .json coloured = Utf8.encode (record.line .json coloured) ++ [0x0A] ∧
      0x0A ∉ Utf8.encode (record.line .json coloured) ∧
      (∀ strip, KeepsText strip →
        strip (Utf8.encode (record.line .json coloured ++ "\n")) =
          Utf8.encode (record.line .json coloured ++ "\n")) ∧
      (Utf8.decode? (record.octets .json coloured)).bind Json.parse? =
        some (.object
          [ ("fields", .object ((sortedFields record.fields).map fun field =>
              (field.1, .text field.2))),
            ("level", .text record.level.name),
            ("message", .text record.message) ]) ∧
      ((sortedFields record.fields).map Prod.fst).Nodup ∧
      ∀ key, (sortedFields record.fields).lookup key = record.fields.reverse.lookup key := by
  have whole : record.octets .json coloured =
      Utf8.encode (record.line .json coloured ++ "\n") :=
    keepsText_line clean coloured Text.Terminal.strip_keepsText
  have read : Json.parse? (record.line .json coloured ++ "\n") = some record.toJson.value :=
    Json.parse?_render_append record.toJson rfl
  refine ⟨?_, lineFeed_notMem_encode (isVisible_of_mem_line clean coloured),
    fun strip keeps => keepsText_line clean coloured keeps, ?_,
    nodup_keys_sortedFields record.fields, lookup_sortedFields record.fields⟩
  · rw [whole, Utf8.encode_append]
    rfl
  · rw [whole, Utf8.decode?_encode, Option.bind_some, read, value_toJson]

/-- Line ends, an escape sequence, quotes and a key that is given three times. -/
def turbulent : Record :=
  ⟨.warn, "two\nlines \x1b[31m\x00 \"quoted\" \\ \u0085 😀",
    [("b", "1"), ("a\r\n", "\x1b]0;title\x07"), ("b", "2\n"), ("", "é"), ("b", "\t3")]⟩

theorem octets_json_turbulent :
    turbulent.LacksDelete ∧
      (Utf8.decode? (turbulent.octets .json true)).bind Json.parse? =
        some (.object
          [ ("fields", .object
              [ ("", .text "é"), ("a\r\n", .text "\x1b]0;title\x07"), ("b", .text "\t3") ]),
            ("level", .text "warn"),
            ("message", .text turbulent.message) ]) := by
  have clean : turbulent.LacksDelete := ⟨by decide, by decide, by decide⟩
  obtain ⟨_, _, _, read, _⟩ := octets_json turbulent true clean
  have sorted : sortedFields turbulent.fields =
      [("", "é"), ("a\r\n", "\x1b]0;title\x07"), ("b", "\t3")] := by decide
  rw [sorted] at read
  exact ⟨clean, read⟩

end ProfileShell.Log.Record
