import Mathlib.Data.List.TakeWhile
import ProfileShell.Proofs.Json

/-!
# Written JSON is read back

The reader takes the text of a value for that value, whatever follows the text.  How deep
it may descend is bounded by the length of the text.
-/

namespace ProfileShell.Json

/-- A reader takes a text for a thing, whatever follows it. -/
def Takes {α : Type} (item? : List Char → Option (α × List Char)) (text : List Char) (item : α) :
    Prop :=
  ∀ rest, item? (text ++ rest) = some (item, rest)

/-! ## Strings -/

/-- A piece is a character by itself. -/
def Piece.StandsFor (piece : Piece) (character : Char) : Prop :=
  ∀ later, characters? (piece :: later) = (characters? later).map (character :: ·)

theorem Piece.unit_standsFor {character : Char} (control : character.toNat < 0x20) :
    (Piece.unit character.toNat).StandsFor character := by
  intro later
  rw [characters?.eq_def]
  dsimp only
  rw [if_pos (.inl (by omega)), Char.ofNat_toNat]

theorem codeUnit?_digits : ∀ value < 0x20,
    codeUnit? ['0', '0', Nat.digitChar (value / 16), Nat.digitChar (value % 16)] = some value := by
  decide

private theorem pieces?_sign {sign character : Char} (short : shortEscape? sign = some character)
    (rest : List Char) :
    pieces? ('\\' :: sign :: rest) = (pieces? rest).map (behind (.character character)) := by
  have notNumber : sign ≠ 'u' := by
    rintro rfl
    cases short
  rw [pieces?, if_neg (by decide), if_pos rfl]
  · rw [short, Option.bind_some]
  · intro _ _ _ _ _ isNumber
    exact absurd isNumber notNumber

private theorem pieces?_number {value : Nat} (control : value < 0x20) (rest : List Char) :
    pieces? ('\\' :: 'u' :: '0' :: '0' :: Nat.digitChar (value / 16) ::
      Nat.digitChar (value % 16) :: rest) = (pieces? rest).map (behind (.unit value)) := by
  rw [pieces?, if_neg (by decide), if_pos rfl, codeUnit?_digits value control, Option.bind_some]

private theorem pieces?_visible {character : Char} (visible : 0x20 ≤ character.toNat)
    (notQuote : character ≠ '"') (notBackslash : character ≠ '\\') (rest : List Char) :
    pieces? (character :: rest) = (pieces? rest).map (behind (.character character)) := by
  rw [pieces?.eq_def]
  dsimp only
  rw [if_neg notQuote, if_neg notBackslash, if_neg (Nat.not_lt.mpr visible)]

private theorem pieces?_quoteMark (rest : List Char) : pieces? ('"' :: rest) = some ([], rest) := by
  rw [pieces?.eq_def]
  exact if_pos rfl

theorem exists_piece_escape (character : Char) :
    ∃ piece : Piece, piece.StandsFor character ∧ ∀ rest,
      pieces? (escape character ++ rest) = (pieces? rest).map (behind piece) := by
  rcases escape_cases character with ⟨sign, written, short⟩ | ⟨control, written⟩ |
    ⟨visible, notQuote, notBackslash, written⟩
  · refine ⟨.character character, fun _ => rfl, fun rest => ?_⟩
    rw [written]
    exact pieces?_sign short rest
  · refine ⟨.unit character.toNat, Piece.unit_standsFor control, fun rest => ?_⟩
    rw [written]
    exact pieces?_number control rest
  · refine ⟨.character character, fun _ => rfl, fun rest => ?_⟩
    rw [written]
    exact pieces?_visible visible notQuote notBackslash rest

theorem exists_pieces_escape (text rest : List Char) :
    ∃ pieces, characters? pieces = some text ∧
      pieces? (text.flatMap escape ++ '"' :: rest) = some (pieces, rest) := by
  induction text with
  | nil => exact ⟨[], rfl, pieces?_quoteMark rest⟩
  | cons character later ih =>
      obtain ⟨pieces, meaning, read⟩ := ih
      obtain ⟨piece, stands, first⟩ := exists_piece_escape character
      refine ⟨piece :: pieces, ?_, ?_⟩
      · rw [stands, meaning, Option.map_some]
      · rw [List.flatMap_cons, List.append_assoc, first, read]
        rfl

theorem takes_string (value : String) :
    Takes string? (value.toList.flatMap escape ++ ['"']) value := by
  intro rest
  obtain ⟨pieces, meaning, read⟩ := exists_pieces_escape value.toList rest
  rw [List.append_assoc, List.singleton_append, string?, read, Option.bind_some]
  dsimp only
  rw [meaning, Option.map_some, String.ofList_toList]

/-! ## Collections -/

private theorem dropSpace_cons {first : Char} (visible : isSpace first = false) (rest : List Char) :
    dropSpace (first :: rest) = first :: rest := by
  rw [dropSpace, List.dropWhile_cons_of_neg (by simp [visible])]

private theorem length_le_separated {α : Type} (separator : α) {part : List α}
    {parts : List (List α)} (listed : part ∈ parts) : part.length ≤ (separated separator parts).length := by
  cases parts with
  | nil => exact absurd listed List.not_mem_nil
  | cons first later =>
      rw [separated, List.length_append]
      rcases List.mem_cons.mp listed with rfl | among
      · exact Nat.le_add_right _ _
      · have longer := (List.sublist_flatten_of_mem
          (List.mem_map_of_mem (f := (separator :: ·)) among)).length_le
        rw [← List.flatMap_def, List.length_cons] at longer
        omega

private theorem length_le_length_separated {α : Type} (separator : α) (parts : List (List α)) :
    parts.length ≤ (separated separator parts).length + 1 := by
  cases parts with
  | nil => exact Nat.zero_le _
  | cons first later =>
      have longer : later.length ≤ (later.flatMap (separator :: ·)).length := by
        induction later with
        | nil => exact Nat.zero_le _
        | cons part rest ih =>
            rw [List.flatMap_cons, List.cons_append, List.length_cons, List.length_cons,
              List.length_append]
            omega
      rw [separated, List.length_append, List.length_cons]
      omega

section Collections

variable {α : Type} {closing : Char} {item? : List Char → Option (α × List Char)}

/-- A mark can end a collection. -/
structure Closes (closing : Char) : Prop where
  visible : isSpace closing = false
  notComma : closing ≠ ','

/-- A text, beside what it stands for, can be a part of a collection.  It does not start as
the end of one. -/
structure IsPart (closing : Char) (item? : List Char → Option (α × List Char))
    (part : List Char × α) : Prop where
  starts : ∃ first later, part.1 = first :: later ∧ isSpace first = false ∧ first ≠ closing
  takes : Takes item? part.1 part.2

theorem takes_sequence (closes : Closes closing) (part : List Char × α)
    (later : List (List Char × α)) {fuel : Nat} (enough : later.length < fuel)
    (first : IsPart closing item? part) (others : ∀ other ∈ later, IsPart closing item? other) :
    Takes (sequence? closing item? fuel)
      (separated ',' ((part :: later).map Prod.fst) ++ [closing])
      ((part :: later).map Prod.snd) := by
  intro rest
  -- Each item costs one of `fuel`, and what stands behind its comma is a sequence again.
  induction later generalizing part fuel with
  | nil =>
      obtain ⟨fuel, rfl⟩ := Nat.exists_eq_succ_of_ne_zero (Nat.ne_of_gt enough)
      simp [separated, sequence?, first.takes _, dropSpace_cons closes.visible]
  | cons next later ih =>
      obtain ⟨fuel, rfl⟩ := Nat.exists_eq_succ_of_ne_zero (Nat.ne_zero_of_lt enough)
      obtain ⟨second, further⟩ := List.forall_mem_cons.mp others
      have onward := ih next (Nat.lt_of_succ_lt_succ enough) second further
      have split : separated ',' ((part :: next :: later).map Prod.fst) ++ [closing] ++ rest =
          part.1 ++ ',' :: (separated ',' ((next :: later).map Prod.fst) ++ [closing] ++ rest) := by
        simp [separated]
      rw [split, sequence?, first.takes, Option.bind_some]
      dsimp only
      rw [dropSpace_cons rfl]
      dsimp only
      rw [if_neg closes.notComma.symm, if_pos rfl, onward]
      rfl

theorem takes_collection (closes : Closes closing) {parts : List (List Char × α)} {fuel : Nat}
    (enough : (separated ',' (parts.map Prod.fst)).length < fuel)
    (each : ∀ part ∈ parts, part.1.length ≤ fuel → IsPart closing item? part) :
    Takes (collection? closing item? fuel) (separated ',' (parts.map Prod.fst) ++ [closing])
      (parts.map Prod.snd) := by
  intro rest
  -- The text of the whole bounds the number of the parts and the text of each of them.
  have few := length_le_length_separated ',' (parts.map Prod.fst)
  have part : ∀ part ∈ parts, IsPart closing item? part := by
    intro part listed
    have short := length_le_separated ',' (List.mem_map_of_mem (f := Prod.fst) listed)
    exact each part listed (by omega)
  cases parts with
  | nil => simp [separated, collection?, dropSpace_cons closes.visible]
  | cons first later =>
      obtain ⟨isFirst, others⟩ := List.forall_mem_cons.mp part
      obtain ⟨character, behind, shape, visible, notEnd⟩ := isFirst.starts
      have fewer : later.length < fuel := by
        rw [List.length_map, List.length_cons] at few
        omega
      have sequence := takes_sequence closes first later fewer isFirst others rest
      rw [List.map_cons, separated, shape] at sequence ⊢
      simp only [List.cons_append] at sequence ⊢
      rw [collection?, dropSpace_cons visible]
      dsimp only
      rw [if_neg notEnd]
      exact sequence

end Collections

/-! ## Values -/

/-- A value is read from its own text, as long as the text is not longer than the reader
may be deep. -/
def IsRead (json : Json) : Prop :=
  ∀ fuel, json.write.length ≤ fuel → Takes (read? fuel) json.write json.value

theorem exists_write (json : Json) :
    ∃ first later, json.write = first :: later ∧ isSpace first = false ∧ first ≠ ']' := by
  cases json <;> (rw [write]; exact ⟨_, _, rfl, rfl, by decide⟩)

theorem closes_list : Closes ']' := ⟨rfl, by decide⟩

theorem closes_object : Closes '\x7d' := ⟨rfl, by decide⟩

theorem read?_list (fuel : Nat) (rest : List Char) :
    read? (fuel + 1) ('[' :: rest) =
      (collection? ']' (read? fuel) fuel rest).map fun (items, tail) => (.list items, tail) :=
  rfl

theorem read?_object (fuel : Nat) (rest : List Char) :
    read? (fuel + 1) ('\x7b' :: rest) =
      (collection? '\x7d' (member? (read? fuel)) fuel rest).map fun (members, tail) =>
        (.object members, tail) :=
  rfl

theorem read?_quoteMark (fuel : Nat) (rest : List Char) :
    read? (fuel + 1) ('"' :: rest) =
      (string? rest).map fun (content, tail) => (.text content, tail) :=
  rfl

private theorem member?_quoteMark (value? : List Char → Option (Value × List Char))
    (rest : List Char) :
    member? value? ('"' :: rest) = (string? rest).bind fun (name, named) =>
      (assigned? value? named).map fun (content, tail) => ((name, content), tail) :=
  rfl

private theorem assigned?_colon (value? : List Char → Option (Value × List Char))
    (rest : List Char) :
    assigned? value? (':' :: rest) = value? rest :=
  rfl

theorem isRead_null : IsRead .null := by
  intro fuel enough rest
  rw [write] at enough ⊢
  rw [value]
  obtain ⟨fuel, rfl⟩ := Nat.exists_eq_succ_of_ne_zero (Nat.ne_zero_of_lt enough)
  rfl

theorem isRead_text (content : String) : IsRead (.text content) := by
  intro fuel enough rest
  rw [write, quote] at enough ⊢
  rw [value]
  obtain ⟨fuel, rfl⟩ := Nat.exists_eq_succ_of_ne_zero (Nat.ne_zero_of_lt enough)
  rw [List.cons_append, List.cons_append, read?_quoteMark, takes_string, Option.map_some]

theorem takes_member {value? : List Char → Option (Value × List Char)} {json : Json}
    (takes : Takes value? json.write json.value) (name : String) :
    Takes (member? value?) (quote name ++ ':' :: json.write) (name, json.value) := by
  intro rest
  have shape : quote name ++ ':' :: json.write ++ rest =
      '"' :: (name.toList.flatMap escape ++ ['"'] ++ (':' :: (json.write ++ rest))) := by
    simp [quote]
  rw [shape, member?_quoteMark, takes_string, Option.bind_some]
  dsimp only
  rw [assigned?_colon, takes, Option.map_some]

/-- An item of a list beside what it stands for. -/
def itemPart (item : Json) : List Char × Value :=
  (item.write, item.value)

/-- A field of an object beside what it stands for. -/
def fieldPart (field : String × Json) : List Char × String × Value :=
  (quote field.1 ++ ':' :: field.2.write, field.1, field.2.value)

private theorem write_list (items : List Json) :
    (Json.list items).write =
      '[' :: (separated ',' ((items.map itemPart).map Prod.fst) ++ [']']) := by
  rw [write, writeItems_eq, List.map_map]
  rfl

private theorem write_object (fields : List (String × Json)) :
    (Json.object fields).write =
      '\x7b' :: (separated ',' ((fields.map fieldPart).map Prod.fst) ++ ['\x7d']) := by
  rw [write, writeFields_eq, List.map_map]
  rfl

private theorem value_list (items : List Json) :
    (Json.list items).value = .list ((items.map itemPart).map Prod.snd) := by
  rw [value, List.map_map]
  rfl

private theorem value_object (fields : List (String × Json)) :
    (Json.object fields).value = .object ((fields.map fieldPart).map Prod.snd) := by
  rw [value, List.map_map]
  rfl

theorem isRead_list {items : List Json} (each : ∀ item ∈ items, IsRead item) :
    IsRead (.list items) := by
  intro fuel enough rest
  rw [write_list] at enough ⊢
  rw [List.length_cons, List.length_append, List.length_singleton] at enough
  obtain ⟨fuel, rfl⟩ := Nat.exists_eq_succ_of_ne_zero (Nat.ne_zero_of_lt enough)
  have parts : ∀ part ∈ items.map itemPart, part.1.length ≤ fuel →
      IsPart ']' (read? fuel) part := by
    rw [List.forall_mem_map]
    intro item listed short
    exact ⟨exists_write item, each item listed fuel short⟩
  rw [List.cons_append, read?_list, takes_collection closes_list (by omega) parts,
    Option.map_some, value_list]

theorem isRead_object {fields : List (String × Json)}
    (each : ∀ field ∈ fields, IsRead field.2) : IsRead (.object fields) := by
  intro fuel enough rest
  rw [write_object] at enough ⊢
  rw [List.length_cons, List.length_append, List.length_singleton] at enough
  obtain ⟨fuel, rfl⟩ := Nat.exists_eq_succ_of_ne_zero (Nat.ne_zero_of_lt enough)
  have parts : ∀ part ∈ fields.map fieldPart, part.1.length ≤ fuel →
      IsPart '\x7d' (member? (read? fuel)) part := by
    rw [List.forall_mem_map]
    intro field listed short
    have shorter : field.2.write.length ≤ fuel := by
      rw [fieldPart, List.length_append, List.length_cons] at short
      omega
    exact ⟨⟨_, _, rfl, rfl, by decide⟩, takes_member (each field listed fuel shorter) field.1⟩
  rw [List.cons_append, read?_object, takes_collection closes_object (by omega) parts,
    Option.map_some, value_object]

theorem isRead (json : Json) : IsRead json := by
  induction json using value.induct with
  | case1 => exact isRead_null
  | case2 content => exact isRead_text content
  | case3 items each => exact isRead_list each
  | case4 fields each => exact isRead_object each

/-- The text of a value is read as that value, also if white space follows it. -/
theorem parse?_render_append (json : Json) {trailing : String}
    (blank : trailing.toList.all isSpace) :
    parse? (json.render ++ trailing) = some json.value := by
  have enough : json.write.length ≤ (json.render ++ trailing).length + 1 := by
    rw [render, String.length_append, String.length_ofList]
    omega
  have nothing : dropSpace trailing.toList = [] := by
    rw [dropSpace, List.dropWhile_eq_nil_iff]
    exact List.all_eq_true.mp blank
  rw [parse?, render, String.toList_append, String.toList_ofList]
  rw [render] at enough
  rw [isRead json _ enough, Option.bind_some]
  dsimp only
  rw [nothing, List.isEmpty_nil, if_pos rfl]

end ProfileShell.Json
