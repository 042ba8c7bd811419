import ProfileShell.Text.Utf8

/-!
# Reading UTF-8 back

`Spelled` lists the ways to spell a character in octets.  A writer of text spells each
character that way, and the reader of octets finds exactly the characters that are
spelled there.  So the octets of a text are read as that text, and octets that are read
as a text are the octets of that text and of no other.
-/

namespace ProfileShell.Utf8

/-- The number of a character once an octet is added to its bits. -/
def extend (bits : Nat) (octet : UInt8) : Nat :=
  bits * 64 + (octet.toNat - 0x80)

/-- An octet behind the first one of a character. -/
def Follows (octet : UInt8) : Prop :=
  0x80 ≤ octet.toNat ∧ octet.toNat ≤ 0xBF

/-- The octets of a character.  The bounds on a second octet keep out forms that could be
shorter, surrogates and numbers beyond the last code point. -/
inductive Spelled : Char → Bytes → Prop where
  | one (octet : UInt8) (below : octet.toNat < 0x80) :
      Spelled (Char.ofNat octet.toNat) [octet]
  | two (first second : UInt8) (above : 0xC2 ≤ first.toNat) (below : first.toNat < 0xE0)
      (follows : Follows second) :
      Spelled (Char.ofNat (extend (first.toNat - 0xC0) second)) [first, second]
  | three (first second third : UInt8) (above : 0xE0 ≤ first.toNat)
      (below : first.toNat < 0xF0) (follows : Follows second)
      (long : first.toNat = 0xE0 → 0xA0 ≤ second.toNat)
      (scalar : first.toNat = 0xED → second.toNat ≤ 0x9F) (ends : Follows third) :
      Spelled (Char.ofNat (extend (extend (first.toNat - 0xE0) second) third))
        [first, second, third]
  | four (first second third fourth : UInt8) (above : 0xF0 ≤ first.toNat)
      (below : first.toNat ≤ 0xF4) (follows : Follows second)
      (long : first.toNat = 0xF0 → 0x90 ≤ second.toNat)
      (scalar : first.toNat = 0xF4 → second.toNat ≤ 0x8F) (further : Follows third)
      (ends : Follows fourth) :
      Spelled
        (Char.ofNat (extend (extend (extend (first.toNat - 0xF0) second) third) fourth))
        [first, second, third, fourth]

/-! ## Writing -/

theorem toNat_ofNat_of_valid {value : Nat} (valid : value.isValidChar) :
    (Char.ofNat value).val.toNat = value := by
  rw [Char.ofNat, dif_pos valid]
  rfl

private theorem ofNat_eq_of_toNat {value : Nat} {octet : UInt8} (same : value = octet.toNat) :
    UInt8.ofNat value = octet := by
  rw [same, UInt8.ofNat_toNat]

private theorem toNat_ofNat_octet {value : Nat} (below : value < 256) :
    (UInt8.ofNat value).toNat = value := by
  simp [Nat.mod_eq_of_lt below]

/-- Whoever spells a character spells it as a writer does. -/
theorem Spelled.eq_utf8EncodeChar {character : Char} {octets : Bytes}
    (spelled : Spelled character octets) : String.utf8EncodeChar character = octets := by
  cases spelled with
  | one octet below =>
      have value : (Char.ofNat octet.toNat).val.toNat = octet.toNat :=
        toNat_ofNat_of_valid (by unfold Nat.isValidChar; omega)
      unfold String.utf8EncodeChar
      rewrite [value, if_pos (by omega)]
      simp only [List.cons.injEq, and_true]
      exact ofNat_eq_of_toNat rfl
  | two first second above below follows =>
      unfold Follows at follows
      have valid : (extend (first.toNat - 0xC0) second).isValidChar := by
        unfold extend Nat.isValidChar
        omega
      unfold String.utf8EncodeChar
      rewrite [toNat_ofNat_of_valid valid, if_neg (by unfold extend; omega),
        if_pos (by unfold extend; omega)]
      simp only [List.cons.injEq, and_true]
      refine ⟨ofNat_eq_of_toNat ?_, ofNat_eq_of_toNat ?_⟩ <;> unfold extend <;> omega
  | three first second third above below follows long scalar ends =>
      unfold Follows at follows ends
      have valid : (extend (extend (first.toNat - 0xE0) second) third).isValidChar := by
        unfold extend Nat.isValidChar
        omega
      unfold String.utf8EncodeChar
      rewrite [toNat_ofNat_of_valid valid, if_neg (by unfold extend; omega),
        if_neg (by unfold extend; omega), if_pos (by unfold extend; omega)]
      simp only [List.cons.injEq, and_true]
      refine ⟨ofNat_eq_of_toNat ?_, ofNat_eq_of_toNat ?_, ofNat_eq_of_toNat ?_⟩ <;>
        unfold extend <;> omega
  | four first second third fourth above below follows long scalar further ends =>
      unfold Follows at follows further ends
      have valid : (extend (extend (extend (first.toNat - 0xF0) second) third)
          fourth).isValidChar := by
        unfold extend Nat.isValidChar
        omega
      unfold String.utf8EncodeChar
      rewrite [toNat_ofNat_of_valid valid, if_neg (by unfold extend; omega),
        if_neg (by unfold extend; omega), if_neg (by unfold extend; omega)]
      simp only [List.cons.injEq, and_true]
      refine ⟨ofNat_eq_of_toNat ?_, ofNat_eq_of_toNat ?_, ofNat_eq_of_toNat ?_,
        ofNat_eq_of_toNat ?_⟩ <;> unfold extend <;> omega

/-- A writer spells every character. -/
theorem spelled_utf8EncodeChar (character : Char) :
    Spelled character (String.utf8EncodeChar character) := by
  have valid : character.val.toNat.isValidChar := character.valid
  have same : character = Char.ofNat character.val.toNat := (Char.ofNat_toNat character).symm
  unfold String.utf8EncodeChar
  generalize character.val.toNat = value at valid same
  subst same
  unfold Nat.isValidChar at valid
  dsimp only
  split
  case isTrue small =>
    have octet : (UInt8.ofNat value).toNat = value := toNat_ofNat_octet (by omega)
    have spelled := Spelled.one (UInt8.ofNat value) (by omega)
    rwa [octet] at spelled
  case isFalse =>
    have last : (UInt8.ofNat (value % 64 + 128)).toNat = value % 64 + 128 :=
      toNat_ofNat_octet (by omega)
    generalize UInt8.ofNat (value % 64 + 128) = final at last
    have ends : Follows final := ⟨by omega, by omega⟩
    split
    case isTrue small =>
      have leads : (UInt8.ofNat (value / 64 % 32 + 192)).toNat = value / 64 % 32 + 192 :=
        toNat_ofNat_octet (by omega)
      generalize UInt8.ofNat (value / 64 % 32 + 192) = first at leads
      have number : extend (first.toNat - 0xC0) final = value := by
        unfold extend
        omega
      rw [← number]
      exact .two first final (by omega) (by omega) ends
    case isFalse =>
      have middle : (UInt8.ofNat (value / 64 % 64 + 128)).toNat = value / 64 % 64 + 128 :=
        toNat_ofNat_octet (by omega)
      generalize UInt8.ofNat (value / 64 % 64 + 128) = further at middle
      have follows : Follows further := ⟨by omega, by omega⟩
      split
      case isTrue small =>
        have leads : (UInt8.ofNat (value / 4096 % 16 + 224)).toNat =
            value / 4096 % 16 + 224 := toNat_ofNat_octet (by omega)
        generalize UInt8.ofNat (value / 4096 % 16 + 224) = first at leads
        have number : extend (extend (first.toNat - 0xE0) further) final = value := by
          unfold extend
          omega
        rw [← number]
        exact .three first further final (by omega) (by omega) follows (by omega) (by omega)
          ends
      case isFalse =>
        have leads : (UInt8.ofNat (value / 262144 % 8 + 240)).toNat =
            value / 262144 % 8 + 240 := toNat_ofNat_octet (by omega)
        generalize UInt8.ofNat (value / 262144 % 8 + 240) = first at leads
        have next : (UInt8.ofNat (value / 4096 % 64 + 128)).toNat =
            value / 4096 % 64 + 128 := toNat_ofNat_octet (by omega)
        generalize UInt8.ofNat (value / 4096 % 64 + 128) = second at next
        have number :
            extend (extend (extend (first.toNat - 0xF0) second) further) final = value := by
          unfold extend
          omega
        rw [← number]
        exact .four first second further final (by omega) (by omega) ⟨by omega, by omega⟩
          (by omega) (by omega) follows ends

/-! ## Reading -/

theorem piecesFrom_cons (pending : Option Pending) (octet : UInt8) (rest : Bytes) :
    piecesFrom pending (octet :: rest) =
      (advance pending octet).1 ++ piecesFrom (advance pending octet).2 rest := by
  cases pending <;> rfl

theorem start_of_one {octet : UInt8} (below : octet.toNat < 0x80) :
    start octet = ([some (Char.ofNat octet.toNat)], none) := by
  simp [start, lead, below]

theorem start_of_two {octet : UInt8} (above : 0xC2 ≤ octet.toNat)
    (below : octet.toNat < 0xE0) :
    start octet = ([], some ⟨0x80, 0xBF, 0, octet.toNat - 0xC0⟩) := by
  have notOne : ¬ octet.toNat < 0x80 := by omega
  have notStray : ¬ octet.toNat < 0xC2 := by omega
  simp [start, lead, notOne, notStray, below]

theorem start_of_three {octet : UInt8} (above : 0xE0 ≤ octet.toNat)
    (below : octet.toNat < 0xF0) :
    start octet = ([], some ⟨if octet.toNat = 0xE0 then 0xA0 else 0x80,
      if octet.toNat = 0xED then 0x9F else 0xBF, 1, octet.toNat - 0xE0⟩) := by
  have notOne : ¬ octet.toNat < 0x80 := by omega
  have notStray : ¬ octet.toNat < 0xC2 := by omega
  have notTwo : ¬ octet.toNat < 0xE0 := by omega
  by_cases first : octet.toNat = 0xE0
  · simp [start, lead, first]
  · by_cases surrogates : octet.toNat = 0xED
    · simp [start, lead, surrogates]
    · simp [start, lead, notOne, notStray, notTwo, below, first, surrogates]

theorem start_of_four {octet : UInt8} (above : 0xF0 ≤ octet.toNat)
    (below : octet.toNat ≤ 0xF4) :
    start octet = ([], some ⟨if octet.toNat = 0xF0 then 0x90 else 0x80,
      if octet.toNat = 0xF4 then 0x8F else 0xBF, 2, octet.toNat - 0xF0⟩) := by
  have notOne : ¬ octet.toNat < 0x80 := by omega
  have notStray : ¬ octet.toNat < 0xC2 := by omega
  have notTwo : ¬ octet.toNat < 0xE0 := by omega
  have notThree : ¬ octet.toNat < 0xF0 := by omega
  have notFirst : octet.toNat ≠ 0xE0 := by omega
  have notSurrogates : octet.toNat ≠ 0xED := by omega
  by_cases first : octet.toNat = 0xF0
  · simp [start, lead, first]
  · by_cases last : octet.toNat = 0xF4
    · simp [start, lead, last]
    · have between : octet.toNat < 0xF4 := by omega
      simp [start, lead, notOne, notStray, notTwo, notFirst, notSurrogates, notThree, first,
        last, between]

/-- No character starts with any other octet. -/
theorem start_of_stray {octet : UInt8}
    (stray : 0x80 ≤ octet.toNat ∧ octet.toNat < 0xC2 ∨ 0xF4 < octet.toNat) :
    start octet = ([none], none) := by
  have notOne : ¬ octet.toNat < 0x80 := by omega
  rcases stray with ⟨_, below⟩ | above
  · simp [start, lead, notOne, below]
  · have notStray : ¬ octet.toNat < 0xC2 := by omega
    have notTwo : ¬ octet.toNat < 0xE0 := by omega
    have notThree : ¬ octet.toNat < 0xF0 := by omega
    have notFour : ¬ octet.toNat < 0xF4 := by omega
    have notFirst : octet.toNat ≠ 0xE0 := by omega
    have notSurrogates : octet.toNat ≠ 0xED := by omega
    have notLong : octet.toNat ≠ 0xF0 := by omega
    have notLast : octet.toNat ≠ 0xF4 := by omega
    simp [start, lead, notOne, notStray, notTwo, notFirst, notSurrogates, notThree, notLong,
      notFour, notLast]

section Open

variable {low high octet : UInt8}

private theorem piecesFrom_last (bits : Nat) (above : low ≤ octet) (below : octet ≤ high)
    (rest : Bytes) :
    piecesFrom (some ⟨low, high, 0, bits⟩) (octet :: rest) =
      some (Char.ofNat (extend bits octet)) :: piecesFrom none rest := by
  rw [piecesFrom_cons, advance, if_pos ⟨above, below⟩]
  rfl

private theorem piecesFrom_further (more bits : Nat) (above : low ≤ octet) (below : octet ≤ high)
    (rest : Bytes) :
    piecesFrom (some ⟨low, high, more + 1, bits⟩) (octet :: rest) =
      piecesFrom (some ⟨0x80, 0xBF, more, extend bits octet⟩) rest := by
  rw [piecesFrom_cons, advance, if_pos ⟨above, below⟩]
  rfl

/-- Where nothing but whole characters is found, an open character goes on with an octet
within its bounds. -/
theorem continued_of_piecesFrom {further bits : Nat} {bytes : Bytes}
    {characters : List Char}
    (read : piecesFrom (some ⟨low, high, further, bits⟩) bytes = characters.map some) :
    ∃ octet rest, bytes = octet :: rest ∧ low ≤ octet ∧ octet ≤ high := by
  cases bytes with
  | nil => cases characters <;> simp [piecesFrom] at read
  | cons octet rest =>
      refine ⟨octet, rest, rfl, Classical.byContradiction fun outside => ?_⟩
      rw [piecesFrom_cons, advance, if_neg outside] at read
      cases characters <;> simp at read

end Open

theorem Follows.bounds {octet : UInt8} (follows : Follows octet) :
    (0x80 : UInt8) ≤ octet ∧ octet ≤ 0xBF := by
  obtain ⟨low, high⟩ := follows
  exact ⟨UInt8.le_iff_toNat_le.mpr low, UInt8.le_iff_toNat_le.mpr high⟩

theorem follows_of_bounds {octet : UInt8} (low : (0x80 : UInt8) ≤ octet)
    (high : octet ≤ 0xBF) : Follows octet :=
  ⟨UInt8.le_iff_toNat_le.mp low, UInt8.le_iff_toNat_le.mp high⟩

/-- A character that is spelled is read, whatever follows. -/
theorem Spelled.piecesFrom_append {character : Char} {octets : Bytes}
    (spelled : Spelled character octets) (rest : Bytes) :
    piecesFrom none (octets ++ rest) = some character :: piecesFrom none rest := by
  cases spelled with
  | one octet below =>
      rw [List.cons_append, piecesFrom_cons, advance, start_of_one below]
      rfl
  | two first second above below follows =>
      rw [List.cons_append, piecesFrom_cons, advance, start_of_two above below]
      exact piecesFrom_last _ follows.bounds.1 follows.bounds.2 rest
  | three first second third above below follows long scalar ends =>
      have lowest : (if first.toNat = 0xE0 then 0xA0 else 0x80) ≤ second := by
        split
        case isTrue shortest => exact UInt8.le_iff_toNat_le.mpr (long shortest)
        case isFalse => exact follows.bounds.1
      have highest : second ≤ (if first.toNat = 0xED then 0x9F else 0xBF) := by
        split
        case isTrue surrogates => exact UInt8.le_iff_toNat_le.mpr (scalar surrogates)
        case isFalse => exact follows.bounds.2
      rw [List.cons_append, piecesFrom_cons, advance, start_of_three above below]
      exact (piecesFrom_further 0 _ lowest highest (third :: rest)).trans
        (piecesFrom_last _ ends.bounds.1 ends.bounds.2 rest)
  | four first second third fourth above below follows long scalar further ends =>
      have lowest : (if first.toNat = 0xF0 then 0x90 else 0x80) ≤ second := by
        split
        case isTrue shortest => exact UInt8.le_iff_toNat_le.mpr (long shortest)
        case isFalse => exact follows.bounds.1
      have highest : second ≤ (if first.toNat = 0xF4 then 0x8F else 0xBF) := by
        split
        case isTrue last => exact UInt8.le_iff_toNat_le.mpr (scalar last)
        case isFalse => exact follows.bounds.2
      rw [List.cons_append, piecesFrom_cons, advance, start_of_four above below]
      exact (piecesFrom_further 1 _ lowest highest (third :: fourth :: rest)).trans
        ((piecesFrom_further 0 _ further.bounds.1 further.bounds.2 (fourth :: rest)).trans
          (piecesFrom_last _ ends.bounds.1 ends.bounds.2 rest))

/-- Where nothing but whole characters is found, the first one is spelled at the start. -/
theorem spelled_of_piecesFrom {octet : UInt8} {bytes : Bytes} {characters : List Char}
    (read : piecesFrom none (octet :: bytes) = characters.map some) :
    ∃ character octets rest others, octet :: bytes = octets ++ rest ∧
      Spelled character octets ∧ characters = character :: others ∧
      piecesFrom none rest = others.map some := by
  have found : ∀ (character : Char) (octets rest : Bytes), octet :: bytes = octets ++ rest →
      Spelled character octets → ∃ character octets rest others,
        octet :: bytes = octets ++ rest ∧ Spelled character octets ∧
        characters = character :: others ∧ piecesFrom none rest = others.map some := by
    intro character octets rest cut spelled
    rw [cut, spelled.piecesFrom_append] at read
    cases characters with
    | nil => cases read
    | cons first others =>
        rw [List.map_cons, List.cons.injEq, Option.some.injEq] at read
        exact ⟨character, octets, rest, others, cut, spelled, by rw [read.1], read.2⟩
  rw [piecesFrom_cons, advance] at read
  by_cases one : octet.toNat < 0x80
  · exact found _ [octet] bytes rfl (.one octet one)
  by_cases two : 0xC2 ≤ octet.toNat ∧ octet.toNat < 0xE0
  · rw [start_of_two two.1 two.2] at read
    obtain ⟨second, rest, rfl, low, high⟩ := continued_of_piecesFrom read
    exact found _ [octet, second] rest rfl
      (.two octet second two.1 two.2 (follows_of_bounds low high))
  by_cases three : 0xE0 ≤ octet.toNat ∧ octet.toNat < 0xF0
  · rw [start_of_three three.1 three.2] at read
    obtain ⟨second, bytes, rfl, low, high⟩ := continued_of_piecesFrom read
    have further := (piecesFrom_further 0 _ low high bytes).symm.trans read
    obtain ⟨third, rest, rfl, lowest, highest⟩ := continued_of_piecesFrom further
    have low := UInt8.le_iff_toNat_le.mp low
    have high := UInt8.le_iff_toNat_le.mp high
    refine found _ [octet, second, third] rest rfl
      (.three octet second third three.1 three.2 ⟨?_, ?_⟩ ?_ ?_
        (follows_of_bounds lowest highest))
    · split at low <;> simp at low <;> omega
    · split at high <;> simp at high <;> omega
    · intro shortest
      simpa [shortest] using low
    · intro surrogates
      simpa [surrogates] using high
  by_cases four : 0xF0 ≤ octet.toNat ∧ octet.toNat ≤ 0xF4
  · rw [start_of_four four.1 four.2] at read
    obtain ⟨second, bytes, rfl, low, high⟩ := continued_of_piecesFrom read
    have further := (piecesFrom_further 1 _ low high bytes).symm.trans read
    obtain ⟨third, bytes, rfl, lower, higher⟩ := continued_of_piecesFrom further
    have last := (piecesFrom_further 0 _ lower higher bytes).symm.trans further
    obtain ⟨fourth, rest, rfl, lowest, highest⟩ := continued_of_piecesFrom last
    have low := UInt8.le_iff_toNat_le.mp low
    have high := UInt8.le_iff_toNat_le.mp high
    refine found _ [octet, second, third, fourth] rest rfl
      (.four octet second third fourth four.1 four.2 ⟨?_, ?_⟩ ?_ ?_
        (follows_of_bounds lower higher) (follows_of_bounds lowest highest))
    · split at low <;> simp at low <;> omega
    · split at high <;> simp at high <;> omega
    · intro shortest
      simpa [shortest] using low
    · intro largest
      simpa [largest] using high
  · rw [start_of_stray (by omega)] at read
    cases characters <;> cases read

/-! ## Texts -/

theorem encode_ofList_cons (character : Char) (rest : List Char) :
    encode (String.ofList (character :: rest)) =
      String.utf8EncodeChar character ++ encode (String.ofList rest) := by
  simp [encode]

theorem encode_append (first second : String) :
    encode (first ++ second) = encode first ++ encode second := by
  simp [encode]

theorem piecesFrom_encode_append (text : String) (rest : Bytes) :
    piecesFrom none (encode text ++ rest) = text.toList.map some ++ piecesFrom none rest := by
  unfold encode
  induction text.toList with
  | nil => rfl
  | cons character characters ih =>
      rw [List.flatMap_cons, List.append_assoc,
        (spelled_utf8EncodeChar character).piecesFrom_append, ih]
      rfl

theorem pieces_encode (text : String) : pieces (encode text) = text.toList.map some := by
  have read := piecesFrom_encode_append text []
  rwa [List.append_nil, piecesFrom, List.append_nil] at read

/-- Octets that are read as whole characters spell them. -/
theorem flatMap_utf8EncodeChar_of_piecesFrom {bytes : Bytes} {characters : List Char}
    (read : piecesFrom none bytes = characters.map some) :
    characters.flatMap String.utf8EncodeChar = bytes := by
  induction size : bytes.length using Nat.strongRecOn generalizing bytes characters with
  | ind length ih =>
      cases bytes with
      | nil =>
          cases characters with
          | nil => rfl
          | cons => cases read
      | cons octet bytes =>
          obtain ⟨character, octets, rest, others, cut, spelled, rfl, readRest⟩ :=
            spelled_of_piecesFrom read
          have shorter : rest.length < length := by
            have nonempty : 0 < octets.length := by cases spelled <;> simp
            rw [← size, cut, List.length_append]
            omega
          rw [List.flatMap_cons, ih rest.length shorter readRest rfl, cut,
            spelled.eq_utf8EncodeChar]

theorem mapM_id_eq_some_iff {α : Type} (options : List (Option α)) (values : List α) :
    options.mapM id = some values ↔ options = values.map some := by
  induction options generalizing values with
  | nil => cases values <;> simp
  | cons option options ih =>
      cases option with
      | none => cases values <;> simp
      | some value =>
          cases values with
          | nil => cases tail : options.mapM id <;> simp [tail]
          | cons head rest =>
              simp only [List.mapM_cons, id_eq, Option.bind_eq_bind, Option.bind_some,
                Option.bind_eq_some_iff, ih, Option.pure_def, Option.some.injEq,
                List.cons.injEq, List.map_cons]
              constructor
              · rintro ⟨_, read, rfl, rfl⟩
                exact ⟨rfl, read⟩
              · rintro ⟨rfl, read⟩
                exact ⟨rest, read, rfl, rfl⟩

theorem decode?_eq_some_iff (bytes : Bytes) (text : String) :
    decode? bytes = some text ↔ pieces bytes = text.toList.map some := by
  rw [decode?, Option.map_eq_some_iff, ← mapM_id_eq_some_iff]
  constructor
  · rintro ⟨characters, read, rfl⟩
    rwa [String.toList_ofList]
  · exact fun read => ⟨text.toList, read, String.ofList_toList⟩

/-- The octets of a text are read as that text. -/
theorem decode?_encode (text : String) : decode? (encode text) = some text :=
  (decode?_eq_some_iff _ text).mpr (pieces_encode text)

/-- Octets that are read as a text are the octets of that text. -/
theorem encode_of_decode? {bytes : Bytes} {text : String}
    (read : decode? bytes = some text) : encode text = bytes :=
  flatMap_utf8EncodeChar_of_piecesFrom ((decode?_eq_some_iff bytes text).mp read)

theorem encode_injective {first second : String} (same : encode first = encode second) :
    first = second := by
  have read := decode?_encode first
  rw [same, decode?_encode] at read
  exact (Option.some.inj read).symm

/-- Every octet completes a piece or leaves a character open. -/
theorem opened_of_completed_nil {pending : Option Pending} {octet : UInt8}
    (nothing : (advance pending octet).1 = []) : (advance pending octet).2 ≠ none := by
  have fresh : (start octet).1 = [] → (start octet).2 ≠ none := by
    unfold start
    cases lead octet <;> simp
  cases pending with
  | none => exact fresh nothing
  | some pending =>
      obtain ⟨low, high, further, bits⟩ := pending
      unfold advance at nothing ⊢
      by_cases continued : low ≤ octet ∧ octet ≤ high
      · cases further <;> simp [continued] at nothing ⊢
      · simp [continued] at nothing

private theorem eq_nil_of_piecesFrom {pending : Option Pending} {bytes : Bytes}
    (nothing : piecesFrom pending bytes = []) : pending = none ∧ bytes = [] := by
  induction bytes generalizing pending with
  | nil =>
      cases pending with
      | none => exact ⟨rfl, rfl⟩
      | some pending => cases nothing
  | cons octet rest ih =>
      rw [piecesFrom_cons, List.append_eq_nil_iff] at nothing
      exact absurd (ih nothing.2).1 (opened_of_completed_nil nothing.1)

/-- Octets are shown as nothing only if there are none. -/
theorem lossy_ne_empty {bytes : Bytes} (occupied : bytes ≠ []) : lossy bytes ≠ "" := by
  intro empty
  have nothing := congrArg String.toList empty
  rw [lossy, String.toList_ofList] at nothing
  exact occupied (eq_nil_of_piecesFrom (List.map_eq_nil_iff.mp nothing)).2

theorem lossy_of_decode? {bytes : Bytes} {text : String}
    (read : decode? bytes = some text) : lossy bytes = text := by
  rw [lossy, (decode?_eq_some_iff bytes text).mp read, List.map_map]
  exact (congrArg String.ofList (List.map_id _)).trans String.ofList_toList

theorem encode_lossy_of_decode? {bytes : Bytes} {text : String}
    (read : decode? bytes = some text) : encode (lossy bytes) = bytes := by
  rw [lossy_of_decode? read, encode_of_decode? read]

end ProfileShell.Utf8
