import ProfileShell.Proofs.Text.Utf8

/-!
# ASCII among octets

A character of ASCII is a single octet, and the octets of all other characters are beyond
ASCII.  A byte string need not be text.  Still, every character of ASCII that its reader
finds stands there as an octet of its own.
-/

namespace ProfileShell.Utf8

/-- What spans several octets is beyond ASCII, octet by octet. -/
theorem Spelled.eq_ofNat_of_mem {character : Char} {octets : Bytes}
    (spelled : Spelled character octets) {octet : UInt8} (member : octet ∈ octets)
    (small : octet.toNat < 0x80) : character = Char.ofNat octet.toNat := by
  cases spelled with
  | one => rw [List.mem_singleton.mp member]
  | two first second above below follows =>
      have beyond : ∀ octet ∈ [first, second], 0x80 ≤ octet.toNat := by
        simp [follows.1]
        omega
      exact absurd small (Nat.not_lt.mpr (beyond octet member))
  | three first second third above below follows long scalar ends =>
      have beyond : ∀ octet ∈ [first, second, third], 0x80 ≤ octet.toNat := by
        simp [follows.1, ends.1]
        omega
      exact absurd small (Nat.not_lt.mpr (beyond octet member))
  | four first second third fourth above below follows long scalar further ends =>
      have beyond : ∀ octet ∈ [first, second, third, fourth], 0x80 ≤ octet.toNat := by
        simp [follows.1, further.1, ends.1]
        omega
      exact absurd small (Nat.not_lt.mpr (beyond octet member))

/-- An octet of ASCII in a text is a character of it. -/
theorem mem_of_mem_encode {text : String} {octet : UInt8} (small : octet.toNat < 0x80)
    (member : octet ∈ encode text) : Char.ofNat octet.toNat ∈ text.toList := by
  obtain ⟨character, listed, inside⟩ := List.mem_flatMap.mp member
  have same := (spelled_utf8EncodeChar character).eq_ofNat_of_mem inside small
  exact same ▸ listed

/-- A text starts with an octet of ASCII only as its first character. -/
theorem head?_encode_ne {text : String} {octet : UInt8} (small : octet.toNat < 0x80)
    (differs : text.toList.head? ≠ some (Char.ofNat octet.toNat)) :
    (encode text).head? ≠ some octet := by
  unfold encode
  cases characters : text.toList with
  | nil => simp
  | cons character rest =>
      rw [characters, List.head?_cons, ne_eq, Option.some.injEq] at differs
      have spelled := spelled_utf8EncodeChar character
      rw [List.flatMap_cons]
      generalize String.utf8EncodeChar character = octets at spelled
      cases octets with
      | nil => cases spelled
      | cons first others =>
          rw [List.cons_append, List.head?_cons, ne_eq, Option.some.injEq]
          rintro rfl
          exact differs (spelled.eq_ofNat_of_mem List.mem_cons_self small)

/-- A text ends with an octet of ASCII only as its last character. -/
theorem getLast?_encode_ne {text : String} {octet : UInt8} (small : octet.toNat < 0x80)
    (differs : text.toList.getLast? ≠ some (Char.ofNat octet.toNat)) :
    (encode text).getLast? ≠ some octet := by
  unfold encode
  rcases List.eq_nil_or_concat text.toList with empty | ⟨front, character, shape⟩
  · simp [empty]
  · rw [shape, List.concat_eq_append, List.getLast?_concat, ne_eq, Option.some.injEq] at differs
    have spelled := spelled_utf8EncodeChar character
    rw [shape, List.concat_eq_append, List.flatMap_append, List.flatMap_singleton,
      List.getLast?_append]
    generalize String.utf8EncodeChar character = octets at spelled
    cases ends : octets.getLast? with
    | none =>
        rw [List.getLast?_eq_none_iff.mp ends] at spelled
        cases spelled
    | some final =>
        rw [Option.some_or, ne_eq, Option.some.injEq]
        rintro rfl
        exact differs (spelled.eq_ofNat_of_mem (List.mem_of_getLast? ends) small)

/-- What stands in front of a character of ASCII ends with a whole character. -/
theorem exists_characters_of_append {bytes rest : Bytes} {octet : UInt8}
    (small : octet.toNat < 0x80) {characters : List Char}
    (same : characters.flatMap String.utf8EncodeChar = bytes ++ octet :: rest) :
    ∃ front : List Char, front.flatMap String.utf8EncodeChar = bytes := by
  induction characters generalizing bytes with
  | nil => simp at same
  | cons character characters ih =>
      rw [List.flatMap_cons] at same
      rcases List.append_eq_append_iff.mp same with
        ⟨behind, inside, later⟩ | ⟨behind, inside, later⟩
      · obtain ⟨front, spelled⟩ := ih later
        exact ⟨character :: front, by rw [List.flatMap_cons, spelled, inside]⟩
      · cases behind with
        | nil =>
            rw [List.append_nil] at inside
            exact ⟨[character], by rw [List.flatMap_singleton, inside]⟩
        | cons first others =>
            -- The octet is part of this character, so it is all of it.
            obtain ⟨rfl, _⟩ := List.cons.inj later
            have member : octet ∈ String.utf8EncodeChar character := by simp [inside]
            have whole := (spelled_utf8EncodeChar character).eq_ofNat_of_mem member small
            rw [whole, (Spelled.one octet small).eq_utf8EncodeChar] at inside
            have size := congrArg List.length inside
            rw [List.length_append, List.length_cons, List.length_cons, List.length_nil] at size
            exact ⟨[], (List.length_eq_zero_iff.mp (by omega)).symm⟩

/-- A text that starts with ASCII makes octets in front of it neither well-formed nor
ill-formed. -/
theorem isSome_decode?_append_iff {bytes : Bytes} {text : String}
    (ascii : ∀ octet, (encode text).head? = some octet → octet.toNat < 0x80) :
    (decode? (bytes ++ encode text)).isSome = true ↔ (decode? bytes).isSome = true := by
  constructor
  · intro wellFormed
    obtain ⟨whole, read⟩ := Option.isSome_iff_exists.mp wellFormed
    have spelled := encode_of_decode? read
    cases shape : encode text with
    | nil => rwa [shape, List.append_nil] at wellFormed
    | cons octet rest =>
        rw [shape] at spelled ascii
        obtain ⟨front, rfl⟩ := exists_characters_of_append (ascii octet rfl) spelled
        have again := decode?_encode (String.ofList front)
        rw [encode, String.toList_ofList] at again
        rw [again, Option.isSome_some]
  · intro wellFormed
    obtain ⟨front, read⟩ := Option.isSome_iff_exists.mp wellFormed
    rw [← encode_of_decode? read, ← encode_append, decode?_encode, Option.isSome_some]

theorem encode_lossy_of_ascii {bytes : Bytes}
    (ascii : ∀ octet ∈ bytes, octet.toNat < 0x80) : encode (lossy bytes) = bytes := by
  have spelled : encode (String.ofList (bytes.map fun octet => Char.ofNat octet.toNat)) =
      bytes := by
    induction bytes with
    | nil => rfl
    | cons octet rest ih =>
        obtain ⟨first, others⟩ := List.forall_mem_cons.mp ascii
        rw [List.map_cons, encode_ofList_cons, ih others,
          (Spelled.one octet first).eq_utf8EncodeChar]
        rfl
  have read :=
    decode?_encode (String.ofList (bytes.map fun octet => Char.ofNat octet.toNat))
  rw [spelled] at read
  exact encode_lossy_of_decode? read

/-! ## Ill-formed octets -/

/-- An open character that will be beyond ASCII, whatever octets complete it. -/
def Pending.IsLong (pending : Pending) : Prop :=
  2 ≤ pending.bits * 64 + (pending.low.toNat - 0x80) ∧
    (pending.further = 0 → 2 ≤ pending.bits)

/-- What a step completes of ASCII is its octet, and what it leaves open is beyond
ASCII. -/
def KeepsAscii (octet : UInt8) (step : List (Option Char) × Option Pending) : Prop :=
  (∀ character, some character ∈ step.1 → 0 < character.toNat → character.toNat < 0x80 →
    octet = UInt8.ofNat character.toNat) ∧
  ∀ pending, step.2 = some pending → pending.IsLong

theorem keepsAscii_start (octet : UInt8) : KeepsAscii octet (start octet) := by
  by_cases one : octet.toNat < 0x80
  · rw [start_of_one one]
    refine ⟨fun character found _ _ => ?_, fun _ opened => nomatch opened⟩
    have same := Option.some.inj (List.mem_singleton.mp found)
    have value : character.toNat = octet.toNat := by
      rw [same]
      exact toNat_ofNat_of_valid (by unfold Nat.isValidChar; omega)
    rw [value, UInt8.ofNat_toNat]
  by_cases two : 0xC2 ≤ octet.toNat ∧ octet.toNat < 0xE0
  · rw [start_of_two two.1 two.2]
    refine ⟨fun _ found => (List.not_mem_nil found).elim, fun _ opened => ?_⟩
    cases opened
    exact ⟨by dsimp only; omega, fun _ => by dsimp only; omega⟩
  by_cases three : 0xE0 ≤ octet.toNat ∧ octet.toNat < 0xF0
  · rw [start_of_three three.1 three.2]
    refine ⟨fun _ found => (List.not_mem_nil found).elim, fun _ opened => ?_⟩
    cases opened
    refine ⟨?_, fun last => nomatch last⟩
    dsimp only
    split
    case isTrue => exact Nat.le_add_left_of_le (by decide)
    case isFalse => omega
  by_cases four : 0xF0 ≤ octet.toNat ∧ octet.toNat ≤ 0xF4
  · rw [start_of_four four.1 four.2]
    refine ⟨fun _ found => (List.not_mem_nil found).elim, fun _ opened => ?_⟩
    cases opened
    refine ⟨?_, fun last => nomatch last⟩
    dsimp only
    split
    case isTrue => exact Nat.le_add_left_of_le (by decide)
    case isFalse => omega
  · rw [start_of_stray (by omega)]
    refine ⟨fun _ found => ?_, fun _ opened => nomatch opened⟩
    cases List.mem_singleton.mp found

theorem keepsAscii_advance {pending : Option Pending}
    (long : ∀ opened, pending = some opened → opened.IsLong) (octet : UInt8) :
    KeepsAscii octet (advance pending octet) := by
  cases pending with
  | none => exact keepsAscii_start octet
  | some opened =>
      obtain ⟨low, high, further, bits⟩ := opened
      obtain ⟨lowest, last⟩ := long _ rfl
      by_cases inside : low ≤ octet ∧ octet ≤ high
      · have above := UInt8.le_iff_toNat_le.mp inside.1
        have grown : 2 ≤ extend bits octet := by
          dsimp only at lowest
          unfold extend
          omega
        rw [advance, if_pos inside]
        cases further with
        | zero =>
            refine ⟨fun character found positive small => ?_, fun _ opened => by cases opened⟩
            have same := Option.some.inj (List.mem_singleton.mp found)
            have beyond : 0x80 ≤ extend bits octet := by
              have start := last rfl
              dsimp only at start
              unfold extend
              omega
            exfalso
            rw [same] at positive small
            by_cases valid : (extend bits octet).isValidChar
            · have value := toNat_ofNat_of_valid valid
              unfold extend at value beyond
              unfold Char.toNat at small
              omega
            · have zero : (Char.ofNat (extend bits octet)).toNat = 0 := by
                simp [Char.ofNat, valid, Char.toNat]
              unfold extend at zero
              omega
        | succ more =>
            refine ⟨fun _ found => (List.not_mem_nil found).elim, fun _ opened => ?_⟩
            cases opened
            exact ⟨Nat.le_add_right_of_le (by unfold extend at grown; dsimp only; omega),
              fun _ => grown⟩
      · rw [advance, if_neg inside]
        obtain ⟨completes, opens⟩ := keepsAscii_start octet
        refine ⟨fun character found => ?_, opens⟩
        rcases List.mem_cons.mp found with isNone | later
        · cases isNone
        · exact completes character later

theorem mem_of_mem_piecesFrom {pending : Option Pending}
    (long : ∀ opened, pending = some opened → opened.IsLong) {bytes : Bytes}
    {character : Char} (found : some character ∈ piecesFrom pending bytes)
    (positive : 0 < character.toNat) (small : character.toNat < 0x80) :
    UInt8.ofNat character.toNat ∈ bytes := by
  induction bytes generalizing pending with
  | nil => cases pending <;> simp [piecesFrom] at found
  | cons octet rest ih =>
      obtain ⟨completes, opens⟩ := keepsAscii_advance long octet
      rw [piecesFrom_cons, List.mem_append] at found
      rcases found with here | later
      · rw [← completes character here positive small]
        exact List.mem_cons_self
      · exact List.mem_cons_of_mem _ (ih opens later)

/-- A character of ASCII in the text of a byte string is one of its octets, also where the
octets around it are ill-formed. -/
theorem mem_of_mem_lossy {bytes : Bytes} {character : Char}
    (found : character ∈ (lossy bytes).toList) (positive : 0 < character.toNat)
    (small : character.toNat < 0x80) : UInt8.ofNat character.toNat ∈ bytes := by
  rw [lossy, String.toList_ofList, List.mem_map] at found
  obtain ⟨piece, read, isCharacter⟩ := found
  cases piece with
  | none =>
      rw [Option.getD_none] at isCharacter
      rw [← isCharacter] at small
      exact absurd small (by decide)
  | some held =>
      rw [Option.getD_some] at isCharacter
      rw [isCharacter] at read
      exact mem_of_mem_piecesFrom (fun _ opened => by cases opened) read positive small

end ProfileShell.Utf8
