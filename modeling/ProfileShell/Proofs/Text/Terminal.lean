import ProfileShell.Proofs.Text.Utf8
import ProfileShell.Text.Terminal

/-!
# Text that reaches a terminal as it is

A text without control characters, white space apart, has nothing in it that would steer a
terminal.  The octets of each of its characters are kept, and the reader stands where it
stood before that character.
-/

namespace ProfileShell.Text.Terminal

/-- A character is none of the control characters of ASCII. -/
def IsVisible (character : Char) : Prop :=
  0x20 ≤ character.toNat ∧ character ≠ '\x7f'

instance : DecidablePred IsVisible :=
  fun _ => inferInstanceAs (Decidable (_ ∧ _))

/-- A character is white space of ASCII or none of its control characters. -/
def IsHarmless (character : Char) : Prop :=
  IsVisible character ∨ character ∈ ['\t', '\n', '\x0c', '\r']

/-- Harmless text is left as it is. -/
def KeepsText (clean : Bytes → Bytes) : Prop :=
  ∀ text : String, (∀ character ∈ text.toList, IsHarmless character) →
    clean (Utf8.encode text) = Utf8.encode text

variable {octet : UInt8} {running : Bool}

/-! ## Single octets -/

private theorem read_printable (above : 0x20 ≤ octet.toNat) (below : octet.toNat ≤ 0x7E) :
    read .ground octet = (.ground, .shown) := by
  unfold read
  simp only [Bool.or_eq_true, decide_eq_true_eq, Bool.and_eq_true]
  rw [if_neg (by omega), if_neg (by omega), if_pos ⟨above, below⟩]

private theorem read_lead (above : 0xC2 ≤ octet.toNat) (below : octet.toNat ≤ 0xF4) :
    read .ground octet = (.character (continuationCount octet.toNat), .shown) := by
  unfold read
  simp only [Bool.or_eq_true, decide_eq_true_eq, Bool.and_eq_true]
  rw [if_neg (by omega), if_neg (by omega), if_neg (by omega), if_pos ⟨above, below⟩]

theorem step_of_read_ground {effect : Effect} (reads : read .ground octet = (.ground, effect))
    (kept : keeps effect octet = true) : step running .ground octet = (.ground, true) := by
  simp [step, reads, kept]

theorem step_of_read_character {remaining : Nat}
    (reads : read .ground octet = (.character remaining, .shown)) :
    step running .ground octet = (.character remaining, true) := by
  have kept : keeps .shown octet = true := rfl
  simp [step, reads, kept]

private theorem step_space (space : octet = 0x09 ∨ octet = 0x0A ∨ octet = 0x0C ∨ octet = 0x0D) :
    step running .ground octet = (.ground, true) := by
  rcases space with rfl | rfl | rfl | rfl <;> exact step_of_read_ground rfl rfl

theorem stripFrom_cons {state next : State} (kept : step running state octet = (next, true))
    (rest : Bytes) :
    stripFrom running state (octet :: rest) = octet :: stripFrom true next rest := by
  rw [stripFrom, kept]
  rfl

theorem stripFrom_continuation (remaining : Nat) (rest : Bytes) :
    stripFrom running (.character (remaining + 1)) (octet :: rest) =
      octet :: stripFrom true (if remaining = 0 then .ground else .character remaining) rest :=
  rfl

theorem stripFrom_lead (above : 0xC2 ≤ octet.toNat) (below : octet.toNat ≤ 0xF4) (rest : Bytes) :
    stripFrom running .ground (octet :: rest) =
      octet :: stripFrom true (.character (continuationCount octet.toNat)) rest :=
  stripFrom_cons (step_of_read_character (read_lead above below)) rest

/-! ## Characters -/

theorem step_harmless (below : octet.toNat < 0x80)
    (harmless : IsHarmless (Char.ofNat octet.toNat)) :
    step running .ground octet = (.ground, true) := by
  have number : (Char.ofNat octet.toNat).toNat = octet.toNat :=
    Utf8.toNat_ofNat_of_valid (.inl (by omega))
  rcases harmless with ⟨above, notDelete⟩ | space
  · rw [number] at above
    have notLast : octet.toNat ≠ 0x7F := by
      intro last
      rw [last] at notDelete
      exact notDelete rfl
    exact step_of_read_ground (read_printable above (by omega)) rfl
  · apply step_space
    simp only [List.mem_cons, List.not_mem_nil, or_false, ← Char.toNat_inj, number] at space
    simp only [← UInt8.toNat_inj]
    exact space

theorem stripFrom_character {character : Char} (harmless : IsHarmless character) (rest : Bytes) :
    stripFrom running .ground (String.utf8EncodeChar character ++ rest) =
      String.utf8EncodeChar character ++ stripFrom true .ground rest := by
  have spelled := Utf8.spelled_utf8EncodeChar character
  generalize String.utf8EncodeChar character = octets at spelled ⊢
  cases spelled with
  | one octet below => exact stripFrom_cons (step_harmless below harmless) rest
  | two first second above below =>
      have count : continuationCount first.toNat = 1 := if_pos below
      simp only [List.cons_append, List.nil_append]
      rw [stripFrom_lead above (by omega), count, stripFrom_continuation]
      rfl
  | three first second third above below =>
      have count : continuationCount first.toNat = 2 := by
        rw [continuationCount, if_neg (by omega), if_pos below]
      simp only [List.cons_append, List.nil_append]
      rw [stripFrom_lead (by omega) (by omega), count, stripFrom_continuation, if_neg (by decide),
        stripFrom_continuation]
      rfl
  | four first second third fourth above below =>
      have count : continuationCount first.toNat = 3 := by
        rw [continuationCount, if_neg (by omega), if_neg (by omega)]
      simp only [List.cons_append, List.nil_append]
      rw [stripFrom_lead (by omega) below, count, stripFrom_continuation, if_neg (by decide),
        stripFrom_continuation, if_neg (by decide), stripFrom_continuation]
      rfl

theorem stripFrom_characters {characters : List Char}
    (harmless : ∀ character ∈ characters, IsHarmless character) (running : Bool) :
    stripFrom running .ground (characters.flatMap String.utf8EncodeChar) =
      characters.flatMap String.utf8EncodeChar := by
  induction characters generalizing running with
  | nil => rfl
  | cons character later ih =>
      obtain ⟨first, others⟩ := List.forall_mem_cons.mp harmless
      rw [List.flatMap_cons, stripFrom_character first, ih others]

theorem strip_keepsText : KeepsText strip :=
  fun _ harmless => stripFrom_characters harmless false

end ProfileShell.Text.Terminal
