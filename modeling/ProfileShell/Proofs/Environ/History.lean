import Mathlib.Data.List.Induction
import Mathlib.Data.List.TakeWhile
import ProfileShell.Environ.History
import ProfileShell.Proofs.Environ
import ProfileShell.Proofs.Text.Utf8

/-!
# Histories of nested sessions

However deep sessions are nested, the variable of the profiles tells all of them, and
what it tells can be read back.  The other variables are those of the outermost
environment.
-/

namespace ProfileShell.Environ

variable {environ : Environ} {name value : Bytes}

/-! ## What a session adds -/

theorem get?_rcFileVariable_withBookkeeping (environ : Environ) (rcFile : Bytes)
    (profiles : List String) (expose : Bool) :
    (environ.withBookkeeping rcFile profiles expose).get? rcFileVariable =
      if expose || environ.defines rcFileVariable then some rcFile
      else environ.get? rcFileVariable := by
  rw [withBookkeeping, get?_set_of_ne _ (Ne.symm profileVariable_ne_rcFileVariable)]
  split
  · exact get?_set_self environ rcFileVariable rcFile
  · rfl

/-- Whether a variable is none of those of the bookkeeping. -/
def isOther (entry : Bytes × Bytes) : Bool :=
  entry.1 != rcFileVariable && entry.1 != profileVariable

private theorem filter_isOther_set (bookkept : name = rcFileVariable ∨ name = profileVariable)
    (environ : Environ) (value : Bytes) :
    (environ.set name value).entries.filter isOther = environ.entries.filter isOther := by
  have skipped : ∀ value, isOther (name, value) = false := by
    rcases bookkept with rfl | rfl <;> intro value <;> simp [isOther]
  unfold set
  induction environ.entries with
  | nil => simp [writeEntry, skipped]
  | cons entry rest ih =>
      obtain ⟨other, current⟩ := entry
      by_cases same : other = name
      · subst same
        rw [writeEntry, if_pos rfl]
        simp [skipped]
      · rw [writeEntry, if_neg same, List.filter_cons, List.filter_cons, ih]

theorem filter_isOther_withBookkeeping (environ : Environ) (rcFile : Bytes)
    (profiles : List String) (expose : Bool) :
    (environ.withBookkeeping rcFile profiles expose).entries.filter isOther =
      environ.entries.filter isOther := by
  unfold withBookkeeping
  rw [filter_isOther_set (.inr rfl)]
  split
  · exact filter_isOther_set (.inl rfl) environ rcFile
  · rfl

theorem filter_isOther_enter (environ : Environ) (layers : List Layer) :
    (environ.enter layers).entries.filter isOther = environ.entries.filter isOther := by
  unfold enter
  induction layers generalizing environ with
  | nil => rfl
  | cons layer rest ih => rw [List.foldl_cons, ih, filter_isOther_withBookkeeping]

theorem enter_concat (environ : Environ) (layers : List Layer) (last : Layer) :
    environ.enter (layers ++ [last]) =
      (environ.enter layers).withBookkeeping last.rcFile last.profiles true := by
  rw [enter, List.foldl_append]
  rfl

/-! ## Histories -/

namespace History

/-- Profiles whose names can be told apart in a history. -/
def IsLegible (profiles : List String) : Prop :=
  profiles ≠ [] ∧ ∀ name ∈ profiles, name ≠ "" ∧
    ∀ character ∈ name.toList, character ≠ ',' ∧ character ≠ '(' ∧ character ≠ ')'

instance : DecidablePred IsLegible := fun profiles =>
  haveI (name : String) : Decidable
      (∀ character ∈ name.toList, character ≠ ',' ∧ character ≠ '(' ∧ character ≠ ')') :=
    List.decidableBAll _ name.toList
  inferInstanceAs (Decidable (profiles ≠ [] ∧ ∀ name ∈ profiles, name ≠ "" ∧
    ∀ character ∈ name.toList, character ≠ ',' ∧ character ≠ '(' ∧ character ≠ ')'))

variable {profiles : List String} {outer : List (List String)}

theorem text_cons (nested : outer ≠ []) (profiles : List String) :
    text (profiles :: outer) = ",".intercalate profiles ++ "(" ++ text outer ++ ")" := by
  cases outer with
  | nil => exact absurd rfl nested
  | cons => rfl

private theorem toList_joined (profiles : List String) :
    (",".intercalate profiles).toList = [','].intercalate (profiles.map String.toList) :=
  String.toList_intercalate

private theorem mem_intercalate {separator character : Char} {parts : List (List Char)}
    (member : character ∈ [separator].intercalate parts) :
    character = separator ∨ ∃ part ∈ parts, character ∈ part := by
  induction parts with
  | nil => simp [List.intercalate] at member
  | cons part others ih =>
      cases others with
      | nil => exact .inr ⟨part, List.mem_cons_self, by simpa [List.intercalate] using member⟩
      | cons next rest =>
          rw [List.intercalate_cons_cons, List.mem_append, List.mem_append,
            List.mem_singleton] at member
          rcases member with (here | isSeparator) | later
          · exact .inr ⟨part, List.mem_cons_self, here⟩
          · exact .inl isSeparator
          · rcases ih later with isSeparator | ⟨found, listed, inside⟩
            · exact .inl isSeparator
            · exact .inr ⟨found, List.mem_cons_of_mem _ listed, inside⟩

/-- The profiles of one session stand in front of the first parenthesis. -/
theorem IsLegible.ne_opening (legible : IsLegible profiles) :
    ∀ character ∈ (",".intercalate profiles).toList, (character != '(') = true := by
  intro character member
  rw [toList_joined] at member
  rcases mem_intercalate member with rfl | ⟨part, listed, inside⟩
  · decide
  · obtain ⟨name, named, rfl⟩ := List.mem_map.mp listed
    simpa using ((legible.2 name named).2 character inside).2.1

theorem IsLegible.splitOn (legible : IsLegible profiles) :
    ((",".intercalate profiles).toList.splitOn ',').map String.ofList = profiles := by
  have free : ∀ part ∈ profiles.map String.toList, ',' ∉ part := by
    intro part listed inside
    obtain ⟨name, named, rfl⟩ := List.mem_map.mp listed
    exact ((legible.2 name named).2 ',' inside).1 rfl
  have nonempty : profiles.map String.toList ≠ [] := by
    simpa using legible.1
  rw [toList_joined, List.splitOn_intercalate ',' free nonempty, List.map_map]
  exact (List.map_congr_left fun name _ => String.ofList_toList).trans (List.map_id _)

theorem IsLegible.joined_ne_nil (legible : IsLegible profiles) :
    (",".intercalate profiles).toList ≠ [] := by
  obtain ⟨nonempty, named⟩ := legible
  cases profiles with
  | nil => exact absurd rfl nonempty
  | cons name rest =>
      have first : name.toList ≠ [] := by
        simpa using (named name List.mem_cons_self).1
      rw [toList_joined]
      cases rest with
      | nil => simpa [List.intercalate] using first
      | cons => simp [List.intercalate_cons_cons]

private theorem text_ne_empty {history : List (List String)} (nonempty : history ≠ [])
    (legible : ∀ profiles ∈ history, IsLegible profiles) : (text history).toList ≠ [] := by
  cases history with
  | nil => exact absurd rfl nonempty
  | cons profiles outer =>
      have joined := (legible profiles List.mem_cons_self).joined_ne_nil
      cases outer with
      | nil => exact joined
      | cons => simp [text]

private theorem layers?_of_closed {characters : List Char}
    (closed : characters.dropWhile (· != '(') = []) :
    layers? characters =
      some [((characters.takeWhile (· != '(')).splitOn ',').map String.ofList] := by
  rw [layers?]
  split
  · rfl
  · next opened =>
    rw [closed] at opened
    cases opened

private theorem layers?_of_opened {characters inside : List Char}
    (opened : characters.dropWhile (· != '(') = '(' :: (inside ++ [')'])) :
    layers? characters = (layers? inside).map
      (((characters.takeWhile (· != '(')).splitOn ',').map String.ofList :: ·) := by
  rw [layers?]
  split
  · next closed =>
    rw [closed] at opened
    cases opened
  · next within split =>
    rw [opened, List.cons.injEq] at split
    rw [← split.2, if_pos List.getLast?_concat, List.dropLast_concat]

/-- A history that is written is read back. -/
theorem layers?_text {history : List (List String)} (nonempty : history ≠ [])
    (legible : ∀ profiles ∈ history, IsLegible profiles) :
    layers? (text history).toList = some history := by
  induction history with
  | nil => exact absurd rfl nonempty
  | cons profiles outer ih =>
      obtain ⟨here, around⟩ := List.forall_mem_cons.mp legible
      by_cases nested : outer = []
      · subst nested
        rw [text, layers?_of_closed (List.dropWhile_eq_nil_iff.mpr here.ne_opening),
          List.takeWhile_eq_self_iff.mpr here.ne_opening, here.splitOn]
      · have characters : (text (profiles :: outer)).toList =
            (",".intercalate profiles).toList ++ '(' :: ((text outer).toList ++ [')']) := by
          rw [text_cons nested]
          simp
        have opened : (text (profiles :: outer)).toList.dropWhile (· != '(') =
            '(' :: ((text outer).toList ++ [')']) := by
          rw [characters, List.dropWhile_append_of_pos here.ne_opening]
          rfl
        have own : (text (profiles :: outer)).toList.takeWhile (· != '(') =
            (",".intercalate profiles).toList := by
          rw [characters, List.takeWhile_append_of_pos here.ne_opening]
          exact List.append_nil _
        rw [layers?_of_opened opened, own, here.splitOn, ih nested around]
        rfl

theorem parse?_text {history : List (List String)} (nonempty : history ≠ [])
    (legible : ∀ profiles ∈ history, IsLegible profiles) :
    parse? (Utf8.encode (text history)) = some history := by
  rw [parse?, Utf8.decode?_encode]
  exact layers?_text nonempty legible

/-- A session inside others puts its profiles in front of their history. -/
theorem profileHistory_text {history : List (List String)}
    (legible : ∀ profiles ∈ history, IsLegible profiles) (profiles : List String) :
    profileHistory profiles
        (if history = [] then none else some (Utf8.encode (text history))) =
      Utf8.encode (text (profiles :: history)) := by
  by_cases outermost : history = []
  · subst outermost
    rfl
  · rw [if_neg outermost, text_cons outermost]
    have nonempty : Utf8.encode (text history) ≠ [] := by
      intro empty
      have same : text history = "" := Utf8.encode_injective empty
      exact text_ne_empty outermost legible (by rw [same]; rfl)
    cases value : Utf8.encode (text history) with
    | nil => exact absurd value nonempty
    | cons octet octets =>
        rw [Utf8.encode_append, Utf8.encode_append, Utf8.encode_append, value]
        rfl

end History

/-! ## Nested sessions -/

open History

variable {layers : List Layer}

/-- The profiles of sessions, innermost session first. -/
def sessionProfiles (layers : List Layer) : List (List String) :=
  layers.reverse.map Layer.profiles

private theorem legible_sessionProfiles (legible : ∀ layer ∈ layers, IsLegible layer.profiles) :
    ∀ profiles ∈ sessionProfiles layers, IsLegible profiles := by
  intro profiles listed
  obtain ⟨layer, member, rfl⟩ := List.mem_map.mp listed
  exact legible layer (List.mem_reverse.mp member)

theorem get?_profileVariable_enter (outermost : environ.get? profileVariable = none)
    (legible : ∀ layer ∈ layers, IsLegible layer.profiles) :
    (environ.enter layers).get? profileVariable =
      if sessionProfiles layers = [] then none
      else some (Utf8.encode (text (sessionProfiles layers))) := by
  induction layers using List.reverseRecOn with
  | nil => exact outermost
  | append_singleton outer last ih =>
      have legibleOuter : ∀ layer ∈ outer, IsLegible layer.profiles := fun layer member =>
        legible layer (List.mem_append_left _ member)
      have grown : sessionProfiles (outer ++ [last]) =
          last.profiles :: sessionProfiles outer := by
        simp [sessionProfiles]
      rw [enter_concat, get?_profileVariable_withBookkeeping, ih legibleOuter,
        profileHistory_text (legible_sessionProfiles legibleOuter), grown,
        if_neg (List.cons_ne_nil _ _)]

/-- Nested sessions keep their whole history.  Started where no session is known, the
innermost one finds the profiles of all of them in its variable, from which they can be
read back, so that no two histories are told alike.  It finds the path of its own rc-file
beside it, and all other variables in their order and with their values. -/
theorem enter_keeps_history (outermost : environ.get? profileVariable = none)
    (nested : layers ≠ []) (legible : ∀ layer ∈ layers, IsLegible layer.profiles) :
    (environ.enter layers).get? profileVariable =
        some (Utf8.encode (text (sessionProfiles layers))) ∧
      History.parse? (Utf8.encode (text (sessionProfiles layers))) =
        some (sessionProfiles layers) ∧
      (∀ (other : Environ) (others : List Layer), other.get? profileVariable = none →
        others ≠ [] → (∀ layer ∈ others, IsLegible layer.profiles) →
        (other.enter others).get? profileVariable =
          (environ.enter layers).get? profileVariable →
        others.map Layer.profiles = layers.map Layer.profiles) ∧
      (environ.enter layers).get? rcFileVariable = layers.getLast?.map Layer.rcFile ∧
      (environ.enter layers).entries.filter isOther = environ.entries.filter isOther := by
  have told : ∀ {environ : Environ} {layers : List Layer},
      environ.get? profileVariable = none → layers ≠ [] →
      (∀ layer ∈ layers, IsLegible layer.profiles) →
      (environ.enter layers).get? profileVariable =
          some (Utf8.encode (text (sessionProfiles layers))) ∧
        History.parse? (Utf8.encode (text (sessionProfiles layers))) =
          some (sessionProfiles layers) := by
    intro environ layers outermost nested legible
    have known : sessionProfiles layers ≠ [] := by simpa [sessionProfiles] using nested
    constructor
    · rw [get?_profileVariable_enter outermost legible, if_neg known]
    · exact parse?_text known (legible_sessionProfiles legible)
  obtain ⟨value, read⟩ := told outermost nested legible
  refine ⟨value, read, ?_, ?_, filter_isOther_enter environ layers⟩
  · intro other others otherOutermost otherNested otherLegible same
    obtain ⟨otherValue, otherRead⟩ := told otherOutermost otherNested otherLegible
    rw [value, otherValue] at same
    rw [Option.some.inj same, read] at otherRead
    have reversed := congrArg List.reverse (Option.some.inj otherRead)
    simpa [sessionProfiles] using reversed.symm
  · obtain rfl | ⟨outer, last, rfl⟩ := List.eq_nil_or_concat layers
    · exact absurd rfl nested
    · rw [List.concat_eq_append, enter_concat, get?_rcFileVariable_withBookkeeping,
        List.getLast?_concat]
      rfl

/-- An environment that knows an rc-file but no session. -/
def strayRcFile : Environ :=
  .ofList [(Utf8.encode "A", Utf8.encode "1"), (rcFileVariable, Utf8.encode "/old"),
    (Utf8.encode "B", Utf8.encode "2")]

/-- Three sessions, the middle one with two profiles. -/
def threeLayers : List Layer :=
  [⟨Utf8.encode "/1", ["outer"]⟩, ⟨Utf8.encode "/2", ["auto", "work"]⟩,
    ⟨Utf8.encode "/3", ["größer"]⟩]

theorem enter_keeps_history_threeLayers :
    strayRcFile.get? profileVariable = none ∧
    (strayRcFile.enter threeLayers).get? profileVariable =
      some (Utf8.encode "größer(auto,work(outer))") ∧
    History.parse? (Utf8.encode "größer(auto,work(outer))") =
      some [["größer"], ["auto", "work"], ["outer"]] ∧
    (strayRcFile.enter threeLayers).entries.filter isOther =
      [(Utf8.encode "A", Utf8.encode "1"), (Utf8.encode "B", Utf8.encode "2")] := by
  have outermost : strayRcFile.get? profileVariable = none := by decide +kernel
  have legible : ∀ layer ∈ threeLayers, IsLegible layer.profiles := by decide +kernel
  obtain ⟨value, read, _, _, others⟩ :=
    enter_keeps_history outermost (List.cons_ne_nil _ _) legible
  exact ⟨outermost, value, read, others.trans (by decide +kernel)⟩

end ProfileShell.Environ
