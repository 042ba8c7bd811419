/-!
# Entries

Catalogs, environments and volumes are lists of entries in which the first entry of a
key counts.  Environments and volumes hold their entries in the order in which the keys
were first written.
-/

namespace ProfileShell

/-- The entries after a write: in place if the key is there, else at the end. -/
def writeEntry {Key Value : Type} [DecidableEq Key] (key : Key) (value : Value) :
    List (Key × Value) → List (Key × Value)
  | [] => [(key, value)]
  | (other, current) :: rest =>
    if other = key then (other, value) :: rest
    else (other, current) :: writeEntry key value rest

variable {Key Value : Type} [DecidableEq Key]

theorem lookup_cons_ite [BEq Key] [LawfulBEq Key] (key first : Key) (value : Value)
    (rest : List (Key × Value)) :
    ((first, value) :: rest).lookup key =
      if key = first then some value else rest.lookup key := by
  by_cases same : key = first
  · simp [same]
  · have different : (key == first) = false := beq_false_of_ne same
    simp [List.lookup_cons, different, same]

theorem lookup_writeEntry [BEq Key] [LawfulBEq Key] (key other : Key) (value : Value)
    (entries : List (Key × Value)) :
    (writeEntry key value entries).lookup other =
      if other = key then some value else entries.lookup other := by
  induction entries with
  | nil => rw [writeEntry, lookup_cons_ite]
  | cons entry rest ih =>
      obtain ⟨first, held⟩ := entry
      by_cases replaced : first = key
      · subst first
        rw [writeEntry, if_pos rfl, lookup_cons_ite, lookup_cons_ite]
        by_cases same : other = key <;> simp [same]
      · rw [writeEntry, if_neg replaced, lookup_cons_ite, lookup_cons_ite, ih]
        by_cases here : other = first
        · simp [here, replaced]
        · simp [here]

/-- Of two writes to one key only the last is left. -/
theorem writeEntry_writeEntry (key : Key) (first second : Value)
    (entries : List (Key × Value)) :
    writeEntry key second (writeEntry key first entries) = writeEntry key second entries := by
  induction entries with
  | nil => simp [writeEntry]
  | cons entry rest ih =>
      obtain ⟨there, held⟩ := entry
      by_cases same : there = key <;> simp [writeEntry, same, ih]

/-- A key that is there keeps its place, and a new one comes last. -/
theorem keys_writeEntry [BEq Key] [LawfulBEq Key] (key : Key) (value : Value)
    (entries : List (Key × Value)) :
    (writeEntry key value entries).map Prod.fst =
      if key ∈ entries.map Prod.fst then entries.map Prod.fst
      else entries.map Prod.fst ++ [key] := by
  induction entries with
  | nil => rfl
  | cons entry rest ih =>
      obtain ⟨first, held⟩ := entry
      by_cases same : first = key
      · simp [writeEntry, same]
      · have different : key ≠ first := Ne.symm same
        rw [writeEntry, if_neg same, List.map_cons, ih, List.map_cons]
        by_cases member : key ∈ rest.map Prod.fst
        · rw [if_pos member, if_pos (List.mem_cons_of_mem _ member)]
        · have missing : key ∉ first :: rest.map Prod.fst := by
            rw [List.mem_cons]
            exact fun either => either.elim different member
          rw [if_neg member, if_neg missing, List.cons_append]

theorem nodup_keys_writeEntry {entries : List (Key × Value)}
    (distinct : (entries.map Prod.fst).Nodup) (key : Key) (value : Value) :
    ((writeEntry key value entries).map Prod.fst).Nodup := by
  rw [keys_writeEntry]
  by_cases member : key ∈ entries.map Prod.fst
  · rwa [if_pos member]
  · rw [if_neg member]
    apply List.nodup_append.mpr
    refine ⟨distinct, by simp, ?_⟩
    intro other found last isKey same
    rw [List.mem_singleton] at isKey
    subst isKey
    exact member (same ▸ found)

theorem isSome_lookup_iff_mem_keys [BEq Key] [LawfulBEq Key] (key : Key)
    (entries : List (Key × Value)) :
    (entries.lookup key).isSome = true ↔ key ∈ entries.map Prod.fst := by
  induction entries with
  | nil => simp
  | cons entry rest ih =>
      obtain ⟨first, held⟩ := entry
      rw [lookup_cons_ite, List.map_cons, List.mem_cons]
      by_cases same : key = first
      · simp [same]
      · rw [if_neg same, ih]
        simp [same]

theorem lookup_of_mem [BEq Key] [LawfulBEq Key] {entries : List (Key × Value)}
    (distinct : (entries.map Prod.fst).Nodup) {key : Key} {value : Value}
    (member : (key, value) ∈ entries) : entries.lookup key = some value := by
  induction entries with
  | nil => cases member
  | cons entry rest ih =>
      obtain ⟨first, held⟩ := entry
      obtain ⟨fresh, distinctRest⟩ := List.nodup_cons.mp distinct
      rw [lookup_cons_ite]
      rcases List.mem_cons.mp member with here | later
      · cases here
        rw [if_pos rfl]
      · have different : key ≠ first := by
          rintro rfl
          exact fresh (List.mem_map.mpr ⟨_, later, rfl⟩)
        rw [if_neg different, ih distinctRest later]

theorem lookup_map_snd [BEq Key] [LawfulBEq Key] {Other : Type} (change : Value → Other)
    (entries : List (Key × Value)) (key : Key) :
    (entries.map fun entry => (entry.1, change entry.2)).lookup key =
      (entries.lookup key).map change := by
  induction entries with
  | nil => rfl
  | cons entry rest ih =>
      obtain ⟨first, held⟩ := entry
      rw [List.map_cons, lookup_cons_ite, lookup_cons_ite, ih]
      split <;> rfl

/-- Where no key is repeated, it does not matter from which end a key is looked for. -/
theorem lookup_reverse [BEq Key] [LawfulBEq Key] {entries : List (Key × Value)}
    (distinct : (entries.map Prod.fst).Nodup) (key : Key) :
    entries.reverse.lookup key = entries.lookup key := by
  induction entries with
  | nil => rfl
  | cons entry rest ih =>
      obtain ⟨first, held⟩ := entry
      obtain ⟨fresh, distinctRest⟩ := List.nodup_cons.mp distinct
      rw [List.reverse_cons, List.lookup_append, ih distinctRest, lookup_cons_ite,
        lookup_cons_ite]
      by_cases same : key = first
      · subst key
        have missing : rest.lookup first = none := by
          rw [← Option.not_isSome_iff_eq_none, isSome_lookup_iff_mem_keys]
          exact fresh
        simp [missing]
      · simp [same]

end ProfileShell
