import Mathlib.Data.Finset.Card
import ProfileShell.Environ.Journal
import ProfileShell.Proofs.Environ.History

/-!
# Environments hold what their journals say

However an environment comes about, it holds each written name once, where it was first
written, with the value that was last written under it.  The bookkeeping of a session
keeps all names in their places and adds at most its own two behind them.
-/

namespace ProfileShell.Environ

variable {journal : Journal}

/-! ## Journals -/

namespace Journal

theorem mem_names_iff (journal : Journal) (name : Bytes) :
    name ∈ journal.names ↔ (journal.last? name).isSome = true := by
  rw [last?, isSome_lookup_iff_mem_keys, names, List.mem_eraseDups, List.map_reverse,
    List.mem_reverse]

theorem last?_note (journal : Journal) (name value other : Bytes) :
    (journal.note name value).last? other =
      if other = name then some value else journal.last? other := by
  rw [note, last?, List.reverse_concat, lookup_cons_ite]
  rfl

/-- A name that was written before keeps its place, and a new one comes last. -/
theorem names_note (journal : Journal) (name value : Bytes) :
    (journal.note name value).names =
      if name ∈ journal.names then journal.names else journal.names ++ [name] := by
  have known : name ∈ journal.names ↔ name ∈ journal.writes.map Prod.fst :=
    List.mem_eraseDups
  rw [note, names, List.map_append, List.map_singleton, List.eraseDups_append, List.removeAll,
    List.filter_singleton]
  by_cases member : name ∈ journal.names
  · have listed := List.elem_eq_true_of_mem (known.mp member)
    rw [if_pos member, listed]
    exact List.append_nil _
  · have unlisted : List.elem name (journal.writes.map Prod.fst) = false := by
      simpa using mt known.mpr member
    rw [if_neg member, unlisted]
    rfl

end Journal

/-! ## What an environment holds -/

/-- An environment holds what a journal says. -/
structure Records (environ : Environ) (journal : Journal) : Prop where
  names : environ.names = journal.names
  values : ∀ name, environ.get? name = journal.last? name

namespace Records

variable {environ : Environ}

theorem defines_iff (records : environ.Records journal) (name : Bytes) :
    environ.defines name = true ↔ name ∈ journal.names := by
  rw [defines, records.values, journal.mem_names_iff]

theorem set (records : environ.Records journal) (name value : Bytes) :
    (environ.set name value).Records (journal.note name value) where
  names := by rw [names_set, Journal.names_note, records.names]
  values other := by rw [get?_set, Journal.last?_note, records.values]

theorem ofList (entries : List (Bytes × Bytes)) : (Environ.ofList entries).Records ⟨entries⟩ := by
  induction entries using List.reverseRecOn with
  | nil => exact ⟨rfl, fun _ => rfl⟩
  | append_singleton entries entry ih =>
      have later := ih.set entry.1 entry.2
      rwa [Environ.ofList, List.foldl_append]

/-- What a change does to an environment is what it adds to the journal. -/
theorem apply (records : environ.Records journal) (change : Change) :
    (change.apply environ).Records (journal.noteChange change) := by
  cases change with
  | set name value => exact records.set name value
  | bookkeep rcFile profiles expose =>
      rw [Change.apply, withBookkeeping, Journal.noteChange]
      by_cases pointed : expose = true ∨ rcFileVariable ∈ journal.names
      · have written : (expose || environ.defines rcFileVariable) = true := by
          rwa [Bool.or_eq_true, records.defines_iff]
        -- The path is written under a name of its own, so the profiles are still there.
        have kept : (environ.set rcFileVariable rcFile).get? profileVariable =
            journal.last? profileVariable := by
          rw [get?_set_of_ne _ profileVariable_ne_rcFileVariable, records.values]
        rw [if_pos written, if_pos pointed, kept]
        exact (records.set rcFileVariable rcFile).set profileVariable _
      · have unwritten : ¬ (expose || environ.defines rcFileVariable) = true := by
          rwa [Bool.or_eq_true, records.defines_iff]
        rw [if_neg unwritten, if_neg pointed, records.values]
        exact records.set profileVariable _

theorem foldl_apply (records : environ.Records journal) (changes : List Change) :
    (changes.foldl Change.apply environ).Records
      (changes.foldl Journal.noteChange journal) := by
  induction changes generalizing environ journal with
  | nil => exact records
  | cons change changes ih => exact ih (records.apply change)

end Records

private theorem records_build (entries : List (Bytes × Bytes)) (changes : List Change) :
    (build entries changes).Records (Journal.ofBuild entries changes) :=
  (Records.ofList entries).foldl_apply changes

theorem nodup_names_apply {environ : Environ} (distinct : environ.names.Nodup)
    (change : Change) : (change.apply environ).names.Nodup := by
  cases change with
  | set name value => exact nodup_names_set distinct name value
  | bookkeep rcFile profiles expose =>
      exact nodup_names_withBookkeeping distinct rcFile profiles expose

theorem nodup_names_build (entries : List (Bytes × Bytes)) (changes : List Change) :
    (build entries changes).names.Nodup := by
  induction changes using List.reverseRecOn with
  | nil => exact nodup_names_ofList entries
  | append_singleton changes last ih =>
      rw [build, List.foldl_append]
      exact nodup_names_apply ih last

/-- The size of an environment is the number of different names that were written. -/
theorem Records.size_eq_card {environ : Environ} (records : environ.Records journal)
    (distinct : environ.names.Nodup) :
    environ.size = (journal.writes.map Prod.fst).toFinset.card := by
  have same : (journal.writes.map Prod.fst).toFinset = environ.names.toFinset := by
    ext name
    rw [records.names, Journal.names, List.mem_toFinset, List.mem_toFinset, List.mem_eraseDups]
  rw [same, List.toFinset_card_of_nodup distinct, Environ.names,
    List.length_map, size]

/-! ## What the bookkeeping leaves alone -/

theorem names_prefix_set (environ : Environ) (name value : Bytes) :
    environ.names <+: (environ.set name value).names := by
  rw [names_set]
  split
  · exact List.prefix_rfl
  · exact List.prefix_append environ.names [name]

theorem names_prefix_withBookkeeping (environ : Environ) (rcFile : Bytes)
    (profiles : List String) (expose : Bool) :
    environ.names <+: (environ.withBookkeeping rcFile profiles expose).names := by
  unfold withBookkeeping
  refine List.IsPrefix.trans ?_ (names_prefix_set _ _ _)
  split
  · exact names_prefix_set environ rcFileVariable rcFile
  · exact List.prefix_rfl

private theorem defines_rcFileVariable_withBookkeeping (environ : Environ) (rcFile : Bytes)
    (profiles : List String) (expose : Bool) :
    (environ.withBookkeeping rcFile profiles expose).defines rcFileVariable =
      (expose || environ.defines rcFileVariable) := by
  rw [defines, get?_rcFileVariable_withBookkeeping]
  split
  next written => rw [written, Option.isSome_some]
  next unwritten =>
    simp only [Bool.or_eq_true, not_or, Bool.not_eq_true] at unwritten
    rw [unwritten.1, unwritten.2, Bool.or_false, ← defines, unwritten.2]

/-- However an environment is built, it holds what its journal says: each written name
once and no other, in the order of the first writes, with the value that was last
written.  The bookkeeping of one more session leaves all other variables as they are and
all names in their places.  It always sets the profiles, and adds the path of the rc-file
only where that is exposed. -/
theorem build_keepsJournal (entries : List (Bytes × Bytes)) (changes : List Change)
    (rcFile : Bytes) (profiles : List String) (expose : Bool) :
    let environ := build entries changes
    let journal := Journal.ofBuild entries changes
    let inner := environ.withBookkeeping rcFile profiles expose
    environ.names.Nodup ∧
      environ.names = journal.names ∧
      (∀ name, environ.get? name = journal.last? name) ∧
      (∀ name, environ.get? name = none ↔ name ∉ journal.writes.map Prod.fst) ∧
      environ.size = (journal.writes.map Prod.fst).toFinset.card ∧
      inner.entries.filter isOther = environ.entries.filter isOther ∧
      environ.names <+: inner.names ∧
      inner.defines profileVariable = true ∧
      inner.defines rcFileVariable = (expose || environ.defines rcFileVariable) := by
  intro environ journal inner
  have records : environ.Records journal := records_build entries changes
  have distinct : environ.names.Nodup := nodup_names_build entries changes
  have unwritten : ∀ name, environ.get? name = none ↔ name ∉ journal.writes.map Prod.fst := by
    intro name
    rw [← Option.not_isSome_iff_eq_none, ← defines, records.defines_iff, Journal.names,
      List.mem_eraseDups]
  have listed : inner.defines profileVariable = true := by
    rw [defines, get?_profileVariable_withBookkeeping, Option.isSome_some]
  exact ⟨distinct, records.names, records.values, unwritten, records.size_eq_card distinct,
    filter_isOther_withBookkeeping environ rcFile profiles expose,
    names_prefix_withBookkeeping environ rcFile profiles expose, listed,
    defines_rcFileVariable_withBookkeeping environ rcFile profiles expose⟩

example :
    (build [(Utf8.encode "A", Utf8.encode "1"), (profileVariable, Utf8.encode "outer"),
        (Utf8.encode "A", Utf8.encode "2")]
      [.bookkeep (Utf8.encode "/rc") ["work"] false]).lines =
        ["A=2", "GOSH_PROFILE=work(outer)"] := by decide

end ProfileShell.Environ
