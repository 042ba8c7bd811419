import ProfileShell.Proofs.Substitution
import ProfileShell.Substitution.Slot

/-!
# Values in the slots of a template

What replaces a token is not looked at again, so a value is never taken for a token,
whatever its text.  The arguments of a launch are the slots of its template, filled in.
-/

namespace ProfileShell

namespace Slot

def rule? (values : LaunchValues) : Slot → Option Replacement
  | literal text => some (.single text)
  | program => some (.single values.program)
  | rcFile => some (.single values.rcFile)
  | directory => some (.single values.directory)
  | command => if values.command.isEmpty then none else some (.single values.command)
  | arguments => some (.several values.arguments)

theorem nodup_keys_ofTokens : (ofTokens.map Prod.fst).Nodup := by decide

/-- The rule of a token puts into its slot what belongs there, and nothing in the place of
a missing command. -/
theorem texts_rule? (values : LaunchValues) (slot : Slot) :
    ((slot.rule? values).getD .nothing).texts =
      (available values [slot]).flatMap (fill values) := by
  unfold available
  cases slot with
  | command =>
      cases missing : values.command.isEmpty <;>
        simp [rule?, missing, fill, Replacement.texts]
  | literal | program | rcFile | directory | arguments =>
      simp [rule?, fill, Replacement.texts]

theorem available_flatMap (values : LaunchValues) (template : List String)
    (slots : String → List Slot) :
    available values (template.flatMap slots) =
      template.flatMap fun argument => available values (slots argument) := by
  unfold available
  split
  · exact List.filter_flatMap
  · rfl

end Slot

namespace LaunchValues

variable (values : LaunchValues) (argument : String)

theorem rule?_substitution :
    values.substitution.rule? argument =
      (Slot.ofTokens.lookup argument).map (Slot.rule? values) := by
  have rules : values.substitution.rules =
      (Slot.ofTokens.map fun entry => (entry.1, entry.2.rule? values)).reverse := rfl
  have distinct : ((Slot.ofTokens.map fun entry => (entry.1, entry.2.rule? values)).map
      Prod.fst).Nodup := by
    rw [List.map_map]
    exact Slot.nodup_keys_ofTokens
  rw [Substitution.rule?, rules, lookup_reverse distinct, lookup_map_snd]

theorem lists_substitution : values.substitution.Lists (Slot.ofTokens.map Prod.fst) := by
  intro token
  rw [rule?_substitution, Option.isSome_map, isSome_lookup_iff_mem_keys]

theorem mentions_substitution_iff :
    values.substitution.Mentions argument ↔
      (Slot.ofTokens.any fun entry => occursIn entry.1.toList argument.toList) = true := by
  rw [← Substitution.recognises_none_iff (lists_substitution values), Substitution.recognises,
    List.any_map]
  rfl

theorem expand_of_slot {slot : Slot} (own : Slot.ofTokens.lookup argument = some slot) :
    values.substitution.expand argument = (slot.rule? values).getD .nothing := by
  apply Substitution.expand_of_rule
  rw [rule?_substitution, own, Option.map_some]

/-- An argument becomes what is put into its slots. -/
theorem texts_expand :
    (values.substitution.expand argument).texts =
      (Slot.available values (Slot.ofArgument argument)).flatMap (Slot.fill values) := by
  have rule := rule?_substitution values argument
  have mentions := mentions_substitution_iff values argument
  unfold Slot.ofArgument
  cases found : Slot.ofTokens.lookup argument with
  | some slot =>
      rw [expand_of_slot values argument found]
      exact Slot.texts_rule? values slot
  | none =>
      rw [found, Option.map_none] at rule
      by_cases inside : values.substitution.Mentions argument
      · rw [Substitution.expand_of_mentions rule inside]
        simp [mentions.mp inside, Replacement.texts, Slot.available]
      · rw [Substitution.expand_of_not_mentions inside]
        simp [mt mentions.mpr inside, Replacement.texts, Slot.available, Slot.fill]

/-- The arguments that a template becomes are its slots, filled in.  The slots depend on
the template alone, so no value is taken for a token, whatever its text: a value stays
where it was put, and several stay next to each other, empty ones included.  Without a
command its slots go, and the others stay. -/
theorem expandAll_slots (template : List String) :
    values.substitution.expandAll template =
      (Slot.available values (Slot.ofTemplate template)).flatMap (Slot.fill values) := by
  calc values.substitution.expandAll template
      = template.flatMap fun argument =>
          (Slot.available values (Slot.ofArgument argument)).flatMap (Slot.fill values) := by
        simp only [Substitution.expandAll, texts_expand]
    _ = (template.flatMap fun argument =>
          Slot.available values (Slot.ofArgument argument)).flatMap (Slot.fill values) :=
        List.flatMap_assoc.symm
    _ = (Slot.available values (Slot.ofTemplate template)).flatMap (Slot.fill values) := by
        rw [Slot.ofTemplate, Slot.available_flatMap]

example :
    Slot.ofTemplate ["-c", "__GOSH_CMD__", "--rcfile=__GOSH_INIT__", "__GOSH_ARGS__"] =
      [.literal "-c", .command, .arguments] := by decide

end LaunchValues

end ProfileShell
