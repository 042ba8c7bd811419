import ProfileShell.Entries
import ProfileShell.Proofs.Text.Alternation
import ProfileShell.Substitution

/-!
# What an argument becomes

Tokens may be found by one search for all of them or one by one, and they may be listed
in any order.  What an argument becomes depends on neither: `Becomes` says what it is
without a word about how tokens are found.
-/

namespace ProfileShell.Substitution

open Text (PatternLibrary)

/-- Some token occurs in an argument. -/
def Mentions (substitution : Substitution) (argument : String) : Prop :=
  ∃ token, (substitution.rule? token).isSome = true ∧ token.toList <:+: argument.toList

/-- What an argument becomes, by the rule of its own text and the tokens in it.  A token
without a value goes, and so does an argument with a token inside. -/
inductive Becomes (substitution : Substitution) (argument : String) : Replacement → Prop where
  | value {replacement : Replacement}
      (own : substitution.rule? argument = some (some replacement)) :
      Becomes substitution argument replacement
  | valueless (own : substitution.rule? argument = some none) :
      Becomes substitution argument .nothing
  | mention (foreign : substitution.rule? argument = none)
      (mentions : substitution.Mentions argument) : Becomes substitution argument .nothing
  | plain (free : ¬ substitution.Mentions argument) :
      Becomes substitution argument (.single argument)

/-- A list of the tokens, in any order. -/
def Lists (substitution : Substitution) (tokens : List String) : Prop :=
  ∀ token, token ∈ tokens ↔ (substitution.rule? token).isSome = true

variable {substitution : Substitution} {tokens : List String} {argument : String}

theorem lists_tokens (substitution : Substitution) : substitution.Lists substitution.tokens := by
  intro token
  rw [tokens, List.mem_eraseDups, rule?, isSome_lookup_iff_mem_keys]

theorem mentions_of_isSome (own : (substitution.rule? argument).isSome = true) :
    substitution.Mentions argument :=
  ⟨argument, own, List.infix_rfl⟩

theorem mentions_iff_exists_mem (listed : substitution.Lists tokens) :
    substitution.Mentions argument ↔
      ∃ token ∈ tokens, token.toList <:+: argument.toList := by
  unfold Mentions
  simp only [listed _]

theorem recognises_none_iff (listed : substitution.Lists tokens) :
    recognises none tokens argument = true ↔ substitution.Mentions argument := by
  rw [mentions_iff_exists_mem listed]
  simp only [recognises, List.any_eq_true, occursIn_iff_isInfix]

theorem recognises_searchFor?_iff {library : PatternLibrary} (documented : library.IsDocumented)
    (listed : substitution.Lists tokens) :
    recognises (library.searchFor? tokens) tokens argument = true ↔
      substitution.Mentions argument := by
  cases found : library.searchFor? tokens with
  | none => exact recognises_none_iff listed
  | some search =>
      rw [mentions_iff_exists_mem listed, ← PatternLibrary.search_iff_exists documented found]
      rfl

theorem Becomes.unique {first second : Replacement} (one : substitution.Becomes argument first)
    (other : substitution.Becomes argument second) : first = second := by
  -- An argument with a rule of its own mentions a token: itself.
  have inside : ∀ {held}, substitution.rule? argument = some held →
      substitution.Mentions argument := by
    intro held own
    exact mentions_of_isSome (by rw [own, Option.isSome_some])
  cases one with
  | value own =>
      cases other with
      | value another => exact Option.some.inj (Option.some.inj (own.symm.trans another))
      | valueless another => cases own.symm.trans another
      | mention foreign => cases own.symm.trans foreign
      | plain free => exact absurd (inside own) free
  | valueless own =>
      cases other with
      | value another => cases own.symm.trans another
      | valueless | mention => rfl
      | plain free => exact absurd (inside own) free
  | mention foreign mentions =>
      cases other with
      | value own => cases foreign.symm.trans own
      | valueless | mention => rfl
      | plain free => exact absurd mentions free
  | plain free =>
      cases other with
      | value own | valueless own => exact absurd (inside own) free
      | mention _ mentions => exact absurd mentions free
      | plain => rfl

theorem becomes_expandBy {search? : Option (String → Bool)}
    (recognised : recognises search? tokens argument = true ↔ substitution.Mentions argument) :
    substitution.Becomes argument (substitution.expandBy search? tokens argument) := by
  unfold expandBy
  by_cases mentions : substitution.Mentions argument
  · rw [if_pos (recognised.mpr mentions)]
    cases own : substitution.rule? argument with
    | none => exact .mention own mentions
    | some held =>
        cases held with
        | none => exact .valueless own
        | some replacement => exact .value own
  · rw [if_neg (mt recognised.mp mentions)]
    exact .plain mentions

/-- However tokens are recognised, an argument becomes what its own rule and the tokens in
it say. -/
theorem expandBy_eq_iff {search? : Option (String → Bool)} {replacement : Replacement}
    (recognised : recognises search? tokens argument = true ↔ substitution.Mentions argument) :
    substitution.expandBy search? tokens argument = replacement ↔
      substitution.Becomes argument replacement :=
  ⟨fun same => same ▸ becomes_expandBy recognised, (becomes_expandBy recognised).unique⟩

theorem expand_eq_iff {replacement : Replacement} :
    substitution.expand argument = replacement ↔
      substitution.Becomes argument replacement :=
  expandBy_eq_iff (recognises_searchFor?_iff PatternLibrary.isDocumented_ofTexts
    substitution.lists_tokens)

theorem expand_of_rule {rule : Option Replacement}
    (own : substitution.rule? argument = some rule) :
    substitution.expand argument = rule.getD .nothing := by
  cases rule with
  | none => exact expand_eq_iff.mpr (.valueless own)
  | some replacement => exact expand_eq_iff.mpr (.value own)

theorem expand_of_mentions (foreign : substitution.rule? argument = none)
    (mentions : substitution.Mentions argument) : substitution.expand argument = .nothing :=
  expand_eq_iff.mpr (.mention foreign mentions)

theorem expand_of_not_mentions (free : ¬ substitution.Mentions argument) :
    substitution.expand argument = .single argument :=
  expand_eq_iff.mpr (.plain free)

/-- Arguments become the same whether tokens are found by one search or one by one, and in
whatever order they are listed: a token becomes its value, or nothing for lack of one,
an argument with a token inside becomes nothing, and any other argument stays. -/
theorem expandBy_meaning {library : PatternLibrary} (documented : library.IsDocumented)
    (listed : substitution.Lists tokens) (argument : String) (replacement : Replacement) :
    (substitution.expandBy (library.searchFor? tokens) tokens argument = replacement ↔
        substitution.Becomes argument replacement) ∧
      (substitution.expandBy none tokens argument = replacement ↔
        substitution.Becomes argument replacement) ∧
      (substitution.expand argument = replacement ↔
        substitution.Becomes argument replacement) :=
  ⟨expandBy_eq_iff (recognises_searchFor?_iff documented listed),
    expandBy_eq_iff (recognises_none_iff listed), expand_eq_iff⟩

/-- Tokens that occur in one another and that would find other texts if they were read as
patterns. -/
def entangled : Substitution :=
  .ofList
    [("a.c", some (.single "1")), ("a.c*", none), ("c*", some (.several ["2", "3"]))]

theorem lists_entangled : entangled.Lists ["c*", "a.c", "a.c*"] := by
  intro token
  rw [rule?, isSome_lookup_iff_mem_keys]
  simp [entangled, ofList, or_comm]

theorem expandBy_meaning_entangled :
    let expanded := entangled.expandBy
      (PatternLibrary.ofTexts.searchFor? ["c*", "a.c", "a.c*"]) ["c*", "a.c", "a.c*"]
    PatternLibrary.ofTexts.IsDocumented ∧ entangled.Lists ["c*", "a.c", "a.c*"] ∧
      expanded "a.c" = .single "1" ∧ expanded "a.c*" = .nothing ∧
        expanded "c*" = .several ["2", "3"] ∧ expanded "xc*" = .nothing ∧
          expanded "a-c" = .single "a-c" := by
  have documented := PatternLibrary.isDocumented_ofTexts
  have means := expandBy_meaning documented lists_entangled
  refine ⟨documented, lists_entangled, ?_, ?_, ?_, ?_, ?_⟩
  · exact (means _ _).1.mpr (.value (by decide))
  · exact (means _ _).1.mpr (.valueless (by decide))
  · exact (means _ _).1.mpr (.value (by decide))
  · exact (means _ _).1.mpr (.mention (by decide) ⟨"c*", by decide, ⟨['x'], [], rfl⟩⟩)
  · exact (means _ _).1.mpr (.plain (mt (recognises_none_iff lists_entangled).mpr (by decide)))

end ProfileShell.Substitution
