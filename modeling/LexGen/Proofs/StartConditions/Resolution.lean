import LexGen.Proofs.StartConditions.Membership
import Mathlib.Data.List.Nodup

/-!
# What start conditions are resolved to

The table of start conditions as a whole: when there is none, and what is in it otherwise.

* `Grammar.Misnames`: a rule names a condition that does not exist.
* `error_of_resolve`: the error tells of the first such rule, and of the first such name in it.
* `resolve_exact`: there is a table if no rule does so, and it holds every condition with exactly the rules that are
  active in it.
-/

namespace LexGen

namespace Grammar

variable {grammar : Grammar} {rule : Rule} {condition : String}

/-- The rule names a condition that does not exist. Behind the wildcard names do not count. -/
def Misnames (grammar : Grammar) (rule : Rule) (condition : String) : Prop :=
  ∃ states, rule.states = some states ∧ states.head? ≠ some wildcard ∧ condition ∈ states ∧
    ¬ grammar.Declares condition

/-- The rule at this position is the first that names a condition that does not exist, and this is the first such name
in it. -/
def FirstMisnamed (grammar : Grammar) (i : Nat) (condition : String) : Prop :=
  ∃ earlier rule later before after, grammar.rules = earlier ++ rule :: later ∧ earlier.length = i ∧
    (∀ other ∈ earlier, ∀ name, ¬ grammar.Misnames other name) ∧
    rule.states = some (before ++ condition :: after) ∧ (before ++ condition :: after).head? ≠ some wildcard ∧
    ¬ grammar.Declares condition ∧ ∀ name ∈ before, grammar.Declares name

theorem FirstMisnamed.exists_misnames {i : Nat} (first : grammar.FirstMisnamed i condition) :
    ∃ rule ∈ grammar.rules, ∃ name, grammar.Misnames rule name := by
  obtain ⟨earlier, rule, later, before, after, rules, -, -, states, own, undeclared, -⟩ := first
  exact ⟨rule, by simp [rules], condition, _, states, own, by simp, undeclared⟩

/-- The names of the conditions: as they are declared, with the initial one behind them if it is not declared. -/
def conditionNames (grammar : Grammar) : List String :=
  grammar.conditions.map (·.1) ++ if initialCondition ∈ grammar.conditions.map (·.1) then [] else [initialCondition]

end Grammar

namespace StartConditions

variable {grammar : Grammar} {rule : Rule} {name : String}

/-! ## Names that are not declared -/

theorem contains_prepare (grammar : Grammar) (name : String) :
    ((prepare grammar.conditions).map (·.1)).contains name = true ↔ grammar.Declares name := by
  rw [List.contains_iff_mem, mem_prepare]

theorem undeclared?_of_names {states : List String} (listed : rule.states = some states)
    (own : states.head? ≠ some wildcard) (table : List (String × Bool)) :
    undeclared? table rule = states.find? fun name => !(table.map (·.1)).contains name := by
  rw [undeclared?, targets, listed]
  cases states with
  | nil => simp [Rule.isWildcard, listed]
  | cons first others =>
    have named : first ≠ wildcard := fun wild => own (by rw [wild]; rfl)
    simp [Rule.isWildcard, listed, named]

theorem undeclared?_of_wild (wild : ∀ states, rule.states = some states → states.head? = some wildcard)
    (table : List (String × Bool)) : undeclared? table rule = none := by
  rw [undeclared?, List.find?_eq_none]
  intro name mem
  have known : name ∈ table.map (·.1) := by
    cases listed : rule.states with
    | none =>
      rw [targets, listed] at mem
      exact (List.filter_sublist.map _).subset mem
    | some states =>
      obtain ⟨others, rfl⟩ : ∃ others, states = wildcard :: others := by
        cases states with
        | nil => cases wild _ listed
        | cons first others => exact ⟨others, by rw [Option.some.inj (wild _ listed)]⟩
      simpa [targets, listed, Rule.isWildcard] using mem
  rw [Bool.not_eq_true', Bool.not_eq_false, List.contains_iff_mem]
  exact known

theorem undeclared?_eq_some :
    undeclared? (prepare grammar.conditions) rule = some name ↔ ∃ before after,
      rule.states = some (before ++ name :: after) ∧ (before ++ name :: after).head? ≠ some wildcard ∧
        ¬ grammar.Declares name ∧ ∀ other ∈ before, grammar.Declares other := by
  by_cases named : ∃ states, rule.states = some states ∧ states.head? ≠ some wildcard
  · obtain ⟨states, listed, own⟩ := named
    rw [undeclared?_of_names listed own, List.find?_eq_some_iff_append, listed]
    simp only [Bool.not_eq_true', ← Bool.not_eq_true, contains_prepare, Bool.not_not, Option.some.injEq]
    constructor
    · rintro ⟨undeclared, before, after, rfl, declared⟩
      exact ⟨before, after, rfl, own, undeclared, declared⟩
    · rintro ⟨before, after, rfl, -, undeclared, declared⟩
      exact ⟨undeclared, before, after, rfl, declared⟩
  · have wild : ∀ states, rule.states = some states → states.head? = some wildcard := by
      intro states listed
      by_contra own
      exact named ⟨states, listed, own⟩
    rw [undeclared?_of_wild wild]
    constructor
    · simp
    · rintro ⟨before, after, listed, own, -⟩
      exact absurd (wild _ listed) own

theorem undeclared?_eq_none :
    undeclared? (prepare grammar.conditions) rule = none ↔ ∀ name, ¬ grammar.Misnames rule name := by
  constructor
  · rintro none name ⟨states, listed, own, mem, undeclared⟩
    rw [undeclared?_of_names listed own, List.find?_eq_none] at none
    exact none name mem (by simpa [← contains_prepare] using undeclared)
  · intro right
    cases found : undeclared? (prepare grammar.conditions) rule with
    | none => rfl
    | some name =>
      obtain ⟨before, after, listed, own, undeclared, -⟩ := undeclared?_eq_some.1 found
      exact absurd ⟨_, listed, own, by simp, undeclared⟩ (right name)

theorem checkRule_eq_ok {index : Nat} :
    checkRule (prepare grammar.conditions) rule index = .ok () ↔ ∀ name, ¬ grammar.Misnames rule name := by
  rw [← undeclared?_eq_none, checkRule]
  cases undeclared? (prepare grammar.conditions) rule <;> simp

/-! ## Errors -/

theorem error_of_forM {α ε : Type} {f : α → Except ε Unit} {items : List α} {e : ε} (h : items.forM f = .error e) :
    ∃ before item after, items = before ++ item :: after ∧ (∀ other ∈ before, f other = .ok ()) ∧
      f item = .error e := by
  induction items with
  | nil => cases h
  | cons item items ih =>
    rw [List.forM_eq_forM, List.forM_cons] at h
    cases checked : f item with
    | error e' =>
      rw [checked] at h
      exact ⟨[], item, items, rfl, by simp, by rw [checked]; exact h⟩
    | ok _ =>
      rw [checked] at h
      obtain ⟨before, other, after, rfl, passed, failed⟩ := ih h
      exact ⟨item :: before, other, after, rfl, List.forall_mem_cons.2 ⟨checked, passed⟩, failed⟩

theorem error_of_discarded {α β ε : Type} {x : Except ε α} {b : β} {e : ε} (h : (x >>= fun _ => pure b) = .error e) :
    x = .error e := by
  cases x with
  | error e' => exact congrArg Except.error (Except.error.inj h)
  | ok a => cases h

theorem error_of_resolve {e : Error} (failed : resolve grammar.conditions grammar.rules = .error e) :
    ∃ (i : Nat) (name : String), e = .undeclaredState name i ∧ grammar.FirstMisnamed i name := by
  obtain ⟨before, ⟨rule, i⟩, after, split, passed, failed⟩ := error_of_forM (error_of_discarded failed)
  have rules : grammar.rules = before.map (·.1) ++ rule :: after.map (·.1) := by
    rw [← List.zipIdx_map_fst 0 grammar.rules, split, List.map_append, List.map_cons]
  have place : i = before.length := by
    have found : grammar.rules.zipIdx[before.length]? = some (rule, i) := by simp [split]
    rw [List.getElem?_zipIdx] at found
    simp_all
  dsimp only [checkRule] at failed
  cases found : undeclared? (prepare grammar.conditions) rule with
  | none =>
    rw [found] at failed
    cases failed
  | some name =>
    rw [found] at failed
    obtain ⟨earlierNames, laterNames, states, own, undeclared, declared⟩ := undeclared?_eq_some.1 found
    refine ⟨i, name, (Except.error.inj failed).symm, before.map (·.1), rule, after.map (·.1), earlierNames, laterNames,
      rules, by rw [List.length_map, place], ?_, states, own, undeclared, declared⟩
    intro other mem
    obtain ⟨entry, entered, rfl⟩ := List.mem_map.1 mem
    exact checkRule_eq_ok.1 (passed entry entered)

theorem named_of_resolve {table : List StartCondition}
    (resolved : resolve grammar.conditions grammar.rules = .ok table) :
    ∀ rule ∈ grammar.rules, ∀ name, ¬ grammar.Misnames rule name := by
  obtain ⟨_, checked, -⟩ := ok_of_bind resolved
  intro rule mem
  rw [← List.zipIdx_map_fst 0 grammar.rules] at mem
  obtain ⟨entry, entered, rfl⟩ := List.mem_map.1 mem
  exact checkRule_eq_ok.1 (ok_of_forM checked entry entered)

/-! ## The table -/

theorem names_mark (name : String) (inclusive : Bool) (table : List (String × Bool)) :
    (mark name inclusive table).map (·.1) =
      table.map (·.1) ++ if name ∈ table.map (·.1) then [] else [name] := by
  induction table with
  | nil => rfl
  | cons entry table ih =>
    obtain ⟨other, old⟩ := entry
    rw [mark]
    by_cases same : name = other
    · simp [same]
    · simp [same, ih]

theorem names_prepare (grammar : Grammar) : (prepare grammar.conditions).map (·.1) = grammar.conditionNames := by
  rw [prepare, names_mark, List.map_map]
  rfl

theorem inclusive_iff (distinct : (grammar.conditions.map (·.1)).Nodup) {inclusive : Bool}
    (entered : (name, inclusive) ∈ prepare grammar.conditions) : inclusive = true ↔ grammar.Includes name := by
  rw [← mem_prepare_inclusive]
  constructor
  · rintro rfl
    exact entered
  · intro included
    exact congrArg Prod.snd (List.inj_on_of_nodup_map (nodup_prepare distinct) entered included rfl)

/-- Resolving fails exactly if a rule whose list does not begin with the wildcard names a condition that is neither
declared nor the initial one, and the error tells of the first such name in the first such rule. Otherwise the table
holds the declared conditions and the initial one, in the order in which they are declared; the initial one is inclusive,
and any other one if it is declared so; and the rules of a condition are those that are active in it, each of them once
and in ascending order. -/
theorem resolve_exact (grammar : Grammar) (distinct : (grammar.conditions.map (·.1)).Nodup) :
    ((∃ e, resolve grammar.conditions grammar.rules = .error e) ↔
        ∃ rule ∈ grammar.rules, ∃ name, grammar.Misnames rule name) ∧
      (∀ e, resolve grammar.conditions grammar.rules = .error e →
        ∃ (i : Nat) (name : String), e = .undeclaredState name i ∧ grammar.FirstMisnamed i name) ∧
      ∀ table, resolve grammar.conditions grammar.rules = .ok table →
        table.map (·.name) = grammar.conditionNames ∧
          ∀ condition ∈ table, (condition.inclusive = true ↔ grammar.Includes condition.name) ∧
            condition.rules.Pairwise (· < ·) ∧
            ∀ i, i ∈ condition.rules ↔ ∃ rule, grammar.rules[i]? = some rule ∧
              grammar.Activates condition.name rule := by
  refine ⟨⟨?_, ?_⟩, fun e => error_of_resolve, ?_⟩
  · rintro ⟨e, failed⟩
    obtain ⟨i, name, -, first⟩ := error_of_resolve failed
    exact first.exists_misnames
  · rintro ⟨rule, mem, name, misnames⟩
    cases resolved : resolve grammar.conditions grammar.rules with
    | error e => exact ⟨e, rfl⟩
    | ok table => exact absurd misnames (named_of_resolve resolved rule mem name)
  · intro table resolved
    rw [resolve_eq resolved]
    constructor
    · rw [← names_prepare, List.map_map]
      rfl
    · intro condition mem
      obtain ⟨⟨name, inclusive⟩, entered, rfl⟩ := List.mem_map.1 mem
      have declared : grammar.Declares name := (mem_prepare grammar name).1 (List.mem_map_of_mem entered)
      exact ⟨inclusive_iff distinct entered, pairwise_members _ _ _, mem_members declared grammar.rules⟩

/-- Conditions are named twice, behind the wildcard and not at all, and the initial one is declared as exclusive. -/
def quotedComments : Grammar where
  rules := [⟨none, .text "a".toList, .code []⟩, ⟨some ["QUOTED", "COMMENT", "QUOTED"], .text "b".toList, .code []⟩,
    ⟨some [], .text "c".toList, .code []⟩, ⟨some ["*", "MISSING"], .text "d".toList, .code []⟩,
    ⟨some ["INITIAL"], .text "e".toList, .code []⟩]
  conditions := [("QUOTED", true), ("INITIAL", true), ("COMMENT", false)]

theorem resolve_exact_quotedComments :
    (quotedComments.conditions.map (·.1)).Nodup ∧
      resolve quotedComments.conditions quotedComments.rules =
        .ok [⟨"QUOTED", false, [1, 3]⟩, ⟨"INITIAL", true, [0, 3, 4]⟩, ⟨"COMMENT", true, [0, 1, 3]⟩] ∧
      (¬ ∃ rule ∈ quotedComments.rules, ∃ name, quotedComments.Misnames rule name) ∧
      ∀ i, i ∈ [1, 3] ↔ ∃ rule, quotedComments.rules[i]? = some rule ∧ quotedComments.Activates "QUOTED" rule := by
  have distinct : (quotedComments.conditions.map (·.1)).Nodup := by decide
  have resolved : resolve quotedComments.conditions quotedComments.rules =
      .ok [⟨"QUOTED", false, [1, 3]⟩, ⟨"INITIAL", true, [0, 3, 4]⟩, ⟨"COMMENT", true, [0, 1, 3]⟩] := by rfl
  obtain ⟨fails, -, holds⟩ := resolve_exact quotedComments distinct
  refine ⟨distinct, resolved, fun misnamed => ?_, ((holds _ resolved).2 _ List.mem_cons_self).2.2⟩
  obtain ⟨e, failed⟩ := fails.2 misnamed
  rw [resolved] at failed
  cases failed

end StartConditions

end LexGen
