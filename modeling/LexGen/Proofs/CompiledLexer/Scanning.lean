import LexGen.Program.Binding
import LexGen.Proofs.CompiledLexer.Compilation
import LexGen.Proofs.Options.Entries

/-!
# What the scanner of a compiled lexer works with

The tables of the scanner in terms of the compiled lexer, for any actions.

* `tables`: the tables of the scanner.
* `rulesOf_tables`: the rules that are tried in a declared condition are those that are active in it.
-/

namespace LexGen

open Scanner

variable {σ : Type}

namespace CompiledLexer

/-! ## Tables -/

def tables (lexer : CompiledLexer) (action : Nat → String → Run σ Value) : Tables σ where
  matchers := lexer.rules.map (·.pattern.matchLength)
  conditions := lexer.activeRules
  flex := lexer.options.flex
  backtracking := lexer.options.backtracking
  ranges := lexer.options.ranges
  action := action

/-! ## The rules of a condition -/

theorem ruleAt?_int {count i : Nat} (inRange : i < count) : ConditionEntry.ruleAt? count (.int i) = some i := by
  unfold ConditionEntry.ruleAt?
  rw [List.find?_range_eq_some]
  refine ⟨by simp, List.mem_range.2 inRange, fun j less => ?_⟩
  simp only [Value.same_int, Bool.not_eq_true', beq_eq_false_iff_ne]
  omega

theorem filterMap_ruleAt? {count : Nat} {positions : List Nat} (inRange : ∀ i ∈ positions, i < count) :
    (positions.map fun (i : Nat) => Value.int i).filterMap (ConditionEntry.ruleAt? count) = positions := by
  induction positions with
  | nil => rfl
  | cons i positions ih =>
    rw [List.map_cons, List.filterMap_cons_some (ruleAt?_int (inRange i List.mem_cons_self)),
      ih fun j mem => inRange j (List.mem_cons_of_mem _ mem)]

theorem lookup_map_of_mem {β : Type} (f : String → β) {table : List (String × Bool)} {name : String}
    (mem : name ∈ table.map (·.1)) : (table.map fun entry => (entry.1, f entry.1)).lookup name = some (f name) := by
  induction table with
  | nil => cases mem
  | cons entry table ih =>
    rw [List.map_cons, List.lookup_cons]
    by_cases same : name = entry.1
    · simp [same]
    · rw [beq_false_of_ne same]
      exact ih ((List.mem_cons.1 mem).resolve_left same)

section

variable {settings : Settings} {tokens : Value} {grammar : Grammar} {lexer : CompiledLexer}

theorem activeRules_of_ofGrammar (compiled : (ofGrammar settings tokens grammar).outcome = .ok lexer) :
    lexer.activeRules = (StartConditions.prepare grammar.conditions).map fun entry =>
      (entry.1, StartConditions.members (StartConditions.prepare grammar.conditions)
        (completed grammar).rules entry.1) := by
  rw [activeRules, conditions_of_ofGrammar compiled, List.map_map, rules_length_of_ofGrammar compiled]
  apply List.map_congr_left
  intro entry _
  exact Prod.ext rfl (filterMap_ruleAt? fun i mem => StartConditions.lt_of_mem_members mem)

def conditionOf (name : String) : String := if name.isEmpty then initialCondition else name

/-- The rules of a declared condition are found, and they are those that are active in it. -/
theorem rulesOf_tables (compiled : (ofGrammar settings tokens grammar).outcome = .ok lexer)
    (action : Nat → String → Run σ Value) {name : String} (declared : grammar.Declares (conditionOf name)) :
    (lexer.tables action).rulesOf name = .ok (StartConditions.members
      (StartConditions.prepare grammar.conditions) (completed grammar).rules (conditionOf name)) := by
  have found := lookup_map_of_mem
    (StartConditions.members (StartConditions.prepare grammar.conditions) (completed grammar).rules)
    ((StartConditions.mem_prepare grammar _).2 declared)
  rw [← activeRules_of_ofGrammar compiled] at found
  simp only [Tables.rulesOf, tables]
  rw [← conditionOf, found]

end

end CompiledLexer

end LexGen
