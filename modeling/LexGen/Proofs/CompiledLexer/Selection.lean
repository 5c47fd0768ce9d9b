import LexGen.Proofs.CompiledLexer.Scanning
import LexGen.Proofs.Scanner.Selection

/-!
# The rule that is run

Which rule a scanner of a compiled lexer runs, in terms of the grammar. The membership table that was made when
the lexer was compiled and the search of a single step come together here.
-/

namespace LexGen.CompiledLexer

open Scanner

variable {σ : Type} {settings : Settings} {tokens : Value} {grammar : Grammar} {lexer : CompiledLexer}

/-! ## Active rules and their matches -/

def ActiveIn (grammar : Grammar) (condition : String) (i : Nat) : Prop :=
  ∃ rule, (completed grammar).rules[i]? = some rule ∧ grammar.Activates condition rule

def Matches (lexer : CompiledLexer) (before rest : Text) (i : Nat) (text : Text) : Prop :=
  ∃ rule, lexer.rules[i]? = some rule ∧ (rule.pattern.matchLength before rest).map rest.take = some text

/-- The rule that is to be run: the first active one that matches, or with the flex policy the first among the
active ones with the longest match. -/
structure Chosen (grammar : Grammar) (lexer : CompiledLexer) (condition : String) (before rest : Text) (i : Nat)
    (text : Text) : Prop where
  active : ActiveIn grammar condition i
  found : lexer.Matches before rest i text
  first : grammar.options.flex = false → ∀ other otherText, ActiveIn grammar condition other →
    lexer.Matches before rest other otherText → i ≤ other
  longest : grammar.options.flex = true → ∀ other otherText, ActiveIn grammar condition other →
    lexer.Matches before rest other otherText →
      otherText.length ≤ text.length ∧ (otherText.length = text.length → i ≤ other)

theorem match?_tables {action : Nat → String → Run σ Value} {before rest : Text} {i : Nat} {text : Text} :
    (lexer.tables action).match? i before rest = .ok (some text) ↔ lexer.Matches before rest i text := by
  simp only [Tables.match?, tables, List.getElem?_map, Matches]
  cases lexer.rules[i]? <;> simp

theorem mem_members_iff_activeIn {condition : String} (declared : grammar.Declares condition) {i : Nat} :
    i ∈ StartConditions.members (StartConditions.prepare grammar.conditions) (completed grammar).rules condition ↔
      ActiveIn grammar condition i :=
  StartConditions.mem_members declared _ i

theorem not_matches_of_unmatched {condition : String} (declared : grammar.Declares condition)
    {action : Nat → String → Run σ Value} {before rest : Text}
    (unmatched : (lexer.tables action).Unmatched before rest (StartConditions.members
      (StartConditions.prepare grammar.conditions) (completed grammar).rules condition)) (i : Nat) (text : Text)
    (active : ActiveIn grammar condition i) : ¬ lexer.Matches before rest i text := by
  intro found
  have tried := unmatched i ((mem_members_iff_activeIn declared).2 active)
  rw [match?_tables.2 found] at tried
  cases tried

theorem chosen_of_wins (compiled : (ofGrammar settings tokens grammar).outcome = .ok lexer) {condition : String}
    (declared : grammar.Declares condition) {action : Nat → String → Run σ Value} {before rest : Text} {i : Nat}
    {text : Text}
    (wins : (lexer.tables action).Wins before rest (StartConditions.members
      (StartConditions.prepare grammar.conditions) (completed grammar).rules condition) i text) :
    Chosen grammar lexer condition before rest i text := by
  have flexOf : (lexer.tables action).flex = grammar.options.flex := by
    rw [← options_of_ofGrammar compiled, tables]
  have prevails : ∀ other otherText, ActiveIn grammar condition other →
      lexer.Matches before rest other otherText →
        Prevails grammar.options.flex i text other otherText := by
    intro other otherText active found
    rw [← flexOf]
    exact wins.prevails other ((mem_members_iff_activeIn declared).2 active) otherText (match?_tables.2 found)
  refine ⟨(mem_members_iff_activeIn declared).1 wins.mem, match?_tables.1 wins.found, ?_, ?_⟩
  · intro ordered other otherText active found
    simpa [Prevails, ordered] using prevails other otherText active found
  · intro flex other otherText active found
    have better := prevails other otherText active found
    simp only [Prevails, flex, if_true] at better
    omega

/-! ## Steps -/

theorem outcome_next_tables (compiled : (ofGrammar settings tokens grammar).outcome = .ok lexer)
    (ordered : grammar.options.backtracking = false) {s : State σ} (running : s.done = false) {name : String}
    {others : List String} (stack : s.conditions = name :: others)
    (declared : grammar.Declares (conditionOf name)) (action : Nat → String → Run σ Value) :
    outcome (next (lexer.tables action)) s =
      match (lexer.tables action).select s.before s.rest (StartConditions.members
        (StartConditions.prepare grammar.conditions) (completed grammar).rules (conditionOf name)) none with
      | .error e => (.error e, s.start)
      | .ok (some (i, text)) => outcome (attempt (lexer.tables action) i text) s.start
      | .ok none => outcome unmatched s.start := by
  have current := rulesOf_tables compiled action declared
  have noBacktracking : (lexer.tables action).backtracking = false := by
    rw [← ordered, ← options_of_ofGrammar compiled, tables]
  rw [outcome_next, running, Tables.currentRules, State.start_conditions, stack, List.headD_cons, current]
  dsimp only
  rw [noBacktracking, State.start_before, State.start_rest]
  rcases (lexer.tables action).select s.before s.rest (StartConditions.members
    (StartConditions.prepare grammar.conditions) (completed grammar).rules (conditionOf name)) none with
    _ | _ | ⟨i, text⟩ <;> simp only [Bool.false_eq_true, if_false]

/-- Without backtracking, a step either runs the action of the chosen rule and no other, or no active rule matches
and the step ends the input or finds it unrecognizable. The empty name stands for the initial condition. -/
theorem next_selects (compiled : (ofGrammar settings tokens grammar).outcome = .ok lexer)
    (ordered : grammar.options.backtracking = false) (s : State σ) (running : s.done = false) {name : String}
    {others : List String} (stack : s.conditions = name :: others)
    (declared : grammar.Declares (conditionOf name)) :
    (∃ i text, Chosen grammar lexer (conditionOf name) s.before s.rest i text ∧
        ∀ action, outcome (next (lexer.tables action)) s =
          outcome (attempt (lexer.tables fun _ => action i) i text) s.start) ∨
      ((∀ i text, ActiveIn grammar (conditionOf name) i → ¬ lexer.Matches s.before s.rest i text) ∧
        ∀ action, outcome (next (lexer.tables action)) s =
          if s.rest = [] then (.ok endToken, s.start)
          else outcome (reportHere "Unrecognized text.") s.start) := by
  let idle : Nat → String → Run σ Value := fun _ _ => return .none
  have selected : ∀ action rules, (lexer.tables action).select s.before s.rest rules none =
      (lexer.tables idle).select s.before s.rest rules none := fun action rules =>
    (lexer.tables idle).select_action action s.before s.rest rules none
  have inRange : ∀ i ∈ StartConditions.members (StartConditions.prepare grammar.conditions)
      (completed grammar).rules (conditionOf name), i < (lexer.tables idle).matchers.length := by
    intro i mem
    simp only [tables, List.length_map]
    rw [rules_length_of_ofGrammar compiled]
    exact StartConditions.lt_of_mem_members mem
  rcases (lexer.tables idle).select_cases s.before s.rest (StartConditions.pairwise_members _ _ _) inRange with
    ⟨i, text, picked, wins⟩ | ⟨none, unmatched⟩
  · refine .inl ⟨i, text, chosen_of_wins compiled declared wins, fun action => ?_⟩
    rw [outcome_next_tables compiled ordered running stack declared, selected, picked]
    exact congrArg (outcome · s.start) (attempt_action (lexer.tables action) i text).symm
  · refine .inr ⟨not_matches_of_unmatched declared unmatched, fun action => ?_⟩
    rw [outcome_next_tables compiled ordered running stack declared, selected, none]
    simp only [outcome_unmatched, List.isEmpty_iff, State.start_rest]

def wordsAndQuotes : Grammar where
  rules := [⟨some ["QUOTED"], .text "[^']+".toList, .code []⟩, ⟨none, .text "a".toList, .code []⟩,
    ⟨none, .text "[a-z]+".toList, .code []⟩, ⟨some ["*"], .text "'".toList, .code []⟩]
  conditions := [("QUOTED", true)]
  options := { flex := true }

theorem next_selects_words :
    ∃ lexer, (ofGrammar {} .none wordsAndQuotes).outcome = .ok lexer ∧
      wordsAndQuotes.options.backtracking = false ∧ wordsAndQuotes.Declares (conditionOf initialCondition) ∧
      ∀ s : State Unit, s = { rest := "ab'".toList, world := { memory := () } } →
      (outcome (next (lexer.tables fun i _ => return .int i)) s).1 = .ok (.int 2) ∧
      ((∃ i text, Chosen wordsAndQuotes lexer (conditionOf initialCondition) s.before s.rest i text ∧
          ∀ action, outcome (next (lexer.tables action)) s =
            outcome (attempt (lexer.tables fun _ => action i) i text) s.start) ∨
        ((∀ i text, ActiveIn wordsAndQuotes (conditionOf initialCondition) i →
            ¬ lexer.Matches s.before s.rest i text) ∧
          ∀ action, outcome (next (lexer.tables action)) s =
            if s.rest = [] then (.ok endToken, s.start)
            else outcome (reportHere "Unrecognized text.") s.start)) := by
  have evaluated : (ofGrammar {} .none wordsAndQuotes).outcome.toOption.any (fun lexer =>
      (outcome (next (lexer.tables fun i _ => return .int i))
        ({ rest := "ab'".toList, world := { memory := () } } : State Unit)).1.toOption.any fun v =>
          v.typeName = "int" ∧ v.integer? = some 2) = true := by
    decide +kernel
  obtain ⟨lexer, compiled, second⟩ := exists_ok_of_any evaluated
  obtain ⟨v, result, shown⟩ := exists_ok_of_any second
  obtain ⟨type, counted⟩ := of_decide_eq_true shown
  obtain rfl := Value.eq_int type counted
  have declared : wordsAndQuotes.Declares (conditionOf initialCondition) := .inl rfl
  refine ⟨lexer, compiled, rfl, declared, ?_⟩
  rintro s rfl
  exact ⟨result, next_selects compiled rfl _ rfl rfl declared⟩

/-! ## The empty name -/

def unnamedCondition : Grammar where
  rules := [⟨some [""], .text "a".toList, .code []⟩, ⟨none, .text "a".toList, .code []⟩]
  conditions := [("", true)]

/-- In a condition that is declared with the empty name, the rules of the initial condition are tried. -/
theorem unnamed_condition_is_initial :
    ∃ lexer, (ofGrammar {} .none unnamedCondition).outcome = .ok lexer ∧
      unnamedCondition.options.backtracking = false ∧ unnamedCondition.Declares "" ∧
      ActiveIn unnamedCondition "" 0 ∧ ¬ ActiveIn unnamedCondition "" 1 ∧
      lexer.Matches [] "a".toList 0 "a".toList ∧
      (outcome (next (lexer.tables fun i _ => return .int i))
        ((({ world := { memory := () } } : State Unit).setInput false "a".toList).begin "")).1 = .ok (.int 1) := by
  have evaluated : (ofGrammar {} .none unnamedCondition).outcome.toOption.any (fun lexer =>
      (lexer.rules[0]?.bind fun rule => (rule.pattern.matchLength [] "a".toList).map "a".toList.take) =
        some "a".toList ∧
      (outcome (next (lexer.tables fun i _ => return .int i))
        ((({ world := { memory := () } } : State Unit).setInput false "a".toList).begin "")).1.toOption.any fun v =>
          v.typeName = "int" ∧ v.integer? = some 1) = true := by
    decide +kernel
  obtain ⟨lexer, compiled, shown⟩ := exists_ok_of_any evaluated
  obtain ⟨found, first⟩ := of_decide_eq_true shown
  obtain ⟨rule, atRule, found⟩ := Option.bind_eq_some_iff.1 found
  obtain ⟨v, result, shown⟩ := exists_ok_of_any first
  obtain ⟨type, counted⟩ := of_decide_eq_true shown
  obtain rfl := Value.eq_int type counted
  refine ⟨lexer, compiled, rfl, .inr (by decide), ⟨_, rfl, .inr (by decide)⟩, ?_, ⟨rule, atRule, found⟩, result⟩
  rintro ⟨rule, second, active⟩
  obtain rfl := Option.some.inj second
  exact absurd active (by decide : ¬ ("" = initialCondition ∨ ("", false) ∈ [("", true)]))

end LexGen.CompiledLexer
