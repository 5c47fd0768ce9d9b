import LexGen.Proofs.CompiledLexer.Scanning
import LexGen.Proofs.Scanner.Attempted
import LexGen.Proofs.Scanner.Invariant
import LexGen.Proofs.Scanner.Selection

/-!
# Safe scanning

While the scanner of a compiled lexer runs, all that it looks up in its tables is found, whatever its actions do,
as long as they only begin start conditions that exist. What carries this is the stack of start conditions: the
initial one is at the bottom and nothing unknown is above it.
-/

namespace LexGen.CompiledLexer

open Scanner

variable {σ : Type} {settings : Settings} {tokens : Value} {grammar : Grammar} {lexer : CompiledLexer}

/-! ## Sessions -/

/-- A scanner of a compiled lexer with a script for each action. The script of an action that is not in the table
fails. -/
def session (lexer : CompiledLexer) (actions : List (String → Script σ)) (steps : Nat) : Session σ where
  tables := lexer.tables fun _ _ => return .none
  scripts rule condition :=
    match actions[rule]? with
    | some action => action condition
    | none => .raise (.fault .badIndex)
  steps := steps

/-- The calls that are allowed: a condition that is begun is declared, or the initial one, or without a name. -/
def Permits (grammar : Grammar) (op : Operation) : Prop :=
  ∀ condition, op = .begin condition → condition = "" ∨ grammar.Declares condition

/-- Whether all that is looked up in the tables in a state is found. -/
structure Finds (lexer : CompiledLexer) (count : Nat) (now : State σ) : Prop where
  bottom : now.conditions.getLast? = some initialCondition
  found : ∃ rules, (lexer.tables fun _ _ => (return .none : Run σ Value)).currentRules now = .ok rules ∧
    ∀ i ∈ rules, i < lexer.rules.length ∧ i < count

/-! ## The stack of start conditions -/

/-- The initial condition at the bottom, and above it only conditions that may be begun. -/
structure Stacked (grammar : Grammar) (conditions : List String) : Prop where
  bottom : conditions.getLast? = some initialCondition
  known : ∀ condition ∈ conditions, condition = "" ∨ grammar.Declares condition

theorem stacked_initial (grammar : Grammar) : Stacked grammar [initialCondition] where
  bottom := rfl
  known _ mem := .inr (.inl (List.mem_singleton.1 mem))

theorem Stacked.cons {conditions : List String} (stacked : Stacked grammar conditions) {condition : String}
    (known : condition = "" ∨ grammar.Declares condition) : Stacked grammar (condition :: conditions) where
  bottom := by
    rw [List.getLast?_cons, stacked.bottom]
    rfl
  known := List.forall_mem_cons.2 ⟨known, stacked.known⟩

theorem Stacked.tail {condition below : String} {conditions : List String}
    (stacked : Stacked grammar (condition :: below :: conditions)) : Stacked grammar (below :: conditions) where
  bottom := stacked.bottom
  known other mem := stacked.known other (List.mem_cons_of_mem _ mem)

theorem Stacked.after {t : Tables σ} {op : Operation} {s : State σ} (permitted : Permits grammar op)
    (stacked : Stacked grammar s.conditions) : Stacked grammar (op.after t s).conditions := by
  cases op with
  | setInput text shared => exact stacked_initial grammar
  | input =>
    rw [Operation.after]
    split <;> exact stacked
  | reject =>
    rw [Operation.after]
    split <;> exact stacked
  | begin condition => exact stacked.cons (permitted condition rfl)
  | popState =>
    rw [Operation.after, State.popState]
    split
    · exact stacked
    · exact stacked
    · rename_i condition others nonempty stack
      rw [stack] at stacked
      cases others with
      | nil => exact (nonempty rfl).elim
      | cons below others => exact stacked.tail
  | _ => exact stacked

theorem preserved_stacked (x : Session σ) (grammar : Grammar) :
    x.Preserved (Permits grammar) fun now => Stacked grammar now.conditions where
  world _ _ stacked := stacked
  start s stacked := s.start_conditions.symm ▸ stacked
  commit _ _ stacked := stacked
  reopen s stacked := by
    unfold State.reopen
    split <;> exact stacked
  restore _ _ stacked _ := stacked
  call _ _ permitted stacked := stacked.after permitted

theorem declares_conditionOf {name : String} (known : name = "" ∨ grammar.Declares name) :
    grammar.Declares (conditionOf name) := by
  unfold conditionOf
  split
  · exact .inl rfl
  · rename_i named
    exact known.resolve_left fun empty => named (by rw [empty]; rfl)

theorem Stacked.finds (compiled : (ofGrammar settings tokens grammar).outcome = .ok lexer) {now : State σ}
    (stacked : Stacked grammar now.conditions) : Finds lexer lexer.actions.length now where
  bottom := stacked.bottom
  found := by
    obtain ⟨current, top, mem⟩ : ∃ current, now.conditions.headD "" = current ∧ current ∈ now.conditions := by
      cases stack : now.conditions with
      | nil =>
        have bottom := stacked.bottom
        rw [stack] at bottom
        cases bottom
      | cons condition others => exact ⟨condition, rfl, List.mem_cons_self⟩
    have declared := declares_conditionOf (stacked.known current mem)
    refine ⟨_, by rw [Tables.currentRules, top, rulesOf_tables compiled _ declared], fun i member => ?_⟩
    have inRange := StartConditions.lt_of_mem_members member
    rw [← rules_length_of_ofGrammar compiled] at inRange
    exact ⟨inRange, (wellFormed_of_ofGrammar compiled).parallel ▸ inRange⟩

/-! ## Safety -/

/-- A compiled lexer is well formed, and its scanner is safe: whatever text is scanned, by whatever calls, and
whatever the actions do with the scanner, in every state the initial condition is at the bottom of the stack and
the rules of the current condition are found and exist, and every rule that is run has an action. -/
theorem compiled_safe (compiled : (ofGrammar settings tokens grammar).outcome = .ok lexer) :
    lexer.WellFormed ∧ ∀ (actions : List (String → Script σ)) (steps depth : Nat) (program : Script σ)
      (text : Text) (s : State σ), actions.length = lexer.actions.length →
      (∀ action ∈ actions, ∀ condition, (action condition).Makes (Permits grammar)) →
      program.Makes (Permits grammar) →
      (∀ now ∈ (lexer.session actions steps).states depth program (s.setInput lexer.options.ranges text),
        Finds lexer actions.length now) ∧
      ∀ i ∈ (lexer.session actions steps).attempted depth program (s.setInput lexer.options.ranges text),
        i < actions.length := by
  refine ⟨wellFormed_of_ofGrammar compiled, ?_⟩
  intro actions steps depth program text s parallel permitted allowed
  have scripts : ∀ rule condition, ((lexer.session actions steps).scripts rule condition).Makes (Permits grammar) := by
    intro rule condition
    simp only [session]
    split
    · rename_i action atRule
      exact permitted action (List.mem_of_getElem? atRule) condition
    · trivial
  constructor
  · intro now mem
    have stacked := (preserved_stacked (lexer.session actions steps) grammar).states scripts depth program allowed
      (stacked_initial grammar) now mem
    exact parallel ▸ stacked.finds compiled
  · intro i mem
    have inRange := (lexer.session actions steps).lt_of_mem_attempted depth program _ i mem
    rw [parallel, ← (wellFormed_of_ofGrammar compiled).parallel]
    simpa [session, tables] using inRange

def quoting : Grammar where
  rules := [⟨none, .text "'".toList, .code []⟩, ⟨some ["QUOTED"], .text "'|[^']+".toList, .code []⟩]
  conditions := [("QUOTED", true)]
  options := { backtracking := true }

def quotingActions : List (String → Script Unit) :=
  [fun _ => .call (.begin "QUOTED") fun _ => .call .next fun _ => .yield .none,
   fun _ => .call .popState fun _ => .call .popState fun _ => .call (.begin "") fun _ => .call (.topState (-7))
     fun _ => .call .reject fun _ => .yield .none]

theorem compiled_safe_quoting :
    ∃ lexer, (ofGrammar {} .none quoting).outcome = .ok lexer ∧ lexer.WellFormed ∧
      quotingActions.length = lexer.actions.length ∧
      (∀ action ∈ quotingActions, ∀ condition, (action condition).Makes (Permits quoting)) ∧
      (∀ now ∈ (lexer.session quotingActions 9).states 3 (.call .lex fun _ => .call .lex fun _ => .yield .none)
          (({ world := { memory := () } } : State Unit).setInput lexer.options.ranges "'it''".toList),
        Finds lexer quotingActions.length now) ∧
      ∀ i ∈ (lexer.session quotingActions 9).attempted 3 (.call .lex fun _ => .call .lex fun _ => .yield .none)
          (({ world := { memory := () } } : State Unit).setInput lexer.options.ranges "'it''".toList),
        i < quotingActions.length := by
  have evaluated : (ofGrammar {} .none quoting).outcome.toOption.any (fun lexer => lexer.actions.length = 2) =
      true := by
    decide +kernel
  obtain ⟨lexer, compiled, two⟩ := exists_ok_of_any evaluated
  have parallel : quotingActions.length = lexer.actions.length := (of_decide_eq_true two).symm
  have permitted : ∀ action ∈ quotingActions, ∀ condition, (action condition).Makes (Permits quoting) := by
    simp [quotingActions, Script.Makes, Permits, Grammar.Declares, quoting]
  have allowed : (Script.call .lex fun _ => .call .lex fun _ => .yield .none : Script Unit).Makes
      (Permits quoting) := by
    simp [Script.Makes, Permits]
  obtain ⟨wellFormed, safe⟩ := compiled_safe compiled
  obtain ⟨finds, inRange⟩ := safe quotingActions 9 3 _ "'it''".toList { world := { memory := () } } parallel
    permitted allowed
  exact ⟨lexer, compiled, wellFormed, parallel, permitted, finds, inRange⟩

end LexGen.CompiledLexer
