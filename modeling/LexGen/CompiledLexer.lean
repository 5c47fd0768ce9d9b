import LexGen.Action.Table
import LexGen.RuleTable
import LexGen.StartConditions

/-!
# Compiled lexers

A compiled lexer holds the tables that a scanner runs on: rules, start conditions and actions, which refer to
each other by the positions of the rules. `CompiledLexer.assemble` is the only way to put tables together; it
checks that the positions fit. `CompiledLexer.ofGrammar` computes the tables of a grammar.
-/

namespace LexGen

/-- A start condition of a compiled lexer. Its name is a text and its rules are positions; restored ones may be
given as other values that equal positions, and are kept as they were given. -/
structure ConditionEntry where
  name : Value
  inclusive : Bool
  rules : List Value

def StartCondition.entry (condition : StartCondition) : ConditionEntry :=
  ⟨.str condition.name, condition.inclusive, condition.rules.map fun (i : Nat) => .int i⟩

/-- A compiled lexer. The blocks of code are kept as they were given until they are used. -/
structure CompiledLexer where
  rules : List CompiledRule
  conditions : List ConditionEntry
  actions : List ActionEntry
  /-- The statement that chooses the action of a rule. -/
  dispatch : Text
  options : Options
  actionInclude : Value
  moduleInclude : Value

/-- The rule that an item of a start condition refers to, when there are `count` rules. -/
def ConditionEntry.ruleAt? (count : Nat) (item : Value) : Option Nat :=
  (List.range count).find? fun i => Value.same (.int i) item

namespace CompiledLexer

/-! ## Assembly -/

def checkPosition (position : Nat) (rule : CompiledRule) (action : ActionEntry) : Except Error Unit :=
  if rule.index = action.rule ∧ action.rule = position then .ok ()
  else
    .error (.inconsistent ("Index mismatch at position " ++ toString position ++ ": rule " ++
      toString rule.index ++ ", action " ++ toString action.rule))

def checkPositions (position : Nat) : List CompiledRule → List ActionEntry → Except Error Unit
  | rule :: rules, action :: actions => do
    checkPosition position rule action
    checkPositions (position + 1) rules actions
  | _, _ => .ok ()

def checkCondition (count : Nat) (condition : ConditionEntry) : Except Error Unit := do
  if !condition.rules.all Value.hashable then throw (.fault .badType)
  match (Value.distinct condition.rules).filter fun item => (ConditionEntry.ruleAt? count item).isNone with
  | [] => return ()
  | strays =>
    throw (.inconsistent ("Start condition '" ++ (← condition.name.told) ++ "' references unknown rule(s) " ++
      (← (Value.list (← Value.inOrder strays)).shown)))

def assemble (rules : List CompiledRule) (conditions : List ConditionEntry) (actions : List ActionEntry)
    (options : Options) (actionInclude moduleInclude : Value) : Except Error CompiledLexer := do
  if rules.length ≠ actions.length then
    throw (.inconsistent (toString rules.length ++ " rule(s) but " ++ toString actions.length ++ " action(s)"))
  checkPositions 0 rules actions
  conditions.forM (checkCondition rules.length)
  let dispatch ← Action.dispatch actions
  return ⟨rules, conditions, actions, dispatch, options, actionInclude, moduleInclude⟩

/-! ## Compilation -/

def echoRule : Rule :=
  ⟨none, .text "(?s:.)".toList, .code "yy_.echo(yytext)".toList⟩

def completed (grammar : Grammar) : Grammar :=
  if grammar.options.flex then grammar.withRule echoRule else grammar

def channel : String := "relex.assembler"

/-- Compile a grammar. `tokens` is a map of tokens or something empty. -/
def ofGrammar (settings : Settings) (tokens : Value) (grammar : Grammar) : Journaled CompiledLexer := do
  let grammar := completed grammar
  let macros ← Macros.expand settings (← Macros.ofEntries grammar.macros)
  let rules ← compileRules settings macros grammar.options.caseInsensitive grammar.rules
  let conditions ← StartConditions.resolve grammar.conditions grammar.rules
  let actions ← Action.build tokens grammar.rules
  Journal.note .debug channel
    ("Compiled " ++ toString rules.length ++ " rule(s), " ++ toString macros.length ++ " macro(s), " ++
      toString conditions.length ++ " start condition(s)")
  assemble rules (conditions.map StartCondition.entry) actions grammar.options grammar.actionInclude
    grammar.moduleInclude

/-- Compile whatever stands for a grammar. Texts are decoded by `parser`, and as JSON without one. -/
def ofSource (settings : Settings) (parser : Option (Text → Except Error Value)) (tokens source : Value) :
    Journaled CompiledLexer := do
  ofGrammar settings tokens (← Grammar.ofSource parser source)

def conditionTable (lexer : CompiledLexer) : Value :=
  .dict (lexer.conditions.map fun condition =>
    (condition.name, .dict [(.str "rules", .list condition.rules), (.str "inclusive", .bool condition.inclusive)]))

def activeRules (lexer : CompiledLexer) : List (String × List Nat) :=
  lexer.conditions.map fun condition =>
    (condition.name.plain, condition.rules.filterMap (ConditionEntry.ruleAt? lexer.rules.length))

end CompiledLexer

end LexGen
