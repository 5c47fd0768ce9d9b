import LexGen.CompiledLexer
import LexGen.Program.Module

/-!
# Scanners of compiled lexers

A compiled lexer becomes a scanner by running its actions. Its statements are put together into one module,
a function for each rule, after the code that the grammar places before the actions.
-/

namespace LexGen.Program

/-! ## The module of actions -/

def includedCode : Value → Except Error (List Text)
  | .str s => .ok (if Text.isBlank s.toList then [] else [Text.dedent s.toList])
  | .bytes s => if Text.isBlank s.toList then .ok [] else .error (.fault .badType)
  | _ => .error (.fault .noAttribute)

def ruleFunction (rule : Int) : String := "_rule_" ++ toString rule

/-- The function of a rule. Nothing for a callable. -/
def ruleCode (entry : ActionEntry) : Except Error (List Text) :=
  match entry.content with
  | .callback .. => .ok []
  | _ => do
    return ["def ".toList ++ (ruleFunction entry.rule).toList ++ "(self, yy, yy_, yy_start):\n".toList ++
      Text.indent (Text.spaces 4) (← entry.source)]

def actionModule (actionInclude : Value) (entries : List ActionEntry) : Except Error Text := do
  let first ← includedCode actionInclude
  let functions ← entries.mapM ruleCode
  return Text.join ['\n', '\n'] (first ++ functions.flatten) ++ ['\n']

def actionGlobals : Bindings :=
  [("__name__", .str "relex.actions.bound"), (patternModule, .reference (.builtin patternModule))]

/-! ## Binding -/

def bindAction (scope : Scope) (entry : ActionEntry) : Exec BoundAction := do
  match entry.content with
  | .callback c params => return .callback (← loadCallable c) params
  | _ => return .code (← globalOf scope (ruleFunction entry.rule))

def planFor (lexer : CompiledLexer) : Exec Plan := do
  let text ← actionModule lexer.actionInclude lexer.actions
  let scope ← runModule text actionGlobals
  return {
    patterns := lexer.rules.map (·.pattern)
    conditions := lexer.activeRules
    options := lexer.options.toEntries
    actions := .each (← lexer.actions.mapM (bindAction scope)) }

def buildScanner (lexer : CompiledLexer) : Exec Value := do
  startScanner (← planFor lexer)

end LexGen.Program
