import LexGen.CompiledLexer
import LexGen.Json.Writer

/-!
# Archives

A compiled lexer can be stored as a structured value, or as the JSON text of that value, and restored from
it. Equal lexers have equal archives. Callables have no stored form. A stored value is checked when it is
restored; the positions of rules and actions are not stored but counted.
-/

namespace LexGen.Archive

/-! ## Storing -/

/-- The layout of the stored value. It changes whenever the layout does. -/
def formatVersion : Int := 1

def storeRule (rule : CompiledRule) : Value :=
  .dict [(.str "pattern", .str (String.ofList rule.pattern.text)), (.str "source", rule.source),
    (.str "flags", .int rule.pattern.shownFlags)]

def storeAction (entry : ActionEntry) : Except Error Value :=
  match entry.content with
  | .callback .. => .error (.archive ("Rule " ++ toString entry.rule ++ " has a callable action"))
  | _ => .ok entry.body

def store (lexer : CompiledLexer) : Except Error Value := do
  let actions ← lexer.actions.mapM storeAction
  return .dict [(.str "_format", .int formatVersion), (.str "rules", .list (lexer.rules.map storeRule)),
    (.str "actions", .list actions), (.str "conditions", lexer.conditionTable),
    (.str "options", .dict lexer.options.toEntries), (.str "actionInclude", lexer.actionInclude),
    (.str "moduleInclude", lexer.moduleInclude)]

def write (layout : Json.Layout) (lexer : CompiledLexer) : Except Error Text := do
  match Json.write? layout 0 (← store lexer) with
  | some text => return text
  | none => throw (.fault .badType)

/-! ## Restoring -/

def malformed (detail : String) : Error := .archive ("Malformed compiled spec" ++ detail)

def orMalformed {α : Type} : Except Error α → Except Error α
  | .error (.fault (.noKey key)) => .error (malformed (": " ++ key.display))
  | .error (.fault .badType) => .error (malformed "")
  | result => result

def part (name : String) (stored : Value) : Except Error Value :=
  stored.index (.str name)

def flagsOf (flags : Value) : Except Error PatternFlags :=
  match flags.integer? with
  | some i => .ok (PatternFlags.ofInt i)
  | none => .error (.fault .badType)

def restorePattern (pattern flags : Value) : Except Error Pattern :=
  match pattern with
  | .str text => do
    match Pattern.compile text.toList (← flagsOf flags) with
    | .ok pattern => return pattern
    | .error (.malformed message position) =>
      throw (malformed (": " ++ Pattern.Failure.describe text.toList message position))
    | .error .tooLarge => throw (.fault .overflow)
    | .error .badValue => throw (.fault .badValue)
  | .pattern text known =>
    if !flags.hashable then .error (.fault .badType)
    else if flags.truthy then .error (.fault .badValue)
    else Pattern.ofText text known
  | _ => .error (.fault .badType)

def restoreRule (index : Nat) (stored : Value) : Except Error CompiledRule := do
  let source ← part "source" stored
  let pattern ← part "pattern" stored
  return ⟨index, source, ← restorePattern pattern (← part "flags" stored)⟩

def restoreAction (index : Nat) (stored : Value) : ActionEntry :=
  match stored with
  | .str body => ⟨index, .code body.toList⟩
  | v => ⟨index, .value v⟩

def restoreCondition (entry : Value × Value) : Except Error ConditionEntry := do
  let inclusive ← part "inclusive" entry.2
  let rules ← part "rules" entry.2
  return ⟨entry.1, inclusive.truthy, ← rules.items⟩

def entriesOf : Value → Except Error (List (Value × Value))
  | .dict entries => .ok entries
  | _ => .error (.fault .noAttribute)

def restoreTables (stored : Value) :
    Except Error (List CompiledRule × List ActionEntry × List ConditionEntry) := do
  let rules ← (← part "rules" stored).items
  let rules ← rules.zipIdx.mapM fun (rule, index) => restoreRule index rule
  let actions ← (← part "actions" stored).items
  let conditions ← (← entriesOf (← part "conditions" stored)).mapM restoreCondition
  return (rules, actions.zipIdx.map fun (action, index) => restoreAction index action, conditions)

def restore (stored : Value) : Except Error CompiledLexer := do
  let entries ← entriesOf stored
  let version := (Value.get? entries "_format").getD .none
  if !version.same (.int formatVersion) then
    throw (.archive ("Unsupported format version: " ++ (← version.shown)))
  let (rules, actions, conditions) ← orMalformed (restoreTables stored)
  let options ← Options.ofValue ((Value.get? entries "options").getD .none)
  CompiledLexer.assemble rules conditions actions options
    ((Value.get? entries "actionInclude").getD (.str ""))
    ((Value.get? entries "moduleInclude").getD (.str ""))

def read (text : Text) : Except Error CompiledLexer :=
  match Json.read text with
  | .ok stored => restore stored
  | .error (.malformed failure) => .error (.archive ("Invalid JSON: " ++ failure.message))
  | .error .longNumber => .error (.fault .badValue)

end LexGen.Archive
