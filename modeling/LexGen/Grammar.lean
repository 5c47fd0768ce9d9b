import LexGen.Json.Reader
import LexGen.Options
import LexGen.Value.Operators

/-!
# Grammars

A grammar is an ordered list of rules with macros, start conditions, options and blocks of code. It is read
from a loose structured form, a mapping, or from the JSON text of such a form.
-/

namespace LexGen

/-! ## Rules -/

/-- The pattern of a rule. -/
inductive RulePattern where
  | text (t : Text)
  | compiled (text : String) (flags : Nat)
  | other (v : Value)

/-- The action of a rule. -/
inductive RuleAction where
  | code (body : Text)
  | callable (c : Callable)
  | other (v : Value)

structure Rule where
  /-- The start conditions that the rule is listed for; without a list it belongs to the inclusive ones. -/
  states : Option (List String)
  pattern : RulePattern
  action : RuleAction

def wildcard : String := "*"

namespace Rule

def isWildcard (rule : Rule) : Bool :=
  match rule.states with
  | some (first :: _) => first == wildcard
  | _ => false

def patternOf : Value → RulePattern
  | .str s => .text s.toList
  | .pattern text flags => .compiled text flags
  | v => .other v

def actionOf : Value → RuleAction
  | .str s => .code s.toList
  | .callable c => .callable c
  | v => .other v

def patternValue : RulePattern → Value
  | .text t => .str (String.ofList t)
  | .compiled text flags => .pattern text flags
  | .other v => v

def actionValue : RuleAction → Value
  | .code body => .str (String.ofList body)
  | .callable c => .callable c
  | .other v => v

def readStates (index : Nat) : List Value → Except Error (Option (List String) × List Value)
  | first :: items =>
    match first.sequence? with
    | none => .ok (none, first :: items)
    | some states =>
      match states.mapM Value.str? with
      | none => .error (.malformedRule index "start condition names must be strings")
      | some names => .ok (if names.isEmpty then none else some names, items)
  | [] => .ok (none, [])

/-- Read a rule from an entry: pattern and action, after the start conditions if there are any. -/
def ofEntry (index : Nat) : Value → Except Error Rule
  | .rule states pattern action =>
    .ok ⟨states.map (·.map Value.plain), patternOf pattern, actionOf action⟩
  | entry =>
    match entry.sequence? with
    | none => .error (.malformedRule index ("expected a list, got " ++ entry.typeName))
    | some items => do
      let (states, items) ← readStates index items
      match items with
      | [pattern, action] =>
        let pattern := patternOf pattern
        if let .other v := pattern then
          throw (.malformedRule index ("pattern must be a string or compiled pattern, got " ++ v.typeName))
        let action := if let .none := action then Value.str "" else action
        let action := actionOf action
        if let .other v := action then
          throw (.malformedRule index ("action must be a string or callable, got " ++ v.typeName))
        return ⟨states, pattern, action⟩
      | _ =>
        if states.isSome then
          throw (.malformedRule index "start condition list must be followed by a pattern and an action")
        else
          throw (.malformedRule index
            ("expected [pattern, action], got " ++ toString items.length ++ " item(s)"))

end Rule

/-! ## Grammars -/

/-- A grammar. Macros and blocks of code are kept as they were given until they are used. -/
structure Grammar where
  rules : List Rule := []
  macros : List (Value × Value) := []
  /-- The declared start conditions and whether they are exclusive. -/
  conditions : List (String × Bool) := []
  options : Options := {}
  actionInclude : Value := .str ""
  moduleInclude : Value := .str ""

namespace Grammar

def pick (entries : List (Value × Value)) (names : List String) : Value :=
  let given := names.filterMap (Value.get? entries)
  (given.find? fun v => !(v matches .none)).getD .none

/-- The mapping that a value can be turned into: a mapping, or pairs of keys and values. -/
def mappingOf (v : Value) : Except Error (List (Value × Value)) :=
  match v with
  | .dict entries => .ok entries
  | v => do
    let pairs ← (← v.items).mapM fun item => do
      match ← item.items with
      | [key, value] => if key.hashable then pure (key, value) else throw (.fault .badType)
      | _ => throw (.fault .badValue)
    return Value.dictOf pairs

def trimmed : Value → Except Error Value
  | .str s => .ok (.str (String.ofList (Text.trim s.toList)))
  | .bytes s => .ok (.bytes (String.ofList (Text.trimBy (fun c => c == ' ' || (9 ≤ c.toNat && c.toNat ≤ 13)) s.toList)))
  | _ => .error (.fault .noAttribute)

def orElse (v default : Value) : Value := if v.truthy then v else default

def ofEntries (entries : List (Value × Value)) : Except Error Grammar := do
  let rules ← (orElse (pick entries ["rules"]) (.tuple [])).items
  let rules ← (rules.zipIdx).mapM fun (entry, index) => Rule.ofEntry index entry
  let conditions ← match orElse (pick entries ["startConditions", "start_conditions"]) (.dict []) with
    | .dict conditions => pure (conditions.map fun (name, exclusive) => (name.plain, exclusive.truthy))
    | _ => throw (.fault .noAttribute)
  let options ← Options.ofValue (pick entries ["options"])
  let macros ← mappingOf (orElse (pick entries ["macros"]) (.dict []))
  let moduleInclude ← trimmed (orElse (pick entries ["moduleInclude", "module_include"]) (.str ""))
  let actionInclude := orElse (pick entries ["actionInclude", "action_include"]) (.str "")
  return ⟨rules, macros, conditions, options, actionInclude, moduleInclude⟩

def ofForm : Value → Except Error Grammar
  | .dict entries => ofEntries entries
  | _ => .error (.fault .noAttribute)

def ofDecoded : Value → Except Error Grammar
  | .dict entries => ofEntries entries
  | v => .error (.grammarText ("grammar must be an object, got " ++ v.typeName) none none none)

def decode (text : Text) : Except Error Value :=
  match Json.read text with
  | .ok v => .ok v
  | .error (.malformed failure) =>
    .error (.grammarText failure.message (some (failure.line text)) (some (failure.column text)) none)
  | .error .longNumber => .error (.fault .badValue)

/-- Read a grammar from whatever stands for one: nothing, a grammar, a structured form or a text. Texts are
decoded by `parser`, and as JSON without one. -/
def ofSource (parser : Option (Text → Except Error Value)) : Value → Except Error Grammar
  | .none => .ok {}
  | .grammar form => ofForm form
  | .str text => do ofDecoded (← (parser.getD decode) text.toList)
  | form => ofForm form

def withRule (grammar : Grammar) (rule : Rule) : Grammar :=
  { grammar with rules := grammar.rules ++ [rule] }

end Grammar

end LexGen
