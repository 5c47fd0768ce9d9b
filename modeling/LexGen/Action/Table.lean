import LexGen.Action.Callback
import LexGen.Action.Qualify
import LexGen.Action.TokenNames
import LexGen.Grammar
import LexGen.Journal

/-!
# Action tables

Every rule has an entry with its action: rewritten statements, or a callable with the arguments that it asks
for. For an emitted module the entries are put together into one statement that chooses by the rule.
-/

namespace LexGen

/-- What an entry of an action table holds. -/
inductive ActionContent where
  | code (body : Text)
  /-- A value that is no text. Only something empty can be used. -/
  | value (v : Value)
  | callback (c : Callable) (params : List String)

/-- The action of a rule. -/
structure ActionEntry where
  rule : Int
  content : ActionContent

namespace Action

def idle : Text := "pass".toList

end Action

namespace ActionEntry

def source (entry : ActionEntry) : Except Error Text :=
  match entry.content with
  | .code body => .ok (if body.isEmpty then Action.idle else body)
  | .value v =>
    if !v.truthy then .ok Action.idle
    else match v with
      | .bytes _ => .error (.fault .badType)
      | _ => .error (.fault .noAttribute)
  | .callback c _ => do
    match Action.qualify (← Action.callbackBody entry.rule c) with
    | .error (.fault .malformedCode) => throw (.badAction entry.rule "cannot parse action")
    | result => result

def body (entry : ActionEntry) : Value :=
  match entry.content with
  | .code body => .str (String.ofList body)
  | .value v => v
  | .callback .. => .none

end ActionEntry

namespace Action

/-! ## Building -/

def channel : String := "relex.actions"

def invalid (rule : Nat) : Error := .badAction rule "invalid Python"

def orInvalid {α : Type} (rule : Nat) : Except Error α → Except Error α
  | .error (.fault .malformedCode) => .error (invalid rule)
  | .error (.fault .unreadableCode) => .error (invalid rule)
  | result => result

/-- Rewrite the statements of an action. `tokens` is a map of tokens or something empty. -/
def rewriteBody (tokens : Value) (action : Text) : Except Error Text := do
  let body := normalBody action
  qualify (← if tokens.truthy then substituteTokens body tokens else .ok body)

def codeEntry (tokens : Value) (rule : Nat) (action : Text) : Except Error ActionEntry := do
  let body ← orInvalid rule (rewriteBody tokens action)
  if (Code.parse? (wrapped (Text.codeLines body))).isNone then throw (invalid rule)
  return ⟨rule, .code body⟩

def entryOf (tokens : Value) (rule : Nat) (action : RuleAction) : Except Error ActionEntry :=
  match action with
  | .code action => codeEntry tokens rule action
  | .callable c => do return ⟨rule, .callback c (← callbackParameters rule c)⟩
  | .other v => do throw (.malformedRule rule ("cannot inspect action " ++ (← v.shown)))

def build (tokens : Value) (rules : List Rule) : Journaled (List ActionEntry) := do
  let entries ← rules.zipIdx.mapM fun (rule, index) =>
    (liftM (entryOf tokens index rule.action) : Journaled ActionEntry)
  Journal.note .debug channel
    ("Built " ++ toString entries.length ++ " action(s)" ++ if tokens.truthy then " with token map" else "")
  return entries

/-! ## Dispatch -/

def dispatchCase (entry : ActionEntry) : Except Error Text := do
  return "    case ".toList ++ Text.decimalInt entry.rule ++ ":\n".toList ++
    Text.indent (Text.spaces 8) (← entry.source)

def dispatch (entries : List ActionEntry) : Except Error Text := do
  if entries.isEmpty then return "return None".toList
  else return Text.join ['\n'] ("match rule_index:".toList :: (← entries.mapM dispatchCase))

end Action

end LexGen
