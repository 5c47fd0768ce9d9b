import LexGen.Scanner.Conditions
import LexGen.Scanner.Step

/-!
# Operations

The calls that a scanner understands. Actions make them by name, and so does the code around the scanner.
-/

namespace LexGen.Scanner

/-- A call of a scanner. -/
inductive Operation where
  | setInput (text : Text) (shared : Option Shared)
  | next
  | lex
  | input
  | unput (text : Text)
  | less (n : Int)
  | more
  | reject
  | echo (text : Text)
  | report (message : String) (details : Value)
  | begin (condition : String)
  | popState
  | topState (n : Int)
  | stateStackSize
  | currentRules
  | pastInput
  | upcomingInput
  | showPosition

namespace Operation

variable {σ : Type}

def textValue (text : Text) : Value := .str (String.ofList text)

def leaveCondition : Run σ Value := do
  match (← get).popState with
  | some (condition, s) => do
    set s
    return .str condition
  | none => throw (.fault .badIndex)

def startOn (t : Tables σ) (text : Text) (shared : Option Shared) : Run σ Value := do
  modify fun s =>
    let s := match shared with
      | some shared => { s with world := { s.world with shared := shared } }
      | none => s
    s.setInput t.ranges text
  return .scanner

/-- Make a call. `steps` bounds the number of steps that a token may take. -/
def run (t : Tables σ) (steps : Nat) : Operation → Run σ Value
  | setInput text shared => startOn t text shared
  | next => Scanner.next t
  | lex => Scanner.lex t steps
  | input => do return textValue (← Scanner.input)
  | unput text => do
    modify (·.unput text)
    return .scanner
  | less n => do
    modify (·.less n)
    return .none
  | more => do
    modify fun s => { s with more := true }
    return .scanner
  | reject => Scanner.reject t
  | echo text => do
    Scanner.echo text
    return .none
  | report message details => Scanner.report message details
  | begin condition => do
    modify (·.begin condition)
    return .none
  | popState => leaveCondition
  | topState n => do return .str ((← get).topState n)
  | stateStackSize => do return .int (← get).conditions.length
  | currentRules => do
    let rules ← t.currentRules (← get)
    return .list (rules.map fun (rule : Nat) => .int rule)
  | pastInput => do return textValue (← get).pastInput
  | upcomingInput => do return textValue (← get).upcomingInput
  | showPosition => do return textValue (← get).showPosition

/-! ## Calls by name -/

/-- The names of the calls, with their parameters and the values of those that may be left out. -/
def signatures : List (String × List (String × Option Value)) :=
  [("set_input", [("text", none), ("yy", some .none)]), ("next", []), ("lex", []), ("input", []),
   ("unput", [("text", none)]), ("less", [("n", none)]), ("more", []), ("reject", []),
   ("echo", [("text", none)]), ("parse_error", [("message", none), ("details", none)]),
   ("begin", [("condition", none)]), ("push_state", [("condition", none)]), ("pop_state", []),
   ("top_state", [("n", some (.int 0))]), ("state_stack_size", []), ("current_rules", []),
   ("past_input", []), ("upcoming_input", []), ("show_position", [])]

def arguments (params : List (String × Option Value)) (args : List Value) (named : List (String × Value)) :
    Except Error (List Value) :=
  if params.length < args.length then .error (.fault .badType)
  else if named.any fun (name, _) => !((params.drop args.length).map (·.1)).contains name then
    .error (.fault .badType)
  else do
    let others ← (params.drop args.length).mapM fun (name, fallback) =>
      match (named.lookup name).or fallback with
      | some v => .ok v
      | none => .error (.fault .badType)
    return args ++ others

def text : Value → Except Error Text
  | .str s => .ok s.toList
  | _ => .error (.fault .badType)

def number (v : Value) : Except Error Int :=
  match v.integer? with
  | some i => .ok i
  | none => .error (.fault .badType)

/-- The call of a name with the given values of its parameters. `shared` makes an object out of a value. -/
def ofCall (shared : Value → Except Error (Option Shared)) (name : String) (values : List Value) :
    Except Error Operation :=
  match name, values with
  | "set_input", [v, object] => do return .setInput (← text v) (← shared object)
  | "next", _ => .ok .next
  | "lex", _ => .ok .lex
  | "input", _ => .ok .input
  | "unput", [v] => do return .unput (← text v)
  | "less", [.none] => .ok (.less 0)
  | "less", [v] => do return .less (← number v)
  | "more", _ => .ok .more
  | "reject", _ => .ok .reject
  | "echo", [v] => do return .echo (← text v)
  | "parse_error", [message, details] => .ok (.report message.plain details)
  | "begin", [v] | "push_state", [v] => .ok (.begin v.plain)
  | "pop_state", _ => .ok .popState
  | "top_state", [v] => do return .topState (← number v)
  | "state_stack_size", _ => .ok .stateStackSize
  | "current_rules", _ => .ok .currentRules
  | "past_input", _ => .ok .pastInput
  | "upcoming_input", _ => .ok .upcomingInput
  | "show_position", _ => .ok .showPosition
  | _, _ => .error (.fault .noAttribute)

end Operation

end LexGen.Scanner
