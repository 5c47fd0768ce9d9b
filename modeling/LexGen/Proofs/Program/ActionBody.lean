import LexGen.Program.Binding
import LexGen.Proofs.Scanner.Outcome

/-!
# Running the statements of an action

The statements of an action are the body of a function of the scanner, the shared object, the scanner once more and
the start condition. A call of it makes a frame for these parameters and runs the statements there.

* `outcome_runBody`: what such a call yields, in terms of the statements.
* `outcome_echoText`: the statement that echoes the current match.
-/

namespace LexGen.Program

open Code Scanner

/-! ## Functions of actions -/

def actionParams : List Param :=
  ["self", "yy", "yy_", "yy_start"].map fun name => .mk .positionalOrKeyword name none none

def actionFunction (globals : Nat) (name : String) (body : List Stmt) : Function where
  name := name
  fullName := name
  params := declaredParams actionParams (actionParams.map fun _ => none)
  body := .statements body
  call := .plain
  own := ownNames actionParams (blockOccurrences body)
  globalNames := Occurrence.declaredFor .global (blockOccurrences body)
  outerNames := Occurrence.declaredFor .nonlocal (blockOccurrences body)
  globals := globals
  outer := []
  line := 1

def actionBindings (condition : String) : Bindings :=
  [("self", .scanner), ("yy", sharedValue), ("yy_", .scanner), ("yy_start", .str condition)]

def runStatements (call : Call) (globals : Nat) (name : String) (source : Text) (condition : String) : Exec Value :=
  match Action.statements? (Text.codeLines source) with
  | some body => runBody call (actionFunction globals name body) (actionBindings condition)
  | none => fail .malformedCode

theorem outcome_memory (s : State Memory) : outcome memory s = (.ok s.world.memory, s) := rfl

/-! ## Frames -/

def withFrame (bindings : Bindings) (s : State Memory) : State Memory :=
  { s with world := { s.world with memory :=
    { s.world.memory with frames := s.world.memory.frames ++ [bindings] } } }

theorem outcome_newFrame (bindings : Bindings) (s : State Memory) :
    outcome (newFrame bindings) s = (.ok s.world.memory.frames.length, withFrame bindings s) := rfl

theorem binding?_withFrame (bindings : Bindings) (s : State Memory) (name : String) :
    (withFrame bindings s).world.memory.binding? s.world.memory.frames.length name = bindings.lookup name := by
  simp [Memory.binding?, withFrame]

def bodyScope (f : Function) (s : State Memory) : Scope :=
  { globals := f.globals
    frame := s.world.memory.frames.length
    isFunction := true
    own := f.own
    outer := f.outer
    globalNames := f.globalNames
    outerNames := f.outerNames
    path := f.fullName ++ ".<locals>." }

def Flow.result : Flow → Value
  | .ret v => v
  | _ => .none

theorem outcome_runBody (call : Call) {f : Function} {body : List Stmt} (statements : f.body = .statements body)
    (bindings : Bindings) (s : State Memory) :
    outcome (runBody call f bindings) s =
      match outcome (executeAll call (bodyScope f s) body) (withFrame bindings s) with
      | (.ok flow, now) => (.ok flow.result, now)
      | (.error e, now) => (.error e, now) := by
  rw [runBody, outcome_bind_ok (outcome_newFrame bindings s), statements]
  dsimp only [bodyScope]
  rw [outcome_bind]
  generalize outcome (executeAll call _ body) (withFrame bindings s) = ended
  rcases ended with ⟨_ | flow, now⟩
  · rfl
  · cases flow <;> rfl

/-- The action of a rule whose statements have been bound as a function runs the body of that function. -/
theorem outcome_run_code {f : Function} {id : Nat} {name condition : String} {s : State Memory}
    (found : s.world.memory.functions[id]? = some f)
    (params : f.params = declaredParams actionParams (actionParams.map fun _ => none)) (plain : f.call = .plain)
    (depth : Nat) :
    outcome ((BoundAction.code (.reference (.function id name))).run (callTo (depth + 1)) condition) s =
      outcome (runBody (callTo depth) f (actionBindings condition)) s := by
  have bound : bindArguments f.params [.scanner, sharedValue, .scanner, .str condition] [] =
      .ok (actionBindings condition) := by
    rw [params]
    rfl
  have settled : outcome (settle (.ok (actionBindings condition))) s = (.ok (actionBindings condition), s) := rfl
  change outcome (callFunction (callTo depth) id [.scanner, sharedValue, .scanner, .str condition] []) s = _
  rw [callFunction, outcome_bind_ok (outcome_memory s), found]
  dsimp only
  rw [bound, outcome_bind_ok settled, plain]

/-! ## Names and attributes -/

theorem lookup_of_own {m : Memory} {scope : Scope} {name : String} {v : Value} (function : scope.isFunction = true)
    (own : name ∈ scope.own) (undeclared : name ∉ scope.globalNames) (bound : m.binding? scope.frame name = some v) :
    m.lookup scope name = .ok (some v) := by
  simp [Memory.lookup, function, own, undeclared, bound]

theorem outcome_name (call : Call) {scope : Scope} {s : State Memory} {name : String} {v : Value}
    (found : s.world.memory.lookup scope name = .ok (some v)) (usage : Usage) (place : Place) :
    outcome (evaluate call scope (.name name usage place)) s = (.ok v, s) := by
  rw [evaluate, readName, outcome_bind_ok (outcome_memory s), found]
  rfl

theorem outcome_readAttribute {s : State Memory} {v w : Value} {name : String} (found : attribute? s name v = some w) :
    outcome (readAttribute v name) s = (.ok w, s) := by
  rw [readAttribute, outcome_bind_ok (outcome_get s), found]
  rfl

theorem outcome_attribute {call : Call} {scope : Scope} {s : State Memory} {e : Expr} {v w : Value} {name : String}
    (value : outcome (evaluate call scope e) s = (.ok v, s)) (found : attribute? s name v = some w) :
    outcome (evaluate call scope (.attribute e name)) s = (.ok w, s) := by
  rw [evaluate, outcome_bind_ok value, outcome_readAttribute found]

theorem outcome_scannerCall {call : Call} {scope : Scope} {s : State Memory} {e arg : Expr} {name : String}
    {function v : Value} (scanner : outcome (evaluate call scope e) s = (.ok .scanner, s))
    (found : attribute? s name .scanner = some function) (unstarred : ∀ e, arg ≠ .starred e)
    (value : outcome (evaluate call scope arg) s = (.ok v, s)) :
    outcome (evaluate call scope (.call (.attribute e name) [arg] [])) s = outcome (call function [v] []) s := by
  have args : outcome (evaluateAll call scope [arg]) s = (.ok [v], s) := by
    rw [evaluateAll]
    · rw [outcome_bind_ok value]
      rfl
    · exact unstarred
  rw [evaluate, outcome_bind_ok scanner, outcome_bind_ok (outcome_readAttribute found), outcome_bind_ok args,
    outcome_bind_ok (show outcome (evaluateKeywords call scope [] []) s = (.ok [], s) from rfl)]
  rfl

/-! ## Echoing -/

theorem outcome_call_echo (depth : Nat) (text : Text) (s : State Memory) :
    outcome (callTo (depth + 1) (.reference (.operation "echo")) [Value.ofText text] []) s =
      (.ok .none, { s with world := { s.world with output := s.world.output ++ text } }) := by
  have signature : Operation.signatures.lookup "echo" = some [("text", none)] := rfl
  have given : Operation.arguments [("text", none)] [Value.ofText text] [] = .ok [Value.ofText text] := rfl
  have taken (shared : Value → Except Error (Option Shared)) :
      Operation.ofCall shared "echo" [Value.ofText text] = .ok (.echo text) := by
    simp only [Operation.ofCall, Value.ofText, Operation.text, String.toList_ofList]
    rfl
  simp only [callTo, apply, operateByName, signature, given]
  rw [outcome_bind_ok (outcome_memory s),
    outcome_bind_ok (outcome_lift (.ok [Value.ofText text]) s), taken, outcome_bind, outcome_lift]
  rfl

def echoing (usage usage' : Usage) (place place' : Place) : List Stmt :=
  [.expr (.call (.attribute (.name "yy_" usage place) "echo")
    [.attribute (.name "yy_" usage' place') "yytext"] [])]

def echoes : List Stmt → Bool
  | [.expr (.call (.attribute (.name scanner _ _) operation) [.attribute (.name scanner' _ _) part] [])] =>
    scanner = "yy_" && operation = "echo" && scanner' = "yy_" && part = "yytext"
  | _ => false

theorem exists_of_echoes {body : List Stmt} (h : echoes body = true) :
    ∃ usage usage' place place', body = echoing usage usage' place place' := by
  unfold echoes at h
  split at h
  · simp only [Bool.and_eq_true, decide_eq_true_eq] at h
    obtain ⟨⟨⟨rfl, rfl⟩, rfl⟩, rfl⟩ := h
    exact ⟨_, _, _, _, rfl⟩
  · cases h

theorem declaredFor_echoing (belongs : Declaration) (usage usage' : Usage) (place place' : Place) :
    Occurrence.declaredFor belongs (blockOccurrences (echoing usage usage' place place')) = [] := rfl

theorem mem_ownNames_echoing {name : String} (param : name ∈ paramNames actionParams) (usage usage' : Usage)
    (place place' : Place) :
    name ∈ ownNames actionParams (blockOccurrences (echoing usage usage' place place')) := by
  simp [ownNames, declaredFor_echoing, param]

/-- Code has not put anything else in the place of what the scanner has for the two names. -/
def Memory.Plain (m : Memory) : Prop :=
  m.scannerAttributes.lookup "echo" = none ∧ m.scannerAttributes.lookup "yytext" = none

def echoText : Text := "yy_.echo(yy_.yytext)".toList

-- The statement is known up to the places of its names, which no evaluation looks at.
theorem exists_statements_echoText : ∃ usage usage' place place',
    Action.statements? (Text.codeLines echoText) = some (echoing usage usage' place place') := by
  have parsed : (Action.statements? (Text.codeLines echoText)).any echoes = true := by
    decide +kernel
  obtain ⟨body, found, shape⟩ := (Option.any_eq_true ..).1 parsed
  obtain ⟨usage, usage', place, place', rfl⟩ := exists_of_echoes shape
  exact ⟨usage, usage', place, place', found⟩

/-- The statement writes the current match and yields nothing. The frame of the call is left behind. -/
theorem outcome_echoText (depth globals : Nat) (name condition : String) {s : State Memory}
    (plain : s.world.memory.Plain) :
    outcome (runStatements (callTo (depth + 1)) globals name echoText condition) s =
      (.ok .none, withFrame (actionBindings condition)
        { s with world := { s.world with output := s.world.output ++ s.text } }) := by
  obtain ⟨usage, usage', place, place', found⟩ := exists_statements_echoText
  rw [runStatements, found]
  dsimp only
  rw [outcome_runBody _ rfl]
  generalize entry : bodyScope (actionFunction globals name (echoing usage usage' place place')) s = scope
  have scanner : ∀ usage place, outcome (evaluate (callTo (depth + 1)) scope (.name "yy_" usage place))
      (withFrame (actionBindings condition) s) = (.ok .scanner, withFrame (actionBindings condition) s) := by
    subst entry
    refine outcome_name _ (lookup_of_own rfl (mem_ownNames_echoing (by decide) ..) ?_ ?_)
    · rw [bodyScope, actionFunction, declaredFor_echoing]
      exact List.not_mem_nil
    · exact binding?_withFrame ..
  have operation : attribute? (withFrame (actionBindings condition) s) "echo" .scanner =
      some (.reference (.operation "echo")) := by
    rw [attribute?, show (withFrame (actionBindings condition) s).world.memory.scannerAttributes.lookup "echo" = none
      from plain.1]
    rfl
  have text : attribute? (withFrame (actionBindings condition) s) "yytext" .scanner =
      some (Value.ofText s.text) := by
    rw [attribute?, show (withFrame (actionBindings condition) s).world.memory.scannerAttributes.lookup "yytext" = none
      from plain.2]
    rfl
  have called := outcome_scannerCall (scanner usage place) operation (by simp)
    (outcome_attribute (scanner usage' place') text)
  rw [outcome_call_echo] at called
  rw [echoing, executeAll, outcome_bind, execute, outcome_bind, called]
  rfl

end LexGen.Program
