import LexGen.Program.Execute

/-!
# Calls

How arguments reach the parameters of a function, and what a call of a value does. A scanner that runs code
calls functions for its actions, and these may call the scanner again; the depth of calls is bounded.
-/

namespace LexGen.Program

open Scanner

/-! ## Arguments -/

def bindArguments (params : List (Parameter × Option Value)) (args : List Value) (named : Named) :
    Except Fault Bindings := do
  let has := fun (kind : ParameterKind) => params.any fun (p, _) => p.kind = kind
  let positional := params.filter fun (p, _) => p.kind = .positionalOnly || p.kind = .positionalOrKeyword
  let inOrder := (positional.map fun (p, _) => p.name).zip args
  let extra := args.drop positional.length
  let takes := fun (name : String) => params.any fun (p, _) =>
    p.name == name && (p.kind = .positionalOrKeyword || p.kind = .keywordOnly)
  let byName := named.filter fun (name, _) => takes name
  let others := named.filter fun (name, _) => !takes name
  if (!extra.isEmpty && !has .positionals) || (!others.isEmpty && !has .keywords) then throw .badType
  if byName.any fun (name, _) => (inOrder.lookup name).isSome then throw .badType
  params.mapM fun (p, fallback) =>
    match p.kind with
    | .positionals => .ok (p.name, .tuple extra)
    | .keywords => .ok (p.name, .dict (others.map fun (name, v) => (.str name, v)))
    | _ =>
      match ((inOrder ++ byName).lookup p.name).or fallback with
      | some v => .ok (p.name, v)
      | none => .error .badType

def runBody (call : Call) (f : Function) (bindings : Bindings) : Exec Value := do
  let frame ← newFrame bindings
  let scope : Scope :=
    { globals := f.globals
      frame := frame
      isFunction := true
      own := f.own
      outer := f.outer
      globalNames := f.globalNames
      outerNames := f.outerNames
      path := f.fullName ++ ".<locals>." }
  match f.body with
  | .value e => evaluate call scope e
  | .statements body => do
    match ← executeAll call scope body with
    | .ret v => return v
    | _ => return .none

def callFunction (call : Call) (id : Nat) (args : List Value) (named : Named) : Exec Value := do
  match (← memory).functions[id]? with
  | none => fail .badType
  | some f => do
    let bindings ← settle (bindArguments f.params args named)
    match f.call with
    | .later kind => return .object kind
    | .plain => runBody call f bindings

/-! ## The scanner -/

def partsOf (s : State Memory) (condition : String) : Bindings :=
  [("yytext", Value.ofText s.text), ("yyleng", .int s.length), ("yylineno", .int s.line),
   ("yylloc", .location s.loc), ("yy", sharedValue), ("yy_", .scanner), ("yy_start", .str condition)]

def BoundAction.run (call : Call) (condition : String) : BoundAction → Exec Value
  | code function => call function [.scanner, sharedValue, .scanner, .str condition] []
  | callback function params => do
    let parts := partsOf (← get) condition
    call function [] (params.map fun name => (name, (parts.lookup name).getD .none))
  | token v => return v

def ActionTable.run (call : Call) (rule : Nat) (condition : String) : ActionTable → Exec Value
  | each actions =>
    match actions[rule]? with
    | some action => action.run call condition
    | none => fail .badIndex
  | choice function =>
    call function [.scanner, sharedValue, .scanner, .int rule, .str condition] []

def Plan.tables (call : Call) (plan : Plan) : Tables Memory where
  matchers := plan.patterns.map Pattern.matchLength
  conditions := plan.conditions
  flex := plan.has "flex"
  backtracking := plan.has "backtrack_lexer"
  ranges := plan.has "ranges"
  action := fun rule condition => plan.actions.run call rule condition

/-- How many matches an operation of the scanner that an action calls may try. -/
def stepLimit : Nat := 100000

def startScanner (plan : Plan) : Exec Value := do
  changeMemory fun m => { m with plan := plan }
  modify fun s => ({ s with world := { s.world with shared := {} } } : State Memory).setInput (plan.has "ranges") []
  return .scanner

/-- The shared object that a value stands for. Nothing if the scanner keeps the one that it has. -/
def sharedOf (m : Memory) : Value → Except Error (Option Shared)
  | .none => .ok none
  | .object kind => if kind == sharedKind then .ok none else .error (.fault .noAttribute)
  | .reference (.instanceOf id _) =>
    match m.instances[id]? with
    | some entry => .ok (some { attributes := entry.attributes })
    | none => .ok none
  | _ => .error (.fault .noAttribute)

def operate (call : Call) (op : Operation) : Exec Value := do
  op.run ((← memory).plan.tables call) stepLimit

def operateByName (call : Call) (name : String) (args : List Value) (named : Named) : Exec Value := do
  match Operation.signatures.lookup name with
  | none => return .object "generator"
  | some params => do
    let m ← memory
    let values ← Operation.arguments params args named
    operate call (← Operation.ofCall (sharedOf m) name values)

/-! ## Classes -/

def rulesIn (v : Value) : Except Fault (List Nat) := do
  (← v.items).mapM fun rule => do return (← Value.positionOf rule).toNat

def conditionsIn (v : Value) : Except Fault (List (String × List Nat)) := do
  (← toEntries v).mapM fun (name, entry) => do return (name.plain, ← rulesIn (← entry.index (.str "rules")))

def patternsIn (v : Value) : Except Error (List Pattern) := do
  (← v.items).mapM fun
    | .pattern text flags => Pattern.ofText text flags
    | _ => .error (.fault .noAttribute)

def planOf (m : Memory) (kind : Value) : Except Error Plan := do
  let find := fun (name : String) => m.classAttribute? m.classDepth name kind
  let patterns ← match find "rules" with
    | some v => patternsIn v
    | none => pure []
  let conditions ← match find "conditions" with
    | some v => conditionsIn v
    | none => pure [(initialCondition, [])]
  let options ← match find "options" with
    | some v => toEntries v
    | none => pure []
  let actions := match find "perform_action" with
    | some function => .choice function
    | none => .each []
  return ⟨patterns, conditions, options, actions⟩

def scannerClass : String := "Scanner"

def construct (call : Call) (id : Nat) (name : String) (args : List Value) (named : Named) : Exec Value := do
  let kind : Value := .reference (.classOf id name)
  let m ← memory
  if m.derives m.classDepth scannerClass kind then
    startScanner (← planOf m kind)
  else do
    let attributes : Bindings :=
      if m.derives m.classDepth "Exception" kind then [("args", .tuple args)] else []
    let v ← newInstance kind name attributes
    match m.classAttribute? m.classDepth "__init__" kind with
    | some init => do
      let _ ← call init (v :: args) named
      return v
    | none =>
      if attributes.isEmpty && (!args.isEmpty || !named.isEmpty) then fail .badType else return v

/-! ## Calls -/

def apply (call : Call) (f : Value) (args : List Value) (named : Named) : Exec Value := do
  match f with
  | .reference (.function id _) => callFunction call id args named
  | .reference (.bound self id kind _) =>
    callFunction call id (.reference (.instanceOf self kind) :: args) named
  | .reference (.builtin name) =>
    if name == scannerClass then startScanner {} else applyBuiltin call name args named
  | .reference (.classOf id name) => construct call id name args named
  | .reference (.instanceOf id kind) => do
    match (← memory).instanceAttribute? id kind "__call__" with
    | some function => call function args named
    | none => fail .badType
  | .reference (.operation name) => operateByName call name args named
  | .reference (.ofText text name) =>
    match Value.method? (.str text) name args with
    | some result => do return (← settle result).1
    | none => fail .noAttribute
  | _ => fail .badType

def callTo : (depth : Nat) → Call
  | 0, _, _, _ => fail .endless
  | depth + 1, f, args, named => apply (callTo depth) f args named

/-- How many calls may be running inside each other. One more fails like a recursion without an end. -/
def callDepth : Nat := 900

def makeCall : Call := callTo callDepth

end LexGen.Program
