import LexGen.Code.Definition
import LexGen.Code.Validity
import LexGen.Program.Calls

/-!
# Modules

Running the text of a module, and finding the callables that it defines.
-/

namespace LexGen.Program

open Code

/-! ## Running -/

/-- Run the text of a module. Yields its scope. `globals` are bound from the start. -/
def runModule (text : Text) (globals : Bindings) : Exec Scope := do
  match parse? text with
  | none => fail .malformedCode
  | some statements => do
    if !moduleValid statements then fail .malformedCode
    let frame ← newFrame globals
    let scope : Scope := { globals := frame, frame := frame }
    let _ ← executeAll makeCall scope statements
    return scope

def globalOf (scope : Scope) (name : String) : Exec Value := do
  match (← memory).binding? scope.globals name with
  | some v => return v
  | none => fail (.noKey (.str name))

/-- Run something without a scanner. Yields the memory too. -/
def runAlone {α : Type} (body : Exec α) : Except Error (α × Memory) :=
  match body.run.run { world := { memory := {} } } with
  | (.ok a, s) => .ok (a, s.world.memory)
  | (.error e, _) => .error e

/-! ## Callables -/

def Function.parameters (f : Function) : List Parameter := f.params.map (·.1)

def withoutSelf? : List Parameter → Option (List Parameter)
  | p :: params =>
    match p.kind with
    | .positionalOnly | .positionalOrKeyword => some params
    | .positionals => some (p :: params)
    | _ => none
  | [] => none

def definitionAt (lines : List Text) (line : Nat) : Definition :=
  match definitionFrom lines line with
  | some text => .text text
  | none => .brokenOff

def methodParameters (m : Memory) (name : String) (kind : Value) : Option (Option (List Parameter)) :=
  match m.classAttribute? m.classDepth name kind with
  | some (.reference (.function id _)) => some ((m.functions[id]?).bind fun f => withoutSelf? f.parameters)
  | some _ => some none
  | none => none

def classTitle (m : Memory) (moduleName : String) (kind : Value) : String :=
  match kind with
  | .reference (.classOf id name) =>
    moduleName ++ "." ++ ((m.classes[id]?).map (·.fullName)).getD name
  | .reference (.builtin name) => name
  | _ => ""

def classOfInstance (m : Memory) (id : Nat) : Value :=
  ((m.instances[id]?).map (·.kind)).getD .none

def callableOf? (m : Memory) (moduleName : String) (lines : List Text) (origin : Origin) :
    Value → Option Callable
  | .reference (.function id name) => do
    let f ← m.functions[id]?
    return ⟨"<function " ++ f.fullName ++ ">", "function", some name, some f.parameters,
      definitionAt lines (definitionLine lines (f.line - 1)), origin⟩
  | .reference (.bound self id _ name) => do
    let f ← m.functions[id]?
    let title := classTitle m moduleName (classOfInstance m self)
    return ⟨"<bound method " ++ f.fullName ++ " of <" ++ title ++ " object>>", "method", some name,
      withoutSelf? f.parameters, definitionAt lines (definitionLine lines (f.line - 1)), origin⟩
  | .reference (.classOf id name) => do
    let c ← m.classes[id]?
    let kind : Value := .reference (.classOf id name)
    return ⟨"<class '" ++ classTitle m moduleName kind ++ "'>", "type", some name,
      (methodParameters m "__init__" kind).getD (some []), definitionAt lines (c.line - 1), origin⟩
  | .reference (.instanceOf id name) => do
    let kind := classOfInstance m id
    let params ← methodParameters m "__call__" kind
    return ⟨"<" ++ classTitle m moduleName kind ++ " object>", name, none, params, .unavailable, origin⟩
  | .reference (.builtin name) =>
    match Callable.builtin? name with
    | some c => some c
    | none => some ⟨"<built-in function " ++ name ++ ">", "builtin_function_or_method", some name, none,
        .unavailable, .builtin name⟩
  | _ => none

def moduleBindings (moduleName : String) : Bindings := [("__name__", .str moduleName)]

/-- The value of a global of a module with the given text, a callable as what is known of it. -/
def valueFrom (moduleName : String) (text : Text) (name : String) : Except Error Value := do
  let run : Exec Value := do
    let scope ← runModule text (moduleBindings moduleName)
    globalOf scope name
  let (v, m) ← runAlone run
  match callableOf? m moduleName (Text.textLines text) (.module moduleName text name) v with
  | some c => return .callable c
  | none => return v

def loadCallable (c : Callable) : Exec Value := do
  match c.origin with
  | .module moduleName text name => do
    let scope ← runModule text (moduleBindings moduleName)
    globalOf scope name
  | .builtin name => return .reference (.builtin name)

end LexGen.Program
