import LexGen.Code.Scope
import LexGen.Pattern.Compiled
import LexGen.Scanner.Operation

/-!
# The memory of running code

Running code keeps its variables in frames, one for each module, class body and call of a function. Functions,
classes and instances are numbered in the order in which they are made. Values that consist of other values
are not kept here: a variable holds the whole value.
-/

namespace LexGen.Program

open Code

/-! ## Variables -/

abbrev Bindings := List (String × Value)

def Bindings.put (name : String) (v : Value) : Bindings → Bindings
  | [] => [(name, v)]
  | (other, w) :: bindings =>
    if name = other then (other, v) :: bindings else (other, w) :: put name v bindings

def Bindings.drop (name : String) (bindings : Bindings) : Bindings :=
  bindings.filter (·.1 != name)

/-- A scope: where names are looked up and bound. -/
structure Scope where
  /-- The frame of the module. -/
  globals : Nat
  /-- The frame of the scope itself. -/
  frame : Nat
  /-- Whether the scope is a function, so that its names are known in advance. -/
  isFunction : Bool := false
  /-- The names of a function. -/
  own : List String := []
  /-- The functions around, the innermost first: their frames and names. -/
  outer : List (Nat × List String) := []
  globalNames : List String := []
  outerNames : List String := []
  /-- What the name of a function or class in this scope is put after in its full name. -/
  path : String := ""

def Scope.around (scope : Scope) : List (Nat × List String) :=
  if scope.isFunction then (scope.frame, scope.own) :: scope.outer else scope.outer

/-! ## Functions and classes -/

inductive FunctionBody where
  | statements (body : List Stmt)
  | value (e : Expr)

/-- What a call of a function yields. -/
inductive CallKind where
  | plain
  /-- An object that runs the function later, of the given type. -/
  | later (kind : String)

structure Function where
  name : String
  fullName : String
  /-- The parameters, with their values when there is no argument. -/
  params : List (Parameter × Option Value)
  body : FunctionBody
  call : CallKind
  own : List String
  globalNames : List String
  outerNames : List String
  globals : Nat
  outer : List (Nat × List String)
  line : Nat

structure ClassEntry where
  name : String
  fullName : String
  bases : List Value
  attributes : Bindings
  line : Nat

/-- An instance of a class, or of an error that every module has. -/
structure InstanceEntry where
  kind : Value
  attributes : Bindings := []

/-! ## The scanner -/

/-- The action of a rule. -/
inductive BoundAction where
  /-- A function of the scanner, the shared object, the scanner and the start condition. -/
  | code (function : Value)
  /-- A function of the parts of the state with the given names. -/
  | callback (function : Value) (params : List String)
  /-- An action that yields a token and does nothing else. -/
  | token (v : Value)

/-- The actions of a scanner. -/
inductive ActionTable where
  | each (actions : List BoundAction)
  /-- One function for all rules, of the scanner, the shared object, the scanner, the position of the rule and
  the start condition. -/
  | choice (function : Value)

/-- What a scanner works with, before its actions can be run. -/
structure Plan where
  patterns : List Pattern := []
  conditions : List (String × List Nat) := [(initialCondition, [])]
  options : List (Value × Value) := []
  actions : ActionTable := .each []

def Plan.has (plan : Plan) (name : String) : Bool :=
  ((Value.get? plan.options name).getD .none).truthy

/-! ## Memory -/

/-- The memory of running code. -/
structure Memory where
  frames : List Bindings := []
  functions : List Function := []
  classes : List ClassEntry := []
  instances : List InstanceEntry := []
  plan : Plan := {}
  scannerAttributes : Bindings := []

abbrev Exec (α : Type) := Scanner.Run Memory α

def memory : Exec Memory := do return (← get).world.memory

def changeMemory (f : Memory → Memory) : Exec Unit :=
  modify fun s => { s with world := { s.world with memory := f s.world.memory } }

def fail {α : Type} (f : Fault) : Exec α := throw (.fault f)

def settle {α : Type} : Except Fault α → Exec α
  | .ok a => return a
  | .error f => fail f

def newFrame (bindings : Bindings) : Exec Nat := do
  let m ← memory
  changeMemory fun m => { m with frames := m.frames ++ [bindings] }
  return m.frames.length

def changeFrame (frame : Nat) (f : Bindings → Bindings) : Exec Unit :=
  changeMemory fun m => { m with frames := m.frames.modify frame f }

def Memory.binding? (m : Memory) (frame : Nat) (name : String) : Option Value :=
  (m.frames.getD frame []).lookup name

def newFunction (f : Function) : Exec Value := do
  let m ← memory
  changeMemory fun m => { m with functions := m.functions ++ [f] }
  return .reference (.function m.functions.length f.name)

def newClass (c : ClassEntry) : Exec Value := do
  let m ← memory
  changeMemory fun m => { m with classes := m.classes ++ [c] }
  return .reference (.classOf m.classes.length c.name)

def newInstance (kind : Value) (name : String) (attributes : Bindings) : Exec Value := do
  let m ← memory
  changeMemory fun m => { m with instances := m.instances ++ [⟨kind, attributes⟩] }
  return .reference (.instanceOf m.instances.length name)

/-! ## Names -/

def notYetBound : Fault := .raised "UnboundLocalError"

def Memory.lookup (m : Memory) (scope : Scope) (name : String) : Except Fault (Option Value) :=
  let global := m.binding? scope.globals name
  let outer := fun (_ : Unit) =>
    match scope.outer.find? fun function => function.2.contains name with
    | some (frame, _) =>
      match m.binding? frame name with
      | some v => .ok (some v)
      | none => .error Fault.unbound
    | none => .ok global
  if scope.globalNames.contains name then .ok global
  else if scope.isFunction then
    if scope.own.contains name then
      match m.binding? scope.frame name with
      | some v => .ok (some v)
      | none => .error notYetBound
    else outer ()
  else match m.binding? scope.frame name with
    | some v => .ok (some v)
    | none => outer ()

def Scope.target (scope : Scope) (name : String) : Nat :=
  if scope.globalNames.contains name then scope.globals
  else if scope.outerNames.contains name then
    match scope.outer.find? fun function => function.2.contains name with
    | some (frame, _) => frame
    | none => scope.frame
  else scope.frame

def Scope.source (scope : Scope) (m : Memory) (name : String) : Nat :=
  if scope.globalNames.contains name then scope.globals
  else if (m.binding? scope.frame name).isSome then scope.frame
  else match scope.outer.find? fun function => function.2.contains name with
    | some (frame, _) => frame
    | none => scope.globals

end LexGen.Program
