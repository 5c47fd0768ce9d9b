import LexGen.Program.Evaluate

/-!
# Running statements

A statement is run in a scope and says how to go on: with the next statement, at the end of a loop, or with a
value that the function returns.

A `with` statement fails with a type error, an asynchronous loop runs like any other, and a group of errors is handled
like a single error. A `raise` without an error does not raise the one that is being handled again. Modules other than
the one for patterns are imported as objects without attributes, and a class that a metaclass or keywords are given
for is an ordinary one. A loop that is still running after `roundLimit` rounds counts as one without an end.
-/

namespace LexGen.Program

open Code

/-- How to go on after a statement. -/
inductive Flow where
  | next
  | ret (v : Value)
  | stop
  | again

/-! ## Loops -/

/-- How many rounds of a loop are run before it counts as one without an end. -/
def roundLimit : Nat := 100000

/-- Repeat a body while a test holds. The last argument bounds the number of rounds. -/
def repeatWhile (test : Exec Value) (body otherwise : Exec Flow) : (rounds : Nat) → Exec Flow
  | 0 => fail .endless
  | rounds + 1 => do
    let v ← test
    if v.truthy then
      match ← body with
      | .stop => return .next
      | .ret v => return .ret v
      | _ => repeatWhile test body otherwise rounds
    else otherwise

def repeatFor (bind : Value → Exec Unit) (body otherwise : Exec Flow) : (items : List Value) → Exec Flow
  | [] => otherwise
  | item :: items => do
    bind item
    match ← body with
    | .stop => return .next
    | .ret v => return .ret v
    | _ => repeatFor bind body otherwise items

/-! ## Errors -/

/-- The classes that an error belongs to besides its own, for errors with a class more special than
`Exception`. -/
def errorParents : String → List String
  | "KeyError" | "IndexError" => ["LookupError"]
  | "ZeroDivisionError" | "OverflowError" | "FloatingPointError" => ["ArithmeticError"]
  | "UnboundLocalError" => ["NameError"]
  | "RecursionError" | "NotImplementedError" => ["RuntimeError"]
  | "UnicodeDecodeError" | "UnicodeEncodeError" | "UnicodeTranslateError" => ["UnicodeError", "ValueError"]
  | "UnicodeError" => ["ValueError"]
  | "ModuleNotFoundError" => ["ImportError"]
  | "IndentationError" => ["SyntaxError"]
  | "TabError" => ["IndentationError", "SyntaxError"]
  | _ => []

def errorName : Error → String
  | .fault f => f.name
  | .lexical .. => "LexicalError"
  | _ => "Exception"

def belongsTo (m : Memory) (e : Error) : Value → Bool
  | .reference (.builtin name) =>
    let own := errorName e
    name == own || name == "BaseException" ||
      (name == "Exception" && !(["SystemExit", "KeyboardInterrupt", "GeneratorExit"].contains own)) ||
      (errorParents own).contains name ||
      m.classes.zipIdx.any fun (c, id) =>
        c.name == own && m.derives m.classDepth name (.reference (.classOf id c.name))
  | .reference (.classOf _ name) => name == errorName e
  | .tuple kinds => kinds.any fun
    | .reference (.builtin name) => name == errorName e || (errorParents (errorName e)).contains name ||
      name == "Exception"
    | .reference (.classOf _ name) => name == errorName e
    | _ => false
  | _ => false

def errorOf (name : String) (args : List Value) : Error :=
  if name == "LexicalError" then
    let message := match args with
      | v :: _ => v.plain
      | [] => ""
    .lexical message ((args[1]?).bind Value.integer?) (((args[2]?).bind Value.str?).getD "")
  else .fault (.raised name)

def raisedBy? (m : Memory) : Value → Option (String × List Value)
  | .reference (.builtin name) => if isErrorClass name then some (name, []) else none
  | .reference (.classOf id name) =>
    if m.derives m.classDepth "Exception" (.reference (.classOf id name)) then some (name, []) else none
  | .reference (.instanceOf id kind) => do
    let entry ← m.instances[id]?
    let args := match entry.attributes.lookup "args" with
      | some (.tuple args) => args
      | _ => []
    match entry.kind with
    | .reference (.builtin name) => if isErrorClass name then some (name, args) else none
    | .reference (.classOf id name) =>
      if m.derives m.classDepth "Exception" (.reference (.classOf id name)) then some (name, args) else none
    | _ => if isErrorClass kind then some (kind, args) else none
  | _ => none

def raiseValue (v : Value) : Exec Flow := do
  match raisedBy? (← memory) v with
  | some (name, args) => throw (errorOf name args)
  | none => fail .badType

def attemptRun (body : Exec Flow) : Exec (Except Error Flow) :=
  tryCatch (do return .ok (← body)) fun e => return .error e

/-! ## Imports -/

def moduleValue (name : String) : Value :=
  if name == patternModule then .reference (.builtin patternModule) else .object "module"

def importedValue (path : Option String) (name : String) : Value :=
  if path = some patternModule then (patternModuleAttribute? name).getD (.object "function")
  else .object "object"

/-! ## Patterns -/

mutual

/-- Whether a value fits a pattern. Names of the pattern are bound on the way. -/
def fits (call : Call) (scope : Scope) : MatchPattern → Value → Exec Bool
  | .value e, v => do
    let w ← evaluate call scope e
    return Value.same v w
  | .singleton c, v => return Value.isSame v c.value
  | .sequence patterns, v =>
    match v with
    | .list items | .tuple items => allFit call scope patterns items
    | _ => return false
  | .mapping keys patterns rest, v => do
    match v with
    | .dict entries => do
      let keys ← evaluateAll call scope keys
      let found := keys.filterMap fun key => Value.lookup key entries
      if found.length != keys.length then return false
      if ← allFit call scope patterns found then
        if let some name := rest then
          bindName scope name (.dict (entries.filter fun entry => !keys.any (Value.same entry.1)))
        return true
      else return false
    | _ => return false
  | .instance kind positional names named, v => do
    let kind ← evaluate call scope kind
    let s ← get
    if !s.world.memory.isInstance v kind then return false
    let fields := names.filterMap fun name => attribute? s name v
    if fields.length != names.length then return false
    let first ← allFit call scope positional (positional.map fun _ => v)
    if first then allFit call scope named fields else return false
  | .star name, v => do
    if let some name := name then bindName scope name v
    return true
  | .capture none name, v => do
    if let some name := name then bindName scope name v
    return true
  | .capture (some pattern) name, v => do
    if ← fits call scope pattern v then
      if let some name := name then bindName scope name v
      return true
    else return false
  | .choice patterns, v => someFits call scope patterns v

/-- Whether values fit as many patterns. A starred pattern takes what the others leave. -/
def allFit (call : Call) (scope : Scope) : List MatchPattern → List Value → Exec Bool
  | [], vs => return vs.isEmpty
  | .star name :: patterns, vs => do
    if vs.length < patterns.length then return false
    let count := vs.length - patterns.length
    if let some name := name then bindName scope name (.list (vs.take count))
    allFit call scope patterns (vs.drop count)
  | pattern :: patterns, v :: vs => do
    if ← fits call scope pattern v then allFit call scope patterns vs else return false
  | _ :: _, [] => return false

def someFits (call : Call) (scope : Scope) : List MatchPattern → Value → Exec Bool
  | [], _ => return false
  | pattern :: patterns, v => do
    if ← fits call scope pattern v then return true else someFits call scope patterns v

end

/-! ## Statements -/

def deleteTarget (call : Call) (scope : Scope) : Expr → Exec Unit
  | .name id _ _ => do
    let _ ← readName scope id
    changeFrame (scope.target id) (Bindings.drop id)
  | .attribute e name => do
    let v ← evaluate call scope e
    dropAttribute v name
  | .subscript e index => do
    let container ← evaluate call scope e
    let key ← evaluate call scope index
    let after ← settle (container.dropIndex key)
    update call scope e after
  | _ => fail .badType

/-- The value of a target after an update. A list takes all items of the operand. -/
def updated (op : BinaryOp) (v w : Value) : Except Fault Value :=
  match op, v with
  | .add, .list items => do return .list (items ++ (← w.items))
  | op, v => Value.binary op v w

def decorate (call : Call) (decorators : List Value) (v : Value) : Exec Value :=
  decorators.foldrM (fun decorator v => call decorator [v] []) v

def classScope (scope : Scope) (frame : Nat) (occurrences : List Occurrence) (name : String) : Scope :=
  { scope with
    frame := frame
    isFunction := false
    own := []
    outer := scope.around
    globalNames := Occurrence.declaredFor .global occurrences
    outerNames := Occurrence.declaredFor .nonlocal occurrences
    path := scope.path ++ name ++ "." }

mutual

def execute (call : Call) (scope : Scope) : Stmt → Exec Flow
  | .expr e => do
    let _ ← evaluate call scope e
    return .next
  | .assign targets e => do
    let v ← evaluate call scope e
    targets.forM fun target => assign call scope target v
    return .next
  | .update target op e => do
    let v ← evaluate call scope target
    let w ← evaluate call scope e
    assign call scope target (← settle (updated op v w))
    return .next
  | .annotate target _ value _ => do
    if let some v ← evaluateOptional call scope value then assign call scope target v
    return .next
  | .ret value => do return .ret ((← evaluateOptional call scope value).getD .none)
  | .delete targets => do
    targets.forM (deleteTarget call scope)
    return .next
  | .pass => return .next
  | .break => return .stop
  | .continue => return .again
  | .raise error _ => do
    match ← evaluateOptional call scope error with
    | some v => raiseValue v
    | none => fail (.raised "RuntimeError")
  | .global _ => return .next
  | .nonlocal _ => return .next
  | .assert test _ => do
    let v ← evaluate call scope test
    if v.truthy then return .next else fail (.raised "AssertionError")
  | .importModules modules => do
    modules.forM fun i => bindName scope i.boundName (moduleValue i.name)
    return .next
  | .importNames path _ names => do
    names.forM fun i => bindName scope i.boundName (importedValue path i.name)
    return .next
  | .ifThen test body orelse => do
    let v ← evaluate call scope test
    if v.truthy then executeAll call scope body else executeAll call scope orelse
  | .while test body orelse =>
    repeatWhile (evaluate call scope test) (executeAll call scope body) (executeAll call scope orelse)
      roundLimit
  | .for _ target source body orelse => do
    let v ← evaluate call scope source
    let items ← settle v.items
    repeatFor (assign call scope target) (executeAll call scope body) (executeAll call scope orelse) items
  | .with .. => fail .badType
  | .try _ body handlers orelse final => do
    let outcome ← attemptRun do
      match ← attemptRun (executeAll call scope body) with
      | .ok .next => executeAll call scope orelse
      | .ok flow => return flow
      | .error e => do
        match ← handle call scope e handlers with
        | some flow => return flow
        | none => throw e
    match ← executeAll call scope final with
    | .next =>
      match outcome with
      | .ok flow => return flow
      | .error e => throw e
    | flow => return flow
  | .match subject cases => do
    let v ← evaluate call scope subject
    executeCases call scope v cases
  | .function awaited name params body decorators _ line => do
    let decorators ← evaluateAll call scope decorators
    let fallbacks ← evaluateFallbacks call scope params
    let v ← makeFunction scope name params fallbacks (.statements body) (blockOccurrences body) awaited line
    let v ← decorate call decorators v
    bindName scope name v
    return .next
  | .classDef name bases _ body decorators line => do
    let decorators ← evaluateAll call scope decorators
    let bases ← evaluateAll call scope bases
    let frame ← newFrame []
    let _ ← executeAll call (classScope scope frame (blockOccurrences body) name) body
    let m ← memory
    let v ← newClass ⟨name, scope.path ++ name, bases, m.frames.getD frame [], line⟩
    let v ← decorate call decorators v
    bindName scope name v
    return .next

def executeAll (call : Call) (scope : Scope) : List Stmt → Exec Flow
  | [] => return .next
  | s :: rest => do
    match ← execute call scope s with
    | .next => executeAll call scope rest
    | flow => return flow

def handle (call : Call) (scope : Scope) (e : Error) : List Handler → Exec (Option Flow)
  | [] => return none
  | .mk kind name body :: handlers => do
    let kind ← evaluateOptional call scope kind
    let m ← memory
    let applies := match kind with
      | some kind => belongsTo m e kind
      | none => true
    if applies then do
      if let some name := name then bindName scope name (.object (errorName e))
      let flow ← executeAll call scope body
      return some flow
    else handle call scope e handlers

def executeCases (call : Call) (scope : Scope) (v : Value) : List Case → Exec Flow
  | [] => return .next
  | .mk pattern guard body :: cases => do
    if ← fits call scope pattern v then
      let holds ← evaluateOptional call scope guard
      if (holds.getD (.bool true)).truthy then executeAll call scope body
      else executeCases call scope v cases
    else executeCases call scope v cases

end

end LexGen.Program
