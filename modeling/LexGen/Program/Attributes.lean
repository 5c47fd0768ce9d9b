import LexGen.Program.Memory
import LexGen.Value.Methods

/-!
# Attributes

What code can reach through a value by name: the state of the scanner and its operations, the shared object,
the bounds of a location, and the attributes of instances and classes.
-/

namespace LexGen.Program

open Scanner

/-! ## Classes -/

/-- The value that a class has for a name, by itself or through the classes it is based on. The fuel bounds
the length of the way through them. -/
def Memory.classAttribute? (m : Memory) : (fuel : Nat) → (name : String) → Value → Option Value
  | 0, _, _ => none
  | fuel + 1, name, .reference (.classOf id _) => do
    let c ← m.classes[id]?
    (c.attributes.lookup name).or (c.bases.findSome? (m.classAttribute? fuel name))
  | _ + 1, _, _ => none

def Memory.derives (m : Memory) : (fuel : Nat) → (name : String) → Value → Bool
  | 0, _, _ => false
  | _ + 1, name, .reference (.builtin other) => name == other
  | fuel + 1, name, .reference (.classOf id _) =>
    match m.classes[id]? with
    | some c => c.bases.any (m.derives fuel name)
    | none => false
  | _ + 1, _, _ => false

def Memory.classDepth (m : Memory) : Nat := m.classes.length + 1

/-! ## Locations -/

def locationAttribute? (l : Location) : (name : String) → Option Value
  | "first_line" => some (.int l.firstLine)
  | "first_column" => some (.int l.firstColumn)
  | "last_line" => some (.int l.lastLine)
  | "last_column" => some (.int l.lastColumn)
  | "range" => some (match l.range with
    | some (first, last) => .tuple [.int first, .int last]
    | none => .none)
  | _ => none

def setLocation (l : Location) (name : String) (v : Value) : Except Fault Location :=
  match name with
  | "first_line" => do return { l with firstLine := ← Value.positionOf v }
  | "first_column" => do return { l with firstColumn := ← Value.positionOf v }
  | "last_line" => do return { l with lastLine := ← Value.positionOf v }
  | "last_column" => do return { l with lastColumn := ← Value.positionOf v }
  | "range" =>
    match v with
    | .none => .ok { l with range := none }
    | .tuple [.int first, .int last] => .ok { l with range := some (first, last) }
    | _ => .error .badType
  | _ => .error .noAttribute

/-! ## The scanner -/

def sharedKind : String := "SimpleNamespace"

def sharedValue : Value := .object sharedKind

def stateAttribute? (s : State Memory) : (name : String) → Option Value
  | "yytext" => some (Value.ofText s.text)
  | "yyleng" => some (.int s.length)
  | "yylineno" => some (.int s.line)
  | "yylloc" => some (.location s.loc)
  | "match" => some (Value.ofText s.piece)
  | "matched" => some (Value.ofText s.matched)
  | "offset" => some (.int s.offset)
  | "done" => some (.bool s.done)
  | "condition_stack" => some (.list (s.conditions.reverse.map .str))
  | "yy" => some sharedValue
  | "EOF" => some endToken
  | "options" => some (.dict s.world.memory.plan.options)
  | "output" => some .none
  | "_input" => some (Value.ofText (s.before.reverse ++ s.rest))
  | "_pos" => some (.int s.before.length)
  | "_more" => some (.bool s.more)
  | "_backtrack" => some (.bool s.rejected)
  | _ => none

def textOf : Value → Except Fault Text
  | .str s => .ok s.toList
  | _ => .error .badType

/-- Give a part of the state of the scanner another value. Nothing if no part has that name. -/
def setState? (s : State Memory) (name : String) (v : Value) : Option (Except Fault (State Memory)) :=
  match name with
  | "yytext" => some do return { s with text := ← textOf v }
  | "yyleng" => some do return { s with length := ← Value.positionOf v }
  | "yylineno" => some do return { s with line := ← Value.positionOf v }
  | "yylloc" => some (match v with
    | .location l => .ok { s with loc := l }
    | _ => .error .badType)
  | "match" => some do return { s with piece := ← textOf v }
  | "matched" => some do return { s with matched := ← textOf v }
  | "offset" => some do return { s with offset := ← Value.positionOf v }
  | "done" => some (.ok { s with done := v.truthy })
  | "condition_stack" => some do
    return { s with conditions := (← (← v.items).mapM textOf).reverse.map String.ofList }
  | "_more" => some (.ok { s with more := v.truthy })
  | "_backtrack" => some (.ok { s with rejected := v.truthy })
  | _ => none

def isOperation (name : String) : Bool :=
  (Operation.signatures.lookup name).isSome || name == "tokenize"

def patternModule : String := "re"

def patternCompiler : String := "re.compile"

def patternModuleAttribute? : (name : String) → Option Value
  | "compile" => some (.reference (.builtin patternCompiler))
  | "I" | "IGNORECASE" => some (.int PatternFlags.ignoreCase)
  | "M" | "MULTILINE" => some (.int PatternFlags.multiline)
  | "S" | "DOTALL" => some (.int PatternFlags.dotAll)
  | "X" | "VERBOSE" => some (.int PatternFlags.verbose)
  | "A" | "ASCII" => some (.int PatternFlags.ascii)
  | "U" | "UNICODE" => some (.int PatternFlags.unicode)
  | _ => none

/-! ## Reading -/

def boundTo (id : Nat) (kind : String) : Value → Value
  | .reference (.function function name) => .reference (.bound id function kind name)
  | v => v

def Memory.instanceAttribute? (m : Memory) (id : Nat) (kind name : String) : Option Value := do
  let i ← m.instances[id]?
  (i.attributes.lookup name).or ((m.classAttribute? m.classDepth name i.kind).map (boundTo id kind))

def attribute? (s : State Memory) (name : String) : Value → Option Value
  | .scanner =>
    ((s.world.memory.scannerAttributes.lookup name).or (stateAttribute? s name)).or
      (if isOperation name then some (.reference (.operation name)) else none)
  | .object kind =>
    if kind == sharedKind then
      if name == "parser" && s.world.shared.handler.isSome then some (.object sharedKind)
      else s.world.shared.attributes.lookup name
    else none
  | .location l => locationAttribute? l name
  | .reference (.instanceOf id kind) => s.world.memory.instanceAttribute? id kind name
  | .reference (.classOf id own) =>
    if name == "__name__" then some (.str own)
    else s.world.memory.classAttribute? s.world.memory.classDepth name (.reference (.classOf id own))
  | .reference (.builtin own) =>
    if name == "__name__" then some (.str own)
    else if own == patternModule then patternModuleAttribute? name
    else none
  | .reference (.function _ own) => if name == "__name__" then some (.str own) else none
  | .reference (.bound _ _ _ own) => if name == "__name__" then some (.str own) else none
  | .str text =>
    if Value.hasMethod (.str text) name then some (.reference (.ofText text name)) else none
  | .int i => if name == "real" || name == "numerator" then some (.int i) else none
  | v => if Value.hasMethod v name then some (.object "builtin_function_or_method") else none

/-- The value that a value has for a name. It is a fault if there is none. -/
def readAttribute (v : Value) (name : String) : Exec Value := do
  match attribute? (← get) name v with
  | some w => return w
  | none => fail .noAttribute

/-! ## Writing -/

def changeShared (f : Shared → Shared) : Exec Unit :=
  modify fun s => { s with world := { s.world with shared := f s.world.shared } }

/-- Give a value another value for a name. Values that are kept as a whole are not changed here. -/
def setAttribute (v : Value) (name : String) (w : Value) : Exec Unit := do
  match v with
  | .scanner => do
    match setState? (← get) name w with
    | some (.ok s) => set s
    | some (.error f) => fail f
    | none => changeMemory fun m => { m with scannerAttributes := m.scannerAttributes.put name w }
  | .object kind =>
    if kind == sharedKind then
      changeShared fun shared => { shared with attributes := Bindings.put name w shared.attributes }
    else fail .noAttribute
  | .reference (.instanceOf id _) =>
    changeMemory fun m =>
      { m with instances := m.instances.modify id fun i => { i with attributes := i.attributes.put name w } }
  | .reference (.classOf id _) =>
    changeMemory fun m =>
      { m with classes := m.classes.modify id fun c => { c with attributes := c.attributes.put name w } }
  | .reference (.function ..) => return ()
  | _ => fail .noAttribute

def dropAttribute (v : Value) (name : String) : Exec Unit := do
  let _ ← readAttribute v name
  match v with
  | .object _ =>
    changeShared fun shared => { shared with attributes := Bindings.drop name shared.attributes }
  | .reference (.instanceOf id _) =>
    changeMemory fun m =>
      { m with instances := m.instances.modify id fun i => { i with attributes := i.attributes.drop name } }
  | .scanner => changeMemory fun m => { m with scannerAttributes := m.scannerAttributes.drop name }
  | _ => fail .noAttribute

end LexGen.Program
