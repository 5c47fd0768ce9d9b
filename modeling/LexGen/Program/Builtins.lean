import LexGen.Program.Attributes
import LexGen.RuleTable

/-!
# What every module has

The functions and classes that code finds without defining them. A function is applied to its arguments in
order and by name; some functions call other functions, so a call comes with the means to make one.

Where a function would hand out items one after the other, the list of them is its value. A text is read as a number
with a fraction only if it is an integer. A function that is not here, or that is applied to arguments of a form that
is not here, fails with a type error.
-/

namespace LexGen.Program

abbrev Named := List (String × Value)

abbrev Call := Value → List Value → Named → Exec Value

/-! ## Numbers from texts -/

def digitIn? (base : Nat) (c : Char) : Option Nat :=
  let value :=
    if Unicode.isDigit c then Unicode.digitValue c
    else if 'a' ≤ c && c ≤ 'z' then c.toNat - 87
    else if 'A' ≤ c && c ≤ 'Z' then c.toNat - 55
    else base
  if value < base then some value else none

def digitsIn? (base : Nat) : (value : Nat) → (gap : Bool) → Text → Option Nat
  | value, gap, [] => if gap then none else some value
  | value, gap, c :: text =>
    if c = '_' then if gap then none else digitsIn? base value true text
    else do digitsIn? base (value * base + (← digitIn? base c)) false text

/-- The integer that a text stands for, with white space around it and a sign before it. -/
def integerIn? (base : Nat) (text : Text) : Option Int :=
  match Text.trim text with
  | '-' :: digits => (digitsIn? base 0 true digits).map fun n => -(n : Int)
  | '+' :: digits => (digitsIn? base 0 true digits).map Int.ofNat
  | digits => (digitsIn? base 0 true digits).map Int.ofNat

def truncated (x : Binary64) : Except Fault Value :=
  match x.fraction? with
  | some (num, den) => .ok (.int (num.tdiv den))
  | none => if x.same x then .error .overflow else .error .badValue

def toInteger : Value → Except Fault Value
  | .float x => truncated x
  | .str s =>
    match integerIn? 10 s.toList with
    | some i => .ok (.int i)
    | none => .error .badValue
  | v =>
    match v.integer? with
    | some i => .ok (.int i)
    | none => .error .badType

def toFloat : Value → Except Fault Value
  | .str s =>
    match integerIn? 10 s.toList with
    | some i => .ok (.float (Binary64.ofInt i))
    | none => .error .badValue
  | v =>
    match v.float? with
    | some x => .ok (.float x)
    | none => .error .badType

/-! ## Pure functions -/

def toEntries (v : Value) : Except Fault (List (Value × Value)) :=
  match v with
  | .dict entries => .ok entries
  | v => do
    (← v.items).mapM fun pair => do
      match ← pair.items with
      | [key, w] => if key.hashable then pure (key, w) else throw .badType
      | _ => throw .badValue

def leastBy (less : Value → Value → Except Fault Bool) : List Value → Except Fault Value
  | [] => .error .badValue
  | v :: vs => vs.foldlM (fun best w => do if ← less w best then return w else return best) v

def gathered : List Value → Except Fault (List Value)
  | [v] => v.items
  | vs => .ok vs

def numbers (first last step : Int) : List Value :=
  let count := if step < 0 then (first - last + (-step) - 1) / (-step) else (last - first + step - 1) / step
  (List.range count.toNat).map fun (k : Nat) => .int (first + k * step)

def charOf (i : Int) : Except Fault Value :=
  if 0 ≤ i && i < 0x110000 then .ok (.str (Char.ofNat i.toNat).toString) else .error .badValue

/-- The functions that only look at their arguments. Nothing if there is no such function. -/
def pureFunction? (name : String) (args : List Value) (named : Named) : Option (Except Fault Value) :=
  let plain := fun (result : Except Fault Value) => if named.isEmpty then result else .error .badType
  match name, args with
  | "len", [v] => some (plain do return .int (← v.size))
  | "int", [] => some (plain (.ok (.int 0)))
  | "int", [v] => some (plain (toInteger v))
  | "int", [.str s, .int base] => some (plain (match integerIn? base.toNat s.toList with
    | some i => .ok (.int i)
    | none => .error .badValue))
  | "float", [] => some (plain (.ok (.float (Binary64.ofInt 0))))
  | "float", [v] => some (plain (toFloat v))
  | "str", [] => some (plain (.ok (.str "")))
  | "str", [v] => some (plain do return .str (← v.told))
  | "repr", [v] | "ascii", [v] => some (plain do return .str (← v.shown))
  | "bool", [] => some (plain (.ok (.bool false)))
  | "bool", [v] => some (plain (.ok (.bool v.truthy)))
  | "list", [] => some (plain (.ok (.list [])))
  | "list", [v] => some (plain do return .list (← v.items))
  | "tuple", [] => some (plain (.ok (.tuple [])))
  | "tuple", [v] => some (plain do return .tuple (← v.items))
  | "set", [] | "frozenset", [] => some (plain (.ok (.set [])))
  | "set", [v] | "frozenset", [v] => some (plain do Value.setOf (← v.items))
  | "dict", [] => some (.ok (.dict (named.map fun (key, v) => (.str key, v))))
  | "dict", [v] => some do
    return .dict (Value.dictOf ((← toEntries v) ++ named.map fun (key, v) => (.str key, v)))
  | "abs", [v] => some (plain (match v with
    | .float x => .ok (.float (if x.less (Binary64.ofInt 0) then x.negate else x))
    | v => match v.integer? with
      | some i => .ok (.int i.natAbs)
      | none => .error .badType))
  | "min", args => some (plain do leastBy Value.less (← gathered args))
  | "max", args => some (plain do leastBy (fun v w => w.less v) (← gathered args))
  | "sum", [v] => some (plain do (← v.items).foldlM Value.add (.int 0))
  | "sum", [v, start] => some (plain do (← v.items).foldlM Value.add start)
  | "any", [v] => some (plain do return .bool ((← v.items).any Value.truthy))
  | "all", [v] => some (plain do return .bool ((← v.items).all Value.truthy))
  | "range", [last] => some (plain do return .list (numbers 0 (← Value.positionOf last) 1))
  | "range", [first, last] => some (plain do
    return .list (numbers (← Value.positionOf first) (← Value.positionOf last) 1))
  | "range", [first, last, step] => some (plain do
    let step ← Value.positionOf step
    if step = 0 then throw .badValue
    return .list (numbers (← Value.positionOf first) (← Value.positionOf last) step))
  | "sorted", [v] => some do
    let sorted ← Value.inOrder (← v.items)
    match named with
    | [] => return .list sorted
    | [("reverse", flag)] => return .list (if flag.truthy then sorted.reverse else sorted)
    | _ => throw .badType
  | "reversed", [v] => some (plain do return .list (← v.items).reverse)
  | "enumerate", [v] => some (plain do
    return .list ((← v.items).zipIdx.map fun (w, i) => .tuple [.int i, w]))
  | "zip", [v, w] => some (plain do
    return .list (((← v.items).zip (← w.items)).map fun (a, b) => .tuple [a, b]))
  | "ord", [.str s] => some (plain (match s.toList with
    | [c] => .ok (.int c.toNat)
    | _ => .error .badType))
  | "chr", [v] => some (plain do charOf (← Value.positionOf v))
  | "divmod", [v, w] => some (plain do return .tuple [← v.floorDivide w, ← v.remainder w])
  | "pow", [v, w] => some (plain (v.power w))
  | "callable", [v] => some (plain (.ok (.bool (match v with
    | .reference (.instanceOf ..) => false
    | .reference _ => true
    | _ => false))))
  | "len", _ | "int", _ | "float", _ | "str", _ | "repr", _ | "bool", _ | "list", _ | "tuple", _ | "set", _
  | "dict", _ | "abs", _ | "sum", _ | "any", _ | "all", _ | "range", _ | "sorted", _ | "reversed", _
  | "enumerate", _ | "zip", _ | "ord", _ | "chr", _ | "divmod", _ | "pow", _ | "callable", _ =>
    some (.error .badType)
  | _, _ => none

/-! ## Functions with effects -/

def isErrorClass (name : String) : Bool :=
  match name.toList with
  | c :: _ => c.isUpper && (builtinNames.contains name || name == "LexicalError") &&
      !(["Ellipsis", "NotImplemented"].contains name)
  | [] => false

def Memory.isInstance (m : Memory) (v : Value) : Value → Bool
  | .reference (.builtin name) =>
    v.typeName == name || name == "object" || (name == "int" && v.typeName == "bool") ||
      (match v with
        | .reference (.instanceOf id _) =>
          match m.instances[id]? with
          | some i => m.derives m.classDepth name i.kind
          | none => false
        | _ => false)
  | .reference (.classOf id own) =>
    match v with
    | .reference (.instanceOf i _) =>
      match m.instances[i]? with
      | some entry => entry.kind == .reference (.classOf id own)
      | none => false
    | _ => false
  | _ => false

def optionOf (named : Named) (name : String) (fallback : Value) : Value :=
  match named.lookup name with
  | some .none | none => fallback
  | some v => v

def printValues (args : List Value) (named : Named) : Exec Value := do
  let separator ← settle (textOf (optionOf named "sep" (.str " ")))
  let ending ← settle (textOf (optionOf named "end" (.str "\n")))
  let texts ← settle (args.mapM Value.told)
  Scanner.echo (Text.join separator (texts.map String.toList) ++ ending)
  return .none

def makeLocation (args : List Value) (named : Named) : Exec Value := do
  let names := ["first_line", "first_column", "last_line", "last_column", "range"]
  if names.length < args.length then fail .badType
  if named.any fun (name, _) => !(names.drop args.length).contains name then fail .badType
  let l ← settle ((names.zip args ++ named).foldlM (fun l (name, v) => setLocation l name v) ({} : Location))
  return .location l

def compilePattern (args : List Value) (named : Named) : Exec Value := do
  match args ++ (named.filter (·.1 == "flags")).map (·.2) with
  | [.str text] => return (← Pattern.ofText text 0).toValue
  | [.str text, flags] => do
    match flags.integer? with
    | some i => return (← Pattern.ofText text (PatternFlags.ofInt i)).toValue
    | none => fail .badType
  | [.pattern text flags] => return .pattern text flags
  | _ => fail .badType

def applyBuiltin (call : Call) (name : String) (args : List Value) (named : Named) : Exec Value := do
  match pureFunction? name args named with
  | some result => settle result
  | none =>
    match name, args with
    | "getattr", [v, .str field] => readAttribute v field
    | "getattr", [v, .str field, fallback] =>
      return (attribute? (← get) field v).getD fallback
    | "hasattr", [v, .str field] => return .bool (attribute? (← get) field v).isSome
    | "setattr", [v, .str field, w] => do
      setAttribute v field w
      return .none
    | "print", args => printValues args named
    | "isinstance", [v, kind] => do
      let m ← memory
      match kind with
      | .tuple kinds => return .bool (kinds.any (m.isInstance v))
      | kind => return .bool (m.isInstance v kind)
    | "type", [v] => return .reference (.builtin v.typeName)
    | "map", [f, v] => do
      let items ← settle v.items
      return .list (← items.mapM fun item => call f [item] [])
    | "filter", [f, v] => do
      let items ← settle v.items
      return .list (← items.filterM fun item => do return (← call f [item] []).truthy)
    | "Location", args => makeLocation args named
    | "re.compile", args => compilePattern args named
    | "SimpleNamespace", [] => newInstance (.reference (.builtin sharedKind)) sharedKind named
    | name, args =>
      if isErrorClass name then newInstance (.reference (.builtin name)) name [("args", .tuple args)]
      else fail .badType

end LexGen.Program
