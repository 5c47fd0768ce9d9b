import LexGen.Code.Tree
import LexGen.Error
import LexGen.Value.Equality

/-!
# Operators

Arithmetic, comparison, iteration and indexing of values, as code uses them. An operator that is not made for
its operands fails with a fault.
-/

namespace LexGen

def Code.Constant.value : Code.Constant → Value
  | .none => .none
  | .bool b => .bool b
  | .int n => .int n
  | .float x => .float x
  | .imaginary _ => .object "complex"
  | .str text _ => .str (String.ofList text)
  | .bytes text => .bytes (String.ofList text)
  | .ellipsis => .object "ellipsis"

namespace Value

open Code

/-! ## Items -/

def items : Value → Except Fault (List Value)
  | list items | tuple items | set items => .ok items
  | dict entries => .ok (entries.map (·.1))
  | str s => .ok (s.toList.map fun c => str c.toString)
  | bytes s => .ok (s.toList.map fun c => int c.toNat)
  | _ => .error .badType

def setOf (items : List Value) : Except Fault Value :=
  if allHashable items then .ok (set (distinct items)) else .error .badType

def size (v : Value) : Except Fault Nat :=
  match items v with
  | .ok items => .ok items.length
  | .error e => .error e

/-! ## Arithmetic -/

def float? : Value → Option Binary64
  | float x => some x
  | v => v.integer?.map Binary64.ofInt

def repeated {α : Type} (n : Int) (items : List α) : List α :=
  (List.replicate n.toNat items).flatten

def numeric (ofInts : Int → Int → Except Fault Value) (ofFloats : Binary64 → Binary64 → Except Fault Value)
    (v w : Value) : Except Fault Value :=
  match v.integer?, w.integer? with
  | some i, some j => ofInts i j
  | _, _ =>
    match v.float?, w.float? with
    | some x, some y => ofFloats x y
    | _, _ => .error .badType

def add : Value → Value → Except Fault Value
  | str s, str t => .ok (str (s ++ t))
  | bytes s, bytes t => .ok (bytes (s ++ t))
  | list xs, list ys => .ok (list (xs ++ ys))
  | tuple xs, tuple ys => .ok (tuple (xs ++ ys))
  | v, w => numeric (fun i j => .ok (int (i + j))) (fun x y => .ok (float (x.add y))) v w

def subtract : Value → Value → Except Fault Value
  | set xs, set ys => .ok (set (xs.filter fun x => !ys.any (same x)))
  | v, w => numeric (fun i j => .ok (int (i - j))) (fun x y => .ok (float (x.add y.negate))) v w

def multiply (v w : Value) : Except Fault Value :=
  let times := fun (sequence count : Value) =>
    match count.integer? with
    | .none => Option.none
    | some n =>
      match sequence with
      | str s => some (str (String.ofList (repeated n s.toList)))
      | bytes s => some (bytes (String.ofList (repeated n s.toList)))
      | list items => some (list (repeated n items))
      | tuple items => some (tuple (repeated n items))
      | _ => Option.none
  match Option.or (times v w) (times w v) with
  | some result => .ok result
  | .none => numeric (fun i j => .ok (int (i * j))) (fun x y => .ok (float (x.mul y))) v w

def zeroDivision : Fault := .raised "ZeroDivisionError"

def quotient? (x y : Binary64) : Option (Int × Nat) := do
  let (n, d) ← x.fraction?
  let (n', d') ← y.fraction?
  return (n * d' * n'.sign, d * n'.natAbs)

def divide (v w : Value) : Except Fault Value :=
  numeric
    (fun i j => if j = 0 then .error zeroDivision else .ok (float (Binary64.ofFraction (i * j.sign) j.natAbs)))
    (fun x y =>
      if y.isZero then .error zeroDivision
      else match quotient? x y with
        | some (n, d) => .ok (float (Binary64.ofFraction n d))
        | .none => .error .badValue) v w

def floorDivide (v w : Value) : Except Fault Value :=
  numeric (fun i j => if j = 0 then .error zeroDivision else .ok (int (i.fdiv j)))
    (fun x y =>
      if y.isZero then .error zeroDivision
      else match quotient? x y with
        | some (n, d) => .ok (float (Binary64.ofInt (n.fdiv d)))
        | .none => .error .badValue) v w

def remainder (v w : Value) : Except Fault Value :=
  numeric (fun i j => if j = 0 then .error zeroDivision else .ok (int (i.fmod j)))
    (fun _ _ => .error .badValue) v w

/-- The greatest exponent that a number with a fraction is raised to. Greater ones, and fractions, are refused. -/
def greatestPower : Nat := 2000

def floatPower (x y : Binary64) : Except Fault Value :=
  match x.fraction?, y.fraction? with
  | some (num, _), some (n, d) =>
    let exponent := n / d
    if exponent * d ≠ n || greatestPower < exponent.natAbs then .error .badValue
    else if exponent = 0 then .ok (float (Binary64.ofInt 1))
    else if num = 0 then
      if exponent < 0 then .error zeroDivision else .ok (float (x.power exponent))
    else match x.power exponent with
      | .infinite _ => .error .overflow
      | z => .ok (float z)
  | _, _ => .error .badValue

def power (v w : Value) : Except Fault Value :=
  numeric
    (fun i j =>
      if 0 ≤ j then .ok (int (i.pow j.toNat))
      else if i = 0 then .error zeroDivision
      else .ok (float (Binary64.ofFraction (i.pow j.natAbs).sign (i.pow j.natAbs).natAbs)))
    floatPower v w

def bitAnd (i j : Int) : Int :=
  match i, j with
  | .ofNat m, .ofNat n => ((m &&& n : Nat) : Int)
  | .ofNat m, .negSucc n => ((m - (m &&& n) : Nat) : Int)
  | .negSucc m, .ofNat n => ((n - (n &&& m) : Nat) : Int)
  | .negSucc m, .negSucc n => .negSucc (m ||| n)

def bitOr (i j : Int) : Int := i + j - bitAnd i j

/-- A bitwise operation on integers. On truth values it yields a truth value. -/
def bitwise (op : Int → Int → Int) (v w : Value) : Except Fault Value :=
  match v, w with
  | bool _, bool _ =>
    match v.integer?, w.integer? with
    | some i, some j => .ok (bool (op i j != 0))
    | _, _ => .error .badType
  | _, _ => numeric (fun i j => .ok (int (op i j))) (fun _ _ => .error .badType) v w

def shift (op : Int → Nat → Int) (v w : Value) : Except Fault Value :=
  numeric (fun i j => if j < 0 then .error .badValue else .ok (int (op i j.toNat)))
    (fun _ _ => .error .badType) v w

def binary : BinaryOp → Value → Value → Except Fault Value
  | .add, v, w => add v w
  | .subtract, v, w => subtract v w
  | .multiply, v, w => multiply v w
  | .matrix, _, _ => .error .badType
  | .divide, v, w => divide v w
  | .remainder, v, w => remainder v w
  | .shiftLeft, v, w => shift (fun i n => i * Int.pow 2 n) v w
  | .shiftRight, v, w => shift (fun i n => i.fdiv (Int.pow 2 n)) v w
  | .bitOr, set xs, set ys => .ok (set (distinct (xs ++ ys)))
  | .bitOr, dict xs, dict ys => .ok (dict (dictOf (xs ++ ys)))
  | .bitOr, v, w => bitwise bitOr v w
  | .bitXor, set xs, set ys =>
    .ok (set (xs.filter (fun x => !ys.any (same x)) ++ ys.filter fun y => !xs.any (same y)))
  | .bitXor, v, w => bitwise (fun i j => bitOr i j - bitAnd i j) v w
  | .bitAnd, set xs, set ys => .ok (set (xs.filter fun x => ys.any (same x)))
  | .bitAnd, v, w => bitwise bitAnd v w
  | .floorDivide, v, w => floorDivide v w
  | .power, v, w => power v w

def unary : UnaryOp → Value → Except Fault Value
  | .not, v => .ok (bool !v.truthy)
  | .minus, float x => .ok (float x.negate)
  | .plus, float x => .ok (float x)
  | op, v =>
    match v.integer? with
    | some i => .ok (int (match op with
        | .minus => -i
        | .invert => -i - 1
        | _ => i))
    | .none => .error .badType

/-! ## Comparison -/

def listLess {α : Type} (same : α → α → Bool) (less : α → α → Except Fault Bool) :
    List α → List α → Except Fault Bool
  | [], ys => .ok (!ys.isEmpty)
  | _ :: _, [] => .ok false
  | x :: xs, y :: ys => if same x y then listLess same less xs ys else less x y

/-- The order of values of like types. The fuel bounds the depth of nested sequences. -/
def lessAt : (fuel : Nat) → Value → Value → Except Fault Bool
  | 0, _, _ => .error .endless
  | fuel + 1, v, w =>
    match v, w with
    | str s, str t => listLess (· == ·) (fun c d : Char => .ok (c < d)) s.toList t.toList
    | bytes s, bytes t => listLess (· == ·) (fun c d : Char => .ok (c < d)) s.toList t.toList
    | list xs, list ys => listLess same (lessAt fuel) xs ys
    | tuple xs, tuple ys => listLess same (lessAt fuel) xs ys
    | set xs, set ys => .ok (subset xs ys && !subset ys xs)
    | v, w =>
      match v.integer?, w.integer? with
      | some i, some j => .ok (i < j)
      | _, _ =>
        match v.float?, w.float? with
        | some x, some y => .ok (x.less y)
        | _, _ => .error .badType

def comparisonDepth : Nat := 500

def less (v w : Value) : Except Fault Bool := lessAt comparisonDepth v w

def lessOrSame (v w : Value) : Except Fault Bool :=
  match less v w with
  | .ok below => .ok (below || same v w)
  | .error e => .error e

def insertInOrder (v : Value) : List Value → Except Fault (List Value)
  | [] => .ok [v]
  | w :: rest => do
    if ← less v w then return v :: w :: rest else return w :: (← insertInOrder v rest)

def inOrder : List Value → Except Fault (List Value)
  | vs => vs.foldlM (fun sorted v => insertInOrder v sorted) []

def occursIn (v : Value) : Value → Except Fault Bool
  | str s =>
    match v with
    | str part => .ok (Text.occursIn part.toList s.toList)
    | _ => .error .badType
  | bytes s =>
    match v with
    | bytes part => .ok (Text.occursIn part.toList s.toList)
    | v =>
      match v.integer? with
      | some i => if 0 ≤ i && i < 256 then .ok (s.toList.contains (Char.ofNat i.toNat)) else .error .badValue
      | .none => .error .badType
  | set items => if v.hashable then .ok (items.any (same v)) else .error .badType
  | dict entries => if v.hashable then .ok (entries.any fun entry => same v entry.1) else .error .badType
  | w =>
    match items w with
    | .ok items => .ok (items.any (same v))
    | .error e => .error e

def isSame (v w : Value) : Bool := v.typeName == w.typeName && same v w

def comparison : Comparison → Value → Value → Except Fault Bool
  | .equal, v, w => .ok (same v w)
  | .notEqual, v, w => .ok !same v w
  | .less, v, w => less v w
  | .lessEqual, v, w => lessOrSame v w
  | .greater, v, w => less w v
  | .greaterEqual, v, w => lessOrSame w v
  | .is, v, w => .ok (isSame v w)
  | .isNot, v, w => .ok !isSame v w
  | .isIn, v, w => occursIn v w
  | .notIn, v, w => (occursIn v w).map not

/-! ## Indexing -/

def itemAt {α : Type} (items : List α) (i : Int) : Except Fault α :=
  let i := if i < 0 then items.length + i else i
  match if i < 0 then Option.none else items[i.toNat]? with
  | some item => .ok item
  | .none => .error .badIndex

def positionOf (key : Value) : Except Fault Int :=
  match key.integer? with
  | some i => .ok i
  | .none => .error .badType

def index (container key : Value) : Except Fault Value :=
  match container with
  | dict entries =>
    if !key.hashable then .error .badType
    else match lookup key entries with
      | some v => .ok v
      | .none => .error (.noKey key)
  | str s => do return str (← itemAt s.toList (← positionOf key)).toString
  | bytes s => do return int (← itemAt s.toList (← positionOf key)).toNat
  | list items | tuple items => do itemAt items (← positionOf key)
  | _ => .error .badType

/-- The items between two positions, every `step`-th one, backwards if `step` is negative. -/
def sliceItems {α : Type} (items : List α) (lower upper : Option Int) (step : Int) : List α :=
  let length : Int := items.length
  let least : Int := if step < 0 then -1 else 0
  let most : Int := if step < 0 then length - 1 else length
  let bound := fun (i : Int) => max least (min most (if i < 0 then i + length else i))
  let first := (lower.map bound).getD (if step < 0 then most else least)
  let last := (upper.map bound).getD (if step < 0 then least else most)
  let count := if step < 0 then (first - last + (-step) - 1) / (-step) else (last - first + step - 1) / step
  (List.range count.toNat).filterMap fun (k : Nat) => items[(first + (k : Int) * step).toNat]?

def sliceBound : Option Value → Except Fault (Option Int)
  | .none | some .none => .ok .none
  | some v => do return some (← positionOf v)

def slice (v : Value) (lower upper step : Option Value) : Except Fault Value := do
  let lower ← sliceBound lower
  let upper ← sliceBound upper
  let step := (← sliceBound step).getD 1
  if step = 0 then throw .badValue
  match v with
  | str s => return str (String.ofList (sliceItems s.toList lower upper step))
  | bytes s => return bytes (String.ofList (sliceItems s.toList lower upper step))
  | list items => return list (sliceItems items lower upper step)
  | tuple items => return tuple (sliceItems items lower upper step)
  | _ => throw .badType

def setIndex (container key v : Value) : Except Fault Value :=
  match container with
  | dict entries => if key.hashable then .ok (dict (insert key v entries)) else .error .badType
  | list items => do
    let i ← positionOf key
    let _ ← itemAt items i
    return list (items.set (if i < 0 then items.length + i else i).toNat v)
  | _ => .error .badType

def dropIndex (container key : Value) : Except Fault Value :=
  match container with
  | dict entries => do
    let _ ← index container key
    return dict (entries.filter fun entry => !same key entry.1)
  | list items => do
    let i ← positionOf key
    let _ ← itemAt items i
    return list (items.eraseIdx (if i < 0 then items.length + i else i).toNat)
  | _ => .error .badType

end Value

end LexGen
