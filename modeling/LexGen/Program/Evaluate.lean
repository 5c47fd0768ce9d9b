import LexGen.Program.Builtins

/-!
# Running expressions

The value of an expression in a scope. Functions are called through `call`. A container is a value as a whole,
so a change of one of its items, or of a bound of a location, is a new value for the place where the container
was found.

Not everything that can be written runs. An expression that yields fails as malformed code, and a call of a function
that yields makes an object that nothing takes items from. A generator expression is the list of its items. Awaiting
a value is having it. A layout of a formatted value may have a fill, an alignment, a width and the forms `d`, `x`
and `f`, and every other layout is refused. What a comprehension binds by `:=` is bound in the comprehension.
-/

namespace LexGen.Program

open Code

/-! ## Parts -/

def readName (scope : Scope) (name : String) : Exec Value := do
  match ← settle ((← memory).lookup scope name) with
  | some v => return v
  | none => if builtinNames.contains name then return .reference (.builtin name) else fail .unbound

def bindName (scope : Scope) (name : String) (v : Value) : Exec Unit :=
  changeFrame (scope.target name) (Bindings.put name v)

def layoutWidth (layout : Text) : Bool × Nat × Text :=
  let digits := layout.takeWhile Char.isDigit
  (digits.head? = some '0', digits.foldl (fun n c => n * 10 + (c.toNat - 48)) 0, layout.drop digits.length)

def aligned (mark fill : Char) (width : Nat) (text : Text) : Text :=
  let gap := width - text.length
  match mark with
  | '<' => text ++ List.replicate gap fill
  | '^' => List.replicate (gap / 2) fill ++ text ++ List.replicate (gap - gap / 2) fill
  | _ => List.replicate gap fill ++ text

def fixedPoint (num : Int) (den places : Nat) : Text :=
  let digits := Text.decimal (Binary64.roundQuotient (num.natAbs * Nat.pow 10 places) den)
  let digits := List.replicate (places + 1 - digits.length) '0' ++ digits
  let whole := digits.take (digits.length - places)
  (if num < 0 then ['-'] else []) ++ whole ++
    (if places = 0 then [] else '.' :: digits.drop (digits.length - places))

def placesIn? (form : Text) : Option Nat :=
  match form with
  | '.' :: rest =>
    if rest.dropWhile Char.isDigit = ['f'] then
      some ((rest.takeWhile Char.isDigit).foldl (fun n c => n * 10 + (c.toNat - 48)) 0)
    else none
  | ['f'] => some 6
  | _ => none

def numberIn (v : Value) (form : Text) : Except Fault Text :=
  match v, form with
  | .int i, [] | .int i, ['d'] => do return (← (Value.int i).shown).toList
  | .int i, ['x'] => .ok ((if i < 0 then ['-'] else []) ++ Nat.toDigits 16 i.natAbs)
  | .float x, [] => .ok x.text
  | v, form =>
    match placesIn? form, v.float?.bind Binary64.fraction? with
    | some places, some (num, den) => .ok (fixedPoint num den places)
    | _, _ => .error .badValue

/-- A value in a layout: an alignment, a width and a letter for the form of numbers. -/
def laidOut (v : Value) (layout : Text) : Except Fault Text := do
  if layout.isEmpty then return (← v.told).toList
  let isMark := fun (c : Char) => c = '<' || c = '>' || c = '^'
  let (mark, fill, layout) := match layout with
    | fill :: mark :: rest => if isMark mark then (some mark, fill, rest)
        else if isMark fill then (some fill, ' ', mark :: rest) else (none, ' ', layout)
    | [mark] => if isMark mark then (some mark, ' ', []) else (none, ' ', layout)
    | [] => (none, ' ', [])
  let (zero, width, form) := layoutWidth layout
  let fill := if zero && mark.isNone then '0' else fill
  match v with
  | .str s =>
    if form.isEmpty || form = ['s'] then return aligned (mark.getD '<') fill width s.toList
    else throw .badValue
  | .int _ | .float _ => return aligned (mark.getD '>') fill width (← numberIn v form)
  | .bool b =>
    return aligned (mark.getD '>') fill width (← numberIn (.int (if b then 1 else 0)) form)
  | _ => throw .badType

def formatted (v : Value) (conversion : Option Char) (layout : Option Value) : Except Fault Text := do
  let v ← match conversion with
    | some 's' => pure (Value.str (← v.told))
    | some _ => pure (Value.str (← v.shown))
    | none => pure v
  match layout with
  | some (.str layout) => laidOut v layout.toList
  | _ => laidOut v []

def textsOf (vs : List Value) : List Text := vs.map fun v => v.plain.toList

def ownNames (params : List Param) (occurrences : List Occurrence) : List String :=
  let elsewhere := Occurrence.declaredFor .global occurrences ++ Occurrence.declaredFor .nonlocal occurrences
  (paramNames params ++ Occurrence.bound true occurrences).filter (!elsewhere.contains ·)

def declaredParams (params : List Param) (fallbacks : List (Option Value)) : List (Parameter × Option Value) :=
  (params.zip fallbacks).map fun (p, v) => (⟨p.name, p.kind, v.isSome⟩, v)

def makeFunction (scope : Scope) (name : String) (params : List Param) (fallbacks : List (Option Value))
    (body : FunctionBody) (occurrences : List Occurrence) (awaited : Bool) (line : Nat) : Exec Value :=
  newFunction
    { name := name
      fullName := scope.path ++ name
      params := declaredParams params fallbacks
      body := body
      call :=
        if Occurrence.yields occurrences then .later (if awaited then "async_generator" else "generator")
        else if awaited then .later "coroutine" else .plain
      own := ownNames params occurrences
      globalNames := Occurrence.declaredFor .global occurrences
      outerNames := Occurrence.declaredFor .nonlocal occurrences
      globals := scope.globals
      outer := scope.around
      line := line }

def collect (kind : Comprehension) (found : List (Value × Value)) : Except Fault Value :=
  match kind with
  | .list | .generator => .ok (.list (found.map (·.2)))
  | .set => Value.setOf (found.map (·.2))
  | .dict =>
    if Value.allHashable (found.map (·.1)) then .ok (.dict (Value.dictOf found)) else .error .badType

def comprehensionScope (scope : Scope) (names : List String) : Exec Scope := do
  let frame ← newFrame []
  return { scope with
    frame := frame
    isFunction := true
    own := names
    outer := scope.around
    outerNames := []
    path := scope.path ++ "<listcomp>.<locals>." }

def namedIn : Value → Except Fault Named
  | .dict entries => entries.mapM fun
    | (.str name, v) => .ok (name, v)
    | _ => .error .badType
  | _ => .error .badType

/-- More arguments by name. None may be given twice. -/
def joinNamed (named others : Named) : Except Fault Named :=
  if others.any fun (name, _) => (named.lookup name).isSome then .error .badType else .ok (named ++ others)

/-- Change a bound of a location. If it is the location of the scanner, that changes too. -/
def moveBound (l : Location) (name : String) (v : Value) : Exec Location := do
  let moved ← settle (setLocation l name v)
  modify fun s => if s.loc = l then { s with loc := moved } else s
  return moved

def isStarred : Expr → Bool
  | .starred _ => true
  | _ => false

/-! ## Expressions -/

mutual

def evaluate (call : Call) (scope : Scope) : Expr → Exec Value
  | .name id _ _ => readName scope id
  | .constant c => return c.value
  | .joined pieces => do return Value.ofText (textsOf (← evaluateAll call scope pieces)).flatten
  | .formatted e conversion layout => do
    let v ← evaluate call scope e
    let layout ← evaluateOptional call scope layout
    return Value.ofText (← settle (formatted v conversion layout))
  | .attribute e name => do readAttribute (← evaluate call scope e) name
  | .subscript e (.slice lower upper step) => do
    let v ← evaluate call scope e
    let lower ← evaluateOptional call scope lower
    let upper ← evaluateOptional call scope upper
    let step ← evaluateOptional call scope step
    settle (v.slice lower upper step)
  | .subscript e index => do
    let v ← evaluate call scope e
    settle (v.index (← evaluate call scope index))
  | .slice .. => fail .badType
  | .call (.attribute e name) args keywords => do
    let v ← evaluate call scope e
    let function ← readAttribute v name
    let args ← evaluateAll call scope args
    let named ← evaluateKeywords call scope [] keywords
    match Value.method? v name args with
    | some result => do
      if !named.isEmpty then fail .badType
      let (result, after) ← settle result
      match v with
      | .list _ | .dict _ | .set _ => update call scope e after
      | _ => pure ()
      return result
    | none => call function args named
  | .call e args keywords => do
    let function ← evaluate call scope e
    let args ← evaluateAll call scope args
    let named ← evaluateKeywords call scope [] keywords
    call function args named
  | .starred _ => fail .malformedCode
  | .unary op e => do settle (Value.unary op (← evaluate call scope e))
  | .binary op left right => do
    let v ← evaluate call scope left
    let w ← evaluate call scope right
    settle (Value.binary op v w)
  | .boolean conjunction operands => evaluateBoolean call scope conjunction operands
  | .compare left ops operands => do
    let v ← evaluate call scope left
    compareChain call scope v ops operands
  | .choice test yes no => do
    let v ← evaluate call scope test
    if v.truthy then evaluate call scope yes else evaluate call scope no
  | .lambda params body line => do
    let fallbacks ← evaluateFallbacks call scope params
    makeFunction scope unnamedFunction params fallbacks (.value body) body.occurrences false line
  | .tuple items => do return .tuple (← evaluateAll call scope items)
  | .list items => do return .list (← evaluateAll call scope items)
  | .set items => do settle (Value.setOf (← evaluateAll call scope items))
  | .dict entries => do
    let found ← evaluateEntries call scope entries
    settle (collect .dict found)
  | .comprehension kind key element clauses => do
    let first ← firstSource call scope clauses
    let inner ← comprehensionScope scope (clauseNames clauses)
    let produce : Exec (List (Value × Value)) := do
      let key ← evaluateOptional call inner key
      let v ← evaluate call inner element
      return [(key.getD .none, v)]
    let found ← evaluateClauses call inner produce (some first) clauses
    settle (collect kind found)
  | .bind target e => do
    let v ← evaluate call scope e
    assign call scope target v
    return v
  | .await e => evaluate call scope e
  | .yield _ => fail .malformedCode
  | .yieldFrom _ => fail .malformedCode

/-- The values of expressions. A starred one stands for its items. -/
def evaluateAll (call : Call) (scope : Scope) : List Expr → Exec (List Value)
  | [] => return []
  | .starred e :: es => do
    let v ← evaluate call scope e
    let items ← settle v.items
    return items ++ (← evaluateAll call scope es)
  | e :: es => do
    let v ← evaluate call scope e
    return v :: (← evaluateAll call scope es)

def evaluateOptional (call : Call) (scope : Scope) : Option Expr → Exec (Option Value)
  | none => return none
  | some e => do return some (← evaluate call scope e)

def evaluateKeywords (call : Call) (scope : Scope) (named : Named) : List Keyword → Exec Named
  | [] => return named
  | .mk (some name) e :: keywords => do
    let v ← evaluate call scope e
    evaluateKeywords call scope (← settle (joinNamed named [(name, v)])) keywords
  | .mk none e :: keywords => do
    let v ← evaluate call scope e
    let others ← settle (namedIn v)
    evaluateKeywords call scope (← settle (joinNamed named others)) keywords

def evaluateBoolean (call : Call) (scope : Scope) (conjunction : Bool) : List Expr → Exec Value
  | [] => return .bool conjunction
  | [e] => evaluate call scope e
  | e :: es => do
    let v ← evaluate call scope e
    if v.truthy = conjunction then evaluateBoolean call scope conjunction es else return v

def compareChain (call : Call) (scope : Scope) (left : Value) (ops : List Comparison) :
    List Expr → Exec Value
  | [] => return .bool true
  | e :: es => do
    let v ← evaluate call scope e
    let holds ← settle (Value.comparison (ops.headD .equal) left v)
    if holds then compareChain call scope v ops.tail es else return .bool false

def evaluateFallbacks (call : Call) (scope : Scope) : List Param → Exec (List (Option Value))
  | [] => return []
  | .mk _ _ _ fallback :: params => do
    let v ← evaluateOptional call scope fallback
    return v :: (← evaluateFallbacks call scope params)

def evaluateEntries (call : Call) (scope : Scope) : List Entry → Exec (List (Value × Value))
  | [] => return []
  | .pair key e :: entries => do
    let key ← evaluate call scope key
    let v ← evaluate call scope e
    return (key, v) :: (← evaluateEntries call scope entries)
  | .spread e :: entries => do
    match ← evaluate call scope e with
    | .dict others => return others ++ (← evaluateEntries call scope entries)
    | _ => fail .badType

def firstSource (call : Call) (scope : Scope) : List Clause → Exec (List Value)
  | [] => return []
  | .mk _ _ source _ :: _ => do
    let v ← evaluate call scope source
    settle v.items

def evaluateClauses (call : Call) (scope : Scope) (produce : Exec (List (Value × Value)))
    (first : Option (List Value)) : List Clause → Exec (List (Value × Value))
  | [] => produce
  | .mk _ target source conditions :: clauses => do
    let items ← match first with
      | some items => pure items
      | none => do
        let v ← evaluate call scope source
        settle v.items
    let found ← items.mapM fun item => do
      assign call scope target item
      if ← allHold call scope conditions then evaluateClauses call scope produce none clauses
      else return []
    return found.flatten

def allHold (call : Call) (scope : Scope) : List Expr → Exec Bool
  | [] => return true
  | e :: es => do
    let v ← evaluate call scope e
    if v.truthy then allHold call scope es else return false

def assign (call : Call) (scope : Scope) : Expr → Value → Exec Unit
  | .name id _ _, v => bindName scope id v
  | .attribute e name, v => do
    match ← evaluate call scope e with
    | .location l => do
      let l ← moveBound l name v
      update call scope e (.location l)
    | w => setAttribute w name v
  | .subscript e index, v => do
    let container ← evaluate call scope e
    let key ← evaluate call scope index
    let after ← settle (container.setIndex key v)
    update call scope e after
  | .tuple targets, v => do
    let items ← settle v.items
    assignAll call scope targets items
  | .list targets, v => do
    let items ← settle v.items
    assignAll call scope targets items
  | .starred e, v => assign call scope e v
  | _, _ => fail .malformedCode

/-- Assign values to as many targets. A starred target takes what the others leave. -/
def assignAll (call : Call) (scope : Scope) : List Expr → List Value → Exec Unit
  | [], [] => return ()
  | [], _ :: _ => fail .badValue
  | .starred e :: targets, vs => do
    if vs.length < targets.length then fail .badValue
    let count := vs.length - targets.length
    assign call scope e (.list (vs.take count))
    assignAll call scope targets (vs.drop count)
  | target :: targets, v :: vs => do
    if !(targets.any isStarred) && targets.length != vs.length then fail .badValue
    assign call scope target v
    assignAll call scope targets vs
  | _ :: _, [] => fail .badValue

def update (call : Call) (scope : Scope) : Expr → Value → Exec Unit
  | .name id _ _, v => do
    let m ← memory
    changeFrame (scope.source m id) (Bindings.put id v)
  | .attribute e name, v => do
    let w ← evaluate call scope e
    setAttribute w name v
  | .subscript e index, v => do
    let container ← evaluate call scope e
    let key ← evaluate call scope index
    let after ← settle (container.setIndex key v)
    update call scope e after
  | _, _ => return ()

end

end LexGen.Program
