import LexGen.Code.Literal
import LexGen.Code.Parser.Basic

/-!
# Parsing expressions

The grammar of expressions. Parsers for parts of an expression are given by a `Level`; each level of nesting
is built on the level inside it, so the depth of an expression is bounded by the number of levels.
-/

namespace LexGen.Code

open Parse

/-- The parsers that an expression needs for its parts. -/
structure Level where
  expression : Parse Expr
  disjunction : Parse Expr
  inversion : Parse Expr
  bitwiseOr : Parse Expr
  factor : Parse Expr
  primary : Parse Expr

/-! ## Targets -/

/-- Whether an expression can be assigned to. `stars` tells whether starred parts are allowed. -/
def Expr.isTarget (stars : Bool) : Expr → Bool
  | .name .. => true
  | .attribute .. => true
  | .subscript .. => true
  | .starred value => stars && !(value matches .starred _) && value.isTarget stars
  | .tuple items => areTargets stars items
  | .list items => areTargets stars items
  | _ => false
where
  areTargets (stars : Bool) : List Expr → Bool
    | [] => true
    | item :: items => item.isTarget stars && areTargets stars items

def Expr.isSingleTarget : Expr → Bool
  | .name .. => true
  | .attribute .. => true
  | .subscript .. => true
  | _ => false

def Expr.asTarget (usage : Usage) : Expr → Expr
  | .name id _ place => .name id usage place
  | .starred value => .starred (value.asTarget usage)
  | .tuple items => .tuple (asTargets usage items)
  | .list items => .list (asTargets usage items)
  | e => e
where
  asTargets (usage : Usage) : List Expr → List Expr
    | [] => []
    | item :: items => item.asTarget usage :: asTargets usage items

def tupleOf (items : List Expr × Bool) : Expr :=
  match items with
  | ([item], false) => item
  | (items, _) => .tuple items

namespace Level

variable (e : Level)

def starTarget : Parse Expr := do
  let starred ← accept "*"
  let target ← e.primary
  if !target.isTarget true then failure
  let target := target.asTarget .store
  return if starred then .starred target else target

def starTargets : Parse Expr := tupleOf <$> commas e.starTarget

/-! ## Combined expressions -/

def namedExpression : Parse Expr := do
  if (← isIdentifierNext) && (← peekSecond) = ":=" then
    let place ← place
    let name ← identifier
    expect ":="
    return .bind (.name name .store place) (← e.expression)
  else
    let value ← e.expression
    if (← peek) = ":=" then failure
    return value

def starNamed : Parse Expr := do
  if ← accept "*" then return .starred (← e.bitwiseOr) else e.namedExpression

def starExpression : Parse Expr := do
  if ← accept "*" then return .starred (← e.bitwiseOr) else e.expression

def starExpressions : Parse Expr := tupleOf <$> commas e.starExpression

def yieldExpression : Parse Expr := do
  expect "yield"
  if ← accept "from" then return .yieldFrom (← e.expression)
  return .yield (← attempt e.starExpressions)

def assigned : Parse Expr := do
  if (← peek) = "yield" then e.yieldExpression else e.starExpressions

/-! ## Comprehensions -/

def isClauseNext : Parse Bool := do
  let first ← peek
  let second ← peekSecond
  return first = "for" || (first = "async" && second = "for")

def clause : Parse (Option Clause) := do
  if ← isClauseNext then
    let awaited ← accept "async"
    expect "for"
    let target ← e.starTargets
    expect "in"
    let source ← e.disjunction
    let conditions ← many do
      if ← accept "if" then return some (← e.disjunction) else return none
    return some (.mk awaited target source conditions)
  else return none

def clauses : Parse (List Clause) := do
  let clauses ← many e.clause
  if clauses.isEmpty then failure else return clauses

/-! ## Calls and subscripts -/

/-- The arguments of a call as they are read: positional ones and those with a name, in reverse. -/
structure Arguments where
  positional : List Expr := []
  named : List Keyword := []
  hasKeyword : Bool := false
  hasMapping : Bool := false

def argument (args : Arguments) : Parse Arguments := do
  if ← accept "*" then
    if args.hasMapping then failure
    return { args with positional := .starred (← e.expression) :: args.positional }
  if ← accept "**" then
    return { args with named := .mk none (← e.expression) :: args.named, hasMapping := true }
  if (← isIdentifierNext) && (← peekSecond) = "=" then
    let name ← identifier
    expect "="
    return { args with named := .mk (some name) (← e.expression) :: args.named, hasKeyword := true }
  if args.hasKeyword || args.hasMapping then failure
  return { args with positional := (← e.namedExpression) :: args.positional }

def argumentsFrom : (fuel : Nat) → Arguments → Parse Arguments
  | 0, _ => failure
  | fuel + 1, args => do
    if ← accept ")" then return args
    let args ← e.argument args
    if ← accept "," then argumentsFrom fuel args
    else
      expect ")"
      return args

def callArguments : Parse (List Expr × List Keyword) := do
  if ← accept ")" then return ([], [])
  let first ← e.argument {}
  if let [element] := first.positional then
    if !(element matches .starred _) && (← isClauseNext) then
      let clauses ← e.clauses
      expect ")"
      return ([.comprehension .generator none element clauses], [])
  if ← accept "," then
    let args ← e.argumentsFrom ((← get).length + 1) first
    return (args.positional.reverse, args.named.reverse)
  expect ")"
  return (first.positional.reverse, first.named.reverse)

def sliceItem : Parse Expr := do
  if ← accept "*" then return .starred (← e.expression)
  if (← isIdentifierNext) && (← peekSecond) = ":=" then e.namedExpression
  else
    let lower ← if (← peek) = ":" then pure none else some <$> e.expression
    if ← accept ":" then
      let upper ← attempt e.expression
      let step ← if ← accept ":" then attempt e.expression else pure none
      return .slice lower upper step
    else match lower with
      | some index => return index
      | none => failure

def slices : Parse Expr := do
  match ← commas e.sliceItem with
  | ([.starred value], false) => return .tuple [.starred value]
  | items => return tupleOf items

/-! ## Literals -/

/-- The tokens of the code of a field. Their places are those in the code around, as far as they are on the
first line of the field. -/
def fieldTokens (token : Token) (code : Text) (lines column : Nat) : Option (List Token) := do
  let tokens ← tokens? ('(' :: code ++ [')'])
  let start := if lines = 0 then token.place.column + column else column
  let before := token.place.line + lines - 1
  return tokens.map fun t =>
    { t with
      place := ⟨t.place.line + before, if t.lastLine = 1 then t.place.column + start else t.place.column⟩
      lastLine := t.lastLine + before }

def joinPieces : Text → List (Text ⊕ Expr) → List Expr
  | text, [] => constant text
  | text, .inl more :: pieces => joinPieces (text ++ more) pieces
  | text, .inr value :: pieces => constant text ++ value :: joinPieces [] pieces
where
  constant (text : Text) : List Expr :=
    if text.isEmpty then [] else [.constant (.str text false)]

mutual

def pieceExpr (token : Token) : Piece → Option (Text ⊕ Expr)
  | .text t => some (.inl t)
  | .field code lines column conversion none => do
    let (value, _) ← e.expression.run (← fieldTokens token code lines column)
    return .inr (.formatted value conversion none)
  | .field code lines column conversion (some layout) => do
    let (value, _) ← e.expression.run (← fieldTokens token code lines column)
    let layout ← pieceExprs token layout
    return .inr (.formatted value conversion (some (.joined (joinPieces [] layout))))

def pieceExprs (token : Token) : List Piece → Option (List (Text ⊕ Expr))
  | [] => some []
  | piece :: pieces => do
    let first ← pieceExpr token piece
    let rest ← pieceExprs token pieces
    return first :: rest

end

/-- One or more string literals in a row. Byte strings and texts do not mix. -/
def strings : Parse Expr := do
  let tokens ← many do
    if ← isNext .literal then return some (← take) else return none
  let parts := tokens.map fun t => (t, StringToken.ofText t.text.toList)
  let ofBytes := parts.any (·.2.isBytes)
  if parts.isEmpty || (ofBytes && !parts.all (·.2.isBytes)) then failure
  let pieces ← (parts.mapM fun (token, part) =>
    if part.isFormatted then do e.pieceExprs token (← part.pieces?)
    else do return [.inl (← part.value?)] : Option _)
  let joined := joinPieces [] pieces.flatten
  if parts.any (·.2.isFormatted) then return .joined joined
  let text := match joined with
    | [.constant (.str text _)] => text
    | _ => []
  return .constant (if ofBytes then .bytes text else .str text (parts.head?.any (·.2.isMarked)))

/-! ## Atoms -/

def parenthesized : Parse Expr := do
  if ← accept ")" then return .tuple []
  if (← peek) = "yield" then
    let value ← e.yieldExpression
    expect ")"
    return value
  let first ← e.starNamed
  let starred := first matches .starred _
  if !starred && (← isClauseNext) then
    let clauses ← e.clauses
    expect ")"
    return .comprehension .generator none first clauses
  if ← accept "," then
    if ← accept ")" then return .tuple [first]
    let (rest, _) ← commas e.starNamed
    expect ")"
    return .tuple (first :: rest)
  expect ")"
  if starred then failure else return first

def bracketed : Parse Expr := do
  if ← accept "]" then return .list []
  let first ← e.starNamed
  if !(first matches .starred _) && (← isClauseNext) then
    let clauses ← e.clauses
    expect "]"
    return .comprehension .list none first clauses
  let rest ← many do
    match ← attempt (do expect ","; e.starNamed) with
    | some item => return some item
    | none => return none
  let _ ← accept ","
  expect "]"
  return .list (first :: rest)

def entry : Parse Entry := do
  if ← accept "**" then return .spread (← e.bitwiseOr)
  let key ← e.expression
  expect ":"
  return .pair key (← e.expression)

def moreEntries (first : Entry) : Parse Expr := do
  let rest ← many do
    match ← attempt (do expect ","; e.entry) with
    | some item => return some item
    | none => return none
  let _ ← accept ","
  expect "\x7d"
  return .dict (first :: rest)

def moreItems (first : Expr) : Parse Expr := do
  let rest ← many do
    match ← attempt (do expect ","; e.starNamed) with
    | some item => return some item
    | none => return none
  let _ ← accept ","
  expect "\x7d"
  return .set (first :: rest)

/-- What stands between braces, after the opening one: a mapping, a set, or a comprehension of one of them. -/
def braced : Parse Expr := do
  if ← accept "\x7d" then return .dict []
  if (← peek) = "**" then return ← e.moreEntries (← e.entry)
  let binds := (← isIdentifierNext) && (← peekSecond) = ":="
  let first ← e.starNamed
  let starred := first matches .starred _
  if !starred && !binds && (← peek) = ":" then
    expect ":"
    let value ← e.expression
    if ← isClauseNext then
      let clauses ← e.clauses
      expect "\x7d"
      return .comprehension .dict (some first) value clauses
    return ← e.moreEntries (.pair first value)
  if !starred && (← isClauseNext) then
    let clauses ← e.clauses
    expect "\x7d"
    return .comprehension .set none first clauses
  e.moreItems first

def atom : Parse Expr := do
  if ← isIdentifierNext then
    let place ← place
    return .name (← identifier) .load place
  if ← isNext .literal then return ← e.strings
  if ← isNext .number then
    match numberValue? (← take).text.toList with
    | some value => return .constant value
    | none => failure
  match ← peek with
  | "None" => do
    let _ ← take
    return .constant .none
  | "True" => do
    let _ ← take
    return .constant (.bool true)
  | "False" => do
    let _ ← take
    return .constant (.bool false)
  | "..." => do
    let _ ← take
    return .constant .ellipsis
  | "(" => do
    let _ ← take
    e.parenthesized
  | "[" => do
    let _ ← take
    e.bracketed
  | "\x7b" => do
    let _ ← take
    e.braced
  | _ => failure

/-! ## Operators -/

def trailer : Parse (Option (Expr → Expr)) := do
  match ← peek with
  | "." => do
    let _ ← take
    let name ← identifier
    return some fun value => .attribute value name
  | "[" => do
    let _ ← take
    let index ← e.slices
    expect "]"
    return some fun value => .subscript value index
  | "(" => do
    let _ ← take
    let (args, keywords) ← e.callArguments
    return some fun value => .call value args keywords
  | _ => return none

def primaryExpression : Parse Expr := do
  let first ← e.atom
  let trailers ← many e.trailer
  return trailers.foldl (fun value trailer => trailer value) first

def powerExpression : Parse Expr := do
  let awaited ← accept "await"
  let base ← e.primaryExpression
  let base := if awaited then .await base else base
  if ← accept "**" then return .binary .power base (← e.factor)
  return base

def factorExpression : Parse Expr := do
  match ← oneOf [("+", UnaryOp.plus), ("-", .minus), ("~", .invert)] with
  | some op => return .unary op (← e.factor)
  | none => e.powerExpression

def arithmetic : List (List (String × BinaryOp)) :=
  [[("*", .multiply), ("/", .divide), ("//", .floorDivide), ("%", .remainder), ("@", .matrix)],
   [("+", .add), ("-", .subtract)],
   [("<<", .shiftLeft), (">>", .shiftRight)],
   [("&", .bitAnd)], [("^", .bitXor)], [("|", .bitOr)]]

def bitwiseOrExpression : Parse Expr :=
  arithmetic.foldl (fun operand table => chain (oneOf table) Expr.binary operand) e.factorExpression

def comparison : Parse (Option Comparison) := do
  match ← oneOf [("==", Comparison.equal), ("!=", .notEqual), ("<=", .lessEqual), ("<", .less),
      (">=", .greaterEqual), (">", .greater), ("in", .isIn)] with
  | some op => return some op
  | none =>
    if (← peek) = "not" && (← peekSecond) = "in" then
      let _ ← take
      let _ ← take
      return some .notIn
    if ← accept "is" then
      if ← accept "not" then return some .isNot else return some .is
    return none

def comparisonExpression : Parse Expr := do
  let first ← e.bitwiseOrExpression
  let rest ← many do
    match ← comparison with
    | some op => return some (op, ← e.bitwiseOrExpression)
    | none => return none
  if rest.isEmpty then return first
  return .compare first (rest.map (·.1)) (rest.map (·.2))

def inversionExpression : Parse Expr := do
  if ← accept "not" then return .unary .not (← e.inversion) else e.comparisonExpression

def joinedBy (word : String) (conjunction : Bool) (operand : Parse Expr) : Parse Expr := do
  match ← separated word operand with
  | [single] => return single
  | operands => return .boolean conjunction operands

/-- Operands joined by `or` of operands joined by `and`. -/
def disjunctionExpression : Parse Expr :=
  joinedBy "or" false (joinedBy "and" true e.inversionExpression)

/-! ## Parameters -/

/-- The parameters that have been read, in reverse, and what may follow. -/
structure ParamsRead where
  params : List Param := []
  hasSlash : Bool := false
  hasStar : Bool := false
  needsName : Bool := false
  hasFallback : Bool := false
  isDone : Bool := false

def hint? (hints starred : Bool) : Parse (Option Expr) := do
  if hints && (← peek) = ":" then
    let _ ← take
    if starred then return some (← e.starExpression) else return some (← e.expression)
  else return none

def param (hints : Bool) (r : ParamsRead) : Parse ParamsRead := do
  if r.isDone then failure
  if ← accept "/" then
    if r.params.isEmpty || r.hasSlash || r.hasStar then failure
    let params := r.params.map fun
      | .mk _ name typeHint fallback => Param.mk .positionalOnly name typeHint fallback
    return { r with params := params, hasSlash := true }
  if ← accept "*" then
    if r.hasStar then failure
    if (← peek) = "," then return { r with hasStar := true, needsName := true }
    let name ← identifier
    let typeHint ← e.hint? hints true
    return { r with params := .mk .positionals name typeHint none :: r.params, hasStar := true }
  if ← accept "**" then
    if r.needsName then failure
    let name ← identifier
    let typeHint ← e.hint? hints false
    return { r with params := .mk .keywords name typeHint none :: r.params, isDone := true }
  let name ← identifier
  let typeHint ← e.hint? hints false
  let fallback ← if ← accept "=" then some <$> e.expression else pure none
  if r.hasStar then
    return { r with params := .mk .keywordOnly name typeHint fallback :: r.params, needsName := false }
  if r.hasFallback && fallback.isNone then failure
  return { r with
    params := .mk .positionalOrKeyword name typeHint fallback :: r.params
    hasFallback := fallback.isSome }

def paramsFrom (closing : String) (hints : Bool) : (fuel : Nat) → ParamsRead → Parse (List Param)
  | 0, _ => failure
  | fuel + 1, r => do
    if ← accept closing then
      if r.needsName then failure
      return r.params.reverse
    let r ← e.param hints r
    if ← accept "," then paramsFrom closing hints fuel r
    else
      expect closing
      if r.needsName then failure
      return r.params.reverse

def params (closing : String) (hints : Bool) : Parse (List Param) := do
  e.paramsFrom closing hints ((← get).length + 1) {}

/-! ## Expressions -/

def lambdaExpression : Parse Expr := do
  let place ← place
  expect "lambda"
  let params ← e.params ":" false
  return .lambda params (← e.expression) place.line

def fullExpression : Parse Expr := do
  if (← peek) = "lambda" then e.lambdaExpression
  else
    let value ← e.disjunctionExpression
    if (← peek) = "if" then
      let choice ← attempt do
        expect "if"
        let test ← e.disjunctionExpression
        expect "else"
        return Expr.choice test value (← e.expression)
      return choice.getD value
    else return value

def around : Level where
  expression := e.fullExpression
  disjunction := e.disjunctionExpression
  inversion := e.inversionExpression
  bitwiseOr := e.bitwiseOrExpression
  factor := e.factorExpression
  primary := e.primaryExpression

def void : Level := ⟨failure, failure, failure, failure, failure, failure⟩

def ofDepth : Nat → Level
  | 0 => void
  | depth + 1 => (ofDepth depth).around

end Level

end LexGen.Code
