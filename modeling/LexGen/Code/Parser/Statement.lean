import LexGen.Code.Parser.Pattern

/-!
# Parsing statements

The grammar of statements and blocks. Blocks are nested to a bounded depth.
-/

namespace LexGen.Code

open Parse

def updates : List (String × BinaryOp) :=
  [("+=", .add), ("-=", .subtract), ("*=", .multiply), ("@=", .matrix), ("/=", .divide), ("%=", .remainder),
   ("&=", .bitAnd), ("|=", .bitOr), ("^=", .bitXor), ("<<=", .shiftLeft), (">>=", .shiftRight),
   ("**=", .power), ("//=", .floorDivide)]

def Expr.isDeletable (e : Expr) : Bool := e.isTarget false

namespace Level

variable (e : Level)

/-! ## Simple statements -/

def assignedValues : Parse (List Expr) := do
  many do
    if ← accept "=" then return some (← e.assigned) else return none

def expressionStatement : Parse Stmt := do
  let opening ← peek
  let first ← e.assigned
  match ← peek with
  | ":" => do
    if !first.isSingleTarget then failure
    expect ":"
    let typeHint ← e.expression
    let value ← if ← accept "=" then some <$> e.assigned else pure none
    let plain := (first matches .name ..) && opening != "("
    return .annotate (first.asTarget .store) typeHint value plain
  | "=" => do
    let values ← e.assignedValues
    match (first :: values).reverse with
    | value :: targets =>
      if targets.all (·.isTarget true) then
        return .assign (targets.reverse.map (·.asTarget .store)) value
      else failure
    | [] => failure
  | _ => do
    match ← oneOf updates with
    | some op =>
      if first.isSingleTarget then return .update (first.asTarget .store) op (← e.assigned) else failure
    | none => return .expr first

def dottedPath : Parse String := do
  return ".".intercalate (← separated "." identifier)

def rename : Parse (Option String) := do
  if ← accept "as" then return some (← identifier) else return none

def importStatement : Parse Stmt := do
  expect "import"
  return .importModules (← separated "," do return ⟨← dottedPath, ← rename⟩)

def importFromStatement : Parse Stmt := do
  expect "from"
  let dots ← many (oneOf [(".", 1), ("...", 3)])
  let level := dots.foldl (· + ·) 0
  let path ← if level > 0 && (← peek) = "import" then pure none else some <$> dottedPath
  expect "import"
  if ← accept "*" then return .importNames path level [⟨"*", none⟩]
  let name : Parse Import := do return ⟨← identifier, ← rename⟩
  if ← accept "(" then
    let (names, _) ← commas name
    expect ")"
    return .importNames path level names
  return .importNames path level (← separated "," name)

def deleteStatement : Parse Stmt := do
  expect "del"
  let (targets, _) ← commas e.primary
  if targets.all Expr.isDeletable then return .delete (targets.map (·.asTarget .delete)) else failure

def raiseStatement : Parse Stmt := do
  expect "raise"
  match ← attempt e.expression with
  | none => return .raise none none
  | some error => do
    if ← accept "from" then return .raise (some error) (some (← e.expression))
    return .raise (some error) none

def simpleStatement : Parse Stmt := do
  match ← peek with
  | "return" => do
    expect "return"
    return .ret (← attempt e.starExpressions)
  | "import" => importStatement
  | "from" => importFromStatement
  | "raise" => e.raiseStatement
  | "pass" => do
    expect "pass"
    return .pass
  | "del" => e.deleteStatement
  | "assert" => do
    expect "assert"
    let test ← e.expression
    if ← accept "," then return .assert test (some (← e.expression))
    return .assert test none
  | "break" => do
    expect "break"
    return .break
  | "continue" => do
    expect "continue"
    return .continue
  | "global" => do
    expect "global"
    return .global (← separated "," identifier)
  | "nonlocal" => do
    expect "nonlocal"
    return .nonlocal (← separated "," identifier)
  | _ => e.expressionStatement

def simpleStatements : Parse (List Stmt) := do
  let first ← e.simpleStatement
  let rest ← many do
    match ← attempt (do expect ";"; e.simpleStatement) with
    | some s => return some s
    | none => return none
  let _ ← accept ";"
  let _ ← takeKind .lineEnd
  return first :: rest

/-! ## Blocks -/

variable (block : Parse (List Stmt))

def suite : Parse (List Stmt) := do
  expect ":"
  block

/-- The statements after `else`, if there are any. -/
def elseSuite : Parse (List Stmt) := do
  if ← accept "else" then suite block else return []

def branches : Parse (List (Expr × List Stmt)) :=
  many do
    if ← accept "elif" then
      let test ← e.namedExpression
      return some (test, ← suite block)
    else return none

def ifStatement : Parse Stmt := do
  expect "if"
  let test ← e.namedExpression
  let body ← suite block
  let more ← branches e block
  let orelse ← elseSuite block
  return .ifThen test body (more.foldr (fun (test, body) orelse => [.ifThen test body orelse]) orelse)

def whileStatement : Parse Stmt := do
  expect "while"
  let test ← e.namedExpression
  let body ← suite block
  return .while test body (← elseSuite block)

def forStatement (awaited : Bool) : Parse Stmt := do
  expect "for"
  let target ← e.starTargets
  expect "in"
  let source ← e.starExpressions
  let body ← suite block
  return .for awaited target source body (← elseSuite block)

def resource : Parse Resource := do
  let value ← e.expression
  if ← accept "as" then
    let target ← e.starTarget
    return ⟨value, some target⟩
  else return ⟨value, none⟩

def parenthesizedResources : Parse (List Resource) := do
  expect "("
  let (resources, _) ← commas e.resource
  expect ")"
  if (← peek) = ":" then return resources else failure

def withStatement (awaited : Bool) : Parse Stmt := do
  expect "with"
  let resources ← e.parenthesizedResources <|> separated "," e.resource
  return .with awaited resources (← suite block)

def handler (groups : Bool) : Parse (Option Handler) := do
  if ← accept "except" then
    let star ← accept "*"
    if star != groups then failure
    if !groups && (← peek) = ":" then return some (.mk none none (← suite block))
    let kind ← e.expression
    let name ← rename
    return some (.mk (some kind) name (← suite block))
  else return none

def tryStatement : Parse Stmt := do
  expect "try"
  let body ← suite block
  let groups := (← peek) = "except" && (← peekSecond) = "*"
  let handlers ← many (handler e block groups)
  let orelse ← if handlers.isEmpty then pure [] else elseSuite block
  let final ← if ← accept "finally" then suite block else pure []
  if handlers.isEmpty && final.isEmpty then failure
  return .try groups body handlers orelse final

/-- A case of a `match` statement. -/
def matchCase (depth : Nat) : Parse (Option Case) := do
  if ← accept "case" then
    let pattern ← e.casePattern depth
    let guard ← if ← accept "if" then some <$> e.namedExpression else pure none
    return some (.mk pattern guard (← suite block))
  else return none

/-- The subject of a `match` statement: a value, or a sequence without brackets. -/
def subject : Parse Expr := do
  match ← commas e.starNamed with
  | ([.starred _], false) => failure
  | items => return tupleOf items

/-- A `match` statement. -/
def matchStatement (depth : Nat) : Parse Stmt := do
  expect "match"
  let subject ← e.subject
  expect ":"
  let _ ← takeKind .lineEnd
  let _ ← takeKind .indent
  let cases ← many (matchCase e block depth)
  let _ ← takeKind .dedent
  if cases.isEmpty then failure else return .match subject cases

/-! ## Definitions -/

def decorators : Parse (List Expr) :=
  many do
    if ← accept "@" then
      let decorator ← e.namedExpression
      let _ ← takeKind .lineEnd
      return some decorator
    else return none

def functionDefinition (awaited : Bool) (decorators : List Expr) (line : Nat) : Parse Stmt := do
  expect "def"
  let name ← identifier
  expect "("
  let params ← e.params ")" true
  let result ← if ← accept "->" then some <$> e.expression else pure none
  let body ← suite block
  return .function awaited name params body decorators result line

def classDefinition (decorators : List Expr) (line : Nat) : Parse Stmt := do
  expect "class"
  let name ← identifier
  let args ← if ← accept "(" then e.argumentsFrom ((← get).length + 1) {} else pure {}
  let body ← suite block
  return .classDef name args.positional.reverse args.named.reverse body decorators line

def definition : Parse Stmt := do
  let line := (← place).line
  let decorators ← e.decorators
  match ← peek with
  | "def" => e.functionDefinition block false decorators line
  | "class" => e.classDefinition block decorators line
  | "async" => do
    expect "async"
    e.functionDefinition block true decorators line
  | _ => failure

/-! ## Statements -/

def asyncStatement : Parse Stmt := do
  match ← peekSecond with
  | "for" => do
    expect "async"
    e.forStatement block true
  | "with" => do
    expect "async"
    e.withStatement block true
  | _ => e.definition block

def statements (depth : Nat) : Parse (List Stmt) := do
  let single : Parse Stmt → Parse (List Stmt) := fun p => do return [← p]
  match ← peek with
  | "if" => single (e.ifStatement block)
  | "while" => single (e.whileStatement block)
  | "for" => single (e.forStatement block false)
  | "with" => single (e.withStatement block false)
  | "try" => single (e.tryStatement block)
  | "def" | "class" | "@" => single (e.definition block)
  | "async" => single (e.asyncStatement block)
  | "match" => single (e.matchStatement block depth) <|> e.simpleStatements
  | _ => e.simpleStatements

def statementsOfDepth : Nat → Parse (List Stmt)
  | 0 => failure
  | depth + 1 =>
    let inner := statementsOfDepth depth
    let block : Parse (List Stmt) := do
      if ← isNext .lineEnd then
        let _ ← take
        let _ ← takeKind .indent
        let body ← many do
          if ← isNext .dedent then return none else return some (← inner)
        let _ ← takeKind .dedent
        if body.isEmpty then failure else return body.flatten
      else e.simpleStatements
    e.statements block depth

def module (depth : Nat) : Parse (List Stmt) := do
  let body ← many do
    if ← isNext .codeEnd then return none else return some (← e.statementsOfDepth depth)
  let _ ← takeKind .codeEnd
  return body.flatten

end Level

/-- Parse code. Nothing if it is not well formed. -/
def parse? (code : Text) : Option (List Stmt) := do
  let tokens ← tokens? code
  let depth := code.length + 2
  let (body, _) ← ((Level.ofDepth depth).module (tokens.length + 2)).run tokens
  return body

end LexGen.Code
