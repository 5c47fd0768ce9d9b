import LexGen.Code.Tree
import LexGen.Text.Lines
import LexGen.Text.Quoted

/-!
# Printing code

Code as text in a uniform layout. Parentheses stand only where precedence needs them, and every statement
begins a line. The code inside a field of a literal cannot hold backslashes; code that would need one there
cannot be printed.
-/

namespace LexGen.Code

/-! ## Precedence -/

abbrev Precedence := Nat

namespace Precedence

def binding : Precedence := 1
def tuple : Precedence := 2
def yielding : Precedence := 3
/-- A choice or a function without a name; the precedence of a part where nothing else is demanded. -/
def test : Precedence := 4
def disjunction : Precedence := 5
def conjunction : Precedence := 6
def negation : Precedence := 7
def comparison : Precedence := 8
def operand : Precedence := 9
def factor : Precedence := 15
def power : Precedence := 16
def awaited : Precedence := 17
def atom : Precedence := 18

def next (p : Precedence) : Precedence := min (p + 1) atom

end Precedence

def UnaryOp.symbol : UnaryOp → Text × Precedence
  | invert => (['~'], Precedence.factor)
  | not => ("not ".toList, Precedence.negation)
  | plus => (['+'], Precedence.factor)
  | minus => (['-'], Precedence.factor)

def BinaryOp.symbol : BinaryOp → Text × Precedence
  | add => (['+'], 13)
  | subtract => (['-'], 13)
  | multiply => (['*'], 14)
  | matrix => (['@'], 14)
  | divide => (['/'], 14)
  | remainder => (['%'], 14)
  | shiftLeft => (['<', '<'], 12)
  | shiftRight => (['>', '>'], 12)
  | bitOr => (['|'], 9)
  | bitXor => (['^'], 10)
  | bitAnd => (['&'], 11)
  | floorDivide => (['/', '/'], 14)
  | power => (['*', '*'], 16)

def Comparison.symbol : Comparison → Text
  | equal => ['=', '=']
  | notEqual => ['!', '=']
  | less => ['<']
  | lessEqual => ['<', '=']
  | greater => ['>']
  | greaterEqual => ['>', '=']
  | is => "is".toList
  | isNot => "is not".toList
  | isIn => "in".toList
  | notIn => "not in".toList

/-! ## Literals -/

def floatText (x : Binary64) : Text :=
  match x with
  | .infinite negative => (if negative then ['-'] else []) ++ "1e309".toList
  | x => x.text

/-- An imaginary number. A whole one has no point. -/
def imaginaryText (x : Binary64) : Text :=
  let text := floatText x
  (if Text.startsWith ['0', '.'] text.reverse then text.take (text.length - 2) else text) ++ ['j']

def allMarks : List Text := [['\''], ['"'], ['"', '"', '"'], ['\'', '\'', '\'']]

def longMarks : List Text := [['"', '"', '"'], ['\'', '\'', '\'']]

/-- A character of a literal. Line feeds and tabs are escaped only if `feeds` is set. -/
def literalChar (feeds : Bool) (c : Char) : Text :=
  if !feeds && (c = '\n' || c = '\t') then [c]
  else match Text.shortEscape? c with
    | some letter => ['\\', letter]
    | none => if Unicode.isPrintable c then [c] else Text.hexEscape c

/-- The body of a literal and the quotation marks it can stand between, of the given ones. If none is left,
everything is escaped. -/
def literalBody (marks : List Text) (feeds : Bool) (text : Text) : Text × List Text :=
  let escaped := text.flatMap (literalChar feeds)
  let marks' := if escaped.contains '\n' then marks.filter longMarks.contains else marks
  let marks' := marks'.filter fun mark => !Text.occursIn mark escaped
  match escaped.getLast? with
  | none => if marks'.isEmpty then fallback marks text else (escaped, marks')
  | some last =>
    let clash := fun (mark : Text) => mark.head? = some last
    match marks'.filter (!clash ·) ++ marks'.filter clash with
    | [] => fallback marks text
    | mark :: others =>
      if clash mark then (escaped.dropLast ++ ['\\', last], mark :: others) else (escaped, mark :: others)
where
  fallback (marks : List Text) (text : Text) : Text × List Text :=
    let literal := Text.quoted text
    let opening := literal.headD '\''
    ((literal.drop 1).dropLast, [(marks.find? (·.contains opening)).getD [opening]])

def plainLiteral (marks : List Text) (text : Text) : Text :=
  let (body, marks) := literalBody marks false text
  let mark := marks.headD ['\'']
  mark ++ body ++ mark

def fieldBodies : (marks : List Text) → List (Text × Bool) → Option (List Text × List Text)
  | marks, [] => some ([], marks)
  | marks, (text, isText) :: parts => do
    let (body, next) := literalBody marks isText text
    if next.all (!marks.contains ·) then none
    let (bodies, last) ← fieldBodies next parts
    return (body :: bodies, last)

/-- A literal with fields. Its parts are texts, or fields that have been printed. -/
def fieldLiteral (parts : List (Text × Bool)) : Text :=
  match fieldBodies allMarks parts with
  | some (bodies, marks) =>
    let mark := marks.headD ['\'']
    mark ++ bodies.flatten ++ mark
  | none =>
    let mark := ['\'', '\'', '\'']
    let body := parts.flatMap fun (text, _) => ((Text.quoted ('"' :: text)).drop 2).dropLast
    mark ++ body ++ mark

/-- A literal value. `avoid` tells to avoid backslashes. -/
def Constant.print (avoid : Bool) : Constant → Text
  | none => "None".toList
  | bool b => (if b then "True" else "False").toList
  | int n => Text.decimal n
  | float x => floatText x
  | imaginary x => imaginaryText x
  | str text marked =>
    (if marked then ['u'] else []) ++ if avoid then plainLiteral allMarks text else Text.quoted text
  | bytes text => Text.quotedBytes text
  | ellipsis => "...".toList

def doubledBraces (text : Text) : Text :=
  text.flatMap fun c => if c = '\x7b' || c = '\x7d' then [c, c] else [c]

/-! ## Expressions -/

/-- Put an expression of precedence `own` where precedence `p` is demanded. -/
def enclosed (own p : Precedence) (text : Text) : Text :=
  if own < p then '(' :: text ++ [')'] else text

def commaList (texts : List Text) : Text := Text.join [',', ' '] texts

def itemList (texts : List Text) : Text :=
  match texts with
  | [text] => text ++ [',']
  | texts => commaList texts

def paramList (params : List (ParameterKind × Text)) : Text :=
  let ofKind := fun kind => (params.filter (·.1 = kind)).map (·.2)
  let only := ofKind .positionalOnly
  let rest := ofKind .positionals
  let named := ofKind .keywordOnly
  commaList (only ++ (if only.isEmpty then [] else [['/']]) ++ ofKind .positionalOrKeyword ++
    (match rest with
      | text :: _ => ['*' :: text]
      | [] => if named.isEmpty then [] else [['*']]) ++
    named ++ (ofKind .keywords).map (['*', '*'] ++ ·))

/-- A field of a literal, from the code inside and its layout. The code must have no backslashes. -/
def fieldText (code : Text) (conversion : Option Char) (layout : Text) : Option Text :=
  let gap := if code.head? = some '\x7b' then [' '] else []
  let conversion := match conversion with
    | some c => ['!', c]
    | none => []
  if code.contains '\\' then none
  else some ('\x7b' :: gap ++ code ++ conversion ++ layout ++ ['\x7d'])

mutual

/-- Print an expression where a precedence is demanded. `avoid` tells to avoid backslashes. -/
def Expr.print (avoid : Bool) (p : Precedence) : Expr → Option Text
  | .name id _ _ => some id.toList
  | .constant c => some (c.print avoid)
  | .joined pieces => do
    let parts ← printParts pieces
    if avoid then return 'f' :: plainLiteral allMarks (parts.map (·.1)).flatten
    else return 'f' :: fieldLiteral parts
  | .formatted value conversion layout => do
    let text ← value.print true Precedence.disjunction
    fieldText text conversion (← printLayout layout)
  | .attribute value name => do
    let text ← value.print avoid Precedence.atom
    let gap := match value with
      | .constant (.int _) => [' ']
      | .constant (.bool _) => [' ']
      | _ => []
    return text ++ gap ++ '.' :: name.toList
  | .subscript value (.tuple items) => do
    let text ← value.print avoid Precedence.atom
    let items ← printList avoid Precedence.test items
    return text ++ '[' :: (if items.isEmpty then ['(', ')'] else itemList items) ++ [']']
  | .subscript value index => do
    let text ← value.print avoid Precedence.atom
    return text ++ '[' :: (← index.print avoid Precedence.test) ++ [']']
  | .slice lower upper step => do
    let lower ← printOptional avoid [] lower
    let upper ← printOptional avoid [] upper
    let step ← printOptional avoid [':'] step
    return lower ++ ':' :: upper ++ step
  | .call function args keywords => do
    let function ← function.print avoid Precedence.atom
    let args ← printList avoid Precedence.test args
    let keywords ← printKeywords avoid keywords
    return function ++ '(' :: commaList (args ++ keywords) ++ [')']
  | .starred value => do return '*' :: (← value.print avoid Precedence.operand)
  | .unary op operand => do
    let (symbol, own) := op.symbol
    return enclosed own p (symbol ++ (← operand.print avoid own))
  | .binary op left right => do
    let (symbol, own) := op.symbol
    let left ← left.print avoid (if op = .power then own.next else own)
    let right ← right.print avoid (if op = .power then own else own.next)
    return enclosed own p (left ++ ' ' :: symbol ++ ' ' :: right)
  | .boolean conjunction operands => do
    let own := if conjunction then Precedence.conjunction else Precedence.disjunction
    let operands ← printRising avoid own.next operands
    return enclosed own p (Text.join (if conjunction then " and " else " or ").toList operands)
  | .compare left ops operands => do
    let left ← left.print avoid Precedence.operand
    let operands ← printList avoid Precedence.operand operands
    let rest := (ops.zip operands).flatMap fun (op, operand) => ' ' :: op.symbol ++ ' ' :: operand
    return enclosed Precedence.comparison p (left ++ rest)
  | .choice test yes no => do
    let yes ← yes.print avoid Precedence.disjunction
    let test ← test.print avoid Precedence.disjunction
    let no ← no.print avoid Precedence.test
    return enclosed Precedence.test p (yes ++ " if ".toList ++ test ++ " else ".toList ++ no)
  | .lambda params body _ => do
    let params := paramList (← printParams avoid params)
    let body ← body.print avoid Precedence.test
    let head := if params.isEmpty then [] else ' ' :: params
    return enclosed Precedence.test p ("lambda".toList ++ head ++ ':' :: ' ' :: body)
  | .tuple items => do
    let items ← printList avoid Precedence.test items
    let text := itemList items
    return if items.isEmpty then ['(', ')'] else enclosed Precedence.tuple p text
  | .list items => do return '[' :: commaList (← printList avoid Precedence.test items) ++ [']']
  | .set items => do
    return '\x7b' :: commaList (← printList avoid Precedence.test items) ++ ['\x7d']
  | .dict entries => do return '\x7b' :: commaList (← printEntries avoid entries) ++ ['\x7d']
  | .comprehension kind key element clauses => do
    let key ← printOptional avoid [] key
    let element ← element.print avoid Precedence.test
    let clauses ← printClauses avoid clauses
    let body := (if kind = .dict then key ++ [':', ' '] else []) ++ element ++ clauses
    return match kind with
      | .list => '[' :: body ++ [']']
      | .generator => '(' :: body ++ [')']
      | _ => '\x7b' :: body ++ ['\x7d']
  | .bind target value => do
    let target ← target.print avoid Precedence.atom
    let value ← value.print avoid Precedence.atom
    return enclosed Precedence.binding p (target ++ " := ".toList ++ value)
  | .await value => do
    return enclosed Precedence.awaited p ("await ".toList ++ (← value.print avoid Precedence.atom))
  | .yield none => some (enclosed Precedence.yielding p "yield".toList)
  | .yield (some value) => do
    return enclosed Precedence.yielding p ("yield ".toList ++ (← value.print avoid Precedence.atom))
  | .yieldFrom value => do
    return enclosed Precedence.yielding p ("yield from ".toList ++ (← value.print avoid Precedence.atom))

def printLayout : Option Expr → Option Text
  | none => some []
  | some (.joined pieces) => do return ':' :: ((← printParts pieces).map (·.1)).flatten
  | some _ => some []

def printParts : List Expr → Option (List (Text × Bool))
  | [] => some []
  | .constant (.str text _) :: parts => do return (doubledBraces text, true) :: (← printParts parts)
  | .formatted value conversion layout :: parts => do
    let text ← value.print true Precedence.disjunction
    let field ← fieldText text conversion (← printLayout layout)
    return (field, false) :: (← printParts parts)
  | _ :: parts => printParts parts

def printList (avoid : Bool) (p : Precedence) : List Expr → Option (List Text)
  | [] => some []
  | e :: es => do
    let first ← e.print avoid p
    return first :: (← printList avoid p es)

def printRising (avoid : Bool) (p : Precedence) : List Expr → Option (List Text)
  | [] => some []
  | e :: es => do
    let first ← e.print avoid p
    return first :: (← printRising avoid p.next es)

def printOptional (avoid : Bool) (opening : Text) : Option Expr → Option Text
  | none => some []
  | some e => do return opening ++ (← e.print avoid Precedence.test)

def printKeywords (avoid : Bool) : List Keyword → Option (List Text)
  | [] => some []
  | .mk name value :: keywords => do
    let value ← value.print avoid Precedence.test
    let opening := match name with
      | some name => name.toList ++ ['=']
      | none => ['*', '*']
    return (opening ++ value) :: (← printKeywords avoid keywords)

def printParams (avoid : Bool) : List Param → Option (List (ParameterKind × Text))
  | [] => some []
  | .mk kind name typeHint fallback :: params => do
    let typeHint ← printOptional avoid [':', ' '] typeHint
    let fallback ← printOptional avoid ['='] fallback
    return (kind, name.toList ++ typeHint ++ fallback) :: (← printParams avoid params)

def printEntries (avoid : Bool) : List Entry → Option (List Text)
  | [] => some []
  | .pair key value :: entries => do
    let key ← key.print avoid Precedence.test
    let value ← value.print avoid Precedence.test
    return (key ++ ':' :: ' ' :: value) :: (← printEntries avoid entries)
  | .spread value :: entries => do
    let value ← value.print avoid Precedence.operand
    return ('*' :: '*' :: value) :: (← printEntries avoid entries)

def printClauses (avoid : Bool) : List Clause → Option Text
  | [] => some []
  | .mk awaited target source conditions :: clauses => do
    let target ← target.print avoid Precedence.tuple
    let source ← source.print avoid Precedence.disjunction
    let conditions ← printList avoid Precedence.disjunction conditions
    let opening := (if awaited then " async for " else " for ").toList
    let tests := conditions.flatMap fun test => " if ".toList ++ test
    return opening ++ target ++ " in ".toList ++ source ++ tests ++ (← printClauses avoid clauses)

end

def Expr.toText (e : Expr) : Option Text := e.print false Precedence.test

def exprTexts (es : List Expr) : Option (List Text) := printList false Precedence.test es

def optionalText (opening : String) (e : Option Expr) : Option Text :=
  printOptional false opening.toList e

/-! ## Patterns -/

mutual

def MatchPattern.print (p : Precedence) : MatchPattern → Option Text
  | .value e => e.toText
  | .singleton c => some (c.print false)
  | .sequence patterns => do return '[' :: commaList (← printPatterns Precedence.test patterns) ++ [']']
  | .mapping keys patterns rest => do
    let keys ← exprTexts keys
    let patterns ← printPatterns Precedence.test patterns
    let entries := (keys.zip patterns).map fun (key, pattern) => key ++ ':' :: ' ' :: pattern
    let rest := match rest with
      | some name => [['*', '*'] ++ name.toList]
      | none => []
    return '\x7b' :: commaList (entries ++ rest) ++ ['\x7d']
  | .instance kind positional names named => do
    let kind ← kind.print false Precedence.atom
    let positional ← printPatterns Precedence.test positional
    let named ← printPatterns Precedence.test named
    let named := (names.zip named).map fun (name, pattern) => name.toList ++ '=' :: pattern
    return kind ++ '(' :: commaList (positional ++ named) ++ [')']
  | .star name => some ('*' :: (name.getD "_").toList)
  | .capture _ none => some ['_']
  | .capture none (some name) => some name.toList
  | .capture (some pattern) (some name) => do
    let pattern ← pattern.print Precedence.operand
    return enclosed Precedence.test p (pattern ++ " as ".toList ++ name.toList)
  | .choice patterns => do
    let patterns ← printPatterns Precedence.operand.next patterns
    return enclosed Precedence.operand p (Text.join " | ".toList patterns)

def printPatterns (p : Precedence) : List MatchPattern → Option (List Text)
  | [] => some []
  | pattern :: patterns => do
    let first ← pattern.print p
    return first :: (← printPatterns p patterns)

end

/-! ## Statements -/

abbrev Lines := List Text

def indented (lines : Lines) : Lines :=
  lines.map fun line => if line.isEmpty then line else Text.spaces 4 ++ line

def blockOf (opening : Text) (body : Lines) : Lines := (opening ++ [':']) :: indented body

def optionalBlock (opening : String) (body : Lines) : Lines :=
  if body.isEmpty then [] else blockOf opening.toList body

def Import.print (i : Import) : Text :=
  i.name.toList ++ match i.rename with
    | some name => " as ".toList ++ name.toList
    | none => []

def Resource.print (r : Resource) : Option Text := do
  return (← r.value.toText) ++ (← optionalText " as " r.target)

def documented (body : List Stmt) : Option (Text × Bool) :=
  match body with
  | .expr (.constant (.str text marked)) :: _ => some (text, marked)
  | _ => none

def documentation (text : Text) (marked : Bool) : Text :=
  (if marked then ['u'] else []) ++ plainLiteral longMarks text

def decoratorLines (decorators : List Expr) : Option Lines := do
  return (← exprTexts decorators).map ('@' :: ·)

mutual

/-- Print a statement as lines. A definition is preceded by an empty line. -/
def Stmt.lines : Stmt → Option Lines
  | .expr value => do return [← value.print false Precedence.yielding]
  | .assign targets value => do
    let targets ← printList false Precedence.tuple targets
    return [targets.flatMap (· ++ " = ".toList) ++ (← value.toText)]
  | .update target op value => do
    return [(← target.toText) ++ ' ' :: op.symbol.1 ++ "= ".toList ++ (← value.toText)]
  | .annotate target typeHint value plain => do
    let target' ← target.toText
    let target' := if !plain && (target matches .name ..) then '(' :: target' ++ [')'] else target'
    return [target' ++ ':' :: ' ' :: (← typeHint.toText) ++ (← optionalText " = " value)]
  | .ret value => do return ["return".toList ++ (← optionalText " " value)]
  | .delete targets => do return ["del ".toList ++ commaList (← exprTexts targets)]
  | .pass => some ["pass".toList]
  | .break => some ["break".toList]
  | .continue => some ["continue".toList]
  | .raise error cause => do
    return ["raise".toList ++ (← optionalText " " error) ++ (← optionalText " from " cause)]
  | .global names => some ["global ".toList ++ commaList (names.map String.toList)]
  | .nonlocal names => some ["nonlocal ".toList ++ commaList (names.map String.toList)]
  | .assert test message => do
    return ["assert ".toList ++ (← test.toText) ++ (← optionalText ", " message)]
  | .importModules modules => some ["import ".toList ++ commaList (modules.map Import.print)]
  | .importNames path level names =>
    some ["from ".toList ++ List.replicate level '.' ++ (path.getD "").toList ++ " import ".toList ++
      commaList (names.map Import.print)]
  | .ifThen test body orelse => do
    let test ← test.toText
    let body ← blockLines body
    return blockOf ("if ".toList ++ test) body ++ (← elseLines orelse)
  | .while test body orelse => do
    let opening := "while ".toList ++ (← test.toText)
    return blockOf opening (← blockLines body) ++ optionalBlock "else" (← blockLines orelse)
  | .for awaited target source body orelse => do
    let target ← target.print false Precedence.tuple
    let opening := (if awaited then "async for " else "for ").toList ++ target ++ " in ".toList ++
      (← source.toText)
    return blockOf opening (← blockLines body) ++ optionalBlock "else" (← blockLines orelse)
  | .with awaited resources body => do
    let opening := (if awaited then "async with " else "with ").toList ++
      commaList (← resources.mapM Resource.print)
    return blockOf opening (← blockLines body)
  | .try groups body handlers orelse final => do
    let body ← blockLines body
    let handlers ← handlerLines groups handlers
    let orelse ← blockLines orelse
    let final ← blockLines final
    return blockOf "try".toList body ++ handlers ++ optionalBlock "else" orelse ++ optionalBlock "finally" final
  | .match subject cases => do
    let opening := "match ".toList ++ (← subject.toText)
    return blockOf opening (← caseLines cases)
  | .function awaited name params body decorators result _ => do
    let decorators ← decoratorLines decorators
    let params := paramList (← printParams false params)
    let result ← optionalText " -> " result
    let opening := (if awaited then "async def " else "def ").toList ++ name.toList ++ '(' :: params ++
      ')' :: result
    let lines ← blockLines body
    let lines := match documented body with
      | some (text, marked) => documentation text marked :: lines.drop 1
      | none => lines
    return [] :: decorators ++ blockOf opening lines
  | .classDef name bases keywords body decorators _ => do
    let decorators ← decoratorLines decorators
    let bases ← exprTexts bases
    let keywords ← printKeywords false keywords
    let args := bases ++ keywords
    let opening := "class ".toList ++ name.toList ++
      if args.isEmpty then [] else '(' :: commaList args ++ [')']
    let lines ← blockLines body
    let lines := match documented body with
      | some (text, marked) => documentation text marked :: lines.drop 1
      | none => lines
    return [] :: decorators ++ blockOf opening lines

def blockLines : List Stmt → Option Lines
  | [] => some []
  | s :: rest => do
    let first ← s.lines
    return first ++ (← blockLines rest)

/-- Print what a conditional statement does otherwise. A single conditional statement is an alternative. -/
def elseLines : List Stmt → Option Lines
  | [] => some []
  | [.ifThen test body orelse] => do
    let test ← test.toText
    let body ← blockLines body
    return blockOf ("elif ".toList ++ test) body ++ (← elseLines orelse)
  | s :: rest => do
    let first ← s.lines
    return blockOf "else".toList (first ++ (← blockLines rest))

def handlerLines (groups : Bool) : List Handler → Option Lines
  | [] => some []
  | .mk kind name body :: handlers => do
    let opening := (if groups then "except*" else "except").toList ++ (← optionalText " " kind) ++
      match name with
      | some name => " as ".toList ++ name.toList
      | none => []
    let body ← blockLines body
    return blockOf opening body ++ (← handlerLines groups handlers)

def caseLines : List Case → Option Lines
  | [] => some []
  | .mk pattern guard body :: cases => do
    let opening := "case ".toList ++ (← pattern.print Precedence.test) ++ (← optionalText " if " guard)
    let body ← blockLines body
    return blockOf opening body ++ (← caseLines cases)

end

def Stmt.toText (s : Stmt) : Option Text := do
  let lines ← s.lines
  return Text.join ['\n'] (lines.dropWhile List.isEmpty)

end LexGen.Code
