import LexGen.Code.Token
import LexGen.Unicode.Normalization

/-!
# Parsing tokens

The steps that all parsers of code are made of. A parser takes tokens from the front of a list or fails; a
parser that fails has taken nothing.
-/

namespace LexGen.Code

abbrev Parse := StateT (List Token) Option

namespace Parse

def wordOf (t : Token) : String :=
  match t.kind with
  | .name | .operator => t.text
  | _ => ""

def peek : Parse String := do
  return ((← get).head?.map wordOf).getD ""

def peekSecond : Parse String := do
  return (((← get).drop 1).head?.map wordOf).getD ""

def place : Parse Place := do
  return ((← get).head?.map Token.place).getD default

def isNext (kind : TokenKind) : Parse Bool := do
  return (← get).head?.any (·.kind = kind)

def take : Parse Token := do
  match ← get with
  | t :: rest => do
    set rest
    return t
  | [] => failure

def takeKind (kind : TokenKind) : Parse Token := do
  let t ← take
  if t.kind = kind then return t else failure

def accept (word : String) : Parse Bool := do
  if (← peek) = word then
    let _ ← take
    return true
  else return false

def expect (word : String) : Parse Unit := do
  if !(← accept word) then failure

/-- Take an identifier that is no keyword, as the name it stands for. Only the way it is written tells
keywords from other identifiers. -/
def identifier : Parse String := do
  let t ← takeKind .name
  if keywords.contains t.text then failure else return Unicode.identifierName t.text

def isIdentifierNext : Parse Bool := do
  match (← get).head? with
  | some t => return t.kind = .name && !keywords.contains t.text
  | none => return false

def attempt {α : Type} (p : Parse α) : Parse (Option α) :=
  (some <$> p) <|> pure none

/-- Repeat a parser until it yields nothing, at most `fuel` times. -/
def collect {α : Type} (p : Parse (Option α)) : (fuel : Nat) → Parse (List α)
  | 0 => return []
  | fuel + 1 => do
    match ← p with
    | some x => return x :: (← collect p fuel)
    | none => return []

/-- Repeat a parser until it yields nothing. Every round takes a token. -/
def many {α : Type} (p : Parse (Option α)) : Parse (List α) := do
  collect p ((← get).length + 1)

def separated {α : Type} (separator : String) (item : Parse α) : Parse (List α) := do
  let first ← item
  let rest ← many do
    if ← accept separator then return some (← item) else return none
  return first :: rest

def commas {α : Type} (item : Parse α) : Parse (List α × Bool) := do
  let first ← item
  let rest ← many do
    match ← attempt (do expect ","; item) with
    | some x => return some x
    | none => return none
  let trailing ← accept ","
  return (first :: rest, trailing)

def chain {α β : Type} (op : Parse (Option β)) (combine : β → α → α → α) (operand : Parse α) : Parse α := do
  let first ← operand
  let rest ← many do
    match ← op with
    | some op => return some (op, ← operand)
    | none => return none
  return rest.foldl (fun left (op, right) => combine op left right) first

def oneOf {α : Type} (table : List (String × α)) : Parse (Option α) := do
  match table.lookup (← peek) with
  | some x => do
    let _ ← take
    return some x
  | none => return none

end Parse

end LexGen.Code
