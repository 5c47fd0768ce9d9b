import LexGen.Code.Parser.Expression

/-!
# Parsing patterns

The grammar of the patterns of `match` statements. As with expressions, the depth of a pattern is bounded.
-/

namespace LexGen.Code

open Parse

def anything : String := "_"

namespace Level

variable (e : Level)

def endsName : Parse Unit := do
  if [".", "(", "="].contains (← peek) then failure

def captureTarget : Parse String := do
  if (← peek) = anything then failure
  let name ← identifier
  endsName
  return name

def signedNumber : Parse (Expr × Constant) := do
  let negative ← accept "-"
  match numberValue? (← takeKind .number).text.toList with
  | some value => return (if negative then .unary .minus (.constant value) else .constant value, value)
  | none => failure

def numberPattern : Parse Expr := do
  let (first, value) ← signedNumber
  match ← oneOf [("+", BinaryOp.add), ("-", .subtract)] with
  | none => return first
  | some op =>
    if value matches .imaginary _ then failure
    match numberValue? (← takeKind .number).text.toList with
    | some (.imaginary x) => return .binary op first (.constant (.imaginary x))
    | _ => failure

def dottedName : Parse Expr := do
  let place ← place
  let name ← identifier
  let attributes ← many do
    if ← accept "." then return some (← identifier) else return none
  return attributes.foldl Expr.attribute (.name name .load place)

def keyPattern : Parse Expr := do
  if ← isIdentifierNext then
    match ← dottedName with
    | .attribute value name => return .attribute value name
    | _ => failure
  else if ← isNext .literal then e.strings
  else
    match ← oneOf [("None", Constant.none), ("True", .bool true), ("False", .bool false)] with
    | some c => return .constant c
    | none => numberPattern

variable (pattern : Parse MatchPattern)

def sequenceItem : Parse MatchPattern := do
  if ← accept "*" then
    if ← accept anything then return .star none
    let name ← identifier
    endsName
    return .star (some name)
  else pattern

/-- Items up to a closing word, which is taken. Yields whether it is a single item without a comma. -/
def sequenceItems (closing : String) : Parse (List MatchPattern × Bool) := do
  if ← accept closing then return ([], false)
  let (items, trailing) ← commas (sequenceItem pattern)
  expect closing
  return (items, items.length = 1 && !trailing)

def mappingPattern : Parse MatchPattern := do
  let entries ← many do
    if (← peek) = "\x7d" || (← peek) = "**" then return none
    let key ← keyPattern e
    expect ":"
    let value ← pattern
    if !(← accept ",") && (← peek) != "\x7d" then failure
    return some (key, value)
  let rest ← if ← accept "**" then
      let name ← captureTarget
      let _ ← accept ","
      pure (some name)
    else pure none
  expect "\x7d"
  return .mapping (entries.map (·.1)) (entries.map (·.2)) rest

def classArguments : Parse (List MatchPattern × List (String × MatchPattern)) := do
  let positional ← many do
    if (← peek) = ")" || (← peekSecond) = "=" then return none
    let value ← pattern
    if !(← accept ",") && (← peek) != ")" then failure
    return some value
  let named ← many do
    if (← peek) = ")" then return none
    let name ← identifier
    expect "="
    let value ← pattern
    if !(← accept ",") && (← peek) != ")" then failure
    return some (name, value)
  expect ")"
  return (positional, named)

def namePattern : Parse MatchPattern := do
  if ← accept anything then return .capture none none
  match ← dottedName with
  | .name id usage place =>
    if ← accept "(" then
      let (positional, named) ← classArguments pattern
      return .instance (.name id usage place) positional (named.map (·.1)) (named.map (·.2))
    endsName
    return .capture none (some id)
  | kind =>
    if ← accept "(" then
      let (positional, named) ← classArguments pattern
      return .instance kind positional (named.map (·.1)) (named.map (·.2))
    endsName
    return .value kind

def closedPattern : Parse MatchPattern := do
  if ← isIdentifierNext then namePattern pattern
  else if ← isNext .literal then return .value (← e.strings)
  else
    match ← peek with
    | "None" => do
      let _ ← take
      return .singleton .none
    | "True" => do
      let _ ← take
      return .singleton (.bool true)
    | "False" => do
      let _ ← take
      return .singleton (.bool false)
    | "[" => do
      let _ ← take
      let (items, _) ← sequenceItems pattern "]"
      return .sequence items
    | "(" => do
      let _ ← take
      let (items, single) ← sequenceItems pattern ")"
      match items, single with
      | [.star _], true => failure
      | [item], true => return item
      | items, _ => return .sequence items
    | "\x7b" => do
      let _ ← take
      mappingPattern e pattern
    | _ => return .value (← numberPattern)

def fullPattern : Parse MatchPattern := do
  let choice ← separated "|" (closedPattern e pattern)
  let choice := match choice with
    | [single] => single
    | patterns => .choice patterns
  if ← accept "as" then return .capture (some choice) (some (← captureTarget)) else return choice

def patternOfDepth : Nat → Parse MatchPattern
  | 0 => failure
  | depth + 1 => e.fullPattern (patternOfDepth depth)

def casePattern (depth : Nat) : Parse MatchPattern := do
  let pattern := e.patternOfDepth depth
  match ← commas (sequenceItem pattern) with
  | ([.star _], false) => failure
  | ([single], false) => return single
  | (items, _) => return .sequence items

end Level

end LexGen.Code
