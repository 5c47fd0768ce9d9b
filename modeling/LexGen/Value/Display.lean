import LexGen.Value.Basic

/-!
# Display of values

Every value has a text that shows it. For the values that can stand in a grammar this text is a literal of
the code that lexers are written in.
-/

namespace LexGen

def patternFlagNames : List (Nat × String) :=
  [(1, "re.TEMPLATE"), (2, "re.IGNORECASE"), (4, "re.LOCALE"), (8, "re.MULTILINE"), (16, "re.DOTALL"), (64, "re.VERBOSE"),
   (128, "re.DEBUG"), (256, "re.ASCII")]

/-- How a compiled pattern is shown. Only the first two hundred characters of its literal appear. The bits of its flags
that have no name are shown together. -/
def displayPattern (text : String) (flags : Nat) : String :=
  let literal := String.ofList ((Text.quoted text.toList).take 200)
  let named := patternFlagNames.filter fun flag => flags / flag.1 % 2 == 1
  let others := flags - (flags &&& 511)
  let names := named.map (fun flag => flag.2) ++
    if others = 0 then [] else ["0x" ++ String.ofList (Nat.toDigits 16 others)]
  if names.isEmpty then "re.compile(" ++ literal ++ ")"
  else "re.compile(" ++ literal ++ ", " ++ "|".intercalate names ++ ")"

namespace Value

def displayBool (b : Bool) : String := if b then "True" else "False"

def displayReference : Reference → String
  | .builtin name => "<built-in function " ++ name ++ ">"
  | .function _ name => "<function " ++ name ++ ">"
  | .classOf _ name => "<class '" ++ name ++ "'>"
  | .instanceOf _ kind => "<" ++ kind ++ " object>"
  | .bound _ _ kind name => "<bound method " ++ kind ++ "." ++ name ++ ">"
  | .operation name => "<bound method Scanner." ++ name ++ ">"
  | .ofText _ name => "<built-in method " ++ name ++ " of str object>"

def displayLocation (l : Location) : String :=
  let range := match l.range with
    | some (first, last) => "(" ++ toString first ++ ", " ++ toString last ++ ")"
    | Option.none => "None"
  "Location(first_line=" ++ toString l.firstLine ++ ", first_column=" ++ toString l.firstColumn ++
    ", last_line=" ++ toString l.lastLine ++ ", last_column=" ++ toString l.lastColumn ++
    ", range=" ++ range ++ ")"

mutual

def display : Value → String
  | none => "None"
  | bool b => displayBool b
  | int i => toString i
  | float x => String.ofList x.text
  | str s => quote s
  | bytes s => String.ofList (Text.quotedBytes s.toList)
  | list items => "[" ++ displayItems items ++ "]"
  | tuple [item] => "(" ++ display item ++ ",)"
  | tuple items => "(" ++ displayItems items ++ ")"
  | set [] => "set()"
  | set items => "\x7b" ++ displayItems items ++ "\x7d"
  | dict entries => "\x7b" ++ displayEntries entries ++ "\x7d"
  | pattern text flags => displayPattern text flags
  | callable c => c.display
  | rule Option.none p a => "Rule(states=None, pattern=" ++ display p ++ ", action=" ++ display a ++ ")"
  | rule (some [state]) p a =>
    "Rule(states=(" ++ display state ++ ",), pattern=" ++ display p ++ ", action=" ++ display a ++ ")"
  | rule (some states) p a =>
    "Rule(states=(" ++ displayItems states ++ "), pattern=" ++ display p ++ ", action=" ++ display a ++ ")"
  | options block => "LexerOptions(" ++ display block ++ ")"
  | grammar form => "Grammar(" ++ display form ++ ")"
  | convention c => "<ModuleType." ++ c.symbol ++ ": " ++ quote c.name ++ ">"
  | location l => displayLocation l
  | scanner => "<Scanner object>"
  | object kind => "<" ++ kind ++ " object>"
  | reference r => displayReference r

def displayItems : List Value → String
  | [] => ""
  | [item] => display item
  | item :: items => display item ++ ", " ++ displayItems items

def displayEntries : List (Value × Value) → String
  | [] => ""
  | [(key, value)] => display key ++ ": " ++ display value
  | (key, value) :: entries => display key ++ ": " ++ display value ++ ", " ++ displayEntries entries

end

mutual

def holdsLong : Value → Bool
  | int i => Text.longestInteger < (Text.decimal i.natAbs).length
  | list items | tuple items | set items => itemsHoldLong items
  | dict entries => entriesHoldLong entries
  | rule Option.none p a => holdsLong p || holdsLong a
  | rule (some states) p a => itemsHoldLong states || holdsLong p || holdsLong a
  | options form | grammar form => holdsLong form
  | _ => false

def itemsHoldLong : List Value → Bool
  | [] => false
  | item :: items => holdsLong item || itemsHoldLong items

def entriesHoldLong : List (Value × Value) → Bool
  | [] => false
  | (key, value) :: entries => holdsLong key || holdsLong value || entriesHoldLong entries

end

def plain : Value → String
  | str s => s
  | convention c => "ModuleType." ++ c.symbol
  | v => display v

end Value

end LexGen
