import LexGen.Value.Equality

/-!
# Writing JSON

Values are written in ASCII, with the entries of every object in the order of their keys, so that equal
values have equal texts. A value that JSON has no form for is not written, and neither are keys that cannot be
put in an order.
-/

namespace LexGen.Json

/-! ## Strings -/

def unitEscape (unit : Nat) : Text := '\\' :: 'u' :: Text.hexDigits 4 unit

def escapedChar (c : Char) : Text :=
  match c with
  | '"' => ['\\', '"']
  | '\\' => ['\\', '\\']
  | '\n' => ['\\', 'n']
  | '\r' => ['\\', 'r']
  | '\t' => ['\\', 't']
  | '\x08' => ['\\', 'b']
  | '\x0c' => ['\\', 'f']
  | c =>
    let n := c.toNat
    if 0x20 ≤ n && n < 0x7f then [c]
    else if n < 0x10000 then unitEscape n
    else unitEscape (0xd800 + (n - 0x10000) / 0x400) ++ unitEscape (0xdc00 + (n - 0x10000) % 0x400)

def string (s : String) : Text :=
  '"' :: s.toList.flatMap escapedChar ++ ['"']

/-! ## Scalars and keys -/

def float : Binary64 → Text
  | .undefined => "NaN".toList
  | .infinite false => "Infinity".toList
  | .infinite true => "-Infinity".toList
  | x => x.text

def scalar? : Value → Option Text
  | .none => some "null".toList
  | .bool true => some "true".toList
  | .bool false => some "false".toList
  | .int i => some (Text.decimalInt i)
  | .float x => some (float x)
  | .str s => some (string s)
  | _ => none

/-- The text of a key. Keys other than strings are written as the string of their text. -/
def key? : Value → Option Text
  | .str s => some (string s)
  | v => (scalar? v).map fun text => '"' :: text ++ ['"']

/-- Whether a key comes before another. Strings and numbers are ordered among themselves only. -/
def before? : Value → Value → Option Bool
  | .str s, .str t => some (s < t)
  | .float x, .float y => some (x.less y)
  | .float x, y => y.integer?.map fun i => x.less (Binary64.ofInt i)
  | x, .float y => x.integer?.map fun i => (Binary64.ofInt i).less y
  | x, y => do return (← x.integer?) < (← y.integer?)

def insertEntry {α : Type} (entry : Value × α) : List (Value × α) → Option (List (Value × α))
  | [] => some [entry]
  | other :: others => do
    if (← before? entry.1 other.1) then return entry :: other :: others
    else return other :: (← insertEntry entry others)

def ordered {α : Type} : List (Value × α) → Option (List (Value × α))
  | [] => some []
  | entry :: entries => do insertEntry entry (← ordered entries)

/-! ## Values -/

/-- How the parts of a list or an object are laid out: on one line, or each on a line of its own. -/
structure Layout where
  step? : Option Nat

def Layout.lineBreak (layout : Layout) (depth : Nat) : Text :=
  match layout.step? with
  | none => []
  | some step => '\n' :: List.replicate (step * depth) ' '

def Layout.separator (layout : Layout) (depth : Nat) : Text :=
  match layout.step? with
  | none => [',', ' ']
  | some _ => ',' :: layout.lineBreak depth

def Layout.enclose (layout : Layout) (depth : Nat) (opening closing : Char) (parts : List Text) : Text :=
  if parts.isEmpty then [opening, closing]
  else opening :: layout.lineBreak (depth + 1) ++ Text.join (layout.separator (depth + 1)) parts ++
    layout.lineBreak depth ++ [closing]

mutual

def write? (layout : Layout) (depth : Nat) : Value → Option Text
  | .list items => do return layout.enclose depth '[' ']' (← writeItems? layout (depth + 1) items)
  | .tuple items => do return layout.enclose depth '[' ']' (← writeItems? layout (depth + 1) items)
  | .dict entries => do
    let entries ← ordered (← writeEntries? layout (depth + 1) entries)
    let parts ← entries.mapM fun (key, text) => do return (← key? key) ++ [':', ' '] ++ text
    return layout.enclose depth '{' '}' parts
  | v => scalar? v

def writeItems? (layout : Layout) (depth : Nat) : List Value → Option (List Text)
  | [] => some []
  | item :: items => do return (← write? layout depth item) :: (← writeItems? layout depth items)

def writeEntries? (layout : Layout) (depth : Nat) : List (Value × Value) → Option (List (Value × Text))
  | [] => some []
  | (key, item) :: entries => do
    return (key, ← write? layout depth item) :: (← writeEntries? layout depth entries)

end

end LexGen.Json
