import LexGen.Options
import LexGen.Text.Lines
import LexGen.Unicode.Digit
import LexGen.Unicode.Word
import LexGen.Value.Operators

/-!
# Methods

The operations that texts and containers bring with them. A method yields its result and the value that takes
the place of the one it was called on.
-/

namespace LexGen.Value

/-! ## Texts -/

def ofText (text : Text) : Value := str (String.ofList text)

/-- Cut a text at every occurrence of a separator. `skip` counts the characters of the current separator that
are still to be dropped. -/
def splitFrom (separator : Text) : (skip : Nat) → (piece : Text) → Text → List Text
  | _, piece, [] => [piece.reverse]
  | skip + 1, piece, _ :: text => splitFrom separator skip piece text
  | 0, piece, c :: text =>
    if Text.startsWith separator (c :: text) then
      piece.reverse :: splitFrom separator (separator.length - 1) [] text
    else splitFrom separator 0 (c :: piece) text

def words (text : Text) : List Text :=
  (splitFrom [' '] 0 [] (text.map fun c => if Unicode.isSpace c then ' ' else c)).filter (!·.isEmpty)

def findFrom (part : Text) : (position : Nat) → Text → Option Nat
  | position, [] => if part.isEmpty then some position else Option.none
  | position, c :: text =>
    if Text.startsWith part (c :: text) then some position else findFrom part (position + 1) text

def occurrences (part text : Text) : Nat :=
  if part.isEmpty then text.length + 1 else (splitFrom part 0 [] text).length - 1

def lowered (text : Text) : Text := text.map fun c => Char.ofNat (Unicode.lowerCode c.toNat)

def every (p : Char → Bool) (text : Text) : Bool := !text.isEmpty && text.all p

def inCase (image : Text → Text) (other : Text → Text) (text : Text) : Bool :=
  image text == text && other text != text

def alternatives : Value → Except Fault (List Text)
  | str s => .ok [s.toList]
  | tuple items => items.mapM fun
    | str s => .ok s.toList
    | _ => .error .badType
  | _ => .error .badType

def joined (separator : Text) (v : Value) : Except Fault Value := do
  let texts ← (← items v).mapM fun
    | str s => .ok s.toList
    | _ => .error .badType
  return ofText (Text.join separator texts)

def trimmedBy : List Value → Except Fault (Char → Bool)
  | [] | [none] => .ok Unicode.isSpace
  | [str s] => .ok fun c => s.toList.contains c
  | _ => .error .badType

/-- A method of a text. Nothing if there is no such method. -/
def textMethod? (text : Text) (name : String) (args : List Value) : Option (Except Fault Value) :=
  let property := fun (b : Bool) => if args.isEmpty then Except.ok (bool b) else .error Fault.badType
  let image := fun (t : Text) => if args.isEmpty then Except.ok (ofText t) else .error Fault.badType
  match name with
  | "upper" => some (image (Unicode.upper text))
  | "lower" => some (image (lowered text))
  | "capitalize" => some (image (Unicode.upper (text.take 1) ++ lowered (text.drop 1)))
  | "swapcase" => some (image (text.flatMap fun c =>
      if Unicode.upper [c] == [c] then lowered [c] else Unicode.upper [c]))
  | "isdigit" | "isdecimal" | "isnumeric" => some (property (every Unicode.isDigit text))
  | "isalpha" => some (property (every Unicode.isAlphabetic text))
  | "isalnum" => some (property (every Unicode.isAlphanumeric text))
  | "isspace" => some (property (every Unicode.isSpace text))
  | "isupper" => some (property (inCase Unicode.upper lowered text))
  | "islower" => some (property (inCase lowered Unicode.upper text))
  | "isidentifier" => some (property (isIdentifier text))
  | "isascii" => some (property (text.all fun c => c.toNat < 128))
  | "strip" => some do return ofText (Text.trimBy (← trimmedBy args) text)
  | "lstrip" => some do return ofText (text.dropWhile (← trimmedBy args))
  | "rstrip" => some do return ofText (Text.trimEndBy (← trimmedBy args) text)
  | "startswith" => some do
    match args with
    | [v] => return bool ((← alternatives v).any (Text.startsWith · text))
    | _ => throw .badType
  | "endswith" => some do
    match args with
    | [v] => return bool ((← alternatives v).any fun part => Text.startsWith part.reverse text.reverse)
    | _ => throw .badType
  | "removeprefix" => some (match args with
    | [str s] => .ok (ofText ((Text.after? s.toList text).getD text))
    | _ => .error .badType)
  | "removesuffix" => some (match args with
    | [str s] => .ok (ofText (((Text.after? s.toList.reverse text.reverse).map List.reverse).getD text))
    | _ => .error .badType)
  | "replace" => some (match args with
    | [str old, str new] =>
      if old.isEmpty then
        .ok (ofText (new.toList ++ text.flatMap fun c => c :: new.toList))
      else .ok (ofText (Text.replace old.toList new.toList text))
    | _ => .error .badType)
  | "split" => some (match args with
    | [] | [none] => .ok (list ((words text).map ofText))
    | [str s] =>
      if s.isEmpty then .error .badValue else .ok (list ((splitFrom s.toList 0 [] text).map ofText))
    | _ => .error .badType)
  | "splitlines" => some (if args.isEmpty then
      .ok (list ((Text.textLines text).map fun line => ofText (Text.trimEndBy Text.isLineBoundary line)))
    else .error .badType)
  | "join" => some (match args with
    | [v] => joined text v
    | _ => .error .badType)
  | "find" | "index" => some (match args with
    | [str s] =>
      match findFrom s.toList 0 text with
      | some position => .ok (int position)
      | .none => if name == "find" then .ok (int (-1)) else .error .badValue
    | _ => .error .badType)
  | "count" => some (match args with
    | [str s] => .ok (int (occurrences s.toList text))
    | _ => .error .badType)
  | "zfill" => some (match args with
    | [int n] => .ok (ofText (List.replicate (n.toNat - text.length) '0' ++ text))
    | _ => .error .badType)
  | "ljust" => some (match args with
    | [int n] => .ok (ofText (text ++ Text.spaces (n.toNat - text.length)))
    | _ => .error .badType)
  | "rjust" => some (match args with
    | [int n] => .ok (ofText (Text.spaces (n.toNat - text.length) ++ text))
    | _ => .error .badType)
  | _ => Option.none

/-! ## Containers -/

/-- A method of a list: its result and the list after it. Nothing if there is no such method. -/
def listMethod? (xs : List Value) (name : String) (args : List Value) :
    Option (Except Fault (Value × List Value)) :=
  match name, args with
  | "append", [v] => some (.ok (none, xs ++ [v]))
  | "extend", [v] => some do return (none, xs ++ (← items v))
  | "insert", [key, v] => some do
    let i ← positionOf key
    return (none, xs.take (Text.position xs.length i) ++ v :: xs.drop (Text.position xs.length i))
  | "pop", [] => some do return (← itemAt xs (-1), xs.dropLast)
  | "pop", [key] => some do
    let i ← positionOf key
    return (← itemAt xs i, xs.eraseIdx (Text.position xs.length i))
  | "remove", [v] => some (match xs.findIdx? (same v) with
    | some i => .ok (none, xs.eraseIdx i)
    | .none => .error .badValue)
  | "clear", [] => some (.ok (none, []))
  | "copy", [] => some (.ok (list xs, xs))
  | "sort", [] => some do return (none, ← inOrder xs)
  | "reverse", [] => some (.ok (none, xs.reverse))
  | "index", [v] => some (match xs.findIdx? (same v) with
    | some i => .ok (int i, xs)
    | .none => .error .badValue)
  | "count", [v] => some (.ok (int (xs.countP (same v)), xs))
  | "append", _ | "extend", _ | "insert", _ | "pop", _ | "remove", _ | "clear", _ | "copy", _ | "sort", _ | "reverse", _
  | "index", _ | "count", _ => some (.error .badType)
  | _, _ => Option.none

/-- A method of a mapping: its result and the mapping after it. Nothing if there is no such method. -/
def dictMethod? (entries : List (Value × Value)) (name : String) (args : List Value) :
    Option (Except Fault (Value × List (Value × Value))) :=
  match name, args with
  | "get", [key] => some (.ok ((lookup key entries).getD none, entries))
  | "get", [key, v] => some (.ok ((lookup key entries).getD v, entries))
  | "keys", [] => some (.ok (list (entries.map (·.1)), entries))
  | "values", [] => some (.ok (list (entries.map (·.2)), entries))
  | "items", [] => some (.ok (list (entries.map fun entry => tuple [entry.1, entry.2]), entries))
  | "copy", [] => some (.ok (dict entries, entries))
  | "clear", [] => some (.ok (none, []))
  | "update", [dict others] => some (.ok (none, dictOf (entries ++ others)))
  | "setdefault", [key, v] => some (match lookup key entries with
    | some v => .ok (v, entries)
    | .none => .ok (v, insert key v entries))
  | "pop", [key] => some (match lookup key entries with
    | some v => .ok (v, entries.filter fun entry => !same key entry.1)
    | .none => .error (.noKey key))
  | "pop", [key, v] => some (.ok ((lookup key entries).getD v, entries.filter fun entry => !same key entry.1))
  | "get", _ | "keys", _ | "values", _ | "items", _ | "copy", _ | "clear", _ | "update", _ | "setdefault", _
  | "pop", _ => some (.error .badType)
  | _, _ => Option.none

/-- A method of a set: its result and the set after it. Nothing if there is no such method. -/
def setMethod? (xs : List Value) (name : String) (args : List Value) :
    Option (Except Fault (Value × List Value)) :=
  match name, args with
  | "add", [v] => some (if v.hashable then .ok (none, distinct (xs ++ [v])) else .error .badType)
  | "discard", [v] => some (.ok (none, xs.filter fun x => !same v x))
  | "remove", [v] => some (if xs.any (same v) then .ok (none, xs.filter fun x => !same v x)
      else .error (.noKey v))
  | "update", [v] => some do return (none, distinct (xs ++ (← items v)))
  | "union", [v] => some do return (set (distinct (xs ++ (← items v))), xs)
  | "clear", [] => some (.ok (none, []))
  | "copy", [] => some (.ok (set xs, xs))
  | "add", _ | "discard", _ | "remove", _ | "update", _ | "union", _ | "clear", _ | "copy", _ =>
    some (.error .badType)
  | _, _ => Option.none

/-- A method of a value: its result and the value after it. Nothing if there is no such method. -/
def method? (v : Value) (name : String) (args : List Value) : Option (Except Fault (Value × Value)) :=
  match v with
  | str s => (textMethod? s.toList name args).map fun result => result.map fun w => (w, v)
  | list xs => (listMethod? xs name args).map fun result => result.map fun (w, xs) => (w, list xs)
  | dict entries => (dictMethod? entries name args).map fun result => result.map fun (w, es) => (w, dict es)
  | set xs => (setMethod? xs name args).map fun result => result.map fun (w, xs) => (w, set xs)
  | tuple xs =>
    if name == "index" || name == "count" then
      (listMethod? xs name args).map fun result => result.map fun (w, _) => (w, v)
    else Option.none
  | _ => Option.none

def hasMethod (v : Value) (name : String) : Bool :=
  (method? v name []).isSome

end LexGen.Value
