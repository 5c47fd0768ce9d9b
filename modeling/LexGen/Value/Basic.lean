import LexGen.Callable
import LexGen.Convention
import LexGen.Number.Binary64
import LexGen.Scanner.Location

/-!
# Values

The values that grammars, token maps and actions are made of. Grammars are accepted in a loose form, so a
part of a grammar can be any value until it has been checked.
-/

namespace LexGen

/-- A thing that lives in the memory of running actions. -/
inductive Reference where
  | builtin (name : String)
  /-- A function defined by code, by its number in memory. -/
  | function (id : Nat) (name : String)
  | classOf (id : Nat) (name : String)
  | instanceOf (id : Nat) (kind : String)
  /-- A function of a class, bound to an instance. -/
  | bound (self function : Nat) (kind name : String)
  | operation (name : String)
  | ofText (text name : String)
  deriving DecidableEq, Repr

def Reference.typeName : Reference → String
  | .builtin _ => "builtin_function_or_method"
  | .function .. => "function"
  | .classOf .. => "type"
  | .instanceOf _ kind => kind
  | .bound .. => "method"
  | .operation _ => "method"
  | .ofText .. => "builtin_function_or_method"

inductive Value where
  | none
  | bool (b : Bool)
  | int (i : Int)
  | float (x : Binary64)
  | str (s : String)
  /-- A byte string, given by the characters of its bytes. -/
  | bytes (s : String)
  | list (items : List Value)
  | tuple (items : List Value)
  | set (items : List Value)
  /-- A mapping, in insertion order. -/
  | dict (entries : List (Value × Value))
  | pattern (text : String) (flags : Nat)
  | callable (c : Callable)
  /-- A rule that has been put together already. -/
  | rule (states : Option (List Value)) (pattern action : Value)
  /-- Lexer options that have been read already, by the block they were read from. -/
  | options (block : Value)
  /-- A grammar that has been read already, by its structured form. -/
  | grammar (form : Value)
  | convention (c : Convention)
  | location (l : Location)
  | scanner
  /-- Something of which only the type is known. -/
  | object (kind : String)
  | reference (r : Reference)
  deriving Inhabited

namespace Value

def typeName : Value → String
  | none => "NoneType"
  | bool _ => "bool"
  | int _ => "int"
  | float _ => "float"
  | str _ => "str"
  | bytes _ => "bytes"
  | list _ => "list"
  | tuple _ => "tuple"
  | set _ => "set"
  | dict _ => "dict"
  | pattern .. => "Pattern"
  | callable c => c.typeName
  | rule .. => "Rule"
  | options _ => "LexerOptions"
  | grammar _ => "Grammar"
  | convention _ => "ModuleType"
  | location _ => "Location"
  | scanner => "Scanner"
  | object kind => kind
  | reference r => r.typeName

def truthy : Value → Bool
  | none => false
  | bool b => b
  | int i => i != 0
  | float x => !x.isZero
  | str s => !s.isEmpty
  | bytes s => !s.isEmpty
  | list items | tuple items | set items => !items.isEmpty
  | dict entries => !entries.isEmpty
  | _ => true

def integer? : Value → Option Int
  | bool b => some (if b then 1 else 0)
  | int i => some i
  | _ => Option.none

def str? : Value → Option String
  | str s => some s
  | _ => Option.none

def sequence? : Value → Option (List Value)
  | list items | tuple items => some items
  | _ => Option.none

end Value

end LexGen
