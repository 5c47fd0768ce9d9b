import LexGen.Value.Display

/-!
# Errors

Everything that can go wrong while a lexer is compiled, stored, emitted or run. An error is a cause; its
wording is given by `Error.message`.
-/

namespace LexGen

/-- What goes wrong in running code, or in an operation on a value that it is not made for. -/
inductive Fault where
  | badType
  | noAttribute
  | noKey (key : Value)
  | unbound
  /-- A value of the right type that is not acceptable. -/
  | badValue
  | badIndex
  | overflow
  | malformedCode
  | unreadableCode
  /-- Code that does not come to an end within a set number of steps. -/
  | endless
  /-- An error that code raises by name. -/
  | raised (kind : String)

namespace Fault

def name : Fault → String
  | badType => "TypeError"
  | noAttribute => "AttributeError"
  | noKey _ => "KeyError"
  | unbound => "NameError"
  | badValue => "ValueError"
  | badIndex => "IndexError"
  | overflow => "OverflowError"
  | malformedCode => "SyntaxError"
  | unreadableCode => "TokenError"
  | endless => "RecursionError"
  | raised kind => kind

end Fault

/-! ## Texts of values -/

/-- How a value is shown. Integers of too many digits are not written. -/
def Value.shown (v : Value) : Except Fault String :=
  if v.holdsLong then .error .badValue else .ok v.display

def Value.told (v : Value) : Except Fault String :=
  if v.holdsLong then .error .badValue else .ok v.plain

/-! ## Errors -/

inductive Error where
  | grammarText (message : String) (line column : Option Int) (file : Option String)
  | malformedRule (rule : Int) (message : String)
  | undeclaredState (state : String) (rule : Int)
  | badPattern (rule : Int) (pattern reason : String)
  | badOption (option : String) (value : Value) (message : String)
  | macroCycle (names : List String)
  | undefinedMacro (name place : String)
  | badAction (rule : Int) (message : String)
  | noSkeleton (name : String)
  | missingPlaceholders (names : List String)
  | skeleton (message : String)
  | inconsistent (message : String)
  | archive (message : String)
  | grammar (message : String)
  | macros (message : String)
  | general (message : String)
  | lexical (message : String) (line : Option Int) (text : String)
  /-- A fault of code or of a value. -/
  | fault (fault : Fault)

instance : MonadLift (Except Fault) (Except Error) where
  monadLift
    | .ok a => .ok a
    | .error f => .error (.fault f)

namespace Error

/-- The beginning of an error message that tells where the error is: file, line and column, as far as they
are known, separated by colons. -/
def place (line column : Option Int) (file : Option String) : String :=
  let file := match file with
    | some file => if file.isEmpty then "" else file ++ ":"
    | none => ""
  let position := match line, column with
    | some line, some column => toString line ++ ":" ++ toString column ++ ":"
    | some line, none => toString line ++ ":"
    | none, _ => ""
  let all := file ++ position
  if all.isEmpty then "" else String.ofList (Text.trimEndBy (· == ':') all.toList) ++ " "

/-- The message of an error. A fault of code or of a value has none of its own. -/
def message : Error → String
  | grammarText text line column file => place line column file ++ text
  | malformedRule rule text => "Rule " ++ toString rule ++ ": " ++ text
  | undeclaredState state rule =>
    "Rule " ++ toString rule ++ ": start condition '" ++ state ++ "' is not declared"
  | badPattern rule pattern reason =>
    "Rule " ++ toString rule ++ ": invalid pattern " ++ quote pattern ++ ": " ++ reason
  | badOption option value text => "Option '" ++ option ++ "' = " ++ value.display ++ ": " ++ text
  | macroCycle names => "Cyclic macro reference: " ++ " -> ".intercalate names
  | undefinedMacro name place => "Undefined macro '\x7b" ++ name ++ "\x7d' referenced in " ++ place
  | badAction rule text => "Rule " ++ toString rule ++ " action: " ++ text
  | noSkeleton name => "Template '" ++ name ++ "' not found"
  | missingPlaceholders names =>
    "Placeholder(s) " ++ ", ".intercalate (names.map fun name => "\x7b\x7b" ++ name ++ "\x7d\x7d") ++
      " not found in template"
  | skeleton text | inconsistent text | archive text | grammar text | macros text | general text => text
  | lexical text _ _ => text
  | fault _ => ""

end Error

end LexGen
