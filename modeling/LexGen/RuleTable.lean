import LexGen.Grammar
import LexGen.Macros
import LexGen.Pattern.Compiled

/-!
# Rule tables

The rules of a grammar with their placeholders replaced and their patterns compiled. A table keeps the order
of the rules, because the order decides which of two matches wins.
-/

namespace LexGen

/-- A rule whose pattern has been compiled. -/
structure CompiledRule where
  index : Int
  /-- The pattern as it was written, with the placeholders replaced. -/
  source : Value
  pattern : Pattern

namespace Pattern

def grouped (text : Text) : Text :=
  "(?:".toList ++ text ++ [')']

/-- The error of a pattern that cannot be compiled. `shown` is the pattern as it was written. -/
def Failure.toError (text : Text) (rule : Int) (shown : Text) : Failure → Error
  | .malformed message position =>
    .badPattern rule (String.ofList shown) (Failure.describe text message position)
  | .tooLarge => .fault .overflow
  | .badValue => .fault .badValue

def ofRule [CharacterNames] (text : Text) (rule : Int) (caseInsensitive : Bool) : Except Error Pattern :=
  let whole := grouped text
  match compile whole (if caseInsensitive then PatternFlags.ignoreCase else 0) with
  | .ok pattern => .ok pattern
  | .error failure => .error (failure.toError whole rule text)

def ofText [CharacterNames] (text : String) (flags : PatternFlags) : Except Error Pattern :=
  match compile text.toList flags with
  | .ok pattern => .ok pattern
  | .error .tooLarge => .error (.fault .overflow)
  | .error .badValue => .error (.fault .badValue)
  | .error (.malformed ..) => .error (.fault (.raised "error"))

def toValue (pattern : Pattern) : Value :=
  .pattern (String.ofList pattern.text) pattern.shownFlags

end Pattern

namespace CompiledRule

def render (rule : CompiledRule) : Text :=
  let flags := rule.pattern.shownFlags
  "re.compile(".toList ++ Text.quoted rule.pattern.text ++
    (if flags = PatternFlags.ignoreCase then ", re.I".toList
      else if flags = 0 then []
      else ", ".toList ++ Text.decimal flags) ++ [')']

/-- Compile one rule. `settings` tell whether an undefined macro is an error. -/
def ofRule (settings : Settings) (macros : Macros) (caseInsensitive : Bool) (index : Nat) (rule : Rule) :
    Journaled CompiledRule :=
  match rule.pattern with
  | .compiled text flags => do
    return ⟨index, .str text, ← Pattern.ofText text flags⟩
  | .text text => do
    Macros.check settings macros.names text ("rule " ++ toString index)
    let text := macros.substitute text
    return ⟨index, .str (String.ofList text), ← Pattern.ofRule text index caseInsensitive⟩
  | .other _ => throw (.fault .badType)

end CompiledRule

def compileRules (settings : Settings) (macros : Macros) (caseInsensitive : Bool) (rules : List Rule) :
    Journaled (List CompiledRule) :=
  rules.zipIdx.mapM fun (rule, index) => CompiledRule.ofRule settings macros caseInsensitive index rule

end LexGen
