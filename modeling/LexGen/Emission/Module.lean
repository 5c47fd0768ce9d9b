import LexGen.CompiledLexer
import LexGen.Emission.Engine
import LexGen.Emission.Skeleton
import LexGen.Value.Layout

/-!
# Emitted modules

A compiled lexer is emitted as the text of a module. Its unit, the engine followed by a filled skeleton,
defines a class of scanners; each convention adds to the unit what hands out a scanner. The functions take
the text of the engine as an argument, because nothing else depends on it.
-/

namespace LexGen.Emission

/-! ## Replacements -/

def blockText : Value → Except Error Text
  | .str s => .ok s.toList
  | _ => .error (.fault .badType)

def rulesText (rules : List CompiledRule) : Text :=
  if rules.isEmpty then "()".toList
  else
    "(\n".toList ++ rules.flatMap (fun rule => Text.spaces 8 ++ rule.render ++ ",\n".toList) ++
      Text.spaces 4 ++ [')']

def values (lexer : CompiledLexer) : Except Error (List (Placeholder × Text)) := do
  let block ← blockText lexer.actionInclude
  return [(.rules, rulesText lexer.rules),
    (.conditions, lexer.conditionTable.laidOut 0 0),
    (.options, (← (Value.dict lexer.options.toEntries).shown).toList),
    (.actionInclude, Text.trimBy Text.isFeed (Text.dedent block)),
    (.stateActions, Text.indent (Text.spaces 8) lexer.dispatch)]

/-! ## The parts of a module -/

def header : Text := "# generated by relex 0.1.0\n".toList

/-- The unit: the engine and the class of scanners. `skeleton` is the name of a skeleton. -/
def unit (settings : Settings) (engine : Text) (skeleton : Option String) (lexer : CompiledLexer) :
    Except Error Text := do
  let frame ← Skeleton.load settings skeleton
  let body ← Skeleton.render frame (← values lexer)
  return header ++ engine ++ "\n\n\n".toList ++ body ++ ['\n']

def includeText (indent : Text) (lexer : CompiledLexer) : Except Error Text :=
  if !lexer.moduleInclude.truthy then .ok []
  else do
    return '\n' :: Text.indent indent (Text.dedent (← blockText lexer.moduleInclude)) ++ ['\n']

def newScanner : Text := Skeleton.className ++ "()".toList

def exports (name : Text) : Text :=
  "\n\n".toList ++ name ++ " = ".toList ++ newScanner ++ "\nlexer = ".toList ++ name ++
    "\n\n\ndef lex():\n    return lexer.lex()\n\n\n__all__ = [\"lexer\", \"lex\"]\n".toList

def closing (convention : Convention) (lexer : CompiledLexer) : Except Error Text :=
  match convention with
  | .bare => do
    return "\n\nlexer = ".toList ++ newScanner ++ ['\n'] ++ (← includeText [] lexer)
  | .syncImport => do
    return exports lexer.options.moduleName.toList ++ (← includeText [] lexer)
  | .asyncDefine => do
    return "\n\nasync def define():\n    lexer = ".toList ++ newScanner ++ ['\n'] ++
      (← includeText (Text.spaces 4) lexer) ++ "    return lexer\n".toList

def moduleText (settings : Settings) (engine : Text) (skeleton : Option String) (convention : Convention)
    (lexer : CompiledLexer) : Except Error Text := do
  let unit ← unit settings engine skeleton lexer
  return unit ++ (← closing convention lexer)

/-! ## Emission -/

def channel : String := "relex.emitter"

def conventionFor (lexer : CompiledLexer) : Value → Except Error Convention
  | .none => .ok lexer.options.convention
  | wanted => Convention.ofValue wanted

def emit (settings : Settings) (engine : Text) (wanted : Value) (skeleton : Option String)
    (lexer : CompiledLexer) : Journaled Text := do
  let convention ← conventionFor lexer wanted
  Journal.note .debug channel
    ("Emitting " ++ convention.name ++ " module (" ++ toString lexer.rules.length ++ " rule(s))")
  moduleText settings engine skeleton convention lexer

end LexGen.Emission
