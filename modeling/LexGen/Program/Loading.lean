import LexGen.Emission.Module
import LexGen.Program.Module

/-!
# Scanners of emitted modules

An emitted module becomes a scanner by running its text. The engine at its beginning is not run; what it
defines is bound from the start.
-/

namespace LexGen.Program

def engineNames : List String :=
  [patternModule, "sys", "Callable", "Iterator", "Mapping", "Sequence", "dataclass", "SimpleNamespace", "Any",
    "TextIO", "LexicalError", "Location", "Token", scannerClass]

def engineGlobals : Bindings :=
  ("__name__", .str "relex_generated") :: engineNames.map fun name => (name, .reference (.builtin name))

/-- Run a function without parameters to its end, even if a call of it would only yield something that runs
it later. -/
def runToEnd (function : Value) : Exec Value := do
  match function with
  | .reference (.function id _) => do
    match (← memory).functions[id]? with
    | some f => runBody makeCall f (← settle (bindArguments f.params [] []))
    | none => fail .badType
  | function => makeCall function [] []

/-- Run the text of an emitted module, without the engine. Yields the scanner. -/
def loadModule (convention : Convention) (text : Text) : Exec Value := do
  let scope ← runModule text engineGlobals
  match convention with
  | .bare | .syncImport => globalOf scope "lexer"
  | .asyncDefine => do runToEnd (← globalOf scope "define")

end LexGen.Program
