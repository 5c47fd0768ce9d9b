import LexGen.Text.Basic

/-!
# Callables

What the compiler of a lexer has to know about a callable that serves as an action: how it is shown, which
parameters it declares, the source text of its definition, and where to find it when it has to run.
-/

namespace LexGen

/-- How arguments reach a parameter. -/
inductive ParameterKind where
  | positionalOnly
  | positionalOrKeyword
  | positionals
  | keywordOnly
  | keywords
  deriving DecidableEq, Repr

/-- A parameter of a callable. -/
structure Parameter where
  name : String
  kind : ParameterKind
  hasDefault : Bool := false
  deriving DecidableEq, Repr

/-- Where a callable comes from. -/
inductive Origin where
  /-- The global of that name, after running the text of a module. -/
  | module (moduleName : String) (text : Text) (name : String)
  | builtin (name : String)
  deriving DecidableEq, Repr

/-- The source text of a definition. -/
inductive Definition where
  | text (t : Text)
  | unavailable
  /-- The text of the module breaks off before the end of the definition. -/
  | brokenOff
  deriving DecidableEq, Repr

structure Callable where
  display : String
  typeName : String
  name? : Option String
  /-- The declared parameters, unless they cannot be found out. -/
  parameters? : Option (List Parameter)
  definition : Definition
  origin : Origin
  deriving DecidableEq, Repr

def unnamedFunction : String := "<lambda>"

namespace Callable

def label (c : Callable) : String :=
  c.name?.getD c.typeName

/-- The callable with no argument bound in advance. It keeps the parameters but has no name or source. -/
def deferred (c : Callable) : Callable :=
  { c with
    display := "functools.partial(" ++ c.display ++ ")"
    typeName := "partial"
    name? := none
    definition := .unavailable }

/-- The callable under another name. It is shown as before. -/
def rename (name : String) (c : Callable) : Callable := { c with name? := some name }

def withoutDefinition (c : Callable) : Callable := { c with definition := .unavailable }

def defaulted (name : String) : Parameter := ⟨name, .keywordOnly, true⟩

def builtin? : String → Option Callable
  | "len" => some ⟨"<built-in function len>", "builtin_function_or_method", some "len",
      some [⟨"obj", .positionalOnly, false⟩], .unavailable, .builtin "len"⟩
  | "print" => some ⟨"<built-in function print>", "builtin_function_or_method", some "print",
      some (⟨"args", .positionals, false⟩ :: ["sep", "end", "file", "flush"].map defaulted),
      .unavailable, .builtin "print"⟩
  | "max" => some ⟨"<built-in function max>", "builtin_function_or_method", some "max", none,
      .unavailable, .builtin "max"⟩
  | "dict" => some ⟨"<class 'dict'>", "type", some "dict", none, .unavailable, .builtin "dict"⟩
  | _ => none

end Callable

end LexGen
