import LexGen.Callable
import LexGen.Code.Printer
import LexGen.Code.Scope
import LexGen.Error
import LexGen.Text.Lines

/-!
# Callable actions

A callable action declares which parts of the state of the scanner it wants as arguments. Where an action has
to be text, the statements of a callable are recovered from the text of its definition.
-/

namespace LexGen.Action

open Code

/-! ## Parameters -/

def callbackArguments : List String :=
  ["yytext", "yyleng", "yylineno", "yylloc", "yy", "yy_", "yy_start"]

/-- The arguments that a callable with the given parameters gets. One that takes arguments of any name gets
all. `found` holds the names found so far. -/
def argumentsFor (rule : Int) (found : List String) : List Parameter → Except Error (List String)
  | [] => .ok found
  | p :: params =>
    match p.kind with
    | .keywords => .ok callbackArguments
    | .positionals => argumentsFor rule found params
    | _ =>
      if callbackArguments.contains p.name then argumentsFor rule (found ++ [p.name]) params
      else if p.hasDefault then argumentsFor rule found params
      else .error (.malformedRule rule ("action parameter " ++ quote p.name ++ " is not an action variable"))

def callbackParameters (rule : Int) (c : Callable) : Except Error (List String) :=
  match c.parameters? with
  | some params => argumentsFor rule [] params
  | none => .error (.malformedRule rule ("cannot inspect action " ++ c.display))

/-! ## Statements -/

mutual

def functionsIn (depth : Nat) : Stmt → List (Nat × String × List Stmt)
  | .function _ name _ body _ _ _ => (depth, name, body) :: functionsInAll (depth + 1) body
  | .classDef _ _ _ body _ _ => functionsInAll (depth + 1) body
  | .ifThen _ body orelse => functionsInAll (depth + 1) body ++ functionsInAll (depth + 1) orelse
  | .while _ body orelse => functionsInAll (depth + 1) body ++ functionsInAll (depth + 1) orelse
  | .for _ _ _ body orelse => functionsInAll (depth + 1) body ++ functionsInAll (depth + 1) orelse
  | .with _ _ body => functionsInAll (depth + 1) body
  | .try _ body handlers orelse final =>
    functionsInAll (depth + 1) body ++ functionsInHandlers (depth + 2) handlers ++
      functionsInAll (depth + 1) orelse ++ functionsInAll (depth + 1) final
  | .match _ cases => functionsInCases (depth + 2) cases
  | _ => []

def functionsInAll (depth : Nat) : List Stmt → List (Nat × String × List Stmt)
  | [] => []
  | s :: rest => functionsIn depth s ++ functionsInAll depth rest

def functionsInHandlers (depth : Nat) : List Handler → List (Nat × String × List Stmt)
  | [] => []
  | .mk _ _ body :: handlers => functionsInAll depth body ++ functionsInHandlers depth handlers

def functionsInCases (depth : Nat) : List Case → List (Nat × String × List Stmt)
  | [] => []
  | .mk _ _ body :: cases => functionsInAll depth body ++ functionsInCases depth cases

end

def outermost (best : Option (Nat × List Stmt)) (function : Nat × String × List Stmt) :
    Option (Nat × List Stmt) :=
  match best with
  | some (depth, body) => if function.1 < depth then some (function.1, function.2.2) else some (depth, body)
  | none => some (function.1, function.2.2)

def bodyOf? (name : String) (statements : List Stmt) : Option (List Stmt) :=
  (((functionsInAll 0 statements).filter fun function => function.2.1 == name).foldl outermost none).map (·.2)

def printed : Option Text → Except Error Text
  | some text => .ok text
  | none => .error (.fault .badValue)

/-- The statements of the callable of the given name that is defined in a piece of code. -/
def statementsOf (rule : Int) (name : String) (code : List Stmt) : Except Error Text :=
  if name == unnamedFunction then
    match Occurrence.listLambdas (blockOccurrences code) with
    | [body] => do return "return ".toList ++ (← printed body.toText)
    | _ => .error (.badAction rule "lambda source is ambiguous; use a def")
  else
    match bodyOf? name code with
    | some body => do return Text.join ['\n'] (← body.mapM fun s => printed s.toText)
    | none => .error (.badAction rule ("definition of " ++ quote name ++ " not found in its source"))

def callbackBody (rule : Int) (c : Callable) : Except Error Text :=
  match c.definition with
  | .unavailable => .error (.badAction rule ("source of " ++ c.display ++ " is not available"))
  | .brokenOff => .error (.fault .unreadableCode)
  | .text text =>
    match parse? (Text.dedent text) with
    | none => .error (.badAction rule ("source of " ++ c.display ++ " cannot be isolated"))
    | some code => statementsOf rule (c.name?.getD "") code

end LexGen.Action
