import LexGen.Callable
import LexGen.Code.Token
import LexGen.Number.Binary64

/-!
# Code as trees

The expressions, patterns and statements that code consists of.
-/

namespace LexGen.Code

/-! ## Parts without parts -/

inductive Constant where
  | none
  | bool (b : Bool)
  | int (n : Nat)
  | float (x : Binary64)
  | imaginary (x : Binary64)
  /-- A text, and whether its literal begins with the letter `u`. -/
  | str (text : Text) (marked : Bool)
  /-- A byte string, given by the characters of its bytes. -/
  | bytes (text : Text)
  | ellipsis

/-- What a name is there for. -/
inductive Usage where
  | load
  | store
  | delete
  deriving DecidableEq, Repr

/-- An operator before an operand. -/
inductive UnaryOp where
  | invert
  | not
  | plus
  | minus
  deriving DecidableEq, Repr

/-- An arithmetic operator between two operands. -/
inductive BinaryOp where
  | add
  | subtract
  | multiply
  | matrix
  | divide
  | remainder
  | shiftLeft
  | shiftRight
  | bitOr
  | bitXor
  | bitAnd
  | floorDivide
  | power
  deriving DecidableEq, Repr

inductive Comparison where
  | equal
  | notEqual
  | less
  | lessEqual
  | greater
  | greaterEqual
  | is
  | isNot
  | isIn
  | notIn
  deriving DecidableEq, Repr

inductive Comprehension where
  | list
  | set
  | generator
  | dict
  deriving DecidableEq, Repr

/-! ## Expressions -/

mutual

inductive Expr where
  | name (id : String) (usage : Usage) (place : Place)
  | constant (value : Constant)
  /-- A literal with expressions inside: its literal pieces and formatted values in order. -/
  | joined (pieces : List Expr)
  | formatted (value : Expr) (conversion : Option Char) (layout : Option Expr)
  | attribute (value : Expr) (name : String)
  | subscript (value index : Expr)
  | slice (lower upper step : Option Expr)
  | call (function : Expr) (args : List Expr) (keywords : List Keyword)
  | starred (value : Expr)
  | unary (op : UnaryOp) (operand : Expr)
  | binary (op : BinaryOp) (left right : Expr)
  /-- Operands joined by `and`, or else by `or`. -/
  | boolean (conjunction : Bool) (operands : List Expr)
  | compare (left : Expr) (ops : List Comparison) (operands : List Expr)
  | choice (test yes no : Expr)
  | lambda (params : List Param) (body : Expr) (line : Nat)
  | tuple (items : List Expr)
  | list (items : List Expr)
  | set (items : List Expr)
  | dict (entries : List Entry)
  /-- A comprehension; the key is there for a mapping. -/
  | comprehension (kind : Comprehension) (key : Option Expr) (element : Expr) (clauses : List Clause)
  | bind (target value : Expr)
  | await (value : Expr)
  | yield (value : Option Expr)
  | yieldFrom (value : Expr)

/-- An argument with a name, or a mapping of such arguments. -/
inductive Keyword where
  | mk (name : Option String) (value : Expr)

inductive Param where
  | mk (kind : ParameterKind) (name : String) (typeHint fallback : Option Expr)

/-- An entry of a mapping, or a mapping whose entries are taken over. -/
inductive Entry where
  | pair (key value : Expr)
  | spread (value : Expr)

/-- A part of a comprehension that goes through values. -/
inductive Clause where
  | mk (awaited : Bool) (target source : Expr) (conditions : List Expr)

end

instance : Inhabited Expr := ⟨.constant .none⟩

/-! ## Patterns -/

/-- A pattern of a `match` statement. -/
inductive MatchPattern where
  | value (e : Expr)
  | singleton (c : Constant)
  | sequence (patterns : List MatchPattern)
  | mapping (keys : List Expr) (patterns : List MatchPattern) (rest : Option String)
  | instance (kind : Expr) (positional : List MatchPattern) (names : List String) (named : List MatchPattern)
  | star (name : Option String)
  /-- A pattern with a name, a name alone, or the pattern that matches everything. -/
  | capture (pattern : Option MatchPattern) (name : Option String)
  | choice (patterns : List MatchPattern)

/-! ## Statements -/

/-- An imported name and what it is called. -/
structure Import where
  name : String
  rename : Option String

/-- A value that a `with` statement opens, and what it is called. -/
structure Resource where
  value : Expr
  target : Option Expr

mutual

inductive Stmt where
  | expr (value : Expr)
  | assign (targets : List Expr) (value : Expr)
  | update (target : Expr) (op : BinaryOp) (value : Expr)
  /-- An annotated name; `plain` tells that it is a name without parentheses. -/
  | annotate (target typeHint : Expr) (value : Option Expr) (plain : Bool)
  | ret (value : Option Expr)
  | delete (targets : List Expr)
  | pass
  | break
  | continue
  | raise (error cause : Option Expr)
  | global (names : List String)
  | nonlocal (names : List String)
  | assert (test : Expr) (message : Option Expr)
  | importModules (modules : List Import)
  | importNames (path : Option String) (level : Nat) (names : List Import)
  | ifThen (test : Expr) (body orelse : List Stmt)
  | while (test : Expr) (body orelse : List Stmt)
  | for (awaited : Bool) (target source : Expr) (body orelse : List Stmt)
  | with (awaited : Bool) (resources : List Resource) (body : List Stmt)
  /-- Statements with handlers for errors; `groups` tells that the handlers take groups of errors. -/
  | try (groups : Bool) (body : List Stmt) (handlers : List Handler) (orelse final : List Stmt)
  | match (subject : Expr) (cases : List Case)
  /-- A function; the line is that of its first decorator or else of its definition. -/
  | function (awaited : Bool) (name : String) (params : List Param) (body : List Stmt) (decorators : List Expr)
      (result : Option Expr) (line : Nat)
  | classDef (name : String) (bases : List Expr) (keywords : List Keyword) (body : List Stmt)
      (decorators : List Expr) (line : Nat)

inductive Handler where
  | mk (kind : Option Expr) (name : Option String) (body : List Stmt)

/-- A case of a `match` statement. -/
inductive Case where
  | mk (pattern : MatchPattern) (guard : Option Expr) (body : List Stmt)

end

instance : Inhabited Stmt := ⟨.pass⟩

def Param.name : Param → String
  | .mk _ name _ _ => name

def Param.kind : Param → ParameterKind
  | .mk kind _ _ _ => kind

def Param.fallback : Param → Option Expr
  | .mk _ _ _ fallback => fallback

end LexGen.Code
