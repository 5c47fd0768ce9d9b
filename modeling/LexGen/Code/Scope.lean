import LexGen.Code.Parser.Statement

/-!
# Scopes

Where names occur in code, and which scopes they belong to. A function, a class body or a comprehension is an
inner scope; some of its parts, such as the values of parameters without an argument, belong to the scope
around it.
-/

namespace LexGen.Code

/-- Which scope a declared name belongs to. -/
inductive Declaration where
  | here
  | global
  | nonlocal
  deriving DecidableEq, Repr

/-- What makes an inner scope. -/
inductive ScopeKind where
  | lambda (body : Expr)
  | comprehension
  | function
  | classBody

/-- A name where it occurs, an inner scope, or a place where a function is left for a while. -/
inductive Occurrence where
  /-- A plain name, and whether it is bound there rather than read. -/
  | name (id : String) (binds : Bool) (place : Place)
  /-- A name that is bound by a declaration, a definition, an import, a handler or a pattern. -/
  | declared (id : String) (belongs : Declaration)
  /-- An inner scope: its parts that belong to the scope around, the names of its own and its inside. -/
  | inner (kind : ScopeKind) (outside : List Occurrence) (own : List String) (inside : List Occurrence)
  /-- A place where a function hands out a value, or else waits for one. -/
  | pause (yields : Bool)

namespace Occurrence

/-- The names that are bound in a scope, apart from inner scopes. Plain names count only if `plain` is set. -/
def bound (plain : Bool) (occurrences : List Occurrence) : List String :=
  occurrences.filterMap fun
    | .name id binds _ => if plain && binds then some id else none
    | .declared id _ => some id
    | _ => none

def declaredFor (belongs : Declaration) (occurrences : List Occurrence) : List String :=
  occurrences.filterMap fun
    | .declared id other => if other = belongs then some id else none
    | _ => none

def yields (occurrences : List Occurrence) : Bool :=
  occurrences.any fun
    | .pause yields => yields
    | _ => false

mutual

/-- All plain names, those of inner scopes included. The targets of a comprehension are among them. -/
def allNames : Occurrence → List String
  | .name id _ _ => [id]
  | .declared _ _ => []
  | .pause _ => []
  | .inner .comprehension outside own inside => own ++ listNames outside ++ listNames inside
  | .inner _ outside _ inside => listNames outside ++ listNames inside

def listNames : List Occurrence → List String
  | [] => []
  | o :: os => allNames o ++ listNames os

end

mutual

/-- The places where names that satisfy `p` occur without being hidden by a name of their scope. -/
def visible (p : String → Bool) (hidden : List String) : Occurrence → List (String × Place)
  | .name id _ place => if p id && !hidden.contains id then [(id, place)] else []
  | .declared _ _ => []
  | .pause _ => []
  | .inner _ outside own inside => listVisible p hidden outside ++ listVisible p (hidden ++ own) inside

def listVisible (p : String → Bool) (hidden : List String) : List Occurrence → List (String × Place)
  | [] => []
  | o :: os => visible p hidden o ++ listVisible p hidden os

end

mutual

def lambdas : Occurrence → List Expr
  | .name .. => []
  | .declared .. => []
  | .pause _ => []
  | .inner kind outside _ inside =>
    (match kind with
      | .lambda body => [body]
      | _ => []) ++ listLambdas outside ++ listLambdas inside

def listLambdas : List Occurrence → List Expr
  | [] => []
  | o :: os => lambdas o ++ listLambdas os

end

end Occurrence

def paramNames (params : List Param) : List String := params.map Param.name

/-! ## Expressions -/

mutual

def Expr.occurrences : Expr → List Occurrence
  | .name id usage place => [.name id (usage != .load) place]
  | .constant _ => []
  | .joined pieces => listOccurrences pieces
  | .formatted value _ layout => value.occurrences ++ optionalOccurrences layout
  | .attribute value _ => value.occurrences
  | .subscript value index => value.occurrences ++ index.occurrences
  | .slice lower upper step =>
    optionalOccurrences lower ++ optionalOccurrences upper ++ optionalOccurrences step
  | .call function args keywords =>
    function.occurrences ++ listOccurrences args ++ keywordOccurrences keywords
  | .starred value => value.occurrences
  | .unary _ operand => operand.occurrences
  | .binary _ left right => left.occurrences ++ right.occurrences
  | .boolean _ operands => listOccurrences operands
  | .compare left _ operands => left.occurrences ++ listOccurrences operands
  | .choice test yes no => test.occurrences ++ yes.occurrences ++ no.occurrences
  | .lambda params body _ =>
    [.inner (.lambda body) (fallbackOccurrences params) (paramNames params) body.occurrences]
  | .tuple items => listOccurrences items
  | .list items => listOccurrences items
  | .set items => listOccurrences items
  | .dict entries => entryOccurrences entries
  | .comprehension _ key element clauses =>
    [.inner .comprehension (clauseSource clauses) (clauseNames clauses)
      (clauseOccurrences true clauses ++ optionalOccurrences key ++ element.occurrences)]
  | .bind target value => target.occurrences ++ value.occurrences
  | .await value => .pause false :: value.occurrences
  | .yield value => .pause true :: optionalOccurrences value
  | .yieldFrom value => .pause true :: value.occurrences

def listOccurrences : List Expr → List Occurrence
  | [] => []
  | e :: es => e.occurrences ++ listOccurrences es

def optionalOccurrences : Option Expr → List Occurrence
  | none => []
  | some e => e.occurrences

def keywordOccurrences : List Keyword → List Occurrence
  | [] => []
  | .mk _ value :: keywords => value.occurrences ++ keywordOccurrences keywords

def fallbackOccurrences : List Param → List Occurrence
  | [] => []
  | .mk _ _ _ fallback :: params => optionalOccurrences fallback ++ fallbackOccurrences params

def entryOccurrences : List Entry → List Occurrence
  | [] => []
  | .pair key value :: entries => key.occurrences ++ value.occurrences ++ entryOccurrences entries
  | .spread value :: entries => value.occurrences ++ entryOccurrences entries

/-- The names in what a comprehension goes through first. They belong to the scope around. -/
def clauseSource : List Clause → List Occurrence
  | [] => []
  | .mk _ _ source _ :: _ => source.occurrences

def clauseNames : List Clause → List String
  | [] => []
  | .mk _ target _ _ :: clauses => Occurrence.listNames target.occurrences ++ clauseNames clauses

def clauseOccurrences (first : Bool) : List Clause → List Occurrence
  | [] => []
  | .mk _ _ source conditions :: clauses =>
    (if first then [] else source.occurrences) ++ listOccurrences conditions ++ clauseOccurrences false clauses

end

/-! ## Patterns -/

def capturedName : Option String → List Occurrence
  | some name => [.declared name .here]
  | none => []

mutual

/-- The names that occur in a pattern. The name for the remaining entries of a mapping is not among them. -/
def MatchPattern.occurrences : MatchPattern → List Occurrence
  | .value e => e.occurrences
  | .singleton _ => []
  | .sequence patterns => patternOccurrences patterns
  | .mapping keys patterns _ => listOccurrences keys ++ patternOccurrences patterns
  | .instance kind positional _ named =>
    kind.occurrences ++ patternOccurrences positional ++ patternOccurrences named
  | .star name => capturedName name
  | .capture none name => capturedName name
  | .capture (some pattern) name => capturedName name ++ pattern.occurrences
  | .choice patterns => patternOccurrences patterns

def patternOccurrences : List MatchPattern → List Occurrence
  | [] => []
  | p :: ps => p.occurrences ++ patternOccurrences ps

end

/-! ## Statements -/

def Import.boundName (i : Import) : String :=
  match i.rename with
  | some name => name
  | none => String.ofList (i.name.toList.takeWhile (· != '.'))

def resourceOccurrences (resources : List Resource) : List Occurrence :=
  resources.flatMap fun r => r.value.occurrences ++ optionalOccurrences r.target

/-- The scope of a function or a class. Its own names are the given ones and those bound inside. -/
def innerScope (kind : ScopeKind) (outside : List Occurrence) (own : List String) (inside : List Occurrence) :
    Occurrence :=
  .inner kind outside (own ++ Occurrence.bound true inside) inside

mutual

def Stmt.occurrences : Stmt → List Occurrence
  | .expr value => value.occurrences
  | .assign targets value => listOccurrences targets ++ value.occurrences
  | .update target _ value => target.occurrences ++ value.occurrences
  | .annotate target typeHint value _ =>
    target.occurrences ++ typeHint.occurrences ++ optionalOccurrences value
  | .ret value => optionalOccurrences value
  | .delete targets => listOccurrences targets
  | .pass => []
  | .break => []
  | .continue => []
  | .raise error cause => optionalOccurrences error ++ optionalOccurrences cause
  | .global names => names.map (.declared · .global)
  | .nonlocal names => names.map (.declared · .nonlocal)
  | .assert test message => test.occurrences ++ optionalOccurrences message
  | .importModules modules => modules.map fun i => .declared i.boundName .here
  | .importNames _ _ names => names.map fun i => .declared i.boundName .here
  | .ifThen test body orelse => test.occurrences ++ blockOccurrences body ++ blockOccurrences orelse
  | .while test body orelse => test.occurrences ++ blockOccurrences body ++ blockOccurrences orelse
  | .for _ target source body orelse =>
    target.occurrences ++ source.occurrences ++ blockOccurrences body ++ blockOccurrences orelse
  | .with _ resources body => resourceOccurrences resources ++ blockOccurrences body
  | .try _ body handlers orelse final =>
    blockOccurrences body ++ handlerOccurrences handlers ++ blockOccurrences orelse ++ blockOccurrences final
  | .match subject cases => subject.occurrences ++ caseOccurrences cases
  | .function _ name params body decorators _ _ =>
    [.declared name .here,
      innerScope .function (listOccurrences decorators ++ fallbackOccurrences params) (paramNames params)
        (blockOccurrences body)]
  | .classDef name bases keywords body decorators _ =>
    [.declared name .here,
      innerScope .classBody (listOccurrences decorators ++ listOccurrences bases ++ keywordOccurrences keywords) []
        (blockOccurrences body)]

def blockOccurrences : List Stmt → List Occurrence
  | [] => []
  | s :: rest => s.occurrences ++ blockOccurrences rest

def handlerOccurrences : List Handler → List Occurrence
  | [] => []
  | .mk kind name body :: handlers =>
    optionalOccurrences kind ++ capturedName name ++ blockOccurrences body ++ handlerOccurrences handlers

def caseOccurrences : List Case → List Occurrence
  | [] => []
  | .mk pattern guard body :: cases =>
    pattern.occurrences ++ optionalOccurrences guard ++ blockOccurrences body ++ caseOccurrences cases

end

end LexGen.Code
