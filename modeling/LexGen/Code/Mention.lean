import LexGen.Code.Scope

/-!
# Names that are mentioned

What code says about names, as far as the scopes that they belong to depend on it. A function, a class body and a
comprehension are scopes. A name that is bound by an expression in a comprehension belongs to the scope around. Type
hints are part of the code like other expressions.
-/

namespace LexGen.Code

/-! ## Mentions -/

/-- What a name is there for. -/
inductive Role where
  | read
  | bound
  | boundWithin
  deriving DecidableEq

/-- A name where it is mentioned, or a scope with what is mentioned in it. -/
inductive Mention where
  | name (id : String) (role : Role) (place : Place)
  /-- A name that is bound by a declaration, a definition, an import, a handler or a pattern. -/
  | declared (id : String) (belongs : Declaration)
  | rest (id : String)
  | pause (yields : Bool)
  | function (outside hints : List Mention) (params : List String) (inside : List Mention)
  | lambda (body : Expr) (outside : List Mention) (params : List String) (inside : List Mention)
  | classBody (outside inside : List Mention)
  | comprehension (source targets inside : List Mention)

namespace Mention

def within : Mention → Mention
  | .name id .bound place => .name id .boundWithin place
  | m => m

/-! ## Names that are bound -/

mutual

def escaping : Mention → List String
  | .name id .boundWithin _ => [id]
  | .name .. => []
  | .declared .. => []
  | .rest _ => []
  | .pause _ => []
  | .function outside hints _ _ => listEscaping outside ++ listEscaping hints
  | .lambda _ outside _ _ => listEscaping outside
  | .classBody outside _ => listEscaping outside
  | .comprehension source targets inside => listEscaping source ++ listEscaping targets ++ listEscaping inside

def listEscaping : List Mention → List String
  | [] => []
  | m :: ms => escaping m ++ listEscaping ms

end

/-- The names that a mention carries into the scope around from beside an inner scope or from inside of a
comprehension. -/
def carried : Mention → List String
  | .name .. => []
  | m => escaping m

def surface : Mention → List String
  | .name _ .read _ => []
  | .name id _ _ => [id]
  | .declared id _ => [id]
  | .rest id => [id]
  | _ => []

/-- The names that the mentions of a scope bind. What is declared to belong to another scope counts, too. -/
def bound (inside : List Mention) : List String :=
  inside.flatMap surface ++ inside.flatMap carried

end Mention

/-! ## Mentions in code -/

mutual

def Expr.mentions : Expr → List Mention
  | .name id usage place => [.name id (if usage = .load then .read else .bound) place]
  | .constant _ => []
  | .joined pieces => listMentions pieces
  | .formatted value _ layout => value.mentions ++ optionalMentions layout
  | .attribute value _ => value.mentions
  | .subscript value index => value.mentions ++ index.mentions
  | .slice lower upper step => optionalMentions lower ++ optionalMentions upper ++ optionalMentions step
  | .call function args keywords => function.mentions ++ listMentions args ++ keywordMentions keywords
  | .starred value => value.mentions
  | .unary _ operand => operand.mentions
  | .binary _ left right => left.mentions ++ right.mentions
  | .boolean _ operands => listMentions operands
  | .compare left _ operands => left.mentions ++ listMentions operands
  | .choice test yes no => test.mentions ++ yes.mentions ++ no.mentions
  | .lambda params body _ => [.lambda body (fallbackMentions params) (paramNames params) body.mentions]
  | .tuple items => listMentions items
  | .list items => listMentions items
  | .set items => listMentions items
  | .dict entries => entryMentions entries
  | .comprehension _ key element clauses =>
    [.comprehension (sourceMentions clauses) (targetMentions clauses)
      (clauseMentions true clauses ++ optionalMentions key ++ element.mentions)]
  | .bind target value => target.mentions.map Mention.within ++ value.mentions
  | .await value => .pause false :: value.mentions
  | .yield value => .pause true :: optionalMentions value
  | .yieldFrom value => .pause true :: value.mentions

def listMentions : List Expr → List Mention
  | [] => []
  | e :: es => e.mentions ++ listMentions es

def optionalMentions : Option Expr → List Mention
  | none => []
  | some e => e.mentions

def keywordMentions : List Keyword → List Mention
  | [] => []
  | .mk _ value :: keywords => value.mentions ++ keywordMentions keywords

def fallbackMentions : List Param → List Mention
  | [] => []
  | .mk _ _ _ fallback :: params => optionalMentions fallback ++ fallbackMentions params

def hintMentions : List Param → List Mention
  | [] => []
  | .mk _ _ typeHint _ :: params => optionalMentions typeHint ++ hintMentions params

def entryMentions : List Entry → List Mention
  | [] => []
  | .pair key value :: entries => key.mentions ++ value.mentions ++ entryMentions entries
  | .spread value :: entries => value.mentions ++ entryMentions entries

def sourceMentions : List Clause → List Mention
  | [] => []
  | .mk _ _ source _ :: _ => source.mentions

def targetMentions : List Clause → List Mention
  | [] => []
  | .mk _ target _ _ :: clauses => target.mentions ++ targetMentions clauses

/-- The mentions in the clauses of a comprehension, apart from its targets and what it goes through first. -/
def clauseMentions (first : Bool) : List Clause → List Mention
  | [] => []
  | .mk _ _ source conditions :: clauses =>
    (if first then [] else source.mentions) ++ listMentions conditions ++ clauseMentions false clauses

end

def captureMentions : Option String → List Mention
  | some name => [.declared name .here]
  | none => []

mutual

def MatchPattern.mentions : MatchPattern → List Mention
  | .value e => e.mentions
  | .singleton _ => []
  | .sequence patterns => patternMentions patterns
  | .mapping keys patterns rest => listMentions keys ++ patternMentions patterns ++ rest.toList.map .rest
  | .instance kind positional _ named => kind.mentions ++ patternMentions positional ++ patternMentions named
  | .star name => captureMentions name
  | .capture none name => captureMentions name
  | .capture (some pattern) name => captureMentions name ++ pattern.mentions
  | .choice patterns => patternMentions patterns

def patternMentions : List MatchPattern → List Mention
  | [] => []
  | p :: ps => p.mentions ++ patternMentions ps

end

def resourceMentions (resources : List Resource) : List Mention :=
  resources.flatMap fun r => r.value.mentions ++ optionalMentions r.target

mutual

def Stmt.mentions : Stmt → List Mention
  | .expr value => value.mentions
  | .assign targets value => listMentions targets ++ value.mentions
  | .update target _ value => target.mentions ++ value.mentions
  | .annotate target typeHint value _ => target.mentions ++ typeHint.mentions ++ optionalMentions value
  | .ret value => optionalMentions value
  | .delete targets => listMentions targets
  | .pass => []
  | .break => []
  | .continue => []
  | .raise error cause => optionalMentions error ++ optionalMentions cause
  | .global names => names.map (.declared · .global)
  | .nonlocal names => names.map (.declared · .nonlocal)
  | .assert test message => test.mentions ++ optionalMentions message
  | .importModules modules => modules.map fun i => .declared i.boundName .here
  | .importNames _ _ names => names.map fun i => .declared i.boundName .here
  | .ifThen test body orelse => test.mentions ++ blockMentions body ++ blockMentions orelse
  | .while test body orelse => test.mentions ++ blockMentions body ++ blockMentions orelse
  | .for _ target source body orelse =>
    target.mentions ++ source.mentions ++ blockMentions body ++ blockMentions orelse
  | .with _ resources body => resourceMentions resources ++ blockMentions body
  | .try _ body handlers orelse final =>
    blockMentions body ++ handlerMentions handlers ++ blockMentions orelse ++ blockMentions final
  | .match subject cases => subject.mentions ++ caseMentions cases
  | .function _ name params body decorators result _ =>
    [.declared name .here,
      .function (listMentions decorators ++ fallbackMentions params) (hintMentions params ++ optionalMentions result)
        (paramNames params) (blockMentions body)]
  | .classDef name bases keywords body decorators _ =>
    [.declared name .here,
      .classBody (listMentions decorators ++ listMentions bases ++ keywordMentions keywords) (blockMentions body)]

def blockMentions : List Stmt → List Mention
  | [] => []
  | s :: rest => s.mentions ++ blockMentions rest

def handlerMentions : List Handler → List Mention
  | [] => []
  | .mk kind name body :: handlers =>
    optionalMentions kind ++ captureMentions name ++ blockMentions body ++ handlerMentions handlers

def caseMentions : List Case → List Mention
  | [] => []
  | .mk pattern guard body :: cases =>
    pattern.mentions ++ optionalMentions guard ++ blockMentions body ++ caseMentions cases

end

end LexGen.Code
