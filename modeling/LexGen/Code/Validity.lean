import LexGen.Code.Symbols
import LexGen.Value.Operators

/-!
# Validity

Code that can be read may still make no sense: a loop is left outside of a loop, or a name is said to belong to
a function around that does not exist. Code with such a fault is refused before any of it runs.

Names are taken as they are written: a name of a class body that begins with two underscores is not joined with the
name of the class. An import of `annotations` from `__future__` does not change how type hints are looked at.
-/

namespace LexGen.Code

/-! ## Surroundings -/

structure Surroundings where
  block : Block := .module
  /-- Whether the code may wait for values. -/
  awaited : Bool := false
  yields : Bool := false
  inLoop : Bool := false
  inGroup : Bool := false
  depth : Nat := 0
  inComprehension : Bool := false
  iterated : List String := []
  inSource : Bool := false
  /-- Whether the code ever runs. The type hints inside a function do not. -/
  runs : Bool := true

def Surroundings.requires (c : Surroundings) (condition : Bool) : Bool := !c.runs || condition

def maxDepth : Nat := 20

def Surroundings.inside (c : Surroundings) (blocks : Nat) : Surroundings := { c with depth := c.depth + blocks }

def distinctNames : List String → Bool
  | [] => true
  | name :: names => !names.contains name && distinctNames names

def fixedName : String := "__debug__"

/-- Whether a list of targets has at most one that takes what the others leave, and that one is within reach. -/
def starsValid {α : Type} (isStar : α → Bool) (items : List α) : Bool :=
  items.countP isStar ≤ 1 && (!items.any isStar || (items.takeWhile (!isStar ·)).length < 256)

def Expr.isStarred : Expr → Bool
  | .starred _ => true
  | _ => false

def iteratedNames (target : Expr) : List String :=
  target.mentions.filterMap fun
    | .name id _ _ => some id
    | _ => none

def boundBeside (conditions : List Expr) : List String :=
  (listMentions conditions).flatMap fun
    | .name id .boundWithin _ => [id]
    | .lambda _ outside _ _ => Mention.listEscaping outside
    | _ => []

/-! ## Expressions -/

mutual

def Expr.isValid (c : Surroundings) : Expr → Bool
  | .name id usage _ => c.requires (usage = .load || id != fixedName)
  | .constant _ => true
  | .joined pieces => allValid c pieces
  | .formatted value _ layout => value.isValid c && optionalValid c layout
  | .attribute value _ => value.isValid c
  | .subscript value index => value.isValid c && index.isValid c
  | .slice lower upper step => optionalValid c lower && optionalValid c upper && optionalValid c step
  | .call function args keywords =>
    function.isValid c && itemsValid c args && c.requires (argumentsValid (keywordNames keywords)) &&
      keywordsValid c keywords
  | .starred value => c.requires false && value.isValid c
  | .unary _ operand => operand.isValid c
  | .binary _ left right => left.isValid c && right.isValid c
  | .boolean _ operands => allValid c operands
  | .compare left _ operands => left.isValid c && allValid c operands
  | .choice test yes no => test.isValid c && yes.isValid c && no.isValid c
  | .lambda params body _ =>
    distinctNames (paramNames params) && c.requires (!(paramNames params).contains fixedName) &&
      paramsValid c params && body.isValid { block := .function, inSource := c.inSource, runs := c.runs }
  | .tuple items => itemsValid c items
  | .list items => itemsValid c items
  | .set items => itemsValid c items
  | .dict entries => entriesValid c entries
  | .comprehension kind key element clauses =>
    let inside : Surroundings := { c with awaited := c.awaited || kind = .generator, inComprehension := true }
    let bound := clauseTargets clauses
    clausesValid c inside true [] clauses &&
      optionalValid { inside with iterated := c.iterated ++ bound } key &&
      element.isValid { inside with iterated := c.iterated ++ bound }
  | .bind target value =>
    !c.inSource && !(c.inComprehension && (c.block = .classBody || (iteratedNames target).any c.iterated.contains)) &&
      target.isValid c && value.isValid c
  | .await value => c.requires c.awaited && value.isValid c
  | .yield value => c.requires (c.block = .function) && !c.inComprehension && optionalValid c value
  | .yieldFrom value =>
    c.requires (c.block = .function && !c.awaited) && !c.inComprehension && value.isValid c

def allValid (c : Surroundings) : List Expr → Bool
  | [] => true
  | e :: es => e.isValid c && allValid c es

def itemsValid (c : Surroundings) : List Expr → Bool
  | [] => true
  | .starred e :: es => e.isValid c && itemsValid c es
  | e :: es => e.isValid c && itemsValid c es

def optionalValid (c : Surroundings) : Option Expr → Bool
  | none => true
  | some e => e.isValid c

def keywordNames : List Keyword → List String
  | [] => []
  | .mk (some name) _ :: keywords => name :: keywordNames keywords
  | .mk none _ :: keywords => keywordNames keywords

def argumentsValid (names : List String) : Bool := distinctNames names && !names.contains fixedName

def keywordsValid (c : Surroundings) : List Keyword → Bool
  | [] => true
  | .mk _ value :: keywords => value.isValid c && keywordsValid c keywords

def paramsValid (c : Surroundings) : List Param → Bool
  | [] => true
  | .mk _ _ typeHint fallback :: params =>
    hintValid c typeHint && optionalValid c fallback && paramsValid c params

/-- Whether the type hint of a parameter makes sense, if there is one. It may be starred. -/
def hintValid (c : Surroundings) : Option Expr → Bool
  | none => true
  | some (.starred e) => e.isValid c
  | some e => e.isValid c

def entriesValid (c : Surroundings) : List Entry → Bool
  | [] => true
  | .pair key value :: entries => key.isValid c && value.isValid c && entriesValid c entries
  | .spread value :: entries => value.isValid c && entriesValid c entries

def clauseTargets : List Clause → List String
  | [] => []
  | .mk _ target _ _ :: clauses => iteratedNames target ++ clauseTargets clauses

/-- Whether the clauses of a comprehension make sense. What the first one goes through stands outside. `bound` holds
the names that conditions of earlier clauses bind; the targets cannot bind them again. -/
def clausesValid (outside inside : Surroundings) (first : Bool) (bound : List String) : List Clause → Bool
  | [] => true
  | .mk awaited target source conditions :: clauses =>
    let names := iteratedNames target
    let here : Surroundings := { inside with iterated := inside.iterated ++ names }
    inside.requires (!awaited || inside.awaited) && !names.any bound.contains && targetValid here target &&
      source.isValid { (if first then outside else here) with inSource := true } && allValid here conditions &&
      clausesValid outside here false (bound ++ boundBeside conditions) clauses

def targetValid (c : Surroundings) : Expr → Bool
  | .tuple items => c.requires (starsValid Expr.isStarred items) && targetItemsValid c items
  | .list items => c.requires (starsValid Expr.isStarred items) && targetItemsValid c items
  | .name id _ _ => c.requires (id != fixedName)
  | .attribute value name => c.requires (name != fixedName) && value.isValid c
  | .subscript value index => value.isValid c && index.isValid c
  | _ => false

def targetItemsValid (c : Surroundings) : List Expr → Bool
  | [] => true
  | .starred e :: es => targetValid c e && targetItemsValid c es
  | e :: es => targetValid c e && targetItemsValid c es

end

/-! ## Patterns -/

mutual

def MatchPattern.boundNames : MatchPattern → List String
  | .value _ => []
  | .singleton _ => []
  | .sequence patterns => patternNames patterns
  | .mapping _ patterns rest => patternNames patterns ++ rest.toList
  | .instance _ positional _ named => patternNames positional ++ patternNames named
  | .star name => name.toList
  | .capture none name => name.toList
  | .capture (some pattern) name => pattern.boundNames ++ name.toList
  | .choice [] => []
  | .choice (pattern :: _) => pattern.boundNames

def patternNames : List MatchPattern → List String
  | [] => []
  | p :: ps => p.boundNames ++ patternNames ps

end

def MatchPattern.isStar : MatchPattern → Bool
  | .star _ => true
  | _ => false

def sameNames (names others : List String) : Bool :=
  names.all others.contains && others.all names.contains

def literalKey? : Expr → Option (Value × Binary64)
  | .constant (.imaginary y) => some (.int 0, y)
  | .unary .minus (.constant (.imaginary y)) => some (.int 0, y.negate)
  | .unary .minus (.constant (.int n)) => some (.int (-n), Binary64.ofInt 0)
  | .unary .minus (.constant (.float x)) => some (.float x.negate, Binary64.ofInt 0)
  | .binary .add real (.constant (.imaginary y)) => (literalKey? real).map fun key => (key.1, y)
  | .binary .subtract real (.constant (.imaginary y)) => (literalKey? real).map fun key => (key.1, y.negate)
  | .constant c => some (c.value, Binary64.ofInt 0)
  | _ => none

def distinctKeys : List Expr → Bool
  | [] => true
  | key :: keys =>
    (match literalKey? key with
      | some (value, y) => !(keys.filterMap literalKey?).any fun other => value.same other.1 && y.same other.2
      | none => true) && distinctKeys keys

mutual

/-- Whether a pattern makes sense. `last` tells that it may fit every value, since nothing comes after it. -/
def MatchPattern.isValid (last : Bool) : MatchPattern → Bool
  | .value _ => true
  | .singleton _ => true
  | .sequence patterns => starsValid MatchPattern.isStar patterns && patternsValid patterns
  | .mapping keys patterns _ => distinctKeys keys && patternsValid patterns
  | .instance _ positional names named => argumentsValid names && patternsValid positional && patternsValid named
  | .star _ => true
  | .capture none _ => last
  | .capture (some pattern) _ => pattern.isValid last
  | .choice patterns =>
    let names := (patterns.map MatchPattern.boundNames)
    names.all (fun own => distinctNames own && sameNames (names.headD []) own) && choicesValid last patterns

def patternsValid : List MatchPattern → Bool
  | [] => true
  | p :: ps => p.isValid true && patternsValid ps

def choicesValid (last : Bool) : List MatchPattern → Bool
  | [] => true
  | [p] => p.isValid last
  | p :: ps => p.isValid false && choicesValid last ps

end

/-! ## Statements -/

def languageModule : String := "__future__"

def languageChanges : List String :=
  ["nested_scopes", "generators", "division", "absolute_import", "with_statement", "print_function", "unicode_literals",
    "barry_as_FLUFL", "generator_stop", "annotations"]

def importValid (c : Surroundings) (names : List Import) : Bool :=
  (c.block = .module || !names.any (·.name == "*")) && !names.any (·.boundName == fixedName)

def resourcesValid (c : Surroundings) (resources : List Resource) : Bool :=
  resources.all fun r => r.value.isValid c && (match r.target with
    | some target => targetValid c target
    | none => true)

def generalLast : List Handler → Bool
  | [] => true
  | [_] => true
  | .mk none _ _ :: _ => false
  | _ :: handlers => generalLast handlers

mutual

def Stmt.isValid (c : Surroundings) : Stmt → Bool
  | .expr value => value.isValid c
  | .assign targets value => targets.all (targetValid c) && value.isValid c
  | .update target _ value => targetValid c target && value.isValid c
  | .annotate target typeHint value _ =>
    targetValid c target && typeHint.isValid { c with runs := c.block != .function } && optionalValid c value
  | .ret value =>
    c.block = .function && !c.inGroup && !(value.isSome && c.awaited && c.yields) && optionalValid c value
  | .delete targets => targets.all (targetValid c)
  | .pass => true
  | .break => c.inLoop
  | .continue => c.inLoop
  | .raise error cause => optionalValid c error && optionalValid c cause
  | .global _ => true
  | .nonlocal _ => true
  | .assert test message => test.isValid c && optionalValid c message
  | .importModules names => importValid c names
  | .importNames path _ names => path != some languageModule && importValid c names
  | .ifThen test body orelse => test.isValid c && blockValid c body && blockValid c orelse
  | .while test body orelse =>
    c.depth < maxDepth && test.isValid c && blockValid { c.inside 1 with inLoop := true } body && blockValid c orelse
  | .for awaited target source body orelse =>
    c.depth < maxDepth && (!awaited || c.awaited) && targetValid c target && source.isValid c &&
      blockValid { c.inside 1 with inLoop := true } body && blockValid c orelse
  | .with awaited resources body =>
    c.depth + resources.length ≤ maxDepth && (!awaited || c.awaited) && resourcesValid c resources &&
      blockValid (c.inside resources.length) body
  | .try groups body handlers orelse final =>
    let around := if final.isEmpty then c else c.inside 1
    let handled := if handlers.isEmpty then around else around.inside 1
    -- A handler stands in a block of its own inside of the block of all handlers.
    let handling := around.inside 2
    handled.depth ≤ maxDepth && (handlers.isEmpty || handling.depth ≤ maxDepth) && generalLast handlers &&
      blockValid handled body &&
      handlersValid (if groups then { handling with inLoop := false, inGroup := true } else handling) handlers &&
      blockValid around orelse && blockValid around final
  | .match subject cases => subject.isValid c && casesValid c cases
  | .function awaited name params body decorators result _ =>
    name != fixedName && distinctNames (paramNames params) && !(paramNames params).contains fixedName &&
      allValid c decorators && paramsValid c params && optionalValid c result &&
      blockValid { block := .function, awaited := awaited, yields := (blockSymbols body).any Symbol.yields } body
  | .classDef name bases keywords body decorators _ =>
    name != fixedName && itemsValid c bases && argumentsValid (keywordNames keywords) && keywordsValid c keywords &&
      allValid c decorators && blockValid { block := .classBody } body

def blockValid (c : Surroundings) : List Stmt → Bool
  | [] => true
  | s :: rest => s.isValid c && blockValid c rest

def handlersValid (c : Surroundings) : List Handler → Bool
  | [] => true
  | .mk kind name body :: handlers =>
    optionalValid c kind && name != some fixedName && blockValid c body && handlersValid c handlers

/-- Whether cases make sense. Only the last one, or one with a condition, may fit every value. -/
def casesValid (c : Surroundings) : List Case → Bool
  | [] => true
  | .mk pattern guard body :: cases =>
    pattern.isValid (guard.isSome || cases.isEmpty) && distinctNames pattern.boundNames &&
      !pattern.boundNames.contains fixedName && optionalValid c guard && blockValid c body && casesValid c cases

end

/-! ## Modules -/

/-- The statements of a module after those that ask for changes of the language, which only a description of the
module may come before. Nothing if a change is not known. -/
def afterChanges? : List Stmt → Option (List Stmt)
  | .importNames path level names :: rest =>
    if path = some languageModule then
      if names.all fun i => languageChanges.contains i.name then afterChanges? rest else none
    else some (.importNames path level names :: rest)
  | statements => some statements

def withoutDescription : List Stmt → List Stmt
  | .expr (.constant (.str _ _)) :: rest => rest
  | statements => statements

def moduleValid (statements : List Stmt) : Bool :=
  (afterChanges? (withoutDescription statements)).any (blockValid {}) &&
    declarationsValid .module [] [] (blockSymbols statements) && blockScopesValid [] statements

end LexGen.Code
