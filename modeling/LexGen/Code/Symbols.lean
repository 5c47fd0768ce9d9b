import LexGen.Code.Mention

/-!
# Symbols

Where each scope of a module takes its names from. A name that is declared to belong to another scope must not have
been used in its scope before, and one that is declared to belong to a function around must be bound there.
-/

namespace LexGen.Code

/-- What a statement is directly part of. -/
inductive Block where
  | module
  | function
  | classBody
  deriving DecidableEq, Repr

/-- What becomes known of a name where it occurs in its scope. -/
inductive Symbol where
  | used (id : String)
  | bound (id : String)
  | imported (id : String)
  | hinted (id : String)
  | carried (id : String)
  | declared (id : String) (belongs : Declaration)
  | yield

def Symbol.yields : Symbol → Bool
  | .yield => true
  | _ => false

/-! ## Symbols -/

mutual

def Mention.symbols : Mention → List Symbol
  | .name id .read _ => [.used id]
  | .name id _ _ => [.bound id]
  | .declared id .here => [.bound id]
  | .declared id belongs => [.declared id belongs]
  | .rest id => [.bound id]
  | .pause yields => if yields then [.yield] else []
  | .function outside hints _ _ => Mention.listSymbols outside ++ Mention.listSymbols hints
  | .lambda _ outside _ _ => Mention.listSymbols outside
  | .classBody outside _ => Mention.listSymbols outside
  | .comprehension source targets inside =>
    Mention.listSymbols source ++ (listEscaping targets ++ listEscaping inside).map .carried

def Mention.listSymbols : List Mention → List Symbol
  | [] => []
  | m :: ms => m.symbols ++ Mention.listSymbols ms

end

/-- The symbols of a name that is annotated. Without a value only a name without parentheses is one of the scope. -/
def annotatedSymbols (target : Expr) (value : Option Expr) (plain : Bool) : List Symbol :=
  match target with
  | .name id _ _ => if plain then [.hinted id] else if value.isSome then [.bound id] else []
  | target => Mention.listSymbols target.mentions

def importedSymbols (names : List Import) : List Symbol :=
  (names.filter (·.name != "*")).map fun i => .imported i.boundName

mutual

def Stmt.symbols : Stmt → List Symbol
  | .annotate target typeHint value plain =>
    annotatedSymbols target value plain ++ Mention.listSymbols (typeHint.mentions ++ optionalMentions value)
  | .importModules names => importedSymbols names
  | .importNames _ _ names => importedSymbols names
  | .ifThen test body orelse => Mention.listSymbols test.mentions ++ blockSymbols body ++ blockSymbols orelse
  | .while test body orelse => Mention.listSymbols test.mentions ++ blockSymbols body ++ blockSymbols orelse
  | .for _ target source body orelse =>
    Mention.listSymbols (target.mentions ++ source.mentions) ++ blockSymbols body ++ blockSymbols orelse
  | .with _ resources body => Mention.listSymbols (resourceMentions resources) ++ blockSymbols body
  | .try _ body handlers orelse final =>
    blockSymbols body ++ blockSymbols orelse ++ handlerSymbols handlers ++ blockSymbols final
  | .match subject cases => Mention.listSymbols subject.mentions ++ caseSymbols cases
  | s => Mention.listSymbols s.mentions

def blockSymbols : List Stmt → List Symbol
  | [] => []
  | s :: rest => s.symbols ++ blockSymbols rest

def handlerSymbols : List Handler → List Symbol
  | [] => []
  | .mk kind name body :: handlers =>
    Mention.listSymbols (optionalMentions kind ++ captureMentions name) ++ blockSymbols body ++ handlerSymbols handlers

def caseSymbols : List Case → List Symbol
  | [] => []
  | .mk pattern guard body :: cases =>
    Mention.listSymbols (pattern.mentions ++ optionalMentions guard) ++ blockSymbols body ++ caseSymbols cases

end

/-! ## Declarations -/

def Symbol.listDeclared (belongs : Declaration) (symbols : List Symbol) : List String :=
  symbols.filterMap fun
    | .declared id other => if other = belongs then some id else none
    | _ => none

def Symbol.listBound (symbols : List Symbol) : List String :=
  symbols.filterMap fun
    | .bound id | .imported id | .hinted id | .carried id => some id
    | _ => none

/-- Whether no name is used in a scope before it is declared to belong to another one. Outside of modules such a name
cannot have a type hint either. `seen` holds the names that have been used, and `elsewhere` the declared ones. -/
def declaredInTime (block : Block) : (seen elsewhere : List String) → List Symbol → Bool
  | _, _, [] => true
  | seen, elsewhere, .used id :: symbols => declaredInTime block (id :: seen) elsewhere symbols
  | seen, elsewhere, .bound id :: symbols => declaredInTime block (id :: seen) elsewhere symbols
  | seen, elsewhere, .imported _ :: symbols => declaredInTime block seen elsewhere symbols
  | seen, elsewhere, .hinted id :: symbols =>
    (block = .module || !elsewhere.contains id) && declaredInTime block (id :: seen) elsewhere symbols
  | seen, elsewhere, .carried id :: symbols =>
    declaredInTime block (if block = .module then seen else id :: seen) elsewhere symbols
  | seen, elsewhere, .yield :: symbols => declaredInTime block seen elsewhere symbols
  | seen, elsewhere, .declared id _ :: symbols =>
    !seen.contains id && declaredInTime block seen (id :: elsewhere) symbols

/-- Whether the declarations of a scope make sense. `around` holds the names of the functions around. -/
def declarationsValid (block : Block) (params around : List String) (symbols : List Symbol) : Bool :=
  let outer := Symbol.listDeclared .nonlocal symbols
  declaredInTime block params [] symbols && outer.all around.contains &&
    !outer.any (Symbol.listDeclared .global symbols).contains

def namesInside (params around : List String) (symbols : List Symbol) : List String :=
  let globals := Symbol.listDeclared .global symbols
  (params ++ Symbol.listBound symbols ++ around).filter (!globals.contains ·)

mutual

def Stmt.scopesValid (around : List String) : Stmt → Bool
  | .ifThen _ body orelse => blockScopesValid around body && blockScopesValid around orelse
  | .while _ body orelse => blockScopesValid around body && blockScopesValid around orelse
  | .for _ _ _ body orelse => blockScopesValid around body && blockScopesValid around orelse
  | .with _ _ body => blockScopesValid around body
  | .try _ body handlers orelse final =>
    blockScopesValid around body && handlerScopesValid around handlers && blockScopesValid around orelse &&
      blockScopesValid around final
  | .match _ cases => caseScopesValid around cases
  | .function _ _ params body _ _ _ =>
    let names := paramNames params
    declarationsValid .function names around (blockSymbols body) &&
      blockScopesValid (namesInside names around (blockSymbols body)) body
  | .classDef _ _ _ body _ _ =>
    declarationsValid .classBody [] around (blockSymbols body) && blockScopesValid ("__class__" :: around) body
  | _ => true

def blockScopesValid (around : List String) : List Stmt → Bool
  | [] => true
  | s :: rest => s.scopesValid around && blockScopesValid around rest

def handlerScopesValid (around : List String) : List Handler → Bool
  | [] => true
  | .mk _ _ body :: handlers => blockScopesValid around body && handlerScopesValid around handlers

def caseScopesValid (around : List String) : List Case → Bool
  | [] => true
  | .mk _ _ body :: cases => blockScopesValid around body && caseScopesValid around cases

end

end LexGen.Code
