import LexGen.Code.Mention

/-!
# The scopes that names belong to

The rules by which a name in code belongs to one of the scopes around it, told apart from any search for names. A name
belongs to the scope that binds it, from the inside outwards; the names of a class body are passed over by the scopes
inside of it, and a name that is bound by an expression in a comprehension belongs to the scope around.

* `Mention.owned`: where names occur that belong to the outermost scope.
* `seen_blockMentions`: what the occurrences of names in statements tell of this.
-/

namespace LexGen.Code

namespace Mention

def targetNames (targets : List Mention) : List String :=
  targets.filterMap fun
    | .name id .bound _ => some id
    | _ => none

/-! ## Names of the outermost scope -/

/-- Whether a name that is used in a scope belongs to the outermost one: in the scope itself, and in the scopes inside
of it that do not bind it. -/
structure View where
  here : String → Bool
  inner : String → Bool

namespace View

/-- A scope with the names `own`. -/
def ownHere (v : View) (own : List String) (id : String) : Bool := !own.contains id && v.inner id

def inFunction (v : View) (params : List String) (inside : List Mention) : View :=
  let here := v.ownHere (params ++ bound inside)
  ⟨here, here⟩

def inClass (v : View) (inside : List Mention) : View :=
  ⟨v.ownHere (bound inside), v.inner⟩

def inComprehension (v : View) (targets : List Mention) : View :=
  let here := v.ownHere (targetNames targets)
  ⟨here, here⟩

end View

mutual

/-- The places of the names that satisfy `p` and belong to the outermost scope. -/
def owned (p : String → Bool) (v : View) : Mention → List (String × Place)
  | .name id _ place => if p id && v.here id then [(id, place)] else []
  | .declared .. => []
  | .rest _ => []
  | .pause _ => []
  | .function outside hints params inside =>
    listOwned p v outside ++ listOwned p v hints ++ listOwned p (v.inFunction params inside) inside
  | .lambda _ outside params inside => listOwned p v outside ++ listOwned p (v.inFunction params inside) inside
  | .classBody outside inside => listOwned p v outside ++ listOwned p (v.inClass inside) inside
  | .comprehension source targets inside =>
    listOwned p v source ++ listOwned p (v.inComprehension targets) targets ++
      listOwned p (v.inComprehension targets) inside

def listOwned (p : String → Bool) (v : View) : List Mention → List (String × Place)
  | [] => []
  | m :: ms => owned p v m ++ listOwned p v ms

end

end Mention

/-! ## What occurrences tell -/

namespace Mention

mutual

def seen : Mention → List Occurrence
  | .name id role place => [.name id (role != .read) place]
  | .declared id belongs => [.declared id belongs]
  | .rest _ => []
  | .pause yields => [.pause yields]
  | .function outside _ params inside => [innerScope .function (listSeen outside) params (listSeen inside)]
  | .lambda body outside params inside => [.inner (.lambda body) (listSeen outside) params (listSeen inside)]
  | .classBody outside inside => [innerScope .classBody (listSeen outside) [] (listSeen inside)]
  | .comprehension source targets inside =>
    [.inner .comprehension (listSeen source) (Occurrence.listNames (listSeen targets)) (listSeen inside)]

def listSeen : List Mention → List Occurrence
  | [] => []
  | m :: ms => seen m ++ listSeen ms

end

@[simp] theorem listSeen_append (ms others : List Mention) :
    listSeen (ms ++ others) = listSeen ms ++ listSeen others := by
  induction ms with
  | nil => rfl
  | cons m ms ih => rw [List.cons_append, listSeen, listSeen, ih, List.append_assoc]

@[simp] theorem seen_within (m : Mention) : m.within.seen = m.seen := by
  unfold within
  split <;> rfl

@[simp] theorem listSeen_within (ms : List Mention) : listSeen (ms.map within) = listSeen ms := by
  induction ms with
  | nil => rfl
  | cons m ms ih => rw [List.map_cons, listSeen, listSeen, seen_within, ih]

theorem listSeen_declared {α : Type} (f : α → String) (belongs : Declaration) (names : List α) :
    listSeen (names.map fun i => .declared (f i) belongs) = names.map fun i => .declared (f i) belongs := by
  induction names with
  | nil => rfl
  | cons name names ih => rw [List.map_cons, List.map_cons, listSeen, seen, ih]; rfl

@[simp] theorem listSeen_nil : listSeen [] = [] := rfl

@[simp] theorem listSeen_cons (m : Mention) (ms : List Mention) : listSeen (m :: ms) = m.seen ++ listSeen ms := rfl

end Mention

theorem listNames_append (os others : List Occurrence) :
    Occurrence.listNames (os ++ others) = Occurrence.listNames os ++ Occurrence.listNames others := by
  induction os with
  | nil => rfl
  | cons o os ih => rw [List.cons_append, Occurrence.listNames, Occurrence.listNames, ih, List.append_assoc]

open Mention (seen listSeen listSeen_append listSeen_within listSeen_nil listSeen_declared)

mutual

theorem Expr.seen_mentions : (e : Expr) → listSeen e.mentions = e.occurrences
  | .name id usage place => by cases usage <;> rfl
  | .constant _ => rfl
  | .joined pieces => by
    simp only [Expr.mentions, Expr.occurrences, seen_listMentions pieces]
  | .formatted value _ layout => by
    simp only [Expr.mentions, Expr.occurrences, listSeen_append, Expr.seen_mentions value, seen_optionalMentions layout]
  | .attribute value _ => by
    simp only [Expr.mentions, Expr.occurrences, Expr.seen_mentions value]
  | .subscript value index => by
    simp only [Expr.mentions, Expr.occurrences, listSeen_append, Expr.seen_mentions value, Expr.seen_mentions index]
  | .slice lower upper step => by
    simp only [Expr.mentions, Expr.occurrences, listSeen_append, seen_optionalMentions lower,
      seen_optionalMentions upper, seen_optionalMentions step]
  | .call function args keywords => by
    simp only [Expr.mentions, Expr.occurrences, listSeen_append, Expr.seen_mentions function, seen_listMentions args,
      seen_keywordMentions keywords]
  | .starred value => by
    simp only [Expr.mentions, Expr.occurrences, Expr.seen_mentions value]
  | .unary _ operand => by
    simp only [Expr.mentions, Expr.occurrences, Expr.seen_mentions operand]
  | .binary _ left right => by
    simp only [Expr.mentions, Expr.occurrences, listSeen_append, Expr.seen_mentions left, Expr.seen_mentions right]
  | .boolean _ operands => by
    simp only [Expr.mentions, Expr.occurrences, seen_listMentions operands]
  | .compare left _ operands => by
    simp only [Expr.mentions, Expr.occurrences, listSeen_append, Expr.seen_mentions left, seen_listMentions operands]
  | .choice test yes no => by
    simp only [Expr.mentions, Expr.occurrences, listSeen_append, Expr.seen_mentions test, Expr.seen_mentions yes,
      Expr.seen_mentions no]
  | .lambda params body _ => by
    simp only [Expr.mentions, Expr.occurrences, listSeen, seen, Expr.seen_mentions body, seen_fallbackMentions params,
      List.append_nil]
  | .tuple items => by
    simp only [Expr.mentions, Expr.occurrences, seen_listMentions items]
  | .list items => by
    simp only [Expr.mentions, Expr.occurrences, seen_listMentions items]
  | .set items => by
    simp only [Expr.mentions, Expr.occurrences, seen_listMentions items]
  | .dict entries => by
    simp only [Expr.mentions, Expr.occurrences, seen_entryMentions entries]
  | .comprehension _ key element clauses => by
    simp only [Expr.mentions, Expr.occurrences, listSeen, seen, listSeen_append, seen_sourceMentions clauses,
      seen_targetMentions clauses, seen_clauseMentions true clauses, seen_optionalMentions key,
      Expr.seen_mentions element,
      List.append_nil]
  | .bind target value => by
    simp only [Expr.mentions, Expr.occurrences, listSeen_append, listSeen_within, Expr.seen_mentions target,
      Expr.seen_mentions value]
  | .await value => by
    simp only [Expr.mentions, Expr.occurrences, listSeen, seen, Expr.seen_mentions value, List.singleton_append]
  | .yield value => by
    simp only [Expr.mentions, Expr.occurrences, listSeen, seen, seen_optionalMentions value, List.singleton_append]
  | .yieldFrom value => by
    simp only [Expr.mentions, Expr.occurrences, listSeen, seen, Expr.seen_mentions value, List.singleton_append]

theorem seen_listMentions : (es : List Expr) → listSeen (listMentions es) = listOccurrences es
  | [] => rfl
  | e :: es => by
    simp only [listMentions, listOccurrences, listSeen_append, Expr.seen_mentions e, seen_listMentions es]

theorem seen_optionalMentions : (e : Option Expr) → listSeen (optionalMentions e) = optionalOccurrences e
  | none => rfl
  | some e => Expr.seen_mentions e

theorem seen_keywordMentions : (keywords : List Keyword) →
    listSeen (keywordMentions keywords) = keywordOccurrences keywords
  | [] => rfl
  | .mk _ value :: keywords => by
    simp only [keywordMentions, keywordOccurrences, listSeen_append, Expr.seen_mentions value,
      seen_keywordMentions keywords]

theorem seen_fallbackMentions : (params : List Param) →
    listSeen (fallbackMentions params) = fallbackOccurrences params
  | [] => rfl
  | .mk _ _ _ fallback :: params => by
    simp only [fallbackMentions, fallbackOccurrences, listSeen_append, seen_optionalMentions fallback,
      seen_fallbackMentions params]

theorem seen_entryMentions : (entries : List Entry) → listSeen (entryMentions entries) = entryOccurrences entries
  | [] => rfl
  | .pair key value :: entries => by
    simp only [entryMentions, entryOccurrences, listSeen_append, Expr.seen_mentions key, Expr.seen_mentions value,
      seen_entryMentions entries]
  | .spread value :: entries => by
    simp only [entryMentions, entryOccurrences, listSeen_append, Expr.seen_mentions value, seen_entryMentions entries]

theorem seen_sourceMentions : (clauses : List Clause) → listSeen (sourceMentions clauses) = clauseSource clauses
  | [] => rfl
  | .mk _ _ source _ :: _ => Expr.seen_mentions source

theorem seen_targetMentions : (clauses : List Clause) →
    Occurrence.listNames (listSeen (targetMentions clauses)) = clauseNames clauses
  | [] => rfl
  | .mk _ target _ _ :: clauses => by
    simp only [targetMentions, clauseNames, listSeen_append, listNames_append, Expr.seen_mentions target,
      seen_targetMentions clauses]

theorem seen_clauseMentions : (first : Bool) → (clauses : List Clause) →
    listSeen (clauseMentions first clauses) = clauseOccurrences first clauses
  | _, [] => rfl
  | first, .mk _ _ source conditions :: clauses => by
    cases first <;>
      simp only [clauseMentions, clauseOccurrences, listSeen_append, Expr.seen_mentions source,
        seen_listMentions conditions, seen_clauseMentions false clauses, if_true, if_false, Bool.false_eq_true,
        listSeen_nil]

end

theorem seen_captureMentions (name : Option String) : listSeen (captureMentions name) = capturedName name := by
  cases name <;> rfl

mutual

theorem MatchPattern.seen_mentions : (p : MatchPattern) → listSeen p.mentions = p.occurrences
  | .value e => Expr.seen_mentions e
  | .singleton _ => rfl
  | .sequence patterns => by
    simp only [MatchPattern.mentions, MatchPattern.occurrences, seen_patternMentions patterns]
  | .mapping keys patterns rest => by
    cases rest <;>
      simp [MatchPattern.mentions, MatchPattern.occurrences, seen, seen_listMentions,
        seen_patternMentions patterns]
  | .instance kind positional _ named => by
    simp only [MatchPattern.mentions, MatchPattern.occurrences, listSeen_append, Expr.seen_mentions,
      seen_patternMentions positional, seen_patternMentions named]
  | .star name => seen_captureMentions name
  | .capture none name => seen_captureMentions name
  | .capture (some pattern) name => by
    simp only [MatchPattern.mentions, MatchPattern.occurrences, listSeen_append, seen_captureMentions,
      MatchPattern.seen_mentions pattern]
  | .choice patterns => by
    simp only [MatchPattern.mentions, MatchPattern.occurrences, seen_patternMentions patterns]

theorem seen_patternMentions : (ps : List MatchPattern) → listSeen (patternMentions ps) = patternOccurrences ps
  | [] => rfl
  | p :: ps => by
    simp only [patternMentions, patternOccurrences, listSeen_append, MatchPattern.seen_mentions p,
      seen_patternMentions ps]

end

theorem seen_resourceMentions (resources : List Resource) :
    listSeen (resourceMentions resources) = resourceOccurrences resources := by
  unfold resourceMentions resourceOccurrences
  induction resources with
  | nil => rfl
  | cons r resources ih =>
    simp only [List.flatMap_cons, listSeen_append, Expr.seen_mentions, seen_optionalMentions, ih]

mutual

theorem Stmt.seen_mentions : (s : Stmt) → listSeen s.mentions = s.occurrences
  | .expr value => Expr.seen_mentions value
  | .assign targets value => by
    simp only [Stmt.mentions, Stmt.occurrences, listSeen_append, seen_listMentions, Expr.seen_mentions]
  | .update target _ value => by
    simp only [Stmt.mentions, Stmt.occurrences, listSeen_append, Expr.seen_mentions]
  | .annotate target typeHint value _ => by
    simp only [Stmt.mentions, Stmt.occurrences, listSeen_append, Expr.seen_mentions, seen_optionalMentions]
  | .ret value => seen_optionalMentions value
  | .delete targets => seen_listMentions targets
  | .pass => rfl
  | .break => rfl
  | .continue => rfl
  | .raise error cause => by
    simp only [Stmt.mentions, Stmt.occurrences, listSeen_append, seen_optionalMentions]
  | .global names => listSeen_declared id .global names
  | .nonlocal names => listSeen_declared id .nonlocal names
  | .assert test message => by
    simp only [Stmt.mentions, Stmt.occurrences, listSeen_append, Expr.seen_mentions, seen_optionalMentions]
  | .importModules modules => listSeen_declared Import.boundName .here modules
  | .importNames _ _ names => listSeen_declared Import.boundName .here names
  | .ifThen test body orelse => by
    simp only [Stmt.mentions, Stmt.occurrences, listSeen_append, Expr.seen_mentions, seen_blockMentions body,
      seen_blockMentions orelse]
  | .while test body orelse => by
    simp only [Stmt.mentions, Stmt.occurrences, listSeen_append, Expr.seen_mentions, seen_blockMentions body,
      seen_blockMentions orelse]
  | .for _ target source body orelse => by
    simp only [Stmt.mentions, Stmt.occurrences, listSeen_append, Expr.seen_mentions, seen_blockMentions body,
      seen_blockMentions orelse]
  | .with _ resources body => by
    simp only [Stmt.mentions, Stmt.occurrences, listSeen_append, seen_resourceMentions, seen_blockMentions body]
  | .try _ body handlers orelse final => by
    simp only [Stmt.mentions, Stmt.occurrences, listSeen_append, seen_blockMentions body,
      seen_handlerMentions handlers, seen_blockMentions orelse, seen_blockMentions final]
  | .match subject cases => by
    simp only [Stmt.mentions, Stmt.occurrences, listSeen_append, Expr.seen_mentions, seen_caseMentions cases]
  | .function _ name params body decorators result _ => by
    simp [Stmt.mentions, Stmt.occurrences, seen, seen_listMentions, seen_fallbackMentions, seen_blockMentions body]
  | .classDef name bases keywords body decorators _ => by
    simp [Stmt.mentions, Stmt.occurrences, seen, seen_listMentions, seen_keywordMentions, seen_blockMentions body]

theorem seen_blockMentions : (body : List Stmt) → listSeen (blockMentions body) = blockOccurrences body
  | [] => rfl
  | s :: rest => by
    simp only [blockMentions, blockOccurrences, listSeen_append, Stmt.seen_mentions s, seen_blockMentions rest]

theorem seen_handlerMentions : (handlers : List Handler) →
    listSeen (handlerMentions handlers) = handlerOccurrences handlers
  | [] => rfl
  | .mk kind name body :: handlers => by
    simp only [handlerMentions, handlerOccurrences, listSeen_append, seen_optionalMentions, seen_captureMentions,
      seen_blockMentions body, seen_handlerMentions handlers]

theorem seen_caseMentions : (cases : List Case) → listSeen (caseMentions cases) = caseOccurrences cases
  | [] => rfl
  | .mk pattern guard body :: cases => by
    simp only [caseMentions, caseOccurrences, listSeen_append, MatchPattern.seen_mentions, seen_optionalMentions,
      seen_blockMentions body, seen_caseMentions cases]

end

end LexGen.Code
