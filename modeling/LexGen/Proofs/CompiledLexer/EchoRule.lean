import LexGen.Proofs.CompiledLexer.Compilation
import LexGen.Proofs.Program.ActionBody
import LexGen.Proofs.Text.Replace

/-!
# The rule that echoes

With the flex policy a rule is added behind the rules of the grammar. It comes through all stages of the compilation
as it is: no macro stands in its pattern, no token in its statement, and it is active wherever a rule without a list
of conditions is.

* `matchLength_echoRule`: the compiled pattern matches any one character.
* `action_echoRule`: the compiled statement echoes the current match.
-/

namespace LexGen.CompiledLexer

variable {settings : Settings} {tokens : Value} {grammar : Grammar} {lexer : CompiledLexer}

/-! ## The last rule -/

theorem completed_of_flex (flex : grammar.options.flex = true) :
    (completed grammar).rules = grammar.rules ++ [echoRule] := by
  rw [completed, if_pos flex]
  rfl

theorem getElem?_completed (flex : grammar.options.flex = true) :
    (completed grammar).rules[grammar.rules.length]? = some echoRule := by
  rw [completed_of_flex flex]
  simp

theorem getElem?_zipIdx_completed (flex : grammar.options.flex = true) :
    (completed grammar).rules.zipIdx[grammar.rules.length]? = some (echoRule, grammar.rules.length) := by
  rw [List.getElem?_zipIdx, getElem?_completed flex]
  simp

/-! ## Its pattern -/

theorem substitute_echoRule (macros : Macros) : macros.substitute "(?s:.)".toList = "(?s:.)".toList := by
  unfold Macros.substitute
  induction macros with
  | nil => rfl
  | cons entry macros ih =>
    have absent : ¬ Macros.placeholder entry.1 <:+: "(?s:.)".toList := by
      rintro ⟨before, after, same⟩
      have brace : '{' ∈ "(?s:.)".toList := by
        rw [← same]
        simp [Macros.placeholder]
      exact absurd brace (by decide)
    rw [List.foldl_cons, Text.replace_of_not_infix absent]
    exact ih

def MatchesAny (pattern : Pattern) : Prop :=
  (∀ before c rest, pattern.matchLength before (c :: rest) = some 1) ∧
    ∀ before, pattern.matchLength before [] = none

theorem matchesAny_of_root {pattern : Pattern} (root : pattern.root = .flagged 16 0 .any)
    (flags : pattern.flags = 32 ∨ pattern.flags = 34) : MatchesAny pattern := by
  have anything : (pattern.flags.inScope 16 0).has PatternFlags.dotAll = true := by
    rcases flags with same | same <;> rw [same] <;> decide
  constructor
  · intro before c rest
    simp [Pattern.matchLength, Node.matchLength, root, Node.run, matchChar, Cursor.next?, anything]
  · intro before
    simp [Pattern.matchLength, Node.matchLength, root, Node.run, matchChar, Cursor.next?]

theorem matchesAny_of_ofRule {rule : Int} {caseInsensitive : Bool} {pattern : Pattern}
    (h : Pattern.ofRule "(?s:.)".toList rule caseInsensitive = .ok pattern) : MatchesAny pattern := by
  have compiled := compile_of_ofRule h
  have plain : (Pattern.compile (Pattern.grouped "(?s:.)".toList) 0).toOption.any (fun pattern =>
      pattern.root = .flagged 16 0 .any ∧ pattern.flags = 32) = true := by
    decide +kernel
  have folded : (Pattern.compile (Pattern.grouped "(?s:.)".toList) PatternFlags.ignoreCase).toOption.any
      (fun pattern => pattern.root = .flagged 16 0 .any ∧ pattern.flags = 34) = true := by
    decide +kernel
  cases caseInsensitive with
  | false =>
    rw [if_neg (by decide)] at compiled
    rw [compiled] at plain
    obtain ⟨root, flags⟩ := of_decide_eq_true plain
    exact matchesAny_of_root root (.inl flags)
  | true =>
    rw [if_pos rfl] at compiled
    rw [compiled] at folded
    obtain ⟨root, flags⟩ := of_decide_eq_true folded
    exact matchesAny_of_root root (.inr flags)

theorem matchLength_echoRule (compiled : (ofGrammar settings tokens grammar).outcome = .ok lexer)
    (flex : grammar.options.flex = true) :
    ∃ rule, lexer.rules[grammar.rules.length]? = some rule ∧ MatchesAny rule.pattern := by
  obtain ⟨macros, rules, conditions, actions, made, -, -, assembled⟩ := ofGrammar_stages compiled
  obtain ⟨-, -, dispatch, -, rfl⟩ := of_assemble assembled
  obtain ⟨rule, atRule, returned⟩ := exists_getElem?_of_forall₂ made.of_mapM (getElem?_zipIdx_completed flex)
  refine ⟨rule, atRule, ?_⟩
  obtain ⟨_, -, returned⟩ := returned.of_bind
  obtain ⟨pattern, compiled, returned⟩ := returned.of_bind
  obtain rfl := returned.of_pure
  have compiled := compiled.of_lift
  rw [substitute_echoRule] at compiled
  exact matchesAny_of_ofRule compiled

/-! ## Its statement -/

theorem substituteTokens_of_none {body : Text} (cut : (Code.looseTokens body).2 = none)
    (none : Action.returnedNames (Code.looseTokens body).1 = []) (tokens : Value) :
    Action.substituteTokens body tokens = .ok body := by
  unfold Action.substituteTokens
  generalize Code.looseTokens body = ended at cut none
  obtain ⟨found, failure⟩ := ended
  subst cut
  simp only [none, List.mapM_nil]
  change Except.ok (Text.Edit.applyAll (Text.feedLines body) []) = _
  rw [Text.Edit.applyAll, List.mergeSort_nil, List.foldl_nil, Text.feedLines, Text.linesBy_flatten]
  rfl

theorem rewriteBody_of_unchanged {tokens : Value} {body body' : Text} (normal : Action.normalBody body = body)
    (substituted : Action.substituteTokens body tokens = .ok body) (qualified : Action.qualify body = .ok body') :
    Action.rewriteBody tokens body = .ok body' := by
  rw [Action.rewriteBody, normal, substituted, ite_self]
  exact qualified

theorem rewriteBody_echoRule (tokens : Value) :
    Action.rewriteBody tokens "yy_.echo(yytext)".toList = .ok Program.echoText := by
  have cut : (Code.looseTokens "yy_.echo(yytext)".toList).2 = none := by
    decide +kernel
  have none : (Action.returnedNames (Code.looseTokens "yy_.echo(yytext)".toList).1).isEmpty = true := by
    decide +kernel
  have qualified : (Action.qualify "yy_.echo(yytext)".toList).toOption.any (· = Program.echoText) = true := by
    decide +kernel
  obtain ⟨body, qualified, same⟩ := exists_ok_of_any qualified
  rw [of_decide_eq_true same] at qualified
  exact rewriteBody_of_unchanged (by decide +kernel)
    (substituteTokens_of_none cut (List.isEmpty_iff.1 none) tokens) qualified

theorem action_echoRule (compiled : (ofGrammar settings tokens grammar).outcome = .ok lexer)
    (flex : grammar.options.flex = true) :
    lexer.actions[grammar.rules.length]? = some ⟨grammar.rules.length, .code Program.echoText⟩ := by
  obtain ⟨macros, rules, conditions, actions, -, -, made, assembled⟩ := ofGrammar_stages compiled
  obtain ⟨-, -, dispatch, -, rfl⟩ := of_assemble assembled
  obtain ⟨entries, each, made⟩ := made.of_bind
  obtain ⟨_, -, made⟩ := made.of_bind
  obtain rfl := made.of_pure
  obtain ⟨entry, atEntry, returned⟩ := exists_getElem?_of_forall₂ each.of_mapM (getElem?_zipIdx_completed flex)
  have entryMade : Action.codeEntry tokens grammar.rules.length "yy_.echo(yytext)".toList = .ok entry :=
    returned.of_lift
  rw [Action.codeEntry, rewriteBody_echoRule] at entryMade
  dsimp only [Action.orInvalid, Bind.bind, Except.bind] at entryMade
  split at entryMade
  · cases entryMade
  · rw [atEntry, ← Except.ok.inj entryMade]

end LexGen.CompiledLexer
