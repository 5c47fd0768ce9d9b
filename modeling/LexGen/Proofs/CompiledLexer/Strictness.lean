import LexGen.Proofs.CompiledLexer.Compilation
import LexGen.Proofs.Macros.Strictness

/-!
# Strict compilation

With strict checks, an undefined macro is an error; without them it is only noted. Compilation goes the same way
in both cases up to the first undefined macro.
-/

namespace LexGen.CompiledLexer

open Macros

/-! ## Rules -/

def undefinedAt (names : List Text) (index : Nat) (rule : Rule) : List Undefined :=
  match rule.pattern with
  | .text text => undefinedIn names text ("rule " ++ toString index)
  | _ => []

/-- The undefined macros of a grammar: of the macros in the order of their declarations, then of the rules. -/
def undefinedOf (macros : Macros) (rules : List Rule) : List Undefined :=
  macros.undefinedOf ++ rules.zipIdx.flatMap fun (rule, index) => undefinedAt macros.names index rule

section

variable {permissive strict : Settings} (isPermissive : permissive.isStrict = false)
  (isStrict : strict.isStrict = true)

include isPermissive isStrict in
theorem ofRule_inStep (macros : Macros) (caseInsensitive : Bool) (index : Nat) (rule : Rule) :
    InStep (CompiledRule.ofRule permissive macros caseInsensitive index rule)
      (CompiledRule.ofRule strict macros caseInsensitive index rule) := by
  unfold CompiledRule.ofRule
  split
  · exact (quiet_lift _).inStep.bind fun _ => (quiet_pure _).inStep
  · refine (check_inStep isPermissive isStrict _ _ _).bind fun _ => ?_
    exact (quiet_lift _).inStep.bind fun _ => (quiet_pure _).inStep
  · exact (quiet_throw _).inStep

include isPermissive in
theorem ofRule_warns (macros : Macros) (caseInsensitive : Bool) (index : Nat) (rule : Rule) :
    Warns (CompiledRule.ofRule permissive macros caseInsensitive index rule)
      (undefinedAt macros.names index rule) := by
  unfold CompiledRule.ofRule undefinedAt
  cases rule.pattern with
  | compiled text flags => exact ((quiet_lift _).bind fun _ => quiet_pure _).warns
  | text text =>
    dsimp only
    rw [← List.append_nil (undefinedIn _ _ _)]
    refine (check_warns isPermissive _ _ _).bind fun _ _ => ?_
    exact ((quiet_lift _).bind fun _ => quiet_pure _).warns
  | other v => exact (quiet_throw _).warns

theorem quiet_build (tokens : Value) (rules : List Rule) : Quiet (Action.build tokens rules) :=
  (Quiet.mapM (fun _ => quiet_lift _) _).bind fun _ => (quiet_note _ _).bind fun _ => quiet_pure _

/-! ## Grammars -/

include isPermissive isStrict in
theorem ofGrammar_inStep (tokens : Value) (grammar : Grammar) :
    InStep (ofGrammar permissive tokens grammar) (ofGrammar strict tokens grammar) := by
  refine (quiet_lift _).inStep.bind fun macros => ?_
  refine (expand_inStep isPermissive isStrict macros).bind fun table => ?_
  refine (InStep.mapM (fun _ => ofRule_inStep isPermissive isStrict _ _ _ _) _).bind fun rules => ?_
  refine (quiet_lift _).inStep.bind fun conditions => ?_
  refine (quiet_build _ _).inStep.bind fun actions => ?_
  exact ((quiet_note _ _).bind fun _ => quiet_lift _).inStep

theorem undefinedAt_completed (macros : Macros) (grammar : Grammar) :
    undefinedOf macros (completed grammar).rules = undefinedOf macros grammar.rules := by
  unfold completed
  split
  · have none : ∀ index, undefinedAt macros.names index echoRule = [] := fun index => rfl
    simp [undefinedOf, Grammar.withRule, List.zipIdx_append, none]
  · rfl

include isPermissive in
theorem ofGrammar_warns {macros : Macros} (tokens : Value) {grammar : Grammar}
    (read : Macros.ofEntries grammar.macros = .ok macros) :
    Warns (ofGrammar permissive tokens grammar) (undefinedOf macros grammar.rules) := by
  rw [← undefinedAt_completed]
  rw [← List.nil_append (undefinedOf _ _)]
  refine (quiet_lift _).warns.bind fun macros' returned => ?_
  obtain rfl : macros = macros' := by
    have again := returned.of_lift
    rw [completed_macros, read] at again
    exact Except.ok.inj again
  refine (expand_warns isPermissive macros).bind fun table expanded => ?_
  rw [← List.append_nil (List.flatMap _ _), ← names_of_expand expanded]
  refine (Warns.mapM (fun _ => ofRule_warns isPermissive _ _ _ _) _).bind fun rules _ => ?_
  refine ((quiet_lift _).bind fun conditions => ?_).warns
  exact (quiet_build _ _).bind fun actions => (quiet_note _ _).bind fun _ => quiet_lift _

end

/-- Strict compilation is permissive compilation up to the first warning, which is the error that it fails with. If
permissive compilation succeeds its warnings are all placeholders without a macro, in the order of the texts:
macros as they are declared, then the patterns of the rules. -/
theorem strict_fails_at_first_warning {permissive strict : Settings} (isPermissive : permissive.isStrict = false)
    (isStrict : strict.isStrict = true) (parser : Option (Text → Except Error Value)) (tokens source : Value) :
    (warnings (ofSource permissive parser tokens source).result.2 = [] →
        (ofSource strict parser tokens source).outcome = (ofSource permissive parser tokens source).outcome) ∧
      (∀ first others, warnings (ofSource permissive parser tokens source).result.2 = first :: others →
        (ofSource strict parser tokens source).outcome =
          .error (.undefinedMacro (String.ofList first.name) first.place)) ∧
      ∀ lexer, (ofSource permissive parser tokens source).outcome = .ok lexer →
        ∃ grammar macros, Grammar.ofSource parser source = .ok grammar ∧
          Macros.ofEntries grammar.macros = .ok macros ∧
          warnings (ofSource permissive parser tokens source).result.2 = undefinedOf macros grammar.rules := by
  have inStep : InStep (ofSource permissive parser tokens source) (ofSource strict parser tokens source) :=
    (quiet_lift _).inStep.bind fun grammar => ofGrammar_inStep isPermissive isStrict tokens grammar
  obtain ⟨notes, added, same⟩ := inStep []
  have made : (ofSource permissive parser tokens source).result.2 = notes := added
  refine ⟨?_, ?_, ?_⟩
  · intro none
    rw [made] at none
    rw [none] at same
    exact congrArg Prod.fst same
  · intro first others found
    rw [made] at found
    rw [found] at same
    exact same
  · intro lexer compiled
    have returned : MayReturn (ofSource permissive parser tokens source) lexer := ⟨[], compiled⟩
    obtain ⟨grammar, read, returned⟩ := returned.of_bind
    obtain ⟨macros, macrosRead, -⟩ := returned.of_bind
    rw [completed_macros] at macrosRead
    have warns : Warns (ofSource permissive parser tokens source) ([] ++ undefinedOf macros grammar.rules) := by
      refine (quiet_lift _).warns.bind fun grammar' read' => ?_
      obtain rfl : grammar = grammar' := Except.ok.inj (read.of_lift.symm.trans read'.of_lift)
      exact ofGrammar_warns isPermissive tokens macrosRead.of_lift
    exact ⟨grammar, macros, read.of_lift, macrosRead.of_lift, warns [] lexer _ (Prod.ext compiled rfl)⟩

/-- A grammar with undefined macros in a fragment and in two patterns, once hidden behind a macro that is there. -/
def lacking : Value :=
  .dict [(.str "macros", .dict [(.str "word", .str "\x7bletter\x7d+"), (.str "mark", .str "'")]),
    (.str "rules", .list [.list [.str "\x7bmark\x7d\x7bword\x7d", .str ""],
      .list [.str "\x7bdigit\x7d\x7bword\x7d\x7bdigit\x7d", .str ""]])]

theorem strict_fails_at_first_warning_lacking :
    ({} : Settings).isStrict = false ∧ ({ strict := .bool true } : Settings).isStrict = true ∧
      (ofSource { strict := .bool true } none .none lacking).outcome =
        .error (.undefinedMacro "letter" "macro 'word'") ∧
      warnings (ofSource {} none .none lacking).result.2 =
        [⟨"letter".toList, "macro 'word'"⟩, ⟨"digit".toList, "rule 1"⟩, ⟨"digit".toList, "rule 1"⟩] := by
  have permissive : ({} : Settings).isStrict = false := rfl
  have strict : ({ strict := .bool true } : Settings).isStrict = true := rfl
  obtain ⟨-, failed, -⟩ := strict_fails_at_first_warning permissive strict none .none lacking
  have found : warnings (ofSource {} none .none lacking).result.2 =
      [⟨"letter".toList, "macro 'word'"⟩, ⟨"digit".toList, "rule 1"⟩, ⟨"digit".toList, "rule 1"⟩] := by
    decide +kernel
  exact ⟨permissive, strict, failed _ _ found, found⟩

end LexGen.CompiledLexer
