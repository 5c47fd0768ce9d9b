import LexGen.Proofs.Archive.Storing
import LexGen.Proofs.CompiledLexer.Rearranged
import LexGen.Proofs.Pattern.Recompiling
import Mathlib.Data.List.Perm.Basic

/-!
# Restored lexers

A lexer that can be stored is restored from its text. The parts are found by their names, whatever their order, and
the checks that the lexer has passed when it was compiled are passed again.

* `restore_canonical`: what the stored value is restored as.
* `read_write`: the round trip of a lexer.
-/

namespace LexGen.Archive

open Json (Keyed Plain canonical)

theorem lift_ok {α : Type} (a : α) : (liftM (.ok a : Except Fault α) : Except Error α) = .ok a := rfl

/-! ## Parts -/

theorem exists_stored {entries : List (Value × Value)} (keyed : Keyed entries) :
    ∃ stored, canonical (.dict entries) = .dict stored ∧
      ∀ name v, (.str name, v) ∈ entries → Value.get? stored name = some (canonical v) := by
  obtain ⟨inOrder, same, shape, -⟩ := Json.exists_ordered keyed
  refine ⟨_, shape, fun name v mem => ?_⟩
  have distinct := ((keyed.of_perm same.symm).map canonical).distinct
  exact Value.get?_of_mem distinct (List.mem_map.2 ⟨_, same.mem_iff.2 mem, rfl⟩)

theorem part_dict {stored : List (Value × Value)} {name : String} {v : Value}
    (found : Value.get? stored name = some v) :
    part name (.dict stored) = .ok v := by
  have found : Value.lookup (.str name) stored = some v := found
  simp only [part, Value.index, Value.hashable, found]
  rfl

theorem part_canonical {entries : List (Value × Value)} (keyed : Keyed entries) {name : String} {v : Value}
    (mem : (.str name, v) ∈ entries) : part name (canonical (.dict entries)) = .ok (canonical v) := by
  obtain ⟨stored, shape, found⟩ := exists_stored keyed
  rw [shape, part_dict (found name v mem)]

/-! ## Rules -/

theorem restorePattern_text {pattern : Pattern} (again : Pattern.Recompiles pattern) :
    restorePattern (.str (String.ofList pattern.text)) (.int pattern.shownFlags) = .ok pattern := by
  have flags : flagsOf (.int pattern.shownFlags) = .ok pattern.shownFlags :=
    congrArg Except.ok (Pattern.ofInt_shownFlags pattern)
  simp only [restorePattern, flags, String.toList_ofList]
  dsimp only [Bind.bind, Except.bind]
  rw [again]
  rfl

theorem restoreRule_canonical {rule : CompiledRule} {i : Nat} (placed : rule.index = i) {s : String}
    (source : rule.source = .str s) (again : Pattern.Recompiles rule.pattern) :
    restoreRule i (canonical (storeRule rule)) = .ok rule := by
  have keyed : Keyed [(.str "pattern", .str (String.ofList rule.pattern.text)), (.str "source", rule.source),
      (.str "flags", .int rule.pattern.shownFlags)] := ⟨by simp, by simp⟩
  rw [restoreRule, storeRule, part_canonical (v := rule.source) keyed (by simp),
    part_canonical (v := .str (String.ofList rule.pattern.text)) keyed (by simp),
    part_canonical (v := .int rule.pattern.shownFlags) keyed (by simp), source]
  dsimp only [canonical, Bind.bind, Except.bind]
  rw [restorePattern_text again, ← placed, ← source]
  rfl

theorem restoreRules {rules : List CompiledRule}
    (placed : ∀ (i : Nat) rule, rules[i]? = some rule → rule.index = (i : Int))
    (sources : ∀ rule ∈ rules, ∃ s, rule.source = .str s)
    (again : ∀ rule ∈ rules, Pattern.Recompiles rule.pattern) :
    ((rules.map storeRule).map canonical).zipIdx.mapM (fun (rule, index) => restoreRule index rule) = .ok rules := by
  rw [List.map_map, List.zipIdx_map, List.mapM_map]
  have restored : ∀ entry ∈ rules.zipIdx, restoreRule entry.2 (canonical (storeRule entry.1)) = .ok entry.1 := by
    rintro ⟨rule, i⟩ mem
    have atRule := List.mem_zipIdx_iff_getElem?.1 mem
    have ruleMem := List.mem_of_getElem? atRule
    obtain ⟨s, source⟩ := sources rule ruleMem
    exact restoreRule_canonical (placed i rule atRule) source (again rule ruleMem)
  refine (mapM_eq_pure restored).trans ?_
  rw [List.zipIdx_map_fst]
  rfl

/-! ## Actions -/

theorem restoreActions {actions : List ActionEntry}
    (placed : ∀ (i : Nat) action, actions[i]? = some action → action.rule = (i : Int))
    (code : ∀ action ∈ actions, ∃ body, action.content = .code body) :
    ((actions.map (·.body)).map canonical).zipIdx.map (fun (action, index) => restoreAction index action) =
      actions := by
  rw [List.map_map, List.zipIdx_map, List.map_map]
  conv_rhs => rw [← List.zipIdx_map_fst 0 actions]
  refine List.map_congr_left ?_
  rintro ⟨⟨position, content⟩, i⟩ mem
  have atAction := List.mem_zipIdx_iff_getElem?.1 mem
  have here := placed i _ atAction
  obtain ⟨body, same⟩ := code _ (List.mem_of_getElem? atAction)
  dsimp only at here same
  rw [here, same]
  simp [ActionEntry.body, canonical, restoreAction]

/-! ## Start conditions -/

def storedCondition (condition : ConditionEntry) : Value × Value :=
  (condition.name, .dict [(.str "rules", .list condition.rules), (.str "inclusive", .bool condition.inclusive)])

theorem restoreCondition_canonical {condition : ConditionEntry} {positions : List Nat}
    (rules : condition.rules = positions.map fun (i : Nat) => .int i) :
    restoreCondition ((storedCondition condition).1, canonical (storedCondition condition).2) = .ok condition := by
  have keyed : Keyed [(Value.str "rules", Value.list condition.rules), (.str "inclusive", .bool condition.inclusive)] :=
    ⟨by simp, by simp⟩
  have items : (canonical (.list condition.rules)).items = .ok condition.rules := by
    rw [Json.canonical_list, rules, List.map_map]
    rfl
  rw [restoreCondition, storedCondition, part_canonical (v := .bool condition.inclusive) keyed (by simp),
    part_canonical (v := .list condition.rules) keyed (by simp)]
  dsimp only [Bind.bind, Except.bind]
  rw [items]
  rfl

theorem restoreConditions {conditions : List ConditionEntry} (keyed : Keyed (conditions.map storedCondition))
    (ascending : ∀ condition ∈ conditions, ∃ positions : List Nat,
      condition.rules = positions.map fun (i : Nat) => .int i) :
    ∃ stored restored, canonical (.dict (conditions.map storedCondition)) = .dict stored ∧
      stored.mapM restoreCondition = .ok restored ∧ restored.Perm conditions := by
  obtain ⟨inOrder, same, shape, -⟩ := Json.exists_ordered keyed
  have each : List.Forall₂ (fun entry condition => restoreCondition (entry.1, canonical entry.2) = .ok condition)
      (conditions.map storedCondition) conditions := by
    refine List.forall₂_map_left_iff.2 (List.forall₂_same.2 fun condition mem => ?_)
    obtain ⟨positions, rules⟩ := ascending condition mem
    exact restoreCondition_canonical rules
  -- The mapping was reordered by its names, so the conditions follow that order.
  obtain ⟨restored, ordered, sameConditions⟩ := List.perm_comp_forall₂ same each
  refine ⟨_, restored, shape, ?_, sameConditions⟩
  rw [List.mapM_map]
  exact mapM_of_forall₂ ordered

/-! ## Round trip -/

section

variable {settings : Settings} {tokens : Value} {grammar : Grammar} {lexer : CompiledLexer}

theorem restoreTables_canonical (compiled : (CompiledLexer.ofGrammar settings tokens grammar).outcome = .ok lexer)
    (again : ∀ rule ∈ lexer.rules, Pattern.Recompiles rule.pattern) (storable : Storable lexer)
    (plain : Plain (.dict (parts lexer))) :
    ∃ conditions, conditions.Perm lexer.conditions ∧
      restoreTables (canonical (.dict (parts lexer))) = .ok (lexer.rules, lexer.actions, conditions) := by
  have wellFormed := CompiledLexer.wellFormed_of_ofGrammar compiled
  have keyed := keyed_parts lexer
  have plainTable : Plain lexer.conditionTable :=
    plain.of_mem (show (.str "conditions", lexer.conditionTable) ∈ parts lexer by simp [parts])
  have keyedConditions : Keyed (lexer.conditions.map storedCondition) := plainTable.keyed
  have ascending : ∀ condition ∈ lexer.conditions, ∃ positions : List Nat,
      condition.rules = positions.map fun (i : Nat) => .int i := by
    intro condition mem
    obtain ⟨positions, rules, -⟩ := wellFormed.ascending condition mem
    exact ⟨positions, rules⟩
  obtain ⟨stored, conditions, shape, restored, same⟩ := restoreConditions keyedConditions ascending
  have shape : canonical lexer.conditionTable = .dict stored := shape
  refine ⟨conditions, same, ?_⟩
  rw [restoreTables, part_canonical (v := .list (lexer.rules.map storeRule)) keyed (by simp [parts]),
    part_canonical (v := .list (lexer.actions.map (·.body))) keyed (by simp [parts]),
    part_canonical (v := lexer.conditionTable) keyed (by simp [parts]), Json.canonical_list, Json.canonical_list, shape]
  have rules := restoreRules wellFormed.placedRules
    (fun rule mem => (CompiledLexer.rules_of_ofGrammar compiled rule mem).1) again
  dsimp only [Bind.bind, Except.bind, Value.items, entriesOf]
  simp only [lift_ok, rules, restored]
  rw [restoreActions wellFormed.placedActions storable.code]
  rfl

theorem assemble_reordered (compiled : (CompiledLexer.ofGrammar settings tokens grammar).outcome = .ok lexer)
    {conditions : List ConditionEntry} (same : conditions.Perm lexer.conditions) (extra : List (Value × Value)) :
    CompiledLexer.assemble lexer.rules conditions lexer.actions { lexer.options with extra } lexer.actionInclude
      lexer.moduleInclude = .ok (reordered lexer conditions extra) := by
  obtain ⟨macros, rules, resolved, actions, -, -, -, assembled⟩ := CompiledLexer.ofGrammar_stages compiled
  obtain ⟨-, -, dispatch, -, rfl⟩ := CompiledLexer.of_assemble assembled
  refine CompiledLexer.assemble_again assembled fun condition mem => ?_
  obtain ⟨positions, shape, -, inRange⟩ :=
    (CompiledLexer.wellFormed_of_ofGrammar compiled).ascending condition (same.mem_iff.1 mem)
  exact CompiledLexer.checkCondition_positions shape inRange

theorem restore_canonical (compiled : (CompiledLexer.ofGrammar settings tokens grammar).outcome = .ok lexer)
    (again : ∀ rule ∈ lexer.rules, Pattern.Recompiles rule.pattern) (regular : lexer.options.Regular)
    (storable : Storable lexer) :
    ∃ conditions extra, conditions.Perm lexer.conditions ∧
      extra.Perm (lexer.options.extra.map fun entry => (entry.1, canonical entry.2)) ∧
      restore (canonical (.dict (parts lexer))) = .ok (reordered lexer conditions extra) := by
  have plain := plain_parts compiled regular storable
  obtain ⟨conditions, same, tables⟩ := restoreTables_canonical compiled again storable plain
  obtain ⟨stored, shape, found⟩ := exists_stored (keyed_parts lexer)
  have keyed := storable.extra.keyed
  obtain ⟨inOrder, sameEntries, optionsShape, -⟩ := Json.exists_ordered (regular.keyed_toEntries keyed)
  obtain ⟨extra, sameExtra, read⟩ := regular.ofEntries_of_perm keyed (sameEntries.map _)
  refine ⟨conditions, extra, same, sameExtra, ?_⟩
  have format := found "_format" (.int formatVersion) (by simp [parts])
  have options := found "options" (.dict lexer.options.toEntries) (by simp [parts])
  have actionInclude := found "actionInclude" lexer.actionInclude (by simp [parts])
  have moduleInclude := found "moduleInclude" lexer.moduleInclude (by simp [parts])
  obtain ⟨actionCode, actionSame⟩ := storable.actionInclude
  obtain ⟨moduleCode, moduleSame⟩ := storable.moduleInclude
  rw [optionsShape] at options
  rw [actionSame] at actionInclude
  rw [moduleSame] at moduleInclude
  rw [shape] at tables ⊢
  have assembled := assemble_reordered compiled same extra
  rw [actionSame, moduleSame] at assembled
  unfold restore
  dsimp only [entriesOf, Bind.bind, Except.bind]
  have current : ((some (canonical (.int formatVersion))).getD .none).same (.int formatVersion) = true := by
    simp [canonical]
  rw [format, options, actionInclude, moduleInclude, tables, current]
  dsimp only [canonical, Option.getD_some, Options.ofValue]
  rw [read]
  exact assembled

/-- A compiled lexer that can be stored is restored from its text, in any layout: with the same rules, actions and
dispatch, the same start conditions by their names, equal options and the same blocks of code. The restored lexer
has the text of the first one. The flags that are stored of a pattern are the known ones, so a pattern that comes
compiled must have been given no other. -/
theorem read_write {parser : Option (Text → Except Error Value)} {source : Value}
    (compiled : (CompiledLexer.ofSource settings parser tokens source).outcome = .ok lexer)
    (known : ∀ grammar, Grammar.ofSource parser source = .ok grammar →
      ∀ rule ∈ grammar.rules, ∀ text flags, rule.pattern = .compiled text flags → flags < Pattern.knownFlags)
    (storable : Storable lexer) (layout : Json.Layout) :
    ∃ text conditions extra, write layout lexer = .ok text ∧
      read text = .ok { lexer with conditions, options := { lexer.options with extra } } ∧
      conditions.Perm lexer.conditions ∧
      Value.same (.dict extra) (.dict lexer.options.extra) = true ∧
      ∀ other, write other { lexer with conditions, options := { lexer.options with extra } } = write other lexer := by
  obtain ⟨grammar, sourceRead, compiled⟩ := CompiledLexer.ofGrammar_of_ofSource compiled
  have regular : lexer.options.Regular := by
    rw [CompiledLexer.options_of_ofGrammar compiled]
    exact Grammar.regular_of_ofSource sourceRead
  have again := Pattern.recompiles_of_ofGrammar compiled (known grammar sourceRead)
  have plain := plain_parts compiled regular storable
  obtain ⟨conditions, extra, same, sameExtra, restored⟩ := restore_canonical compiled again regular storable
  obtain ⟨text, written, found⟩ := plain.exists_read layout
  refine ⟨text, conditions, extra, write_eq storable.code written, ?_, same, ?_, fun other => ?_⟩
  · rw [Archive.read, found]
    exact restored
  · refine Json.same_dict_of_perm storable.extra.keyed (fun entry mem => ?_) sameExtra
    exact Json.same_canonical (storable.extra.of_mem mem)
  · obtain ⟨otherText, otherWritten, -⟩ := plain.exists_read other
    rw [write_eq storable.code otherWritten]
    exact write_eq storable.code ((write?_reordered plain same sameExtra other).trans otherWritten)

end

def limits : Value :=
  .dict [(.str "most", .int 12), (.str "least", .float (.finite false 4503599627370496 (-53)))]

theorem plain_limits : Plain limits := by
  have half : Json.read (Json.float (.finite false 4503599627370496 (-53))) =
      .ok (.float (.finite false 4503599627370496 (-53))) := by
    with_unfolding_all rfl
  refine .dict ⟨by simp, by simp⟩ ?_
  simp only [List.forall_mem_cons]
  exact ⟨plain_small (by decide : 12 < 1000), .float half, by simp⟩

def quotedWords : Value :=
  .dict [(.str "startConditions", .dict [(.str "quoted", .bool true)]),
    (.str "rules", .list [
      .list [.list [.str "quoted"], .str "[^']+", .str "return 'TEXT'"],
      .list [.list [.str "*"], .str "'", .str ""],
      .list [.pattern "[a-z]+" PatternFlags.dotAll, .str "return 'WORD'"]]),
    (.str "options", .dict [(.str "case-insensitive", .bool true), (.str "moduleType", .str "amd"),
      (.str "limits", limits)]),
    (.str "actionInclude", .str "count = 0")]

def quotedWordsGrammar : Grammar where
  rules := [⟨some ["quoted"], .text "[^']+".toList, .code "return 'TEXT'".toList⟩,
    ⟨some ["*"], .text ['\''], .code []⟩,
    ⟨none, .compiled "[a-z]+" PatternFlags.dotAll, .code "return 'WORD'".toList⟩]
  conditions := [("quoted", true)]
  options := { caseInsensitive := true, convention := .asyncDefine, extra := [(.str "limits", limits)] }
  actionInclude := .str "count = 0"

theorem knownFlags_quotedWordsGrammar : ∀ rule ∈ quotedWordsGrammar.rules, ∀ text flags,
    rule.pattern = .compiled text flags → flags < Pattern.knownFlags := by
  simp [quotedWordsGrammar, Pattern.knownFlags, PatternFlags.dotAll]

theorem read_write_quotedWords :
    ∃ lexer, (CompiledLexer.ofSource {} none .none quotedWords).outcome = .ok lexer ∧
      (∀ grammar, Grammar.ofSource none quotedWords = .ok grammar → ∀ rule ∈ grammar.rules, ∀ text flags,
        rule.pattern = .compiled text flags → flags < Pattern.knownFlags) ∧ Storable lexer ∧
      ∃ text conditions extra, write ⟨some 2⟩ lexer = .ok text ∧
        read text = .ok { lexer with conditions, options := { lexer.options with extra } } ∧
        conditions.Perm lexer.conditions ∧ Value.same (.dict extra) (.dict lexer.options.extra) = true ∧
        ∀ other, write other { lexer with conditions, options := { lexer.options with extra } } =
          write other lexer := by
  have source : Grammar.ofSource none quotedWords = .ok quotedWordsGrammar := by
    with_unfolding_all rfl
  have evaluated : (CompiledLexer.ofSource {} none .none quotedWords).outcome.toOption.any (fun lexer =>
      lexer.rules.length = 3) = true := by
    decide +kernel
  obtain ⟨lexer, compiled, three⟩ := exists_ok_of_any evaluated
  replace three := of_decide_eq_true three
  obtain ⟨grammar, sourceRead, fromGrammar⟩ := CompiledLexer.ofGrammar_of_ofSource compiled
  obtain rfl := Except.ok.inj (source.symm.trans sourceRead)
  have known (grammar) (read : Grammar.ofSource none quotedWords = .ok grammar) : ∀ rule ∈ grammar.rules,
      ∀ text flags, rule.pattern = .compiled text flags → flags < Pattern.knownFlags := by
    obtain rfl := Except.ok.inj (source.symm.trans read)
    exact knownFlags_quotedWordsGrammar
  refine ⟨lexer, compiled, known, ?storable, read_write compiled known ?storable ⟨some 2⟩⟩
  exact {
    code := by
      refine CompiledLexer.code_of_ofGrammar fromGrammar ?_
      simp [CompiledLexer.completed, quotedWordsGrammar]
    names := by
      rw [CompiledLexer.conditions_of_ofGrammar fromGrammar]
      simp [StartConditions.prepare, StartConditions.mark, quotedWordsGrammar, initialCondition]
    actionInclude := ⟨_, (CompiledLexer.includes_of_ofGrammar fromGrammar).1⟩
    moduleInclude := ⟨_, (CompiledLexer.includes_of_ofGrammar fromGrammar).2⟩
    extra := by
      rw [CompiledLexer.options_of_ofGrammar fromGrammar]
      refine .dict ⟨by simp [quotedWordsGrammar], by simp [quotedWordsGrammar]⟩ ?_
      simpa [quotedWordsGrammar] using plain_limits
    few := by
      rw [three]
      exact Nat.le_trans (by decide : 3 ≤ 1000) (thousand_le_pow (by decide)) }

/-! ## Flags that are not stored -/

/-- The flags of the patterns of a grammar, when it has been compiled and when the lexer has been restored. -/
def restoredFlags (grammar : Value) : Except Error (List PatternFlags × List PatternFlags) := do
  let lexer ← (CompiledLexer.ofSource {} none .none grammar).outcome
  let restored ← Archive.read (← write ⟨none⟩ lexer)
  return (lexer.rules.map (·.pattern.flags), restored.rules.map (·.pattern.flags))

def debuggedLetter : Value :=
  .dict [(.str "rules", .list [.list [.pattern "a" 1024, .str ""]])]

theorem unknown_flag_unstored : (restoredFlags debuggedLetter).toOption = some ([1056], [32]) := by
  decide +kernel

end LexGen.Archive
