import LexGen.Proofs.Archive.Storing
import LexGen.Proofs.CompiledLexer.Rearranged
import LexGen.Proofs.Json.Canonical

/-!
# Texts of lexers

The text of a compiled lexer does not tell in which order the macros, the start conditions and the options of its
grammar have been given.

* `write_reordered`: the order of start conditions and unknown options does not show in the text.
* `write_rearranged`: rearranged grammars are compiled to lexers with the same text.
-/

namespace LexGen.Archive

open CompiledLexer (NamesMacros)
open Json (Keyed IsJson HasText)

variable {settings : Settings} {tokens : Value} {grammar : Grammar} {lexer : CompiledLexer}

/-! ## Reordered lexers -/

theorem keyed_conditionTable (named : ∀ condition ∈ lexer.conditions, ∃ s, condition.name = .str s)
    (distinct : (lexer.conditions.map (·.name)).Nodup) :
    Keyed (lexer.conditions.map fun condition => (condition.name,
      Value.dict [(.str "rules", .list condition.rules), (.str "inclusive", .bool condition.inclusive)])) where
  named := by
    intro entry mem
    obtain ⟨condition, conditionMem, rfl⟩ := List.mem_map.1 mem
    exact named condition conditionMem
  distinct := by
    rw [List.map_map]
    exact distinct

/-- The entries that a lexer is stored as, when its actions are stored as the given values. -/
def partsWith (lexer : CompiledLexer) (actions : List Value) : List (Value × Value) :=
  [(.str "_format", .int formatVersion), (.str "rules", .list (lexer.rules.map storeRule)),
    (.str "actions", .list actions), (.str "conditions", lexer.conditionTable),
    (.str "options", .dict lexer.options.toEntries), (.str "actionInclude", lexer.actionInclude),
    (.str "moduleInclude", lexer.moduleInclude)]

theorem write_eq_bind (layout : Json.Layout) (lexer : CompiledLexer) :
    write layout lexer = lexer.actions.mapM storeAction >>= fun actions =>
      match Json.write? layout 0 (.dict (partsWith lexer actions)) with
      | some text => .ok text
      | none => .error (.fault .badType) := by
  unfold write store
  cases lexer.actions.mapM storeAction <;> rfl

/-- The order of the start conditions and of the unknown options does not show in the text, if there is one. -/
theorem write_reordered (named : ∀ condition ∈ lexer.conditions, ∃ s, condition.name = .str s)
    (distinct : (lexer.conditions.map (·.name)).Nodup) (keyed : Keyed lexer.options.toEntries)
    {conditions : List ConditionEntry} (same : conditions.Perm lexer.conditions) {extra : List (Value × Value)}
    (sameExtra : extra.Perm lexer.options.extra) (layout : Json.Layout) :
    write layout (reordered lexer conditions extra) = write layout lexer := by
  have table : Json.write? layout 1 (reordered lexer conditions extra).conditionTable =
      Json.write? layout 1 lexer.conditionTable :=
    Json.write?_perm (keyed_conditionTable named distinct) (same.map _)
  have options : Json.write? layout 1 (.dict (reordered lexer conditions extra).options.toEntries) =
      Json.write? layout 1 (.dict lexer.options.toEntries) := by
    refine Json.write?_perm keyed ?_
    rw [Options.toEntries_eq, Options.toEntries_eq]
    exact sameExtra.append_right _
  have parts : ∀ actions, Json.write? layout 0 (.dict (partsWith (reordered lexer conditions extra) actions)) =
      Json.write? layout 0 (.dict (partsWith lexer actions)) := fun actions =>
    Json.write?_entries (.cons ⟨rfl, rfl⟩ (.cons ⟨rfl, rfl⟩ (.cons ⟨rfl, rfl⟩ (.cons ⟨rfl, table⟩
      (.cons ⟨rfl, options⟩ (.cons ⟨rfl, rfl⟩ (.cons ⟨rfl, rfl⟩ .nil)))))))
  rw [write_eq_bind, write_eq_bind]
  simp only [parts]
  rfl

/-! ## Lexers that have a text -/

/-- A grammar whose actions are statements and whose other parts are values of JSON. -/
structure Textual (grammar : Grammar) : Prop where
  code : ∀ rule ∈ grammar.rules, ∃ body, rule.action = .code body
  extra : IsJson (.dict grammar.options.extra)
  actionInclude : IsJson grammar.actionInclude
  moduleInclude : IsJson grammar.moduleInclude

theorem hasText_conditionTable (named : ∀ condition ∈ lexer.conditions, ∃ s, condition.name = .str s)
    (distinct : (lexer.conditions.map (·.name)).Nodup) (wellFormed : lexer.WellFormed) :
    HasText lexer.conditionTable := by
  refine Json.hasText_dict (keyed_conditionTable named distinct) ?_
  rintro _ mem
  obtain ⟨condition, conditionMem, rfl⟩ := List.mem_map.1 mem
  obtain ⟨positions, rules, -⟩ := wellFormed.ascending condition conditionMem
  refine Json.hasText_dict ⟨by simp, by simp⟩ ?_
  simp only [List.forall_mem_cons, rules]
  refine ⟨Json.hasText_list ?_, Json.hasText_bool _, by simp⟩
  exact List.forall_mem_map.2 fun i _ => Json.hasText_int i

theorem hasText_storeRule {rule : CompiledRule} {s : String} (source : rule.source = .str s) :
    HasText (storeRule rule) := by
  refine Json.hasText_dict ⟨by simp, by simp⟩ ?_
  simp only [List.forall_mem_cons, source]
  exact ⟨Json.hasText_str _, Json.hasText_str _, Json.hasText_int _, by simp⟩

theorem hasText_toEntries {options : Options} (regular : options.Regular) (extra : IsJson (.dict options.extra)) :
    HasText (.dict options.toEntries) := by
  cases extra with
  | dict keyed each =>
    refine Json.hasText_dict (regular.keyed_toEntries keyed) fun entry mem => ?_
    rw [Options.toEntries_eq] at mem
    rcases List.mem_append.1 mem with extra | known
    · exact (each entry extra).hasText
    · rcases Options.scalar_of_mem_knownEntries known with same | ⟨s, same⟩
      · exact same ▸ Json.hasText_bool true
      · exact same ▸ Json.hasText_str s

theorem exists_text (compiled : (CompiledLexer.ofGrammar settings tokens grammar).outcome = .ok lexer)
    (regular : lexer.options.Regular) (distinct : (lexer.conditions.map (·.name)).Nodup) (textual : Textual grammar)
    (layout : Json.Layout) : ∃ text, write layout lexer = .ok text := by
  have code := CompiledLexer.code_of_ofGrammar compiled (CompiledLexer.code_completed textual.code)
  obtain ⟨actionInclude, moduleInclude⟩ := CompiledLexer.includes_of_ofGrammar compiled
  have options := CompiledLexer.options_of_ofGrammar compiled
  have whole : HasText (.dict (parts lexer)) := by
    refine Json.hasText_dict (keyed_parts lexer) ?_
    simp only [parts, List.forall_mem_cons, actionInclude, moduleInclude]
    refine ⟨Json.hasText_int _, Json.hasText_list ?_, Json.hasText_list ?_, ?_, ?_, textual.actionInclude.hasText,
      textual.moduleInclude.hasText, by simp⟩
    · refine List.forall_mem_map.2 fun rule mem => ?_
      obtain ⟨⟨s, source⟩, -⟩ := CompiledLexer.rules_of_ofGrammar compiled rule mem
      exact hasText_storeRule source
    · refine List.forall_mem_map.2 fun action mem => ?_
      obtain ⟨body, same⟩ := code action mem
      rw [ActionEntry.body, same]
      exact Json.hasText_str _
    · refine hasText_conditionTable (fun condition mem => ?_) distinct (CompiledLexer.wellFormed_of_ofGrammar compiled)
      rw [CompiledLexer.conditions_of_ofGrammar compiled] at mem
      obtain ⟨entry, -, rfl⟩ := List.mem_map.1 mem
      exact ⟨_, rfl⟩
    · exact hasText_toEntries regular (options ▸ textual.extra)
  obtain ⟨text, written⟩ := whole layout 0
  exact ⟨text, write_eq code written⟩

/-! ## Rearranged grammars -/

theorem distinct_conditions (compiled : (CompiledLexer.ofGrammar settings tokens grammar).outcome = .ok lexer)
    (distinct : (grammar.conditions.map (·.1)).Nodup) : (lexer.conditions.map (·.name)).Nodup := by
  have names := (StartConditions.nodup_prepare distinct).map (f := Value.str) fun _ _ => Value.str.inj
  rw [List.map_map] at names
  rw [CompiledLexer.conditions_of_ofGrammar compiled, List.map_map]
  exact names

/-- The text of a compiled lexer is canonical: with the macros, the start conditions and the options of its grammar in
another order, the grammar is compiled as well, to a lexer with the same text. There is a text if the actions are
statements and the other parts are values of JSON. -/
theorem write_rearranged {parser : Option (Text → Except Error Value)} {source other : Value}
    (compiled : (CompiledLexer.ofSource settings parser tokens source).outcome = .ok lexer)
    (rearranged : Grammar.SourceRearranged parser source other)
    (named : ∀ grammar, Grammar.ofSource parser source = .ok grammar → NamesMacros grammar) :
    ∃ lexer', (CompiledLexer.ofSource settings parser tokens other).outcome = .ok lexer' ∧
      (∀ layout, write layout lexer' = write layout lexer) ∧
      ((∀ grammar, Grammar.ofSource parser source = .ok grammar → Textual grammar) →
        ∀ layout, ∃ text, write layout lexer = .ok text) := by
  obtain ⟨grammar, read, compiled⟩ := CompiledLexer.ofGrammar_of_ofSource compiled
  obtain ⟨grammar', read', h⟩ := Grammar.rearranged_ofSource rearranged read
  obtain ⟨conditions, extra, same, sameExtra, compiled'⟩ :=
    CompiledLexer.ofGrammar_rearranged compiled h (named grammar read)
  have options := CompiledLexer.options_of_ofGrammar compiled
  have regular : lexer.options.Regular := by
    rw [options]
    exact Grammar.regular_of_ofSource read
  have distinct := distinct_conditions compiled h.distinct
  have conditionNames : ∀ condition ∈ lexer.conditions, ∃ s, condition.name = .str s := by
    rw [CompiledLexer.conditions_of_ofGrammar compiled]
    exact List.forall_mem_map.2 fun entry _ => ⟨entry.1, rfl⟩
  refine ⟨reordered lexer conditions extra, ?_, fun layout => ?_, fun textual layout => ?_⟩
  · rw [CompiledLexer.ofSource, read']
    exact compiled'
  · exact write_reordered conditionNames distinct (regular.keyed_toEntries (options ▸ h.keyedExtra)) same sameExtra
      layout
  · exact exists_text compiled regular distinct (textual grammar read) layout

def numbers : Value :=
  .dict [(.str "macros", .dict [(.str "digit", .str "[0-9]"), (.str "number", .str "{digit}+")]),
    (.str "startConditions", .dict [(.str "quoted", .bool true), (.str "spaced", .bool false)]),
    (.str "rules", .list [.list [.str "{number}", .str "return 'NUMBER'"],
      .list [.list [.str "quoted"], .str "[^']+", .str "return 'TEXT'"]]),
    (.str "options", .dict [(.str "flex", .bool true), (.str "most", .int 12), (.str "least", .int 3)])]

def numbersAgain : Value :=
  .dict [(.str "macros", .dict [(.str "number", .str "{digit}+"), (.str "digit", .str "[0-9]")]),
    (.str "startConditions", .dict [(.str "spaced", .bool false), (.str "quoted", .bool true)]),
    (.str "rules", .list [.list [.str "{number}", .str "return 'NUMBER'"],
      .list [.list [.str "quoted"], .str "[^']+", .str "return 'TEXT'"]]),
    (.str "options", .dict [(.str "least", .int 3), (.str "flex", .bool true), (.str "most", .int 12)])]

def numbersGrammar : Grammar where
  macros := [(.str "digit", .str "[0-9]"), (.str "number", .str "{digit}+")]
  rules := [⟨none, .text "{number}".toList, .code "return 'NUMBER'".toList⟩,
    ⟨some ["quoted"], .text "[^']+".toList, .code "return 'TEXT'".toList⟩]
  conditions := [("quoted", true), ("spaced", false)]
  options := { flex := true, extra := [(.str "most", .int 12), (.str "least", .int 3)] }

theorem write_rearranged_numbers :
    ∃ lexer lexer', (CompiledLexer.ofSource {} none .none numbers).outcome = .ok lexer ∧
      (CompiledLexer.ofSource {} none .none numbersAgain).outcome = .ok lexer' ∧
      ∃ text, write ⟨some 2⟩ lexer = .ok text ∧ write ⟨some 2⟩ lexer' = .ok text := by
  have read : Grammar.ofSource none numbers = .ok numbersGrammar := by
    with_unfolding_all rfl
  have short (i : Nat) (small : i < 1000) : IsJson (.int i) :=
    .int (Nat.lt_of_lt_of_le small (thousand_le_pow (by decide)))
  obtain ⟨lexer, compiled, -⟩ := exists_ok_of_any (p := fun lexer => lexer.rules.length = 3)
    (x := (CompiledLexer.ofSource {} none .none numbers).outcome) (by decide +kernel)
  have rearranged : Grammar.SourceRearranged none numbers numbersAgain := by
    refine .form (.cons ⟨rfl, ?macros, ?_⟩ (.cons ⟨rfl, ?conditions, ?_⟩ (.cons ⟨rfl, ?_, fun _ => rfl⟩
      (.cons ⟨rfl, ?options, ?_⟩ .nil))))
    case macros => exact fun _ _ _ => .mapping ⟨by simp, by simp⟩ (.swap ..)
    case conditions => exact fun _ _ _ => .mapping ⟨by simp, by simp⟩ (.swap ..)
    case options => exact fun _ _ _ => .mapping ⟨by simp, by simp⟩ ((List.Perm.swap ..).trans (.cons _ (.swap ..)))
    all_goals simp [mappingNames]
  have named : ∀ grammar, Grammar.ofSource none numbers = .ok grammar → NamesMacros grammar := by
    intro grammar read'
    obtain rfl := Except.ok.inj (read.symm.trans read')
    simp only [NamesMacros, numbersGrammar, List.forall_mem_cons]
    exact ⟨⟨"digit", rfl, by decide⟩, ⟨"number", rfl, by decide⟩, by simp⟩
  have textual : ∀ grammar, Grammar.ofSource none numbers = .ok grammar → Textual grammar := by
    intro grammar read'
    obtain rfl := Except.ok.inj (read.symm.trans read')
    refine ⟨by simp [numbersGrammar], .dict ⟨by simp [numbersGrammar], by simp [numbersGrammar]⟩ ?_, .str _, .str _⟩
    simp only [numbersGrammar, List.forall_mem_cons]
    exact ⟨short 12 (by decide), short 3 (by decide), by simp⟩
  obtain ⟨lexer', compiled', same, exists_text⟩ := write_rearranged compiled rearranged named
  obtain ⟨text, written⟩ := exists_text textual ⟨some 2⟩
  exact ⟨lexer, lexer', compiled, compiled', text, written, (same _).trans written⟩

end LexGen.Archive
