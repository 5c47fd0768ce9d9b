import LexGen.Archive
import LexGen.Proofs.CompiledLexer.Compilation
import LexGen.Proofs.Options.Entries

/-!
# What is stored of a lexer

A compiled lexer that can be stored becomes one mapping, its parts under their names. JSON has a form for it.

* `store_eq`: the stored value.
* `plain_parts`: it is written and read again.
* `write?_reordered`: its text does not depend on the order of start conditions and unknown options.
-/

namespace LexGen.Archive

open CompiledLexer (WellFormed)
open Json (Keyed Plain canonical)

/-! ## Lexers that can be stored -/

/-- A lexer that can be stored: its actions and blocks are code, its start conditions are a map by names, and JSON
has a form for the options that are not known. The positions of the rules are integers that are converted. -/
structure Storable (lexer : CompiledLexer) : Prop where
  code : ∀ action ∈ lexer.actions, ∃ body, action.content = .code body
  names : (lexer.conditions.map (·.name)).Nodup
  actionInclude : ∃ s, lexer.actionInclude = .str s
  moduleInclude : ∃ s, lexer.moduleInclude = .str s
  extra : Plain (.dict lexer.options.extra)
  few : lexer.rules.length ≤ Nat.pow 10 Text.longestInteger

def parts (lexer : CompiledLexer) : List (Value × Value) :=
  [(.str "_format", .int formatVersion), (.str "rules", .list (lexer.rules.map storeRule)),
    (.str "actions", .list (lexer.actions.map (·.body))), (.str "conditions", lexer.conditionTable),
    (.str "options", .dict lexer.options.toEntries), (.str "actionInclude", lexer.actionInclude),
    (.str "moduleInclude", lexer.moduleInclude)]

theorem keyed_parts (lexer : CompiledLexer) : Keyed (parts lexer) where
  named := by simp [parts]
  distinct := by simp [parts]

theorem store_eq {lexer : CompiledLexer} (code : ∀ action ∈ lexer.actions, ∃ body, action.content = .code body) :
    store lexer = .ok (.dict (parts lexer)) := by
  have bodies : lexer.actions.mapM storeAction = .ok (lexer.actions.map (·.body)) := by
    refine mapM_eq_pure fun action mem => ?_
    obtain ⟨body, same⟩ := code action mem
    rw [storeAction, same]
    rfl
  rw [store, bodies]
  rfl

theorem write_eq {lexer : CompiledLexer} {text : Text} {layout : Json.Layout}
    (code : ∀ action ∈ lexer.actions, ∃ body, action.content = .code body)
    (written : Json.write? layout 0 (.dict (parts lexer)) = some text) : write layout lexer = .ok text := by
  rw [write, store_eq code]
  dsimp only [Bind.bind, Except.bind]
  rw [written]
  rfl

/-! ## Stored values are plain -/

theorem plain_int {n : Nat} (few : n < Nat.pow 10 Text.longestInteger) : Plain (.int n) :=
  .int (by rwa [Int.natAbs_natCast])

theorem thousand_le_pow {digits : Nat} (several : 3 ≤ digits) : 1000 ≤ Nat.pow 10 digits := by
  have bound : Nat.pow 10 3 ≤ Nat.pow 10 digits := Nat.pow_le_pow_right (by decide) several
  exact bound

theorem plain_small {n : Nat} (small : n < 1000) : Plain (.int n) :=
  plain_int (Nat.lt_of_lt_of_le small (thousand_le_pow (by decide)))

theorem plain_storeRule {rule : CompiledRule} {s : String} (source : rule.source = .str s) :
    Plain (storeRule rule) := by
  refine .dict ⟨by simp, by simp⟩ ?_
  have flags : rule.pattern.shownFlags < 1000 := Nat.lt_of_le_of_lt Nat.and_le_right (by decide)
  simp only [List.forall_mem_cons, source]
  exact ⟨.str _, .str _, plain_small flags, by simp⟩

theorem plain_conditionTable {lexer : CompiledLexer}
    (named : ∀ condition ∈ lexer.conditions, ∃ s, condition.name = .str s)
    (names : (lexer.conditions.map (·.name)).Nodup) (wellFormed : lexer.WellFormed)
    (few : lexer.rules.length ≤ Nat.pow 10 Text.longestInteger) : Plain lexer.conditionTable := by
  refine .dict ⟨?_, ?_⟩ ?_
  · rintro _ mem
    obtain ⟨condition, conditionMem, rfl⟩ := List.mem_map.1 mem
    exact named condition conditionMem
  · rw [List.map_map]
    exact names
  · rintro _ mem
    obtain ⟨condition, conditionMem, rfl⟩ := List.mem_map.1 mem
    obtain ⟨positions, rules, -, inRange⟩ := wellFormed.ascending condition conditionMem
    refine .dict ⟨by simp, by simp⟩ ?_
    simp only [List.forall_mem_cons, rules]
    refine ⟨.list ?_, .bool _, by simp⟩
    exact List.forall_mem_map.2 fun i mem => plain_int (Nat.lt_of_lt_of_le (inRange i mem) few)

section

variable {settings : Settings} {tokens : Value} {grammar : Grammar} {lexer : CompiledLexer}

theorem plain_parts (compiled : (CompiledLexer.ofGrammar settings tokens grammar).outcome = .ok lexer)
    (regular : lexer.options.Regular) (storable : Storable lexer) : Plain (.dict (parts lexer)) := by
  have wellFormed := CompiledLexer.wellFormed_of_ofGrammar compiled
  obtain ⟨actionInclude, actionCode⟩ := storable.actionInclude
  obtain ⟨moduleInclude, moduleCode⟩ := storable.moduleInclude
  refine .dict (keyed_parts lexer) ?_
  simp only [parts, List.forall_mem_cons, actionCode, moduleCode]
  refine ⟨plain_small (by decide : 1 < 1000), .list ?_, .list ?_, ?_, regular.plain_toEntries storable.extra, .str _,
    .str _, by simp⟩
  · refine List.forall_mem_map.2 fun rule mem => ?_
    obtain ⟨⟨s, source⟩, -⟩ := CompiledLexer.rules_of_ofGrammar compiled rule mem
    exact plain_storeRule source
  · refine List.forall_mem_map.2 fun action mem => ?_
    obtain ⟨body, same⟩ := storable.code action mem
    rw [ActionEntry.body, same]
    exact .str _
  · refine plain_conditionTable (fun condition mem => ?_) storable.names wellFormed storable.few
    rw [CompiledLexer.conditions_of_ofGrammar compiled] at mem
    obtain ⟨entry, -, rfl⟩ := List.mem_map.1 mem
    exact ⟨_, rfl⟩

end

/-! ## Reordered lexers -/

/-- A lexer with other start conditions and other unknown options: the same ones in another order, where it is used. -/
def reordered (lexer : CompiledLexer) (conditions : List ConditionEntry) (extra : List (Value × Value)) :
    CompiledLexer :=
  { lexer with conditions, options := { lexer.options with extra } }

/-- The order of the start conditions and of the unknown options does not show in the text. -/
theorem write?_reordered {lexer : CompiledLexer} (plain : Plain (.dict (parts lexer)))
    {conditions : List ConditionEntry} (same : conditions.Perm lexer.conditions) {extra : List (Value × Value)}
    (sameExtra : extra.Perm (lexer.options.extra.map fun entry => (entry.1, canonical entry.2)))
    (layout : Json.Layout) :
    Json.write? layout 0 (.dict (parts (reordered lexer conditions extra))) =
      Json.write? layout 0 (.dict (parts lexer)) := by
  have table : Json.write? layout 1 (reordered lexer conditions extra).conditionTable =
      Json.write? layout 1 lexer.conditionTable := by
    have plainTable : Plain lexer.conditionTable :=
      plain.of_mem (show (.str "conditions", lexer.conditionTable) ∈ parts lexer by simp [parts])
    refine Json.write?_dict_of_perm (f := id) plainTable (fun _ _ => rfl) ?_
    exact (same.map _).trans (.of_eq (List.map_id _).symm)
  have options : Json.write? layout 1 (.dict (reordered lexer conditions extra).options.toEntries) =
      Json.write? layout 1 (.dict lexer.options.toEntries) := by
    have plainOptions : Plain (.dict lexer.options.toEntries) :=
      plain.of_mem (show (.str "options", .dict lexer.options.toEntries) ∈ parts lexer by simp [parts])
    refine Json.write?_dict_of_perm (f := canonical) plainOptions (fun entry mem => ?_) ?_
    · exact Json.write?_canonical (plainOptions.of_mem mem) layout 2
    · rw [Options.map_canonical_toEntries, Options.toEntries_eq]
      exact sameExtra.append_right _
  refine Json.write?_dict_congr plain ?_ .rfl
  exact .cons ⟨rfl, rfl⟩ (.cons ⟨rfl, rfl⟩ (.cons ⟨rfl, rfl⟩ (.cons ⟨rfl, table⟩ (.cons ⟨rfl, options⟩
    (.cons ⟨rfl, rfl⟩ (.cons ⟨rfl, rfl⟩ .nil))))))

end LexGen.Archive
