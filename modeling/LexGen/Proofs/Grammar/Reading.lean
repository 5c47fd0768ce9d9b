import LexGen.Grammar
import LexGen.Proofs.Options.Failures

/-!
# Reading documented grammars

The structured form of a grammar can be any value. One whose parts have the documented types is refused with errors of
the compiler, whatever is wrong inside its entries of rules and its options, integers of too many digits apart.

* `Documented`: the structured forms with the documented types, whose patterns and actions are texts.
* `failsWith_ofEntries`, `textual_of_ofEntries`: how they are refused, and what they are read as.
-/

namespace LexGen

/-! ## Rules -/

namespace Rule

def IsPlain (v : Value) : Prop := (∀ text flags, v ≠ .pattern text flags) ∧ ∀ c, v ≠ .callable c

def IsTextual : Value → Prop
  | .rule _ pattern action => (∃ s, pattern = .str s) ∧ ∃ s, action = .str s
  | .list items | .tuple items => ∀ item ∈ items, IsPlain item
  | _ => True

/-- A rule that consists of texts. -/
structure Textual (rule : Rule) : Prop where
  pattern : ∃ text, rule.pattern = .text text
  action : ∃ body, rule.action = .code body

theorem failsWith_readStates (index : Nat) (items : List Value) :
    FailsWith Error.IsOwn (readStates index items) := by
  unfold readStates
  split
  · split
    · exact .ok _
    · split
      · exact .error rfl
      · exact .ok _
  · exact .ok _

theorem failsWith_ofEntry (index : Nat) (entry : Value) :
    FailsWith Error.IsOwn (ofEntry index entry) := by
  unfold ofEntry
  split
  · exact .ok _
  · split
    · exact .error rfl
    · refine (failsWith_readStates index _).bind fun found _ => ?_
      obtain ⟨states, items⟩ := found
      dsimp only
      split
      · split
        · exact .error rfl
        · split
          · exact .error rfl
          · exact .ok _
      · split
        · exact .error rfl
        · exact .error rfl

theorem mem_of_readStates {index : Nat} {items others : List Value} {states : Option (List String)}
    (h : readStates index items = .ok (states, others)) : ∀ item ∈ others, item ∈ items := by
  unfold readStates at h
  split at h
  · split at h
    · cases h
      exact fun _ => id
    · split at h
      · cases h
      · cases h
        exact fun _ => List.mem_cons_of_mem _
  · cases h
    exact fun _ => id

theorem exists_text_of_patternOf {v : Value} (plain : IsPlain v) (known : ∀ other, patternOf v = .other other → False) :
    ∃ text, patternOf v = .text text := by
  unfold patternOf at known ⊢
  split at known
  · exact ⟨_, rfl⟩
  · exact absurd rfl (plain.1 _ _)
  · exact (known _ rfl).elim

theorem exists_code_of_actionOf {v : Value} (plain : IsPlain v) (known : ∀ other, actionOf v = .other other → False) :
    ∃ body, actionOf v = .code body := by
  unfold actionOf at known ⊢
  split at known
  · exact ⟨_, rfl⟩
  · exact absurd rfl (plain.2 _)
  · exact (known _ rfl).elim

theorem textual_of_ofEntry {index : Nat} {entry : Value} {rule : Rule} (textual : IsTextual entry)
    (h : ofEntry index entry = .ok rule) : rule.Textual := by
  unfold ofEntry at h
  split at h
  case h_1 =>
    obtain ⟨⟨pattern, rfl⟩, action, rfl⟩ := textual
    obtain rfl := Except.ok.inj h
    exact ⟨⟨_, rfl⟩, _, rfl⟩
  case h_2 =>
    split at h
    · cases h
    rename_i items given
    obtain ⟨⟨states, others⟩, read, h⟩ := ok_of_bind h
    have plain : ∀ item ∈ others, IsPlain item := by
      refine fun item mem => ?_
      unfold Value.sequence? at given
      split at given
      · exact textual item (Option.some.inj given ▸ mem_of_readStates read item mem)
      · exact textual item (Option.some.inj given ▸ mem_of_readStates read item mem)
      · cases given
    dsimp only at h
    split at h
    · rename_i pattern action
      obtain ⟨plainPattern, plainAction, -⟩ := by simpa only [List.forall_mem_cons] using plain
      split at h
      · cases h
      · split at h
        · cases h
        · rename_i _ known _ known'
          obtain rfl := Except.ok.inj h
          refine ⟨exists_text_of_patternOf plainPattern known, exists_code_of_actionOf ?_ known'⟩
          split
          · exact ⟨nofun, nofun⟩
          · exact plainAction
    · split at h
      · cases h
      · cases h

end Rule

/-! ## Grammars -/

namespace Grammar

def HasPart (entries : List (Value × Value)) (names : List String) (kind : Value → Prop) : Prop :=
  pick entries names = .none ∨ kind (pick entries names)

def IsTable (kind : Value → Prop) (v : Value) : Prop :=
  ∃ entries, v = .dict entries ∧ ∀ entry ∈ entries, (∃ name, entry.1 = .str name) ∧ kind entry.2

def IsText (v : Value) : Prop := ∃ s, v = .str s

/-- The structured forms of grammars whose parts have the documented types. -/
structure Documented (entries : List (Value × Value)) : Prop where
  rules : HasPart entries ["rules"] fun v => ∃ rules, v = .list rules ∧ ∀ entry ∈ rules, Rule.IsTextual entry
  macros : HasPart entries ["macros"] (IsTable IsText)
  conditions : HasPart entries ["startConditions", "start_conditions"]
    (IsTable fun v => ∃ exclusive, v = .bool exclusive)
  options : HasPart entries ["options"] fun v => ∃ block, v = .dict block
  actionInclude : HasPart entries ["actionInclude", "action_include"] IsText
  moduleInclude : HasPart entries ["moduleInclude", "module_include"] IsText

/-- An option that has to be a text is given a value with an integer of too many digits in it. -/
def HasLongOption (entries : List (Value × Value)) : Prop :=
  ∃ block, pick entries ["options"] = .dict block ∧ Options.HasLong block

structure Textual (grammar : Grammar) : Prop where
  rules : ∀ rule ∈ grammar.rules, rule.Textual
  macros : ∀ entry ∈ grammar.macros, IsText entry.1 ∧ IsText entry.2

theorem HasPart.orElse {entries : List (Value × Value)} {names : List String} {kind : Value → Prop}
    (h : HasPart entries names kind) (default : Value) :
    orElse (pick entries names) default = default ∨
      orElse (pick entries names) default = pick entries names ∧ kind (pick entries names) := by
  unfold Grammar.orElse
  rcases h with none | known
  · rw [none]
    exact .inl rfl
  · split
    · exact .inr ⟨rfl, known⟩
    · exact .inl rfl

section

variable {entries : List (Value × Value)} (documented : Documented entries)

include documented

theorem Documented.exists_rules :
    ∃ rules, (Grammar.orElse (pick entries ["rules"]) (.tuple [])).items = .ok rules ∧
      ∀ entry ∈ rules, Rule.IsTextual entry := by
  rcases documented.rules.orElse (.tuple []) with same | ⟨same, rules, given, textual⟩
  · exact ⟨[], by rw [same]; rfl, by simp⟩
  · exact ⟨rules, by rw [same, given]; rfl, textual⟩

theorem Documented.exists_macros :
    ∃ macros, mappingOf (Grammar.orElse (pick entries ["macros"]) (.dict [])) = .ok macros ∧
      ∀ entry ∈ macros, IsText entry.1 ∧ IsText entry.2 := by
  rcases documented.macros.orElse (.dict []) with same | ⟨same, macros, given, textual⟩
  · exact ⟨[], by rw [same]; rfl, by simp⟩
  · exact ⟨macros, by rw [same, given]; rfl, textual⟩

theorem Documented.exists_conditions : ∃ conditions,
    Grammar.orElse (pick entries ["startConditions", "start_conditions"]) (.dict []) = .dict conditions := by
  rcases documented.conditions.orElse (.dict []) with same | ⟨same, conditions, given, -⟩
  · exact ⟨_, same⟩
  · exact ⟨_, same.trans given⟩

theorem Documented.exists_moduleInclude : ∃ code,
    Grammar.orElse (pick entries ["moduleInclude", "module_include"]) (.str "") = .str code := by
  rcases documented.moduleInclude.orElse (.str "") with same | ⟨same, code, given⟩
  · exact ⟨_, same⟩
  · exact ⟨_, same.trans given⟩

theorem Documented.failsWith_options :
    FailsWith (Error.Expected fun f => f = .badValue ∧ HasLongOption entries)
      (Options.ofValue (pick entries ["options"])) := by
  rcases documented.options with none | ⟨block, given⟩
  · rw [none]
    exact .ok _
  · rw [given]
    exact (Options.failsWith_ofEntries block).mono fun _ => .mono fun _ ⟨same, long⟩ => ⟨same, block, given, long⟩

theorem failsWith_ofEntries :
    FailsWith (Error.Expected fun f => f = .badValue ∧ HasLongOption entries) (ofEntries entries) := by
  obtain ⟨rules, givenRules, -⟩ := documented.exists_rules
  obtain ⟨macros, givenMacros, -⟩ := documented.exists_macros
  obtain ⟨conditions, givenConditions⟩ := documented.exists_conditions
  obtain ⟨code, givenInclude⟩ := documented.exists_moduleInclude
  unfold ofEntries
  rw [givenRules, givenMacros, givenConditions, givenInclude]
  refine FailsWith.bind (.ok rules) fun rules _ => ?_
  refine FailsWith.bind (.mapM fun entry _ => (Rule.failsWith_ofEntry _ _).own) fun _ _ => ?_
  refine FailsWith.bind (.ok _) fun _ _ => documented.failsWith_options.bind fun _ _ => ?_
  exact FailsWith.bind (.ok _) fun _ _ => FailsWith.bind (.ok _) fun _ _ => .ok _

theorem textual_of_ofEntries {grammar : Grammar} (h : ofEntries entries = .ok grammar) : grammar.Textual := by
  obtain ⟨rules, givenRules, textual⟩ := documented.exists_rules
  obtain ⟨macros, givenMacros, textual'⟩ := documented.exists_macros
  obtain ⟨conditions, givenConditions⟩ := documented.exists_conditions
  unfold ofEntries at h
  rw [givenRules, givenMacros, givenConditions] at h
  obtain ⟨_, same, h⟩ := ok_of_bind h
  obtain rfl := Except.ok.inj same
  obtain ⟨made, each, h⟩ := ok_of_bind h
  obtain ⟨_, -, h⟩ := ok_of_bind h
  obtain ⟨_, -, h⟩ := ok_of_bind h
  obtain ⟨_, same, h⟩ := ok_of_bind h
  obtain rfl := Except.ok.inj same
  obtain ⟨_, -, h⟩ := ok_of_bind h
  obtain rfl := Except.ok.inj h
  refine ⟨fun rule mem => ?_, textual'⟩
  obtain ⟨⟨entry, index⟩, entryMem, read⟩ := exists_of_mem_forall₂ (forall₂_of_mapM each) mem
  exact Rule.textual_of_ofEntry (textual entry (List.fst_mem_of_mem_zipIdx entryMem)) read

end

end Grammar

end LexGen
