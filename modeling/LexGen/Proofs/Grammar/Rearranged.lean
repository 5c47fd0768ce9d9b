import LexGen.Proofs.Options.Entries
import Mathlib.Data.List.Nodup

/-!
# Grammars in another order

Macros, start conditions and options are mappings, and a mapping has no order but that of the text that it was
written in. Two structured forms that differ in nothing else are read as grammars that differ in nothing else.

* `Value.Rearranged`, `PartRearranged`: structured forms in another order.
* `Grammar.Rearranged`: grammars in another order.
* `rearranged_ofEntries`: the one is read as the other.
-/

namespace LexGen

open Json (Keyed)

/-! ## Values -/

/-- A mapping with other entries: the same ones in another order. Anything but a mapping stays as it is. -/
inductive Value.Rearranged : Value → Value → Prop
  | mapping {entries other : List (Value × Value)} :
    Keyed entries → other.Perm entries → Rearranged (.dict entries) (.dict other)
  | options {entries other : List (Value × Value)} :
    Keyed entries → other.Perm entries → Rearranged (.options (.dict entries)) (.options (.dict other))
  | same {v : Value} :
    (∀ entries, v ≠ .dict entries) → (∀ entries, v ≠ .options (.dict entries)) → Rearranged v v

namespace Value.Rearranged

variable {v other : Value}

theorem truthy_eq (h : Rearranged v other) : other.truthy = v.truthy := by
  cases h with
  | mapping _ perm =>
    rw [truthy, truthy, perm.isEmpty_eq]
  | options => rfl
  | same => rfl

theorem nothing : Rearranged .none .none :=
  .same (by simp) (by simp)

theorem orElse (h : Rearranged v other) :
    Rearranged (Grammar.orElse v (.dict [])) (Grammar.orElse other (.dict [])) := by
  unfold Grammar.orElse
  rw [h.truthy_eq]
  split
  · exact h
  · exact .mapping ⟨by simp, by simp⟩ .rfl

end Value.Rearranged

/-! ## Parts -/

def mappingNames : List String := ["macros", "startConditions", "start_conditions", "options"]

/-- A part of a structured form, with its entries in another order if it is a mapping. -/
structure PartRearranged (part other : Value × Value) : Prop where
  key : other.1 = part.1
  mapping : ∀ name ∈ mappingNames, part.1 = .str name → Value.Rearranged part.2 other.2
  same : (∀ name ∈ mappingNames, part.1 ≠ .str name) → other.2 = part.2

namespace Grammar

theorem pick_cons (entries : List (Value × Value)) (name : String) (names : List String) :
    pick entries (name :: names) =
      match Value.get? entries name with
      | none => pick entries names
      | some .none => pick entries names
      | some v => v := by
  unfold pick
  rw [List.filterMap_cons]
  cases Value.get? entries name with
  | none => rfl
  | some v => cases v <;> rfl

theorem get?_related {P : Value × Value → Value × Value → Prop} {R : Value → Value → Prop} {name : String}
    {entries others : List (Value × Value)} (parts : List.Forall₂ P entries others)
    (keys : ∀ part other, P part other → other.1 = part.1)
    (each : ∀ part other, P part other → part.1 = .str name → R part.2 other.2) :
    Option.Rel R (Value.get? entries name) (Value.get? others name) := by
  induction parts with
  | nil => exact .none
  | @cons part other entries others h _ ih =>
    simp only [Value.get?, Value.lookup] at ih ⊢
    rw [keys part other h]
    split
    · rename_i equal
      exact .some (each part other h ((Value.same_str_right _ _).1 equal))
    · exact ih

theorem pick_found {entries : List (Value × Value)} {name : String} {v : Value}
    (found : Value.get? entries name = some v) (given : v ≠ .none) (names : List String) :
    pick entries (name :: names) = v := by
  rw [pick_cons, found]
  cases v <;> first | rfl | contradiction

theorem pick_related {R : Value → Value → Prop} (nothing : R .none .none)
    (missing : ∀ v other, R v other → (other = .none ↔ v = .none)) {entries others : List (Value × Value)}
    {names : List String}
    (each : ∀ name ∈ names, Option.Rel R (Value.get? entries name) (Value.get? others name)) :
    R (pick entries names) (pick others names) := by
  induction names with
  | nil => exact nothing
  | cons name names ih =>
    have rest := ih fun name mem => each name (List.mem_cons_of_mem _ mem)
    rcases found : Value.get? entries name with _ | v <;> rcases found' : Value.get? others name with _ | other <;>
      have related := each name List.mem_cons_self <;> rw [found, found'] at related
    · rw [pick_cons, pick_cons, found, found']
      exact rest
    · cases related
    · cases related
    · obtain ⟨h⟩ := related
      by_cases gone : v = .none
      · obtain rfl := (missing _ _ h).2 gone
        rw [pick_cons, pick_cons, found, found', gone]
        exact rest
      · rw [pick_found found gone, pick_found found' (mt (missing _ _ h).1 gone)]
        exact h

section Parts

variable {entries others : List (Value × Value)} (parts : List.Forall₂ PartRearranged entries others)

include parts

theorem get?_same {name : String} (plain : name ∉ mappingNames) :
    Option.Rel Eq (Value.get? entries name) (Value.get? others name) :=
  get?_related parts (fun _ _ h => h.key) fun part other h key => (h.same fun mapping mem key' => by
    rw [key] at key'
    exact plain (Value.str.inj key' ▸ mem)).symm

theorem pick_same {names : List String} (plain : ∀ name ∈ names, name ∉ mappingNames) :
    pick others names = pick entries names :=
  (pick_related rfl (fun _ _ h => h ▸ .rfl) fun name mem => get?_same parts (plain name mem)).symm

theorem pick_rearranged {names : List String} (mappings : ∀ name ∈ names, name ∈ mappingNames) :
    Value.Rearranged (pick entries names) (pick others names) := by
  refine pick_related .nothing (fun v other h => ?_) fun name mem =>
    get?_related parts (fun _ _ h => h.key) fun part other h => h.mapping name (mappings name mem)
  cases h with
  | mapping | options => simp
  | same => rfl

end Parts

/-! ## Readings -/

theorem rearranged_mappingOf {v other : Value} (h : Value.Rearranged v other) {mapping : List (Value × Value)}
    (read : mappingOf v = .ok mapping) :
    ∃ mapping', mappingOf other = .ok mapping' ∧ mapping'.Perm mapping ∧
      ((∀ entry ∈ mapping, ∃ s, entry.1 = .str s) → Keyed mapping) := by
  cases h with
  | mapping keyed perm =>
    obtain rfl := Except.ok.inj read
    exact ⟨_, rfl, perm, fun _ => keyed⟩
  | options => cases read
  | same notMapping _ =>
    refine ⟨mapping, read, .rfl, fun named => ⟨named, ?_⟩⟩
    unfold mappingOf at read
    split at read
    · exact absurd rfl (notMapping _)
    · obtain ⟨items, -, read⟩ := ok_of_bind read
      obtain ⟨pairs, -, read⟩ := ok_of_bind read
      obtain rfl := Except.ok.inj read
      refine (Value.pairwise_dictOf pairs).imp_of_mem fun {first second} mem _ different same => ?_
      obtain ⟨entry, entryMem, rfl⟩ := List.mem_map.1 mem
      obtain ⟨s, key⟩ := named entry entryMem
      rw [← same, key, (Value.same_str_right _ _).2 rfl] at different
      cases different

theorem rearranged_options {v other : Value} (h : Value.Rearranged v other) {options : Options}
    (read : Options.ofValue v = .ok options) :
    Keyed options.extra ∧ ∃ extra, extra.Perm options.extra ∧
      Options.ofValue other = .ok { options with extra } := by
  cases h with
  | mapping keyed perm => exact Options.ofEntries_perm keyed perm read
  | options keyed perm => exact Options.ofEntries_perm keyed perm read
  | same notMapping notOptions =>
    have none : options.extra = [] := by
      unfold Options.ofValue at read
      split at read
      · exact absurd rfl (notOptions _)
      · exact absurd rfl (notMapping _)
      · rw [← Except.ok.inj read]
      · split at read
        · cases read
        · rw [← Except.ok.inj read]
    exact ⟨none ▸ ⟨by simp, by simp⟩, options.extra, .rfl, read⟩

/-! ## Grammars -/

/-- A grammar with its macros, start conditions and unknown options in another order. -/
structure Rearranged (grammar other : Grammar) : Prop where
  rules : other.rules = grammar.rules
  macros : other.macros.Perm grammar.macros
  conditions : other.conditions.Perm grammar.conditions
  options : ∃ extra, extra.Perm grammar.options.extra ∧ other.options = { grammar.options with extra }
  actionInclude : other.actionInclude = grammar.actionInclude
  moduleInclude : other.moduleInclude = grammar.moduleInclude
  keyedMacros : (∀ entry ∈ grammar.macros, ∃ s, entry.1 = .str s) → Keyed grammar.macros
  distinct : (grammar.conditions.map (·.1)).Nodup
  keyedExtra : Keyed grammar.options.extra

theorem rearranged_conditions {v other : Value} (h : Value.Rearranged v other) {conditions : List (Value × Value)}
    (read : v = .dict conditions) :
    ∃ conditions', other = .dict conditions' ∧ conditions'.Perm conditions ∧ Keyed conditions := by
  subst read
  cases h with
  | mapping keyed perm => exact ⟨_, rfl, perm, keyed⟩
  | same notMapping _ => exact absurd rfl (notMapping _)

theorem rearranged_ofEntries {entries others : List (Value × Value)}
    (parts : List.Forall₂ PartRearranged entries others) {grammar : Grammar} (read : ofEntries entries = .ok grammar) :
    ∃ other, ofEntries others = .ok other ∧ grammar.Rearranged other := by
  obtain ⟨items, itemsRead, read⟩ := ok_of_bind read
  obtain ⟨rules, rulesRead, read⟩ := ok_of_bind read
  dsimp only at read
  split at read
  · rename_i conditions given
    obtain ⟨_, conditionsRead, read⟩ := ok_of_bind read
    obtain ⟨options, optionsRead, read⟩ := ok_of_bind read
    obtain ⟨macros, macrosRead, read⟩ := ok_of_bind read
    obtain ⟨moduleInclude, moduleRead, read⟩ := ok_of_bind read
    obtain rfl := Except.ok.inj conditionsRead
    obtain rfl := Except.ok.inj read
    obtain ⟨conditions', given', conditionsPerm, keyedConditions⟩ :=
      rearranged_conditions (pick_rearranged parts (by simp [mappingNames])).orElse given
    obtain ⟨keyedExtra, extra, extraPerm, optionsRead'⟩ :=
      rearranged_options (pick_rearranged parts (by simp [mappingNames])) optionsRead
    obtain ⟨macros', macrosRead', macrosPerm, keyedMacros⟩ :=
      rearranged_mappingOf (pick_rearranged parts (by simp [mappingNames])).orElse macrosRead
    have rulesPart : pick others ["rules"] = pick entries ["rules"] := pick_same parts (by simp [mappingNames])
    have actionPart : pick others ["actionInclude", "action_include"] =
        pick entries ["actionInclude", "action_include"] := pick_same parts (by simp [mappingNames])
    have modulePart : pick others ["moduleInclude", "module_include"] =
        pick entries ["moduleInclude", "module_include"] := pick_same parts (by simp [mappingNames])
    refine ⟨⟨rules, macros', conditions'.map fun entry => (entry.1.plain, entry.2.truthy),
      { options with extra }, orElse (pick entries ["actionInclude", "action_include"]) (.str ""), moduleInclude⟩,
      ?_, ⟨rfl, macrosPerm, conditionsPerm.map _, ⟨extra, extraPerm, rfl⟩, rfl, rfl, keyedMacros, ?_, keyedExtra⟩⟩
    · have rulesRead : items.zipIdx.mapM (fun entry => Rule.ofEntry entry.2 entry.1) = .ok rules := rulesRead
      rw [ofEntries, rulesPart, actionPart, modulePart, itemsRead]
      dsimp only [Bind.bind, Except.bind]
      rw [rulesRead, given', optionsRead', macrosRead', moduleRead]
      rfl
    · have names : ∀ entry ∈ conditions, .str entry.1.plain = entry.1 := by
        intro entry mem
        obtain ⟨s, key⟩ := keyedConditions.named entry mem
        rw [key]
        rfl
      have keys : (conditions.map fun entry => entry.1.plain).map Value.str = conditions.map (·.1) := by
        rw [List.map_map]
        exact List.map_congr_left names
      rw [List.map_map]
      exact List.Nodup.of_map Value.str (keys ▸ keyedConditions.distinct)
  · cases read

/-! ## Sources -/

/-- What stands for a grammar, with the mappings in another order: a structured form, a grammar that has been read
from one, or a text that is decoded as one. -/
inductive SourceRearranged (parser : Option (Text → Except Error Value)) : Value → Value → Prop
  | form {entries others : List (Value × Value)} :
    List.Forall₂ PartRearranged entries others → SourceRearranged parser (.dict entries) (.dict others)
  | grammar {entries others : List (Value × Value)} :
    List.Forall₂ PartRearranged entries others →
    SourceRearranged parser (.grammar (.dict entries)) (.grammar (.dict others))
  | text {text other : String} {entries others : List (Value × Value)} :
    (parser.getD decode) text.toList = .ok (.dict entries) →
    (parser.getD decode) other.toList = .ok (.dict others) →
    List.Forall₂ PartRearranged entries others → SourceRearranged parser (.str text) (.str other)

theorem rearranged_ofSource {parser : Option (Text → Except Error Value)} {source other : Value}
    (h : SourceRearranged parser source other) {grammar : Grammar} (read : ofSource parser source = .ok grammar) :
    ∃ grammar', ofSource parser other = .ok grammar' ∧ grammar.Rearranged grammar' := by
  cases h with
  | form parts => exact rearranged_ofEntries parts read
  | grammar parts => exact rearranged_ofEntries parts read
  | text decoded decoded' parts =>
    simp only [ofSource] at read ⊢
    rw [decoded] at read
    rw [decoded']
    exact rearranged_ofEntries parts read

end Grammar

end LexGen
