import LexGen.Proofs.Outcome
import LexGen.StartConditions

/-!
# Which rules are active in which conditions

The table of start conditions is made rule by rule. Here it is described from the side of the conditions: what
is declared, what is inclusive, and when a rule is active in a condition.

* `mem_members`: the rules of a condition are those that are active in it.
* `pairwise_members`: they are in ascending order.
-/

namespace LexGen

/-! ## What a grammar says of a condition -/

namespace Grammar

def Declares (grammar : Grammar) (condition : String) : Prop :=
  condition = initialCondition ∨ condition ∈ grammar.conditions.map (·.1)

def Includes (grammar : Grammar) (condition : String) : Prop :=
  condition = initialCondition ∨ (condition, false) ∈ grammar.conditions

theorem Includes.declares {grammar : Grammar} {condition : String} (h : grammar.Includes condition) :
    grammar.Declares condition :=
  h.imp_right fun mem => List.mem_map_of_mem mem

/-- A rule is active in a condition if it has no list of conditions and the condition is inclusive, if its list
begins with the wildcard, or if its list names the condition. -/
def Activates (grammar : Grammar) (condition : String) (rule : Rule) : Prop :=
  match rule.states with
  | none => grammar.Includes condition
  | some states => states.head? = some wildcard ∨ condition ∈ states

end Grammar

namespace StartConditions

/-! ## Declared conditions -/

theorem mem_mark {name condition : String} {inclusive : Bool} {table : List (String × Bool)} :
    (condition, inclusive) ∈ mark name inclusive table ↔
      condition = name ∨ (condition, inclusive) ∈ table := by
  induction table with
  | nil => simp [mark]
  | cons entry table ih =>
    obtain ⟨other, old⟩ := entry
    rw [mark]
    split
    · rename_i same
      subst same
      simp only [List.mem_cons, Prod.mk.injEq]
      tauto
    · simp only [List.mem_cons, ih]
      tauto

theorem mem_names_mark {name condition : String} {inclusive : Bool} {table : List (String × Bool)} :
    condition ∈ (mark name inclusive table).map (·.1) ↔ condition = name ∨ condition ∈ table.map (·.1) := by
  induction table with
  | nil => simp [mark]
  | cons entry table ih =>
    obtain ⟨other, old⟩ := entry
    rw [mark]
    split
    · rename_i same
      subst same
      simp
    · simp only [List.map_cons, List.mem_cons, ih]
      tauto

theorem mem_prepare (grammar : Grammar) (condition : String) :
    condition ∈ (prepare grammar.conditions).map (·.1) ↔ grammar.Declares condition := by
  rw [prepare, mem_names_mark, Grammar.Declares]
  simp

theorem mem_prepare_inclusive (grammar : Grammar) (condition : String) :
    (condition, true) ∈ prepare grammar.conditions ↔ grammar.Includes condition := by
  rw [prepare, mem_mark, Grammar.Includes]
  simp

/-! ## Members -/

theorem mem_targets {grammar : Grammar} {condition : String} (declared : grammar.Declares condition)
    (rule : Rule) :
    condition ∈ targets (prepare grammar.conditions) rule ↔ grammar.Activates condition rule := by
  obtain ⟨states, pattern, action⟩ := rule
  cases states with
  | none =>
    simp only [targets, Grammar.Activates, List.mem_map, List.mem_filter, Prod.exists, exists_and_right,
      exists_eq_right, ← mem_prepare_inclusive]
  | some states =>
    simp only [targets, Grammar.Activates]
    cases states with
    | nil => simp [Rule.isWildcard]
    | cons first others =>
      by_cases wild : first = wildcard
      · simp [Rule.isWildcard, wild, (mem_prepare grammar condition).2 declared]
      · simp [Rule.isWildcard, wild]

theorem mem_members {grammar : Grammar} {condition : String} (declared : grammar.Declares condition)
    (rules : List Rule) (i : Nat) :
    i ∈ members (prepare grammar.conditions) rules condition ↔
      ∃ rule, rules[i]? = some rule ∧ grammar.Activates condition rule := by
  simp only [members, List.mem_map, List.mem_filter, List.contains_iff_mem, Prod.exists, exists_eq_right,
    List.mem_zipIdx_iff_getElem?, mem_targets declared]

theorem pairwise_members (table : List (String × Bool)) (rules : List Rule) (name : String) :
    (members table rules name).Pairwise (· < ·) := by
  have ascending : (rules.zipIdx.map (·.2)).Pairwise (· < ·) := by
    rw [List.zipIdx_map_snd]
    exact List.pairwise_lt_range'
  exact ascending.sublist (List.filter_sublist.map _)

theorem lt_of_mem_members {table : List (String × Bool)} {rules : List Rule} {name : String} {i : Nat}
    (mem : i ∈ members table rules name) : i < rules.length := by
  obtain ⟨⟨rule, i⟩, kept, rfl⟩ := List.mem_map.1 mem
  have found := List.mem_zipIdx_iff_getElem?.1 (List.mem_filter.1 kept).1
  exact (List.getElem?_eq_some_iff.1 found).1

/-! ## The table -/

theorem resolve_eq {declared : List (String × Bool)} {rules : List Rule} {conditions : List StartCondition}
    (h : resolve declared rules = .ok conditions) :
    conditions = (prepare declared).map fun (name, inclusive) =>
      ⟨name, inclusive, members (prepare declared) rules name⟩ := by
  obtain ⟨-, -, h⟩ := ok_of_bind h
  exact (Except.ok.inj h).symm

/-! ## Declarations in another order -/

theorem mark_of_mem {name : String} (inclusive : Bool) {table : List (String × Bool)}
    (distinct : (table.map (·.1)).Nodup) (mem : name ∈ table.map (·.1)) :
    mark name inclusive table = table.map fun entry => if entry.1 = name then (name, inclusive) else entry := by
  induction table with
  | nil => cases mem
  | cons entry table ih =>
    obtain ⟨other, old⟩ := entry
    obtain ⟨absent, distinct⟩ := List.nodup_cons.1 distinct
    rw [mark, List.map_cons]
    split
    · rename_i same
      subst same
      have kept : (table.map fun entry => if entry.1 = name then (name, inclusive) else entry) = table := by
        refine (List.map_congr_left fun entry mem' => if_neg ?_).trans (List.map_id _)
        intro same
        have again : entry.1 ∈ table.map (·.1) := List.mem_map_of_mem mem'
        rw [same] at again
        exact absent again
      rw [if_pos rfl, kept]
    · rename_i different
      rw [if_neg (Ne.symm different), ih distinct ((List.mem_cons.1 mem).resolve_left different)]

theorem mark_of_not_mem {name : String} (inclusive : Bool) {table : List (String × Bool)}
    (absent : name ∉ table.map (·.1)) : mark name inclusive table = table ++ [(name, inclusive)] := by
  induction table with
  | nil => rfl
  | cons entry table ih =>
    rw [List.map_cons, List.mem_cons, not_or] at absent
    rw [mark, if_neg absent.1, ih absent.2]
    rfl

theorem mark_perm (name : String) (inclusive : Bool) {table other : List (String × Bool)} (perm : other.Perm table)
    (distinct : (table.map (·.1)).Nodup) : (mark name inclusive other).Perm (mark name inclusive table) := by
  have sameNames := perm.map (·.1)
  by_cases mem : name ∈ table.map (·.1)
  · rw [mark_of_mem inclusive distinct mem,
      mark_of_mem inclusive (sameNames.nodup_iff.2 distinct) (sameNames.mem_iff.2 mem)]
    exact perm.map _
  · rw [mark_of_not_mem inclusive mem, mark_of_not_mem inclusive fun mem' => mem (sameNames.mem_iff.1 mem')]
    exact perm.append_right _

theorem nodup_mark (name : String) (inclusive : Bool) {table : List (String × Bool)}
    (distinct : (table.map (·.1)).Nodup) : ((mark name inclusive table).map (·.1)).Nodup := by
  by_cases mem : name ∈ table.map (·.1)
  · have names : (mark name inclusive table).map (·.1) = table.map (·.1) := by
      rw [mark_of_mem inclusive distinct mem, List.map_map]
      refine List.map_congr_left fun entry _ => ?_
      rw [Function.comp_apply]
      split
      · rename_i same
        exact same.symm
      · rfl
    exact names ▸ distinct
  · rw [mark_of_not_mem inclusive mem, List.map_append, List.nodup_append]
    refine ⟨distinct, by simp, ?_⟩
    intro other mem' added new same
    obtain rfl : other = name := same.trans (List.mem_singleton.1 new)
    exact mem mem'

theorem nodup_prepare {declared : List (String × Bool)} (distinct : (declared.map (·.1)).Nodup) :
    ((prepare declared).map (·.1)).Nodup := by
  refine nodup_mark _ _ ?_
  rw [List.map_map]
  exact distinct

theorem prepare_perm {declared other : List (String × Bool)} (perm : other.Perm declared)
    (distinct : (declared.map (·.1)).Nodup) : (prepare other).Perm (prepare declared) := by
  refine mark_perm _ _ (perm.map _) ?_
  rw [List.map_map]
  exact distinct

theorem mem_targets_perm {table other : List (String × Bool)} (perm : other.Perm table) (rule : Rule)
    (condition : String) : condition ∈ targets other rule ↔ condition ∈ targets table rule := by
  unfold targets
  split
  · exact ((perm.filter _).map _).mem_iff
  · split
    · exact (perm.map _).mem_iff
    · rfl

theorem members_perm {table other : List (String × Bool)} (perm : other.Perm table) (rules : List Rule)
    (name : String) : members other rules name = members table rules name := by
  have same : ∀ rule, (targets other rule).contains name = (targets table rule).contains name := by
    intro rule
    rw [Bool.eq_iff_iff, List.contains_iff_mem, List.contains_iff_mem, mem_targets_perm perm]
  simp only [members, same]

theorem checkRule_perm {table other : List (String × Bool)} (perm : other.Perm table) {rule : Rule} {index : Nat}
    (h : checkRule table rule index = .ok ()) : checkRule other rule index = .ok () := by
  have declared : undeclared? table rule = none := by
    unfold checkRule at h
    split at h
    · cases h
    · assumption
  have declared' : undeclared? other rule = none := by
    rw [undeclared?, List.find?_eq_none] at declared ⊢
    intro name mem
    have sameNames : (other.map (·.1)).contains name = (table.map (·.1)).contains name := by
      rw [Bool.eq_iff_iff, List.contains_iff_mem, List.contains_iff_mem, (perm.map (·.1)).mem_iff]
    rw [sameNames]
    exact declared name ((mem_targets_perm perm rule name).1 mem)
  rw [checkRule, declared']

theorem resolve_perm {declared other : List (String × Bool)} (perm : other.Perm declared)
    (distinct : (declared.map (·.1)).Nodup) {rules : List Rule} {conditions : List StartCondition}
    (h : resolve declared rules = .ok conditions) :
    ∃ conditions', resolve other rules = .ok conditions' ∧ conditions'.Perm conditions := by
  have tables := prepare_perm perm distinct
  obtain ⟨conditions', resolved⟩ : ∃ conditions', resolve other rules = .ok conditions' := by
    obtain ⟨_, passed, -⟩ := ok_of_bind h
    rw [resolve, forM_eq_ok fun entry mem => checkRule_perm tables (ok_of_forM passed entry mem)]
    exact ⟨_, rfl⟩
  refine ⟨conditions', resolved, ?_⟩
  rw [resolve_eq resolved, resolve_eq h]
  simp only [members_perm tables]
  exact tables.map _

end StartConditions

end LexGen
