import LexGen.Proofs.Scanner.Unrecognized
import Mathlib.Tactic.ByContra
import Mathlib.Tactic.Push

/-!
# The longest match and backtracking

With the flex policy the longest match wins. With backtracking a match is attempted as soon as it is found, so that the
lengths of later matches are not looked at; a rule wins over those behind it even if their matches are longer.

* `LongestFirst`: a step that goes by the lengths of the matches. The longest match is attempted, the first of several,
  and if it is rejected its rule is left out.
* `tryRules_longestFirst`: where no match is longer than that of a rule before it, steps with backtracking go by length.
* `longest_match_survives_iff`: elsewhere they do not.
* `shorter_match_taken`: a step that takes the shorter of two matches.
-/

namespace LexGen.Scanner

variable {σ : Type}

/-! ## Steps that go by length -/

/-- The match of a rule that stands between others is the longest, and the first of this length. -/
structure Tables.Longest (t : Tables σ) (before rest : Text) (earlier : List Nat) (rule : Nat) (text : Text)
    (later : List Nat) : Prop where
  found : t.match? rule before rest = .ok (some text)
  earlier : ∀ other ∈ earlier, ∀ otherText, t.match? other before rest = .ok (some otherText) →
    otherText.length < text.length
  later : ∀ other ∈ later, ∀ otherText, t.match? other before rest = .ok (some otherText) →
    otherText.length ≤ text.length

/-- How a step may end that attempts the longest match among those of the given rules, and after a rejection the longest
among those of the other rules. -/
inductive LongestFirst (t : Tables σ) : List Nat → State σ → Except Error Value × State σ → Prop where
  | accepted {earlier later : List Nat} {rule : Nat} {text : Text} {s : State σ} :
      t.Longest s.before s.rest earlier rule text later →
      ¬ GivesUp (outcome (attempt t rule text) s) →
      LongestFirst t (earlier ++ rule :: later) s (outcome (attempt t rule text) s)
  | rejected {earlier later : List Nat} {rule : Nat} {text : Text} {s between : State σ}
      {ended : Except Error Value × State σ} :
      t.Longest s.before s.rest earlier rule text later →
      outcome (attempt t rule text) s = (.ok .none, between) →
      between.rejected = true →
      LongestFirst t (earlier ++ later) between ended →
      LongestFirst t (earlier ++ rule :: later) s ended
  | unmatched {rules : List Nat} {s : State σ} :
      t.Unmatched s.before s.rest rules →
      LongestFirst t rules s (outcome unmatched s)

def Tables.Shrinking (t : Tables σ) (before rest : Text) (rules : List Nat) : Prop :=
  rules.Pairwise fun rule other => ∀ text otherText, t.match? rule before rest = .ok (some text) →
    t.match? other before rest = .ok (some otherText) → otherText.length ≤ text.length

variable {t : Tables σ} {rules : List Nat} {s : State σ}

/-! ## Where matches do not get longer -/

theorem Tables.Longest.skip {before rest : Text} {earlier later : List Nat} {rule added : Nat} {text : Text}
    (longest : t.Longest before rest earlier rule text later) (none : t.match? added before rest = .ok none) :
    t.Longest before rest (added :: earlier) rule text later where
  found := longest.found
  earlier := by
    refine List.forall_mem_cons.2 ⟨fun otherText matched => ?_, longest.earlier⟩
    rw [none] at matched
    cases matched
  later := longest.later

theorem LongestFirst.skip (backtracking : t.backtracking = true) {added : Nat} {ended : Except Error Value × State σ}
    (h : LongestFirst t rules s ended) (none : t.match? added s.before s.rest = .ok none) :
    LongestFirst t (added :: rules) s ended := by
  induction h with
  | @accepted earlier later rule text s longest kept =>
    rw [← List.cons_append]
    exact .accepted (longest.skip none) kept
  | @rejected earlier later rule text s between ended longest attempted rejected _ ih =>
    have same := attempt_rejected backtracking attempted rejected
    rw [← List.cons_append]
    exact .rejected (longest.skip none) attempted rejected (ih (by rwa [same]))
  | unmatched others => exact .unmatched (List.forall_mem_cons.2 ⟨none, others⟩)

theorem tryRules_longestFirst (backtracking : t.backtracking = true)
    (inRange : ∀ rule ∈ rules, rule < t.matchers.length) (shrinking : t.Shrinking s.before s.rest rules) :
    LongestFirst t rules s (outcome (tryRules t rules) s) := by
  induction rules generalizing s with
  | nil => exact .unmatched (by simp [Tables.Unmatched])
  | cons rule rules ih =>
    obtain ⟨first, others⟩ := List.pairwise_cons.1 shrinking
    obtain ⟨inRangeFirst, inRangeOthers⟩ := List.forall_mem_cons.1 inRange
    rw [outcome_tryRules_cons]
    obtain ⟨found?, tried⟩ := t.match?_of_lt inRangeFirst
    rw [tried]
    cases found? with
    | none => exact (ih inRangeOthers others).skip backtracking tried
    | some text =>
      have longest : t.Longest s.before s.rest [] rule text rules :=
        ⟨tried, by simp, fun other mem otherText matched => first other mem text otherText tried matched⟩
      dsimp only
      by_cases given : GivesUp (outcome (attempt t rule text) s)
      · obtain ⟨between, attempted⟩ : ∃ between, outcome (attempt t rule text) s = (.ok .none, between) :=
          ⟨_, Prod.ext given.1 rfl⟩
        have rejected : between.rejected = true := by simpa [attempted] using given.2
        have same := attempt_rejected backtracking attempted rejected
        rw [attempted]
        dsimp only
        rw [if_pos rejected]
        have others : LongestFirst t rules between (outcome (tryRules t rules) between) :=
          ih inRangeOthers (by rwa [same])
        exact .rejected longest attempted rejected others
      · have accepted : LongestFirst t ([] ++ rule :: rules) s (outcome (attempt t rule text) s) :=
          .accepted longest given
        split
        · rename_i now attempted
          rw [if_neg fun rejected => given ⟨by rw [attempted], by rw [attempted]; exact rejected⟩, ← attempted]
          exact accepted
        · exact accepted

/-! ## Where they do -/

/-- The actions of some rules reject their matches, and those of all others yield the number of the rule. -/
def sifting (refused : List Nat) (rule : Nat) (_ : String) : Run σ Value :=
  if rule ∈ refused then do
    modify fun s => { s with rejected := true }
    return .none
  else return .int rule

section Sifting

variable {refused : List Nat} {rule : Nat} {text : Text}

theorem attempt_refused (backtracking : t.backtracking = true) (actions : t.action = sifting refused)
    (stacked : s.conditions ≠ []) (mem : rule ∈ refused) :
    outcome (attempt t rule text) s = (.ok .none, { s with rejected := true }) := by
  obtain ⟨condition, others, stack⟩ := List.exists_cons_of_ne_nil stacked
  have acted : outcome (t.action rule condition) (s.commit t.ranges text) =
      (.ok .none, { s.commit t.ranges text with rejected := true }) := by
    rw [actions, sifting, if_pos mem]
    rfl
  have entered : s.conditions.head? = some condition := by rw [stack]; rfl
  rw [attempt_of_rejecting backtracking entered acted rfl]
  rfl

theorem attempt_sifted (actions : t.action = sifting refused) (stacked : s.conditions ≠ []) (mem : rule ∉ refused) :
    (outcome (attempt t rule text) s).1 = .ok (.int rule) := by
  obtain ⟨condition, others, stack⟩ := List.exists_cons_of_ne_nil stacked
  rw [outcome_attempt, stack, actions]
  simp only [sifting, if_neg mem]
  rfl

theorem tryRules_sifting (backtracking : t.backtracking = true) (actions : t.action = sifting refused)
    (stacked : s.conditions ≠ []) {passed later : List Nat} (inRange : ∀ other ∈ passed, other < t.matchers.length)
    (gone : passed ⊆ refused) (mem : rule ∉ refused) (found : t.match? rule s.before s.rest = .ok (some text)) :
    (outcome (tryRules t (passed ++ rule :: later)) s).1 = .ok (.int rule) := by
  induction passed generalizing s with
  | nil =>
    have attempted : (outcome (attempt t rule text) s).1 = .ok (.int rule) := attempt_sifted actions stacked mem
    rw [List.nil_append, outcome_tryRules_cons, found]
    dsimp only
    rcases ended : outcome (attempt t rule text) s with ⟨result, now⟩
    rw [ended] at attempted
    obtain rfl : result = .ok (.int rule) := attempted
    rfl
  | cons other passed ih =>
    obtain ⟨inRangeFirst, inRangeOthers⟩ := List.forall_mem_cons.1 inRange
    obtain ⟨goneFirst, goneOthers⟩ := List.cons_subset.1 gone
    rw [List.cons_append, outcome_tryRules_cons]
    obtain ⟨found?, tried⟩ := t.match?_of_lt inRangeFirst
    rw [tried]
    cases found? with
    | none => exact ih stacked inRangeOthers goneOthers found
    | some otherText =>
      dsimp only
      rw [attempt_refused backtracking actions stacked goneFirst]
      exact ih (s := { s with rejected := true }) stacked inRangeOthers goneOthers found

/-- A step that goes by length does not end with a rule while a longer match is left. -/
theorem not_longestFirst_sifting (backtracking : t.backtracking = true) (actions : t.action = sifting refused)
    (stacked : s.conditions ≠ []) {other : Nat} {otherText : Text} {ended : Except Error Value × State σ}
    (here : rule ∈ rules) (there : other ∈ rules) (mem : rule ∉ refused) (left : other ∉ refused)
    (found : t.match? rule s.before s.rest = .ok (some text))
    (foundOther : t.match? other s.before s.rest = .ok (some otherText)) (longer : text.length < otherText.length)
    (token : ended.1 = .ok (.int rule)) : ¬ LongestFirst t rules s ended := by
  intro h
  induction h with
  | @accepted earlier later winner winning s longest kept =>
    by_cases gone : winner ∈ refused
    · rw [attempt_refused backtracking actions stacked gone] at kept
      exact kept ⟨rfl, rfl⟩
    · -- The rule itself has been attempted, although the other match is longer.
      rw [attempt_sifted actions stacked gone, Except.ok.injEq, Value.int.injEq, Int.natCast_inj] at token
      subst token
      obtain rfl : winning = text := by simpa [longest.found] using found
      rcases List.mem_append.1 there with mem | mem
      · have shorter := longest.earlier other mem otherText foundOther
        omega
      · rcases List.mem_cons.1 mem with rfl | mem
        · obtain rfl : winning = otherText := by simpa [longest.found] using foundOther
          exact Nat.lt_irrefl _ longer
        · have shorter := longest.later other mem otherText foundOther
          omega
  | @rejected earlier later winner winning s between ended longest attempted rejected _ ih =>
    have gone : winner ∈ refused := by
      by_contra kept
      have token : (outcome (attempt t winner winning) s).1 = .ok (.int winner) := attempt_sifted actions stacked kept
      rw [attempted] at token
      cases token
    have same := attempt_rejected backtracking attempted rejected
    have stays {i : Nat} (mem : i ∈ earlier ++ winner :: later) (kept : i ∉ refused) : i ∈ earlier ++ later := by
      rcases List.mem_append.1 mem with mem | mem
      · exact List.mem_append_left _ mem
      · exact List.mem_append_right _ ((List.mem_cons.1 mem).resolve_left fun same => kept (same ▸ gone))
    exact ih (by rwa [same]) (stays here mem) (stays there left) (by rwa [same]) (by rwa [same]) token
  | unmatched none =>
    have tried := none rule here
    rw [found] at tried
    cases tried

end Sifting

theorem Tables.exists_longer {before rest : Text} (grows : ¬ t.Shrinking before rest rules) :
    ∃ passed rule later text other otherText, rules = passed ++ rule :: later ∧ other ∈ later ∧
      t.match? rule before rest = .ok (some text) ∧ t.match? other before rest = .ok (some otherText) ∧
        text.length < otherText.length := by
  induction rules with
  | nil => exact absurd List.Pairwise.nil grows
  | cons rule rules ih =>
    by_cases others : t.Shrinking before rest rules
    · have first : ¬ ∀ other ∈ rules, ∀ text otherText, t.match? rule before rest = .ok (some text) →
          t.match? other before rest = .ok (some otherText) → otherText.length ≤ text.length :=
        fun first => grows (List.pairwise_cons.2 ⟨first, others⟩)
      push Not at first
      obtain ⟨other, mem, text, otherText, found, foundOther, longer⟩ := first
      exact ⟨[], rule, rules, text, other, otherText, rfl, mem, found, foundOther, by omega⟩
    · obtain ⟨passed, i, later, text, other, otherText, rfl, rest⟩ := ih others
      exact ⟨rule :: passed, i, later, text, other, otherText, rfl, rest⟩

/-! ## Steps with backtracking -/

theorem outcome_next_backtracking (backtracking : t.backtracking = true) (running : s.done = false)
    (current : t.currentRules s = .ok rules) : outcome (next t) s = outcome (tryRules t rules) s.start := by
  have started : t.currentRules s.start = .ok rules := by
    rw [Tables.currentRules, s.start_conditions]
    exact current
  rw [outcome_next, running, started]
  simp [backtracking]

/-- Whatever the policy, a step with backtracking attempts the first match that has not been rejected. This is the
longest one, whatever the actions do, exactly if no match at the position is longer than that of a rule before it. -/
theorem longest_match_survives_iff (t : Tables σ) (backtracking : t.backtracking = true) {s : State σ}
    (running : s.done = false) (stacked : s.conditions ≠ []) {rules : List Nat} (current : t.currentRules s = .ok rules)
    (distinct : rules.Nodup) (inRange : ∀ rule ∈ rules, rule < t.matchers.length) :
    (∀ action, LongestFirst { t with action := action } rules s.start (outcome (next { t with action := action }) s)) ↔
      t.Shrinking s.before s.rest rules := by
  have goes (action : Nat → String → Run σ Value) :
      outcome (next { t with action := action }) s = outcome (tryRules { t with action := action } rules) s.start :=
    outcome_next_backtracking backtracking running current
  rw [← s.start_before, ← s.start_rest]
  rw [← s.start_conditions] at stacked
  constructor
  · intro always
    by_contra grows
    obtain ⟨passed, rule, later, text, other, otherText, rfl, mem, found, foundOther, longer⟩ := t.exists_longer grows
    have apart := (List.nodup_append.1 distinct).2.2
    have kept : rule ∉ passed := fun gone => apart rule gone rule List.mem_cons_self rfl
    have left : other ∉ passed := fun gone => apart other gone other (List.mem_cons_of_mem _ mem) rfl
    have inRangePassed : ∀ other ∈ passed, other < t.matchers.length := fun other mem =>
      inRange other (List.mem_append_left _ mem)
    let sifted : Tables σ := { t with action := sifting passed }
    have token : (outcome (tryRules sifted (passed ++ rule :: later)) s.start).1 = .ok (.int rule) :=
      tryRules_sifting (t := sifted) backtracking rfl stacked inRangePassed (List.Subset.refl _) kept found
    have byLength := always (sifting passed)
    rw [goes] at byLength
    have apartFrom : ¬ LongestFirst sifted (passed ++ rule :: later) s.start _ :=
      not_longestFirst_sifting (t := sifted) backtracking rfl stacked (by simp) (by simp [mem]) kept left found foundOther
        longer token
    exact apartFrom byLength
  · intro shrinking action
    rw [goes]
    exact tryRules_longestFirst backtracking inRange shrinking

def lengths (sizes : List Nat) (action : Nat → String → Run Unit Value) : Tables Unit where
  matchers := sizes.map fun size _ _ => some size
  conditions := [(initialCondition, List.range sizes.length)]
  flex := true
  backtracking := true
  action := action

def startOf (source : String) : State Unit := { rest := source.toList, world := { memory := () } }

/-- The first two rules reject the longest match and the next longest one. -/
theorem longest_match_survives_iff_descending :
    (lengths [3, 2, 1] (sifting [0, 1])).backtracking = true ∧ [0, 1, 2].Nodup ∧
      (lengths [3, 2, 1] (sifting [0, 1])).Shrinking [] "abc".toList [0, 1, 2] ∧
      (outcome (next (lengths [3, 2, 1] (sifting [0, 1]))) (startOf "abc")).1 = .ok (.int 2) ∧
      LongestFirst (lengths [3, 2, 1] (sifting [0, 1])) [0, 1, 2] (startOf "abc").start
        (outcome (next (lengths [3, 2, 1] (sifting [0, 1]))) (startOf "abc")) := by
  have shrinking : (lengths [3, 2, 1] (sifting [0, 1])).Shrinking [] "abc".toList [0, 1, 2] := by
    simp [Tables.Shrinking, Tables.match?, lengths]
  have survives := longest_match_survives_iff (lengths [3, 2, 1] (sifting [0, 1])) rfl (s := startOf "abc") rfl
    (List.cons_ne_nil _ _) rfl (by decide) (by decide)
  exact ⟨rfl, by decide, shrinking, rfl, survives.2 shrinking (sifting [0, 1])⟩

/-- The second rule matches one letter more than the first one, and nothing is rejected. The step ends with the first
rule all the same. -/
theorem shorter_match_taken :
    (lengths [1, 2] (sifting [])).flex = true ∧ (lengths [1, 2] (sifting [])).backtracking = true ∧
      (lengths [1, 2] (sifting [])).currentRules (startOf "ab") = .ok [0, 1] ∧
      (lengths [1, 2] (sifting [])).match? 0 [] "ab".toList = .ok (some "a".toList) ∧
      (lengths [1, 2] (sifting [])).match? 1 [] "ab".toList = .ok (some "ab".toList) ∧
      (outcome (next (lengths [1, 2] (sifting []))) (startOf "ab")).1 = .ok (.int 0) ∧
      ¬ LongestFirst (lengths [1, 2] (sifting [])) [0, 1] (startOf "ab").start
        (outcome (next (lengths [1, 2] (sifting []))) (startOf "ab")) := by
  have shorter : (lengths [1, 2] (sifting [])).match? 0 [] "ab".toList = .ok (some "a".toList) := rfl
  have longer : (lengths [1, 2] (sifting [])).match? 1 [] "ab".toList = .ok (some "ab".toList) := rfl
  refine ⟨rfl, rfl, rfl, shorter, longer, rfl, ?_⟩
  have actions : (lengths [1, 2] (sifting [])).action = sifting [] := rfl
  exact not_longestFirst_sifting rfl actions (List.cons_ne_nil _ _) List.mem_cons_self
    (List.mem_cons_of_mem _ List.mem_cons_self) List.not_mem_nil List.not_mem_nil shorter longer (by decide) rfl

end LexGen.Scanner
