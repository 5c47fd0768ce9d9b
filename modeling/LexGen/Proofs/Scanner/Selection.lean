import LexGen.Proofs.Scanner.Outcome

/-!
# Selection

Without backtracking, a step of the scanner picks one rule and runs its action. The rules are tried in ascending
order; the first that matches wins, or with the flex policy the first among those with the longest match.

* `Tables.select_cases`: the rule that is picked wins against all other rules.
* `Tables.select_action`, `attempt_action`: neither the choice nor the attempt depends on other actions.
-/

namespace LexGen.Scanner

variable {σ : Type}

/-! ## Starting -/

@[simp] theorem State.start_before (s : State σ) : s.start.before = s.before := by
  unfold State.start
  split <;> dsimp only <;> split <;> rfl

@[simp] theorem State.start_rest (s : State σ) : s.start.rest = s.rest := by
  unfold State.start
  split <;> dsimp only <;> split <;> rfl

@[simp] theorem State.start_conditions (s : State σ) : s.start.conditions = s.conditions := by
  unfold State.start
  split <;> dsimp only <;> split <;> rfl

@[simp] theorem State.start_more (s : State σ) : s.start.more = s.more := by
  unfold State.start
  split <;> dsimp only <;> split <;> rfl

@[simp] theorem State.start_rejected (s : State σ) : s.start.rejected = s.rejected := by
  unfold State.start
  split <;> dsimp only <;> split <;> rfl

theorem State.reopen_rejected (s : State σ) : s.reopen.rejected = s.rejected := by
  unfold State.reopen
  split <;> rfl

theorem State.start_text {s : State σ} (fresh : s.more = false) : s.start.text = [] := by
  unfold State.start
  split <;> simp [fresh]

theorem State.start_done (s : State σ) : s.start.done = (s.done || s.rest.isEmpty) := by
  unfold State.start
  split <;> dsimp only <;> split <;> simp_all

/-! ## Winning -/

/-- Whether the match of a rule is at least as good as the match of another rule. -/
def Prevails (flex : Bool) (rule : Nat) (text : Text) (other : Nat) (otherText : Text) : Prop :=
  if flex then
    otherText.length < text.length ∨ otherText.length = text.length ∧ rule ≤ other
  else rule ≤ other

theorem Prevails.refl (flex : Bool) (rule : Nat) (text : Text) : Prevails flex rule text rule text := by
  unfold Prevails
  split <;> omega

theorem Prevails.trans {flex : Bool} {first second third : Nat} {text₁ text₂ text₃ : Text}
    (h₁ : Prevails flex first text₁ second text₂) (h₂ : Prevails flex second text₂ third text₃) :
    Prevails flex first text₁ third text₃ := by
  unfold Prevails at *
  split at h₁ <;> simp_all only [if_true, if_false, Bool.false_eq_true] <;> omega

namespace Tables

/-- A rule whose match prevails over those of all rules in a list. -/
structure Wins (t : Tables σ) (before rest : Text) (rules : List Nat) (rule : Nat) (text : Text) : Prop where
  mem : rule ∈ rules
  found : t.match? rule before rest = .ok (some text)
  prevails : ∀ other ∈ rules, ∀ otherText, t.match? other before rest = .ok (some otherText) →
    Prevails t.flex rule text other otherText

def Unmatched (t : Tables σ) (before rest : Text) (rules : List Nat) : Prop :=
  ∀ rule ∈ rules, t.match? rule before rest = .ok none

variable {t : Tables σ} {before rest : Text} {rules : List Nat} {rule added : Nat} {text : Text}

theorem match?_of_lt (t : Tables σ) (inRange : rule < t.matchers.length) :
    ∃ found, t.match? rule before rest = .ok found := by
  unfold match?
  rw [List.getElem?_eq_getElem inRange]
  exact ⟨_, rfl⟩

theorem Wins.single (found : t.match? rule before rest = .ok (some text)) :
    t.Wins before rest [rule] rule text where
  mem := List.mem_singleton_self _
  found := found
  prevails other mem otherText matched := by
    obtain rfl := List.mem_singleton.1 mem
    obtain rfl : text = otherText := by simpa [found] using matched
    exact .refl ..

theorem Wins.add (wins : t.Wins before rest rules rule text)
    (beaten : ∀ otherText, t.match? added before rest = .ok (some otherText) →
      Prevails t.flex rule text added otherText) :
    t.Wins before rest (added :: rules) rule text where
  mem := List.mem_cons_of_mem _ wins.mem
  found := wins.found
  prevails other mem := by
    rcases List.mem_cons.1 mem with rfl | mem
    · exact beaten
    · exact wins.prevails other mem

theorem Wins.skip (wins : t.Wins before rest rules rule text)
    (unmatched : t.match? added before rest = .ok none) : t.Wins before rest (added :: rules) rule text :=
  wins.add fun otherText matched => by
    rw [unmatched] at matched
    cases matched

theorem Wins.of_perm {others : List Nat} (wins : t.Wins before rest rules rule text) (same : rules.Perm others) :
    t.Wins before rest others rule text where
  mem := same.mem_iff.1 wins.mem
  found := wins.found
  prevails other mem := wins.prevails other (same.mem_iff.2 mem)

/-! ## Selecting -/

theorem Wins.of_first (ordered : t.flex = false) {first : Nat} (ascending : (first :: rules).Pairwise (· < ·))
    (found : t.match? first before rest = .ok (some text)) :
    t.Wins before rest (first :: rules) first text where
  mem := List.mem_cons_self
  found := found
  prevails other mem otherText _ := by
    simp only [Prevails, ordered]
    rcases List.mem_cons.1 mem with rfl | mem
    · exact Nat.le_refl _
    · exact Nat.le_of_lt ((List.pairwise_cons.1 ascending).1 other mem)

/-- The flex policy keeps the best match so far and goes on with the rules that are left. -/
theorem select_from (flex : t.flex = true) {best : Nat} (ascending : (best :: rules).Pairwise (· < ·))
    (inRange : ∀ rule ∈ rules, rule < t.matchers.length)
    (found : t.match? best before rest = .ok (some text)) :
    ∃ rule winning, t.select before rest rules (some (best, text)) = .ok (some (rule, winning)) ∧
      t.Wins before rest (best :: rules) rule winning := by
  induction rules generalizing best text with
  | nil => exact ⟨best, text, rfl, .single found⟩
  | cons next rules ih =>
    have others : ∀ rule ∈ rules, rule < t.matchers.length := fun rule mem =>
      inRange rule (List.mem_cons_of_mem _ mem)
    have withoutNext : (best :: rules).Pairwise (· < ·) :=
      ascending.sublist ((List.sublist_cons_self next rules).cons_cons best)
    have before_next : best < next := (List.pairwise_cons.1 ascending).1 next List.mem_cons_self
    obtain ⟨result, tried⟩ := t.match?_of_lt (inRange next List.mem_cons_self)
    rw [select, tried]
    cases result with
    | none =>
      obtain ⟨rule, winning, selected, wins⟩ := ih withoutNext others found
      exact ⟨rule, winning, selected, (wins.skip tried).of_perm (.swap ..)⟩
    | some nextText =>
      simp only [flex, if_true, better]
      split
      · rename_i shorter
        obtain ⟨rule, winning, selected, wins⟩ := ih withoutNext others found
        have kept : Prevails t.flex best text next nextText := by
          simp only [Prevails, flex, if_true]
          omega
        refine ⟨rule, winning, selected, (wins.add fun otherText matched => ?_).of_perm (.swap ..)⟩
        obtain rfl : nextText = otherText := by simpa [tried] using matched
        exact (wins.prevails best List.mem_cons_self text found).trans kept
      · rename_i longer
        obtain ⟨rule, winning, selected, wins⟩ := ih ascending.of_cons others tried
        have replaced : Prevails t.flex next nextText best text := by
          simp only [Prevails, flex, if_true]
          omega
        refine ⟨rule, winning, selected, wins.add fun otherText matched => ?_⟩
        obtain rfl : text = otherText := by simpa [found] using matched
        exact (wins.prevails next List.mem_cons_self nextText tried).trans replaced

theorem select_cases (t : Tables σ) (before rest : Text) {rules : List Nat} (ascending : rules.Pairwise (· < ·))
    (inRange : ∀ rule ∈ rules, rule < t.matchers.length) :
    (∃ rule text, t.select before rest rules none = .ok (some (rule, text)) ∧
        t.Wins before rest rules rule text) ∨
      (t.select before rest rules none = .ok none ∧ t.Unmatched before rest rules) := by
  induction rules with
  | nil => exact .inr ⟨rfl, by simp [Unmatched]⟩
  | cons first rules ih =>
    have others : ∀ rule ∈ rules, rule < t.matchers.length := fun rule mem =>
      inRange rule (List.mem_cons_of_mem _ mem)
    obtain ⟨result, tried⟩ := t.match?_of_lt (inRange first List.mem_cons_self)
    rw [select, tried]
    cases result with
    | none =>
      rcases ih ascending.of_cons others with ⟨rule, text, selected, wins⟩ | ⟨selected, unmatched⟩
      · exact .inl ⟨rule, text, selected, wins.skip tried⟩
      · exact .inr ⟨selected, List.forall_mem_cons.2 ⟨tried, unmatched⟩⟩
    | some text =>
      cases flex : t.flex with
      | true => exact .inl (select_from flex ascending others tried)
      | false => exact .inl ⟨first, text, rfl, .of_first flex ascending tried⟩

/-! ## Which actions matter -/

theorem select_congr {t u : Tables σ} (matchers : u.matchers = t.matchers) (flex : u.flex = t.flex)
    (before rest : Text) (rules : List Nat) (best : Option (Nat × Text)) :
    u.select before rest rules best = t.select before rest rules best := by
  induction rules generalizing best with
  | nil => rfl
  | cons rule rules ih => simp only [select, match?, matchers, flex, ih]

theorem select_action (t : Tables σ) (action : Nat → String → Run σ Value) (before rest : Text)
    (rules : List Nat) (best : Option (Nat × Text)) :
    ({ t with action := action } : Tables σ).select before rest rules best = t.select before rest rules best :=
  select_congr (t := t) (u := { t with action := action }) rfl rfl before rest rules best

end Tables

theorem attempt_action (t : Tables σ) (rule : Nat) (text : Text) :
    attempt { t with action := fun _ => t.action rule } rule text = attempt t rule text := rfl

end LexGen.Scanner
