import LexGen.Proofs.Pattern.Reach
import LexGen.Proofs.Scanner.Conservation

/-!
# What patterns see of the source

A rule is matched between the text before the position and the text after it. The text after it is always what
is left of the source. The text before it begins where text was pushed back the last time, so a pattern that
looks further back does not find what the source has there.

* `Sees.matches_source`: a pattern that does not look back beyond the place where text was pushed back finds what
  it finds in the source.
* `matches_from_last_push_back`: what the rules are matched against in every state of a run.
* `caret_after_push_back`: a run in which an anchor takes such a place for the beginning of the source.
-/

namespace LexGen.Scanner

variable {σ : Type}

/-! ## How far rules look back -/

def Tables.Reaches (t : Tables σ) (rule n : Nat) : Prop :=
  ∀ ⦃before before'⦄ rest, before.take n = before'.take n → t.match? rule before rest = t.match? rule before' rest

theorem reaches_of_pattern {t : Tables σ} {patterns : List Pattern}
    (matchers : t.matchers = patterns.map Pattern.matchLength) {rule : Nat} {pattern : Pattern}
    (found : patterns[rule]? = some pattern) : t.Reaches rule pattern.reach := by
  intro before before' rest same
  have matcher : t.matchers[rule]? = some pattern.matchLength := by rw [matchers, List.getElem?_map, found]; rfl
  simp only [Tables.match?, matcher, pattern.matchLength_eq_of_take rest same]

/-! ## What is seen -/

def Tables.matchAt? (t : Tables σ) (rule : Nat) (text : Text) (position : Nat) : Except Error (Option Text) :=
  t.match? rule (text.take position).reverse (text.drop position)

/-- The scanner is at offset `k` of the source, and sees of it what comes after the first `first` characters. -/
structure Sees (source : Text) (first k : Nat) (s : State σ) : Prop where
  offset : s.offset = k
  first_le : first ≤ k
  le_length : k ≤ source.length
  before : s.before = ((source.take k).drop first).reverse
  rest : s.rest = source.drop k

namespace Sees

variable {source : Text} {first k : Nat} {s : State σ}

theorem position (h : Sees source first k s) : s.position = k - first := by
  rw [State.position, h.before, List.length_reverse, List.length_drop, List.length_take,
    Nat.min_eq_left h.le_length]

theorem match? (h : Sees source first k s) (t : Tables σ) (rule : Nat) :
    t.match? rule s.before s.rest = t.matchAt? rule (source.drop first) (k - first) := by
  have rest : (source.drop first).drop (k - first) = source.drop k := by
    rw [List.drop_drop, Nat.add_sub_cancel' h.first_le]
  have before : (source.drop first).take (k - first) = (source.take k).drop first :=
    List.drop_take.symm
  rw [Tables.matchAt?, rest, before, h.before, h.rest]

/-- A rule that looks back no further than what the scanner sees finds what it finds in the source. -/
theorem matches_source (h : Sees source first k s) {t : Tables σ} {rule n : Nat} (reaches : t.Reaches rule n)
    (within : n ≤ k - first ∨ first = 0) : t.match? rule s.before s.rest = t.matchAt? rule source k := by
  rw [Tables.matchAt?, ← h.rest]
  refine reaches _ ?_
  rcases within with within | rfl
  · have length : n ≤ ((source.take k).drop first).length := by
      rwa [List.length_drop, List.length_take, Nat.min_eq_left h.le_length]
    conv_rhs => rw [← List.take_append_drop first (source.take k)]
    rw [h.before, List.reverse_append, List.take_append_of_le_length (by rwa [List.length_reverse])]
  · rw [h.before, List.drop_zero]

end Sees

theorem Conserves.sees {source : Text} {s : State σ} (h : Conserves source s)
    (seen : s.before.reverse <:+ s.matched) :
    Sees source (s.matched.length - s.position) s.matched.length s := by
  obtain ⟨unseen, whole⟩ := seen
  have length : unseen.length + s.position = s.matched.length := by
    rw [← whole, List.length_append, List.length_reverse, State.position]
  refine ⟨h.offset_eq, Nat.sub_le .., ?_, ?_, ?_⟩
  · rw [← h.split, List.length_append]
    exact Nat.le_add_right ..
  · rw [← h.split, List.take_left, ← length, Nat.add_sub_cancel, ← whole, List.drop_left, List.reverse_reverse]
  · rw [← h.split, List.drop_left]

/-! ## Runs -/

/-- What the scanner sees of what has been matched only grows until text is pushed back, and then it is nothing.
`R` relates it to what has been matched. -/
theorem moveLaws_seen (ranges : Bool) {allowed : Operation → Prop} {R : Text → Text → Prop} (empty : R [] [])
    (append : ∀ seen matched text, R seen matched → R (seen ++ text) (matched ++ text))
    (pushed : ∀ op, allowed op → op.pushesBack = true → ∀ matched, R [] matched) :
    MoveLaws ranges allowed fun s : State σ => R s.before.reverse s.matched where
  known _ _ same h := by
    have place := State.place_of_bearings same.1
    simp only [State.place, Prod.mk.injEq] at place
    rw [same.2, place.2.2.1]
    exact h
  start s h := by
    unfold State.start
    split <;> dsimp only <;> split <;> exact h
  commit s n h := by
    change R ((s.rest.take n).reverse ++ s.before).reverse (s.matched ++ s.rest.take n)
    rw [List.reverse_append, List.reverse_reverse]
    exact append _ _ _ h
  consume {s c _} _ h := by
    change R (c :: s.before).reverse (s.matched ++ [c])
    rw [List.reverse_cons]
    exact append _ _ _ h
  setInput _ _ _ _ _ := empty
  unput _ _ permitted _ := pushed _ permitted rfl _
  less _ _ permitted _ := pushed _ permitted rfl _

theorem states_seen (x : Session σ) {R : Text → Text → Prop} {allowed : Operation → Prop} (empty : R [] [])
    (append : ∀ seen matched text, R seen matched → R (seen ++ text) (matched ++ text))
    (pushed : ∀ op, allowed op → op.pushesBack = true → ∀ matched, R [] matched)
    (actions : ∀ rule condition, (x.scripts rule condition).Makes allowed) {program : Script σ}
    (calls : program.Makes allowed) (depth : Nat) (source : Text) (s : State σ) :
    ∀ now ∈ x.states depth program (s.setInput x.tables.ranges source), R now.before.reverse now.matched :=
  (moveLaws_seen x.tables.ranges empty append pushed).preserved.states actions depth program calls empty

/-- In every state of a run, the rules are matched against the source without its characters up to the place where
text was pushed back the last time, if nobody puts in other text. So a rule finds what it finds in the source if
it does not look back further than that place, and every rule does if no text is ever pushed back. -/
theorem matches_from_last_push_back (x : Session σ)
    (actions : ∀ rule condition, (x.scripts rule condition).Makes fun op => op.keepsSource = true)
    (program : Script σ) (calls : program.Makes fun op => op.keepsSource = true) (depth : Nat)
    (source : Text) (s : State σ) :
    ∀ now ∈ x.states depth program (s.setInput x.tables.ranges source), ∃ first k, Sees source first k now ∧
      (∀ rule, x.tables.match? rule now.before now.rest = x.tables.matchAt? rule (source.drop first) (k - first)) ∧
      (∀ rule n, x.tables.Reaches rule n → n ≤ k - first →
        x.tables.match? rule now.before now.rest = x.tables.matchAt? rule source k) ∧
      ((∀ rule condition, (x.scripts rule condition).Makes fun op => op.pushesBack = false) →
        (program.Makes fun op => op.pushesBack = false) →
        ∀ rule, x.tables.match? rule now.before now.rest = x.tables.matchAt? rule source k) := by
  intro now passed
  have conserves : Conserves source now :=
    (preserved_conserves x source).states actions depth program calls (conserves_setInput ..) now passed
  have seen := states_seen x (R := (· <:+ ·)) List.nil_suffix
    (fun _ _ text ⟨unseen, whole⟩ => ⟨unseen, by rw [← List.append_assoc, whole]⟩)
    (fun _ _ _ _ => List.nil_suffix) actions calls depth source s now passed
  have sees := conserves.sees seen
  refine ⟨_, _, sees, sees.match? _, fun rule n reaches within => sees.matches_source reaches (Or.inl within), ?_⟩
  intro keepsActions keepsCalls rule
  have all : now.before.reverse = now.matched := states_seen x (R := (· = ·)) rfl
    (fun _ _ _ same => by rw [same]) (fun op keeps pushes => absurd pushes (by simp [keeps])) keepsActions keepsCalls
    depth source s now passed
  have first : now.matched.length - now.position = 0 := by
    rw [← all, List.length_reverse, State.position, Nat.sub_self]
  have whole := sees.match? x.tables rule
  rwa [first, List.drop_zero, Nat.sub_zero] at whole

/-! ## An anchor in the middle of the source -/

def letterPatterns : List Pattern :=
  ["ab", "^b", "(?<=a)b", "b"].map fun text =>
    (Pattern.compile text.toList 0).toOption.getD ⟨[], 0, .empty⟩

/-- The first rule gives back the second half of its match. The others match a letter, one of them only at the
beginning of a text and one of them only after another letter. -/
def givingBack : Session Unit where
  tables :=
    { matchers := letterPatterns.map Pattern.matchLength
      conditions := [(initialCondition, [0, 1, 2, 3])]
      action := fun _ _ => return .none }
  scripts
    | 0, _ => .call (.less 1) fun _ => .yield .none
    | 1, _ => .yield (.str "first")
    | 2, _ => .yield (.str "second")
    | _, _ => .yield (.str "letter")
  steps := 3

def oneToken : Script Unit := .call .lex fun _ => .yield .none

def givingBackStart : State Unit := State.setInput false "ab".toList { world := { memory := () } }

/-- The letter that has been given back is taken for the beginning of the source, and nothing is seen before it:
the anchored rule matches although it does not match there in the source, and the rule that looks behind does not
match although it does in the source. -/
theorem caret_after_push_back :
    (outcome (lex (givingBack.tablesAt 1) 3) givingBackStart).1 = .ok (.str "first") ∧
      ∃ now ∈ givingBack.states 1 oneToken givingBackStart, now.offset = 1 ∧
        [1, 2].map (fun rule => (givingBack.tables.match? rule now.before now.rest).toOption) =
          [some (some ['b']), some none] ∧
        [1, 2].map (fun rule => (givingBack.tables.matchAt? rule "ab".toList 1).toOption) =
          [some none, some (some ['b'])] :=
  ⟨by rfl, by decide +kernel⟩

theorem matches_from_last_push_back_givingBack :
    (givingBack.states 1 oneToken givingBackStart).map (fun now => (now.offset, now.before, now.rest)) =
        List.replicate 2 (0, [], ['a', 'b']) ++ List.replicate 2 (2, ['b', 'a'], []) ++
          List.replicate 4 (1, [], ['b']) ++ List.replicate 4 (2, ['b'], []) ∧
      givingBack.tables.Reaches 2 1 ∧ givingBack.tables.Reaches 3 0 ∧
      ∀ now ∈ givingBack.states 1 oneToken givingBackStart, ∃ first k, Sees "ab".toList first k now ∧
        (∀ rule, givingBack.tables.match? rule now.before now.rest =
          givingBack.tables.matchAt? rule ("ab".toList.drop first) (k - first)) ∧
        (∀ rule n, givingBack.tables.Reaches rule n → n ≤ k - first →
          givingBack.tables.match? rule now.before now.rest = givingBack.tables.matchAt? rule "ab".toList k) ∧
        ((∀ rule condition, (givingBack.scripts rule condition).Makes fun op => op.pushesBack = false) →
          (oneToken.Makes fun op => op.pushesBack = false) →
          ∀ rule, givingBack.tables.match? rule now.before now.rest =
            givingBack.tables.matchAt? rule "ab".toList k) := by
  have reaches : ∀ rule n, (letterPatterns[rule]?).map Pattern.reach = some n → givingBack.tables.Reaches rule n := by
    intro rule n found
    obtain ⟨pattern, at_rule, rfl⟩ := Option.map_eq_some_iff.1 found
    exact reaches_of_pattern rfl at_rule
  refine ⟨by decide +kernel, reaches 2 1 (by decide +kernel), reaches 3 0 (by decide +kernel),
    matches_from_last_push_back givingBack ?_ oneToken ?_ 1 _ _⟩
  · intro rule condition
    rcases rule with _ | _ | _ | rule <;> simp [givingBack, Script.Makes, Operation.keepsSource]
  · simp [oneToken, Script.Makes, Operation.keepsSource]

end LexGen.Scanner
