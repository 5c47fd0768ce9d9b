import LexGen.Pattern.Compiled
import Mathlib.Data.List.Forall2
import Mathlib.Data.Option.Basic

/-!
# How far patterns look back

A pattern sees the text before a position through its anchors and through what it looks at behind. It sees no
more of that text than a number of characters, its reach: it cannot tell two texts apart that agree so far.

* `Node.run_agrees`: a pattern that is run at two positions that agree within its reach does the same at both.
* `Pattern.matchLength_eq_of_take`: the length of a match depends on the text before only within the reach.
-/

namespace LexGen

/-! ## Reaches -/

def Anchor.reach : Anchor → Nat
  | lineStart | textStart | boundary | noBoundary => 1
  | lineEnd | textEnd => 0

def Node.reach : Node → Nat
  | anchor a => a.reach
  | seq first rest => max first.reach rest.reach
  | alt first rest => max first.reach rest.reach
  | group _ body => body.reach
  | flagged _ _ body => body.reach
  | atomic body => body.reach
  | repetition _ _ _ body => body.reach
  | lookahead _ body => body.reach
  | lookbehind _ width body => width.least + body.reach
  | conditional _ yes no => max yes.reach no.reach
  | _ => 0

/-! ## Positions that agree -/

/-- Positions in two texts. What is after them is the same, and so are `n` characters before them. Offsets count
from different beginnings: `base` in the first text is where `base'` is in the second. -/
structure Cursor.Agrees (base base' n : Nat) (c c' : Cursor) : Prop where
  after : c.after = c'.after
  before : c.before.take n = c'.before.take n
  placed : c.offset = c.before.length
  placed' : c'.offset = c'.before.length
  offset : c.offset + base' = c'.offset + base

def SameGroups {α β : Type} (R : α → β → Prop) : List (Nat × α) → List (Nat × β) → Prop :=
  List.Forall₂ fun entry entry' => entry.1 = entry'.1 ∧ R entry.2 entry'.2

/-- Captures that have been made at offsets that correspond, in front of the same texts. -/
structure Captures.Agrees (base base' : Nat) (captures captures' : Captures) : Prop where
  starts : SameGroups (fun c c' => c.after = c'.after ∧ c.offset + base' = c'.offset + base)
    captures.starts captures'.starts
  stops : SameGroups (fun stop stop' => stop + base' = stop' + base) captures.stops captures'.stops

def Match.Agrees (base base' n : Nat) (m m' : Match) : Prop :=
  m.1.Agrees base base' n m'.1 ∧ m.2.Agrees base base' m'.2

def Continuation.Agrees (base base' n : Nat) (next next' : Continuation) : Prop :=
  ∀ ⦃m m'⦄, Match.Agrees base base' n m m' → Option.Rel (Match.Agrees base base' n) (next m) (next' m')

variable {base base' n : Nat}

namespace Cursor.Agrees

variable {c c' : Cursor}

theorem mono (h : c.Agrees base base' n c') {k : Nat} (le : k ≤ n) : c.Agrees base base' k c' where
  after := h.after
  before := by
    have same := congrArg (List.take k) h.before
    rwa [List.take_take, List.take_take, Nat.min_eq_left le] at same
  placed := h.placed
  placed' := h.placed'
  offset := h.offset

theorem next? (h : c.Agrees base base' n c') :
    Option.Rel (fun found found' => found.1 = found'.1 ∧ found.2.Agrees base base' n found'.2)
      c.next? c'.next? := by
  obtain ⟨before, after, offset⟩ := c
  obtain ⟨before', after', offset'⟩ := c'
  obtain rfl : after = after' := h.after
  cases after with
  | nil => exact .none
  | cons char after =>
    refine .some ⟨rfl, rfl, ?_, congrArg (· + 1) h.placed, congrArg (· + 1) h.placed', ?_⟩
    · cases n with
      | zero => rfl
      | succ n =>
        change char :: before.take n = char :: before'.take n
        rw [(h.mono (Nat.le_succ n)).before]
    · have same := h.offset
      dsimp only at same ⊢
      omega

theorem before_cases (h : c.Agrees base base' (n + 1) c') :
    (c.before = [] ∧ c'.before = []) ∨
      ∃ char before before', c.before = char :: before ∧ c'.before = char :: before' ∧
        before.take n = before'.take n := by
  have same := h.before
  cases before : c.before <;> cases before' : c'.before <;> rw [before, before'] at same
  · exact Or.inl ⟨rfl, rfl⟩
  · cases same
  · cases same
  · rw [List.take_succ_cons, List.take_succ_cons, List.cons.injEq] at same
    exact Or.inr ⟨_, _, _, rfl, by rw [same.1], same.2⟩

theorem back? (h : c.Agrees base base' n c') {count : Nat} (within : count ≤ n) :
    Option.Rel (Cursor.Agrees base base' (n - count)) (c.back? count) (c'.back? count) := by
  induction count generalizing n c c' with
  | zero => exact .some h
  | succ count ih =>
    obtain ⟨n, rfl⟩ := Nat.exists_eq_add_of_le' (Nat.le_of_succ_le within)
    obtain ⟨before, after, offset⟩ := c
    obtain ⟨before', after', offset'⟩ := c'
    obtain ⟨n, rfl⟩ : ∃ k, n = k + 1 := ⟨n - 1, by omega⟩
    have nonempty : n + 1 + count = (n + count) + 1 := by omega
    rw [nonempty] at h
    have placed := h.placed
    have placed' := h.placed'
    have same := h.offset
    rcases h.before_cases with ⟨none, none'⟩ | ⟨char, rest, rest', some, some', agree⟩
    · obtain rfl : before = [] := none
      obtain rfl : before' = [] := none'
      exact .none
    · obtain rfl : before = char :: rest := some
      obtain rfl : before' = char :: rest' := some'
      have moved : Cursor.Agrees base base' (n + count) ⟨rest, char :: after, offset - 1⟩
          ⟨rest', char :: after', offset' - 1⟩ := by
        refine ⟨congrArg (char :: ·) h.after, agree, ?_, ?_, ?_⟩ <;>
          simp only [List.length_cons] at placed placed' same ⊢ <;> omega
      have result := ih moved (Nat.le_add_left count n)
      rwa [show n + count - count = n + 1 + count - (count + 1) by omega] at result

theorem holds (h : c.Agrees base base' n c') (flags : PatternFlags) {a : Anchor} (within : a.reach ≤ n) :
    a.holds flags c = a.holds flags c' := by
  have after := h.after
  cases a with
  | lineEnd => simp only [Anchor.holds, after]
  | textEnd => simp only [Anchor.holds, after]
  | _ =>
    rcases (h.mono within).before_cases with ⟨none, none'⟩ | ⟨char, rest, rest', some, some', -⟩
    · simp only [Anchor.holds, after, none, none']
    · simp only [Anchor.holds, after, some, some', wordNext, List.isEmpty_cons, List.head?_cons]

end Cursor.Agrees

/-! ## Results that agree -/

theorem cases_of_rel {α β : Type} {R : α → β → Prop} {x : Option α} {y : Option β} (h : Option.Rel R x y) :
    (x = none ∧ y = none) ∨ ∃ a b, x = some a ∧ y = some b ∧ R a b := by
  cases h with
  | none => exact Or.inl ⟨rfl, rfl⟩
  | some related => exact Or.inr ⟨_, _, rfl, rfl, related⟩

theorem isSome_eq_of_rel {α β : Type} {R : α → β → Prop} {x : Option α} {y : Option β} (h : Option.Rel R x y) :
    x.isSome = y.isSome := by
  cases h <;> rfl

theorem rel_orElse {α β : Type} {R : α → β → Prop} {x y : Option α} {x' y' : Option β} (first : Option.Rel R x x')
    (second : Option.Rel R y y') : Option.Rel R (x.orElse fun _ => y) (x'.orElse fun _ => y') := by
  cases first with
  | none => exact second
  | some related => exact .some related

theorem rel_bind {α β γ δ : Type} {R : α → β → Prop} {S : γ → δ → Prop} {x : Option α} {y : Option β}
    {f : α → Option γ} {g : β → Option δ} (first : Option.Rel R x y)
    (next : ∀ a b, R a b → Option.Rel S (f a) (g b)) : Option.Rel S (x.bind f) (y.bind g) := by
  cases first with
  | none => exact .none
  | some related => exact next _ _ related

theorem rel_lookup {α β : Type} {R : α → β → Prop} {entries : List (Nat × α)} {entries' : List (Nat × β)}
    (h : SameGroups R entries entries') (index : Nat) :
    Option.Rel R (entries.lookup index) (entries'.lookup index) := by
  induction h with
  | nil => exact .none
  | @cons entry entry' entries entries' same _ ih =>
    obtain ⟨i, a⟩ := entry
    obtain ⟨i', b⟩ := entry'
    obtain ⟨rfl, related⟩ : i = i' ∧ R a b := same
    rw [List.lookup_cons, List.lookup_cons]
    cases index == i with
    | true => exact .some related
    | false => exact ih

/-! ## Captures that agree -/

namespace Captures.Agrees

variable {captures captures' : Captures}

theorem text? (h : captures.Agrees base base' captures') (index : Nat) :
    captures.text? index = captures'.text? index := by
  have starts := rel_lookup h.starts index
  have stops := rel_lookup h.stops index
  unfold Captures.text?
  rcases cases_of_rel starts with ⟨none, none'⟩ | ⟨c, c', some, some', after, offset⟩
  · rw [none, none']
    rfl
  · rcases cases_of_rel stops with ⟨none, none'⟩ | ⟨stop, stop', ended, ended', same⟩
    · rw [some, some', none, none']
      rfl
    · have order : c.offset ≤ stop ↔ c'.offset ≤ stop' := by omega
      have length : stop - c.offset = stop' - c'.offset := by omega
      rw [some, some', ended, ended']
      simp only [Option.bind_eq_bind, Option.bind_some, after, order, length]

end Captures.Agrees

/-! ## Ways to go on -/

theorem continues_some : Continuation.Agrees base base' n some some := fun _ _ h => .some h

theorem Continuation.Agrees.matchChar {next next' : Continuation} (h : next.Agrees base base' n next')
    (p : Char → Bool) : Continuation.Agrees base base' n (LexGen.matchChar p next) (LexGen.matchChar p next') := by
  intro m m' agree
  unfold LexGen.matchChar
  rcases cases_of_rel agree.1.next? with ⟨none, none'⟩ | ⟨⟨char, c⟩, ⟨_, c'⟩, some, some', rfl, moved⟩
  · rw [none, none']
    exact .none
  · rw [some, some']
    dsimp only
    split
    · exact h ⟨moved, agree.2⟩
    · exact .none

theorem matchText_agrees (same : Char → Char → Bool) (text : Text) {c c' : Cursor} (h : c.Agrees base base' n c') :
    Option.Rel (Cursor.Agrees base base' n) (matchText same text c) (matchText same text c') := by
  induction text generalizing c c' with
  | nil => exact .some h
  | cons expected text ih =>
    unfold matchText
    rcases cases_of_rel h.next? with ⟨none, none'⟩ | ⟨⟨char, c⟩, ⟨_, c'⟩, some, some', rfl, moved⟩
    · rw [none, none']
      exact .none
    · rw [some, some']
      dsimp only
      split
      · exact ih moved
      · exact .none

/-! ## Repetitions -/

def Continuation.Related (R : Match → Match → Prop) (next next' : Continuation) : Prop :=
  ∀ ⦃m m'⦄, R m m' → Option.Rel R (next m) (next' m')

/-- Matches that are related are at offsets that correspond, each to one. -/
structure Match.Corresponds (R : Match → Match → Prop) (S : Nat → Nat → Prop) : Prop where
  offset : ∀ ⦃m m'⦄, R m m' → S m.1.offset m'.1.offset
  unique : ∀ ⦃i j k l⦄, S i j → S k l → (i = k ↔ j = l)

section Repetition

variable {R : Match → Match → Prop} {S : Nat → Nat → Prop} {round round' : Continuation → Match → Option Match}
  {next next' : Continuation} {min : Nat} {max : Option Nat}

theorem related_some : Continuation.Related R some some := fun _ _ h => .some h

theorem moved_eq (places : Match.Corresponds R S) {last last' : Option Nat} (lasts : Option.Rel S last last')
    {m m' : Match} (h : R m m') : (last != some m.1.offset) = (last' != some m'.1.offset) := by
  cases lasts with
  | none => rfl
  | @some k l related =>
    have moved := places.unique related (places.offset h)
    by_cases equal : k = m.1.offset
    · rw [equal, moved.1 equal, bne_self_eq_false, bne_self_eq_false]
    · rw [bne_iff_ne.2 (by simpa using equal), bne_iff_ne.2 (by simpa using mt moved.2 equal)]

theorem repeatGreedy_related (places : Match.Corresponds R S)
    (rounds : ∀ next next', Continuation.Related R next next' → Continuation.Related R (round next) (round' next'))
    (h : Continuation.Related R next next') (fuel count : Nat) {last last' : Option Nat}
    (lasts : Option.Rel S last last') :
    Continuation.Related R (repeatGreedy round min max next fuel count last)
      (repeatGreedy round' min max next' fuel count last') := by
  induction fuel generalizing count last last' with
  | zero => exact h
  | succ fuel ih =>
    intro m m' related
    unfold repeatGreedy
    rw [moved_eq places lasts related]
    split
    · exact rounds _ _ (ih (count + 1) lasts) related
    · split
      · exact rel_orElse (rounds _ _ (ih (count + 1) (.some (places.offset related))) related) (h related)
      · exact h related

theorem repeatLazy_related (places : Match.Corresponds R S)
    (rounds : ∀ next next', Continuation.Related R next next' → Continuation.Related R (round next) (round' next'))
    (h : Continuation.Related R next next') (fuel count : Nat) {last last' : Option Nat}
    (lasts : Option.Rel S last last') :
    Continuation.Related R (repeatLazy round min max next fuel count last)
      (repeatLazy round' min max next' fuel count last') := by
  induction fuel generalizing count last last' with
  | zero => exact h
  | succ fuel ih =>
    intro m m' related
    unfold repeatLazy
    rw [moved_eq places lasts related]
    split
    · exact rounds _ _ (ih (count + 1) lasts) related
    · refine rel_orElse (h related) ?_
      split
      · exact rounds _ _ (ih (count + 1) (.some (places.offset related))) related
      · exact .none

theorem repeatPossessive_related (places : Match.Corresponds R S)
    (rounds : ∀ next next', Continuation.Related R next next' → Continuation.Related R (round next) (round' next'))
    (fuel count : Nat) {last last' : Option Nat} (lasts : Option.Rel S last last') :
    Continuation.Related R (repeatPossessive round min max fuel count last)
      (repeatPossessive round' min max fuel count last') := by
  induction fuel generalizing count last last' with
  | zero => exact related_some
  | succ fuel ih =>
    intro m m' related
    have once := rounds _ _ related_some related
    unfold repeatPossessive
    rw [moved_eq places lasts related]
    rcases cases_of_rel once with ⟨none, none'⟩ | ⟨found, found', some, some', inner⟩
    · rw [none, none']
      split
      · exact .none
      · split <;> exact .some related
    · rw [some, some']
      split
      · exact ih (count + 1) lasts inner
      · split
        · exact ih (count + 1) (.some (places.offset related)) inner
        · exact .some related

end Repetition

theorem corresponds_agrees : Match.Corresponds (Match.Agrees base base' n) fun i j => i + base' = j + base where
  offset _ _ agree := agree.1.offset
  unique _ _ _ _ same same' := by omega

theorem roundBound_eq (min : Nat) {m m' : Match} (h : m.1.after = m'.1.after) :
    roundBound min m = roundBound min m' := by
  rw [roundBound, roundBound, h]

/-! ## Patterns -/

/-- A pattern does the same at two positions that agree within its reach, if what comes after it does. -/
theorem Node.run_agrees (node : Node) (flags : PatternFlags) {next next' : Continuation} (within : node.reach ≤ n)
    (h : next.Agrees base base' n next') :
    Continuation.Agrees base base' n (node.run flags next) (node.run flags next') := by
  induction node generalizing flags next next' n with
  | empty => exact h
  | literal negated code => exact h.matchChar _
  | any => exact h.matchChar _
  | set negated items => exact h.matchChar _
  | anchor a =>
    intro m m' agree
    unfold Node.run
    rw [agree.1.holds flags within]
    split
    · exact h agree
    · exact .none
  | seq first rest ihFirst ihRest =>
    exact ihFirst flags (Nat.le_trans (Nat.le_max_left ..) within)
      (ihRest flags (Nat.le_trans (Nat.le_max_right ..) within) h)
  | alt first rest ihFirst ihRest =>
    intro m m' agree
    exact rel_orElse (ihFirst flags (Nat.le_trans (Nat.le_max_left ..) within) h agree)
      (ihRest flags (Nat.le_trans (Nat.le_max_right ..) within) h agree)
  | group index body ih =>
    intro m m' agree
    refine ih flags within ?_ ⟨agree.1, .cons ⟨rfl, agree.1.after, agree.1.offset⟩ agree.2.starts, agree.2.stops⟩
    intro found found' inner
    exact h ⟨inner.1, inner.2.starts, .cons ⟨rfl, inner.1.offset⟩ inner.2.stops⟩
  | flagged add remove body ih => exact ih _ within h
  | atomic body ih =>
    intro m m' agree
    exact rel_bind (ih flags within continues_some agree) fun _ _ found => h found
  | repetition greed min max body ih =>
    intro m m' agree
    have rounds := fun next next' (h : Continuation.Agrees base base' n next next') => ih flags within h
    cases greed with
    | greedy =>
      unfold Node.run
      rw [roundBound_eq min agree.1.after]
      exact repeatGreedy_related corresponds_agrees rounds h _ 0 .none agree
    | lazy =>
      unfold Node.run
      rw [roundBound_eq min agree.1.after]
      exact repeatLazy_related corresponds_agrees rounds h _ 0 .none agree
    | possessive =>
      unfold Node.run
      rw [roundBound_eq min agree.1.after]
      exact rel_bind (repeatPossessive_related corresponds_agrees rounds _ 0 .none agree) fun _ _ found => h found
  | lookahead negative body ih =>
    intro m m' agree
    have seen := ih flags within continues_some agree
    cases negative with
    | false => exact rel_bind seen fun _ _ found => h ⟨agree.1, found.2⟩
    | true =>
      unfold Node.run
      rw [isSome_eq_of_rel seen]
      split
      · exact .none
      · exact h agree
  | lookbehind negative width body ih =>
    intro m m' agree
    -- What is looked at behind may look behind in its turn, but no further than the reach of the whole.
    have room : width.least + body.reach ≤ n := within
    have behind := agree.1.back? (Nat.le_trans (Nat.le_add_right ..) room)
    have inner : body.reach ≤ n - width.least := by omega
    rcases cases_of_rel behind with ⟨none, none'⟩ | ⟨c, c', some, some', moved⟩
    · cases negative with
      | false =>
        unfold Node.run
        rw [none, none']
        exact .none
      | true =>
        unfold Node.run
        rw [none, none']
        exact h agree
    · have seen := ih flags inner continues_some (⟨moved, agree.2⟩ : Match.Agrees _ _ _ (c, m.2) (c', m'.2))
      cases negative with
      | false =>
        unfold Node.run
        rw [some, some']
        exact rel_bind seen fun _ _ found => h ⟨agree.1, found.2⟩
      | true =>
        unfold Node.run
        rw [some, some']
        dsimp only
        rw [isSome_eq_of_rel seen]
        split
        · exact .none
        · exact h agree
  | backreference index =>
    intro m m' agree
    unfold Node.run
    rw [agree.2.text? index]
    split
    · exact rel_bind (matchText_agrees _ _ agree.1) fun _ _ moved => h ⟨moved, agree.2⟩
    · exact .none
  | conditional index yes no ihYes ihNo =>
    intro m m' agree
    unfold Node.run
    rw [agree.2.text? index]
    split
    · exact ihYes flags (Nat.le_trans (Nat.le_max_left ..) within) h agree
    · exact ihNo flags (Nat.le_trans (Nat.le_max_right ..) within) h agree

theorem Node.matchLength_eq_of_take (node : Node) (flags : PatternFlags) {before before' : Text} (after : Text)
    (same : before.take node.reach = before'.take node.reach) :
    node.matchLength flags before after = node.matchLength flags before' after := by
  have agree : Match.Agrees before.length before'.length node.reach (⟨before, after, before.length⟩, {})
      (⟨before', after, before'.length⟩, {}) :=
    ⟨⟨rfl, same, rfl, rfl, Nat.add_comm ..⟩, .nil, .nil⟩
  unfold Node.matchLength
  dsimp only
  rcases cases_of_rel (node.run_agrees flags (Nat.le_refl _) continues_some agree) with
    ⟨none, none'⟩ | ⟨found, found', some, some', related⟩
  · rw [none, none']
    rfl
  · have offset := related.1.offset
    rw [some, some', Option.map_some, Option.map_some, Option.some.injEq]
    omega

namespace Pattern

def reach (pattern : Pattern) : Nat := pattern.root.reach

/-- The length of a match depends on the text before the position only within the reach of the pattern. -/
theorem matchLength_eq_of_take (pattern : Pattern) {before before' : Text} (after : Text)
    (same : before.take pattern.reach = before'.take pattern.reach) :
    pattern.matchLength before after = pattern.matchLength before' after :=
  pattern.root.matchLength_eq_of_take pattern.flags after same

end Pattern

end LexGen
