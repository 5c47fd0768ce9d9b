import LexGen.Proofs.Failure
import LexGen.RuleTable

/-!
# How the reader of patterns fails

A text that is no pattern is refused with a message. There are two failures without a message, and both come from
the bounds of a repetition.
-/

namespace LexGen.Pattern

variable {α β : Type} {text : Text} {flags : PatternFlags}

/-! ## Units of a text -/

def units : Text → List Text
  | [] => []
  | '\\' :: c :: rest => ['\\', c] :: units rest
  | c :: rest => [c] :: units rest

theorem flatten_units (text : Text) : (units text).flatten = text := by
  fun_induction units text with
  | case1 => rfl
  | case2 c rest ih => simp [ih]
  | case3 c rest _ ih => simp [ih]

theorem units_of_unit? {rest unit : Text} (next : unit? rest = some unit) :
    units rest = unit :: units (rest.drop unit.length) := by
  unfold unit? at next
  split at next
  · cases next
  · obtain rfl := Option.some.inj next
    rfl
  · obtain rfl := Option.some.inj next
    rename_i c others other
    rw [units]
    · rfl
    · exact other

theorem exists_unit? {rest : Text} (h : rest ≠ []) : ∃ unit, unit? rest = some unit := by
  unfold unit?
  split
  · exact absurd rfl h
  · exact ⟨_, rfl⟩
  · exact ⟨_, rfl⟩

theorem eq_of_unit? {rest unit : Text} (h : unit? rest = some unit) : (∃ c, unit = [c]) ∨ ∃ c d, unit = [c, d] := by
  unfold unit? at h
  split at h
  · cases h
  · exact .inr ⟨_, _, (Option.some.inj h).symm⟩
  · exact .inl ⟨_, (Option.some.inj h).symm⟩

theorem unit?_of_units {rest unit : Text} {more : List Text} (next : units rest = unit :: more) :
    unit? rest = some unit ∧ units (rest.drop unit.length) = more := by
  obtain ⟨first, found⟩ := exists_unit? (show rest ≠ [] by rintro rfl; cases next)
  rw [units_of_unit? found] at next
  obtain ⟨rfl, rfl⟩ := List.cons.inj next
  exact ⟨found, rfl⟩

def Onward (text rest : Text) : Prop := units rest <:+ units text

theorem Onward.refl (text : Text) : Onward text text := List.suffix_rfl

theorem Onward.suffix {text rest : Text} (h : Onward text rest) : rest <:+ text := by
  obtain ⟨before, same⟩ := h
  have flat := congrArg List.flatten same
  rw [List.flatten_append, flatten_units, flatten_units] at flat
  exact ⟨before.flatten, flat⟩

theorem Onward.drop {text rest unit : Text} (h : Onward text rest) (next : unit? rest = some unit) :
    Onward text (rest.drop unit.length) := by
  unfold Onward at h ⊢
  rw [units_of_unit? next] at h
  exact (List.suffix_cons _ _).trans h

/-! ## What readers keep -/

/-- A run of digits of a text. -/
structure HasDigits (text digits : Text) : Prop where
  occurs : digits <:+: text
  digits : ∀ c ∈ digits, c.isDigit = true

/-- The reason of a failure without a message. -/
inductive Failure.Explained (text : Text) : Failure → Prop
  | malformed (message : String) (position : Option Nat) : Explained text (.malformed message position)
  | tooLarge {digits : Text} (found : HasDigits text digits) (large : longestCount ≤ valueIn 10 digits) :
    Explained text .tooLarge
  | badValue {digits : Text} (found : HasDigits text digits) (long : Text.longestInteger < digits.length) :
    Explained text .badValue

/-- The reader is somewhere in a text, and the flags of the whole pattern have not been changed. -/
structure Reading.Within (text : Text) (flags : PatternFlags) (r : Reading) : Prop where
  rest : Onward text r.rest
  flags : r.flags = flags

def MeetsAt (text : Text) (Q : α → Reading → Prop) (x : Reader α) (r : Reading) : Prop :=
  match x.run r with
  | .ok (a, now) => Q a now
  | .error failure => failure.Explained text

theorem MeetsAt.congr {Q : α → Reading → Prop} {x y : Reader α} {r r' : Reading} (h : MeetsAt text Q y r')
    (same : x.run r = y.run r') : MeetsAt text Q x r := by
  unfold MeetsAt
  rw [same]
  exact h

theorem MeetsAt.step {R : β → Reading → Prop} {x : Reader α} {f : α → Reader β} {r now : Reading} {a : α}
    (ended : x.run r = .ok (a, now)) (h : MeetsAt text R (f a) now) : MeetsAt text R (x >>= f) r := by
  unfold MeetsAt
  rw [StateT.run_bind, ended]
  exact h

def Meets (text : Text) (flags : PatternFlags) (Q : α → Reading → Prop) (x : Reader α) : Prop :=
  ∀ r : Reading, r.Within text flags → MeetsAt text Q x r

abbrev Keeps (text : Text) (flags : PatternFlags) (x : Reader α) : Prop :=
  Meets text flags (fun _ now => now.Within text flags) x

abbrev Finds (text : Text) (flags : PatternFlags) (P : α → Prop) (x : Reader α) : Prop :=
  Meets text flags (fun a now => now.Within text flags ∧ P a) x

namespace Meets

variable {Q : α → Reading → Prop} {R : β → Reading → Prop} {P : α → Prop}

theorem mono {Q' : α → Reading → Prop} {x : Reader α} (h : Meets text flags Q x) (le : ∀ a now, Q a now → Q' a now) :
    Meets text flags Q' x := by
  intro r within
  have met := h r within
  unfold MeetsAt at met ⊢
  split at met
  · exact le _ _ met
  · exact met

theorem bind_found {x : Reader α} {f : α → Reader β} (first : Finds text flags P x)
    (next : ∀ a, P a → Meets text flags R (f a)) : Meets text flags R (x >>= f) := by
  intro r within
  have met := first r within
  unfold MeetsAt at met ⊢
  rw [StateT.run_bind]
  cases result : x.run r with
  | error failure =>
    rw [result] at met
    exact met
  | ok found =>
    rw [result] at met
    exact next found.1 met.2 found.2 met.1

theorem finds {x : Reader α} (h : Keeps text flags x) : Finds text flags (fun _ => True) x :=
  h.mono fun _ _ within => ⟨within, trivial⟩

theorem bind {x : Reader α} {f : α → Reader β} (first : Keeps text flags x)
    (next : ∀ a, Meets text flags R (f a)) : Meets text flags R (x >>= f) :=
  first.finds.bind_found fun a _ => next a

theorem bind_get {f : Reading → Reader β}
    (next : ∀ r : Reading, r.Within text flags → Meets text flags R (f r)) : Meets text flags R (get >>= f) :=
  fun r within => next r within r within

theorem ite {c : Prop} [Decidable c] {x y : Reader α} (yes : c → Meets text flags Q x)
    (no : ¬c → Meets text flags Q y) : Meets text flags Q (if c then x else y) := by
  split
  · rename_i h
    exact yes h
  · rename_i h
    exact no h

theorem choice {c : Prop} [Decidable c] {x y : Reader α} {f : α → Reader β} (yes : Finds text flags P x)
    (no : Finds text flags P y) (next : ∀ a, P a → Meets text flags R (f a)) :
    Meets text flags R (if c then x >>= f else y >>= f) :=
  .ite (fun _ => yes.bind_found next) fun _ => no.bind_found next

theorem check {c : Prop} [Decidable c] {refusal : Reader PUnit} {f : PUnit → Reader β}
    (refused : Keeps text flags refusal) (next : ∀ u, Meets text flags R (f u)) :
    Meets text flags R (if c then refusal >>= f else f ⟨⟩) :=
  .ite (fun _ => refused.bind next) fun _ => next ⟨⟩

end Meets

theorem keeps_pure (a : α) : Keeps text flags (pure a : Reader α) := fun _ within => within

theorem finds_pure {P : α → Prop} {a : α} (h : P a) : Finds text flags P (pure a : Reader α) :=
  fun _ within => ⟨within, h⟩

theorem keeps_throw (message : String) (position : Option Nat) :
    Keeps text flags (throw (.malformed message position) : Reader α) :=
  fun _ _ => .malformed message position

theorem keeps_modify {f : Reading → Reading} (rest : ∀ r, (f r).rest = r.rest) (same : ∀ r, (f r).flags = r.flags) :
    Keeps text flags (modify f : Reader Unit) :=
  fun r within => ⟨(rest r).symm ▸ within.rest, (same r).trans within.flags⟩

theorem keeps_set {r : Reading} (within : r.Within text flags) : Keeps text flags (set r : Reader Unit) :=
  fun _ _ => within

theorem keeps_map {x : Reader α} (h : Keeps text flags x) (f : α → β) : Keeps text flags (f <$> x) := by
  rw [map_eq_pure_bind]
  exact h.bind fun _ => keeps_pure _

theorem within_of_keeps {x : Reader α} (h : ∀ text flags, Keeps text flags x) {r now : Reading} {a : α}
    (ended : x.run r = .ok (a, now)) : now.Within r.rest r.flags := by
  have kept := h r.rest r.flags r ⟨.refl _, rfl⟩
  unfold MeetsAt at kept
  rw [ended] at kept
  exact kept

/-! ## Failing -/

def Fails (x : Reader α) : Prop := ∀ r, ∃ failure, x.run r = .error failure

theorem fails_throw (failure : Failure) : Fails (throw failure : Reader α) := fun _ => ⟨failure, rfl⟩

theorem fails_failBack (message : String) (back : Nat) : Fails (failBack message back : Reader α) :=
  fun _ => ⟨_, rfl⟩

theorem fails_failFrom (message : String) (start : Nat) : Fails (failFrom message start : Reader α) :=
  fails_throw _

theorem Fails.bind {x : Reader α} (h : Fails x) (f : α → Reader β) : Fails (x >>= f) := by
  intro r
  obtain ⟨failure, failed⟩ := h r
  exact ⟨failure, by rw [StateT.run_bind, failed]; rfl⟩

/-! ## Units -/

theorem keeps_position : Keeps text flags position := .bind_get fun _ _ => keeps_pure _

theorem keeps_failBack (message : String) (back : Nat) : Keeps text flags (failBack message back : Reader α) :=
  keeps_position.bind fun _ => keeps_throw _ _

theorem keeps_failFrom (message : String) (start : Nat) : Keeps text flags (failFrom message start : Reader α) :=
  keeps_throw _ _

theorem keeps_peek : Keeps text flags peek := .bind_get fun _ _ => keeps_pure _

theorem take_run (r : Reading) :
    take.run r =
      match unit? r.rest with
      | none => .ok (none, r)
      | some unit =>
        if r.rest.drop unit.length = ['\\'] then
          .error (.malformed "bad escape (end of pattern)" (some (r.total - 1)))
        else .ok (some unit, { r with rest := r.rest.drop unit.length }) := by
  cases next : unit? r.rest with
  | none =>
    simp [take, peek, next]
    rfl
  | some unit =>
    by_cases last : r.rest.drop unit.length = ['\\'] <;> simp [take, peek, next, continueWith, failFrom, last] <;> rfl

theorem keeps_take : Keeps text flags take := by
  intro r within
  unfold MeetsAt
  rw [take_run]
  cases next : unit? r.rest with
  | none => exact within
  | some unit =>
    dsimp only
    split
    · rename_i found
      split at found
      · cases found
      · obtain ⟨-, rfl⟩ := Prod.mk.inj (Except.ok.inj found)
        exact ⟨within.rest.drop next, within.flags⟩
    · rename_i found
      split at found
      · obtain rfl := Except.error.inj found
        exact .malformed _ _
      · cases found

theorem keeps_accept (c : Char) : Keeps text flags (accept c) := by
  refine keeps_peek.bind fun next => .ite (fun _ => ?_) fun _ => keeps_pure _
  exact keeps_take.bind fun _ => keeps_pure _

theorem keeps_takeUpTo (p : Char → Bool) (limit : Nat) : Keeps text flags (takeUpTo p limit) := by
  induction limit with
  | zero => exact keeps_pure _
  | succ limit ih =>
    refine keeps_peek.bind fun next => ?_
    split
    · exact .ite (fun _ => keeps_take.bind fun _ => ih.bind fun _ => keeps_pure _) fun _ => keeps_pure _
    · exact keeps_pure _

theorem keeps_takeAll (p : Char → Bool) : Keeps text flags (takeAll p) := .bind_get fun _ _ => keeps_takeUpTo p _

theorem keeps_takeUntil (closing : Char) (what : String) (fuel : Nat) (taken : Text) :
    Keeps text flags (takeUntil closing what fuel taken) := by
  induction fuel generalizing taken with
  | zero => exact keeps_failBack _ _
  | succ fuel ih =>
    refine keeps_take.bind fun next => ?_
    split
    · exact .ite (fun _ => keeps_failBack _ _) fun _ => keeps_failBack _ _
    · exact .ite (fun _ => .ite (fun _ => keeps_failBack _ _) fun _ => keeps_pure _) fun _ => ih _

/-! ## Runs of characters -/

theorem ok_of_run_bind {x : Reader α} {f : α → Reader β} {r now : Reading} {b : β}
    (h : (x >>= f).run r = .ok (b, now)) :
    ∃ a between, x.run r = .ok (a, between) ∧ (f a).run between = .ok (b, now) := by
  rw [StateT.run_bind] at h
  obtain ⟨⟨a, between⟩, first, h⟩ := ok_of_bind h
  exact ⟨a, between, first, h⟩

theorem rest_of_take {r now : Reading} {found : Option Text} {unit : Text} (next : unit? r.rest = some unit)
    (h : take.run r = .ok (found, now)) : now.rest = r.rest.drop unit.length := by
  rw [take_run, next] at h
  dsimp only at h
  split at h
  · cases h
  · obtain ⟨-, rfl⟩ := Prod.mk.inj (Except.ok.inj h)
    rfl

theorem eq_cons_of_unit? {rest : Text} {c : Char} (h : unit? rest = some [c]) : ∃ others, rest = c :: others := by
  unfold unit? at h
  split at h
  · cases h
  · cases h
  · rename_i d others _
    obtain rfl : d = c := by simpa using h
    exact ⟨others, rfl⟩

theorem rest_of_takeUpTo {p : Char → Bool} {limit : Nat} {r now : Reading} {taken : Text}
    (h : (takeUpTo p limit).run r = .ok (taken, now)) : r.rest = taken ++ now.rest ∧ ∀ c ∈ taken, p c = true := by
  induction limit generalizing r taken with
  | zero =>
    obtain ⟨rfl, rfl⟩ := Prod.mk.inj (Except.ok.inj h)
    exact ⟨rfl, by simp⟩
  | succ limit ih =>
    obtain ⟨peeked, between, first, h⟩ := ok_of_run_bind h
    obtain ⟨rfl, rfl⟩ := Prod.mk.inj (Except.ok.inj first)
    split at h
    · rename_i c next
      split at h
      · rename_i satisfied
        obtain ⟨_, after, took, h⟩ := ok_of_run_bind h
        obtain ⟨others, last, later, h⟩ := ok_of_run_bind h
        obtain ⟨rfl, rfl⟩ := Prod.mk.inj (Except.ok.inj h)
        obtain ⟨left, split⟩ := eq_cons_of_unit? next
        have rest := rest_of_take next took
        obtain ⟨taken, all⟩ := ih later
        rw [split] at rest
        exact ⟨by rw [split, List.cons_append, ← taken, rest]; rfl, List.forall_mem_cons.2 ⟨satisfied, all⟩⟩
      · obtain ⟨rfl, rfl⟩ := Prod.mk.inj (Except.ok.inj h)
        exact ⟨rfl, by simp⟩
    · obtain ⟨rfl, rfl⟩ := Prod.mk.inj (Except.ok.inj h)
      exact ⟨rfl, by simp⟩

theorem finds_digits : Finds text flags (HasDigits text) (takeAll Char.isDigit) := by
  intro r within
  have kept := keeps_takeAll Char.isDigit r within
  unfold MeetsAt at kept ⊢
  cases result : (takeAll Char.isDigit).run r with
  | error failure =>
    rw [result] at kept
    exact kept
  | ok found =>
    obtain ⟨digits, now⟩ := found
    rw [result] at kept
    obtain ⟨rest, all⟩ := rest_of_takeUpTo result
    exact ⟨kept, (List.prefix_append digits now.rest).isInfix.trans (rest ▸ within.rest.suffix.isInfix), all⟩

/-! ## Escapes -/

theorem keeps_hexEscape (letter : Char) (width : Nat) : Keeps text flags (hexEscape letter width) := by
  refine (keeps_takeUpTo _ _).bind fun digits => ?_
  refine .check (keeps_failBack _ _) fun _ => ?_
  exact .check (keeps_failBack _ _) fun _ => keeps_pure _

theorem keeps_numericEscape [CharacterNames] (c : Char) : Keeps text flags (numericEscape c) := by
  unfold numericEscape
  split
  · exact (keeps_hexEscape _ _).bind fun _ => keeps_pure _
  · exact (keeps_hexEscape _ _).bind fun _ => keeps_pure _
  · exact (keeps_hexEscape _ _).bind fun _ => keeps_pure _
  · refine (keeps_accept _).bind fun _ => .check (keeps_failBack _ _) fun _ => ?_
    refine .bind_get fun _ _ => (keeps_takeUntil _ _ _ _).bind fun _ => ?_
    split
    · exact keeps_pure _
    · exact keeps_failBack _ _
  · exact keeps_pure _

theorem keeps_octalEscape (all : Text) : Keeps text flags (octalEscape all) :=
  .check (keeps_failBack _ _) fun _ => keeps_pure _

theorem keeps_plainEscape (c : Char) : Keeps text flags (plainEscape c) :=
  .check (keeps_failBack _ _) fun _ => keeps_pure _

theorem keeps_setEscape [CharacterNames] (c : Char) : Keeps text flags (setEscape c) := by
  unfold setEscape
  split
  · exact keeps_pure _
  split
  · exact keeps_pure _
  refine (keeps_numericEscape c).bind fun code => ?_
  split
  · exact keeps_pure _
  refine .ite (fun _ => ?_) fun _ => (keeps_plainEscape c).bind fun _ => keeps_pure _
  exact (keeps_takeUpTo _ _).bind fun _ => (keeps_octalEscape _).bind fun _ => keeps_pure _

/-! ## References -/

theorem keeps_checkBehind (index : Nat) : Keeps text flags (checkBehind index) := by
  refine .bind_get fun r _ => ?_
  split
  · exact .check (keeps_failBack _ _) fun _ => .check (keeps_failBack _ _) fun _ => keeps_pure _
  · exact keeps_pure _

theorem keeps_checkName (name : Text) : Keeps text flags (checkName name) :=
  .check (keeps_failBack _ _) fun _ => keeps_pure _

theorem keeps_openGroup (name : Option Text) : Keeps text flags (openGroup name) := by
  refine .bind_get fun r within => ?_
  have opened {widths : List (Option Width)} {names : List (Text × Nat)} :
      Reading.Within text flags { r with widths := widths, names := names } := ⟨within.rest, within.flags⟩
  split
  · exact (keeps_set opened).bind fun _ => keeps_pure _
  · split
    · exact (keeps_failBack _ _).bind fun _ => (keeps_set opened).bind fun _ => keeps_pure _
    · exact (keeps_set opened).bind fun _ => keeps_pure _

theorem keeps_behind (around : Reading → Option Nat) :
    Keeps text flags (modify fun r => { r with behind := around r } : Reader Unit) :=
  keeps_modify (fun _ => rfl) fun _ => rfl

theorem keeps_closeGroup (index : Nat) (width : Width) : Keeps text flags (closeGroup index width) :=
  keeps_modify (fun _ => rfl) fun _ => rfl

theorem keeps_referTo (index back : Nat) : Keeps text flags (referTo index back) := by
  refine .bind_get fun r _ => ?_
  split
  · exact keeps_failBack _ _
  · exact (keeps_checkBehind _).bind fun _ => keeps_pure _

theorem keeps_escape [CharacterNames] (c : Char) : Keeps text flags (escape c) := by
  unfold escape
  split
  · exact keeps_pure _
  split
  · exact keeps_pure _
  split
  · exact keeps_pure _
  refine (keeps_numericEscape c).bind fun code => ?_
  split
  · exact keeps_pure _
  refine .ite (fun _ => (keeps_takeUpTo _ _).bind fun _ => keeps_pure _) fun _ => ?_
  refine .ite (fun _ => ?_) fun _ => (keeps_plainEscape c).bind fun _ => keeps_pure _
  refine (keeps_takeUpTo _ _).bind fun second => ?_
  have reference : Keeps text flags (do
      let index := valueIn 10 (c :: second)
      if index < (← get).groups then referTo index (second.length + 2)
      else failBack ("invalid group reference " ++ toString index) (second.length + 1) : Reader Item) :=
    .bind_get fun _ _ => .ite (fun _ => keeps_referTo _ _) fun _ => keeps_failBack _ _
  refine .ite (fun _ => ?_) fun _ => reference
  refine (keeps_takeUpTo _ _).bind fun third => .ite (fun _ => ?_) fun _ => reference
  exact (keeps_octalEscape _).bind fun _ => keeps_pure _

/-! ## Sets -/

theorem keeps_setMember [CharacterNames] (unit : Text) : Keeps text flags (setMember unit) := by
  unfold setMember
  split
  · exact keeps_setEscape _
  · exact keeps_pure _
  · exact keeps_pure _

theorem keeps_setItems [CharacterNames] (start fuel : Nat) (read : List SetItem) : Keeps text flags (setItems start fuel read) := by
  induction fuel generalizing read with
  | zero => exact keeps_failFrom _ _
  | succ fuel ih =>
    refine keeps_take.bind fun next => ?_
    split
    · exact keeps_failFrom _ _
    refine .ite (fun _ => keeps_pure _) fun _ => ?_
    refine (keeps_setMember _).bind fun first => (keeps_accept _).bind fun _ => .ite (fun _ => ?_) fun _ => ih _
    refine keeps_take.bind fun next => ?_
    split
    · exact keeps_failFrom _ _
    · exact keeps_pure _
    · refine (keeps_setMember _).bind fun last => ?_
      dsimp only
      split
      · exact .ite (fun _ => keeps_failBack _ _) fun _ => ih _
      · exact keeps_failBack _ _

theorem keeps_charSet [CharacterNames] : Keeps text flags charSet := by
  refine keeps_position.bind fun _ => (keeps_accept _).bind fun negated => .bind_get fun _ _ => ?_
  refine (keeps_setItems _ _ _).bind fun items => ?_
  split <;> exact keeps_pure _

/-! ## Repetition -/

theorem keeps_roundCount {digits : Text} (found : HasDigits text digits) : Keeps text flags (roundCount digits) := by
  refine .ite (fun long => ?_) fun _ => .ite (fun large => ?_) fun _ => keeps_pure _
  · exact fun _ _ => .badValue found long
  · exact fun _ _ => .tooLarge found large

theorem keeps_braces : Keeps text flags braces := by
  refine keeps_peek.bind fun next => .ite (fun _ => keeps_pure _) fun _ => ?_
  refine .bind_get fun before within => keeps_position.bind fun start => ?_
  refine finds_digits.bind_found fun low lowFound => (keeps_accept _).bind fun comma => ?_
  refine .choice finds_digits (finds_pure lowFound) fun high highFound => ?_
  refine (keeps_accept _).bind fun closed => .ite (fun _ => ?_) fun _ => (keeps_set within).bind fun _ => keeps_pure _
  refine .choice (keeps_pure 0).finds (keeps_roundCount lowFound).finds fun min _ => ?_
  refine .choice (keeps_pure none).finds (keeps_map (keeps_roundCount highFound) some).finds fun max _ => ?_
  cases max with
  | none => exact keeps_pure _
  | some max => exact .check (keeps_failFrom _ _) fun _ => keeps_pure _

theorem keeps_readGreed : Keeps text flags readGreed := by
  refine keeps_peek.bind fun next => ?_
  split
  · exact keeps_take.bind fun _ => keeps_pure _
  · exact keeps_take.bind fun _ => keeps_pure _
  · exact keeps_pure _

theorem finds_repeatLast (start : Nat) (done : List Item) (min : Nat) (max : Option Nat) :
    Finds text flags (fun items => items.isEmpty = false) (repeatLast start done min max) := by
  unfold repeatLast
  split
  · exact fun _ _ => .malformed _ _
  · refine .check (keeps_failFrom _ _) fun _ => .check (keeps_failFrom _ _) fun _ => ?_
    exact keeps_readGreed.bind fun _ => finds_pure rfl

/-! ## Groups -/

theorem keeps_flagsToSet (fuel : Nat) (flag read : PatternFlags) : Keeps text flags (flagsToSet fuel flag read) := by
  induction fuel generalizing flag read with
  | zero => exact keeps_failBack _ _
  | succ fuel ih =>
    refine .check (keeps_failBack _ _) fun _ => .check (keeps_failBack _ _) fun _ => keeps_take.bind fun next => ?_
    split
    · exact keeps_failBack _ _
    · exact keeps_pure _
    · exact keeps_pure _
    · exact keeps_pure _
    · split
      · exact ih _ _
      · exact keeps_failBack _ _

theorem keeps_flagsToClear (fuel : Nat) (flag read : PatternFlags) :
    Keeps text flags (flagsToClear fuel flag read) := by
  induction fuel generalizing flag read with
  | zero => exact keeps_failBack _ _
  | succ fuel ih =>
    refine .check (keeps_failBack _ _) fun _ => keeps_take.bind fun next => ?_
    split
    · exact keeps_failBack _ _
    · exact keeps_pure _
    · split
      · exact ih _ _
      · exact keeps_failBack _ _

/-- The flags of a group leave those of the whole pattern alone. Only flags without a group change them. -/
theorem meets_groupFlags (unit : Text) :
    Meets text flags (fun found now => found = none ∨ now.Within text flags) (groupFlags unit) := by
  have group {x : Reader (Option (PatternFlags × PatternFlags))} (h : Keeps text flags x) :
      Meets text flags (fun found now => found = none ∨ now.Within text flags) x := h.mono fun _ _ => .inr
  refine .bind_get fun r _ => ?_
  extract_lets fuel afterAdd
  have added (both : PatternFlags × Char) :
      Meets text flags (fun found now => found = none ∨ now.Within text flags) (afterAdd both) := by
    obtain ⟨add, ending⟩ := both
    refine .ite (fun _ => fun r within => .inl rfl) fun _ => .check (keeps_failBack _ _) fun _ => ?_
    extract_lets afterRemove
    have removed (remove : PatternFlags) :
        Meets text flags (fun found now => found = none ∨ now.Within text flags) (afterRemove remove) :=
      .check (keeps_failBack _ _) fun _ => .check (keeps_failBack _ _) fun _ => group (keeps_pure _)
    refine .ite (fun _ => ?_) fun _ => (keeps_pure _).bind removed
    refine keeps_take.bind fun next => ?_
    split
    · exact (keeps_failBack _ _).bind removed
    · split
      · exact (keeps_flagsToClear _ _ _).bind removed
      · exact (keeps_failBack _ _).bind removed
  split
  · exact (keeps_flagsToSet _ _ _).bind added
  · exact (keeps_pure _).bind added

theorem keeps_conditionGroup : Keeps text flags conditionGroup := by
  refine .bind_get fun _ _ => (keeps_takeUntil _ _ _ _).bind fun name => ?_
  have checked (index : Nat) : Keeps text flags (do
      checkBehind index
      return index : Reader Nat) := (keeps_checkBehind index).bind fun _ => keeps_pure _
  refine .ite (fun _ => ?_) fun _ => ?_
  · refine .bind_get fun r _ => ?_
    split
    · exact (keeps_pure _).bind checked
    · exact (keeps_failBack _ _).bind checked
  · split
    · exact (keeps_failBack _ _).bind checked
    · refine .check (keeps_failBack _ _) fun _ => .check (keeps_failBack _ _) fun _ => ?_
      refine keeps_position.bind fun start => (keeps_modify ?_ ?_).bind fun _ => (keeps_pure _).bind checked
      · intro r
        split <;> rfl
      · intro r
        split <;> rfl

theorem keeps_skipComment (start fuel : Nat) : Keeps text flags (skipComment start fuel) := by
  induction fuel with
  | zero => exact keeps_failFrom _ _
  | succ fuel ih =>
    refine keeps_take.bind fun next => ?_
    split
    · exact keeps_failFrom _ _
    · exact .ite (fun _ => keeps_pure _) fun _ => ih

theorem keeps_namedOpening : Keeps text flags namedOpening := by
  refine (keeps_accept _).bind fun opened => .ite (fun _ => ?_) fun _ => ?_
  · refine .bind_get fun _ _ => (keeps_takeUntil _ _ _ _).bind fun name => ?_
    exact (keeps_checkName _).bind fun _ => keeps_pure _
  · refine (keeps_accept _).bind fun referring => .ite (fun _ => ?_) fun _ => ?_
    · refine .bind_get fun _ _ => (keeps_takeUntil _ _ _ _).bind fun name => (keeps_checkName _).bind fun _ => ?_
      refine .bind_get fun r _ => ?_
      split
      · exact keeps_failBack _ _
      · exact (keeps_referTo _ _).bind fun _ => keeps_pure _
    · refine keeps_take.bind fun next => ?_
      split <;> exact keeps_failBack _ _

theorem keeps_behindOpening : Keeps text flags behindOpening := by
  refine keeps_take.bind fun next => ?_
  split
  · exact keeps_failBack _ _
  · exact keeps_pure _
  · exact keeps_pure _
  · exact keeps_failBack _ _

theorem keeps_specialOpening (start : Nat) : Keeps text flags (specialOpening start false) := by
  refine keeps_take.bind fun next => ?_
  split
  · exact keeps_failBack _ _
  · exact keeps_namedOpening
  · exact keeps_pure _
  · exact .bind_get fun _ _ => (keeps_skipComment _ _).bind fun _ => keeps_pure _
  · exact keeps_pure _
  · exact keeps_pure _
  · exact keeps_behindOpening
  · exact keeps_conditionGroup.bind fun _ => keeps_pure _
  · exact keeps_pure _
  · rename_i unit _ _ _ _ _ _ _ _
    refine .ite (fun _ => ?_) fun _ => keeps_failBack _ _
    intro r within
    have met := meets_groupFlags unit r within
    unfold MeetsAt at met ⊢
    rw [StateT.run_bind]
    cases result : (groupFlags unit).run r with
    | error failure =>
      rw [result] at met
      exact met
    | ok found =>
      obtain ⟨found, now⟩ := found
      rw [result] at met
      cases found with
      | none => exact .malformed _ _
      | some both => exact met.resolve_left (by simp)

theorem keeps_closing (start : Nat) : Keeps text flags (closing start) :=
  (keeps_accept _).bind fun _ => .check (keeps_failFrom _ _) fun _ => keeps_pure _

theorem keeps_skipLine (fuel : Nat) : Keeps text flags (skipLine fuel) := by
  induction fuel with
  | zero => exact keeps_pure _
  | succ fuel ih =>
    refine keeps_take.bind fun next => ?_
    split
    · exact keeps_pure _
    · exact .ite (fun _ => keeps_pure _) fun _ => ih

/-! ## Patterns -/

theorem keeps_readers [CharacterNames] (fuel : Nat) :
    (∀ verbose top, Keeps text flags (alternatives fuel verbose top false)) ∧
      ∀ verbose first done, (first && done.isEmpty) = false → Keeps text flags (sequence fuel verbose first done) := by
  induction fuel with
  | zero => exact ⟨fun _ _ => keeps_pure _, fun _ _ _ _ => keeps_pure _⟩
  | succ fuel ih =>
    obtain ⟨ofAlternatives, ofSequence⟩ := ih
    constructor
    · intro verbose top
      refine (ofSequence _ _ _ rfl).bind fun item => (keeps_accept _).bind fun more => .ite (fun _ => ?_) fun _ => ?_
      · exact .bind_get fun _ _ => (ofAlternatives _ _).bind fun _ => keeps_pure _
      · exact keeps_pure _
    · intro verbose first done later
      have same : Keeps text flags (sequence fuel verbose first done) := ofSequence _ _ _ later
      have more (item : Item) : Keeps text flags (sequence fuel verbose first (item :: done)) :=
        ofSequence _ _ _ (by simp)
      unfold sequence
      refine keeps_peek.bind fun next => ?_
      split
      · exact keeps_pure _
      · exact keeps_pure _
      · exact keeps_pure _
      refine keeps_position.bind fun start => keeps_take.bind fun _ => ?_
      split
      · exact (keeps_escape _).bind fun _ => more _
      · refine .ite (fun _ => same) fun _ => .ite (fun _ => ?_) fun _ => ?_
        · exact .bind_get fun _ _ => (keeps_skipLine _).bind fun _ => same
        have repeated (min : Nat) (max : Option Nat) : Keeps text flags (do
            sequence fuel verbose first (← repeatLast start done min max) : Reader Item) :=
          (finds_repeatLast _ _ _ _).bind_found fun items some => ofSequence _ _ _ (by rw [some, Bool.and_false])
        split
        · exact keeps_charSet.bind fun _ => more _
        · exact more _
        · exact more _
        · exact more _
        · exact repeated _ _
        · exact repeated _ _
        · exact repeated _ _
        · refine keeps_braces.bind fun bounds => ?_
          split
          · exact repeated _ _
          · exact more _
        · rw [later]
          refine (keeps_accept _).bind fun special => ?_
          refine .choice (keeps_specialOpening start).finds (keeps_pure _).finds fun opening _ => ?_
          cases opening with
          | nothing => exact .bind_get fun _ _ => ofSequence _ _ _ later
          | item item => exact more _
          | group name =>
            refine (keeps_openGroup _).bind fun index => (ofAlternatives _ _).bind fun body => ?_
            exact (keeps_closing _).bind fun _ => (keeps_closeGroup _ _).bind fun _ => more _
          | flags add remove =>
            exact (ofAlternatives _ _).bind fun body => (keeps_closing _).bind fun _ => more _
          | atomic => exact (ofAlternatives _ _).bind fun body => (keeps_closing _).bind fun _ => more _
          | lookahead negative =>
            exact (ofAlternatives _ _).bind fun body => (keeps_closing _).bind fun _ => more _
          | lookbehind negative =>
            refine .bind_get fun r _ => (keeps_behind _).bind fun _ => (ofAlternatives _ _).bind fun body => ?_
            exact (keeps_behind _).bind fun _ => (keeps_closing _).bind fun _ => more _
          | conditional index =>
            have closed (yes no : Item) : Keeps text flags (do
                closing start
                sequence fuel verbose first
                  (⟨.conditional index yes.node no.node, yes.width.join no.width, .other⟩ :: done) : Reader Item) :=
              (keeps_closing _).bind fun _ => more _
            refine (ofSequence _ _ _ rfl).bind fun yes => (keeps_accept _).bind fun two => ?_
            refine .ite (fun _ => ?_) fun _ => ?_
            · refine (ofSequence _ _ _ rfl).bind fun no => keeps_peek.bind fun next => ?_
              exact .check (keeps_failBack _ _) fun _ => (keeps_pure no).bind (closed yes)
            · exact (keeps_pure _).bind (closed yes)
        · exact more _
      · exact same

/-! ## Whole patterns -/

theorem run_take {r : Reading} {unit : Text} (next : unit? r.rest = some unit)
    (more : r.rest.drop unit.length ≠ ['\\']) :
    take.run r = .ok (some unit, { r with rest := r.rest.drop unit.length }) := by
  rw [take_run, next]
  exact if_neg more

theorem run_sequence_group [CharacterNames] (fuel : Nat) (verbose first : Bool) (done : List Item) {r : Reading} {others : Text}
    (inside : others ≠ ['\\']) (rest : r.rest = '(' :: '?' :: ':' :: others) :
    (sequence (fuel + 1) verbose first done).run r =
      (do
        let body ← alternatives fuel (verboseInside verbose 0 0) false false
        closing (r.total - r.rest.length)
        sequence fuel verbose first (⟨body.node, body.width, .other⟩ :: done) : Reader Item).run
          { r with rest := others } := by
  have opened : take.run r = .ok (some ['('], { r with rest := '?' :: ':' :: others }) := by
    rw [run_take (show unit? r.rest = some ['('] by rw [rest]; rfl) (by simp [rest])]
    simp [rest]
  have special : take.run { r with rest := '?' :: ':' :: others } =
      .ok (some ['?'], { r with rest := ':' :: others }) := run_take rfl (by simp)
  have plain : take.run { r with rest := ':' :: others } = .ok (some [':'], { r with rest := others }) :=
    run_take rfl (by simpa using inside)
  have counts : isLayout '(' = false := by decide
  have step {γ δ : Type} (a : γ) (f : γ → Except Failure δ) : (Except.ok a >>= f) = f a := rfl
  rw [sequence]
  simp [peek, unit?, position, accept, specialOpening, opened, special, plain, counts, step, rest]

theorem run_bind_of_ok {x : Reader α} {r now : Reading} {a : α} (ended : x.run r = .ok (a, now)) (f : α → Reader β) :
    (x >>= f).run r = (f a).run now := by
  rw [StateT.run_bind, ended]
  rfl

theorem run_bind_of_error {x : Reader α} {r : Reading} {failure : Failure} (failed : x.run r = .error failure)
    (f : α → Reader β) : (x >>= f).run r = .error failure := by
  rw [StateT.run_bind, failed]
  rfl

theorem run_bind_congr {x y : Reader α} {r r' : Reading} (same : x.run r = y.run r') (f : α → Reader β) :
    (x >>= f).run r = (y >>= f).run r' := by
  rw [StateT.run_bind, StateT.run_bind, same]

theorem grouped_eq (pattern : Text) : grouped pattern = '(' :: '?' :: ':' :: (pattern ++ [')']) := by
  simp [grouped]

theorem meets_grouped [CharacterNames] (fuel : Nat) (verbose top : Bool) {Q : α → Reading → Prop} {f : Item → Reader α}
    (next : ∀ item, Meets text flags Q (f item)) {r : Reading} (within : r.Within text flags) {pattern : Text}
    (rest : r.rest = grouped pattern) :
    MeetsAt text Q (alternatives (fuel + 2) verbose top true >>= f) r := by
  rw [grouped_eq] at rest
  have inside : pattern ++ [')'] ≠ ['\\'] := by
    intro same
    have last := congrArg List.getLast? same
    simp at last
  have others : Reading.Within text flags { r with rest := pattern ++ [')'] } := by
    have opened := within.rest
    rw [rest] at opened
    exact ⟨((opened.drop rfl).drop rfl).drop rfl, within.flags⟩
  obtain ⟨ofAlternatives, ofSequence⟩ := @keeps_readers text flags _ fuel
  obtain ⟨ofMore, -⟩ := @keeps_readers text flags _ (fuel + 1)
  rw [alternatives, bind_assoc]
  refine MeetsAt.congr ?_ (run_bind_congr (run_sequence_group fuel verbose true [] inside rest) _)
  refine Meets.bind (R := Q) ?_ (fun item => ?_) _ others
  · exact (ofAlternatives _ _).bind fun body => (keeps_closing _).bind fun _ => ofSequence _ _ _ rfl
  · rw [bind_assoc]
    refine (keeps_accept _).bind fun more => ?_
    refine Meets.bind (.ite (fun _ => ?_) fun _ => keeps_pure _) next
    exact .bind_get fun _ _ => (ofMore _ _).bind fun _ => keeps_pure _

theorem meets_readWhole [CharacterNames] {pattern : Text} {all : PatternFlags} (settled : settleFlags flags = .ok all) :
    MeetsAt (grouped pattern) (fun found _ => found.2 = all) readWhole
      { rest := grouped pattern, total := (grouped pattern).length, flags := flags } := by
  have first : grouped pattern ≠ ['\\'] := by simp [grouped_eq]
  have begun : (continueWith (grouped pattern)).run
      { rest := grouped pattern, total := (grouped pattern).length, flags := flags } =
        .ok ((), { rest := grouped pattern, total := (grouped pattern).length, flags := flags }) := by
    simp [continueWith, first]
    rfl
  unfold readWhole
  refine .step rfl (.step begun (.step rfl ?_))
  refine meets_grouped (2 * (grouped pattern).length) _ true (fun item => ?_) ⟨.refl _, rfl⟩ rfl
  refine .bind_get fun r within => ?_
  rw [within.flags, settled]
  refine Meets.bind_found (finds_pure (P := (· = all)) rfl) fun known same => keeps_peek.bind fun next => ?_
  refine .check (keeps_failBack _ _) fun _ => .bind_get fun r _ => ?_
  split
  · exact fun _ _ => .malformed _ _
  · exact fun _ _ => same

theorem failsWith_compile [CharacterNames] {pattern : Text} {all : PatternFlags} (settled : settleFlags flags = .ok all)
    (small : all < PatternFlags.bound) :
    FailsWith (fun failure => failure.Explained (grouped pattern)) (compile (grouped pattern) flags) := by
  have met : MeetsAt (grouped pattern) _ readWhole _ := meets_readWhole settled
  unfold MeetsAt at met
  refine FailsWith.bind (FailsWith.bind (fun failure failed => ?_) fun _ _ => .ok _) fun found result => ?_
  · rw [failed] at met
    exact met
  · obtain ⟨⟨⟨root, known⟩, now⟩, read, same⟩ := ok_of_bind result
    obtain rfl := Except.ok.inj same
    rw [read] at met
    obtain rfl : known = all := met
    dsimp only
    split
    · exact .error (.malformed _ _)
    · rw [if_neg (Nat.not_le.2 small)]
      exact .ok _

end LexGen.Pattern
