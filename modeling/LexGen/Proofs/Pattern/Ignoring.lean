import LexGen.Proofs.Pattern.LeadingFlags

/-!
# Readers that ignore the flags

The flags of the whole pattern are only read and changed at its beginning. Anywhere else a reader does the same under
any flags, and leaves them as they are.

* `Reflagged`: two readers that do the same where the second one has other flags.
* `Uniform`: a reader that does the same under any flags, and adds the same ones to them.
* `ignores_sequence`, `ignores_alternatives`: behind the beginning of a pattern the flags are ignored.
-/

namespace LexGen.Pattern

variable {α β : Type} {g : PatternFlags}

def Reflagged (g : PatternFlags) (x x' : Reader α) : Prop :=
  ∀ r, x'.run { r with flags := g } = (x.run r).map fun found => (found.1, { found.2 with flags := g })

abbrev Ignores (g : PatternFlags) (x : Reader α) : Prop := Reflagged g x x

namespace Reflagged

variable {x x' : Reader α} {f f' : α → Reader β}

theorem bind_found (first : Reflagged g x x')
    (next : ∀ a r now, x.run r = .ok (a, now) → Reflagged g (f a) (f' a)) : Reflagged g (x >>= f) (x' >>= f') := by
  intro r
  rw [StateT.run_bind, StateT.run_bind, first r]
  cases result : x.run r with
  | error failure => rfl
  | ok found => exact next found.1 r found.2 result found.2

theorem bind (first : Reflagged g x x') (next : ∀ a, Reflagged g (f a) (f' a)) : Reflagged g (x >>= f) (x' >>= f') :=
  first.bind_found fun a _ _ _ => next a

theorem state_bind {f f' : Reading → Reader β} (next : ∀ r : Reading, Reflagged g (f r) (f' { r with flags := g })) :
    Reflagged g (get >>= f) (get >>= f') := fun r => next r r

theorem get_bind {f f' : Reading → Reader β} (same : ∀ r : Reading, f' { r with flags := g } = f' r)
    (next : ∀ r, Reflagged g (f r) (f' r)) : Reflagged g (get >>= f) (get >>= f') :=
  .state_bind fun r => same r ▸ next r

theorem ite {c : Prop} [Decidable c] {y y' : Reader α} (yes : c → Reflagged g x x') (no : ¬c → Reflagged g y y') :
    Reflagged g (if c then x else y) (if c then x' else y') := by
  split
  · rename_i h
    exact yes h
  · rename_i h
    exact no h

theorem check {c : Prop} [Decidable c] {refusal : Reader PUnit} {f f' : PUnit → Reader β} (refused : Ignores g refusal)
    (next : ∀ u, Reflagged g (f u) (f' u)) :
    Reflagged g (if c then refusal >>= f else f ⟨⟩) (if c then refusal >>= f' else f' ⟨⟩) :=
  .ite (fun _ => refused.bind next) fun _ => next ⟨⟩

theorem choice {c : Prop} [Decidable c] {y y' : Reader α} (yes : Reflagged g x x') (no : Reflagged g y y')
    (next : ∀ a, Reflagged g (f a) (f' a)) :
    Reflagged g (if c then x >>= f else y >>= f) (if c then x' >>= f' else y' >>= f') :=
  .ite (fun _ => yes.bind next) fun _ => no.bind next

end Reflagged

theorem ignores_pure (a : α) : Ignores g (pure a : Reader α) := fun _ => rfl

theorem ignores_throw (failure : Failure) : Ignores g (throw failure : Reader α) := fun _ => rfl

theorem ignores_modify {f : Reading → Reading} (same : ∀ r : Reading, f { r with flags := g } = { f r with flags := g }) :
    Ignores g (modify f : Reader Unit) := by
  intro r
  change Except.ok ((), f { r with flags := g }) = _
  rw [same]
  rfl

theorem ignores_map {x : Reader α} (h : Ignores g x) (f : α → β) : Ignores g (f <$> x) := by
  rw [map_eq_pure_bind]
  exact h.bind fun _ => ignores_pure _

/-! ## Units -/

theorem ignores_position : Ignores g position := .get_bind (fun _ => rfl) fun _ => ignores_pure _

theorem ignores_failBack (message : String) (back : Nat) : Ignores g (failBack message back : Reader α) :=
  ignores_position.bind fun _ => ignores_throw _

theorem ignores_failFrom (message : String) (start : Nat) : Ignores g (failFrom message start : Reader α) :=
  ignores_throw _

theorem ignores_continueWith (rest : Text) : Ignores g (continueWith rest) := by
  refine .ite (fun _ => .get_bind (fun _ => rfl) fun _ => (ignores_failFrom _ _).bind fun _ => ?_) fun _ => ?_
  all_goals exact ignores_modify fun _ => rfl

theorem ignores_peek : Ignores g peek := .get_bind (fun _ => rfl) fun _ => ignores_pure _

theorem ignores_take : Ignores g take := by
  refine ignores_peek.bind fun next => ?_
  split
  · exact .get_bind (fun _ => rfl) fun _ => (ignores_continueWith _).bind fun _ => ignores_pure _
  · exact ignores_pure _

theorem ignores_accept (c : Char) : Ignores g (accept c) := by
  refine ignores_peek.bind fun next => .ite (fun _ => ?_) fun _ => ignores_pure _
  exact ignores_take.bind fun _ => ignores_pure _

theorem ignores_takeUpTo (p : Char → Bool) (limit : Nat) : Ignores g (takeUpTo p limit) := by
  induction limit with
  | zero => exact ignores_pure _
  | succ limit ih =>
    refine ignores_peek.bind fun next => ?_
    split
    · exact .ite (fun _ => ignores_take.bind fun _ => ih.bind fun _ => ignores_pure _) fun _ => ignores_pure _
    · exact ignores_pure _

theorem ignores_takeAll (p : Char → Bool) : Ignores g (takeAll p) :=
  .get_bind (fun _ => rfl) fun _ => ignores_takeUpTo p _

theorem ignores_takeUntil (closing : Char) (what : String) (fuel : Nat) (taken : Text) :
    Ignores g (takeUntil closing what fuel taken) := by
  induction fuel generalizing taken with
  | zero => exact ignores_failBack _ _
  | succ fuel ih =>
    refine ignores_take.bind fun next => ?_
    split
    · exact .ite (fun _ => ignores_failBack _ _) fun _ => ignores_failBack _ _
    · exact .ite (fun _ => .ite (fun _ => ignores_failBack _ _) fun _ => ignores_pure _) fun _ => ih _

theorem ignores_takeUntil_bind (closing : Char) (what : String) {f : Text → Reader β} (next : ∀ name, Ignores g (f name)) :
    Ignores g (do f (← takeUntil closing what ((← get).rest.length + 1) [])) :=
  .get_bind (fun _ => rfl) fun _ => (ignores_takeUntil _ _ _ _).bind next

/-! ## Escapes -/

theorem ignores_hexEscape (letter : Char) (width : Nat) : Ignores g (hexEscape letter width) := by
  refine (ignores_takeUpTo _ _).bind fun digits => ?_
  exact .check (ignores_failBack _ _) fun _ => .check (ignores_failBack _ _) fun _ => ignores_pure _

theorem ignores_numericEscape (c : Char) : Ignores g (numericEscape c) := by
  unfold numericEscape
  split
  · exact (ignores_hexEscape _ _).bind fun _ => ignores_pure _
  · exact (ignores_hexEscape _ _).bind fun _ => ignores_pure _
  · exact (ignores_hexEscape _ _).bind fun _ => ignores_pure _
  · refine (ignores_accept _).bind fun _ => .check (ignores_failBack _ _) fun _ => ?_
    refine ignores_takeUntil_bind _ _ fun _ => ?_
    split
    · exact ignores_pure _
    · exact ignores_failBack _ _
  · exact ignores_pure _

theorem ignores_octalEscape (all : Text) : Ignores g (octalEscape all) :=
  .check (ignores_failBack _ _) fun _ => ignores_pure _

theorem ignores_plainEscape (c : Char) : Ignores g (plainEscape c) := .check (ignores_failBack _ _) fun _ => ignores_pure _

theorem ignores_setEscape (c : Char) : Ignores g (setEscape c) := by
  unfold setEscape
  split
  · exact ignores_pure _
  split
  · exact ignores_pure _
  refine (ignores_numericEscape c).bind fun code => ?_
  split
  · exact ignores_pure _
  refine .ite (fun _ => ?_) fun _ => (ignores_plainEscape c).bind fun _ => ignores_pure _
  exact (ignores_takeUpTo _ _).bind fun _ => (ignores_octalEscape _).bind fun _ => ignores_pure _

/-! ## References -/

theorem ignores_checkBehind (index : Nat) : Ignores g (checkBehind index) := by
  refine .get_bind (fun _ => rfl) fun r => ?_
  split
  · exact .check (ignores_failBack _ _) fun _ => .check (ignores_failBack _ _) fun _ => ignores_pure _
  · exact ignores_pure _

theorem ignores_checkName (name : Text) : Ignores g (checkName name) := .check (ignores_failBack _ _) fun _ => ignores_pure _

theorem ignores_openGroup (name : Option Text) : Ignores g (openGroup name) := by
  refine .state_bind fun r => ?_
  have opened {widths : List (Option Width)} {names : List (Text × Nat)} {index : Nat} :
      Reflagged g (do set { r with widths := widths, names := names }; return index : Reader Nat)
        (do set { r with flags := g, widths := widths, names := names }; return index) := fun _ => rfl
  cases name with
  | none => exact opened
  | some name =>
    dsimp only
    cases r.names.lookup name with
    | some other => exact (ignores_failBack _ _).bind fun _ => opened
    | none => exact opened

theorem ignores_closeGroup (index : Nat) (width : Width) : Ignores g (closeGroup index width) :=
  ignores_modify fun _ => rfl

theorem ignores_referTo (index back : Nat) : Ignores g (referTo index back) := by
  refine .get_bind (fun _ => rfl) fun r => ?_
  split
  · exact ignores_failBack _ _
  · exact (ignores_checkBehind _).bind fun _ => ignores_pure _

theorem ignores_escape (c : Char) : Ignores g (escape c) := by
  unfold escape
  split
  · exact ignores_pure _
  split
  · exact ignores_pure _
  split
  · exact ignores_pure _
  refine (ignores_numericEscape c).bind fun code => ?_
  split
  · exact ignores_pure _
  refine .ite (fun _ => (ignores_takeUpTo _ _).bind fun _ => ignores_pure _) fun _ => ?_
  refine .ite (fun _ => ?_) fun _ => (ignores_plainEscape c).bind fun _ => ignores_pure _
  refine (ignores_takeUpTo _ _).bind fun second => ?_
  have reference : Ignores g (do
      let index := valueIn 10 (c :: second)
      if index < (← get).groups then referTo index (second.length + 2)
      else failBack ("invalid group reference " ++ toString index) (second.length + 1) : Reader Item) :=
    .get_bind (fun _ => rfl) fun _ => .ite (fun _ => ignores_referTo _ _) fun _ => ignores_failBack _ _
  refine .ite (fun _ => ?_) fun _ => reference
  refine (ignores_takeUpTo _ _).bind fun third => .ite (fun _ => ?_) fun _ => reference
  exact (ignores_octalEscape _).bind fun _ => ignores_pure _

/-! ## Sets -/

theorem ignores_setMember (unit : Text) : Ignores g (setMember unit) := by
  unfold setMember
  split
  · exact ignores_setEscape _
  · exact ignores_pure _
  · exact ignores_pure _

theorem ignores_setItems (start fuel : Nat) (read : List SetItem) : Ignores g (setItems start fuel read) := by
  induction fuel generalizing read with
  | zero => exact ignores_failFrom _ _
  | succ fuel ih =>
    refine ignores_take.bind fun next => ?_
    split
    · exact ignores_failFrom _ _
    refine .ite (fun _ => ignores_pure _) fun _ => ?_
    refine (ignores_setMember _).bind fun first => (ignores_accept _).bind fun _ => .ite (fun _ => ?_) fun _ => ih _
    refine ignores_take.bind fun next => ?_
    split
    · exact ignores_failFrom _ _
    · exact ignores_pure _
    · refine (ignores_setMember _).bind fun last => ?_
      dsimp only
      split
      · exact .ite (fun _ => ignores_failBack _ _) fun _ => ih _
      · exact ignores_failBack _ _

theorem ignores_charSet : Ignores g charSet := by
  refine ignores_position.bind fun _ => (ignores_accept _).bind fun negated => .get_bind (fun _ => rfl) fun _ => ?_
  refine (ignores_setItems _ _ _).bind fun items => ?_
  split <;> exact ignores_pure _

/-! ## Repetition -/

theorem ignores_roundCount (digits : Text) : Ignores g (roundCount digits) :=
  .ite (fun _ => ignores_throw _) fun _ => .ite (fun _ => ignores_throw _) fun _ => ignores_pure _

theorem ignores_braces : Ignores g braces := by
  refine ignores_peek.bind fun next => .ite (fun _ => ignores_pure _) fun _ => ?_
  refine .state_bind fun before => ignores_position.bind fun start => ?_
  refine (ignores_takeAll _).bind fun low => (ignores_accept _).bind fun comma => ?_
  refine .choice (ignores_takeAll _) (ignores_pure _) fun high => ?_
  refine (ignores_accept _).bind fun closed => .ite (fun _ => ?_) fun _ => fun _ => rfl
  refine .choice (ignores_pure _) (ignores_roundCount _) fun min => ?_
  refine .choice (ignores_pure _) (ignores_map (ignores_roundCount _) some) fun max => ?_
  cases max with
  | none => exact ignores_pure _
  | some max => exact .check (ignores_failFrom _ _) fun _ => ignores_pure _

theorem ignores_readGreed : Ignores g readGreed := by
  refine ignores_peek.bind fun next => ?_
  split
  · exact ignores_take.bind fun _ => ignores_pure _
  · exact ignores_take.bind fun _ => ignores_pure _
  · exact ignores_pure _

theorem ignores_repeatLast (start : Nat) (done : List Item) (min : Nat) (max : Option Nat) :
    Ignores g (repeatLast start done min max) := by
  unfold repeatLast
  split
  · exact ignores_failFrom _ _
  · refine .check (ignores_failFrom _ _) fun _ => .check (ignores_failFrom _ _) fun _ => ?_
    exact ignores_readGreed.bind fun _ => ignores_pure _

/-! ## Groups -/

theorem ignores_flagsToSet (fuel : Nat) (flag read : PatternFlags) : Ignores g (flagsToSet fuel flag read) := by
  induction fuel generalizing flag read with
  | zero => exact ignores_failBack _ _
  | succ fuel ih =>
    refine .check (ignores_failBack _ _) fun _ => .check (ignores_failBack _ _) fun _ => ignores_take.bind fun next => ?_
    split
    · exact ignores_failBack _ _
    · exact ignores_pure _
    · exact ignores_pure _
    · exact ignores_pure _
    · split
      · exact ih _ _
      · exact ignores_failBack _ _

theorem ignores_flagsToClear (fuel : Nat) (flag read : PatternFlags) : Ignores g (flagsToClear fuel flag read) := by
  induction fuel generalizing flag read with
  | zero => exact ignores_failBack _ _
  | succ fuel ih =>
    refine .check (ignores_failBack _ _) fun _ => ignores_take.bind fun next => ?_
    split
    · exact ignores_failBack _ _
    · exact ignores_pure _
    · split
      · exact ih _ _
      · exact ignores_failBack _ _

theorem ignores_conditionGroup : Ignores g conditionGroup := by
  refine ignores_takeUntil_bind _ _ fun name => ?_
  have checked (index : Nat) : Ignores g (do
      checkBehind index
      return index : Reader Nat) := (ignores_checkBehind index).bind fun _ => ignores_pure _
  refine .ite (fun _ => ?_) fun _ => ?_
  · refine .get_bind (fun _ => rfl) fun r => ?_
    split
    · exact (ignores_pure _).bind checked
    · exact (ignores_failBack _ _).bind checked
  · split
    · exact (ignores_failBack _ _).bind checked
    · refine .check (ignores_failBack _ _) fun _ => .check (ignores_failBack _ _) fun _ => ?_
      refine ignores_position.bind fun start => (ignores_modify fun r => ?_).bind fun _ => (ignores_pure _).bind checked
      dsimp only
      split <;> rfl

theorem ignores_skipComment (start fuel : Nat) : Ignores g (skipComment start fuel) := by
  induction fuel with
  | zero => exact ignores_failFrom _ _
  | succ fuel ih =>
    refine ignores_take.bind fun next => ?_
    split
    · exact ignores_failFrom _ _
    · exact .ite (fun _ => ignores_pure _) fun _ => ih

theorem ignores_namedOpening : Ignores g namedOpening := by
  refine (ignores_accept _).bind fun opened => .ite (fun _ => ?_) fun _ => ?_
  · exact ignores_takeUntil_bind _ _ fun name => (ignores_checkName _).bind fun _ => ignores_pure _
  · refine (ignores_accept _).bind fun referring => .ite (fun _ => ?_) fun _ => ?_
    · refine ignores_takeUntil_bind _ _ fun name => (ignores_checkName _).bind fun _ => ?_
      refine .get_bind (fun _ => rfl) fun r => ?_
      split
      · exact ignores_failBack _ _
      · exact (ignores_referTo _ _).bind fun _ => ignores_pure _
    · refine ignores_take.bind fun next => ?_
      split <;> exact ignores_failBack _ _

theorem ignores_behindOpening : Ignores g behindOpening := by
  refine ignores_take.bind fun next => ?_
  split
  · exact ignores_failBack _ _
  · exact ignores_pure _
  · exact ignores_pure _
  · exact ignores_failBack _ _

theorem ignores_closing (start : Nat) : Ignores g (closing start) :=
  (ignores_accept _).bind fun _ => .check (ignores_failFrom _ _) fun _ => ignores_pure _

theorem ignores_skipLine (fuel : Nat) : Ignores g (skipLine fuel) := by
  induction fuel with
  | zero => exact ignores_pure _
  | succ fuel ih =>
    refine ignores_take.bind fun next => ?_
    split
    · exact ignores_pure _
    · exact .ite (fun _ => ignores_pure _) fun _ => ih

/-! ## Openings -/

def knownFlags : PatternFlags := 512

/-- Under any flags a reader fails alike, or it yields the same and adds the same known flags. -/
def Uniform (x : Reader α) (r : Reading) : Prop :=
  (∃ failure, ∀ g, x.run { r with flags := g } = .error failure) ∨
    ∃ (a : α) (now : Reading) (add : PatternFlags), add < knownFlags ∧ ∀ g : PatternFlags,
      x.run { r with flags := g } = .ok (a, { now with flags := g.union add })

theorem union_zero (g : PatternFlags) : g.union 0 = g := Nat.or_zero g

theorem union_known {flags more : PatternFlags} (h : flags < knownFlags) (h' : more < knownFlags) :
    flags.union more < knownFlags :=
  Nat.or_lt_two_pow (n := 9) h h'

theorem union_assoc (g add more : PatternFlags) : (g.union add).union more = g.union (add.union more) :=
  Nat.or_assoc g add more

namespace Uniform

variable {x : Reader α} {r : Reading}

theorem of_ignores (h : ∀ g, Ignores g x) (r : Reading) : Uniform x r := by
  cases result : x.run r with
  | error failure => exact Or.inl ⟨failure, fun g => by rw [h g r, result]; rfl⟩
  | ok found => exact Or.inr ⟨found.1, found.2, 0, by decide, fun g => by rw [h g r, result, union_zero]; rfl⟩

theorem bind_found {f : α → Reader β} (first : Uniform x r)
    (next : ∀ a r' now', x.run r' = .ok (a, now') → ∀ now, Uniform (f a) now) : Uniform (x >>= f) r := by
  obtain ⟨failure, failed⟩ | ⟨a, now, add, known, found⟩ := first
  · exact Or.inl ⟨failure, fun g => run_bind_of_error (failed g) f⟩
  · obtain ⟨failure, failed⟩ | ⟨b, last, more, known', found'⟩ := next a _ _ (found 0) now
    · exact Or.inl ⟨failure, fun g => (run_bind_of_ok (found g) f).trans (failed _)⟩
    · refine Or.inr ⟨b, last, add.union more, union_known known known', fun g => ?_⟩
      rw [run_bind_of_ok (found g), found', union_assoc]

theorem bind {f : α → Reader β} (first : Uniform x r) (next : ∀ a now, Uniform (f a) now) : Uniform (x >>= f) r :=
  first.bind_found fun a _ _ _ => next a

theorem after {f : α → Reader β} (first : ∀ g, Ignores g x) (next : ∀ a now, Uniform (f a) now) : Uniform (x >>= f) r :=
  bind (.of_ignores first r) next

theorem ite {c : Prop} [Decidable c] {y : Reader α} (yes : c → Uniform x r) (no : ¬c → Uniform y r) :
    Uniform (if c then x else y) r := by
  split
  · rename_i h
    exact yes h
  · rename_i h
    exact no h

theorem get_bind {f : Reading → Reader β} (same : ∀ g : PatternFlags, f { r with flags := g } = f r)
    (next : Uniform (f r) r) : Uniform (get >>= f) r := by
  have run (g : PatternFlags) : (get >>= f).run { r with flags := g } = (f r).run { r with flags := g } := by
    rw [← same g]
    rfl
  simpa only [Uniform, run] using next

theorem ignores (h : ∀ r, Uniform x r) (kept : ∀ text flags, Keeps text flags x) : Ignores g x := by
  intro r
  obtain ⟨failure, failed⟩ | ⟨a, now, add, -, found⟩ := h r
  · rw [failed g, show x.run r = .error failure from failed r.flags]
    rfl
  · have none : add = 0 := by
      have same : (0 : PatternFlags).union add = 0 := (within_of_keeps kept (found 0)).flags
      exact (Nat.zero_or add).symm.trans same
    subst none
    rw [found g, show x.run r = _ from found r.flags, union_zero]
    rfl

end Uniform

theorem known_of_unitFlag? {unit : Text} {flag : PatternFlags} (h : unitFlag? unit = some flag) : flag < knownFlags := by
  obtain ⟨c, rfl, -⟩ := exists_of_unitFlag? h
  change flag? c = some flag at h
  unfold flag? at h
  split at h
  case h_9 => cases h
  all_goals
    obtain rfl := Option.some.inj h
    decide

theorem ends_flagsToSet_known (fuel : Nat) {flag read : PatternFlags} (first : flag < knownFlags) (before : read < knownFlags)
    (r : Reading) : Ends (fun found _ => found.1 < knownFlags) (flagsToSet fuel flag read) r := by
  induction fuel generalizing flag read r with
  | zero => exact .fails (fails_failBack _ _)
  | succ fuel ih =>
    have both := union_known before first
    unfold flagsToSet
    refine .check (fails_failBack _ _) ?_
    refine .check (fails_failBack _ _) (.bind fun found between _ => ?_)
    split
    · exact .fails (fails_failBack _ _)
    · exact .pure both
    · exact .pure both
    · exact .pure both
    · split
      · rename_i next
        exact ih (known_of_unitFlag? next) both between
      · exact .fails (fails_failBack _ _)

theorem uniform_groupFlags (unit : Text) (r : Reading) : Uniform (groupFlags unit) r := by
  refine .get_bind (fun _ => rfl) ?_
  extract_lets fuel afterAdd
  have added {both : PatternFlags × Char} (known : both.1 < knownFlags) (now : Reading) : Uniform (afterAdd both) now := by
    obtain ⟨add, ending⟩ := both
    refine .ite (fun _ => Or.inr ⟨none, now, add, known, fun _ => rfl⟩) fun _ => .of_ignores (fun g => ?_) now
    refine .check (ignores_failBack _ _) fun _ => ?_
    extract_lets afterRemove
    have removed (remove : PatternFlags) : Ignores g (afterRemove remove) :=
      .check (ignores_failBack _ _) fun _ => .check (ignores_failBack _ _) fun _ => ignores_pure _
    refine .ite (fun _ => ?_) fun _ => (ignores_pure _).bind removed
    refine ignores_take.bind fun next => ?_
    split
    · exact (ignores_failBack _ _).bind removed
    · split
      · exact (ignores_flagsToClear _ _ _).bind removed
      · exact (ignores_failBack _ _).bind removed
  split
  · rename_i flag isFlag
    refine .bind_found (.of_ignores (fun _ => ignores_flagsToSet _ _ _) r) fun both r' now' ended => added ?_
    exact ends_flagsToSet_known _ (known_of_unitFlag? isFlag) (by decide) r' ended
  · exact added (show ((0, '-') : PatternFlags × Char).1 < knownFlags by decide) r

theorem uniform_specialOpening (start : Nat) (first : Bool) (r : Reading) : Uniform (specialOpening start first) r := by
  refine .bind (.of_ignores (fun _ => ignores_take) r) fun next now => ?_
  split
  · exact .of_ignores (fun _ => ignores_failBack _ _) now
  · exact .of_ignores (fun _ => ignores_namedOpening) now
  · exact .of_ignores (fun _ => ignores_pure _) now
  · refine .of_ignores (fun _ => .get_bind (fun _ => rfl) fun _ => (ignores_skipComment _ _).bind fun _ => ?_) now
    exact ignores_pure _
  · exact .of_ignores (fun _ => ignores_pure _) now
  · exact .of_ignores (fun _ => ignores_pure _) now
  · exact .of_ignores (fun _ => ignores_behindOpening) now
  · exact .of_ignores (fun _ => ignores_conditionGroup.bind fun _ => ignores_pure _) now
  · exact .of_ignores (fun _ => ignores_pure _) now
  · rename_i unit _ _ _ _ _ _ _ _
    refine .ite (fun _ => (uniform_groupFlags unit now).bind fun both last => ?_) fun _ => ?_
    · split
      · exact .of_ignores (fun _ => ignores_pure _) last
      · exact .of_ignores (fun _ => .check (ignores_failFrom _ _) fun _ => ignores_pure _) last
    · exact .of_ignores (fun _ => ignores_failBack _ _) now

/-! ## Sequences -/

theorem uniform_readers (fuel : Nat) :
    (∀ verbose r, Uniform (alternatives fuel verbose false false) r) ∧
      ∀ verbose first done r, verbose = true ∨ (first && done.isEmpty) = false →
        Uniform (sequence fuel verbose first done) r := by
  induction fuel with
  | zero =>
    exact ⟨fun _ => .of_ignores fun _ => ignores_pure _, fun _ _ _ r _ => .of_ignores (fun _ => ignores_pure _) r⟩
  | succ fuel ih =>
    obtain ⟨ofAlternatives, ofSequence⟩ := ih
    have done {item : Item} (now : Reading) : Uniform (pure item) now := .of_ignores (fun _ => ignores_pure _) now
    constructor
    · intro verbose r
      refine (ofSequence _ _ _ r (.inr rfl)).bind fun item now => .after (fun _ => ignores_accept _) fun more now => ?_
      refine .ite (fun _ => ?_) fun _ => done now
      exact .get_bind (fun _ => rfl) ((ofAlternatives _ now).bind fun _ => done)
    · intro verbose first items r later
      have same (now : Reading) : Uniform (sequence fuel verbose first items) now := ofSequence _ _ _ now later
      have more (item : Item) (now : Reading) : Uniform (sequence fuel verbose first (item :: items)) now :=
        ofSequence _ _ _ now (.inr (by simp))
      unfold sequence
      refine .after (fun _ => ignores_peek) fun next now => ?_
      split
      · exact done now
      · exact done now
      · exact done now
      refine .after (fun _ => ignores_position) fun start now => .after (fun _ => ignores_take) fun _ now => ?_
      split
      · exact .after (fun _ => ignores_escape _) more
      · refine .ite (fun _ => same now) fun _ => .ite (fun _ => ?_) fun _ => ?_
        · exact .get_bind (fun _ => rfl) (.after (fun _ => ignores_skipLine _) fun _ => same)
        have repeated (min : Nat) (max : Option Nat) (now : Reading) : Uniform (do
            sequence fuel verbose first (← repeatLast start items min max) : Reader Item) now := by
          refine .bind_found (.of_ignores (fun _ => ignores_repeatLast _ _ _ _) now) fun read r' now' ended now => ?_
          refine ofSequence _ _ _ now (.inr ?_)
          rw [List.isEmpty_eq_false_iff.2 (ends_repeatLast _ _ _ _ _ ended), Bool.and_false]
        split
        · exact .after (fun _ => ignores_charSet) fun _ => more _
        · exact more _ now
        · exact more _ now
        · exact more _ now
        · exact repeated _ _ now
        · exact repeated _ _ now
        · exact repeated _ _ now
        · refine .after (fun _ => ignores_braces) fun bounds now => ?_
          split
          · exact repeated _ _ now
          · exact more _ now
        · refine .after (fun _ => ignores_accept _) fun special now => ?_
          extract_lets afterOpening
          have opened (opening : Opening) (now : Reading) : Uniform (afterOpening opening) now := by
            have closed (item : Item) (now : Reading) : Uniform (do
                closing start
                sequence fuel verbose first (item :: items) : Reader Item) now :=
              .after (fun _ => ignores_closing _) fun _ => more _
            cases opening with
            | nothing =>
              refine .get_bind (fun g => ?_) (ofSequence _ _ _ now ?_)
              all_goals rcases later with verbose | later
              · rw [verbose]
                rfl
              · dsimp only
                rw [later]
                rfl
              · exact .inl (by rw [verbose]; rfl)
              · exact .inr later
            | item item => exact more _ now
            | group name =>
              refine .after (fun _ => ignores_openGroup _) fun index now => (ofAlternatives _ now).bind fun body _ => ?_
              exact .after (fun _ => ignores_closing _) fun _ _ => .after (fun _ => ignores_closeGroup _ _) fun _ => more _
            | flags add remove => exact (ofAlternatives _ now).bind fun body => closed _
            | atomic => exact (ofAlternatives _ now).bind fun body => closed _
            | lookahead negative => exact (ofAlternatives _ now).bind fun body => closed _
            | lookbehind negative =>
              refine .get_bind (fun _ => rfl) (.after (fun _ => ignores_modify fun _ => rfl) fun _ now => ?_)
              exact (ofAlternatives _ now).bind fun body _ => .after (fun _ => ignores_modify fun _ => rfl) fun _ => closed _
            | conditional index =>
              refine (ofSequence _ _ _ now (.inr rfl)).bind fun yes now => .after (fun _ => ignores_accept _) fun two now => ?_
              refine .ite (fun _ => ?_) fun _ => .after (fun _ => ignores_pure _) fun _ => closed _
              refine (ofSequence _ _ _ now (.inr rfl)).bind fun no now => .after (fun _ => ignores_peek) fun next now => ?_
              refine .ite (fun _ => ?_) fun _ => .after (fun _ => ignores_pure _) fun _ => closed _
              exact .after (fun _ => ignores_failBack _ _) fun _ _ => .after (fun _ => ignores_pure _) fun _ => closed _
          refine .ite (fun _ => ?_) fun _ => .after (fun _ => ignores_pure _) opened
          exact (uniform_specialOpening start _ now).bind opened
        · exact more _ now
      · exact same now

theorem ignores_sequence (fuel : Nat) (verbose : Bool) (done : List Item) : Ignores g (sequence fuel verbose false done) :=
  Uniform.ignores (fun r => (uniform_readers fuel).2 _ _ _ r (.inr rfl)) fun _ _ => (keeps_readers fuel).2 _ _ _ rfl

theorem ignores_alternatives (fuel : Nat) (verbose : Bool) : Ignores g (alternatives fuel verbose false false) :=
  Uniform.ignores ((uniform_readers fuel).1 verbose) fun _ _ => (keeps_readers fuel).1 _ _

end LexGen.Pattern
