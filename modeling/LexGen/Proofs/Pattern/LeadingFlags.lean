import LexGen.Proofs.Pattern.Reading

/-!
# Flags at the beginning of a pattern

Flags for the whole pattern are read at its beginning only, where nothing but comments may come before them. There the
reader changes them, and anywhere else it refuses them. So the beginning of a pattern makes no difference unless it
sets flags.

* `refuses_sequence`: flags for the whole pattern are refused where it does not begin.
* `run_sequence_first`: a pattern that does not set flags is read alike at its beginning and elsewhere.
-/

namespace LexGen.Pattern

variable {α β : Type}

/-- Units from the beginning of a pattern up to the end of flags for all of it. -/
inductive FlagsAhead : List Text → Prop
  | flags {letters : Text} (nonempty : letters ≠ []) (known : ∀ c ∈ letters, (flag? c).isSome = true) :
    FlagsAhead (['('] :: ['?'] :: (letters.map ([·]) ++ [[')']]))
  | comment {inside lead : List Text} (still : [')'] ∉ inside) (after : FlagsAhead lead) :
    FlagsAhead (['('] :: ['?'] :: ['#'] :: (inside ++ [')'] :: lead))

/-- A pattern begins with flags for all of it. Comments may come before them. -/
def SetsFlags (text : Text) : Prop := ∃ lead, FlagsAhead lead ∧ lead <+: units text

def LettersAhead (text : Text) : Prop :=
  ∃ letters : Text, letters ≠ [] ∧ (∀ c ∈ letters, (flag? c).isSome = true) ∧ letters.map ([·]) ++ [[')']] <+: units text

theorem SetsFlags.of_letters {text rest : Text} (opens : units text = ['('] :: ['?'] :: units rest)
    (letters : LettersAhead rest) : SetsFlags text := by
  obtain ⟨letters, nonempty, known, ahead⟩ := letters
  refine ⟨_, .flags nonempty known, ?_⟩
  rw [opens]
  exact (List.prefix_cons_inj _).2 ((List.prefix_cons_inj _).2 ahead)

theorem SetsFlags.of_comment {text rest : Text} {inside : List Text} (still : [')'] ∉ inside)
    (opens : units text = ['('] :: ['?'] :: ['#'] :: (inside ++ [')'] :: units rest)) (after : SetsFlags rest) :
    SetsFlags text := by
  obtain ⟨lead, ahead, before⟩ := after
  refine ⟨_, .comment still ahead, ?_⟩
  obtain ⟨more, rest⟩ := before
  exact ⟨more, by simp [opens, ← rest]⟩

/-! ## Where flags are refused -/

/-- What a reader yields at a position, unless it says that the text is not well formed. -/
def Yields (Q : α → Reading → Prop) (x : Reader α) (r : Reading) : Prop :=
  match x.run r with
  | .ok (a, now) => Q a now
  | .error failure => ∃ message position, failure = .malformed message position

abbrev Refuses (x : Reader α) (r : Reading) : Prop := Yields (fun _ _ => False) x r

namespace Yields

variable {Q : α → Reading → Prop} {R : β → Reading → Prop} {r : Reading}

theorem mono {Q' : α → Reading → Prop} {x : Reader α} (h : Yields Q x r) (le : ∀ a now, Q a now → Q' a now) :
    Yields Q' x r := by
  unfold Yields at h ⊢
  split at h
  · exact le _ _ h
  · exact h

theorem bind {x : Reader α} {f : α → Reader β} (first : Yields Q x r) (next : ∀ a now, Q a now → Yields R (f a) now) :
    Yields R (x >>= f) r := by
  unfold Yields at first
  unfold Yields
  rw [StateT.run_bind]
  generalize x.run r = result at first
  cases result with
  | error failure => exact first
  | ok found => exact next found.1 found.2 first

theorem bind_refused {x : Reader α} {f : α → Reader β} (first : Refuses x r) : Yields R (x >>= f) r :=
  first.bind fun _ _ impossible => impossible.elim

theorem ite {c : Prop} [Decidable c] {x y : Reader α} (yes : c → Yields Q x r) (no : ¬c → Yields Q y r) :
    Yields Q (if c then x else y) r := by
  split
  · rename_i h
    exact yes h
  · rename_i h
    exact no h

theorem check {c : Prop} [Decidable c] {refusal : Reader PUnit} {f : PUnit → Reader β} (refused : Refuses refusal r)
    (next : Yields R (f ⟨⟩) r) : Yields R (if c then refusal >>= f else f ⟨⟩) r :=
  .ite (fun _ => bind_refused refused) fun _ => next

end Yields

theorem refuses_failFrom {r : Reading} (message : String) (start : Nat) : Refuses (failFrom message start : Reader α) r :=
  ⟨message, start, rfl⟩

theorem refuses_failBack {r : Reading} (message : String) (back : Nat) : Refuses (failBack message back : Reader α) r :=
  ⟨message, r.total - r.rest.length - back, rfl⟩

theorem Refuses.yields {Q : α → Reading → Prop} {x : Reader α} {r : Reading} (h : Refuses x r) : Yields Q x r :=
  h.mono fun _ _ impossible => impossible.elim

theorem yields_peek {r : Reading} {unit : Text} {more : List Text} (next : units r.rest = unit :: more) :
    Yields (fun found now => found = some unit ∧ now = r) peek r :=
  ⟨(unit?_of_units next).1, rfl⟩

theorem yields_take {r : Reading} {unit : Text} {more : List Text} (next : units r.rest = unit :: more) :
    Yields (fun found now => found = some unit ∧ units now.rest = more) take r := by
  obtain ⟨found, rest⟩ := unit?_of_units next
  unfold Yields
  rw [take_run, found]
  dsimp only
  split
  · rename_i h
    split at h
    · cases h
    · obtain ⟨rfl, rfl⟩ := Prod.mk.inj (Except.ok.inj h)
      exact ⟨rfl, rest⟩
  · rename_i h
    split at h
    · obtain rfl := Except.error.inj h
      exact ⟨_, _, rfl⟩
    · cases h

theorem yields_accept {r : Reading} {c : Char} {more : List Text} (next : units r.rest = [c] :: more) :
    Yields (fun ok now => ok = true ∧ units now.rest = more) (accept c) r := by
  refine (yields_peek next).bind fun found now h => ?_
  obtain ⟨same, still⟩ := h
  subst same still
  rw [if_pos rfl]
  exact (yields_take next).bind fun _ _ taken => ⟨rfl, taken.2⟩

theorem yields_skipComment {r : Reading} {inside more : List Text} (start fuel : Nat)
    (next : units r.rest = inside ++ [')'] :: more) (still : [')'] ∉ inside) :
    Yields (fun _ now => units now.rest = more) (skipComment start fuel) r := by
  induction fuel generalizing inside r with
  | zero => exact (refuses_failFrom _ _).yields
  | succ fuel ih =>
    cases inside with
    | nil =>
      refine (yields_take next).bind fun found now h => ?_
      obtain ⟨same, rest⟩ := h
      subst same
      exact rest
    | cons unit inside =>
      refine (yields_take next).bind fun found now h => ?_
      obtain ⟨same, rest⟩ := h
      subst same
      obtain ⟨other, still⟩ := not_or.1 (mt List.mem_cons.2 still)
      dsimp only
      rw [if_neg (Ne.symm other)]
      exact ih rest still

theorem ne_of_flag {c d : Char} (first : (flag? c).isSome = true) (none : flag? d = none) : c ≠ d := by
  rintro rfl
  rw [none] at first
  cases first

theorem yields_flagsToSet {r : Reading} {letters : Text} {more : List Text} (fuel : Nat) (flag read : PatternFlags)
    (next : units r.rest = letters.map ([·]) ++ [')'] :: more) (known : ∀ c ∈ letters, (flag? c).isSome = true) :
    Yields (fun found _ => found.2 = ')') (flagsToSet fuel flag read) r := by
  induction fuel generalizing letters r flag read with
  | zero => exact (refuses_failBack _ _).yields
  | succ fuel ih =>
    unfold flagsToSet
    refine .check (refuses_failBack _ _) ?_
    refine .check (refuses_failBack _ _) ?_
    cases letters with
    | nil =>
      refine (yields_take next).bind fun found now h => ?_
      obtain ⟨same, rest⟩ := h
      subst same
      rfl
    | cons c letters =>
      refine (yields_take next).bind fun found now h => ?_
      obtain ⟨same, rest⟩ := h
      subst same
      obtain ⟨first, known⟩ := List.forall_mem_cons.1 known
      obtain ⟨flag, isFlag⟩ := Option.isSome_iff_exists.1 first
      split
      · exact (refuses_failBack _ _).yields
      · rfl
      · rename_i same
        exact absurd (List.cons.inj (Option.some.inj same)).1 (ne_of_flag first rfl)
      · rename_i same
        exact absurd (List.cons.inj (Option.some.inj same)).1 (ne_of_flag first rfl)
      · rename_i unit _ _ _ same
        obtain rfl := Option.some.inj same
        rw [show unitFlag? [c] = some flag from isFlag]
        exact ih _ _ rest known

theorem yields_groupFlags {r : Reading} {c : Char} {letters : Text} {more : List Text}
    (isFlag : (flag? c).isSome = true) (next : units r.rest = letters.map ([·]) ++ [')'] :: more)
    (known : ∀ c ∈ letters, (flag? c).isSome = true) :
    Yields (fun found _ => found = none) (groupFlags [c]) r := by
  obtain ⟨flag, isFlag⟩ := Option.isSome_iff_exists.1 isFlag
  unfold groupFlags
  rw [show unitFlag? [c] = some flag from isFlag]
  refine Yields.bind (Q := fun a now => a = r ∧ now = r) ⟨rfl, rfl⟩ fun a now h => ?_
  obtain ⟨same, still⟩ := h
  subst same still
  refine (yields_flagsToSet _ _ _ next known).bind fun found now ends => ?_
  obtain ⟨add, ending⟩ := found
  obtain rfl : ending = ')' := ends
  rfl

theorem yields_specialOpening_flags {r : Reading} {letters : Text} {more : List Text} (start : Nat) (nonempty : letters ≠ [])
    (known : ∀ c ∈ letters, (flag? c).isSome = true) (next : units r.rest = letters.map ([·]) ++ [')'] :: more)
    (first : Bool) : Yields (fun opening _ => opening = .nothing ∧ first = true) (specialOpening start first) r := by
  obtain ⟨c, letters, rfl⟩ := List.exists_cons_of_ne_nil nonempty
  obtain ⟨isFlag, known⟩ := List.forall_mem_cons.1 known
  refine (yields_take next).bind fun found now h => ?_
  obtain ⟨same, rest⟩ := h
  subst same
  -- the other openings begin with characters that are no flags
  have other {d : Char} (same : some [c] = some [d]) (none : flag? d = none) : False :=
    ne_of_flag isFlag none (List.cons.inj (Option.some.inj same)).1
  split
  · exact (refuses_failBack _ _).yields
  all_goals try exact (other ‹_› rfl).elim
  rename_i unit _ _ _ _ _ _ _ _ same
  obtain rfl := Option.some.inj same
  rw [if_pos (by simp [unitFlag?, isFlag])]
  refine (yields_groupFlags isFlag rest known).bind fun found now none => ?_
  subst none
  cases first with
  | true => exact ⟨rfl, rfl⟩
  | false => exact (refuses_failFrom _ _).yields

theorem refuses_specialOpening {r : Reading} {letters : Text} {more : List Text} (start : Nat) (nonempty : letters ≠ [])
    (known : ∀ c ∈ letters, (flag? c).isSome = true) (next : units r.rest = letters.map ([·]) ++ [')'] :: more) :
    Refuses (specialOpening start false) r :=
  (yields_specialOpening_flags start nonempty known next false).mono fun _ _ yielded => Bool.false_ne_true yielded.2

theorem yields_specialOpening_comment {r : Reading} {inside more : List Text} (start : Nat) (still : [')'] ∉ inside)
    (next : units r.rest = ['#'] :: (inside ++ [')'] :: more)) (first : Bool) :
    Yields (fun opening now => opening = .nothing ∧ units now.rest = more) (specialOpening start first) r := by
  refine (yields_take next).bind fun found now h => ?_
  obtain ⟨same, rest⟩ := h
  subst same
  refine Yields.bind (Q := fun a between => a = now ∧ between = now) ⟨rfl, rfl⟩ fun a between h => ?_
  obtain ⟨same, same'⟩ := h
  subst same same'
  exact (yields_skipComment _ _ rest still).bind fun _ _ rest => ⟨rfl, rest⟩

theorem refuses_sequence_opening [CharacterNames] {Q : Reading → Prop} {fuel : Nat} {verbose : Bool} {done : List Item} {r : Reading}
    {more : List Text} (next : units r.rest = ['('] :: ['?'] :: more)
    (opens : ∀ start now, units now.rest = more →
      Yields (fun opening now => opening = .nothing ∧ Q now) (specialOpening start false) now)
    (later : ∀ now, Q now → Refuses (sequence fuel verbose false done) now) :
    Refuses (sequence (fuel + 1) verbose false done) r := by
  unfold sequence
  refine (yields_peek next).bind fun found now h => ?_
  obtain ⟨same, still⟩ := h
  subst same still
  refine Yields.bind (Q := fun _ between => between = now) rfl fun start between same => ?_
  subst same
  refine (yields_take next).bind fun found now h => ?_
  obtain ⟨same, rest⟩ := h
  have counts : (verbose && isLayout '(') = false := by cases verbose <;> decide
  refine .ite (fun layout => absurd (counts.symm.trans layout) Bool.false_ne_true) fun _ => ?_
  refine .ite (fun comment => by simp at comment) fun _ => ?_
  refine (yields_accept rest).bind fun ok now h => ?_
  obtain ⟨same, rest⟩ := h
  subst same
  rw [if_pos rfl]
  refine (opens start now rest).bind fun opening now h => ?_
  obtain ⟨same, rest⟩ := h
  subst same
  refine Yields.bind (Q := fun a between => between = now) rfl fun a between same => ?_
  subst same
  simpa using later between rest

theorem refuses_sequence [CharacterNames] {lead : List Text} (ahead : FlagsAhead lead) {fuel : Nat} {r : Reading}
    (enough : lead.length ≤ fuel) (next : lead <+: units r.rest) (verbose : Bool) (done : List Item) :
    Refuses (sequence fuel verbose false done) r := by
  induction ahead generalizing fuel r with
  | @flags letters nonempty known =>
    obtain ⟨fuel, rfl⟩ : ∃ k, fuel = k + 1 := ⟨fuel - 1, by simp at enough; omega⟩
    obtain ⟨more, next⟩ := next
    have opens : units r.rest = ['('] :: ['?'] :: (letters.map ([·]) ++ [')'] :: more) := by simp [← next]
    refine refuses_sequence_opening (Q := fun _ => False) opens (fun start now rest => ?_)
      fun _ impossible => impossible.elim
    exact (refuses_specialOpening start nonempty known rest).yields
  | @comment inside lead still after ih =>
    obtain ⟨fuel, rfl⟩ : ∃ k, fuel = k + 1 := ⟨fuel - 1, by simp at enough; omega⟩
    obtain ⟨more, next⟩ := next
    have opens : units r.rest = ['('] :: ['?'] :: ['#'] :: (inside ++ [')'] :: (lead ++ more)) := by simp [← next]
    refine refuses_sequence_opening (Q := fun now => units now.rest = lead ++ more) opens
      (fun start now rest => yields_specialOpening_comment start still rest false) fun now rest => ?_
    exact ih (by simp at enough; omega) ⟨more, rest.symm⟩

/-! ## Where flags are read -/

theorem run_bind_eq {x : Reader α} {f g : α → Reader β} {r : Reading}
    (same : ∀ a now, x.run r = .ok (a, now) → (f a).run now = (g a).run now) : (x >>= f).run r = (x >>= g).run r := by
  rw [StateT.run_bind, StateT.run_bind]
  cases result : x.run r with
  | error failure => rfl
  | ok found => exact same found.1 found.2 result

theorem found_of_take {r now : Reading} {found : Option Text} (h : take.run r = .ok (found, now)) :
    unit? r.rest = found := by
  rw [take_run] at h
  split at h
  · rename_i none
    obtain ⟨rfl, -⟩ := Prod.mk.inj (Except.ok.inj h)
    exact none
  · rename_i unit next
    split at h
    · cases h
    · obtain ⟨rfl, -⟩ := Prod.mk.inj (Except.ok.inj h)
      exact next

theorem units_of_take {r now : Reading} {unit : Text} (h : take.run r = .ok (some unit, now)) :
    units r.rest = unit :: units now.rest := by
  have next := found_of_take h
  rw [units_of_unit? next, rest_of_take next h]

def Ends (P : α → Reading → Prop) (x : Reader α) (r : Reading) : Prop := ∀ ⦃a now⦄, x.run r = .ok (a, now) → P a now

namespace Ends

variable {P : β → Reading → Prop} {r : Reading}

theorem bind {x : Reader α} {f : α → Reader β} (next : ∀ a now, x.run r = .ok (a, now) → Ends P (f a) now) :
    Ends P (x >>= f) r := by
  intro b now h
  obtain ⟨a, between, first, h⟩ := ok_of_run_bind h
  exact next a between first h

theorem get_bind {f : Reading → Reader β} (next : Ends P (f r) r) : Ends P (get >>= f) r := fun _ _ h => next h

theorem pure {b : β} (h : P b r) : Ends P (pure b) r := by
  intro a now ended
  obtain ⟨rfl, rfl⟩ := Prod.mk.inj (Except.ok.inj ended)
  exact h

theorem pure_bind {a : α} {f : α → Reader β} (next : Ends P (f a) r) : Ends P (Pure.pure a >>= f) r := fun _ _ h => next h

theorem fails {x : Reader β} (h : Fails x) : Ends P x r := by
  intro a now ended
  obtain ⟨failure, failed⟩ := h r
  exact nomatch failed.symm.trans ended

theorem ite {c : Prop} [Decidable c] {x y : Reader β} (yes : c → Ends P x r) (no : ¬c → Ends P y r) :
    Ends P (if c then x else y) r := by
  split
  · rename_i h
    exact yes h
  · rename_i h
    exact no h

theorem check {c : Prop} [Decidable c] {refusal : Reader PUnit} {f : PUnit → Reader β} (refused : Fails refusal)
    (next : Ends P (f ⟨⟩) r) : Ends P (if c then refusal >>= f else f ⟨⟩) r :=
  .ite (fun _ => .fails (refused.bind f)) fun _ => next

end Ends

theorem exists_of_unitFlag? {unit : Text} {flag : PatternFlags} (h : unitFlag? unit = some flag) :
    ∃ c, unit = [c] ∧ (flag? c).isSome = true := by
  unfold unitFlag? at h
  split at h
  · exact ⟨_, rfl, Option.isSome_of_eq_some h⟩
  · cases h

theorem ends_flagsToSet (fuel : Nat) (flag read : PatternFlags) (r : Reading) :
    Ends (fun found _ => found.2 = ')' → ∃ letters : Text, (∀ c ∈ letters, (flag? c).isSome = true) ∧
      letters.map ([·]) ++ [[')']] <+: units r.rest) (flagsToSet fuel flag read) r := by
  induction fuel generalizing flag read r with
  | zero => exact .fails (fails_failBack _ _)
  | succ fuel ih =>
    unfold flagsToSet
    refine .check (fails_failBack _ _) ?_
    refine .check (fails_failBack _ _) (.bind fun found between took => ?_)
    split
    · exact .fails (fails_failBack _ _)
    · exact .pure fun _ => ⟨[], by simp, units between.rest, by simp [units_of_take took]⟩
    · exact .pure fun last => absurd last (by simp)
    · exact .pure fun last => absurd last (by simp)
    · rename_i unit _ _ _
      split
      · rename_i flag isFlag
        intro found now ended last
        obtain ⟨letters, known, ahead⟩ := ih _ _ _ ended last
        obtain ⟨c, rfl, first⟩ := exists_of_unitFlag? isFlag
        refine ⟨c :: letters, List.forall_mem_cons.2 ⟨first, known⟩, ?_⟩
        rw [units_of_take took]
        exact (List.prefix_cons_inj _).2 ahead
      · exact .fails (fails_failBack _ _)

theorem ends_groupFlags (unit : Text) (r : Reading) :
    Ends (fun found _ => found = none → ∃ (c : Char) (letters : Text), unit = [c] ∧
      (∀ d ∈ c :: letters, (flag? d).isSome = true) ∧ letters.map ([·]) ++ [[')']] <+: units r.rest)
      (groupFlags unit) r := by
  refine .get_bind ?_
  extract_lets fuel afterAdd
  have group {both : PatternFlags × Char} (other : both.2 ≠ ')') (now : Reading) :
      Ends (fun found _ => found.isSome = true) (afterAdd both) now := by
    obtain ⟨add, ending⟩ := both
    refine .ite (fun ends => absurd ends other) fun _ => ?_
    refine .check (fails_failBack _ _) ?_
    extract_lets afterRemove
    have removed (remove : PatternFlags) (now : Reading) :
        Ends (fun found _ => found.isSome = true) (afterRemove remove) now := by
      refine .check (fails_failBack _ _) ?_
      exact .check (fails_failBack _ _) (.pure rfl)
    refine .ite (fun _ => ?_) fun _ => .pure_bind (removed 0 now)
    refine .bind fun next between _ => ?_
    split
    · exact .fails ((fails_failBack _ _).bind _)
    · split
      · exact .bind fun remove after _ => removed remove after
      · exact .fails ((fails_failBack _ _).bind _)
  split
  · rename_i flag isFlag
    refine .bind fun both between read => ?_
    intro found now ended absent
    by_cases ends : both.2 = ')'
    · obtain ⟨letters, known, ahead⟩ := ends_flagsToSet _ _ _ r read ends
      obtain ⟨c, rfl, first⟩ := exists_of_unitFlag? isFlag
      exact ⟨c, letters, rfl, List.forall_mem_cons.2 ⟨first, known⟩, ahead⟩
    · subst absent
      cases group ends between ended
  · refine .pure_bind fun found now ended absent => ?_
    subst absent
    cases group (show (0, '-').2 ≠ ')' by decide) r ended

theorem ends_skipComment (start fuel : Nat) (r : Reading) :
    Ends (fun _ now => ∃ inside, [')'] ∉ inside ∧ units r.rest = inside ++ [')'] :: units now.rest)
      (skipComment start fuel) r := by
  induction fuel generalizing r with
  | zero => exact .fails (fails_failFrom _ _)
  | succ fuel ih =>
    refine .bind fun found between took => ?_
    split
    · exact .fails (fails_failFrom _ _)
    · rename_i unit
      refine .ite (fun last => .pure ?_) fun other => ?_
      · exact ⟨[], List.not_mem_nil, by rw [units_of_take took, last]; rfl⟩
      · intro u now ended
        obtain ⟨inside, still, rest⟩ := ih between ended
        exact ⟨unit :: inside, List.not_mem_cons_of_ne_of_not_mem (Ne.symm other) still, by
          rw [units_of_take took, rest]; rfl⟩

theorem ends_namedOpening (r : Reading) : Ends (fun opening _ => opening ≠ .nothing) namedOpening r := by
  refine .bind fun opened now _ => .ite (fun _ => ?_) fun _ => .bind fun referring now _ => .ite (fun _ => ?_) fun _ => ?_
  · exact .get_bind (.bind fun name _ _ => .bind fun _ _ _ => .pure nofun)
  · refine .get_bind (.bind fun name _ _ => .bind fun _ now _ => .get_bind ?_)
    split
    · exact .fails (fails_failBack _ _)
    · exact .bind fun _ _ _ => .pure nofun
  · refine .bind fun found _ _ => ?_
    split <;> exact .fails (fails_failBack _ _)

theorem ends_behindOpening (r : Reading) : Ends (fun opening _ => opening ≠ .nothing) behindOpening r := by
  refine .bind fun found _ _ => ?_
  split
  · exact .fails (fails_failBack _ _)
  · exact .pure nofun
  · exact .pure nofun
  · exact .fails (fails_failBack _ _)

theorem ends_specialOpening (start : Nat) (first : Bool) (r : Reading) :
    Ends (fun opening now => opening = .nothing →
      (∃ inside, [')'] ∉ inside ∧ units r.rest = ['#'] :: (inside ++ [')'] :: units now.rest)) ∨ LettersAhead r.rest)
      (specialOpening start first) r := by
  refine .bind fun found between took => ?_
  split
  · exact .fails (fails_failBack _ _)
  · exact fun opening now ended nothing => absurd nothing (ends_namedOpening between ended)
  · exact .pure nofun
  · refine .get_bind (.bind fun _ now skipped => .pure fun _ => .inl ?_)
    obtain ⟨inside, still, rest⟩ := ends_skipComment _ _ _ skipped
    exact ⟨inside, still, by rw [units_of_take took, rest]⟩
  · exact .pure nofun
  · exact .pure nofun
  · exact fun opening now ended nothing => absurd nothing (ends_behindOpening between ended)
  · exact .bind fun _ _ _ => .pure nofun
  · exact .pure nofun
  · rename_i unit _ _ _ _ _ _ _ _
    refine .ite (fun _ => .bind fun both after read => ?_) fun _ => .fails (fails_failBack _ _)
    split
    · exact .pure nofun
    · obtain ⟨c, letters, rfl, known, ahead⟩ := ends_groupFlags _ _ read rfl
      have letters : LettersAhead r.rest := by
        refine ⟨c :: letters, by simp, known, ?_⟩
        rw [units_of_take took]
        exact (List.prefix_cons_inj _).2 ahead
      exact .check (fails_failFrom _ _) (.pure fun _ => .inr letters)

theorem run_specialOpening_first {r : Reading} (start : Nat) (unset : ¬LettersAhead r.rest) :
    (specialOpening start true).run r = (specialOpening start false).run r := by
  refine run_bind_eq fun found between took => ?_
  split
  all_goals try rfl
  rename_i unit _ _ _ _ _ _ _ _
  split
  swap
  · rfl
  refine run_bind_eq fun both after read => ?_
  split
  · rfl
  obtain ⟨c, letters, rfl, known, ahead⟩ := ends_groupFlags _ _ read rfl
  refine absurd ⟨c :: letters, by simp, known, ?_⟩ unset
  rw [units_of_take took]
  exact (List.prefix_cons_inj _).2 ahead

theorem ends_repeatLast (start : Nat) (done : List Item) (min : Nat) (max : Option Nat) (r : Reading) :
    Ends (fun items _ => items ≠ []) (repeatLast start done min max) r := by
  unfold repeatLast
  split
  · exact .fails (fails_failFrom _ _)
  · refine .check (fails_failFrom _ _) ?_
    exact .check (fails_failFrom _ _) (.bind fun _ _ _ => .pure nofun)

theorem ends_accept (c : Char) (r : Reading) :
    Ends (fun ok now => ok = true → units r.rest = [c] :: units now.rest) (accept c) r := by
  refine .bind fun next now peeked => ?_
  obtain ⟨rfl, rfl⟩ := Prod.mk.inj (Except.ok.inj peeked)
  refine .ite (fun first => .bind fun found now took => .pure fun _ => ?_) fun _ => .pure nofun
  obtain rfl := (found_of_take took).symm.trans first
  exact units_of_take took

theorem run_sequence_first [CharacterNames] (fuel : Nat) {verbose : Bool} {done : List Item} {r : Reading}
    (unset : done = [] → verbose = false ∧ r.flags.has PatternFlags.verbose = false ∧ ¬SetsFlags r.rest) :
    (sequence fuel verbose true done).run r = (sequence fuel verbose false done).run r := by
  induction fuel generalizing verbose done r with
  | zero => rfl
  | succ fuel ih =>
    have more (verbose : Bool) (item : Item) (now : Reading) :
        (sequence fuel verbose true (item :: done)).run now = (sequence fuel verbose false (item :: done)).run now :=
      ih fun empty => absurd empty (List.cons_ne_nil _ _)
    unfold sequence
    refine run_bind_eq fun next now peeked => ?_
    obtain ⟨rfl, rfl⟩ := Prod.mk.inj (Except.ok.inj peeked)
    split
    · rfl
    · rfl
    · rfl
    rename_i unit _ _ next
    refine run_bind_eq fun start between located => run_bind_eq fun taken after took => ?_
    obtain ⟨-, rfl⟩ := Prod.mk.inj (Except.ok.inj located)
    obtain rfl := (found_of_take took).symm.trans next
    split
    · exact run_bind_eq fun item now _ => more _ _ _
    · rename_i c _ _ _
      split
      · rename_i layout
        exact ih fun empty => absurd ((unset empty).1.symm.trans (Bool.and_eq_true_iff.1 layout).1) Bool.false_ne_true
      split
      · rename_i comment
        refine run_bind_eq fun _ now _ => run_bind_eq fun _ now _ => ?_
        exact ih fun empty => absurd ((unset empty).1.symm.trans (Bool.and_eq_true_iff.1 comment).1) Bool.false_ne_true
      have repeated (min : Nat) (max : Option Nat) (now : Reading) :
          (do sequence fuel verbose true (← repeatLast start done min max) : Reader Item).run now =
            (do sequence fuel verbose false (← repeatLast start done min max) : Reader Item).run now :=
        run_bind_eq fun items now ended => ih fun empty => absurd empty (ends_repeatLast _ _ _ _ _ ended)
      split
      · exact run_bind_eq fun node now _ => more _ _ _
      · exact more _ _ _
      · exact more _ _ _
      · exact more _ _ _
      · exact repeated _ _ _
      · exact repeated _ _ _
      · exact repeated _ _ _
      · refine run_bind_eq fun bounds now _ => ?_
        split
        · exact repeated _ _ _
        · exact more _ _ _
      · refine run_bind_eq fun special now accepted => ?_
        extract_lets afterOpening afterOpening'
        have opened (opening : Opening) (now : Reading) (later : opening = .nothing → done = [] →
            now.flags.has PatternFlags.verbose = false ∧ ¬SetsFlags now.rest) :
            (afterOpening opening).run now = (afterOpening' opening).run now := by
          cases opening with
          | nothing =>
            refine run_bind_eq fun a last got => ?_
            obtain ⟨rfl, rfl⟩ := Prod.mk.inj (Except.ok.inj got)
            have same : (verbose || (true && done.isEmpty && now.flags.has PatternFlags.verbose)) = verbose := by
              cases done with
              | nil => simp [(later rfl rfl).1]
              | cons item done => simp
            dsimp only
            rw [same, Bool.false_and, Bool.false_and, Bool.or_false]
            exact ih fun empty => ⟨(unset empty).1, later rfl empty⟩
          | item item => exact more _ _ _
          | group name =>
            refine run_bind_eq fun index now _ => run_bind_eq fun body now _ => run_bind_eq fun _ now _ => ?_
            exact run_bind_eq fun _ now _ => more _ _ _
          | flags add remove => exact run_bind_eq fun body now _ => run_bind_eq fun _ now _ => more _ _ _
          | atomic => exact run_bind_eq fun body now _ => run_bind_eq fun _ now _ => more _ _ _
          | lookahead negative => exact run_bind_eq fun body now _ => run_bind_eq fun _ now _ => more _ _ _
          | lookbehind negative =>
            refine run_bind_eq fun _ now _ => run_bind_eq fun _ now _ => run_bind_eq fun body now _ => ?_
            exact run_bind_eq fun _ now _ => run_bind_eq fun _ now _ => more _ _ _
          | conditional index =>
            refine run_bind_eq fun yes now _ => run_bind_eq fun two now _ => ?_
            split
            · refine run_bind_eq fun no now _ => run_bind_eq fun next now _ => ?_
              split
              · rfl
              · exact run_bind_eq fun _ now _ => run_bind_eq fun _ now _ => more _ _ _
            · exact run_bind_eq fun _ now _ => run_bind_eq fun _ now _ => more _ _ _
        split
        swap
        · refine run_bind_eq fun opening now same => opened _ _ fun nothing => ?_
          obtain ⟨rfl, -⟩ := Prod.mk.inj (Except.ok.inj same)
          cases nothing
        rename_i special
        have opens : units r.rest = ['('] :: ['?'] :: units now.rest := by
          rw [units_of_take took, ends_accept _ _ accepted special]
        cases done with
        | cons item done => exact run_bind_eq fun opening now _ => opened _ _ fun _ empty => absurd empty (List.cons_ne_nil _ _)
        | nil =>
          obtain ⟨plain, unflagged, unset⟩ := unset rfl
          have noLetters : ¬LettersAhead now.rest := fun letters => unset (.of_letters opens letters)
          refine (run_bind_congr (run_specialOpening_first start noLetters) afterOpening).trans ?_
          refine run_bind_eq fun opening last read => opened _ _ fun nothing _ => ?_
          have flags : last.flags = r.flags := by
            rw [(within_of_keeps (fun _ _ => keeps_specialOpening start) read).flags,
              (within_of_keeps (fun _ _ => keeps_accept _) accepted).flags,
              (within_of_keeps (fun _ _ => keeps_take) took).flags]
          refine ⟨flags ▸ unflagged, fun sets => ?_⟩
          rcases ends_specialOpening _ _ _ read nothing with ⟨inside, still, rest⟩ | letters
          · exact unset (.of_comment still (by rw [opens, rest]) sets)
          · exact noLetters letters
      · exact more _ _ _
    · rename_i double single
      rcases eq_of_unit? next with ⟨c, rfl⟩ | ⟨c, d, rfl⟩
      · exact (single c rfl).elim
      · exact (double c d rfl).elim

end LexGen.Pattern
