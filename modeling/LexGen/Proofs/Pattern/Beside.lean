import LexGen.Proofs.Pattern.Reading

/-!
# Patterns before a closing parenthesis

A pattern is read by itself, and it is read where a closing parenthesis follows it. Both readings go on in step until
the text of the pattern ends. Where a part of the pattern is left open there, the reading alone fails, and the other
one takes the parenthesis into that part; then no parenthesis is left to close the group around the pattern.

* `Beside`: where the two readings are in step.
* `Together`: two readers of which one is run alone and the other before a closing parenthesis, closed under what
  readers are made of.
-/

namespace LexGen.Pattern

variable {α β : Type}

/-! ## Going on -/

def Moves (x : Reader α) : Prop := ∀ ⦃r a now⦄, x.run r = .ok (a, now) → Onward r.rest now.rest

theorem moves_of_keeps {x : Reader α} (h : ∀ text flags, Keeps text flags x) : Moves x :=
  fun _ _ _ ended => (within_of_keeps h ended).rest

theorem Moves.bind {x : Reader α} {f : α → Reader β} (first : Moves x) (next : ∀ a, Moves (f a)) :
    Moves (x >>= f) := by
  intro r b now ended
  obtain ⟨a, between, started, ended⟩ := ok_of_run_bind ended
  exact (next a ended).trans (first started)

theorem Onward.length_le {text rest : Text} (h : Onward text rest) : rest.length ≤ text.length :=
  h.suffix.length_le

theorem Onward.eq_nil {rest : Text} (h : Onward [] rest) : rest = [] :=
  List.eq_nil_of_length_eq_zero (Nat.le_zero.1 h.length_le)

theorem Fails.moves {x : Reader α} (h : Fails x) : Moves x := by
  intro r a now ended
  obtain ⟨failure, failed⟩ := h r
  rw [failed] at ended
  cases ended

/-! ## Texts without a closing parenthesis -/

abbrev Unclosed (text : Text) : Prop := [')'] ∉ units text

theorem Unclosed.onward {text rest : Text} (h : Unclosed text) (onward : Onward text rest) : Unclosed rest :=
  fun mem => h (onward.subset mem)

/-! ## Reading in step -/

/-- Where a pattern is read by itself, and where it is read before a closing parenthesis. -/
structure Beside (r r' : Reading) : Prop where
  rest : r'.rest = r.rest ++ [')']
  whole : r.rest ≠ ['\\']
  flags : r'.flags = r.flags
  names : r'.names = r.names
  widths : r'.widths = r.widths
  behind : r'.behind = r.behind
  conditions : r'.conditions.map (·.1) = r.conditions.map (·.1)

/-- How two readers end, the first of which reads a pattern by itself. Either they are in step, or the first one has
come to the end, where it fails unless `loose` allows otherwise, and the second one has gone past it. -/
inductive Joint (loose : Bool) : Except Failure (α × Reading) → Except Failure (α × Reading) → Prop
  | step (a : α) {now now' : Reading} (beside : Beside now now') : Joint loose (.ok (a, now)) (.ok (a, now'))
  | apart {result result' : Except Failure (α × Reading)}
    (ended : ∀ a now, result = .ok (a, now) → loose = true ∧ now.rest = [])
    (past : ∀ a now, result' = .ok (a, now) → Unclosed now.rest) : Joint loose result result'

theorem Joint.failed {loose : Bool} (failure failure' : Failure) :
    Joint (α := α) loose (.error failure) (.error failure') :=
  .apart (fun _ _ h => nomatch h) fun _ _ h => nomatch h

theorem Joint.loosen {loose : Bool} {result result' : Except Failure (α × Reading)} (h : Joint false result result') :
    Joint loose result result' := by
  cases h with
  | step a beside => exact .step a beside
  | apart ended past => exact .apart (fun a now h => absurd (ended a now h).1 Bool.false_ne_true) past

theorem Joint.bind {loose : Bool} {x x' : Reader α} {r r' : Reading} {f f' : α → Reader β}
    (first : Joint loose (x.run r) (x'.run r'))
    (next : ∀ a now now', x.run r = .ok (a, now) → Beside now now' → Joint loose ((f a).run now) ((f' a).run now'))
    (moves : ∀ a, Moves (f a)) (moves' : ∀ a, Moves (f' a)) :
    Joint loose ((x >>= f).run r) ((x' >>= f').run r') := by
  rw [StateT.run_bind, StateT.run_bind]
  generalize x.run r = result, x'.run r' = result' at first next
  cases first with
  | step a beside => exact next a _ _ rfl beside
  | apart ended past =>
    refine .apart (fun b now h => ?_) fun b now h => ?_
    · obtain ⟨⟨a, between⟩, rfl, h⟩ := ok_of_bind h
      obtain ⟨allowed, empty⟩ := ended a between rfl
      exact ⟨allowed, (empty ▸ moves a h : Onward [] now.rest).eq_nil⟩
    · obtain ⟨⟨a, between⟩, rfl, h⟩ := ok_of_bind h
      exact (past a between rfl).onward (moves' a h)

/-- Two readers of which one is run on a pattern of less than `n` characters by itself, and the other before a closing
parenthesis. -/
structure Together (n : Nat) (loose : Bool) (x x' : Reader α) : Prop where
  joint : ∀ ⦃r r'⦄, Beside r r' → r.rest.length < n → Joint loose (x.run r) (x'.run r')
  moves : Moves x
  moves' : Moves x'

/-- Two such readers that are run where a unit of the pattern comes next. -/
structure Ahead (n : Nat) (loose : Bool) (unit : Text) (x x' : Reader α) : Prop where
  joint : ∀ ⦃r r'⦄, Beside r r' → r.rest.length < n → unit? r.rest = some unit → Joint loose (x.run r) (x'.run r')
  moves : Moves x
  moves' : Moves x'

/-- What readers ask about where they are, apart from the text. -/
structure Alike (r r' : Reading) : Prop where
  flags : r'.flags = r.flags
  names : r'.names = r.names
  widths : r'.widths = r.widths
  behind : r'.behind = r.behind

theorem Beside.alike {r r' : Reading} (h : Beside r r') : Alike r r' := ⟨h.flags, h.names, h.widths, h.behind⟩

theorem Alike.groups {r r' : Reading} (h : Alike r r') : r'.groups = r.groups := by
  rw [Reading.groups, Reading.groups, h.widths]

theorem Alike.closed? {r r' : Reading} (h : Alike r r') (index : Nat) : r'.closed? index = r.closed? index := by
  rw [Reading.closed?, Reading.closed?, h.widths]

/-! ## Units that come next -/

theorem unit?_cons_of_ne {c : Char} (h : c ≠ '\\') (others : Text) : unit? (c :: others) = some [c] := by
  unfold unit?
  split
  · rename_i none
    cases none
  · rename_i same
    exact absurd (List.cons.inj same).1 h
  · rename_i same
    rw [(List.cons.inj same).1]

theorem unit?_append {rest : Text} (nonempty : rest ≠ []) (whole : rest ≠ ['\\']) (more : Text) :
    unit? (rest ++ more) = unit? rest := by
  cases rest with
  | nil => exact absurd rfl nonempty
  | cons c others =>
    by_cases escape : c = '\\'
    · subst escape
      cases others with
      | nil => exact absurd rfl whole
      | cons d others => rfl
    · rw [List.cons_append, unit?_cons_of_ne escape, unit?_cons_of_ne escape]

theorem length_of_unit? {rest unit : Text} (h : unit? rest = some unit) :
    0 < unit.length ∧ unit.length ≤ rest.length := by
  unfold unit? at h
  split at h
  · cases h
  · obtain rfl := Option.some.inj h
    simp
  · obtain rfl := Option.some.inj h
    simp

theorem ne_nil_of_unit? {rest unit : Text} (h : unit? rest = some unit) : rest ≠ [] := by
  rintro rfl
  cases h

theorem Beside.unit? {r r' : Reading} {unit : Text} (beside : Beside r r') (next : unit? r.rest = some unit) :
    Pattern.unit? r'.rest = some unit := by
  rw [beside.rest, unit?_append (ne_nil_of_unit? next) beside.whole, next]

theorem joint_take {r r' : Reading} {unit : Text} (beside : Beside r r') (next : unit? r.rest = some unit) :
    Joint false (take.run r) (take.run r') := by
  have next' := beside.unit? next
  have dropped : r'.rest.drop unit.length = r.rest.drop unit.length ++ [')'] := by
    rw [beside.rest, List.drop_append_of_le_length (length_of_unit? next).2]
  have more : r'.rest.drop unit.length ≠ ['\\'] := by
    intro same
    have last := congrArg List.getLast? (dropped.symm.trans same)
    simp at last
  rw [take_run, take_run, next, next']
  dsimp only
  rw [if_neg more]
  by_cases open_ : r.rest.drop unit.length = ['\\']
  · rw [if_pos open_]
    refine .apart (fun _ _ h => nomatch h) fun a now h => ?_
    obtain ⟨-, rfl⟩ := Prod.mk.inj (Except.ok.inj h)
    change Unclosed (r'.rest.drop unit.length)
    rw [dropped, open_]
    decide
  · rw [if_neg open_]
    exact .step _ ⟨dropped, open_, beside.flags, beside.names, beside.widths, beside.behind, beside.conditions⟩

theorem moves_take : Moves take := moves_of_keeps fun _ _ => keeps_take

theorem moves_peek : Moves peek := moves_of_keeps fun _ _ => keeps_peek

theorem run_peek_bind (f : Option Text → Reader β) (r : Reading) : (peek >>= f).run r = (f (unit? r.rest)).run r := rfl

theorem moves_position : Moves position := moves_of_keeps fun _ _ => keeps_position

namespace Ahead

variable {n : Nat} {loose : Bool} {unit : Text}

theorem mono {x x' : Reader α} (h : Ahead n loose unit x x') {k : Nat} (le : k ≤ n) : Ahead k loose unit x x' :=
  ⟨fun _ _ beside bound => h.joint beside (Nat.lt_of_lt_of_le bound le), h.moves, h.moves'⟩

theorem ite {c : Prop} [Decidable c] {x x' y y' : Reader α} (yes : c → Ahead n loose unit x x')
    (no : ¬c → Ahead n loose unit y y') : Ahead n loose unit (if c then x else y) (if c then x' else y') := by
  split
  · rename_i h
    exact yes h
  · rename_i h
    exact no h

theorem position_bind {f f' : Nat → Reader β} (more : ∀ start start', Ahead n loose unit (f start) (f' start')) :
    Ahead n loose unit (position >>= f) (position >>= f') := by
  refine ⟨fun r r' beside bound next => (more _ _).joint beside bound next, ?_, ?_⟩
  · exact moves_position.bind fun start => (more start start).moves
  · exact moves_position.bind fun start => (more start start).moves'

theorem take_bind {f f' : Option Text → Reader β} (more : ∀ found, Together n loose (f found) (f' found)) :
    Ahead (n + 1) loose unit (take >>= f) (take >>= f') := by
  refine ⟨fun r r' beside bound next => ?_, moves_take.bind fun found => (more found).moves,
    moves_take.bind fun found => (more found).moves'⟩
  refine (joint_take beside next).loosen.bind (fun found now now' took between => ?_)
    (fun found => (more found).moves) fun found => (more found).moves'
  have shorter := rest_of_take next took
  have taken := length_of_unit? next
  refine (more found).joint between ?_
  rw [shorter, List.length_drop]
  omega

end Ahead

namespace Together

variable {n : Nat} {loose : Bool}

theorem zero {x x' : Reader α} (moves : Moves x) (moves' : Moves x') : Together 0 loose x x' :=
  ⟨fun _ _ _ bound => absurd bound (Nat.not_lt_zero _), moves, moves'⟩

theorem mono {x x' : Reader α} (h : Together n loose x x') {k : Nat} (le : k ≤ n) : Together k loose x x' :=
  ⟨fun _ _ beside bound => h.joint beside (Nat.lt_of_lt_of_le bound le), h.moves, h.moves'⟩

theorem loosen {x x' : Reader α} (h : Together n false x x') : Together n loose x x' :=
  ⟨fun _ _ beside bound => (h.joint beside bound).loosen, h.moves, h.moves'⟩

theorem free {x x' : Reader α} (h : Together n loose x x') : Together n true x x' := by
  cases loose with
  | true => exact h
  | false => exact h.loosen

theorem ahead {x x' : Reader α} (h : Together n loose x x') (unit : Text) : Ahead n loose unit x x' :=
  ⟨fun _ _ beside bound _ => h.joint beside bound, h.moves, h.moves'⟩

theorem fuelled {γ : Type} {x x' : Nat → γ → Reader α} (moves : ∀ fuel c, Moves (x fuel c))
    (moves' : ∀ fuel c, Moves (x' fuel c))
    (step : ∀ n fuel fuel', (∀ c, Together n loose (x fuel c) (x' fuel' c)) →
      ∀ c, Together (n + 1) loose (x (fuel + 1) c) (x' (fuel' + 1) c))
    {fuel fuel' : Nat} (enough : n ≤ fuel) (enough' : n ≤ fuel') (c : γ) : Together n loose (x fuel c) (x' fuel' c) := by
  induction n generalizing fuel fuel' c with
  | zero => exact .zero (moves fuel c) (moves' fuel' c)
  | succ n ih =>
    obtain ⟨fuel, rfl⟩ : ∃ k, fuel = k + 1 := ⟨fuel - 1, by omega⟩
    obtain ⟨fuel', rfl⟩ : ∃ k, fuel' = k + 1 := ⟨fuel' - 1, by omega⟩
    exact step n fuel fuel' (fun c => ih (by omega) (by omega) c) c

theorem pure (a : α) : Together n loose (Pure.pure a) (Pure.pure a) := by
  refine ⟨fun r r' beside _ => .step a beside, ?_, ?_⟩ <;> exact moves_of_keeps fun _ _ => keeps_pure a

theorem fails {x x' : Reader α} (h : Fails x) (h' : Fails x') : Together n loose x x' := by
  refine ⟨fun r r' _ _ => ?_, h.moves, h'.moves⟩
  obtain ⟨failure, failed⟩ := h r
  obtain ⟨failure', failed'⟩ := h' r'
  rw [failed, failed']
  exact .failed _ _

theorem bind {x x' : Reader α} {f f' : α → Reader β} (first : Together n loose x x')
    (next : ∀ a, Together n loose (f a) (f' a)) : Together n loose (x >>= f) (x' >>= f') := by
  refine ⟨fun r r' beside bound => ?_, first.moves.bind fun a => (next a).moves,
    first.moves'.bind fun a => (next a).moves'⟩
  refine (first.joint beside bound).bind (fun a now now' ended between => ?_) (fun a => (next a).moves)
    fun a => (next a).moves'
  exact (next a).joint between (Nat.lt_of_le_of_lt (first.moves ended).length_le bound)

theorem ite {c : Prop} [Decidable c] {x x' y y' : Reader α} (yes : c → Together n loose x x')
    (no : ¬c → Together n loose y y') : Together n loose (if c then x else y) (if c then x' else y') := by
  split
  · rename_i h
    exact yes h
  · rename_i h
    exact no h

theorem check {c : Prop} [Decidable c] {refusal refusal' : Reader PUnit} {f f' : PUnit → Reader β}
    (refused : Fails refusal) (refused' : Fails refusal') (next : ∀ u, Together n loose (f u) (f' u)) :
    Together n loose (if c then refusal >>= f else f ⟨⟩) (if c then refusal' >>= f' else f' ⟨⟩) :=
  .ite (fun _ => .fails (refused.bind _) (refused'.bind _)) fun _ => next ⟨⟩

/-- The readers are told apart by their fuel and by positions, and do not tell the rest of the text apart. -/
theorem get_bind {f f' : Reading → Reader β}
    (next : ∀ k r r', Alike r r' → k ≤ n → k ≤ r.rest.length + 1 → k ≤ r'.rest.length + 1 →
      Together k loose (f r) (f' r')) : Together n loose (get >>= f) (get >>= f') := by
  have same (r : Reading) : Together 0 loose (f r) (f' r) :=
    next 0 r r ⟨rfl, rfl, rfl, rfl⟩ (Nat.zero_le _) (Nat.zero_le _) (Nat.zero_le _)
  refine ⟨fun r r' beside bound => ?_, fun r _ _ ended => (same r).moves ended, fun r _ _ ended => (same r).moves' ended⟩
  refine (next (r.rest.length + 1) r r' beside.alike bound (Nat.le_refl _) ?_).joint beside (Nat.lt_succ_self _)
  rw [beside.rest, List.length_append]
  omega

theorem position_bind {f f' : Nat → Reader β} (next : ∀ start start', Together n loose (f start) (f' start')) :
    Together n loose (position >>= f) (position >>= f') :=
  .get_bind fun _ _ _ _ le _ _ => (next _ _).mono le

theorem peek_bind {f f' : Option Text → Reader β} (ended : Together n loose (f none) (f' (some [')'])))
    (next : ∀ unit, Ahead n loose unit (f (some unit)) (f' (some unit))) (moves' : Moves (f' none)) :
    Together n loose (peek >>= f) (peek >>= f') := by
  refine ⟨fun r r' beside bound => ?_, moves_peek.bind fun found => ?_, moves_peek.bind fun found => ?_⟩
  · by_cases empty : r.rest = []
    · have last : unit? r'.rest = some [')'] := by rw [beside.rest, empty]; rfl
      rw [run_peek_bind, run_peek_bind, empty, last]
      exact ended.joint beside bound
    · obtain ⟨unit, found⟩ := exists_unit? empty
      rw [run_peek_bind, run_peek_bind, beside.unit? found, found]
      exact (next unit).joint beside bound found
  · cases found with
    | none => exact ended.moves
    | some unit => exact (next unit).moves
  · cases found with
    | none => exact moves'
    | some unit => exact (next unit).moves'

/-- Taking the next unit may go past the end of the pattern, where the reader alone has to fail. -/
theorem take_bind {f f' : Option Text → Reader β} (ended : loose = false → Fails (f none))
    (next : ∀ found, Together n loose (f found) (f' found)) : Together (n + 1) loose (take >>= f) (take >>= f') := by
  have moves := moves_take.bind fun found => (next found).moves
  have moves' := moves_take.bind fun found => (next found).moves'
  refine ⟨fun r r' beside bound => ?_, moves, moves'⟩
  by_cases empty : r.rest = []
  · refine .apart (fun b now h => ⟨?_, (empty ▸ moves h : Onward [] now.rest).eq_nil⟩) fun b now h => ?_
    · cases loose with
      | true => rfl
      | false =>
        obtain ⟨failure, failed⟩ := ended rfl r
        have none : take.run r = .ok (none, r) := by rw [take_run, empty]; rfl
        rw [StateT.run_bind, none] at h
        exact nomatch failed.symm.trans h
    · obtain ⟨found, between, took, h⟩ := ok_of_run_bind h
      have last : unit? r'.rest = some [')'] := by rw [beside.rest, empty]; rfl
      have taken : between.rest = [] := by
        rw [rest_of_take last took, beside.rest, empty]
        rfl
      have last := (taken ▸ (next found).moves' h : Onward [] now.rest).eq_nil
      rw [last]
      exact List.not_mem_nil
  · obtain ⟨unit, found⟩ := exists_unit? empty
    exact (Ahead.take_bind next).joint beside bound found

end Together

/-! ## Failing at the end -/

def FailsAtEnd (x : Reader α) : Prop := ∀ r : Reading, r.rest = [] → ∃ failure, x.run r = .error failure

theorem FailsAtEnd.bind {x : Reader α} (h : FailsAtEnd x) (f : α → Reader β) : FailsAtEnd (x >>= f) := by
  intro r empty
  obtain ⟨failure, failed⟩ := h r empty
  exact ⟨failure, by rw [StateT.run_bind, failed]; rfl⟩

theorem Fails.atEnd {x : Reader α} (h : Fails x) : FailsAtEnd x := fun r _ => h r

theorem Moves.bind_atEnd {x : Reader α} (moves : Moves x) {f : α → Reader β} (h : ∀ a, FailsAtEnd (f a)) :
    FailsAtEnd (x >>= f) := by
  intro r empty
  rw [StateT.run_bind]
  cases result : x.run r with
  | error failure => exact ⟨failure, rfl⟩
  | ok found => exact h found.1 found.2 (empty ▸ moves result : Onward [] found.2.rest).eq_nil

theorem failsAtEnd_closing (start : Nat) : FailsAtEnd (closing start) := by
  intro r empty
  refine ⟨.malformed "missing ), unterminated subpattern" (some start), ?_⟩
  unfold closing accept
  rw [bind_assoc, run_peek_bind, empty]
  rfl

theorem Together.bind_atEnd {n : Nat} {loose : Bool} {x x' : Reader α} {f f' : α → Reader β}
    (first : Together n true x x') (ends : ∀ a, FailsAtEnd (f a)) (next : ∀ a, Together n loose (f a) (f' a)) :
    Together n loose (x >>= f) (x' >>= f') := by
  refine ⟨fun r r' beside bound => ?_, first.moves.bind fun a => (next a).moves,
    first.moves'.bind fun a => (next a).moves'⟩
  have joint := first.joint beside bound
  rw [StateT.run_bind, StateT.run_bind]
  generalize result : x.run r = found, x'.run r' = found' at joint
  cases joint with
  | step a between =>
    exact (next a).joint between (Nat.lt_of_le_of_lt (first.moves result).length_le bound)
  | apart ended past =>
    refine .apart (fun b now h => ?_) fun b now h => ?_
    · obtain ⟨⟨a, between⟩, rfl, h⟩ := ok_of_bind h
      obtain ⟨failure, failed⟩ := ends a between (ended a between rfl).2
      exact nomatch failed.symm.trans h
    · obtain ⟨⟨a, between⟩, rfl, h⟩ := ok_of_bind h
      exact (past a between rfl).onward ((next a).moves' h)

end LexGen.Pattern
