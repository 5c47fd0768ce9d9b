import LexGen.Proofs.Pattern.Beside

/-!
# The readers of patterns before a closing parenthesis

Each reader of a part of a pattern, run alone and before a closing parenthesis. The two runs may have different fuel,
as long as it lasts for the text, and they may give positions differently, which only shows in failures.

* `together_braces`: the one reader that goes back.
* `together_readers`: the readers of alternatives and of sequences.
-/

namespace LexGen.Pattern

variable {α β : Type}

/-! ## Characters in a row -/

section

variable {n : Nat} {loose : Bool}

theorem together_get_bind {f f' : Reading → Reader β} (next : ∀ r r', Alike r r' → Together n loose (f r) (f' r')) :
    Together n loose (get >>= f) (get >>= f') :=
  .get_bind fun _ r r' alike le _ _ => (next r r' alike).mono le

theorem accept_bind_eq (c : Char) (f : Bool → Reader β) :
    (accept c >>= f) =
      peek >>= fun next => if next = some [c] then take >>= fun _ => f true else f false := by
  unfold accept
  rw [bind_assoc]
  refine bind_congr fun next => ?_
  split
  · rw [bind_assoc]
    rfl
  · rfl

theorem together_accept_bind {c : Char} (other : c ≠ ')') {f f' : Bool → Reader β}
    (yes : Together n loose (f true) (f' true)) (no : Together (n + 1) loose (f false) (f' false)) :
    Together (n + 1) loose (accept c >>= f) (accept c >>= f') := by
  rw [accept_bind_eq, accept_bind_eq]
  have differ : some [')'] ≠ some [c] := by simpa using Ne.symm other
  refine .peek_bind ?_ (fun unit => .ite (fun _ => .take_bind fun _ => yes) fun _ => no.ahead unit) no.moves'
  rw [if_neg differ]
  exact no

theorem together_accept {c : Char} (other : c ≠ ')') : Together n loose (accept c) (accept c) := by
  rw [← bind_pure (accept c)]
  exact (together_accept_bind other (.pure true) (.pure false)).mono (Nat.le_succ n)

theorem moves_takeUpTo (p : Char → Bool) (limit : Nat) : Moves (takeUpTo p limit) :=
  moves_of_keeps fun _ _ => keeps_takeUpTo p limit

theorem run_takeUpTo_of_ne {p : Char → Bool} {r : Reading} (stops : ∀ c, unit? r.rest = some [c] → p c = false)
    (limit : Nat) : (takeUpTo p limit).run r = .ok ([], r) := by
  cases limit with
  | zero => rfl
  | succ limit =>
    rw [takeUpTo, run_peek_bind]
    split
    · rename_i c next
      rw [stops c next]
      rfl
    · rfl

theorem together_takeUpTo_end {p : Char → Bool} (other : p ')' = false) (limit limit' : Nat) :
    Together 1 loose (takeUpTo p limit) (takeUpTo p limit') := by
  refine ⟨fun r r' beside bound => ?_, moves_takeUpTo p limit, moves_takeUpTo p limit'⟩
  have empty : r.rest = [] := List.eq_nil_of_length_eq_zero (Nat.lt_one_iff.1 bound)
  rw [run_takeUpTo_of_ne (by simp [empty, unit?]), run_takeUpTo_of_ne (by simp [beside.rest, empty, unit?, other])]
  exact .step [] beside

theorem together_takeUpTo {p : Char → Bool} (other : p ')' = false) {limit limit' : Nat}
    (enough : limit = limit' ∨ n ≤ limit + 1 ∧ n ≤ limit' + 1) :
    Together n loose (takeUpTo p limit) (takeUpTo p limit') := by
  induction limit generalizing n limit' with
  | zero =>
    rcases enough with rfl | ⟨le, -⟩
    · exact .pure []
    · exact (together_takeUpTo_end other 0 limit').mono le
  | succ limit ih =>
    rcases Nat.lt_or_ge 1 n with more | few
    swap
    · exact (together_takeUpTo_end other _ limit').mono few
    obtain ⟨m, rfl⟩ : ∃ m, n = m + 1 := ⟨n - 1, by omega⟩
    obtain ⟨limit', rfl⟩ : ∃ k, limit' = k + 1 := ⟨limit' - 1, by omega⟩
    have later : Together m loose (takeUpTo p limit) (takeUpTo p limit') := ih (by omega)
    refine .peek_bind ?_ (fun unit => ?_) (moves_of_keeps fun _ _ => keeps_pure [])
    · simp only [other, Bool.false_eq_true, if_false]
      exact .pure []
    · split
      · refine .ite (fun _ => .take_bind fun _ => ?_) fun _ => (Together.pure []).ahead _
        exact later.bind fun _ => .pure _
      · exact (Together.pure []).ahead _

theorem together_takeAll {p : Char → Bool} (other : p ')' = false) : Together n loose (takeAll p) (takeAll p) :=
  .get_bind fun _ _ _ _ _ enough enough' => together_takeUpTo other (.inr ⟨enough, enough'⟩)

theorem together_takeUntil (closing : Char) (what : String) {fuel fuel' : Nat} (enough : n ≤ fuel)
    (enough' : n ≤ fuel') (taken : Text) :
    Together n loose (takeUntil closing what fuel taken) (takeUntil closing what fuel' taken) := by
  have moves (fuel : Nat) (taken : Text) : Moves (takeUntil closing what fuel taken) :=
    moves_of_keeps fun _ _ => keeps_takeUntil closing what fuel taken
  refine .fuelled moves moves (fun n fuel fuel' later taken => ?_) enough enough' taken
  have refused : Fails (if taken.isEmpty then failBack ("missing " ++ what) 0
      else failBack ("missing " ++ closing.toString ++ ", unterminated name") taken.length : Reader Text) := by
    split <;> exact fails_failBack _ _
  refine .take_bind (fun _ => refused) fun found => ?_
  cases found with
  | none => exact .fails refused refused
  | some unit =>
    refine .ite (fun _ => ?_) fun _ => later _
    exact .ite (fun _ => .fails (fails_failBack _ _) (fails_failBack _ _)) fun _ => .pure _

/-! ## Escapes -/

theorem together_hexEscape (letter : Char) (width : Nat) :
    Together n loose (hexEscape letter width) (hexEscape letter width) := by
  refine (together_takeUpTo (by decide) (.inl rfl)).bind fun digits => ?_
  refine .check (fails_failBack _ _) (fails_failBack _ _) fun _ => ?_
  exact .check (fails_failBack _ _) (fails_failBack _ _) fun _ => .pure _

theorem together_numericEscape [CharacterNames] (c : Char) : Together n loose (numericEscape c) (numericEscape c) := by
  unfold numericEscape
  split
  · exact (together_hexEscape _ _).bind fun _ => .pure _
  · exact (together_hexEscape _ _).bind fun _ => .pure _
  · exact (together_hexEscape _ _).bind fun _ => .pure _
  · refine (together_accept (by decide)).bind fun _ => .check (fails_failBack _ _) (fails_failBack _ _) fun _ => ?_
    refine .get_bind fun _ _ _ _ _ enough enough' => ?_
    refine (together_takeUntil _ _ enough enough' _).bind fun _ => ?_
    split
    · exact .pure _
    · exact .fails (fails_failBack _ _) (fails_failBack _ _)
  · exact .pure _

theorem together_octalEscape (all : Text) : Together n loose (octalEscape all) (octalEscape all) :=
  .check (fails_failBack _ _) (fails_failBack _ _) fun _ => .pure _

theorem together_plainEscape (c : Char) : Together n loose (plainEscape c) (plainEscape c) :=
  .check (fails_failBack _ _) (fails_failBack _ _) fun _ => .pure _

theorem together_setEscape [CharacterNames] (c : Char) : Together n loose (setEscape c) (setEscape c) := by
  unfold setEscape
  split
  · exact .pure _
  split
  · exact .pure _
  refine (together_numericEscape c).bind fun code => ?_
  split
  · exact .pure _
  refine .ite (fun _ => ?_) fun _ => (together_plainEscape c).bind fun _ => .pure _
  refine (together_takeUpTo (by decide) (.inl rfl)).bind fun more => ?_
  exact (together_octalEscape _).bind fun _ => .pure _

/-! ## References -/

theorem together_checkBehind (index : Nat) : Together n loose (checkBehind index) (checkBehind index) := by
  refine together_get_bind fun r r' alike => ?_
  rw [alike.behind, alike.closed?]
  split
  · exact .check (fails_failBack _ _) (fails_failBack _ _) fun _ =>
      .check (fails_failBack _ _) (fails_failBack _ _) fun _ => .pure _
  · exact .pure _

theorem together_checkName (name : Text) : Together n loose (checkName name) (checkName name) :=
  .check (fails_failBack _ _) (fails_failBack _ _) fun _ => .pure _

theorem together_modify {g g' : Reading → Reading} (rest : ∀ r, (g r).rest = r.rest) (rest' : ∀ r, (g' r).rest = r.rest)
    (same : ∀ {r r'}, Beside r r' → Beside (g r) (g' r')) :
    Together n loose (modify g : Reader Unit) (modify g') := by
  refine ⟨fun r r' beside _ => .step () (same beside), fun r _ now h => ?_, fun r _ now h => ?_⟩
  · obtain ⟨-, rfl⟩ := Prod.mk.inj (Except.ok.inj h)
    exact rest r ▸ .refl _
  · obtain ⟨-, rfl⟩ := Prod.mk.inj (Except.ok.inj h)
    exact rest' r ▸ .refl _

theorem together_behind {around around' : Reading → Option Nat}
    (same : ∀ {r r'}, Beside r r' → around' r' = around r) :
    Together n loose (modify fun r => { r with behind := around r } : Reader Unit)
      (modify fun r => { r with behind := around' r }) := by
  refine together_modify ?_ ?_ fun beside => ?_
  · exact fun _ => rfl
  · exact fun _ => rfl
  · exact ⟨beside.rest, beside.whole, beside.flags, beside.names, beside.widths, same beside, beside.conditions⟩

theorem run_openGroup_of_none {name : Text} {r : Reading} (unknown : r.names.lookup name = none) :
    (openGroup (some name)).run r =
      .ok (r.groups, { r with widths := r.widths ++ [none], names := r.names ++ [(name, r.groups)] }) := by
  simp [openGroup, unknown] <;> rfl

theorem run_openGroup_of_some {name : Text} {r : Reading} {other : Nat} (known : r.names.lookup name = some other) :
    ∃ failure, (openGroup (some name)).run r = .error failure := by
  have ran : (openGroup (some name)).run r = (failBack ("redefinition of group name " ++
      quote (String.ofList name) ++ " as group " ++ toString r.groups ++ "; was group " ++ toString other)
      (name.length + 1)).run r := by
    simp [openGroup, failBack, known] <;> rfl
  rw [ran]
  exact fails_failBack _ _ r

theorem together_openGroup (name : Option Text) : Together n loose (openGroup name) (openGroup name) := by
  have moves : Moves (openGroup name) := moves_of_keeps fun _ _ => keeps_openGroup name
  refine ⟨fun r r' beside _ => ?_, moves, moves⟩
  have index : r'.groups = r.groups := beside.alike.groups
  have opened {names names' : List (Text × Nat)} (same : names' = names) :
      Beside { r with widths := r.widths ++ [none], names := names }
        { r' with widths := r'.widths ++ [none], names := names' } :=
    ⟨beside.rest, beside.whole, beside.flags, same, congrArg (· ++ [none]) beside.widths, beside.behind,
      beside.conditions⟩
  cases name with
  | none =>
    have ran (r : Reading) : (openGroup none).run r = .ok (r.groups, { r with widths := r.widths ++ [none] }) := rfl
    rw [ran, ran, index]
    exact .step _ (opened beside.names)
  | some name =>
    cases other : r.names.lookup name with
    | some other' =>
      obtain ⟨failure, failed⟩ := run_openGroup_of_some other
      obtain ⟨failure', failed'⟩ := run_openGroup_of_some (beside.names ▸ other)
      rw [failed, failed']
      exact .failed _ _
    | none =>
      rw [run_openGroup_of_none other, run_openGroup_of_none (beside.names ▸ other), index]
      exact .step _ (opened (by rw [beside.names]))

theorem together_closeGroup (index : Nat) (width : Width) :
    Together n loose (closeGroup index width) (closeGroup index width) :=
  together_modify (fun _ => rfl) (fun _ => rfl) fun beside =>
    ⟨beside.rest, beside.whole, beside.flags, beside.names,
      congrArg (·.set (index - 1) (some width)) beside.widths, beside.behind, beside.conditions⟩

theorem together_referTo (index back : Nat) : Together n loose (referTo index back) (referTo index back) := by
  refine together_get_bind fun r r' alike => ?_
  rw [alike.closed?]
  split
  · exact .fails (fails_failBack _ _) (fails_failBack _ _)
  · exact (together_checkBehind _).bind fun _ => .pure _

theorem together_escape [CharacterNames] (c : Char) : Together n loose (escape c) (escape c) := by
  unfold escape
  split
  · exact .pure _
  split
  · exact .pure _
  split
  · exact .pure _
  refine (together_numericEscape c).bind fun code => ?_
  split
  · exact .pure _
  refine .ite (fun _ => (together_takeUpTo (by decide) (.inl rfl)).bind fun _ => .pure _) fun _ => ?_
  refine .ite (fun _ => ?_) fun _ => (together_plainEscape c).bind fun _ => .pure _
  refine (together_takeUpTo (by decide) (.inl rfl)).bind fun second => ?_
  have reference : Together n loose (do
      let index := valueIn 10 (c :: second)
      if index < (← get).groups then referTo index (second.length + 2)
      else failBack ("invalid group reference " ++ toString index) (second.length + 1) : Reader Item) (do
      let index := valueIn 10 (c :: second)
      if index < (← get).groups then referTo index (second.length + 2)
      else failBack ("invalid group reference " ++ toString index) (second.length + 1)) := by
    refine together_get_bind fun r r' alike => ?_
    rw [alike.groups]
    exact .ite (fun _ => together_referTo _ _) fun _ => .fails (fails_failBack _ _) (fails_failBack _ _)
  refine .ite (fun _ => ?_) fun _ => reference
  refine (together_takeUpTo (by decide) (.inl rfl)).bind fun third => .ite (fun _ => ?_) fun _ => reference
  exact (together_octalEscape _).bind fun _ => .pure _

/-! ## Sets -/

theorem together_setMember [CharacterNames] (unit : Text) : Together n loose (setMember unit) (setMember unit) := by
  unfold setMember
  split
  · exact together_setEscape _
  · exact .pure _
  · exact .pure _

theorem together_setItems [CharacterNames] (start start' : Nat) {fuel fuel' : Nat} (enough : n ≤ fuel) (enough' : n ≤ fuel')
    (read : List SetItem) : Together n loose (setItems start fuel read) (setItems start' fuel' read) := by
  have moves (start fuel : Nat) (read : List SetItem) : Moves (setItems start fuel read) :=
    moves_of_keeps fun _ _ => keeps_setItems start fuel read
  refine .fuelled (moves start) (moves start') (fun n fuel fuel' later read => ?_) enough enough' read
  refine .take_bind (fun _ => fails_failFrom _ _) fun found => ?_
  split
  · exact .fails (fails_failFrom _ _) (fails_failFrom _ _)
  refine .ite (fun _ => .pure _) fun _ => (together_setMember _).bind fun first => ?_
  refine (together_accept (by decide)).bind fun ranged => .ite (fun _ => ?_) fun _ => later _
  refine Together.mono (.take_bind (fun _ => fails_failFrom _ _) fun found => ?_) (Nat.le_succ n)
  split
  · exact .fails (fails_failFrom _ _) (fails_failFrom _ _)
  · exact .pure _
  · refine (together_setMember _).bind fun last => ?_
    dsimp only
    split
    · exact .ite (fun _ => .fails (fails_failBack _ _) (fails_failBack _ _)) fun _ => later _
    · exact .fails (fails_failBack _ _) (fails_failBack _ _)

theorem together_charSet [CharacterNames] : Together n loose charSet charSet := by
  refine .position_bind fun start start' => (together_accept (by decide)).bind fun negated => ?_
  refine .get_bind fun k r r' _ _ enough enough' => (together_setItems _ _ enough enough' _).bind fun items => ?_
  split <;> exact .pure _

/-! ## Repetition -/

def bounds : Reader (Text × Text × Bool) := do
  let low ← takeAll Char.isDigit
  let high ← if ← accept ',' then takeAll Char.isDigit else pure low
  return (low, high, ← accept '}')

def checkBounds (start min : Nat) (max : Option Nat) : Reader (Option (Nat × Option Nat)) := do
  if let some max := max then
    if max < min then failFrom "min repeat greater than max repeat" start
  return some (min, max)

def readBounds (start : Nat) (low high : Text) : Reader (Option (Nat × Option Nat)) := do
  let min ← if low.isEmpty then pure 0 else roundCount low
  let max ← if high.isEmpty then pure none else some <$> roundCount high
  checkBounds start min max

def tryBounds : Reader (Option (Nat × Option Nat)) := do
  let before ← get
  let start ← position
  let (low, high, closed) ← bounds
  if closed then readBounds start low high
  else
    set before
    return none

theorem braces_eq : braces = (do if (← peek) = some ['}'] then return none else tryBounds) := by
  unfold braces tryBounds bounds readBounds checkBounds
  simp only [bind_assoc, pure_bind]
  refine bind_congr fun next => ?_
  split
  · rfl
  refine bind_congr fun before => bind_congr fun start => bind_congr fun low => bind_congr fun comma => ?_
  split <;> simp only [bind_assoc, pure_bind] <;> rfl

def Spares (x : Reader α) : Prop := ∀ ⦃r a now⦄, x.run r = .ok (a, now) → Unclosed now.rest → Unclosed r.rest

theorem spares_pure (a : α) : Spares (pure a : Reader α) := by
  intro r b now h unclosed
  obtain ⟨-, rfl⟩ := Prod.mk.inj (Except.ok.inj h)
  exact unclosed

theorem Spares.bind {x : Reader α} {f : α → Reader β} (first : Spares x) (next : ∀ a, Spares (f a)) :
    Spares (x >>= f) := by
  intro r b now h unclosed
  obtain ⟨a, between, started, ended⟩ := ok_of_run_bind h
  exact first started (next a ended unclosed)

theorem unclosed_of_take {r now : Reading} {found : Option Text} {unit : Text} (next : unit? r.rest = some unit)
    (other : unit ≠ [')']) (h : take.run r = .ok (found, now)) (unclosed : Unclosed now.rest) : Unclosed r.rest := by
  rw [rest_of_take next h] at unclosed
  unfold Unclosed
  rw [units_of_unit? next]
  exact List.not_mem_cons_of_ne_of_not_mem (Ne.symm other) unclosed

theorem spares_accept {c : Char} (other : c ≠ ')') : Spares (accept c) := by
  intro r b now h unclosed
  unfold accept at h
  rw [run_peek_bind] at h
  split at h
  · rename_i next
    obtain ⟨found, between, took, h⟩ := ok_of_run_bind h
    obtain ⟨-, rfl⟩ := Prod.mk.inj (Except.ok.inj h)
    exact unclosed_of_take next (by simpa using other) took unclosed
  · obtain ⟨-, rfl⟩ := Prod.mk.inj (Except.ok.inj h)
    exact unclosed

theorem spares_takeUpTo {p : Char → Bool} (other : p ')' = false) (limit : Nat) : Spares (takeUpTo p limit) := by
  induction limit with
  | zero => exact spares_pure []
  | succ limit ih =>
    intro r b now h unclosed
    rw [takeUpTo, run_peek_bind] at h
    split at h
    · rename_i c next
      split at h
      · rename_i satisfied
        obtain ⟨found, between, took, h⟩ := ok_of_run_bind h
        refine unclosed_of_take next ?_ took ((ih.bind fun _ => spares_pure _) h unclosed)
        rintro same
        obtain rfl : c = ')' := by simpa using same
        rw [satisfied] at other
        cases other
      · exact spares_pure [] h unclosed
    · exact spares_pure [] h unclosed

theorem spares_takeAll {p : Char → Bool} (other : p ')' = false) : Spares (takeAll p) :=
  fun r _ _ h => spares_takeUpTo other r.rest.length h

theorem together_bounds : Together n loose bounds bounds := by
  refine (together_takeAll (by decide)).bind fun low => (together_accept (by decide)).bind fun comma => ?_
  have closed (high : Text) : Together n loose (do return (low, high, ← accept '}') : Reader (Text × Text × Bool))
      (do return (low, high, ← accept '}')) := (together_accept (by decide)).bind fun _ => .pure _
  exact .ite (fun _ => (together_takeAll (by decide)).bind closed) fun _ => (Together.pure low).bind closed

theorem spares_bounds : Spares bounds := by
  refine (spares_takeAll (by decide)).bind fun low => (spares_accept (by decide)).bind fun comma => ?_
  have closed (high : Text) : Spares (do return (low, high, ← accept '}') : Reader (Text × Text × Bool)) :=
    (spares_accept (by decide)).bind fun _ => spares_pure _
  split
  · exact (spares_takeAll (by decide)).bind closed
  · exact (spares_pure low).bind closed

theorem together_roundCount (digits : Text) : Together n loose (roundCount digits) (roundCount digits) :=
  .check (fails_throw _) (fails_throw _) fun _ => .check (fails_throw _) (fails_throw _) fun _ => .pure _

theorem together_readBounds (start start' : Nat) (low high : Text) :
    Together n loose (readBounds start low high) (readBounds start' low high) := by
  have checked (min : Nat) (max : Option Nat) :
      Together n loose (checkBounds start min max) (checkBounds start' min max) := by
    cases max with
    | none => exact .pure _
    | some max => exact .check (fails_failFrom _ _) (fails_failFrom _ _) fun _ => .pure _
  unfold readBounds
  extract_lets afterMin afterMin'
  have known (min : Nat) : Together n loose (afterMin min) (afterMin' min) := by
    refine .ite (fun _ => (Together.pure none).bind (checked min)) fun _ => ?_
    rw [map_eq_pure_bind]
    exact ((together_roundCount high).bind fun _ => .pure _).bind (checked min)
  exact .ite (fun _ => (Together.pure 0).bind known) fun _ => (together_roundCount low).bind known

theorem run_tryBounds (r : Reading) :
    tryBounds.run r = (do
      let (low, high, closed) ← bounds
      if closed then readBounds (r.total - r.rest.length) low high
      else
        set r
        return none : Reader (Option (Nat × Option Nat))).run r := rfl

theorem joint_tryBounds {r r' : Reading} (beside : Beside r r') : Joint loose (tryBounds.run r) (tryBounds.run r') := by
  rw [run_tryBounds, run_tryBounds, StateT.run_bind, StateT.run_bind]
  have both : Together (r.rest.length + 1) false bounds bounds := together_bounds
  have joint := both.joint beside (Nat.lt_succ_self _)
  generalize result : bounds.run r = found, result' : bounds.run r' = found' at joint
  cases joint with
  | step bound between =>
    obtain ⟨low, high, closed⟩ := bound
    cases closed with
    | true => exact (together_readBounds _ _ low high).joint between (Nat.lt_succ_self _)
    | false => exact .step none beside
  | apart ended past =>
    refine .apart (fun b now h => ?_) fun b now h => ?_
    · obtain ⟨⟨bound, between⟩, rfl, -⟩ := ok_of_bind h
      exact absurd (ended bound between rfl).1 Bool.false_ne_true
    · obtain ⟨⟨⟨low, high, closed⟩, between⟩, rfl, h⟩ := ok_of_bind h
      have unclosed := past _ between rfl
      cases closed with
      | true =>
        have reading : Together 0 false (readBounds (r'.total - r'.rest.length) low high) (readBounds 0 low high) :=
          together_readBounds _ _ low high
        exact unclosed.onward (reading.moves h)
      | false =>
        obtain ⟨-, rfl⟩ := Prod.mk.inj (Except.ok.inj h)
        exact spares_bounds result' unclosed

theorem together_braces : Together n loose braces braces := by
  have moves : Moves braces := moves_of_keeps fun _ _ => keeps_braces
  refine ⟨fun r r' beside bound => ?_, moves, moves⟩
  rw [braces_eq, run_peek_bind, run_peek_bind]
  by_cases empty : r.rest = []
  · rw [beside.rest, empty]
    exact joint_tryBounds beside
  · obtain ⟨unit, next⟩ := exists_unit? empty
    rw [beside.unit? next, next]
    split
    · exact .step none beside
    · exact joint_tryBounds beside

theorem together_readGreed : Together n loose readGreed readGreed := by
  refine .peek_bind (.pure _) (fun unit => ?_) (moves_of_keeps fun _ _ => keeps_pure _)
  have taken (greed : Greed) : Ahead n loose unit (do let _ ← take; return greed : Reader Greed)
      (do let _ ← take; return greed) := (Ahead.take_bind fun _ => .pure greed).mono (Nat.le_succ n)
  split
  · exact taken _
  · exact taken _
  · exact (Together.pure _).ahead unit

theorem together_repeatLast (start start' : Nat) (done : List Item) (min : Nat) (max : Option Nat) :
    Together n loose (repeatLast start done min max) (repeatLast start' done min max) := by
  unfold repeatLast
  split
  · exact .fails (fails_failFrom _ _) (fails_failFrom _ _)
  · refine .check (fails_failFrom _ _) (fails_failFrom _ _) fun _ => ?_
    refine .check (fails_failFrom _ _) (fails_failFrom _ _) fun _ => ?_
    exact together_readGreed.bind fun _ => .pure _

/-! ## Groups -/

theorem together_flagsToSet {fuel fuel' : Nat} (enough : n ≤ fuel) (enough' : n ≤ fuel') (flag read : PatternFlags) :
    Together n loose (flagsToSet fuel flag read) (flagsToSet fuel' flag read) := by
  have moves (fuel : Nat) (flags : PatternFlags × PatternFlags) : Moves (flagsToSet fuel flags.1 flags.2) :=
    moves_of_keeps fun _ _ => keeps_flagsToSet fuel flags.1 flags.2
  refine .fuelled moves moves (fun n fuel fuel' later flags => ?_) enough enough' (flag, read)
  unfold flagsToSet
  refine .check (fails_failBack _ _) (fails_failBack _ _) fun _ => ?_
  refine .check (fails_failBack _ _) (fails_failBack _ _) fun _ => ?_
  refine .take_bind (fun _ => fails_failBack _ _) fun found => ?_
  split
  · exact .fails (fails_failBack _ _) (fails_failBack _ _)
  · exact .pure _
  · exact .pure _
  · exact .pure _
  · split
    · exact later (_, _)
    · exact .fails (fails_failBack _ _) (fails_failBack _ _)

theorem together_flagsToClear {fuel fuel' : Nat} (enough : n ≤ fuel) (enough' : n ≤ fuel')
    (flag read : PatternFlags) :
    Together n loose (flagsToClear fuel flag read) (flagsToClear fuel' flag read) := by
  have moves (fuel : Nat) (flags : PatternFlags × PatternFlags) : Moves (flagsToClear fuel flags.1 flags.2) :=
    moves_of_keeps fun _ _ => keeps_flagsToClear fuel flags.1 flags.2
  refine .fuelled moves moves (fun n fuel fuel' later flags => ?_) enough enough' (flag, read)
  unfold flagsToClear
  refine .check (fails_failBack _ _) (fails_failBack _ _) fun _ => ?_
  refine .take_bind (fun _ => fails_failBack _ _) fun found => ?_
  split
  · exact .fails (fails_failBack _ _) (fails_failBack _ _)
  · exact .pure _
  · split
    · exact later (_, _)
    · exact .fails (fails_failBack _ _) (fails_failBack _ _)

theorem together_groupFlags (unit : Text) : Together n loose (groupFlags unit) (groupFlags unit) := by
  refine .get_bind fun k r r' _ _ enough enough' => ?_
  extract_lets fuel afterAdd fuel' afterAdd'
  have added (both : PatternFlags × Char) : Together k loose (afterAdd both) (afterAdd' both) := by
    obtain ⟨add, ending⟩ := both
    refine .ite (fun _ => ?_) fun _ => .check (fails_failBack _ _) (fails_failBack _ _) fun _ => ?_
    · refine (together_modify ?_ ?_ fun beside => ?_).bind fun _ => .pure none
      · exact fun _ => rfl
      · exact fun _ => rfl
      · exact ⟨beside.rest, beside.whole, congrArg (PatternFlags.union · add) beside.flags, beside.names,
          beside.widths, beside.behind, beside.conditions⟩
    extract_lets afterRemove
    have removed (remove : PatternFlags) : Together k loose (afterRemove remove) (afterRemove remove) :=
      .check (fails_failBack _ _) (fails_failBack _ _) fun _ =>
        .check (fails_failBack _ _) (fails_failBack _ _) fun _ => .pure _
    refine .ite (fun _ => ?_) fun _ => (Together.pure _).bind removed
    refine Together.mono (.take_bind (fun _ => (fails_failBack _ _).bind _) fun found => ?_) (Nat.le_succ k)
    split
    · exact .fails ((fails_failBack _ _).bind _) ((fails_failBack _ _).bind _)
    · split
      · exact (together_flagsToClear enough enough' _ _).bind removed
      · exact .fails ((fails_failBack _ _).bind _) ((fails_failBack _ _).bind _)
  split
  · exact (together_flagsToSet enough enough' _ _).bind added
  · exact (Together.pure _).bind added

theorem lookup_isSome_of_keys {γ δ : Type} {entries : List (Nat × γ)} {entries' : List (Nat × δ)}
    (same : entries'.map (·.1) = entries.map (·.1)) (key : Nat) :
    (entries'.lookup key).isSome = (entries.lookup key).isSome := by
  induction entries generalizing entries' with
  | nil =>
    rw [List.map_eq_nil_iff.1 same]
    rfl
  | cons entry entries ih =>
    obtain ⟨⟨first', value'⟩, others', rfl⟩ : ∃ entry' others', entries' = entry' :: others' :=
      List.exists_cons_of_ne_nil (by rintro rfl; cases same)
    obtain ⟨first, value⟩ := entry
    obtain ⟨rfl, others⟩ : first' = first ∧ _ := List.cons.inj same
    rw [List.lookup_cons, List.lookup_cons]
    split
    · rfl
    · exact ih others

theorem together_conditionGroup : Together n loose conditionGroup conditionGroup := by
  refine .get_bind fun k r r' _ _ enough enough' => (together_takeUntil _ _ enough enough' _).bind fun name => ?_
  have checked (index : Nat) : Together k loose (do
      checkBehind index
      return index : Reader Nat) (do
      checkBehind index
      return index) := (together_checkBehind index).bind fun _ => .pure _
  refine .ite (fun _ => ?_) fun _ => ?_
  · refine together_get_bind fun r r' alike => ?_
    rw [alike.names]
    split
    · exact (Together.pure _).bind checked
    · exact .fails ((fails_failBack _ _).bind _) ((fails_failBack _ _).bind _)
  · split
    · exact .fails ((fails_failBack _ _).bind _) ((fails_failBack _ _).bind _)
    · refine .check (fails_failBack _ _) (fails_failBack _ _) fun _ => ?_
      refine .check (fails_failBack _ _) (fails_failBack _ _) fun _ => ?_
      refine .position_bind fun start start' => ?_
      refine (together_modify ?_ ?_ ?_).bind fun _ => (Together.pure _).bind checked
      · intro r
        split <;> rfl
      · intro r
        split <;> rfl
      · intro r r' beside
        rw [lookup_isSome_of_keys beside.conditions]
        split
        · exact beside
        · exact ⟨beside.rest, beside.whole, beside.flags, beside.names, beside.widths, beside.behind, by
            simp [beside.conditions]⟩

theorem together_skipComment (start start' : Nat) {fuel fuel' : Nat} (enough : n ≤ fuel) (enough' : n ≤ fuel') :
    Together n loose (skipComment start fuel) (skipComment start' fuel') := by
  have moves (start fuel : Nat) (_ : Unit) : Moves (skipComment start fuel) :=
    moves_of_keeps fun _ _ => keeps_skipComment start fuel
  refine .fuelled (moves start) (moves start') (fun n fuel fuel' later _ => ?_) enough enough' ()
  refine .take_bind (fun _ => fails_failFrom _ _) fun found => ?_
  split
  · exact .fails (fails_failFrom _ _) (fails_failFrom _ _)
  · exact .ite (fun _ => .pure _) fun _ => later ()

theorem together_namedOpening : Together n loose namedOpening namedOpening := by
  refine (together_accept (by decide)).bind fun opened => .ite (fun _ => ?_) fun _ => ?_
  · refine .get_bind fun _ _ _ _ _ enough enough' => (together_takeUntil _ _ enough enough' _).bind fun name => ?_
    exact (together_checkName _).bind fun _ => .pure _
  refine (together_accept (by decide)).bind fun referring => .ite (fun _ => ?_) fun _ => ?_
  · refine .get_bind fun _ _ _ _ _ enough enough' => (together_takeUntil _ _ enough enough' _).bind fun name => ?_
    refine (together_checkName _).bind fun _ => together_get_bind fun r r' alike => ?_
    rw [alike.names]
    split
    · exact .fails (fails_failBack _ _) (fails_failBack _ _)
    · exact (together_referTo _ _).bind fun _ => .pure _
  · refine Together.mono (.take_bind (fun _ => fails_failBack _ _) fun found => ?_) (Nat.le_succ n)
    split <;> exact .fails (fails_failBack _ _) (fails_failBack _ _)

theorem together_behindOpening : Together n loose behindOpening behindOpening := by
  refine Together.mono (.take_bind (fun _ => fails_failBack _ _) fun found => ?_) (Nat.le_succ n)
  split
  · exact .fails (fails_failBack _ _) (fails_failBack _ _)
  · exact .pure _
  · exact .pure _
  · exact .fails (fails_failBack _ _) (fails_failBack _ _)

theorem together_specialOpening (start start' : Nat) :
    Together n loose (specialOpening start false) (specialOpening start' false) := by
  refine Together.mono (.take_bind (fun _ => fails_failBack _ _) fun found => ?_) (Nat.le_succ n)
  split
  · exact .fails (fails_failBack _ _) (fails_failBack _ _)
  · exact together_namedOpening
  · exact .pure _
  · exact .get_bind fun _ _ _ _ _ enough enough' =>
      (together_skipComment _ _ enough enough').bind fun _ => .pure _
  · exact .pure _
  · exact .pure _
  · exact together_behindOpening
  · exact together_conditionGroup.bind fun _ => .pure _
  · exact .pure _
  · refine .ite (fun _ => ?_) fun _ => .fails (fails_failBack _ _) (fails_failBack _ _)
    refine (together_groupFlags _).bind fun both => ?_
    cases both with
    | none => exact .fails (fails_failFrom _ _) (fails_failFrom _ _)
    | some both => exact .pure _

theorem run_closing (start : Nat) {r : Reading} {others : Text} (rest : r.rest = ')' :: others)
    (whole : others ≠ ['\\']) : (closing start).run r = .ok ((), { r with rest := others }) := by
  have took : take.run r = .ok (some [')'], { r with rest := others }) := by
    rw [run_take (show unit? r.rest = some [')'] by rw [rest]; rfl) (by simpa [rest] using whole)]
    simp [rest]
  have next : unit? r.rest = some [')'] := by rw [rest]; rfl
  unfold closing accept
  rw [bind_assoc, run_peek_bind, next, if_pos rfl, bind_assoc, StateT.run_bind, took]
  rfl

theorem together_closing (start start' : Nat) : Together n loose (closing start) (closing start') := by
  have moves (start : Nat) : Moves (closing start) := moves_of_keeps fun _ _ => keeps_closing start
  refine ⟨fun r r' beside bound => ?_, moves start, moves start'⟩
  by_cases empty : r.rest = []
  · obtain ⟨failure, failed⟩ := failsAtEnd_closing start r empty
    rw [failed]
    refine .apart (fun _ _ h => nomatch h) fun u now h => ?_
    rw [run_closing start' (show r'.rest = [')'] ++ [] by rw [beside.rest, empty]; rfl) (by simp)] at h
    obtain ⟨-, rfl⟩ := Prod.mk.inj (Except.ok.inj h)
    exact List.not_mem_nil
  · obtain ⟨unit, next⟩ := exists_unit? empty
    rw [closing, closing, accept_bind_eq, accept_bind_eq, run_peek_bind, run_peek_bind, beside.unit? next, next]
    have refused (start : Nat) : Fails (failFrom "missing ), unterminated subpattern" start : Reader Unit) :=
      fails_failFrom _ _
    refine Ahead.joint (n := n) (.ite (fun _ => ?_) fun _ => ?_) beside bound next
    · exact (Ahead.take_bind fun _ => .pure ()).mono (Nat.le_succ n)
    · exact (Together.fails (refused start) (refused start')).ahead unit

theorem together_skipLine {fuel fuel' : Nat} (enough : n ≤ fuel) (enough' : n ≤ fuel') :
    Together n true (skipLine fuel) (skipLine fuel') := by
  have moves (fuel : Nat) (_ : Unit) : Moves (skipLine fuel) := moves_of_keeps fun _ _ => keeps_skipLine fuel
  refine .fuelled moves moves (fun n fuel fuel' later _ => ?_) enough enough' ()
  refine .take_bind (fun h => nomatch h) fun found => ?_
  split
  · exact .pure _
  · exact .ite (fun _ => .pure _) fun _ => later ()

/-! ## Patterns -/

theorem moves_alternatives [CharacterNames] (fuel : Nat) (verbose top : Bool) : Moves (alternatives fuel verbose top false) :=
  moves_of_keeps fun _ _ => (keeps_readers fuel).1 verbose top

theorem moves_sequence [CharacterNames] (fuel : Nat) (verbose : Bool) (done : List Item) : Moves (sequence fuel verbose false done) :=
  moves_of_keeps fun _ _ => (keeps_readers fuel).2 verbose false done rfl

theorem together_sequence [CharacterNames] {fuel fuel' : Nat} {verbose : Bool} (done : List Item)
    (ofAlternatives : ∀ verbose, Together n verbose (alternatives fuel verbose false false)
      (alternatives fuel' verbose false false))
    (ofSequence : ∀ verbose done, Together n verbose (sequence fuel verbose false done)
      (sequence fuel' verbose false done)) :
    Together (n + 1) verbose (sequence (fuel + 1) verbose false done) (sequence (fuel' + 1) verbose false done) := by
  unfold sequence
  refine .peek_bind (.pure _) (fun unit => ?_) (moves_of_keeps fun _ _ => keeps_pure _)
  split
  · exact (Together.pure _).ahead _
  · exact (Together.pure _).ahead _
  · exact (Together.pure _).ahead _
  refine .position_bind fun start start' => .take_bind fun _ => ?_
  have more (item : Item) := ofSequence verbose (item :: done)
  split
  · exact (together_escape _).bind fun _ => more _
  · refine .ite (fun _ => ofSequence _ _) fun _ => .ite (fun comment => ?_) fun _ => ?_
    · obtain rfl : verbose = true := (Bool.and_eq_true_iff.1 comment).1
      refine .get_bind fun _ _ _ _ le enough enough' => ?_
      exact (together_skipLine enough enough').bind fun _ => (ofSequence _ _).mono le
    have repeated (min : Nat) (max : Option Nat) : Together n verbose (do
        sequence fuel verbose false (← repeatLast start done min max) : Reader Item) (do
        sequence fuel' verbose false (← repeatLast start' done min max)) :=
      (together_repeatLast _ _ _ _ _).bind fun _ => ofSequence _ _
    split
    · exact together_charSet.bind fun _ => more _
    · exact more _
    · exact more _
    · exact more _
    · exact repeated _ _
    · exact repeated _ _
    · exact repeated _ _
    · refine together_braces.bind fun bounds => ?_
      split
      · exact repeated _ _
      · exact more _
    · refine (together_accept (by decide)).bind fun special => ?_
      extract_lets afterOpening afterOpening'
      have opened (opening : Opening) : Together n verbose (afterOpening opening) (afterOpening' opening) := by
        have closed (item : Item) : Together n verbose (do
            closing start
            sequence fuel verbose false (item :: done) : Reader Item) (do
            closing start'
            sequence fuel' verbose false (item :: done)) := (together_closing _ _).bind fun _ => more _
        -- a part that is left open fails at the closing parenthesis of its group
        have inside {f f' : Item → Reader Item} (inner : Bool) (ends : ∀ body, FailsAtEnd (f body))
            (next : ∀ body, Together n verbose (f body) (f' body)) :
            Together n verbose (alternatives fuel inner false false >>= f) (alternatives fuel' inner false false >>= f') :=
          .bind_atEnd (ofAlternatives inner).free ends next
        have ends {β : Type} (f : Unit → Reader β) : FailsAtEnd (closing start >>= f) := (failsAtEnd_closing start).bind f
        cases opening with
        | nothing =>
          refine together_get_bind fun r r' _ => ?_
          simpa using ofSequence verbose done
        | item item => exact more _
        | group name =>
          refine (together_openGroup _).bind fun index => inside _ (fun body => ends _) fun body => ?_
          exact (together_closing _ _).bind fun _ => (together_closeGroup _ _).bind fun _ => more _
        | flags add remove => exact inside _ (fun body => ends _) fun body => closed _
        | atomic => exact inside _ (fun body => ends _) fun body => closed _
        | lookahead negative => exact inside _ (fun body => ends _) fun body => closed _
        | lookbehind negative =>
          refine together_get_bind fun r r' alike => ?_
          rw [alike.behind]
          refine (together_behind fun beside => ?_).bind fun _ => inside _ (fun body => ?_) fun body => ?_
          · rw [beside.behind, beside.alike.groups]
          · exact (moves_of_keeps fun _ _ => keeps_behind _).bind_atEnd fun _ => ends _
          · exact (together_behind fun _ => rfl).bind fun _ => closed _
        | conditional index =>
          have finished (yes no : Item) : FailsAtEnd (do
              closing start
              sequence fuel verbose false
                (⟨.conditional index yes.node no.node, yes.width.join no.width, .other⟩ :: done) : Reader Item) := ends _
          refine (ofSequence verbose []).free.bind_atEnd (fun yes => ?_) fun yes => ?_
          · refine (moves_of_keeps fun _ _ => keeps_accept _).bind_atEnd fun two => ?_
            split
            · refine (moves_sequence _ _ _).bind_atEnd fun no => moves_peek.bind_atEnd fun next => ?_
              split
              · exact ((fails_failBack _ _).bind _).atEnd
              · exact finished yes no
            · exact finished yes (Item.row [])
          · refine (together_accept (by decide)).bind fun two => .ite (fun _ => ?_) fun _ => closed _
            refine (ofSequence verbose []).free.bind_atEnd (fun no => moves_peek.bind_atEnd fun next => ?_) fun no => ?_
            · split
              · exact ((fails_failBack _ _).bind _).atEnd
              · exact finished yes no
            · refine .peek_bind (closed _) (fun unit => Together.ahead ?_ unit) (closed _).moves'
              exact .check (fails_failBack _ _) (fails_failBack _ _) fun _ => closed _
      exact .ite (fun _ => (together_specialOpening _ _).bind opened) fun _ => (Together.pure _).bind opened
    · exact more _
  · exact ofSequence verbose done

theorem together_readers [CharacterNames] (n : Nat) :
    (∀ {fuel fuel'} verbose, 2 * n ≤ fuel → 2 * n ≤ fuel' →
      Together n verbose (alternatives fuel verbose false false) (alternatives fuel' verbose false false)) ∧
    ∀ {fuel fuel'} verbose done, 2 * n ≤ fuel + 1 → 2 * n ≤ fuel' + 1 →
      Together n verbose (sequence fuel verbose false done) (sequence fuel' verbose false done) := by
  induction n with
  | zero =>
    exact ⟨fun _ _ _ => .zero (moves_alternatives _ _ _) (moves_alternatives _ _ _),
      fun _ _ _ _ => .zero (moves_sequence _ _ _) (moves_sequence _ _ _)⟩
  | succ n ih =>
    obtain ⟨ofAlternatives, ofSequence⟩ := ih
    have sequences {fuel fuel' : Nat} (verbose : Bool) (done : List Item) (enough : 2 * (n + 1) ≤ fuel + 1)
        (enough' : 2 * (n + 1) ≤ fuel' + 1) :
        Together (n + 1) verbose (sequence fuel verbose false done) (sequence fuel' verbose false done) := by
      obtain ⟨fuel, rfl⟩ : ∃ k, fuel = k + 1 := ⟨fuel - 1, by omega⟩
      obtain ⟨fuel', rfl⟩ : ∃ k, fuel' = k + 1 := ⟨fuel' - 1, by omega⟩
      exact together_sequence done (fun verbose => ofAlternatives verbose (by omega) (by omega))
        fun verbose done => ofSequence verbose done (by omega) (by omega)
    refine ⟨fun {fuel fuel'} verbose enough enough' => ?_, sequences⟩
    obtain ⟨fuel, rfl⟩ : ∃ k, fuel = k + 1 := ⟨fuel - 1, by omega⟩
    obtain ⟨fuel', rfl⟩ : ∃ k, fuel' = k + 1 := ⟨fuel' - 1, by omega⟩
    unfold alternatives
    refine (sequences _ _ enough enough').bind fun item => ?_
    refine together_accept_bind (by decide) (together_get_bind fun r r' _ => ?_) (.pure _)
    exact (ofAlternatives _ (by omega) (by omega)).bind fun _ => .pure _

end

end LexGen.Pattern
