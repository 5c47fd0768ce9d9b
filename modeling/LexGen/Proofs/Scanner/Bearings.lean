import LexGen.Proofs.Scanner.Invariant

/-!
# Where the scanner is

Most calls leave the scanner where it is: they change its conditions, its flags or its world, and nothing of what it
has matched and of what is left.

* `Operation.after_stays` says so of the calls, `Session.action_bearings` of actions that make no others, and
  `attemptOf_view` says what an attempt of a rule with such an action leaves.
* `MoveLaws.preserved`: a property that only depends on where the scanner is is kept by runs if the few moves of
  the scanner keep it.
-/

namespace LexGen.Scanner

variable {σ : Type}

/-! ## Calls that stay where they are -/

def Operation.staysPut : Operation → Bool
  | setInput .. | next | lex | input | unput _ | less _ => false
  | _ => true

def State.bearings (s : State σ) : Text × Text × Int × Int × Location × Text × Text × Int :=
  (s.rest, s.text, s.length, s.line, s.loc, s.piece, s.matched, s.offset)

def State.place (s : State σ) : Int × Location × Text × Text := (s.line, s.loc, s.matched, s.rest)

theorem State.place_of_bearings {s now : State σ} (same : now.bearings = s.bearings) : now.place = s.place := by
  simp only [bearings, Prod.mk.injEq] at same
  obtain ⟨rest, -, -, line, loc, -, matched, -⟩ := same
  rw [place, place, line, loc, matched, rest]

def State.Stays (s now : State σ) : Prop := now.bearings = s.bearings ∧ now.before = s.before

theorem Operation.after_stays (t : Tables σ) {op : Operation} (stays : op.staysPut = true) (s : State σ) :
    s.Stays (op.after t s) := by
  cases op with
  | reject =>
    dsimp only [Operation.after]
    split <;> exact ⟨rfl, rfl⟩
  | popState =>
    obtain ⟨⟩ := s
    rename_i conditions _
    rcases conditions with _ | ⟨condition, _ | _⟩ <;> exact ⟨rfl, rfl⟩
  | setInput | next | lex | input | unput | less => cases stays
  | _ => exact ⟨rfl, rfl⟩

theorem Operation.after_bearings (t : Tables σ) {op : Operation} (stays : op.staysPut = true) (s : State σ) :
    (op.after t s).bearings = s.bearings :=
  (after_stays t stays s).1

theorem Operation.after_place (t : Tables σ) {op : Operation} (stays : op.staysPut = true) (s : State σ) :
    (op.after t s).place = s.place :=
  State.place_of_bearings (after_bearings t stays s)

theorem Script.play_bearings {t : Tables σ} {steps : Nat} (program : Script σ)
    (stays : program.Makes fun op => op.staysPut = true) (s : State σ) :
    (outcome (program.play t steps) s).2.bearings = s.bearings := by
  induction program generalizing s with
  | yield v => rfl
  | raise e => rfl
  | look next ih =>
    rw [play, outcome_bind_ok (outcome_get s)]
    exact ih s (stays s) s
  | alter change next ih =>
    rw [play, outcome_bind_ok (outcome_modify _ s)]
    exact ih stays _
  | call op next ih =>
    have plain : op.scans = false := by
      have stays := stays.1
      cases op <;> first | rfl | cases stays
    obtain ⟨w, after⟩ := state_run t steps plain s
    rw [outcome_call, ih _ (stays.2 _), after]
    exact Operation.after_bearings t stays.1 s

theorem Session.action_bearings (x : Session σ)
    (actions : ∀ rule condition, (x.scripts rule condition).Makes fun op => op.staysPut = true) (depth : Nat)
    (rule : Nat) (condition : String) (s : State σ) :
    (outcome ((x.tablesAt depth).action rule condition) s).2.bearings = s.bearings := by
  cases depth with
  | zero => rfl
  | succ depth => exact Script.play_bearings _ (actions rule condition) s

theorem Session.action_place (x : Session σ)
    (actions : ∀ rule condition, (x.scripts rule condition).Makes fun op => op.staysPut = true) (depth : Nat)
    (rule : Nat) (condition : String) (s : State σ) :
    (outcome ((x.tablesAt depth).action rule condition) s).2.place = s.place :=
  State.place_of_bearings (x.action_bearings actions depth rule condition s)

/-! ## Attempts -/

theorem State.stays_reopen (s : State σ) : s.Stays s.reopen := by
  unfold State.reopen
  split <;> exact ⟨rfl, rfl⟩

theorem State.start_place (s : State σ) : s.start.place = s.place := by
  unfold State.start
  split <;> dsimp only <;> split <;> rfl

theorem State.start_offset (s : State σ) : s.start.offset = s.offset := by
  unfold State.start
  split <;> dsimp only <;> split <;> rfl

/-- If actions leave something as it is that is known from the bearings, an attempt leaves of it what the match has
made of it, or what it was before a match that is taken back. -/
theorem attemptOf_view {β : Type} {view : State σ → β}
    (known : ∀ s now : State σ, now.bearings = s.bearings → view now = view s) {t : Tables σ}
    (action : ∀ rule condition s, view (outcome (t.action rule condition) s).2 = view s) (rule : Nat)
    (text : Text) (s : State σ) :
    view (attemptOf t rule text s).after =
      if (attemptOf t rule text s).kept then view (s.commit t.ranges text) else view s := by
  rcases attemptOf_cases t rule text s with ⟨kept, now, after⟩ | ⟨kept, acted, w, reached, after⟩
  · rw [kept, after]
    exact known s (s.restore now) rfl
  · have stayed : view acted = view (s.commit t.ranges text) := by
      rcases reached with rfl | ⟨condition, -, rfl⟩
      · rfl
      · exact action rule condition _
    rw [kept, if_pos rfl, ← stayed]
    rcases after with after | after
    · rw [after]
      exact known acted _ rfl
    · rw [after]
      exact known acted _ acted.stays_reopen.1

theorem attemptOf_place {t : Tables σ}
    (action : ∀ rule condition s, (outcome (t.action rule condition) s).2.place = s.place) (rule : Nat)
    (text : Text) (s : State σ) :
    (attemptOf t rule text s).after.place =
      if (attemptOf t rule text s).kept then (s.commit t.ranges text).place else s.place :=
  attemptOf_view (fun _ _ => State.place_of_bearings) action rule text s

/-! ## Moves -/

/-- A property depends on where the scanner is, and the moves of the scanner keep it. -/
structure MoveLaws (ranges : Bool) (allowed : Operation → Prop) (P : State σ → Prop) : Prop where
  known : ∀ s now, s.Stays now → P s → P now
  start : ∀ s, P s → P s.start
  commit : ∀ s n, P s → P (s.commit ranges (s.rest.take n))
  consume : ∀ {s c rest}, s.rest = c :: rest → P s → P (s.consume c rest)
  setInput : ∀ s text shared, allowed (.setInput text shared) → P s → P (s.setInput ranges text)
  unput : ∀ s text, allowed (.unput text) → P s → P (s.unput text)
  less : ∀ s n, allowed (.less n) → P s → P (s.less n)

theorem MoveLaws.preserved {x : Session σ} {allowed : Operation → Prop} {P : State σ → Prop}
    (laws : MoveLaws x.tables.ranges allowed P) : x.Preserved allowed P where
  world s _ h := laws.known s _ ⟨rfl, rfl⟩ h
  start := laws.start
  commit := laws.commit
  reopen s h := laws.known s _ s.stays_reopen h
  restore saved _ h _ := laws.known saved _ ⟨rfl, rfl⟩ h
  call op s permitted h := by
    by_cases stays : op.staysPut = true
    · exact laws.known s _ (op.after_stays x.tables stays s) h
    · cases op with
      | setInput text shared => exact laws.setInput s text shared permitted h
      | unput text => exact laws.unput s text permitted h
      | less n => exact laws.less s n permitted h
      | input =>
        dsimp only [Operation.after]
        split
        · exact h
        · rename_i left
          exact laws.consume left h
      | next | lex => exact h
      | _ => exact absurd rfl stays

end LexGen.Scanner
