import LexGen.Proofs.Pattern.BesideReaders
import LexGen.Proofs.Pattern.OmittedGroups
import LexGen.Proofs.Pattern.Pieces

/-!
# Reading with and without the groups of macros

A pattern with the groups of macros is read twice: where these groups capture, and where they do not. The two readings
go in pair, piece by piece. What they read differs only in the groups of macros, which the second one does not number.

* `Paired`: where the two readings are.
* `Pairs`: two readers of which one is run with the groups and the other one without them, closed under what readers are
  made of.
-/

namespace LexGen.Pattern

variable {α β γ δ : Type}

/-! ## Places in a pattern -/

/-- The pieces that are left stand right, and the first `t` groups, which are none of macros, have been opened or are
among those that are still ahead. -/
structure Placed (t : Nat) (kept : List Bool) (ps : List Piece) (ahead : Nat) : Prop where
  fit : fit t ps = true
  first : ∀ b ∈ kept.take t, b = true
  room : t ≤ kept.length + ahead

namespace Placed

variable {t ahead : Nat} {kept : List Bool} {p : Piece} {ps : List Piece}

theorem mono (h : Placed t kept ps ahead) {more : Nat} (le : ahead ≤ more) : Placed t kept ps more :=
  ⟨h.fit, h.first, Nat.le_trans h.room (Nat.add_le_add_left le _)⟩

theorem tail (h : Placed t kept (p :: ps) ahead) : Placed t kept ps ahead :=
  ⟨(fit_cons h.fit).2, h.first, h.room⟩

theorem opened (h : Placed t kept ps (ahead + 1)) : Placed t (kept ++ [true]) ps ahead := by
  refine ⟨h.fit, fun b mem => ?_, ?_⟩
  · rw [List.take_append, List.mem_append] at mem
    rcases mem with old | new
    · exact h.first b old
    · exact List.mem_singleton.1 (List.mem_of_mem_take new)
  · rw [List.length_append]
    have := h.room
    simp only [List.length_singleton]
    omega

theorem spared (h : Placed t kept ps 0) : Placed t (kept ++ [false]) ps 0 := by
  have room := h.room
  refine ⟨h.fit, ?_, ?_⟩
  · rw [List.take_append_of_le_length room]
    exact h.first
  · rw [List.length_append]
    omega

theorem renumbers (h : Placed t kept ps ahead) {k : Nat} (low : k + 1 ≤ t) (opened : k < kept.length) :
    Renumbers kept (k + 1) (k + 1) := by
  -- none of the groups before is left out
  have all : ∀ b ∈ kept.take (k + 1), b = true := fun b mem =>
    h.first b (List.take_subset_take_left kept low mem)
  have last : kept[k] ∈ kept.take (k + 1) := by
    rw [List.mem_take_iff_getElem]
    exact ⟨k, by omega, rfl⟩
  have before : (kept.take k).count true = k := by
    have all' : ∀ b ∈ kept.take k, true = b := fun b mem =>
      (all b (List.take_subset_take_left kept (Nat.le_succ k) mem)).symm
    rw [List.count_eq_length.2 all', List.length_take, Nat.min_eq_left (Nat.le_of_lt opened)]
  exact ⟨k, rfl, by rw [List.getElem?_eq_getElem opened, all _ last], by rw [before]⟩

end Placed

def AtItem (t : Nat) (kept : List Bool) (ps : List Piece) : Prop := Placed t kept ps (lead ps)

def Settled (t : Nat) (kept : List Bool) (ps : List Piece) : Prop := Placed t kept ps 0

def AtMember (t : Nat) (first : Bool) (kept : List Bool) (ps : List Piece) : Prop :=
  closes first ps = true ∧ Placed t kept ps (leadInSet first ps)

section

variable {t : Nat} {kept : List Bool} {p : Piece} {ps : List Piece}

theorem AtItem.after (h : AtItem t kept (p :: ps)) (other : p.unit ≠ ['(']) : AtItem t kept ps :=
  (Placed.tail h).mono (lead_le_of_cons other)

theorem AtItem.opening (h : AtItem t kept (.opening :: ps)) : Settled t kept ps := Placed.tail h

theorem Settled.atItem (h : Settled t kept ps) : AtItem t kept ps := Placed.mono h (Nat.zero_le _)

theorem AtItem.set {ordinary : '[' ≠ '\\'} (h : AtItem t kept (.plain '[' ordinary :: ps)) :
    AtMember t true kept ps := ⟨(fit_cons h.fit).1, Placed.tail h⟩

theorem AtMember.after {first : Bool} (h : AtMember t first kept (p :: ps)) (other : p.unit ≠ [']'] ∨ first = true) :
    AtMember t false kept ps := ⟨closes_of_cons h.1 other, h.2.tail.mono (leadInSet_le_of_cons other)⟩

theorem AtMember.caret {ordinary : '^' ≠ '\\'} (h : AtMember t true kept (.plain '^' ordinary :: ps)) :
    AtMember t true kept ps := ⟨h.1, h.2.tail⟩

theorem AtMember.end {ordinary : ']' ≠ '\\'} (h : AtMember t false kept (.plain ']' ordinary :: ps)) :
    AtItem t kept ps := h.2.tail

end

/-! ## Two readings -/

/-- The numbers of groups, the whole pattern counted as one, where a part of the pattern begins. -/
def Outside (kept : List Bool) (groups groups' : Nat) : Prop :=
  ∃ outer, outer <+: kept ∧ groups = outer.length + 1 ∧ groups' = outer.count true + 1

theorem Outside.mono {kept kept' : List Bool} {groups groups' : Nat} (h : Outside kept groups groups')
    (le : kept <+: kept') : Outside kept' groups groups' := by
  obtain ⟨outer, inside, same, same'⟩ := h
  exact ⟨outer, inside.trans le, same, same'⟩

theorem Outside.le_iff {kept : List Bool} {groups groups' j i : Nat} (h : Outside kept groups groups')
    (number : Renumbers kept j i) : groups ≤ j ↔ groups' ≤ i := by
  obtain ⟨outer, ⟨more, rfl⟩, rfl, rfl⟩ := h
  obtain ⟨k, rfl, found, rfl⟩ := number
  rcases Nat.lt_or_ge k outer.length with before | after
  · have inside : Renumbers outer (k + 1) ((outer.take k).count true + 1) :=
      ⟨k, rfl, by rw [← found, List.getElem?_append_left before], rfl⟩
    have bound := inside.le.2
    rw [List.take_append_of_le_length (Nat.le_of_lt before)]
    omega
  · rw [List.take_append, List.take_of_length_le after, List.count_append]
    omega

/-- Where the pattern is read with the groups of macros, and where it is read without them. `kept` tells which of the
groups that have been opened are none of macros, and `ps` what is left of the pattern. -/
structure Paired (kept : List Bool) (ps : List Piece) (r r' : Reading) : Prop where
  rest : r.rest = captured ps
  rest' : r'.rest = spared ps
  flags : r'.flags = r.flags
  widths : r.widths.length = kept.length
  widths' : r'.widths.length = kept.count true
  closed : ∀ ⦃j i⦄, Renumbers kept j i → r.closed? j = r'.closed? i
  names : List.Forall₂ (fun entry entry' => entry.1 = entry'.1 ∧ Renumbers kept entry.2 entry'.2) r.names r'.names
  behind : Option.Rel (Outside kept) r.behind r'.behind
  conditions : r.conditions = []
  conditions' : r'.conditions = []

theorem lookup_names {R : Nat → Nat → Prop} {names names' : List (Text × Nat)}
    (h : List.Forall₂ (fun entry entry' => entry.1 = entry'.1 ∧ R entry.2 entry'.2) names names') (name : Text) :
    Option.Rel R (names.lookup name) (names'.lookup name) := by
  induction h with
  | nil => exact .none
  | @cons entry entry' names names' same _ ih =>
    obtain ⟨first, index⟩ := entry
    obtain ⟨first', index'⟩ := entry'
    obtain ⟨rfl, related⟩ : first = first' ∧ R index index' := same
    rw [List.lookup_cons, List.lookup_cons]
    cases name == first with
    | true => exact .some related
    | false => exact ih

namespace Paired

variable {kept : List Bool} {ps : List Piece} {r r' : Reading}

theorem groups (h : Paired kept ps r r') : r.groups = kept.length + 1 := congrArg (· + 1) h.widths

theorem groups' (h : Paired kept ps r r') : r'.groups = kept.count true + 1 := congrArg (· + 1) h.widths'

theorem goOn (h : Paired kept ps r r') (qs : List Piece) :
    Paired kept qs { r with rest := captured qs } { r' with rest := spared qs } :=
  ⟨rfl, rfl, h.flags, h.widths, h.widths', h.closed, h.names, h.behind, h.conditions, h.conditions'⟩

theorem unit? {p : Piece} {qs : List Piece} (h : Paired kept (p :: qs) r r') : Pattern.unit? r.rest = some p.unit := by
  rw [h.rest]
  exact unit?_append_of_piece p _

theorem unit?' {p : Piece} {qs : List Piece} (h : Paired kept (p :: qs) r r') :
    Pattern.unit? r'.rest = some p.unit := by
  rw [h.rest', spared_cons]
  cases p with
  | plain c ordinary => exact unit?_append_of_piece (.plain c ordinary) _
  | escaped c => rfl
  | opening => rfl

theorem run_take {p : Piece} {qs : List Piece} (h : Paired kept (p :: qs) r r') :
    take.run r = .ok (some p.unit, { r with rest := captured qs }) := by
  have dropped : r.rest.drop p.unit.length = captured qs := by rw [h.rest, captured_cons, List.drop_left]
  rw [Pattern.run_take h.unit? (dropped ▸ captured_ne qs), dropped]

theorem run_take' {p : Piece} {qs : List Piece} (h : Paired kept (p :: qs) r r') (other : p ≠ .opening) :
    take.run r' = .ok (some p.unit, { r' with rest := spared qs }) := by
  have dropped : r'.rest.drop p.unit.length = spared qs := by
    rw [h.rest', spared_cons, sparing_eq_unit other, List.drop_left]
  rw [Pattern.run_take h.unit?' (dropped ▸ spared_ne qs), dropped]

theorem run_take_opening {qs : List Piece} (h : Paired kept (.opening :: qs) r r') :
    take.run r' = .ok (some ['('], { r' with rest := '?' :: ':' :: spared qs }) := by
  have dropped : r'.rest.drop 1 = '?' :: ':' :: spared qs := by rw [h.rest']; rfl
  rw [Pattern.run_take h.unit?' (show r'.rest.drop 1 ≠ ['\\'] by rw [dropped]; simp)]
  exact congrArg (fun rest => Except.ok (some ['('], { r' with rest := rest })) dropped

theorem run_take_question (r : Reading) (ps : List Piece) :
    take.run { r with rest := '?' :: ':' :: spared ps } = .ok (some ['?'], { r with rest := ':' :: spared ps }) :=
  Pattern.run_take rfl (by simp)

theorem run_take_colon (r : Reading) (ps : List Piece) :
    take.run { r with rest := ':' :: spared ps } = .ok (some [':'], { r with rest := spared ps }) :=
  Pattern.run_take rfl (by simpa using spared_ne ps)

theorem run_take_nil (h : Paired kept [] r r') : take.run r = .ok (none, r) ∧ take.run r' = .ok (none, r') := by
  constructor
  · rw [take_run, h.rest]
    rfl
  · rw [take_run, h.rest']
    rfl

end Paired

/-! ## How two readers end -/

/-- Both readers fail, or both go on in pair with at most `m` pieces left. -/
inductive PairedEnds (kept : List Bool) (m : Nat) (R : List Bool → α → β → Prop) (Q : List Bool → List Piece → Prop) :
    Except Failure (α × Reading) → Except Failure (β × Reading) → Prop
  | failed (failure failure' : Failure) : PairedEnds kept m R Q (.error failure) (.error failure')
  | step {kept' : List Bool} {ps : List Piece} {a : α} {b : β} {now now' : Reading} (grown : kept <+: kept')
    (shorter : ps.length ≤ m) (related : R kept' a b) (place : Q kept' ps) (paired : Paired kept' ps now now') :
    PairedEnds kept m R Q (.ok (a, now)) (.ok (b, now'))

theorem PairedEnds.weaken {kept kept' : List Bool} {m k : Nat} {R : List Bool → α → β → Prop}
    {Q : List Bool → List Piece → Prop} {result : Except Failure (α × Reading)} {result' : Except Failure (β × Reading)}
    (h : PairedEnds kept' k R Q result result') (grown : kept <+: kept') (le : k ≤ m) :
    PairedEnds kept m R Q result result' := by
  cases h with
  | failed => exact .failed _ _
  | step more shorter related place paired =>
    exact .step (grown.trans more) (Nat.le_trans shorter le) related place paired

/-- Two readers that are run in pair at places of one kind, with less than `n` pieces left, end in pair at places of
another kind. At least the groups in `base` have been opened before. -/
def Pairs (base : List Bool) (n : Nat) (P : List Bool → List Piece → Prop) (R : List Bool → α → β → Prop)
    (Q : List Bool → List Piece → Prop) (x : Reader α) (x' : Reader β) : Prop :=
  ∀ ⦃kept ps r r'⦄, base <+: kept → Paired kept ps r r' → P kept ps → ps.length < n →
    PairedEnds kept ps.length R Q (x.run r) (x'.run r')

def Same (_ : List Bool) (a b : α) : Prop := a = b

def At (p : Piece) (P : List Bool → List Piece → Prop) (kept : List Bool) (ps : List Piece) : Prop :=
  ∃ qs, ps = p :: qs ∧ P kept ps

theorem At.place {p : Piece} {P : List Bool → List Piece → Prop} {kept : List Bool} {ps : List Piece}
    (h : At p P kept ps) : P kept ps := by
  obtain ⟨_, _, place⟩ := h
  exact place

def After (p : Piece) (P : List Bool → List Piece → Prop) (kept : List Bool) (ps : List Piece) : Prop :=
  P kept (p :: ps)

def Accepted (p : Piece) (P : List Bool → List Piece → Prop) : (found : Bool) → List Bool → List Piece → Prop
  | true, kept, ps => P kept (p :: ps)
  | false, kept, ps => (∀ qs, ps ≠ p :: qs) ∧ P kept ps

namespace Pairs

variable {base : List Bool} {n : Nat} {P P' Q Q' : List Bool → List Piece → Prop} {R : List Bool → α → β → Prop}
  {S : List Bool → γ → δ → Prop} {x : Reader α} {x' : Reader β}

theorem imp (h : Pairs base n P R Q x x') (before : ∀ kept ps, P' kept ps → P kept ps)
    (after : ∀ kept ps, Q kept ps → Q' kept ps) : Pairs base n P' R Q' x x' := by
  intro kept ps r r' grown paired place bound
  have ends := h grown paired (before _ _ place) bound
  generalize x.run r = result, x'.run r' = result' at ends
  cases ends with
  | failed => exact .failed _ _
  | step more shorter related place paired => exact .step more shorter related (after _ _ place) paired

theorem before (h : Pairs base n P R Q x x') (imp : ∀ kept ps, P' kept ps → P kept ps) : Pairs base n P' R Q x x' :=
  h.imp imp fun _ _ place => place

theorem mono (h : Pairs base n P R Q x x') {k : Nat} (le : k ≤ n) : Pairs base k P R Q x x' :=
  fun _ _ _ _ grown paired place bound => h grown paired place (Nat.lt_of_lt_of_le bound le)

theorem zero : Pairs base 0 P R Q x x' := fun _ _ _ _ _ _ _ bound => absurd bound (Nat.not_lt_zero _)

theorem pure {a : α} {b : β} (related : ∀ kept, base <+: kept → R kept a b) :
    Pairs base n P R P (Pure.pure a) (Pure.pure b) :=
  fun _ _ _ _ grown paired place _ => .step List.prefix_rfl (Nat.le_refl _) (related _ grown) place paired

theorem same (a : α) : Pairs base n P Same P (Pure.pure a) (Pure.pure a) := .pure fun _ _ => rfl

theorem fails (h : Fails x) (h' : Fails x') : Pairs base n P R Q x x' := by
  intro kept ps r r' _ _ _ _
  obtain ⟨failure, failed⟩ := h r
  obtain ⟨failure', failed'⟩ := h' r'
  rw [failed, failed']
  exact .failed _ _

theorem bind {f : α → Reader γ} {f' : β → Reader δ} (first : Pairs base n P R Q x x')
    (next : ∀ kept a b, base <+: kept → R kept a b → Pairs kept n Q S Q' (f a) (f' b)) :
    Pairs base n P S Q' (x >>= f) (x' >>= f') := by
  intro kept ps r r' grown paired place bound
  have ends := first grown paired place bound
  rw [StateT.run_bind, StateT.run_bind]
  generalize x.run r = result, x'.run r' = result' at ends
  cases ends with
  | failed => exact .failed _ _
  | step more shorter related place paired =>
    have ends := next _ _ _ (grown.trans more) related List.prefix_rfl paired place (Nat.lt_of_le_of_lt shorter bound)
    exact ends.weaken more shorter

theorem bind_same {y y' : Reader α} {f : α → Reader γ} {f' : α → Reader δ} (first : Pairs base n P Same Q y y')
    (next : ∀ kept a, base <+: kept → Pairs kept n Q S Q' (f a) (f' a)) :
    Pairs base n P S Q' (y >>= f) (y' >>= f') := by
  refine first.bind fun kept a b grown same => ?_
  subst same
  exact next kept a grown

theorem ite {c : Prop} [Decidable c] {y : Reader α} {y' : Reader β} (yes : c → Pairs base n P R Q x x')
    (no : ¬c → Pairs base n P R Q y y') : Pairs base n P R Q (if c then x else y) (if c then x' else y') := by
  split
  · rename_i h
    exact yes h
  · rename_i h
    exact no h

theorem check {c : Prop} [Decidable c] {refusal refusal' : Reader PUnit} {f : PUnit → Reader α} {f' : PUnit → Reader β}
    (refused : Fails refusal) (refused' : Fails refusal') (next : ∀ u, Pairs base n P R Q (f u) (f' u)) :
    Pairs base n P R Q (if c then refusal >>= f else f ⟨⟩) (if c then refusal' >>= f' else f' ⟨⟩) :=
  .ite (fun _ => .fails (refused.bind _) (refused'.bind _)) fun _ => next ⟨⟩

theorem of_place {F : Prop} (known : ∀ kept ps, P kept ps → F) (next : F → Pairs base n P R Q x x') :
    Pairs base n P R Q x x' :=
  fun _ _ _ _ grown paired place bound => next (known _ _ place) grown paired place bound

theorem get_bind {f : Reading → Reader α} {f' : Reading → Reader β}
    (next : ∀ ⦃kept ps r r'⦄, base <+: kept → Paired kept ps r r' → P kept ps → ps.length < n →
      Pairs kept (ps.length + 1) P R Q (f r) (f' r')) : Pairs base n P R Q (get >>= f) (get >>= f') :=
  fun _ _ _ _ grown paired place bound =>
    next grown paired place bound List.prefix_rfl paired place (Nat.lt_succ_self _)

theorem position_bind {f : Nat → Reader α} {f' : Nat → Reader β}
    (next : ∀ start start', Pairs base n P R Q (f start) (f' start')) :
    Pairs base n P R Q (position >>= f) (position >>= f') :=
  fun _ _ _ _ grown paired place bound => next _ _ grown paired place bound

theorem modify {g g' : Reading → Reading}
    (same : ∀ ⦃kept ps r r'⦄, base <+: kept → Paired kept ps r r' → P kept ps → Paired kept ps (g r) (g' r')) :
    Pairs base n P Same P (modify g : Reader Unit) (modify g') :=
  fun _ _ _ _ grown paired place _ => .step List.prefix_rfl (Nat.le_refl _) rfl place (same grown paired place)

/-! ## Pieces that come next -/

theorem cases_head (nil : Pairs base n (fun kept ps => ps = [] ∧ P kept ps) R Q x x')
    (cons : ∀ p, Pairs base n (At p P) R Q x x') : Pairs base n P R Q x x' := by
  intro kept ps r r' grown paired place bound
  cases ps with
  | nil => exact nil grown paired ⟨rfl, place⟩ bound
  | cons p ps => exact cons p grown paired ⟨ps, rfl, place⟩ bound

theorem peek_bind_nil {f : Option Text → Reader α} {f' : Option Text → Reader β}
    (next : Pairs base n (fun kept ps => ps = [] ∧ P kept ps) R Q (f none) (f' none)) :
    Pairs base n (fun kept ps => ps = [] ∧ P kept ps) R Q (peek >>= f) (peek >>= f') := by
  rintro kept ps r r' grown paired ⟨rfl, place⟩ bound
  rw [run_peek_bind, run_peek_bind, paired.rest, paired.rest']
  exact next grown paired ⟨rfl, place⟩ bound

theorem peek_bind_at {p : Piece} {f : Option Text → Reader α} {f' : Option Text → Reader β}
    (next : Pairs base n (At p P) R Q (f (some p.unit)) (f' (some p.unit))) :
    Pairs base n (At p P) R Q (peek >>= f) (peek >>= f') := by
  rintro kept ps r r' grown paired ⟨qs, rfl, place⟩ bound
  rw [run_peek_bind, run_peek_bind, paired.unit?, paired.unit?']
  exact next grown paired ⟨qs, rfl, place⟩ bound

theorem peek_bind {f : Option Text → Reader α} {f' : Option Text → Reader β}
    (nil : Pairs base n (fun kept ps => ps = [] ∧ P kept ps) R Q (f none) (f' none))
    (cons : ∀ p, Pairs base n (At p P) R Q (f (some p.unit)) (f' (some p.unit))) :
    Pairs base n P R Q (peek >>= f) (peek >>= f') :=
  cases_head (peek_bind_nil nil) fun p => peek_bind_at (cons p)

theorem take_bind_at {p : Piece} (other : p ≠ .opening) {f : Option Text → Reader α} {f' : Option Text → Reader β}
    (next : Pairs base n (After p P) R Q (f (some p.unit)) (f' (some p.unit))) :
    Pairs base (n + 1) (At p P) R Q (take >>= f) (take >>= f') := by
  rintro kept ps r r' grown paired ⟨qs, rfl, place⟩ bound
  rw [run_bind_of_ok paired.run_take, run_bind_of_ok (paired.run_take' other)]
  refine (next grown (paired.goOn qs) place (Nat.lt_of_succ_lt_succ bound)).weaken List.prefix_rfl ?_
  exact Nat.le_succ _

theorem take_bind {f : Option Text → Reader α} {f' : Option Text → Reader β}
    (nil : Pairs base (n + 1) P R Q (f none) (f' none))
    (opening : ∀ kept ps, P kept (.opening :: ps) → Fails (f (some ['('])) ∧ Fails (f' (some ['('])))
    (cons : ∀ p, p ≠ .opening → Pairs base n (After p P) R Q (f (some p.unit)) (f' (some p.unit))) :
    Pairs base (n + 1) P R Q (take >>= f) (take >>= f') := by
  intro kept ps r r' grown paired place bound
  cases ps with
  | nil =>
    rw [run_bind_of_ok paired.run_take_nil.1, run_bind_of_ok paired.run_take_nil.2]
    exact nil grown paired place bound
  | cons p ps =>
    by_cases macroGroup : p = .opening
    · subst macroGroup
      obtain ⟨refused, refused'⟩ := opening kept ps place
      obtain ⟨failure, failed⟩ := refused { r with rest := captured ps }
      obtain ⟨failure', failed'⟩ := refused' { r' with rest := '?' :: ':' :: spared ps }
      rw [run_bind_of_ok paired.run_take, run_bind_of_ok paired.run_take_opening]
      exact failed ▸ failed' ▸ .failed _ _
    · exact take_bind_at macroGroup (cons p macroGroup) grown paired ⟨ps, rfl, place⟩ bound

theorem take_bind_item {t : Nat} {f : Option Text → Reader α} {f' : Option Text → Reader β}
    (nil : Pairs base (n + 1) (AtItem t) R Q (f none) (f' none)) (refused : Fails (f (some ['('])))
    (refused' : Fails (f' (some ['('])))
    (cons : ∀ unit, Pairs base n (AtItem t) R Q (f (some unit)) (f' (some unit))) :
    Pairs base (n + 1) (AtItem t) R Q (take >>= f) (take >>= f') := by
  refine take_bind nil (fun _ _ _ => ⟨refused, refused'⟩) fun p _ => ?_
  by_cases parenthesis : p.unit = ['(']
  · rw [parenthesis]
    exact .fails refused refused'
  · exact (cons p.unit).before fun _ _ place => AtItem.after place parenthesis

theorem accept_bind_shorter {c : Char} (ordinary : c ≠ '\\') (other : c ≠ '(') {f : Bool → Reader α}
    {f' : Bool → Reader β}
    (next : ∀ found, Pairs base (n + 1 - found.toNat) (Accepted (.plain c ordinary) P found) R Q (f found) (f' found)) :
    Pairs base (n + 1) P R Q (accept c >>= f) (accept c >>= f') := by
  rw [accept_bind_eq, accept_bind_eq]
  refine cases_head ?_ fun p => ?_
  · refine peek_bind_nil ?_
    rw [if_neg nofun, if_neg nofun]
    exact (next false).before fun kept ps place => ⟨by simp [place.1], place.2⟩
  · refine peek_bind_at ?_
    by_cases found : p = .plain c ordinary
    · subst found
      have present : some (Piece.plain c ordinary).unit = some [c] := rfl
      rw [if_pos present, if_pos present]
      exact take_bind_at (Piece.plain_ne_opening ordinary) (next true)
    · have absent : ¬some p.unit = some [c] := by
        intro same
        exact found (Piece.eq_plain_of_unit (Option.some.inj same) ordinary other)
      rw [if_neg absent, if_neg absent]
      refine (next false).before fun kept ps here => ?_
      obtain ⟨qs, same, place⟩ := here
      exact ⟨fun others same' => found (List.cons.inj (same.symm.trans same')).1, place⟩

theorem accept_bind {c : Char} (ordinary : c ≠ '\\') (other : c ≠ '(') {f : Bool → Reader α}
    {f' : Bool → Reader β}
    (next : ∀ found, Pairs base n (Accepted (.plain c ordinary) P found) R Q (f found) (f' found)) :
    Pairs base n P R Q (accept c >>= f) (accept c >>= f') := by
  cases n with
  | zero => exact .zero
  | succ n => exact accept_bind_shorter ordinary other fun found => (next found).mono (Nat.sub_le _ _)

end Pairs

/-! ## Characters in a row -/

section

variable {base : List Bool} {n : Nat} {P Q : List Bool → List Piece → Prop} {R : List Bool → α → β → Prop}

theorem pairs_accept {c : Char} (ordinary : c ≠ '\\') (other : c ≠ '(')
    (drops : ∀ kept ps, P kept (.plain c ordinary :: ps) → P kept ps) :
    Pairs base n P Same P (accept c) (accept c) := by
  rw [← bind_pure (accept c)]
  refine .accept_bind ordinary other fun found => (Pairs.same found).imp (fun _ _ place => place) ?_
  cases found with
  | true => exact drops
  | false => exact fun _ _ place => place.2

/-- Characters may be taken that stand for a place from which one goes on to a place of the same kind. -/
def Drops (p : Char → Bool) (P : List Bool → List Piece → Prop) : Prop :=
  ∀ ⦃kept c⦄ (ordinary : c ≠ '\\') ⦃ps⦄, p c = true → P kept (.plain c ordinary :: ps) → P kept ps

theorem pairs_takeUpTo_end {p : Char → Bool} (limit limit' : Nat) :
    Pairs base n (fun kept ps => ps = [] ∧ P kept ps) Same P (takeUpTo p limit) (takeUpTo p limit') := by
  rintro kept ps r r' _ paired ⟨rfl, place⟩ _
  rw [run_takeUpTo_of_ne (by simp [paired.rest, unit?]), run_takeUpTo_of_ne (by simp [paired.rest', unit?])]
  exact .step List.prefix_rfl (Nat.le_refl _) rfl place paired

theorem pairs_takeUpTo {p : Char → Bool} (other : p '(' = false) (drops : Drops p P) {limit limit' : Nat}
    (enough : limit = limit' ∨ n ≤ limit + 1 ∧ n ≤ limit' + 1) :
    Pairs base n P Same P (takeUpTo p limit) (takeUpTo p limit') := by
  refine .cases_head (pairs_takeUpTo_end limit limit') fun next => ?_
  induction limit generalizing base n limit' next with
  | zero =>
    rcases enough with rfl | ⟨few, -⟩
    · exact (Pairs.same []).imp (fun _ _ place => place) fun _ _ => At.place
    · rintro kept ps r r' - - ⟨qs, rfl, -⟩ bound
      simp only [List.length_cons] at bound
      omega
  | succ limit ih =>
    rcases Nat.lt_or_ge 1 n with more | few
    swap
    · rintro kept ps r r' - - ⟨qs, rfl, -⟩ bound
      simp only [List.length_cons] at bound
      omega
    obtain ⟨m, rfl⟩ : ∃ m, n = m + 1 := ⟨n - 1, by omega⟩
    obtain ⟨limit', rfl⟩ : ∃ k, limit' = k + 1 := ⟨limit' - 1, by omega⟩
    have stop : Pairs base (m + 1) (At next P) Same P (Pure.pure []) (Pure.pure [] : Reader Text) :=
      (Pairs.same []).imp (fun _ _ place => place) fun _ _ => At.place
    refine .peek_bind_at ?_
    cases next with
    | plain c ordinary =>
      refine .ite (fun satisfies => ?_) fun _ => stop
      refine .take_bind_at (Piece.plain_ne_opening ordinary) (Pairs.before ?_ fun _ _ => drops ordinary satisfies)
      refine Pairs.bind_same (.cases_head (pairs_takeUpTo_end limit limit') fun next => ih (by omega) next) ?_
      exact fun _ more _ => .same _
    | escaped c => exact stop
    | opening =>
      change Pairs base (m + 1) _ Same P (if p '(' then _ else Pure.pure []) (if p '(' then _ else Pure.pure [])
      rw [if_neg (by simp [other]), if_neg (by simp [other])]
      exact stop

theorem pairs_takeAll {p : Char → Bool} (other : p '(' = false) (drops : Drops p P) :
    Pairs base n P Same P (takeAll p) (takeAll p) := by
  refine .get_bind fun kept ps r r' _ paired _ _ => pairs_takeUpTo other drops (.inr ⟨?_, ?_⟩)
  · rw [paired.rest]
    exact Nat.succ_le_succ (length_le_captured ps)
  · rw [paired.rest']
    exact Nat.succ_le_succ (Nat.le_trans (length_le_captured ps) (captured_le_spared ps))

end

end LexGen.Pattern
