import LexGen.Proofs.Pattern.PairedReaders

/-!
# Groups with and without the groups of macros

The readers of groups and of what is made of them, run with the groups of macros and without them. What is read is the
same pattern, once with these groups left out.

* `pairs_macroGroup`: a group of a macro, which is opened and closed in the first reading only.
* `pairs_readers`: the readers of alternatives and of sequences.
-/

namespace LexGen.Pattern

section

variable {base : List Bool} {n t : Nat} {P : List Bool → List Piece → Prop}

/-! ## Openings -/

/-- The same opening, with the numbers that groups have in the two readings. -/
inductive Opening.Omits (kept : List Bool) : Opening → Opening → Prop
  | nothing : Omits kept .nothing .nothing
  | item {item item' : Item} (items : item.Omits kept item') : Omits kept (.item item) (.item item')
  | group (name : Option Text) : Omits kept (.group name) (.group name)
  | flags (add remove : PatternFlags) : Omits kept (.flags add remove) (.flags add remove)
  | atomic : Omits kept .atomic .atomic
  | lookahead (negative : Bool) : Omits kept (.lookahead negative) (.lookahead negative)
  | lookbehind (negative : Bool) : Omits kept (.lookbehind negative) (.lookbehind negative)
  | conditional {j i : Nat} (number : Renumbers kept j i) : Omits kept (.conditional j) (.conditional i)

theorem pairs_namedOpening : Pairs base n (AtItem t) Opening.Omits (AtItem t) namedOpening namedOpening := by
  have unnamed {name : Text} {f : PUnit → Reader Opening} (mem : '(' ∈ name) : Fails (checkName name >>= f) :=
    (fails_checkName mem).bind f
  refine (pairs_acceptItem (by decide) (by decide)).bind_same fun base opened _ => .ite (fun _ => ?_) fun _ => ?_
  · refine pairs_takeUntil_bind (by decide) (fun _ _ place => place) (fun name mem => ⟨unnamed mem, unnamed mem⟩) ?_
    intro kept ps _ _
    exact (pairs_checkName _).bind_same fun _ _ _ => .pure fun _ _ => .group _
  refine (pairs_acceptItem (by decide) (by decide)).bind_same fun base referring _ => .ite (fun _ => ?_) fun _ => ?_
  · refine pairs_takeUntil_bind (by decide) (fun _ _ place => place) (fun name mem => ⟨unnamed mem, unnamed mem⟩) ?_
    intro kept ps _ _
    refine (pairs_checkName _).bind_same fun _ _ _ => .get_bind fun kept' ps' r r' _ paired _ _ => ?_
    rcases cases_of_rel (lookup_names paired.names (captured (ps.takeWhile (·.unit != [')'])))) with
      ⟨unknown, unknown'⟩ | ⟨j, i, known, known', number⟩
    · rw [unknown, unknown']
      exact .fails (fails_failBack _ _) (fails_failBack _ _)
    · rw [known, known']
      exact (pairs_referTo number _ _).bind fun _ _ _ _ items => .pure fun _ grown => .item (items.mono grown)
  · refine Pairs.mono (.take_bind_item ?_ ?_ ?_ fun unit => ?_) (Nat.le_succ n)
    · exact .fails (fails_failBack _ _) (fails_failBack _ _)
    · exact fails_failBack _ _
    · exact fails_failBack _ _
    · exact .fails (fails_failBack _ _) (fails_failBack _ _)

theorem pairs_behindOpening : Pairs base n (AtItem t) Opening.Omits (AtItem t) behindOpening behindOpening := by
  have refused {message : String} {back : Nat} : Fails (failBack message back : Reader Opening) := fails_failBack _ _
  refine Pairs.mono (.take_bind_item (.fails refused refused) refused refused fun unit => ?_) (Nat.le_succ n)
  split
  · exact .fails refused refused
  · exact .pure fun _ _ => .lookbehind _
  · exact .pure fun _ _ => .lookbehind _
  · exact .fails refused refused

def AtSpecial (t : Nat) (kept : List Bool) (ps : List Piece) : Prop :=
  AtItem t kept (.parenthesis :: .question :: ps)

theorem AtSpecial.item {kept : List Bool} {ps : List Piece} (h : AtSpecial t kept ps) : AtItem t kept ps :=
  (Placed.mono h (lead_special_le ps)).tail.tail

theorem AtSpecial.not_opening {kept : List Bool} {ps : List Piece} : ¬AtSpecial t kept (.opening :: ps) :=
  fun h => Bool.false_ne_true (fit_cons h.fit).1

theorem AtSpecial.comment {ordinary : '#' ≠ '\\'} {kept : List Bool} {ps : List Piece}
    (h : AtSpecial t kept (.plain '#' ordinary :: ps)) : Settled t kept ps := (Placed.tail h).tail.tail

theorem AtSpecial.condition {ordinary : '(' ≠ '\\'} {kept : List Bool} {ps : List Piece}
    (h : AtSpecial t kept (.plain '(' ordinary :: ps)) : AtCondition t kept ps :=
  ⟨(fit_cons h.fit).1, Settled.atItem (Placed.tail h).tail.tail⟩

theorem pairs_specialOpening (start start' : Nat) (first : Bool) :
    Pairs base n (AtSpecial t) Opening.Omits (AtItem t) (specialOpening start first) (specialOpening start' first) := by
  have refused {message : String} {back : Nat} : Fails (failBack message back : Reader Opening) := fails_failBack _ _
  refine Pairs.mono (.take_bind (.fails refused refused) (fun _ _ place => absurd place AtSpecial.not_opening)
    fun p ordinary => ?_) (Nat.le_succ n)
  have item (other : p.unit ≠ ['(']) (kept : List Bool) (ps : List Piece) (place : After p (AtSpecial t) kept ps) :
      AtItem t kept ps := (AtSpecial.item place).after other
  have yields {opening : Opening} (same : ∀ kept, opening.Omits kept opening) (other : p.unit ≠ ['(']) :
      Pairs base n (After p (AtSpecial t)) Opening.Omits (AtItem t) (pure opening) (pure opening) :=
    (Pairs.pure fun kept _ => same kept).imp (item other) fun _ _ place => place
  split
  · exact .fails refused refused
  · rename_i same
    exact pairs_namedOpening.before (item (Option.some.inj same ▸ by decide))
  · rename_i same
    exact yields (fun _ => .flags 0 0) (Option.some.inj same ▸ by decide)
  · rename_i same
    obtain rfl := Piece.eq_plain_of_unit (Option.some.inj same) (by decide) (by decide)
    refine .before ?_ fun _ _ (place : After _ (AtSpecial t) _ _) => AtSpecial.comment place
    have nothing (kept : List Bool) : Pairs kept n (Settled t) Opening.Omits (AtItem t) (pure .nothing)
        (pure .nothing) := (Pairs.pure fun _ _ => .nothing).before fun _ _ => Settled.atItem
    have skipped := (pairs_skipComment start start').bind_same fun kept _ (_ : base <+: kept) => nothing kept
    simpa only [bind_assoc] using skipped
  · rename_i same
    exact yields (fun _ => .lookahead _) (Option.some.inj same ▸ by decide)
  · rename_i same
    exact yields (fun _ => .lookahead _) (Option.some.inj same ▸ by decide)
  · rename_i same
    exact pairs_behindOpening.before (item (Option.some.inj same ▸ by decide))
  · rename_i same
    obtain rfl : p = .plain '(' (by decide) := by
      cases p with
      | plain c _ => cases same; rfl
      | escaped c => cases same
      | opening => exact absurd rfl ordinary
    refine .before ?_ fun _ _ (place : After _ (AtSpecial t) _ _) => AtSpecial.condition place
    exact pairs_conditionGroup.bind fun _ _ _ _ number => .pure fun _ grown => .conditional (number.mono grown)
  · rename_i same
    exact yields (fun _ => .atomic) (Option.some.inj same ▸ by decide)
  · rename_i unit _ _ _ _ _ _ notCondition _ same
    obtain rfl := Option.some.inj same
    refine .ite (fun _ => ?_) fun _ => .fails refused refused
    refine .before ?_ (item notCondition)
    refine (pairs_groupFlags _).bind_same fun _ both _ => ?_
    cases both with
    | none => exact .check (fails_failFrom _ _) (fails_failFrom _ _) fun _ => .pure fun _ _ => .nothing
    | some both => exact .pure fun _ _ => .flags _ _


/-! ## Groups that are opened and closed -/

theorem Renumbers.of_concat {kept : List Bool} {b : Bool} {j i : Nat} (h : Renumbers (kept ++ [b]) j i) :
    Renumbers kept j i ∨ b = true ∧ j = kept.length + 1 ∧ i = kept.count true + 1 := by
  obtain ⟨k, rfl, found, rfl⟩ := h
  rcases Nat.lt_or_ge k kept.length with before | after
  · rw [List.getElem?_append_left before] at found
    exact .inl ⟨k, rfl, found, by rw [List.take_append_of_le_length (Nat.le_of_lt before)]⟩
  · obtain ⟨bound, last⟩ := List.getElem?_eq_some_iff.1 found
    obtain rfl : k = kept.length := by simp at bound; omega
    exact .inr ⟨by simpa using last, rfl, by rw [List.take_left]⟩

theorem renumbers_concat (kept : List Bool) : Renumbers (kept ++ [true]) (kept.length + 1) (kept.count true + 1) :=
  ⟨kept.length, rfl, by simp, by rw [List.take_left]⟩

theorem closed?_opened (r : Reading) (names : List (Text × Nat)) (index : Nat) :
    Reading.closed? { r with widths := r.widths ++ [none], names := names } index = r.closed? index := by
  unfold Reading.closed?
  split
  · rfl
  · rw [List.getD_eq_getElem?_getD, List.getD_eq_getElem?_getD, List.getElem?_append]
    split
    · rfl
    · rename_i outside
      rw [List.getElem?_eq_none (Nat.le_of_not_lt outside), List.getElem?_singleton]
      split <;> rfl

theorem closed?_groups (r : Reading) : r.closed? r.groups = none := by
  unfold Reading.closed? Reading.groups
  rw [if_neg (Nat.succ_ne_zero _), List.getD_eq_getElem?_getD, Nat.add_sub_cancel,
    List.getElem?_eq_none (Nat.le_refl _)]
  rfl

theorem closed?_set {r : Reading} {k : Nat} (opened : k < r.widths.length) (width : Width) (index : Nat) :
    Reading.closed? { r with widths := r.widths.set k (some width) } index =
      if index = k + 1 then some width else r.closed? index := by
  unfold Reading.closed?
  cases index with
  | zero => rfl
  | succ index =>
    rw [if_neg (Nat.succ_ne_zero _), if_neg (Nat.succ_ne_zero _), Nat.add_sub_cancel, List.getD_eq_getElem?_getD,
      List.getD_eq_getElem?_getD, List.getElem?_set]
    by_cases same : index = k
    · subst same
      simp [opened]
    · rw [if_neg (Ne.symm same), if_neg (mt Nat.succ.inj same)]

theorem rel_mono {R S : Nat → Nat → Prop} {a b : Option Nat} (h : Option.Rel R a b) (le : ∀ a b, R a b → S a b) :
    Option.Rel S a b := by
  cases h with
  | none => exact .none
  | some related => exact .some (le _ _ related)

namespace Paired

variable {kept : List Bool} {ps : List Piece} {r r' : Reading}

theorem opened (h : Paired kept ps r r') {names names' : List (Text × Nat)}
    (same : List.Forall₂ (fun entry entry' => entry.1 = entry'.1 ∧ Renumbers (kept ++ [true]) entry.2 entry'.2)
      names names') :
    Paired (kept ++ [true]) ps { r with widths := r.widths ++ [none], names := names }
      { r' with widths := r'.widths ++ [none], names := names' } where
  rest := h.rest
  rest' := h.rest'
  flags := h.flags
  widths := by simp [h.widths]
  widths' := by simp [h.widths']
  closed j i number := by
    rw [closed?_opened, closed?_opened]
    rcases Renumbers.of_concat number with before | ⟨-, rfl, rfl⟩
    · exact h.closed before
    · rw [← h.groups, ← h.groups', closed?_groups, closed?_groups]
  names := same
  behind := rel_mono h.behind fun _ _ outside => outside.mono (List.prefix_append _ _)
  conditions := h.conditions
  conditions' := h.conditions'

theorem spared (h : Paired kept ps r r') : Paired (kept ++ [false]) ps { r with widths := r.widths ++ [none] } r' where
  rest := h.rest
  rest' := h.rest'
  flags := h.flags
  widths := by simp [h.widths]
  widths' := by simp [h.widths']
  closed j i number := by
    rw [closed?_opened]
    rcases Renumbers.of_concat number with before | ⟨kept, -, -⟩
    · exact h.closed before
    · cases kept
  names := h.names.imp fun _ _ same => ⟨same.1, same.2.mono (List.prefix_append _ _)⟩
  behind := rel_mono h.behind fun _ _ outside => outside.mono (List.prefix_append _ _)
  conditions := h.conditions
  conditions' := h.conditions'

theorem closedBoth (h : Paired kept ps r r') {j i : Nat} (number : Renumbers kept j i) (width : Width) :
    Paired kept ps { r with widths := r.widths.set (j - 1) (some width) }
      { r' with widths := r'.widths.set (i - 1) (some width) } where
  rest := h.rest
  rest' := h.rest'
  flags := h.flags
  widths := by simp [h.widths]
  widths' := by simp [h.widths']
  closed j' i' number' := by
    have bounds := number.le
    obtain ⟨k, rfl, -, rfl⟩ := id number
    simp only [Nat.add_sub_cancel]
    rw [closed?_set (by rw [h.widths]; omega), closed?_set (by rw [h.widths']; omega), h.closed number']
    simp only [Renumbers.eq_iff number' number]
  names := h.names
  behind := h.behind
  conditions := h.conditions
  conditions' := h.conditions'

theorem closedSpared (h : Paired kept ps r r') {k : Nat} (omitted : kept[k]? = some false) (width : Width) :
    Paired kept ps { r with widths := r.widths.set k (some width) } r' where
  rest := h.rest
  rest' := h.rest'
  flags := h.flags
  widths := by simp [h.widths]
  widths' := h.widths'
  closed j i number := by
    obtain ⟨bound, -⟩ := List.getElem?_eq_some_iff.1 omitted
    rw [closed?_set (by rw [h.widths]; exact bound), if_neg (Renumbers.ne_of_omitted number omitted), h.closed number]
  names := h.names
  behind := h.behind
  conditions := h.conditions
  conditions' := h.conditions'

end Paired

theorem pairs_openGroup (name : Option Text) :
    Pairs base n (fun kept ps => Placed t kept ps (lead ps + 1)) Renumbers (AtItem t) (openGroup name)
      (openGroup name) := by
  intro kept ps r r' _ paired place _
  have number : Renumbers (kept ++ [true]) r.groups r'.groups := by
    rw [paired.groups, paired.groups']
    exact renumbers_concat kept
  have names := paired.names.imp fun _ _ same => (⟨same.1, same.2.mono (List.prefix_append _ [true])⟩ : _ ∧ _)
  cases name with
  | none => exact .step (List.prefix_append _ _) (Nat.le_refl _) number (Placed.opened place) (paired.opened names)
  | some name =>
    rcases cases_of_rel (lookup_names paired.names name) with ⟨unknown, unknown'⟩ | ⟨j, i, known, known', -⟩
    · rw [run_openGroup_of_none unknown, run_openGroup_of_none unknown']
      refine .step (List.prefix_append _ _) (Nat.le_refl _) number (Placed.opened place) (paired.opened ?_)
      exact List.rel_append names (.cons ⟨rfl, number⟩ .nil)
    · obtain ⟨failure, failed⟩ := run_openGroup_of_some known
      obtain ⟨failure', failed'⟩ := run_openGroup_of_some known'
      rw [failed, failed']
      exact .failed _ _

theorem pairs_closeGroup {j i : Nat} (number : Renumbers base j i) (width : Width) :
    Pairs base n P Same P (closeGroup j width) (closeGroup i width) :=
  .modify fun _ _ _ _ grown paired _ => paired.closedBoth (number.mono grown) width

theorem pairs_closing (start start' : Nat) : Pairs base n (AtItem t) Same (AtItem t) (closing start) (closing start') :=
  (pairs_acceptItem (by decide) (by decide)).bind_same fun _ _ _ =>
    .ite (fun _ => .fails (fails_failFrom _ _) (fails_failFrom _ _)) fun _ => .same _

/-! ## Lookbehind -/

theorem pairs_behind {around around' : Reading → Option Nat}
    (same : ∀ ⦃kept ps r r'⦄, base <+: kept → Paired kept ps r r' → Option.Rel (Outside kept) (around r) (around' r')) :
    Pairs base n P Same P (modify fun r => { r with behind := around r })
      (modify fun r => { r with behind := around' r }) :=
  .modify fun _ _ _ _ grown paired _ => ⟨paired.rest, paired.rest', paired.flags, paired.widths, paired.widths',
    paired.closed, paired.names, same grown paired, paired.conditions, paired.conditions'⟩

theorem Paired.outside {kept : List Bool} {ps : List Piece} {r r' : Reading} (h : Paired kept ps r r') :
    Option.Rel (Outside kept) (some (r.behind.getD r.groups)) (some (r'.behind.getD r'.groups)) := by
  refine .some ?_
  have behind := h.behind
  rcases cases_of_rel behind with ⟨none, none'⟩ | ⟨groups, groups', some, some', outside⟩
  · rw [none, none']
    exact ⟨kept, List.prefix_rfl, h.groups, h.groups'⟩
  · rw [some, some']
    exact outside

/-! ## Items in pair -/

abbrev ItemPairs (t : Nat) (base : List Bool) (n : Nat) (x x' : Reader Item) : Prop :=
  Pairs base n (AtItem t) Item.Omits (AtItem t) x x'

def AfterItem (t : Nat) (base : List Bool) (n : Nat) (f f' : Item → Reader Item) : Prop :=
  ∀ ⦃kept item item'⦄, base <+: kept → item.Omits kept item' → ItemPairs t kept n (f item) (f' item')

theorem AfterItem.mono {f f' : Item → Reader Item} (h : AfterItem t base n f f') {kept : List Bool}
    (grown : base <+: kept) : AfterItem t kept n f f' := fun _ _ _ grown' same => h (grown.trans grown') same

theorem AfterItem.closing {f f' : Item → Reader Item} (h : AfterItem t base n f f') (start start' : Nat) :
    AfterItem t base n (fun item => Pattern.closing start >>= fun _ => f item)
      (fun item => Pattern.closing start' >>= fun _ => f' item) :=
  fun _ _ _ grown same => (pairs_closing _ _).bind_same fun _ _ grown' => h (grown.trans grown') (same.mono grown')

variable {inner inner' : Reader Item} {f f' : Item → Reader Item}

theorem pairs_group (name : Option Text) (start start' : Nat) (bodies : ∀ base, ItemPairs t base n inner inner')
    (next : AfterItem t base n f f') :
    Pairs base n (fun kept ps => Placed t kept ps (lead ps + 1)) Item.Omits (AtItem t) (do
      let index ← openGroup name
      let body ← inner
      closing start
      closeGroup index body.width
      f ⟨.group index body.node, body.width, .other⟩) (do
      let index ← openGroup name
      let body ← inner'
      closing start'
      closeGroup index body.width
      f' ⟨.group index body.node, body.width, .other⟩) := by
  refine (pairs_openGroup name).bind fun _ j i opened number => (bodies _).bind fun _ body body' inside same => ?_
  refine (pairs_closing _ _).bind_same fun _ _ ended => ?_
  have number := (number.mono inside).mono ended
  rw [same.width]
  refine (pairs_closeGroup number _).bind_same fun _ _ closed => next ?_ ?_
  · exact (opened.trans inside).trans (ended.trans closed)
  · exact ⟨.group (number.mono closed) (same.node.mono (ended.trans closed)), rfl, rfl⟩

theorem pairs_lookbehind (negative : Bool) (start start' : Nat) (bodies : ∀ base, ItemPairs t base n inner inner')
    (next : AfterItem t base n f f') :
    ItemPairs t base n (do
      let outer := (← get).behind
      modify fun r => { r with behind := some (r.behind.getD r.groups) }
      let body ← inner
      modify fun r => { r with behind := outer }
      closing start
      f ⟨.lookbehind negative body.width body.node, .zero, .other⟩) (do
      let outer := (← get).behind
      modify fun r => { r with behind := some (r.behind.getD r.groups) }
      let body ← inner'
      modify fun r => { r with behind := outer }
      closing start'
      f' ⟨.lookbehind negative body.width body.node, .zero, .other⟩) := by
  refine .get_bind fun kept ps r r' grown paired _ bound => .mono ?_ bound
  refine (pairs_behind fun _ _ _ _ _ paired => paired.outside).bind_same fun _ _ grown' => ?_
  refine (bodies _).bind fun _ body body' inside same => ?_
  refine (pairs_behind fun _ _ _ _ later _ => ?_).bind_same fun _ _ later => ?_
  · exact rel_mono paired.behind fun _ _ outside => outside.mono ((grown'.trans inside).trans later)
  rw [same.width]
  refine (next.closing _ _) ((grown.trans grown').trans (inside.trans later)) ⟨?_, rfl, rfl⟩
  exact .lookbehind _ _ (same.node.mono later)

theorem pairs_conditional {j i : Nat} (number : Renumbers base j i) (start start' : Nat)
    (branches : ∀ base, ItemPairs t base n inner inner') (next : AfterItem t base n f f') :
    ItemPairs t base n (do
      let yes ← inner
      let no ← if ← accept '|' then do
          let no ← inner
          if (← peek) = some ['|'] then failBack "conditional backref with more than two branches" 0
          pure no
        else pure (Item.row [])
      closing start
      f ⟨.conditional j yes.node no.node, yes.width.join no.width, .other⟩) (do
      let yes ← inner'
      let no ← if ← accept '|' then do
          let no ← inner'
          if (← peek) = some ['|'] then failBack "conditional backref with more than two branches" 0
          pure no
        else pure (Item.row [])
      closing start'
      f' ⟨.conditional i yes.node no.node, yes.width.join no.width, .other⟩) := by
  refine (branches _).bind fun _ yes yes' grown same => ?_
  refine (pairs_acceptItem (by decide) (by decide)).bind_same fun now two grown' => ?_
  have joined : AfterItem t now n (fun no => do
        closing start
        f ⟨.conditional j yes.node no.node, yes.width.join no.width, .other⟩) (fun no => do
        closing start'
        f' ⟨.conditional i yes'.node no.node, yes'.width.join no.width, .other⟩) := by
    intro _ no no' inside same'
    have later := grown'.trans inside
    refine (next.closing _ _) (grown.trans later) ⟨?_, congrArg₂ Width.join same.width same'.width, rfl⟩
    exact .conditional (number.mono (grown.trans later)) (same.node.mono later) same'.node
  refine .ite (fun _ => ?_) fun _ => ?_
  · refine (branches _).bind fun _ no no' inside same' => ?_
    refine .peek_bind (.before ?_ fun _ _ place => place.2) fun p => .before ?_ fun _ _ => At.place
    all_goals
      refine .check (fails_failBack _ _) (fails_failBack _ _) fun _ => ?_
      exact (Pairs.pure fun _ => same'.mono).bind fun _ _ _ later same'' => joined (inside.trans later) same''
  · exact (Pairs.pure fun _ _ => omits_row .nil).bind fun _ _ _ inside same' => joined inside same'

/-! ## The groups of macros -/

theorem Pairs.closeGroup_bind {α β : Type} {R : List Bool → α → β → Prop} {Q : List Bool → List Piece → Prop} {k : Nat}
    (omitted : base[k]? = some false) (width : Width) {f : Unit → Reader α} {x' : Reader β}
    (next : Pairs base n P R Q (f ()) x') : Pairs base n P R Q (closeGroup (k + 1) width >>= f) x' :=
  fun _ _ _ _ grown paired place bound =>
    next grown (paired.closedSpared (getElem?_mono grown omitted) width) place bound

theorem verboseInside_zero (verbose : Bool) : verboseInside verbose 0 0 = verbose := by
  cases verbose <;> rfl

theorem run_sequence_opening (fuel : Nat) (verbose first : Bool) (done : List Item) {r : Reading} {others : Text}
    (inside : others ≠ ['\\']) (plain : unit? others ≠ some ['?']) (rest : r.rest = '(' :: others) :
    (sequence (fuel + 1) verbose first done).run r =
      (do
        let index ← openGroup none
        let body ← alternatives fuel verbose false false
        closing (r.total - r.rest.length)
        closeGroup index body.width
        sequence fuel verbose first (⟨.group index body.node, body.width, .other⟩ :: done) : Reader Item).run
          { r with rest := others } := by
  have opened : take.run r = .ok (some ['('], { r with rest := others }) := by
    rw [run_take (show unit? r.rest = some ['('] by rw [rest]; rfl) (by simpa [rest] using inside)]
    simp [rest]
  have counts : isLayout '(' = false := by decide
  have next : unit? ('(' :: others) = some ['('] := rfl
  have step {γ δ : Type} (a : γ) (f : γ → Except Failure δ) : (Except.ok a >>= f) = f a := rfl
  rw [sequence]
  simp [peek, position, accept, opened, next, plain, counts, step, rest]

/-- The group of a macro is one group more in the first reading, and a part of the pattern in the second one. -/
theorem pairs_macroGroup {fuel fuel' : Nat} {verbose first : Bool} {done done' : List Item}
    (ofAlternatives : ∀ base,
      ItemPairs t base n (alternatives fuel verbose false false) (alternatives fuel' verbose false false))
    (next : AfterItem t base n (fun item => sequence fuel verbose first (item :: done))
      (fun item => sequence fuel' verbose first (item :: done'))) :
    Pairs base (n + 1) (At .opening (AtItem t)) Item.Omits (AtItem t) (sequence (fuel + 1) verbose first done)
      (sequence (fuel' + 1) verbose first done') := by
  rintro kept ps r r' grown paired ⟨qs, rfl, place⟩ bound
  have plain : unit? (captured qs) ≠ some ['?'] := by
    intro question
    cases qs with
    | nil => cases question
    | cons q qs =>
      rw [captured_cons, unit?_append_of_piece] at question
      obtain rfl := Piece.eq_plain_of_unit (Option.some.inj question) (by decide) (by decide)
      exact Bool.false_ne_true (fit_cons place.fit).1
  have opened : (openGroup none).run { r with rest := captured qs } =
      .ok (kept.length + 1, { r with rest := captured qs, widths := r.widths ++ [none] }) := by
    rw [← paired.groups]
    rfl
  -- from here on the first reading has one group more, which the second one reads without opening it
  rw [run_sequence_opening fuel verbose first done (captured_ne qs) plain paired.rest,
    run_sequence_group fuel' verbose first done' (spared_ne qs) paired.rest', run_bind_of_ok opened, verboseInside_zero]
  have omitted : (kept ++ [false])[kept.length]? = some false := List.getElem?_concat_length
  have inside : ItemPairs t (kept ++ [false]) n (do
      let body ← alternatives fuel verbose false false
      closing (r.total - r.rest.length)
      closeGroup (kept.length + 1) body.width
      sequence fuel verbose first (⟨.group (kept.length + 1) body.node, body.width, .other⟩ :: done) : Reader Item) (do
      let body ← alternatives fuel' verbose false false
      closing (r'.total - r'.rest.length)
      sequence fuel' verbose first (⟨body.node, body.width, .other⟩ :: done')) := by
    refine (ofAlternatives _).bind fun _ body body' grown' same => (pairs_closing _ _).bind_same fun _ _ later => ?_
    have omitted := getElem?_mono (grown'.trans later) omitted
    refine .closeGroup_bind omitted _ (next ?_ ⟨.omitted omitted (same.node.mono later), same.width, rfl⟩)
    exact (grown.trans (List.prefix_append _ _)).trans (grown'.trans later)
  exact (inside List.prefix_rfl (paired.goOn qs).spared (Settled.atItem (AtItem.opening place).spared)
    (Nat.lt_of_succ_lt_succ bound)).weaken (List.prefix_append _ _) (Nat.le_succ _)

/-! ## Sequences -/

theorem AtItem.comment {ordinary : '#' ≠ '\\'} {kept : List Bool} {ps : List Piece}
    (h : AtItem t kept (.plain '#' ordinary :: ps)) : Settled t kept ps := Placed.tail h

theorem pairs_sequence {fuel fuel' : Nat} {verbose first : Bool} {done done' : List Item}
    (items : ItemsOmit base done done')
    (ofAlternatives : ∀ base verbose,
      ItemPairs t base n (alternatives fuel verbose false false) (alternatives fuel' verbose false false))
    (ofSequence : ∀ base verbose first done done', ItemsOmit base done done' →
      ItemPairs t base n (sequence fuel verbose first done) (sequence fuel' verbose first done')) :
    ItemPairs t base (n + 1) (sequence (fuel + 1) verbose first done) (sequence (fuel' + 1) verbose first done') := by
  have ended : ItemPairs t base (n + 1) (pure (Item.row done.reverse)) (pure (Item.row done'.reverse)) :=
    .pure fun _ grown => omits_row (List.rel_reverse (items.mono grown))
  have empty : done'.isEmpty = done.isEmpty := by
    cases items <;> rfl
  have more : AfterItem t base n (fun item => sequence fuel verbose first (item :: done))
      (fun item => sequence fuel' verbose first (item :: done')) :=
    fun _ _ _ grown same => ofSequence _ _ _ _ _ (.cons same (items.mono grown))
  refine .cases_head ?_ fun p => ?_
  · unfold sequence
    exact .peek_bind_nil (ended.before fun _ _ place => place.2)
  by_cases macroGroup : p = .opening
  · subst macroGroup
    exact pairs_macroGroup (fun base => ofAlternatives base verbose) more
  unfold sequence
  refine .peek_bind_at ?_
  split
  · exact ended.before fun _ _ => At.place
  · exact ended.before fun _ _ => At.place
  · exact ended.before fun _ _ => At.place
  rename_i same
  obtain rfl := Option.some.inj same
  refine .position_bind fun start start' => .take_bind_at macroGroup ?_
  cases p with
  | opening => exact absurd rfl macroGroup
  | escaped c => exact (pairs_escape c).bind fun _ _ _ grown same => more grown same
  | plain c ordinary =>
    dsimp -zeta only [Piece.unit]
    have after (other : c ≠ '(') (kept : List Bool) (ps : List Piece)
        (place : After (.plain c ordinary) (AtItem t) kept ps) : AtItem t kept ps :=
      AtItem.after place fun same => other (List.cons.inj same).1
    have still {kept : List Bool} {item : Item} (grown : base <+: kept) (omits : item.node.Omits kept item.node) :
        ItemPairs t kept n (sequence fuel verbose first (item :: done))
          (sequence fuel' verbose first (item :: done')) := more grown ⟨omits, rfl, rfl⟩
    have repeated (kept : List Bool) (grown : base <+: kept) (min : Nat) (max : Option Nat) :
        ItemPairs t kept n (do sequence fuel verbose first (← repeatLast start done min max))
          (do sequence fuel' verbose first (← repeatLast start' done' min max)) :=
      (pairs_repeatLast _ _ (items.mono grown) min max).bind fun _ _ _ _ same => ofSequence _ _ _ _ _ same
    refine .ite (fun layout => ?_) fun _ => .ite (fun comment => ?_) fun _ => ?_
    · refine (ofSequence _ _ _ _ _ items).before (after ?_)
      rintro rfl
      exact absurd (Bool.and_eq_true_iff.1 layout).2 (by decide)
    · obtain rfl : c = '#' := by simpa using (Bool.and_eq_true_iff.1 comment).2
      have skipped := pairs_skipLine.bind_same fun kept _ (grown : base <+: kept) =>
        (ofSequence kept verbose first done done' (items.mono grown)).before fun _ _ => Settled.atItem
      simp only [bind_assoc] at skipped
      exact skipped.before fun _ _ => AtItem.comment
    split
    · exact pairs_charSet.bind fun _ _ _ grown same => more grown ⟨same, rfl, rfl⟩
    · exact (still List.prefix_rfl .any).before (after (by decide))
    · exact (still List.prefix_rfl (.anchor _)).before (after (by decide))
    · exact (still List.prefix_rfl (.anchor _)).before (after (by decide))
    · exact (repeated _ List.prefix_rfl _ _).before (after (by decide))
    · exact (repeated _ List.prefix_rfl _ _).before (after (by decide))
    · exact (repeated _ List.prefix_rfl _ _).before (after (by decide))
    · refine (pairs_braces.before (after (by decide))).bind_same fun kept bounds grown => ?_
      split
      · exact repeated _ grown _ _
      · exact still grown (.literal _ _)
    · refine .accept_bind (by decide) (by decide) fun special => ?_
      extract_lets afterOpening afterOpening'
      have bodies := fun base => ofAlternatives base verbose
      have grouped (kept : List Bool) (grown : base <+: kept) (name : Option Text) :
          Pairs kept n (fun kept ps => Placed t kept ps (lead ps + 1)) Item.Omits (AtItem t)
            (afterOpening (.group name)) (afterOpening' (.group name)) :=
        pairs_group name start start' bodies (more.mono grown)
      -- the cases are those of the model, with the place of a special opening behind them
      have opened {kept : List Bool} (grown : base <+: kept) {opening opening' : Opening}
          (same : opening.Omits kept opening') :
          ItemPairs t kept n (afterOpening opening) (afterOpening' opening') := by
        have later := more.mono grown
        cases same with
        | nothing =>
          refine .get_bind fun kept' ps r r' grown' paired _ bound => .mono ?_ bound
          rw [paired.flags, empty]
          exact ofSequence _ _ _ _ _ (items.mono (grown.trans grown'))
        | item same => exact more grown same
        | group name => exact (grouped kept grown name).before fun _ _ place => Placed.mono place (Nat.le_succ _)
        | flags add remove =>
          refine (ofAlternatives kept _).bind fun _ body body' grown' same => ?_
          refine later.closing _ _ grown' ⟨?_, same.width, rfl⟩
          dsimp only
          split
          · exact same.node
          · exact .flagged _ _ same.node
        | atomic =>
          exact (bodies kept).bind fun _ _ _ grown' same =>
            later.closing _ _ grown' ⟨.atomic same.node, same.width, rfl⟩
        | lookahead negative =>
          exact (bodies kept).bind fun _ _ _ grown' same =>
            later.closing _ _ grown' ⟨.lookahead negative same.node, rfl, rfl⟩
        | lookbehind negative =>
          have lookbehind := pairs_lookbehind negative start start' bodies later
          exact lookbehind
        | conditional number =>
          have branches := fun base => ofSequence base verbose false [] [] .nil
          have conditional := pairs_conditional number start start' branches later
          exact conditional
      cases special with
      | true =>
        rw [empty]
        exact (pairs_specialOpening _ _ _).bind fun _ _ _ grown same => opened grown same
      | false =>
        refine .before ?_ fun kept ps (place : Accepted _ _ _ _ _) =>
          lead_group (fun more same => place.1 more same) ▸ Placed.tail place.2
        simp only [Bool.false_eq_true, if_false, pure_bind]
        exact grouped base List.prefix_rfl none
    · rename_i other
      exact (still List.prefix_rfl (.literal _ _)).before (after other)

/-- The readers have fuel for the pieces that are left: every sequence takes a piece before it reads on. -/
theorem pairs_readers (n : Nat) :
    (∀ {base fuel fuel'} verbose top first, 2 * n ≤ fuel → 2 * n ≤ fuel' →
      ItemPairs t base n (alternatives fuel verbose top first) (alternatives fuel' verbose top first)) ∧
    ∀ {base fuel fuel'} verbose first {done done'}, ItemsOmit base done done' → 2 * n ≤ fuel + 1 → 2 * n ≤ fuel' + 1 →
      ItemPairs t base n (sequence fuel verbose first done) (sequence fuel' verbose first done') := by
  induction n with
  | zero => exact ⟨fun _ _ _ _ _ => .zero, fun _ _ _ _ _ _ _ => .zero⟩
  | succ n ih =>
    obtain ⟨ofAlternatives, ofSequence⟩ := ih
    have sequences {base fuel fuel'} verbose first {done done'} (items : ItemsOmit base done done')
        (enough : 2 * (n + 1) ≤ fuel + 1) (enough' : 2 * (n + 1) ≤ fuel' + 1) :
        ItemPairs t base (n + 1) (sequence fuel verbose first done) (sequence fuel' verbose first done') := by
      obtain ⟨fuel, rfl⟩ : ∃ k, fuel = k + 1 := ⟨fuel - 1, by omega⟩
      obtain ⟨fuel', rfl⟩ : ∃ k, fuel' = k + 1 := ⟨fuel' - 1, by omega⟩
      exact pairs_sequence items (fun _ verbose => ofAlternatives verbose false false (by omega) (by omega))
        fun _ verbose first _ _ items => ofSequence verbose first items (by omega) (by omega)
    refine ⟨fun {base fuel fuel'} verbose top first enough enough' => ?_, sequences⟩
    obtain ⟨fuel, rfl⟩ : ∃ k, fuel = k + 1 := ⟨fuel - 1, by omega⟩
    obtain ⟨fuel', rfl⟩ : ∃ k, fuel' = k + 1 := ⟨fuel' - 1, by omega⟩
    unfold alternatives
    refine (sequences verbose first .nil enough enough').bind fun kept item item' _ same => ?_
    refine .accept_bind_shorter (by decide) (by decide) fun more => ?_
    cases more with
    | false => exact (Pairs.pure fun _ => same.mono).imp (fun _ _ place => place.2) fun _ _ place => place
    | true =>
      refine .before ?_ fun _ _ place => AtItem.after place (by decide)
      refine .get_bind fun kept ps r r' grown paired _ bound => .mono ?_ bound
      rw [paired.flags]
      refine (ofAlternatives _ top false (by omega) (by omega)).bind fun _ _ _ grown' same' => .pure fun _ grown'' => ?_
      have same := (same.mono (grown.trans grown')).mono grown''
      have same' := same'.mono grown''
      exact ⟨.alt same.node same'.node, congrArg₂ Width.join same.width same'.width, rfl⟩

end

end LexGen.Pattern
