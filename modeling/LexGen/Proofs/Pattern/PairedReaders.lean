import LexGen.Proofs.Pattern.Paired

/-!
# The parts of patterns with and without the groups of macros

The readers of what groups are made of, run with the groups of macros and without them. In sets, escapes and bounds no
such group can stand, and they are the same in both readings. Comments may hold one, which is skipped.

* `pairs_reference`: references by number, which are to groups with the same number in both readings.
* `ends_takeUntil`: names, in which no such group can stand.
-/

namespace LexGen.Pattern

variable {α β : Type}

theorem Fails.of_bind {x : Reader α} {f : α → Reader β} (h : ∀ a, Fails (f a)) : Fails (x >>= f) := by
  intro r
  rw [StateT.run_bind]
  cases x.run r with
  | error failure => exact ⟨failure, rfl⟩
  | ok found => exact h found.1 found.2

section

variable {base : List Bool} {n t : Nat} {P : List Bool → List Piece → Prop}

/-! ## Escapes -/

theorem isHexDigit_of_isOctalDigit {c : Char} (h : isOctalDigit c = true) : isHexDigit c = true := by
  have digit : c.isDigit = true := by
    rw [isOctalDigit, Bool.and_eq_true, decide_eq_true_eq, decide_eq_true_eq] at h
    rw [Char.isDigit, Bool.and_eq_true, decide_eq_true_eq, decide_eq_true_eq]
    exact ⟨h.1, Char.le_trans h.2 (by decide)⟩
  rw [isHexDigit, digit]
  rfl

theorem pairs_hexEscape (digits : Drops isHexDigit P) (letter : Char) (width : Nat) :
    Pairs base n P Same P (hexEscape letter width) (hexEscape letter width) := by
  refine (pairs_takeUpTo (by decide) digits (.inl rfl)).bind_same fun _ digits _ => ?_
  refine .check (fails_failBack _ _) (fails_failBack _ _) fun _ => ?_
  exact .check (fails_failBack _ _) (fails_failBack _ _) fun _ => .same _

theorem fails_characterName : Fails (numericEscape 'N') := by
  refine .of_bind fun opened => ?_
  cases opened with
  | false => exact (fails_failBack _ _).bind _
  | true => exact .of_bind fun _ => .of_bind fun name => fails_failBack _ _

theorem pairs_numericEscape (digits : Drops isHexDigit P) (c : Char) :
    Pairs base n P Same P (numericEscape c) (numericEscape c) := by
  by_cases name : c = 'N'
  · subst name
    exact .fails fails_characterName fails_characterName
  unfold numericEscape
  split
  · exact (pairs_hexEscape digits _ _).bind_same fun _ _ _ => .same _
  · exact (pairs_hexEscape digits _ _).bind_same fun _ _ _ => .same _
  · exact (pairs_hexEscape digits _ _).bind_same fun _ _ _ => .same _
  · exact absurd rfl name
  · exact .same _

theorem pairs_octalEscape (all : Text) : Pairs base n P Same P (octalEscape all) (octalEscape all) :=
  .check (fails_failBack _ _) (fails_failBack _ _) fun _ => .same _

theorem pairs_plainEscape (c : Char) : Pairs base n P Same P (plainEscape c) (plainEscape c) :=
  .check (fails_failBack _ _) (fails_failBack _ _) fun _ => .same _

theorem pairs_takeOctal (digits : Drops isHexDigit P) (limit : Nat) :
    Pairs base n P Same P (takeUpTo isOctalDigit limit) (takeUpTo isOctalDigit limit) :=
  pairs_takeUpTo (by decide) (fun _ _ ordinary _ octal => digits ordinary (isHexDigit_of_isOctalDigit octal)) (.inl rfl)

theorem pairs_setEscape (digits : Drops isHexDigit P) (c : Char) :
    Pairs base n P Same P (setEscape c) (setEscape c) := by
  unfold setEscape
  split
  · exact .same _
  split
  · exact .same _
  refine (pairs_numericEscape digits c).bind_same fun _ code _ => ?_
  split
  · exact .same _
  refine .ite (fun _ => ?_) fun _ => (pairs_plainEscape c).bind_same fun _ _ _ => .same _
  refine (pairs_takeOctal digits 2).bind_same fun _ more _ => ?_
  exact (pairs_octalEscape _).bind_same fun _ _ _ => .same _

/-! ## Sets -/

theorem pairs_setMember (digits : Drops isHexDigit P) (unit : Text) :
    Pairs base n P Same P (setMember unit) (setMember unit) := by
  unfold setMember
  split
  · exact pairs_setEscape digits _
  · exact .same _
  · exact .same _

theorem drops_member : Drops isHexDigit (AtMember t false) := by
  intro kept c ordinary ps digit place
  refine place.after (.inl fun same => ?_)
  obtain rfl : c = ']' := (List.cons.inj same).1
  exact absurd digit (by decide)

theorem pairs_setItems (start start' : Nat) {fuel fuel' : Nat} (enough : n ≤ fuel) (enough' : n ≤ fuel')
    (read : List SetItem) :
    Pairs base n (AtMember t read.isEmpty) Same (AtItem t) (setItems start fuel read) (setItems start' fuel' read) := by
  induction n generalizing base fuel fuel' read with
  | zero => exact .zero
  | succ n ih =>
    obtain ⟨fuel, rfl⟩ : ∃ k, fuel = k + 1 := ⟨fuel - 1, by omega⟩
    obtain ⟨fuel', rfl⟩ : ∃ k, fuel' = k + 1 := ⟨fuel' - 1, by omega⟩
    have refused {start : Nat} : Fails (failFrom "unterminated character set" start : Reader (List SetItem)) :=
      fails_failFrom _ _
    have later (kept : List Bool) (item : SetItem) : Pairs kept n (AtMember t false) Same (AtItem t)
        (setItems start fuel (read ++ [item])) (setItems start' fuel' (read ++ [item])) := by
      have nonempty : (read ++ [item]).isEmpty = false := by simp
      exact nonempty ▸ ih (by omega) (by omega) (read ++ [item])
    have ended {p : Piece} (closing : p.unit = [']']) (kept : List Bool) (ps : List Piece)
        (place : After p (AtMember t false) kept ps) : AtItem t kept ps := by
      obtain rfl := Piece.eq_plain_of_unit closing (by decide) (by decide)
      exact AtMember.end place
    refine .take_bind (.fails refused refused) (fun _ _ place => absurd place.1 Bool.false_ne_true) fun p _ => ?_
    refine .ite (fun closed => ?_) fun going => ?_
    · obtain ⟨closing, nonempty⟩ := Bool.and_eq_true_iff.1 closed
      have later : read.isEmpty = false := by simpa using nonempty
      rw [later]
      exact (Pairs.same read).imp (ended (by simpa using closing)) fun _ _ place => place
    -- a closing bracket is a member of the set where it comes first
    have inside : p.unit ≠ [']'] ∨ read.isEmpty = true := by
      by_cases closing : p.unit = [']']
      · exact .inr (by simpa [closing] using going)
      · exact .inl closing
    refine .before ?_ fun _ _ (place : After p (AtMember t read.isEmpty) _ _) => AtMember.after place inside
    refine (pairs_setMember drops_member _).bind_same fun kept first _ => ?_
    have dash : '-' ≠ '\\' := by decide
    refine Pairs.bind_same (pairs_accept dash (by decide) fun _ _ place => place.after (.inl (by simp [Piece.unit])))
      fun kept ranged _ => ?_
    refine .ite (fun _ => ?_) fun _ => later _ _
    refine Pairs.mono (.take_bind (.fails refused refused)
      (fun _ _ place => absurd place.1 Bool.false_ne_true) fun p _ => ?_) (Nat.le_succ n)
    split
    · exact .fails refused refused
    · rename_i closing
      exact (Pairs.same _).imp (ended (Option.some.inj closing)) fun _ _ place => place
    · rename_i other going same
      obtain rfl := Option.some.inj same
      refine .before ?_ fun _ _ (place : After p (AtMember t false) _ _) => place.after (.inl fun closing => ?_)
      · refine (pairs_setMember drops_member _).bind_same fun kept last _ => ?_
        dsimp only
        split
        · exact .ite (fun _ => .fails (fails_failBack _ _) (fails_failBack _ _)) fun _ => later _ _
        · exact .fails (fails_failBack _ _) (fails_failBack _ _)
      · exact going closing

theorem pairs_charSet {ordinary : '[' ≠ '\\'} :
    Pairs base n (After (.plain '[' ordinary) (AtItem t)) Node.Omits (AtItem t) charSet charSet := by
  refine .before ?_ fun _ _ => AtItem.set
  refine .position_bind fun start start' => ?_
  refine (pairs_accept (by decide) (by decide) fun _ _ => AtMember.caret).bind_same fun _ negated _ => ?_
  refine .get_bind fun kept ps r r' _ paired _ _ => ?_
  refine Pairs.bind_same (pairs_setItems _ _ ?_ ?_ []) fun _ items _ => ?_
  · rw [paired.rest]
    exact Nat.succ_le_succ (length_le_captured ps)
  · rw [paired.rest']
    exact Nat.succ_le_succ (Nat.le_trans (length_le_captured ps) (captured_le_spared ps))
  · split
    · exact .pure fun _ _ => .literal _ _
    · exact .pure fun _ _ => .set _ _

/-! ## Items -/

/-- The same item but for the groups that are left out. -/
structure Item.Omits (kept : List Bool) (item item' : Item) : Prop where
  node : item.node.Omits kept item'.node
  width : item.width = item'.width
  kind : item.kind = item'.kind

theorem Item.Omits.mono {kept kept' : List Bool} (le : kept <+: kept') {item item' : Item} (h : item.Omits kept item') :
    item.Omits kept' item' := ⟨h.node.mono le, h.width, h.kind⟩

abbrev ItemsOmit (kept : List Bool) (items items' : List Item) : Prop := List.Forall₂ (Item.Omits kept) items items'

theorem ItemsOmit.mono {kept kept' : List Bool} (le : kept <+: kept') {items items' : List Item}
    (h : ItemsOmit kept items items') : ItemsOmit kept' items items' := h.imp fun _ _ omits => omits.mono le

theorem omits_row {kept : List Bool} {items items' : List Item} (h : ItemsOmit kept items items') :
    (Item.row items).Omits kept (Item.row items') := by
  refine ⟨?_, ?_, rfl⟩
  · change Node.Omits kept (List.foldr _ _ _) (List.foldr _ _ _)
    induction h with
    | nil => exact .empty
    | @cons item item' items items' first rest ih =>
      rw [List.foldr_cons, List.foldr_cons]
      generalize List.foldr _ _ items = more, List.foldr _ _ items' = more' at ih
      by_cases nothing : more = .empty
      · subst nothing
        cases ih
        exact first.node
      · rw [if_neg nothing]
        by_cases nothing' : more' = .empty
        · subst nothing'
          exact .last first.node ih
        · rw [if_neg nothing']
          exact .seq first.node ih
  · change List.foldl _ _ _ = List.foldl _ _ _
    generalize Width.zero = width
    induction h generalizing width with
    | nil => rfl
    | cons first _ ih => rw [List.foldl_cons, List.foldl_cons, first.width, ih]

theorem pairs_item {item : Item} (omits : ∀ kept, item.node.Omits kept item.node) :
    Pairs base n P Item.Omits P (pure item) (pure item) := .pure fun kept _ => ⟨omits kept, rfl, rfl⟩

/-! ## References -/

theorem pairs_checkBehind {j i : Nat} (number : Renumbers base j i) :
    Pairs base n P Same P (checkBehind j) (checkBehind i) := by
  refine .get_bind fun kept ps r r' grown paired _ _ => ?_
  have number := number.mono grown
  have behind := paired.behind
  rcases cases_of_rel behind with ⟨none, none'⟩ | ⟨groups, groups', some, some', outside⟩
  · rw [none, none']
    exact .same _
  · rw [some, some', paired.closed number]
    have after : groups ≤ j ↔ groups' ≤ i := outside.le_iff number
    refine .check (fails_failBack _ _) (fails_failBack _ _) fun _ => ?_
    by_cases inside : groups ≤ j
    · rw [if_pos inside, if_pos (after.1 inside)]
      exact .fails (fails_failBack _ _) (fails_failBack _ _)
    · rw [if_neg inside, if_neg (mt after.2 inside)]
      exact .same _

theorem pairs_referTo {j i : Nat} (number : Renumbers base j i) (back back' : Nat) :
    Pairs base n P Item.Omits P (referTo j back) (referTo i back') := by
  refine .get_bind fun kept ps r r' grown paired _ _ => ?_
  rw [paired.closed (number.mono grown)]
  split
  · exact .fails (fails_failBack _ _) (fails_failBack _ _)
  · refine (pairs_checkBehind (number.mono grown)).bind_same fun later _ grown' => ?_
    exact .pure fun last grown'' => ⟨.backreference (((number.mono grown).mono grown').mono grown''), rfl, rfl⟩

theorem drops_item : Drops isHexDigit (AtItem t) := by
  intro kept c ordinary ps digit place
  refine place.after fun same => ?_
  obtain rfl : c = '(' := (List.cons.inj same).1
  exact absurd digit (by decide)

/-- Read a reference by number after its first digit, or the code of a character in octal digits. -/
def reference (c : Char) : Reader Item := do
  let second ← takeUpTo Char.isDigit 1
  if isOctalDigit c && second.all isOctalDigit && !second.isEmpty then
    let third ← takeUpTo isOctalDigit 1
    if !third.isEmpty then
      return .char (.literal false (← octalEscape ('\\' :: c :: second ++ third)))
  let index := valueIn 10 (c :: second)
  if index < (← get).groups then referTo index (second.length + 2)
  else failBack ("invalid group reference " ++ toString index) (second.length + 1)

theorem escape_of_isDigit {c : Char} (digit : c.isDigit = true) (nonzero : c ≠ '0') : escape c = reference c := by
  have other {d : Char} (letter : d.isDigit = false) : c ≠ d := by
    rintro rfl
    exact Bool.false_ne_true (letter.symm.trans digit)
  have anchor : anchorEscape? c = none := by
    unfold anchorEscape?
    split <;> first | rfl | exact absurd rfl (other (by decide))
  have charClass : classEscape? c = none := by
    unfold classEscape?
    split <;> first | rfl | exact absurd rfl (other (by decide))
  have letter : letterEscape? c = none := by
    unfold letterEscape?
    split <;> first | rfl | exact absurd rfl (other (by decide))
  have numeric : numericEscape c = pure none := by
    unfold numericEscape
    split <;> first | rfl | exact absurd rfl (other (by decide))
  unfold escape reference
  simp only [anchor, charClass, letter, numeric, pure_bind, if_neg nonzero, if_pos digit]

theorem pairs_secondDigit {c : Char} (digit : c.isDigit = true) (nonzero : c ≠ '0') :
    Pairs base n (After (.escaped c) (AtItem t))
      (fun _ second second' => second = second' ∧ valueIn 10 (c :: second) ≤ t) (AtItem t)
      (takeUpTo Char.isDigit 1) (takeUpTo Char.isDigit 1) := by
  have low {kept : List Bool} {ps : List Piece} (place : After (.escaped c) (AtItem t) kept ps) :
      valueIn 10 (c :: secondDigit ps) ≤ t := by
    have fitting := (fit_cons place.fit).1
    simpa [fits, digit, nonzero] using fitting
  have after {kept : List Bool} {ps : List Piece} (place : After (.escaped c) (AtItem t) kept ps) : AtItem t kept ps :=
    AtItem.after place (by simp [Piece.unit])
  refine .cases_head (fun kept ps r r' grown paired ended bound => ?_) fun next => ?_
  · obtain ⟨rfl, place⟩ := ended
    rw [run_takeUpTo_of_ne (by simp [paired.rest, unit?]), run_takeUpTo_of_ne (by simp [paired.rest', unit?])]
    exact .step List.prefix_rfl (Nat.le_refl _) ⟨rfl, low place⟩ (after place) paired
  have stop (none : ∀ ps, secondDigit (next :: ps) = []) :
      Pairs base n (At next (After (.escaped c) (AtItem t)))
        (fun _ second second' => second = second' ∧ valueIn 10 (c :: second) ≤ t) (AtItem t) (pure []) (pure []) := by
    refine .of_place (fun kept ps here => ?_) fun known =>
      (Pairs.pure fun _ _ => ⟨rfl, known⟩).imp (fun _ _ place => place) fun _ _ here => after here.place
    obtain ⟨qs, rfl, place⟩ := here
    exact none qs ▸ low place
  refine .peek_bind_at ?_
  cases next with
  | plain d ordinary =>
    refine .ite (fun digit => ?_) fun other => stop fun ps => if_neg other
    cases n with
    | zero => exact .zero
    | succ n =>
      refine .take_bind_at (Piece.plain_ne_opening ordinary) ?_
      refine .of_place (fun kept ps place => ?_) fun known =>
        (Pairs.pure fun _ _ => ⟨rfl, known⟩).imp (fun _ _ place => place) fun _ _ place => ?_
      · have two : secondDigit (.plain d ordinary :: ps) = [d] := if_pos digit
        exact two ▸ low place
      · exact (after place).after fun same => absurd digit (by simp [(List.cons.inj same).1])
  | escaped d => exact stop fun _ => rfl
  | opening => exact stop fun _ => rfl

theorem le_valueIn (c : Char) (digits : Text) : digitOf c ≤ valueIn 10 (c :: digits) := by
  have grows (n : Nat) (digits : Text) : n ≤ digits.foldl (fun n c => n * 10 + digitOf c) n := by
    induction digits generalizing n with
    | nil => exact Nat.le_refl _
    | cons d digits ih => exact Nat.le_trans (by omega) (ih (n * 10 + digitOf d))
  exact Nat.le_trans (by simp) (grows _ digits)

theorem digitOf_pos {c : Char} (digit : c.isDigit = true) (nonzero : c ≠ '0') : 0 < digitOf c := by
  have least : '0'.toNat ≤ c.toNat := by
    rw [Char.isDigit, Bool.and_eq_true, decide_eq_true_eq] at digit
    exact UInt32.le_iff_toNat_le.1 digit.1
  have other : c.toNat ≠ '0'.toNat := fun same => nonzero (Char.toNat_inj.1 same)
  have code : '0'.toNat = 48 := rfl
  rw [digitOf, if_pos digit]
  omega

theorem pairs_reference {c : Char} (digit : c.isDigit = true) (nonzero : c ≠ '0') :
    Pairs base n (After (.escaped c) (AtItem t)) Item.Omits (AtItem t) (reference c) (reference c) := by
  refine (pairs_secondDigit digit nonzero).bind fun kept second second' _ known => ?_
  obtain ⟨rfl, low⟩ := known
  have reference (base : List Bool) : Pairs base n (AtItem t) Item.Omits (AtItem t) (do
      let index := valueIn 10 (c :: second)
      if index < (← get).groups then referTo index (second.length + 2)
      else failBack ("invalid group reference " ++ toString index) (second.length + 1) : Reader Item) (do
      let index := valueIn 10 (c :: second)
      if index < (← get).groups then referTo index (second.length + 2)
      else failBack ("invalid group reference " ++ toString index) (second.length + 1)) := by
    refine .get_bind fun kept ps r r' _ paired place _ => ?_
    have positive : 0 < valueIn 10 (c :: second) := Nat.lt_of_lt_of_le (digitOf_pos digit nonzero) (le_valueIn c second)
    obtain ⟨k, index⟩ : ∃ k, valueIn 10 (c :: second) = k + 1 := ⟨_, (Nat.succ_pred_eq_of_pos positive).symm⟩
    rw [index] at low ⊢
    rw [paired.groups, paired.groups']
    by_cases opened : k < kept.length
    · have number : Renumbers kept (k + 1) (k + 1) := Placed.renumbers place low opened
      have few := number.le
      rw [if_pos (by omega), if_pos (by omega)]
      exact pairs_referTo number _ _
    · have fewer : kept.count true ≤ kept.length := List.count_le_length
      rw [if_neg (by omega), if_neg (by omega)]
      exact .fails (fails_failBack _ _) (fails_failBack _ _)
  refine .ite (fun _ => ?_) fun _ => reference _
  refine (pairs_takeOctal drops_item 1).bind_same fun kept third grown => .ite (fun _ => ?_) fun _ => ?_
  · exact (pairs_octalEscape _).bind_same fun _ _ _ => pairs_item fun _ => .literal _ _
  · exact reference _

theorem pairs_escape (c : Char) :
    Pairs base n (After (.escaped c) (AtItem t)) Item.Omits (AtItem t) (escape c) (escape c) := by
  by_cases number : c.isDigit = true ∧ c ≠ '0'
  · rw [escape_of_isDigit number.1 number.2]
    exact pairs_reference number.1 number.2
  refine .before ?_ fun _ _ place => AtItem.after place (by simp [Piece.unit])
  unfold escape
  split
  · exact pairs_item fun _ => .anchor _
  split
  · exact pairs_item fun _ => .set _ _
  split
  · exact pairs_item fun _ => .literal _ _
  refine (pairs_numericEscape drops_item c).bind_same fun _ code _ => ?_
  split
  · exact pairs_item fun _ => .literal _ _
  refine .ite (fun _ => ?_) fun nonzero => ?_
  · exact (pairs_takeOctal drops_item 2).bind_same fun _ _ _ => pairs_item fun _ => .literal _ _
  · rw [if_neg fun digit => number ⟨digit, nonzero⟩]
    exact (pairs_plainEscape c).bind_same fun _ _ _ => pairs_item fun _ => .literal _ _

/-! ## Repetition -/

theorem pairs_acceptItem {c : Char} (ordinary : c ≠ '\\') (other : c ≠ '(') :
    Pairs base n (AtItem t) Same (AtItem t) (accept c) (accept c) :=
  pairs_accept ordinary other fun _ _ place => AtItem.after place (by simpa [Piece.unit] using other)

theorem drops_digit : Drops Char.isDigit (AtItem t) :=
  fun _ _ ordinary _ digit => drops_item ordinary (by rw [isHexDigit, digit]; rfl)

theorem pairs_bounds : Pairs base n (AtItem t) Same (AtItem t) bounds bounds := by
  refine (pairs_takeAll (by decide) drops_digit).bind_same fun _ low _ => ?_
  refine (pairs_acceptItem (by decide) (by decide)).bind_same fun _ comma _ => ?_
  have closed (base : List Bool) (high : Text) : Pairs base n (AtItem t) Same (AtItem t)
      (do return (low, high, ← accept '}') : Reader (Text × Text × Bool)) (do return (low, high, ← accept '}')) :=
    (pairs_acceptItem (by decide) (by decide)).bind_same fun _ _ _ => .same _
  exact .ite (fun _ => (pairs_takeAll (by decide) drops_digit).bind_same fun _ _ _ => closed _ _)
    fun _ => (Pairs.same low).bind_same fun _ _ _ => closed _ _

theorem pairs_roundCount (digits : Text) : Pairs base n P Same P (roundCount digits) (roundCount digits) :=
  .check (fails_throw _) (fails_throw _) fun _ => .check (fails_throw _) (fails_throw _) fun _ => .same _

theorem pairs_readBounds (start start' : Nat) (low high : Text) :
    Pairs base n P Same P (readBounds start low high) (readBounds start' low high) := by
  have checked (base : List Bool) (min : Nat) (max : Option Nat) :
      Pairs base n P Same P (checkBounds start min max) (checkBounds start' min max) := by
    cases max with
    | none => exact .same _
    | some max => exact .check (fails_failFrom _ _) (fails_failFrom _ _) fun _ => .same _
  unfold readBounds
  extract_lets afterMin afterMin'
  have known (base : List Bool) (min : Nat) : Pairs base n P Same P (afterMin min) (afterMin' min) := by
    refine .ite (fun _ => (Pairs.same none).bind_same fun _ _ _ => checked _ _ _) fun _ => ?_
    rw [map_eq_pure_bind]
    exact ((pairs_roundCount high).bind_same fun _ _ _ => .same _).bind_same fun _ _ _ => checked _ _ _
  exact .ite (fun _ => (Pairs.same 0).bind_same fun _ _ _ => known _ _)
    fun _ => (pairs_roundCount low).bind_same fun _ _ _ => known _ _

theorem pairs_tryBounds : Pairs base n (AtItem t) Same (AtItem t) tryBounds tryBounds := by
  intro kept ps r r' grown paired place bound
  have ends := pairs_bounds grown paired place bound
  rw [run_tryBounds, run_tryBounds, StateT.run_bind, StateT.run_bind]
  generalize bounds.run r = found, bounds.run r' = found' at ends
  cases ends with
  | failed => exact .failed _ _
  | @step kept' qs a b now now' more shorter same place' between =>
    subst same
    obtain ⟨low, high, closed⟩ := a
    cases closed with
    | true =>
      have last : Pairs kept' n (AtItem t) Same (AtItem t) (readBounds (r.total - r.rest.length) low high)
        (readBounds (r'.total - r'.rest.length) low high) := pairs_readBounds _ _ low high
      exact (last List.prefix_rfl between place' (Nat.lt_of_le_of_lt shorter bound)).weaken more shorter
    | false => exact .step List.prefix_rfl (Nat.le_refl _) rfl place paired

theorem pairs_braces : Pairs base n (AtItem t) Same (AtItem t) braces braces := by
  rw [braces_eq]
  refine .peek_bind ?_ fun p => ?_
  · exact pairs_tryBounds.before fun _ _ place => place.2
  · refine .before ?_ fun _ _ => At.place
    exact .ite (fun _ => .same _) fun _ => pairs_tryBounds

theorem pairs_readGreed : Pairs base n (AtItem t) Same (AtItem t) readGreed readGreed := by
  have plainly : Pairs base n (AtItem t) Same (AtItem t) (pure Greed.greedy) (pure .greedy) := .same _
  refine .peek_bind (plainly.before fun _ _ place => place.2) fun p => ?_
  have taken {greed : Greed} (other : p.unit ≠ ['(']) (ordinary : p ≠ .opening) :
      Pairs base n (At p (AtItem t)) Same (AtItem t) (take >>= fun _ => pure greed) (take >>= fun _ => pure greed) := by
    refine Pairs.mono (.take_bind_at ordinary ?_) (Nat.le_succ n)
    exact (Pairs.same greed).imp (fun _ _ place => AtItem.after place other) fun _ _ place => place
  split
  · rename_i question
    obtain rfl := Piece.eq_plain_of_unit (Option.some.inj question) (by decide) (by decide)
    exact taken (by simp [Piece.unit]) (Piece.plain_ne_opening _)
  · rename_i plus
    obtain rfl := Piece.eq_plain_of_unit (Option.some.inj plus) (by decide) (by decide)
    exact taken (by simp [Piece.unit]) (Piece.plain_ne_opening _)
  · exact plainly.before fun _ _ => At.place

theorem pairs_repeatLast (start start' : Nat) {done done' : List Item} (same : ItemsOmit base done done') (min : Nat)
    (max : Option Nat) :
    Pairs base n (AtItem t) ItemsOmit (AtItem t) (repeatLast start done min max) (repeatLast start' done' min max) := by
  cases same with
  | nil => exact .fails (fails_failFrom _ _) (fails_failFrom _ _)
  | @cons item item' before before' first rest =>
    obtain ⟨node, width, kind⟩ := item
    obtain ⟨node', width', kind'⟩ := item'
    obtain rfl : kind = kind' := first.kind
    unfold repeatLast
    refine .check (fails_failFrom _ _) (fails_failFrom _ _) fun _ => ?_
    refine .check (fails_failFrom _ _) (fails_failFrom _ _) fun _ => ?_
    refine pairs_readGreed.bind_same fun kept greed grown => .pure fun kept' grown' => ?_
    have le := grown.trans grown'
    exact .cons ⟨.repetition _ _ _ (first.node.mono le), congrArg (·.times min max) first.width, rfl⟩
      (ItemsOmit.mono le rest)

/-! ## Comments -/

def skipTo (stop : Char) (atEnd : Reader Unit) : (fuel : Nat) → Reader Unit
  | 0 => atEnd
  | fuel + 1 => do
    match ← take with
    | none => atEnd
    | some unit => if unit = [stop] then pure () else skipTo stop atEnd fuel

theorem skipComment_eq (start fuel : Nat) :
    skipComment start fuel = skipTo ')' (failFrom "missing ), unterminated comment" start) fuel := by
  induction fuel with
  | zero => rfl
  | succ fuel ih =>
    refine bind_congr fun next => ?_
    cases next with
    | none => rfl
    | some unit => rw [ih]

theorem skipLine_eq (fuel : Nat) : skipLine fuel = skipTo '\n' (pure ()) fuel := by
  induction fuel with
  | zero => rfl
  | succ fuel ih =>
    refine bind_congr fun next => ?_
    cases next with
    | none => rfl
    | some unit => rw [ih]

theorem run_skipTo {stop : Char} {atEnd : Reader Unit} {r now : Reading} {unit : Text}
    (took : take.run r = .ok (some unit, now)) (fuel : Nat) :
    (skipTo stop atEnd (fuel + 1)).run r =
      if unit = [stop] then .ok ((), now) else (skipTo stop atEnd fuel).run now := by
  rw [skipTo, run_bind_of_ok took]
  dsimp only
  split <;> rfl

theorem pairs_skipTo {stop : Char} (other : stop ≠ '(' ∧ stop ≠ '?' ∧ stop ≠ ':') {atEnd atEnd' : Reader Unit}
    (ended : ∀ base, Pairs base 1 (Settled t) Same (Settled t) atEnd atEnd') {ps : List Piece} {fuel fuel' : Nat}
    (enough : ps.length < fuel) (enough' : (spared ps).length < fuel') {kept : List Bool} {r r' : Reading}
    (paired : Paired kept ps r r') (place : Settled t kept ps) :
    PairedEnds kept ps.length Same (Settled t) ((skipTo stop atEnd fuel).run r)
      ((skipTo stop atEnd' fuel').run r') := by
  induction ps generalizing fuel fuel' r r' with
  | nil =>
    obtain ⟨fuel, rfl⟩ : ∃ k, fuel = k + 1 := ⟨fuel - 1, by simp at enough; omega⟩
    obtain ⟨fuel', rfl⟩ : ∃ k, fuel' = k + 1 := ⟨fuel' - 1, by simp at enough'; omega⟩
    rw [skipTo, skipTo, run_bind_of_ok paired.run_take_nil.1, run_bind_of_ok paired.run_take_nil.2]
    exact ended kept List.prefix_rfl paired place Nat.one_pos
  | cons p ps ih =>
    rw [spared_cons, List.length_append] at enough'
    obtain ⟨fuel, rfl⟩ : ∃ k, fuel = k + 1 := ⟨fuel - 1, by omega⟩
    obtain ⟨fuel', rfl⟩ : ∃ k, fuel' = k + 1 := ⟨fuel' - 1, by omega⟩
    rw [List.length_cons] at enough
    have later {fuel' : Nat} (enough' : (spared ps).length < fuel') :
        PairedEnds kept (ps.length + 1) Same (Settled t) ((skipTo stop atEnd fuel).run { r with rest := captured ps })
          ((skipTo stop atEnd' fuel').run { r' with rest := spared ps }) :=
      (ih (Nat.lt_of_succ_lt_succ enough) enough' (paired.goOn ps) place.tail).weaken List.prefix_rfl (Nat.le_succ _)
    rw [run_skipTo paired.run_take]
    by_cases macroGroup : p = .opening
    · subst macroGroup
      have length : Piece.opening.sparing.length = 3 := rfl
      obtain ⟨fuel', rfl⟩ : ∃ k, fuel' = k + 2 := ⟨fuel' - 2, by omega⟩
      have parenthesis : ['('] ≠ [stop] := by simpa using other.1.symm
      have question : ['?'] ≠ [stop] := by simpa using other.2.1.symm
      have colon : [':'] ≠ [stop] := by simpa using other.2.2.symm
      have unit : Piece.opening.unit = ['('] := rfl
      rw [unit, run_skipTo paired.run_take_opening, run_skipTo (Paired.run_take_question r' ps),
        run_skipTo (Paired.run_take_colon r' ps), if_neg parenthesis, if_neg parenthesis, if_neg question, if_neg colon]
      exact later (by omega)
    · rw [run_skipTo (paired.run_take' macroGroup)]
      have length : 1 ≤ p.sparing.length := by cases p <;> simp [Piece.sparing]
      split
      · exact .step List.prefix_rfl (Nat.le_succ _) rfl place.tail (paired.goOn ps)
      · exact later (by omega)

theorem pairs_skipComment (start start' : Nat) :
    Pairs base n (Settled t) Same (Settled t) (do skipComment start ((← get).rest.length + 1))
      (do skipComment start' ((← get).rest.length + 1)) := by
  intro kept ps r r' _ paired place _
  change PairedEnds kept ps.length Same (Settled t) ((skipComment start (r.rest.length + 1)).run r)
    ((skipComment start' (r'.rest.length + 1)).run r')
  rw [skipComment_eq, skipComment_eq, paired.rest, paired.rest']
  exact pairs_skipTo (by decide) (fun _ => .fails (fails_failFrom _ _) (fails_failFrom _ _))
    (Nat.lt_succ_of_le (length_le_captured ps)) (Nat.lt_succ_self _) paired place

theorem pairs_skipLine : Pairs base n (Settled t) Same (Settled t) (do skipLine ((← get).rest.length + 1))
      (do skipLine ((← get).rest.length + 1)) := by
  intro kept ps r r' _ paired place _
  change PairedEnds kept ps.length Same (Settled t) ((skipLine (r.rest.length + 1)).run r)
    ((skipLine (r'.rest.length + 1)).run r')
  rw [skipLine_eq, skipLine_eq, paired.rest, paired.rest']
  exact pairs_skipTo (by decide) (fun _ => .same _) (Nat.lt_succ_of_le (length_le_captured ps)) (Nat.lt_succ_self _)
    paired place

/-! ## Names -/

theorem run_takeUntil {closing : Char} {what : String} {r now : Reading} {unit : Text}
    (took : take.run r = .ok (some unit, now)) (fuel : Nat) (taken : Text) :
    (takeUntil closing what (fuel + 1) taken).run r =
      if unit = [closing] then (if taken.isEmpty then failBack ("missing " ++ what) 1 else pure taken).run now
      else (takeUntil closing what fuel (taken ++ unit)).run now := by
  rw [takeUntil, run_bind_of_ok took]
  dsimp only
  split <;> rfl

theorem mem_of_takeUntil {closing c : Char} {what : String} {fuel : Nat} {taken name : Text} {r now : Reading}
    (ended : (takeUntil closing what fuel taken).run r = .ok (name, now)) (mem : c ∈ taken) : c ∈ name := by
  have refused {message : String} {back : Nat} {r : Reading} :
      ¬(failBack message back : Reader Text).run r = .ok (name, now) := by
    obtain ⟨failure, failed⟩ := fails_failBack (α := Text) message back r
    rw [failed]
    exact nofun
  induction fuel generalizing taken r with
  | zero => exact absurd ended refused
  | succ fuel ih =>
    obtain ⟨found, between, took, ended⟩ := ok_of_run_bind ended
    cases found with
    | none =>
      dsimp only at ended
      split at ended <;> exact absurd ended refused
    | some unit =>
      dsimp only at ended
      split at ended
      · split at ended
        · exact absurd ended refused
        · obtain ⟨rfl, -⟩ := Prod.mk.inj (Except.ok.inj ended)
          exact mem
      · exact ih ended (List.mem_append_left _ mem)

/-- How two readers of a name end that stands before a closing character. A group of a macro in it leads to names that
are none. -/
inductive NameEnds (t : Nat) (kept : List Bool) (closing : Char) (ps : List Piece) (taken : Text) :
    Except Failure (Text × Reading) → Except Failure (Text × Reading) → Prop
  | step {qs : List Piece} {now now' : Reading} (shorter : qs.length ≤ ps.length) (place : AtItem t kept qs)
    (paired : Paired kept qs now now') :
    NameEnds t kept closing ps taken (.ok (taken ++ captured (ps.takeWhile (·.unit != [closing])), now))
      (.ok (taken ++ captured (ps.takeWhile (·.unit != [closing])), now'))
  | apart {result result' : Except Failure (Text × Reading)}
    (ended : ∀ name now, result = .ok (name, now) → '(' ∈ name)
    (ended' : ∀ name now, result' = .ok (name, now) → '(' ∈ name) : NameEnds t kept closing ps taken result result'

theorem ends_takeUntil {closing : Char} (other : closing ≠ '(') (what : String) {ps : List Piece} {fuel fuel' : Nat}
    (enough : ps.length < fuel) (enough' : ps.length < fuel') (taken : Text) {kept : List Bool} {r r' : Reading}
    (paired : Paired kept ps r r') (place : AtItem t kept ps) :
    NameEnds t kept closing ps taken ((takeUntil closing what fuel taken).run r)
      ((takeUntil closing what fuel' taken).run r') := by
  induction ps generalizing fuel fuel' taken r r' with
  | nil =>
    obtain ⟨fuel, rfl⟩ : ∃ k, fuel = k + 1 := ⟨fuel - 1, by omega⟩
    obtain ⟨fuel', rfl⟩ : ∃ k, fuel' = k + 1 := ⟨fuel' - 1, by omega⟩
    have refused : Fails (if taken.isEmpty then failBack ("missing " ++ what) 0
        else failBack ("missing " ++ closing.toString ++ ", unterminated name") taken.length : Reader Text) := by
      split <;> exact fails_failBack _ _
    obtain ⟨failure, failed⟩ := refused r
    obtain ⟨failure', failed'⟩ := refused r'
    rw [takeUntil, takeUntil, run_bind_of_ok paired.run_take_nil.1, run_bind_of_ok paired.run_take_nil.2]
    dsimp only
    rw [failed, failed']
    exact .apart (fun _ _ => nofun) fun _ _ => nofun
  | cons p ps ih =>
    obtain ⟨fuel, rfl⟩ : ∃ k, fuel = k + 1 := ⟨fuel - 1, by omega⟩
    obtain ⟨fuel', rfl⟩ : ∃ k, fuel' = k + 1 := ⟨fuel' - 1, by omega⟩
    rw [List.length_cons] at enough enough'
    by_cases parenthesis : p.unit = ['(']
    · have going : p.unit ≠ [closing] := by
        rw [parenthesis]
        simpa using other.symm
      obtain ⟨now', took'⟩ : ∃ now', take.run r' = .ok (some p.unit, now') := by
        by_cases macroGroup : p = .opening
        · subst macroGroup
          exact ⟨_, paired.run_take_opening⟩
        · exact ⟨_, paired.run_take' macroGroup⟩
      rw [run_takeUntil paired.run_take, run_takeUntil took', if_neg going, if_neg going]
      have mem : '(' ∈ taken ++ p.unit := by simp [parenthesis]
      exact .apart (fun _ _ ended => mem_of_takeUntil ended mem) fun _ _ ended => mem_of_takeUntil ended mem
    have ordinary : p ≠ .opening := by
      rintro rfl
      exact parenthesis rfl
    have after := AtItem.after place parenthesis
    rw [run_takeUntil paired.run_take, run_takeUntil (paired.run_take' ordinary)]
    by_cases closes : p.unit = [closing]
    · rw [if_pos closes, if_pos closes]
      by_cases empty : taken.isEmpty = true
      · rw [if_pos empty]
        obtain ⟨failure, failed⟩ := fails_failBack (α := Text) ("missing " ++ what) 1 { r with rest := captured ps }
        obtain ⟨failure', failed'⟩ := fails_failBack (α := Text) ("missing " ++ what) 1 { r' with rest := spared ps }
        rw [failed, failed']
        exact .apart (fun _ _ => nofun) fun _ _ => nofun
      · rw [if_neg empty]
        have nothing : taken = taken ++ captured ((p :: ps).takeWhile (·.unit != [closing])) := by simp [closes]
        have ends : NameEnds t kept closing (p :: ps) taken _ _ := .step (Nat.le_succ ps.length) after (paired.goOn ps)
        rw [← nothing] at ends
        exact ends
    · rw [if_neg closes, if_neg closes]
      have ends := ih (Nat.lt_of_succ_lt_succ enough) (Nat.lt_of_succ_lt_succ enough') (taken ++ p.unit)
        (paired.goOn ps) after
      generalize (takeUntil closing what fuel (taken ++ p.unit)).run _ = result,
        (takeUntil closing what fuel' (taken ++ p.unit)).run _ = result' at ends
      cases ends with
      | apart ended ended' => exact .apart ended ended'
      | step shorter place paired =>
        have longer : taken ++ p.unit ++ captured (ps.takeWhile (·.unit != [closing])) =
            taken ++ captured ((p :: ps).takeWhile (·.unit != [closing])) := by simp [closes]
        rw [longer]
        exact .step (Nat.le_succ_of_le shorter) place paired

theorem error_of_bind {γ : Type} {g : Text → Reader γ} {result : Except Failure (Text × Reading)}
    (ended : ∀ name now, result = .ok (name, now) → '(' ∈ name) (refused : ∀ name, '(' ∈ name → Fails (g name)) :
    ∃ failure, (result >>= fun found => (g found.1).run found.2) = .error failure := by
  cases result with
  | error failure => exact ⟨failure, rfl⟩
  | ok found => exact refused found.1 (ended _ _ rfl) found.2

theorem pairs_takeUntil_bind {closing : Char} (other : closing ≠ '(') {what : String}
    {R : List Bool → α → β → Prop} (places : ∀ kept ps, P kept ps → AtItem t kept ps)
    {f : Text → Reader α} {f' : Text → Reader β} (refused : ∀ name, '(' ∈ name → Fails (f name) ∧ Fails (f' name))
    (next : ∀ kept ps, base <+: kept → P kept ps →
      Pairs kept n (AtItem t) R (AtItem t) (f (captured (ps.takeWhile (·.unit != [closing]))))
        (f' (captured (ps.takeWhile (·.unit != [closing]))))) :
    Pairs base n P R (AtItem t) (do f (← takeUntil closing what ((← get).rest.length + 1) []))
      (do f' (← takeUntil closing what ((← get).rest.length + 1) [])) := by
  intro kept ps r r' grown paired place bound
  change PairedEnds kept ps.length R (AtItem t) ((takeUntil closing what (r.rest.length + 1) [] >>= f).run r)
    ((takeUntil closing what (r'.rest.length + 1) [] >>= f').run r')
  have lasts : ps.length < r.rest.length + 1 := by
    rw [paired.rest]
    exact Nat.lt_succ_of_le (length_le_captured ps)
  have lasts' : ps.length < r'.rest.length + 1 := by
    rw [paired.rest']
    exact Nat.lt_succ_of_le (Nat.le_trans (length_le_captured ps) (captured_le_spared ps))
  have ends := ends_takeUntil other what lasts lasts' [] paired (places _ _ place)
  rw [StateT.run_bind, StateT.run_bind]
  generalize (takeUntil closing what (r.rest.length + 1) []).run r = result,
    (takeUntil closing what (r'.rest.length + 1) []).run r' = result' at ends
  cases ends with
  | step shorter after between =>
    have ends := next kept ps grown place List.prefix_rfl between after (Nat.lt_of_le_of_lt shorter bound)
    exact ends.weaken List.prefix_rfl shorter
  | apart ended ended' =>
    obtain ⟨failure, failed⟩ := error_of_bind ended fun name mem => (refused name mem).1
    obtain ⟨failure', failed'⟩ := error_of_bind ended' fun name mem => (refused name mem).2
    rw [failed, failed']
    exact .failed _ _

/-! ## Names that are none -/

theorem not_mem_of_isIdentifier {name : Text} (h : isIdentifier name = true) : '(' ∉ name := by
  cases name with
  | nil => exact List.not_mem_nil
  | cons c name =>
    obtain ⟨start, parts⟩ := Bool.and_eq_true_iff.1 h
    rw [List.mem_cons, not_or]
    refine ⟨?_, fun mem => ?_⟩
    · rintro rfl
      exact absurd start (by decide)
    · exact absurd (List.all_eq_true.1 parts _ mem) (by decide)

theorem mem_trim {c : Char} (other : Unicode.isSpace c = false) {text : Text} (mem : c ∈ text) :
    c ∈ Text.trim text := by
  have kept {text : Text} (mem : c ∈ text) : c ∈ text.dropWhile Unicode.isSpace := by
    rw [← List.takeWhile_append_dropWhile (p := Unicode.isSpace) (l := text), List.mem_append] at mem
    refine mem.resolve_left fun dropped => ?_
    exact Bool.false_ne_true (other.symm.trans (List.all_eq_true.1 List.all_takeWhile _ dropped))
  exact List.mem_reverse.2 (kept (List.mem_reverse.2 (kept mem)))

theorem looseNumber?_of_mem {text : Text} (mem : '(' ∈ text) : looseNumber? text = none := by
  have kept {text : Text} {c : Char} (other : c ≠ '(') (mem : '(' ∈ text) :
      '(' ∈ if text.head? = some c then text.drop 1 else text := by
    split
    · rename_i first
      cases text with
      | nil => cases first
      | cons d text => exact List.mem_of_ne_of_mem (Option.some.inj first ▸ other).symm mem
    · exact mem
  have odd {text : Text} (mem : '(' ∈ text) : text.all (fun c => c == '_' || Unicode.isDigit c) = false :=
    List.all_eq_false.2 ⟨'(', mem, by decide⟩
  unfold looseNumber?
  extract_lets trimmed unsigned minus digits gaps
  have here : '(' ∈ digits := kept (by decide) (kept (by decide) (mem_trim (by decide) mem))
  rw [odd here]
  simp

theorem pairs_checkName (name : Text) : Pairs base n P Same P (checkName name) (checkName name) :=
  .check (fails_failBack _ _) (fails_failBack _ _) fun _ => .same _

theorem fails_checkName {name : Text} (mem : '(' ∈ name) : Fails (checkName name) := by
  have none : isIdentifier name = false := Bool.eq_false_iff.2 fun named => not_mem_of_isIdentifier named mem
  unfold checkName
  rw [none]
  exact fails_failBack _ _

/-! ## Flags -/

theorem pairs_flagsToSet {fuel fuel' : Nat} (enough : n ≤ fuel) (enough' : n ≤ fuel') (flag read : PatternFlags) :
    Pairs base n (AtItem t) Same (AtItem t) (flagsToSet fuel flag read) (flagsToSet fuel' flag read) := by
  induction n generalizing fuel fuel' flag read with
  | zero => exact .zero
  | succ n ih =>
    obtain ⟨fuel, rfl⟩ : ∃ k, fuel = k + 1 := ⟨fuel - 1, by omega⟩
    obtain ⟨fuel', rfl⟩ : ∃ k, fuel' = k + 1 := ⟨fuel' - 1, by omega⟩
    have refused {message : String} {back : Nat} : Fails (failBack message back : Reader (PatternFlags × Char)) :=
      fails_failBack _ _
    unfold flagsToSet
    refine .check (fails_failBack _ _) (fails_failBack _ _) fun _ => ?_
    refine .check (fails_failBack _ _) (fails_failBack _ _) fun _ => ?_
    refine .take_bind_item (.fails refused refused) refused refused fun unit => ?_
    split
    · exact .fails refused refused
    · exact .same _
    · exact .same _
    · exact .same _
    · split
      · exact ih (by omega) (by omega) _ _
      · exact .fails refused refused

theorem pairs_flagsToClear {fuel fuel' : Nat} (enough : n ≤ fuel) (enough' : n ≤ fuel') (flag read : PatternFlags) :
    Pairs base n (AtItem t) Same (AtItem t) (flagsToClear fuel flag read) (flagsToClear fuel' flag read) := by
  induction n generalizing fuel fuel' flag read with
  | zero => exact .zero
  | succ n ih =>
    obtain ⟨fuel, rfl⟩ : ∃ k, fuel = k + 1 := ⟨fuel - 1, by omega⟩
    obtain ⟨fuel', rfl⟩ : ∃ k, fuel' = k + 1 := ⟨fuel' - 1, by omega⟩
    have refused {message : String} {back : Nat} : Fails (failBack message back : Reader PatternFlags) :=
      fails_failBack _ _
    unfold flagsToClear
    refine .check (fails_failBack _ _) (fails_failBack _ _) fun _ => ?_
    refine .take_bind_item (.fails refused refused) refused refused fun unit => ?_
    split
    · exact .fails refused refused
    · exact .same _
    · split
      · exact ih (by omega) (by omega) _ _
      · exact .fails refused refused

theorem pairs_groupFlags (unit : Text) :
    Pairs base n (AtItem t) Same (AtItem t) (groupFlags unit) (groupFlags unit) := by
  refine .get_bind fun kept ps r r' _ paired _ _ => ?_
  have enough : ps.length + 1 ≤ r.rest.length + 1 := by
    rw [paired.rest]
    exact Nat.succ_le_succ (length_le_captured ps)
  have enough' : ps.length + 1 ≤ r'.rest.length + 1 := by
    rw [paired.rest']
    exact Nat.succ_le_succ (Nat.le_trans (length_le_captured ps) (captured_le_spared ps))
  generalize ps.length + 1 = k at enough enough' ⊢
  extract_lets fuel afterAdd fuel' afterAdd'
  have added (base : List Bool) (both : PatternFlags × Char) :
      Pairs base k (AtItem t) Same (AtItem t) (afterAdd both) (afterAdd' both) := by
    obtain ⟨add, ending⟩ := both
    refine .ite (fun _ => ?_) fun _ => .check (fails_failBack _ _) (fails_failBack _ _) fun _ => ?_
    · refine Pairs.bind_same (.modify fun kept ps r r' _ paired _ => ?_) fun _ _ _ => .same none
      exact ⟨paired.rest, paired.rest', congrArg (PatternFlags.union · add) paired.flags, paired.widths, paired.widths',
        paired.closed, paired.names, paired.behind, paired.conditions, paired.conditions'⟩
    extract_lets afterRemove
    have removed (base : List Bool) (remove : PatternFlags) :
        Pairs base k (AtItem t) Same (AtItem t) (afterRemove remove) (afterRemove remove) :=
      .check (fails_failBack _ _) (fails_failBack _ _) fun _ =>
        .check (fails_failBack _ _) (fails_failBack _ _) fun _ => .same _
    refine .ite (fun _ => ?_) fun _ => (Pairs.same _).bind_same fun _ _ _ => removed _ _
    have refused {message : String} {back : Nat} :
        Fails (do afterRemove (← failBack message back) : Reader (Option (PatternFlags × PatternFlags))) :=
      (fails_failBack _ _).bind _
    refine Pairs.mono (.take_bind_item (.fails refused refused) refused refused fun unit => ?_) (Nat.le_succ k)
    split
    · exact .fails refused refused
    · split
      · exact (pairs_flagsToClear enough enough' _ _).bind_same fun _ _ _ => removed _ _
      · exact .fails refused refused
  split
  · exact (pairs_flagsToSet enough enough' _ _).bind_same fun _ _ _ => added _ _
  · exact (Pairs.same _).bind_same fun _ _ _ => added _ _

/-! ## Conditions -/

def AtCondition (t : Nat) (kept : List Bool) (ps : List Piece) : Prop :=
  isIdentifier (captured (ps.takeWhile (·.unit != [')']))) = true ∧ AtItem t kept ps

theorem pairs_conditionGroup :
    Pairs base n (AtCondition t) Renumbers (AtItem t) conditionGroup conditionGroup := by
  refine pairs_takeUntil_bind (by decide) (fun _ _ place => place.2) (fun name mem => ?_) fun kept ps grown place => ?_
  · have none : isIdentifier name = false := Bool.eq_false_iff.2 fun named => not_mem_of_isIdentifier named mem
    simp only [none, looseNumber?_of_mem mem, Bool.false_eq_true, if_false]
    exact ⟨(fails_failBack _ _).bind _, (fails_failBack _ _).bind _⟩
  · simp only [place.1, if_true]
    refine .get_bind fun kept' ps' r r' _ paired _ _ => ?_
    rcases cases_of_rel (lookup_names paired.names (captured (ps.takeWhile (·.unit != [')'])))) with
      ⟨unknown, unknown'⟩ | ⟨j, i, known, known', number⟩
    · rw [unknown, unknown']
      exact .fails ((fails_failBack _ _).bind _) ((fails_failBack _ _).bind _)
    · rw [known, known']
      refine (pairs_checkBehind number).bind_same fun _ _ grown => .pure fun _ grown' => ?_
      exact (number.mono grown).mono grown'

end

end LexGen.Pattern
