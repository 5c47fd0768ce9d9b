import LexGen.Proofs.Pattern.Reach

/-!
# Groups that can be left out

A group that nothing refers to captures for nothing: without it the pattern matches the same. Leaving groups out gives
lower numbers to the groups after them.

* `Renumbers`: the numbers of a group before and after.
* `Node.Omits.matchLength`: the lengths of matches are the same.
-/

namespace LexGen

/-! ## Numbers of groups -/

/-- Which groups of a pattern are kept, from the first one on. A group that is kept has number `j` among all groups and
number `i` among those that are kept. -/
def Renumbers (kept : List Bool) (j i : Nat) : Prop :=
  ∃ k, j = k + 1 ∧ kept[k]? = some true ∧ i = (kept.take k).count true + 1

theorem getElem?_mono {kept kept' : List Bool} (le : kept <+: kept') {k : Nat} {b : Bool}
    (found : kept[k]? = some b) : kept'[k]? = some b := by
  obtain ⟨more, rfl⟩ := le
  obtain ⟨bound, -⟩ := List.getElem?_eq_some_iff.1 found
  rw [List.getElem?_append_left bound, found]

namespace Renumbers

variable {kept kept' : List Bool} {j j' i i' : Nat}

theorem mono (h : Renumbers kept j i) (le : kept <+: kept') : Renumbers kept' j i := by
  obtain ⟨k, rfl, found, rfl⟩ := h
  refine ⟨k, rfl, getElem?_mono le found, ?_⟩
  obtain ⟨more, rfl⟩ := le
  obtain ⟨bound, -⟩ := List.getElem?_eq_some_iff.1 found
  rw [List.take_append_of_le_length (Nat.le_of_lt bound)]

theorem le (h : Renumbers kept j i) : j ≤ kept.length ∧ i ≤ kept.count true := by
  obtain ⟨k, rfl, found, rfl⟩ := h
  obtain ⟨bound, -⟩ := List.getElem?_eq_some_iff.1 found
  have upTo : (kept.take (k + 1)).count true = (kept.take k).count true + 1 := by
    rw [List.take_add_one, found, List.count_append]
    rfl
  refine ⟨bound, upTo ▸ ?_⟩
  exact (List.take_sublist _ _).count_le true

theorem lt_of_lt (h : Renumbers kept j i) (h' : Renumbers kept j' i') (lt : j < j') : i < i' := by
  obtain ⟨k, rfl, found, rfl⟩ := h
  obtain ⟨k', rfl, found', rfl⟩ := h'
  obtain ⟨bound', -⟩ := List.getElem?_eq_some_iff.1 found'
  have before : Renumbers (kept.take k') (k + 1) ((kept.take k).count true + 1) := by
    refine ⟨k, rfl, ?_, ?_⟩
    · rw [List.getElem?_take_of_lt (by omega), found]
    · rw [List.take_take, Nat.min_eq_left (by omega)]
  exact Nat.lt_succ_of_le before.le.2

theorem eq_iff (h : Renumbers kept j i) (h' : Renumbers kept j' i') : j = j' ↔ i = i' := by
  rcases Nat.lt_trichotomy j j' with lt | rfl | gt
  · have := h.lt_of_lt h' lt
    omega
  · obtain ⟨k, rfl, -, rfl⟩ := h
    obtain ⟨k', same, -, rfl⟩ := h'
    obtain rfl : k = k' := Nat.succ.inj same
    exact iff_of_true rfl rfl
  · have := h'.lt_of_lt h gt
    omega

theorem ne_of_omitted (h : Renumbers kept j i) {k : Nat} (omitted : kept[k]? = some false) : j ≠ k + 1 := by
  rintro rfl
  obtain ⟨k', same, found, -⟩ := h
  obtain rfl : k = k' := Nat.succ.inj same
  exact nomatch omitted.symm.trans found

end Renumbers

/-! ## Patterns without some of their groups -/

/-- The second pattern is the first one with some groups left out, to none of which it refers. -/
inductive Node.Omits (kept : List Bool) : Node → Node → Prop
  | empty : Omits kept .empty .empty
  | literal (negated : Bool) (code : Nat) : Omits kept (.literal negated code) (.literal negated code)
  | any : Omits kept .any .any
  | set (negated : Bool) (items : List SetItem) : Omits kept (.set negated items) (.set negated items)
  | anchor (a : Anchor) : Omits kept (.anchor a) (.anchor a)
  | seq {first first' rest rest' : Node} (firsts : Omits kept first first') (rests : Omits kept rest rest') :
    Omits kept (.seq first rest) (.seq first' rest')
  | last {first first' rest : Node} (firsts : Omits kept first first') (nothing : Omits kept rest .empty) :
    Omits kept (.seq first rest) first'
  | alt {first first' rest rest' : Node} (firsts : Omits kept first first') (rests : Omits kept rest rest') :
    Omits kept (.alt first rest) (.alt first' rest')
  | group {j i : Nat} {body body' : Node} (number : Renumbers kept j i) (bodies : Omits kept body body') :
    Omits kept (.group j body) (.group i body')
  | omitted {k : Nat} {body body' : Node} (omitted : kept[k]? = some false) (bodies : Omits kept body body') :
    Omits kept (.group (k + 1) body) body'
  | flagged (add remove : PatternFlags) {body body' : Node} (bodies : Omits kept body body') :
    Omits kept (.flagged add remove body) (.flagged add remove body')
  | atomic {body body' : Node} (bodies : Omits kept body body') : Omits kept (.atomic body) (.atomic body')
  | repetition (greed : Greed) (min : Nat) (max : Option Nat) {body body' : Node} (bodies : Omits kept body body') :
    Omits kept (.repetition greed min max body) (.repetition greed min max body')
  | lookahead (negative : Bool) {body body' : Node} (bodies : Omits kept body body') :
    Omits kept (.lookahead negative body) (.lookahead negative body')
  | lookbehind (negative : Bool) (width : Width) {body body' : Node} (bodies : Omits kept body body') :
    Omits kept (.lookbehind negative width body) (.lookbehind negative width body')
  | backreference {j i : Nat} (number : Renumbers kept j i) : Omits kept (.backreference j) (.backreference i)
  | conditional {j i : Nat} {yes yes' no no' : Node} (number : Renumbers kept j i) (yeses : Omits kept yes yes')
    (nos : Omits kept no no') : Omits kept (.conditional j yes no) (.conditional i yes' no')

theorem Node.Omits.mono {kept kept' : List Bool} (le : kept <+: kept') {node node' : Node} (h : node.Omits kept node') :
    node.Omits kept' node' := by
  induction h with
  | empty => exact .empty
  | literal => exact .literal _ _
  | any => exact .any
  | set => exact .set _ _
  | anchor => exact .anchor _
  | seq _ _ firsts rests => exact .seq firsts rests
  | last _ _ firsts nothing => exact .last firsts nothing
  | alt _ _ firsts rests => exact .alt firsts rests
  | group number _ bodies => exact .group (number.mono le) bodies
  | omitted omitted _ bodies => exact .omitted (getElem?_mono le omitted) bodies
  | flagged _ _ _ bodies => exact .flagged _ _ bodies
  | atomic _ bodies => exact .atomic bodies
  | repetition _ _ _ _ bodies => exact .repetition _ _ _ bodies
  | lookahead _ _ bodies => exact .lookahead _ bodies
  | lookbehind _ _ _ bodies => exact .lookbehind _ _ bodies
  | backreference number => exact .backreference (number.mono le)
  | conditional number _ _ yeses nos => exact .conditional (number.mono le) yeses nos

theorem Node.Omits.refusal?_eq {kept : List Bool} {node node' : Node} (h : node.Omits kept node')
    (flags : PatternFlags) : node.refusal? flags = node'.refusal? flags := by
  induction h generalizing flags with
  | empty | literal | any | set | anchor | backreference => rfl
  | seq _ _ firsts rests | alt _ _ firsts rests => rw [refusal?, refusal?, firsts, rests]
  | last _ _ firsts nothing =>
    rw [refusal?, firsts, nothing]
    cases Node.refusal? _ flags <;> rfl
  | group _ _ bodies | flagged _ _ _ bodies | atomic _ bodies | lookahead _ _ bodies =>
    rw [refusal?, refusal?, bodies]
  | omitted _ _ bodies => rw [refusal?, bodies]
  | repetition _ _ _ _ bodies | lookbehind _ _ _ bodies => simp only [refusal?, bodies]
  | conditional _ _ _ yeses nos => rw [refusal?, refusal?, yeses, nos]

/-! ## Runs -/

/-- The same captures of the groups that are kept. -/
structure Captures.Omits (kept : List Bool) (captures captures' : Captures) : Prop where
  starts : ∀ ⦃j i⦄, Renumbers kept j i → captures.starts.lookup j = captures'.starts.lookup i
  stops : ∀ ⦃j i⦄, Renumbers kept j i → captures.stops.lookup j = captures'.stops.lookup i

def Match.Omits (kept : List Bool) (m m' : Match) : Prop := m.1 = m'.1 ∧ m.2.Omits kept m'.2

variable {kept : List Bool}

theorem Captures.Omits.text? {captures captures' : Captures} (h : captures.Omits kept captures') {j i : Nat}
    (number : Renumbers kept j i) : captures.text? j = captures'.text? i := by
  rw [Captures.text?, Captures.text?, h.starts number, h.stops number]

theorem lookup_cons_kept {α : Type} {entries entries' : List (Nat × α)}
    (same : ∀ ⦃j i⦄, Renumbers kept j i → entries.lookup j = entries'.lookup i) {j i : Nat} (number : Renumbers kept j i)
    (a : α) ⦃j' i' : Nat⦄ (number' : Renumbers kept j' i') :
    ((j, a) :: entries).lookup j' = ((i, a) :: entries').lookup i' := by
  rw [List.lookup_cons, List.lookup_cons, same number']
  by_cases equal : j' = j
  · rw [beq_iff_eq.2 equal, beq_iff_eq.2 ((number'.eq_iff number).1 equal)]
  · rw [beq_eq_false_iff_ne.2 equal, beq_eq_false_iff_ne.2 (mt (number'.eq_iff number).2 equal)]

theorem lookup_cons_omitted {α : Type} {entries entries' : List (Nat × α)}
    (same : ∀ ⦃j i⦄, Renumbers kept j i → entries.lookup j = entries'.lookup i) {k : Nat}
    (omitted : kept[k]? = some false) (a : α) ⦃j' i' : Nat⦄ (number' : Renumbers kept j' i') :
    ((k + 1, a) :: entries).lookup j' = entries'.lookup i' := by
  rw [List.lookup_cons, beq_eq_false_iff_ne.2 (number'.ne_of_omitted omitted), same number']

theorem corresponds_omits : Match.Corresponds (Match.Omits kept) Eq where
  offset _ _ h := congrArg Cursor.offset h.1
  unique _ _ _ _ same same' := by rw [same, same']

theorem Continuation.Related.matchChar {next next' : Continuation}
    (h : Continuation.Related (Match.Omits kept) next next') (p : Char → Bool) :
    Continuation.Related (Match.Omits kept) (LexGen.matchChar p next) (LexGen.matchChar p next') := by
  intro m m' same
  rw [LexGen.matchChar, LexGen.matchChar, ← same.1]
  split
  · split
    · exact h ⟨rfl, same.2⟩
    · exact .none
  · exact .none

theorem Node.Omits.run {node node' : Node} (omits : node.Omits kept node') (flags : PatternFlags)
    {next next' : Continuation} (h : Continuation.Related (Match.Omits kept) next next') :
    Continuation.Related (Match.Omits kept) (node.run flags next) (node'.run flags next') := by
  induction omits generalizing flags next next' with
  | empty => exact h
  | literal => exact h.matchChar _
  | any => exact h.matchChar _
  | set => exact h.matchChar _
  | anchor a =>
    intro m m' same
    unfold Node.run
    rw [same.1]
    split
    · exact h same
    · exact .none
  | seq _ _ firsts rests => exact firsts flags (rests flags h)
  | last _ _ firsts nothing => exact firsts flags (nothing flags h)
  | alt _ _ firsts rests => exact fun m m' same => rel_orElse (firsts flags h same) (rests flags h same)
  | group number _ bodies =>
    rintro ⟨c, captures⟩ ⟨_, captures'⟩ ⟨rfl, same⟩
    refine bodies flags ?_ ⟨rfl, lookup_cons_kept same.starts number c, same.stops⟩
    rintro ⟨found, captures⟩ ⟨_, captures'⟩ ⟨rfl, inner⟩
    exact h ⟨rfl, inner.starts, lookup_cons_kept inner.stops number found.offset⟩
  | omitted omitted _ bodies =>
    rintro ⟨c, captures⟩ ⟨_, captures'⟩ ⟨rfl, same⟩
    refine bodies flags ?_ ⟨rfl, lookup_cons_omitted same.starts omitted c, same.stops⟩
    rintro ⟨found, captures⟩ ⟨_, captures'⟩ ⟨rfl, inner⟩
    exact h ⟨rfl, inner.starts, lookup_cons_omitted inner.stops omitted found.offset⟩
  | flagged _ _ _ bodies => exact bodies _ h
  | atomic _ bodies => exact fun m m' same => rel_bind (bodies flags related_some same) fun _ _ found => h found
  | repetition greed min max _ bodies =>
    intro m m' same
    have rounds := fun next next' (h : Continuation.Related (Match.Omits kept) next next') => bodies flags h
    have bound := roundBound_eq min (congrArg Cursor.after same.1)
    cases greed with
    | greedy =>
      unfold Node.run
      rw [bound]
      exact repeatGreedy_related corresponds_omits rounds h _ 0 .none same
    | lazy =>
      unfold Node.run
      rw [bound]
      exact repeatLazy_related corresponds_omits rounds h _ 0 .none same
    | possessive =>
      unfold Node.run
      rw [bound]
      exact rel_bind (repeatPossessive_related corresponds_omits rounds _ 0 .none same) fun _ _ found => h found
  | lookahead negative _ bodies =>
    intro m m' same
    have seen := bodies flags related_some same
    cases negative with
    | false => exact rel_bind seen fun _ _ found => h ⟨same.1, found.2⟩
    | true =>
      unfold Node.run
      rw [isSome_eq_of_rel seen]
      split
      · exact .none
      · exact h same
  | lookbehind negative width _ bodies =>
    rintro ⟨c, captures⟩ ⟨_, captures'⟩ ⟨rfl, same⟩
    cases behind : c.back? width.least with
    | none =>
      cases negative with
      | false =>
        simp only [Node.run, behind]
        exact .none
      | true =>
        simp only [Node.run, behind]
        exact h ⟨rfl, same⟩
    | some start =>
      have seen := bodies flags related_some (⟨rfl, same⟩ : Match.Omits kept (start, captures) (start, captures'))
      cases negative with
      | false =>
        simp only [Node.run, behind]
        exact rel_bind seen fun _ _ found => h ⟨rfl, found.2⟩
      | true =>
        simp only [Node.run, behind, isSome_eq_of_rel seen]
        split
        · exact .none
        · exact h ⟨rfl, same⟩
  | backreference number =>
    rintro ⟨c, captures⟩ ⟨_, captures'⟩ ⟨rfl, same⟩
    unfold Node.run
    rw [same.text? number]
    split
    · cases matchText _ _ c with
      | none => exact .none
      | some c => exact h ⟨rfl, same⟩
    · exact .none
  | conditional number _ _ yeses nos =>
    intro m m' same
    unfold Node.run
    rw [same.2.text? number]
    split
    · exact yeses flags h same
    · exact nos flags h same

theorem Node.Omits.matchLength {node node' : Node} (omits : node.Omits kept node') (flags : PatternFlags)
    (before after : Text) : node.matchLength flags before after = node'.matchLength flags before after := by
  unfold Node.matchLength
  dsimp only
  have start : Match.Omits kept (⟨before, after, before.length⟩, {}) (⟨before, after, before.length⟩, {}) :=
    ⟨rfl, fun _ _ _ => rfl, fun _ _ _ => rfl⟩
  rcases cases_of_rel (omits.run flags related_some start) with ⟨none, none'⟩ | ⟨found, found', some, some', same⟩
  · rw [none, none']
  · rw [some, some', Option.map_some, Option.map_some, same.1]

end LexGen
