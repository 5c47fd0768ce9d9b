import LexGen.Proofs.Json.Numbers
import LexGen.Proofs.Json.Strings
import LexGen.Proofs.Outcome
import LexGen.Proofs.Value.Lookup

/-!
# Texts that are read as values

`Reads text v` says that the reader finds the value `v` in `text`, whatever comes after it. It holds of the texts
of scalars, and of lists and objects whose parts are read.
-/

namespace LexGen.Json

/-! ## White space -/

theorem skipBlanks_cons {c : Char} (mark : isBlank c = false) (text : Text) : skipBlanks (c :: text) = c :: text :=
  List.dropWhile_cons_of_neg (by simp [mark])

theorem skipBlanks_append {blanks : Text} (all : ∀ c ∈ blanks, isBlank c = true) (text : Text) :
    skipBlanks (blanks ++ text) = skipBlanks text :=
  List.dropWhile_append_of_pos all

/-! ## Reading -/

/-- A text that is read as a value, in front of anything that does not go on with it. -/
structure Reads (text : Text) (v : Value) : Prop where
  opens : ∃ c others, text = c :: others ∧ isBlank c = false ∧ c ≠ ']' ∧ c ≠ '\ufeff'
  value : ∀ fuel rest, 2 * text.length ≤ fuel → Stops rest → Json.value fuel (text ++ rest) = .ok (v, rest)

theorem Reads.of_cons {c : Char} {others : Text} {v : Value} (mark : isBlank c = false) (list : c ≠ ']')
    (marked : c ≠ '\ufeff')
    (value : ∀ fuel rest, 2 * others.length + 1 ≤ fuel → Stops rest →
      Json.value (fuel + 1) (c :: (others ++ rest)) = .ok (v, rest)) : Reads (c :: others) v where
  opens := ⟨c, others, rfl, mark, list, marked⟩
  value fuel rest enough stops := by
    rw [List.length_cons] at enough
    obtain ⟨fuel, rfl⟩ : ∃ fuel', fuel = fuel' + 1 := ⟨fuel - 1, by omega⟩
    exact value fuel rest (by omega) stops

/-! ## Scalars -/

theorem reads_null : Reads ['n', 'u', 'l', 'l'] .none :=
  .of_cons (by decide) (by decide) (by decide) fun _ _ _ _ => rfl

theorem reads_true : Reads ['t', 'r', 'u', 'e'] (.bool true) :=
  .of_cons (by decide) (by decide) (by decide) fun _ _ _ _ => rfl

theorem reads_false : Reads ['f', 'a', 'l', 's', 'e'] (.bool false) :=
  .of_cons (by decide) (by decide) (by decide) fun _ _ _ _ => rfl

theorem reads_string (s : String) : Reads (string s) (.str s) := by
  change Reads ('"' :: (s.toList.flatMap escapedChar ++ ['"'])) (.str s)
  refine .of_cons (by decide) (by decide) (by decide) fun fuel rest _ _ => ?_
  rw [value, List.append_assoc, List.singleton_append, stringBody_string, List.reverse_nil, List.nil_append]
  exact congrArg (fun s => Except.ok (Value.str s, rest)) String.ofList_toList

/-! ## Numbers -/

theorem word?_eq_none {c : Char} {text : Text} (numeral : isNumeral c = true)
    (signed : c = '-' → ∃ d others, text = d :: others ∧ isNumeral d = true) : word? (c :: text) = none := by
  have letters : ∀ d, isNumeral d = false → d ≠ c := by
    rintro d other rfl
    rw [numeral] at other
    cases other
  have n := letters 'n' (by decide)
  have t := letters 't' (by decide)
  have f := letters 'f' (by decide)
  have nan := letters 'N' (by decide)
  have inf := letters 'I' (by decide)
  by_cases minus : c = '-'
  · obtain ⟨d, others, rfl, next⟩ := signed minus
    have notInfinity : 'I' ≠ d := by
      rintro rfl
      cases next
    simp [word?, words, Text.after?, n, t, f, nan, inf, notInfinity]
  · simp [word?, words, Text.after?, n, t, f, nan, inf, Ne.symm minus]

theorem value_numeral (fuel : Nat) {c : Char} {text : Text} (numeral : isNumeral c = true)
    (signed : c = '-' → ∃ d others, text = d :: others ∧ isNumeral d = true) :
    value (fuel + 1) (c :: text) =
      if c = '-' then number true (c :: text) text else number false (c :: text) (c :: text) := by
  rw [value, word?_eq_none numeral signed]
  · rintro rfl
    cases numeral
  · rintro rfl
    cases numeral
  · rintro rfl
    cases numeral

theorem isBlank_of_isNumeral {c : Char} (numeral : isNumeral c = true) : isBlank c = false := by
  have marks : ∀ d, isNumeral d = false → c ≠ d := by
    rintro d other rfl
    rw [numeral] at other
    cases other
  simp [isBlank, marks ' ' (by decide), marks '\t' (by decide), marks '\n' (by decide), marks '\r' (by decide)]

section

variable {negative : Bool} {c : Char} {others : Text} {v : Value}

theorem signed_opens (negative : Bool) (numeral : isNumeral c = true) (others : Text) :
    ∃ d more, (if negative then ['-'] else []) ++ c :: others = d :: more ∧ isNumeral d = true := by
  cases negative with
  | true => exact ⟨'-', c :: others, rfl, rfl⟩
  | false => exact ⟨c, others, rfl, numeral⟩

theorem value_signed (fuel : Nat) (unsigned : c ≠ '-') (numeral : isNumeral c = true) :
    value (fuel + 1) ((if negative then ['-'] else []) ++ c :: others) =
      number negative ((if negative then ['-'] else []) ++ c :: others) (c :: others) := by
  cases negative with
  | true => exact value_numeral fuel rfl fun _ => ⟨c, others, rfl, numeral⟩
  | false => exact (value_numeral fuel numeral fun minus => (unsigned minus).elim).trans (if_neg unsigned)

theorem reads_number (unsigned : c ≠ '-') (numeral : isNumeral c = true)
    (alone : ∀ whole, number negative whole (c :: others) = .ok (v, [])) :
    Reads ((if negative then ['-'] else []) ++ c :: others) v where
  opens := by
    obtain ⟨d, more, shape, first⟩ := signed_opens negative numeral others
    refine ⟨d, more, shape, isBlank_of_isNumeral first, ?_, ?_⟩
    · rintro rfl
      cases first
    · rintro rfl
      cases first
  value fuel rest enough stops := by
    obtain ⟨fuel, rfl⟩ : ∃ fuel', fuel = fuel' + 1 := by
      rw [List.length_append, List.length_cons] at enough
      exact ⟨fuel - 1, by omega⟩
    rw [List.append_assoc, List.cons_append, value_signed fuel unsigned numeral]
    exact number_append (alone []) stops

theorem number_of_read (unsigned : c ≠ '-') (numerals : ∀ d ∈ c :: others, isNumeral d = true)
    (h : read ((if negative then ['-'] else []) ++ c :: others) = .ok v) (whole : Text) :
    number negative whole (c :: others) = .ok (v, []) := by
  have numeral := numerals c List.mem_cons_self
  obtain ⟨d, more, shape, first⟩ := signed_opens negative numeral others
  unfold read at h
  split at h
  · rename_i marked
    rw [shape] at marked
    obtain ⟨rfl, -⟩ := List.cons.inj marked
    cases first
  · obtain ⟨⟨result, left⟩, found, h⟩ := ok_of_bind h
    rw [shape, skipBlanks_cons (isBlank_of_isNumeral first), ← shape, value_signed _ unsigned numeral] at found
    have inside := number_left found
    cases left with
    | nil =>
      obtain rfl := Except.ok.inj h
      have again : number negative whole (c :: others ++ []) = .ok (result, [] ++ []) :=
        number_append found stops_nil
      rwa [List.append_nil, List.append_nil] at again
    | cons e left =>
      have more := isBlank_of_isNumeral (numerals e (inside List.mem_cons_self))
      dsimp only at h
      rw [skipBlanks_cons more] at h
      cases h

end

theorem reads_int {i : Int} (short : i.natAbs < Nat.pow 10 Text.longestInteger) : Reads (Text.decimalInt i) (.int i) := by
  have shape : Text.decimalInt i = (if decide (i < 0) then ['-'] else []) ++ Text.decimal i.natAbs := by
    cases i with
    | ofNat n => simp [Text.decimalInt, Text.decimal, Int.toString_eq_repr, Int.repr]
    | negSucc n => simp [Text.decimalInt, Text.decimal, Int.toString_eq_repr, Int.repr, Int.negSucc_lt_zero]
  have signed : (if decide (i < 0) then -(i.natAbs : Int) else i.natAbs) = i := by
    by_cases negative : i < 0
    · rw [decide_eq_true negative, if_pos rfl]
      omega
    · rw [decide_eq_false negative, if_neg (by decide)]
      omega
  have digits := fun c => isDigit_of_mem_decimal (n := i.natAbs) (c := c)
  have alone := fun whole => number_decimal (decide (i < 0)) whole short stops_nil
  rw [signed] at alone
  rw [shape]
  cases written : Text.decimal i.natAbs with
  | nil =>
    rw [Text.decimal, Nat.toString_eq_repr, Nat.toList_repr] at written
    exact (Nat.toDigits_ne_nil written).elim
  | cons c others =>
    rw [written] at digits alone
    refine reads_number ?_ (isNumeral_of_isDigit (digits c List.mem_cons_self)) (by simpa using alone)
    rintro rfl
    exact absurd (digits '-' List.mem_cons_self) (by decide)

theorem reads_float {negative : Bool} {significand : Nat} {exponent : Int}
    (restores : read (float (.finite negative significand exponent)) =
      .ok (.float (.finite negative significand exponent))) :
    Reads (float (.finite negative significand exponent)) (.float (.finite negative significand exponent)) := by
  obtain ⟨c, others, shape, unsigned, numerals⟩ := text_finite negative significand exponent
  have shape : float (.finite negative significand exponent) = (if negative then ['-'] else []) ++ c :: others :=
    shape
  rw [shape] at restores ⊢
  exact reads_number unsigned (numerals c List.mem_cons_self) (number_of_read unsigned numerals restores)

/-! ## Layout -/

theorem isBlank_of_mem_lineBreak (layout : Layout) (depth : Nat) : ∀ c ∈ layout.lineBreak depth, isBlank c = true := by
  unfold Layout.lineBreak
  split
  · simp
  · refine List.forall_mem_cons.2 ⟨rfl, fun c mem => ?_⟩
    obtain rfl := List.eq_of_mem_replicate mem
    rfl

theorem separator_eq (layout : Layout) (depth : Nat) :
    ∃ gap, layout.separator depth = ',' :: gap ∧ ∀ c ∈ gap, isBlank c = true := by
  unfold Layout.separator
  split
  · exact ⟨[' '], rfl, List.all_eq_true.1 (by decide)⟩
  · exact ⟨_, rfl, isBlank_of_mem_lineBreak layout depth⟩

theorem stops_blanks {blanks : Text} (all : ∀ c ∈ blanks, isBlank c = true) {c : Char} (other : isNumeral c = false)
    (rest : Text) : Stops (blanks ++ c :: rest) := by
  cases blanks with
  | nil => exact stops_cons other
  | cons blank blanks =>
    refine stops_cons ?_
    cases numeral : isNumeral blank
    · rfl
    · have mark := isBlank_of_isNumeral numeral
      rw [all blank List.mem_cons_self] at mark
      cases mark

theorem skipBlanks_before {blanks : Text} (all : ∀ c ∈ blanks, isBlank c = true) {c : Char}
    (mark : isBlank c = false) (rest : Text) : skipBlanks (blanks ++ c :: rest) = c :: rest := by
  rw [skipBlanks_append all, skipBlanks_cons mark]

theorem join_cons_cons (separator first second : Text) (others : List Text) :
    Text.join separator (first :: second :: others) = first ++ separator ++ Text.join separator (second :: others) :=
  rfl

/-! ## Lists -/

section

variable {gap finish : Text} (gapBlank : ∀ c ∈ gap, isBlank c = true) (finishBlank : ∀ c ∈ finish, isBlank c = true)

theorem join_opens (separator : Text) {texts : List Text} {values : List Value} (each : List.Forall₂ Reads texts values)
    (some : texts ≠ []) : ∃ c others, Text.join separator texts = c :: others ∧ isBlank c = false ∧ c ≠ ']' := by
  cases each with
  | nil => exact (some rfl).elim
  | @cons text v texts values first others =>
    obtain ⟨c, rest, rfl, mark, list, _⟩ := first.opens
    cases texts with
    | nil => exact ⟨c, rest, rfl, mark, list⟩
    | cons second texts => exact ⟨c, _, by rw [join_cons_cons]; rfl, mark, list⟩

include gapBlank finishBlank in
theorem items_join {texts : List Text} {values : List Value} (each : List.Forall₂ Reads texts values)
    (some : texts ≠ []) (fuel : Nat) (enough : 2 * (Text.join (',' :: gap) texts).length + 1 ≤ fuel) (rest : Text) :
    items fuel (Text.join (',' :: gap) texts ++ (finish ++ ']' :: rest)) = .ok (values, rest) := by
  induction each generalizing fuel with
  | nil => exact (some rfl).elim
  | @cons text v texts values first others ih =>
    obtain ⟨fuel, rfl⟩ : ∃ fuel', fuel = fuel' + 1 := ⟨fuel - 1, by omega⟩
    rw [items]
    cases others with
    | nil =>
      change 2 * text.length + 1 ≤ fuel + 1 at enough
      rw [Text.join, first.value fuel _ (by omega) (stops_blanks finishBlank rfl rest)]
      dsimp only [Bind.bind, Except.bind]
      rw [skipBlanks_before finishBlank rfl]
      rfl
    | @cons second w texts values next others =>
      rw [join_cons_cons] at enough ⊢
      simp only [List.length_append, List.length_cons] at enough
      rw [List.append_assoc, List.append_assoc, List.cons_append,
        first.value fuel _ (by omega) (stops_cons (show isNumeral ',' = false from rfl))]
      dsimp only [Bind.bind, Except.bind]
      rw [skipBlanks_cons rfl]
      obtain ⟨c, more, shape, mark, -⟩ := join_opens (',' :: gap) (.cons next others) (by simp)
      have ahead := ih (by simp) fuel (by omega)
      rw [shape, List.cons_append] at ahead ⊢
      simp only [skipBlanks_before gapBlank mark, ahead]
      rfl

end

theorem enclose_eq (layout : Layout) (depth : Nat) (opening closing : Char) (first : Text) (others : List Text) :
    layout.enclose depth opening closing (first :: others) =
      opening :: (layout.lineBreak (depth + 1) ++ (Text.join (layout.separator (depth + 1)) (first :: others) ++
        (layout.lineBreak depth ++ [closing]))) := by
  simp [Layout.enclose]

theorem reads_list {texts : List Text} {values : List Value} (each : List.Forall₂ Reads texts values)
    (layout : Layout) (depth : Nat) : Reads (layout.enclose depth '[' ']' texts) (.list values) := by
  obtain ⟨gap, separator, gapBlank⟩ := separator_eq layout (depth + 1)
  have start := isBlank_of_mem_lineBreak layout (depth + 1)
  have finish := isBlank_of_mem_lineBreak layout depth
  cases each with
  | nil => exact .of_cons (by decide) (by decide) (by decide) fun _ _ _ _ => rfl
  | @cons text v texts values first others =>
    have each : List.Forall₂ Reads (text :: texts) (v :: values) := .cons first others
    obtain ⟨c, more, shape, mark, list⟩ := join_opens (',' :: gap) each (by simp)
    rw [enclose_eq, separator]
    refine .of_cons (by decide) (by decide) (by decide) fun fuel rest enough _ => ?_
    simp only [List.length_append] at enough
    have inside := items_join gapBlank finish each (by simp) fuel (by omega) rest
    rw [shape] at inside ⊢
    simp only [List.append_assoc, List.cons_append, List.nil_append] at inside ⊢
    rw [value, skipBlanks_before start mark]
    split
    · rename_i same
      exact (list (List.cons.inj same).1).elim
    · rw [inside]
      rfl

/-! ## Objects -/

def ReadsEntry (text : Text) (entry : Value × Value) : Prop :=
  ∃ key item, entry.1 = .str key ∧ text = string key ++ (':' :: ' ' :: item) ∧ Reads item entry.2

theorem entries_cons (fuel : Nat) {key : String} {item : Text} {v : Value} (reads : Reads item v)
    (enough : 2 * item.length ≤ fuel) {rest : Text} (stops : Stops rest) :
    entries (fuel + 1) (string key ++ (':' :: ' ' :: item) ++ rest) =
      match skipBlanks rest with
      | '}' :: rest => .ok ([(.str key, v)], rest)
      | ',' :: rest => do
        let (others, rest) ← entries fuel (skipBlanks rest)
        return ((.str key, v) :: others, rest)
      | rest => failAt "Expecting ',' delimiter" rest := by
  obtain ⟨c, more, shape, mark, -⟩ := reads.opens
  have found := reads.value fuel rest enough stops
  have begins : string key ++ (':' :: ' ' :: item) ++ rest =
      '"' :: (key.toList.flatMap escapedChar ++ '"' :: (':' :: ' ' :: (item ++ rest))) := by
    simp [string]
  have skipped : skipBlanks (' ' :: (item ++ rest)) = item ++ rest := by
    rw [shape]
    exact skipBlanks_before (List.all_eq_true.1 (by decide) : ∀ c ∈ [' '], isBlank c = true) mark _
  rw [begins, entries, stringBody_string]
  dsimp only [Bind.bind, Except.bind]
  rw [skipBlanks_cons rfl]
  simp only [skipped, found, List.reverse_nil, List.nil_append, String.ofList_toList]
  rfl

theorem join_opens_entry (separator : Text) {texts : List Text} {pairs : List (Value × Value)}
    (each : List.Forall₂ ReadsEntry texts pairs) (some : texts ≠ []) :
    ∃ others, Text.join separator texts = '"' :: others := by
  cases each with
  | nil => exact (some rfl).elim
  | @cons text entry texts pairs first others =>
    obtain ⟨key, item, -, rfl, -⟩ := first
    cases texts with
    | nil => exact ⟨_, rfl⟩
    | cons second texts => exact ⟨_, rfl⟩

section

variable {gap finish : Text} (gapBlank : ∀ c ∈ gap, isBlank c = true) (finishBlank : ∀ c ∈ finish, isBlank c = true)

include gapBlank finishBlank in
theorem entries_join {texts : List Text} {pairs : List (Value × Value)} (each : List.Forall₂ ReadsEntry texts pairs)
    (some : texts ≠ []) (fuel : Nat) (enough : 2 * (Text.join (',' :: gap) texts).length + 1 ≤ fuel) (rest : Text) :
    entries fuel (Text.join (',' :: gap) texts ++ (finish ++ '}' :: rest)) = .ok (pairs, rest) := by
  induction each generalizing fuel with
  | nil => exact (some rfl).elim
  | @cons text entry texts pairs first others ih =>
    obtain ⟨name, v⟩ := entry
    obtain ⟨key, item, rfl, rfl, reads⟩ := first
    obtain ⟨fuel, rfl⟩ : ∃ fuel', fuel = fuel' + 1 := ⟨fuel - 1, by omega⟩
    cases others with
    | nil =>
      rw [Text.join] at enough ⊢
      simp only [List.length_append, List.length_cons] at enough
      rw [entries_cons fuel reads (by omega) (stops_blanks finishBlank rfl rest),
        skipBlanks_before finishBlank rfl]
      rfl
    | @cons second pair texts pairs next others =>
      rw [join_cons_cons] at enough ⊢
      simp only [List.length_append, List.length_cons] at enough
      rw [List.append_assoc, List.append_assoc, List.cons_append,
        entries_cons fuel reads (by omega) (stops_cons (show isNumeral ',' = false from rfl)), skipBlanks_cons rfl]
      obtain ⟨more, shape⟩ := join_opens_entry (',' :: gap) (.cons next others) (by simp)
      have ahead := ih (by simp) fuel (by omega)
      rw [shape, List.cons_append] at ahead ⊢
      simp only [skipBlanks_before gapBlank (show isBlank '"' = false from rfl), ahead]
      rfl

end

theorem named_of_readsEntry {texts : List Text} {pairs : List (Value × Value)}
    (each : List.Forall₂ ReadsEntry texts pairs) : ∀ entry ∈ pairs, ∃ s, entry.1 = .str s := by
  induction each with
  | nil => simp
  | cons first _ ih =>
    obtain ⟨key, _, named, _⟩ := first
    exact List.forall_mem_cons.2 ⟨⟨key, named⟩, ih⟩

theorem reads_object {texts : List Text} {pairs : List (Value × Value)} (each : List.Forall₂ ReadsEntry texts pairs)
    (distinct : (pairs.map (·.1)).Nodup) (layout : Layout) (depth : Nat) :
    Reads (layout.enclose depth '{' '}' texts) (.dict pairs) := by
  obtain ⟨gap, separator, gapBlank⟩ := separator_eq layout (depth + 1)
  have start := isBlank_of_mem_lineBreak layout (depth + 1)
  have finish := isBlank_of_mem_lineBreak layout depth
  have named := named_of_readsEntry each
  cases each with
  | nil => exact .of_cons (by decide) (by decide) (by decide) fun _ _ _ _ => rfl
  | @cons text entry texts pairs first others =>
    have each : List.Forall₂ ReadsEntry (text :: texts) (entry :: pairs) := .cons first others
    obtain ⟨more, shape⟩ := join_opens_entry (',' :: gap) each (by simp)
    rw [enclose_eq, separator]
    refine .of_cons (by decide) (by decide) (by decide) fun fuel rest enough _ => ?_
    simp only [List.length_append] at enough
    have inside := entries_join gapBlank finish each (by simp) fuel (by omega) rest
    rw [shape] at inside ⊢
    simp only [List.append_assoc, List.cons_append, List.nil_append] at inside ⊢
    rw [value, skipBlanks_before start (show isBlank '"' = false from rfl)]
    split
    · rename_i same
      exact absurd (List.cons.inj same).1 (by decide)
    · rw [inside]
      exact congrArg (fun entries => Except.ok (Value.dict entries, rest)) (Value.dictOf_eq_self named distinct)

/-! ## Whole texts -/

theorem Reads.read {text : Text} {v : Value} (reads : Reads text v) : Json.read text = .ok v := by
  obtain ⟨c, others, shape, mark, -, marked⟩ := reads.opens
  have found := reads.value (2 * text.length + 2) [] (by omega) stops_nil
  rw [List.append_nil] at found
  unfold Json.read
  split
  · exact (marked (List.cons.inj shape).1.symm).elim
  · have skipped : skipBlanks text = text := by rw [shape, skipBlanks_cons mark]
    rw [skipped, found]
    rfl

end LexGen.Json
