import LexGen.Json.Reader
import LexGen.Json.Writer
import LexGen.Value.Display

/-!
# Numbers in JSON texts

A number ends where no character follows that could belong to it, so what it is does not depend on what comes
after it.

* `number_append`: a number that is read alone is read in front of anything else.
* `number_decimal`: a written integer is read again, up to the longest that is converted.
-/

namespace LexGen.Json

/-! ## Where numbers end -/

def isNumeral (c : Char) : Bool :=
  isDigit c || c == '.' || c == 'e' || c == 'E' || c == '+' || c == '-'

def Stops (rest : Text) : Prop := ∀ c ∈ rest.head?, isNumeral c = false

theorem stops_nil : Stops [] := by simp [Stops]

theorem stops_cons {c : Char} {rest : Text} (other : isNumeral c = false) : Stops (c :: rest) := by
  simpa [Stops] using other

variable {text rest : Text}

theorem takeWhile_append_of_stops {p : Char → Bool} (numerals : ∀ c, p c = true → isNumeral c = true)
    (stops : Stops rest) : (text ++ rest).takeWhile p = text.takeWhile p := by
  induction text with
  | nil =>
    cases rest with
    | nil => rfl
    | cons c rest =>
      have other : p c = false := by
        have stop := stops c rfl
        cases numeral : p c
        · rfl
        · rw [numerals c numeral] at stop
          cases stop
      rw [List.nil_append, List.takeWhile_cons_of_neg (by simp [other]), List.takeWhile_nil]
  | cons c text ih => simp only [List.cons_append, List.takeWhile_cons, ih]

theorem isNumeral_of_isDigit {c : Char} (digit : isDigit c = true) : isNumeral c = true := by
  simp [isNumeral, digit]

/-! ## Parts of numbers -/

theorem integer?_append (stops : Stops rest) {digits : Text} (h : integer? text = some digits) :
    integer? (text ++ rest) = some digits := by
  unfold integer? at h ⊢
  split at h
  · exact h
  · rename_i c tail nonzero
    rw [List.cons_append]
    split
    · rename_i same
      obtain ⟨rfl, -⟩ := List.cons.inj same
      exact (nonzero rfl).elim
    · rename_i same
      obtain ⟨rfl, rfl⟩ := List.cons.inj same
      rw [takeWhile_append_of_stops (fun _ => isNumeral_of_isDigit) stops]
      exact h
    · rename_i same
      cases same
  · cases h

theorem fraction?_append (stops : Stops rest) : fraction? (text ++ rest) = fraction? text := by
  cases text with
  | nil =>
    cases rest with
    | nil => rfl
    | cons c rest =>
      have stop := stops c rfl
      rw [List.nil_append]
      unfold fraction?
      split
      · rename_i same
        obtain ⟨rfl, -⟩ := List.cons.inj same
        cases stop
      · rfl
  | cons c text =>
    by_cases point : c = '.'
    · subst point
      simp only [List.cons_append, fraction?]
      rw [takeWhile_append_of_stops (fun _ => isNumeral_of_isDigit) stops]
    · simp [fraction?, point]

theorem exponent?_append (stops : Stops rest) : exponent? (text ++ rest) = exponent? text := by
  cases text with
  | nil =>
    cases rest with
    | nil => rfl
    | cons c rest =>
      have stop := stops c rfl
      simp only [isNumeral, Bool.or_eq_false_iff] at stop
      simp [exponent?, stop.1.1.1.2, stop.1.1.2]
  | cons c text =>
    have sign : (text ++ rest).takeWhile (fun c => c == '+' || c == '-') =
        text.takeWhile fun c => c == '+' || c == '-' := by
      apply takeWhile_append_of_stops _ stops
      intro c sign
      simp only [Bool.or_eq_true, beq_iff_eq] at sign
      rcases sign with rfl | rfl <;> rfl
    simp only [List.cons_append, exponent?, sign]
    rw [List.drop_append_of_le_length (List.takeWhile_prefix _).length_le,
      takeWhile_append_of_stops (fun _ => isNumeral_of_isDigit) stops]

theorem length_integer?_le {digits : Text} (h : integer? text = some digits) : digits.length ≤ text.length := by
  unfold integer? at h
  split at h
  · obtain rfl := Option.some.inj h
    simp
  · split at h
    · obtain rfl := Option.some.inj h
      simpa using (List.takeWhile_prefix _).length_le
    · cases h
  · cases h

theorem length_fraction?_le : ((fraction? text).getD []).length ≤ text.length := by
  unfold fraction?
  split
  · dsimp only
    split
    · simp
    · simpa using (List.takeWhile_prefix _).length_le
  · simp

theorem length_exponent?_le : ((exponent? text).getD []).length ≤ text.length := by
  unfold exponent?
  split
  · split
    · dsimp only
      split
      · simp
      · rename_i e tail _ _
        have sign := (List.takeWhile_prefix (fun c => c == '+' || c == '-') (l := tail)).length_le
        have digits := (List.takeWhile_prefix isDigit
          (l := tail.drop (tail.takeWhile fun c => c == '+' || c == '-').length)).length_le
        simp only [Option.getD_some, List.length_cons, List.length_append, List.length_drop] at digits ⊢
        omega
    · simp
  · simp

/-! ## Whole numbers -/

/-- A number that is read alone is read in front of anything that does not go on with it. -/
theorem number_append {negative : Bool} {whole whole' : Text} {v : Value} {left : Text}
    (h : number negative whole text = .ok (v, left)) (stops : Stops rest) :
    number negative whole' (text ++ rest) = .ok (v, left ++ rest) := by
  unfold number at h ⊢
  cases found : integer? text with
  | none =>
    rw [found] at h
    cases h
  | some digits =>
    have digitsLength := length_integer?_le found
    rw [found] at h
    rw [integer?_append stops found]
    dsimp only at h ⊢
    rw [List.drop_append_of_le_length digitsLength, fraction?_append stops,
      List.drop_append_of_le_length length_fraction?_le, exponent?_append stops,
      List.drop_append_of_le_length length_exponent?_le]
    split at h
    · rename_i whole
      rw [if_pos whole]
      split at h
      · cases h
      · rename_i short
        rw [if_neg short]
        simp only [Except.ok.injEq, Prod.mk.injEq] at h ⊢
        exact ⟨h.1, by rw [h.2]⟩
    · rename_i broken
      rw [if_neg broken]
      simp only [Except.ok.injEq, Prod.mk.injEq] at h ⊢
      exact ⟨h.1, by rw [h.2]⟩

/-! ## Integers -/

theorem isDigit_of_mem_decimal {n : Nat} {c : Char} (mem : c ∈ Text.decimal n) : isDigit c = true := by
  rw [Text.decimal, Nat.toString_eq_repr, Nat.toList_repr] at mem
  have digit := Nat.isDigit_of_mem_toDigits (by decide) (by decide) mem
  simp only [Char.isDigit, Bool.and_eq_true, decide_eq_true_eq] at digit
  simp only [isDigit, Char.le_def, Bool.and_eq_true, decide_eq_true_eq]
  exact digit

theorem digitsValue_decimal (n : Nat) : Binary64.digitsValue (Text.decimal n) = n := by
  have step : (fun (value : Nat) (c : Char) => value * 10 + (c.toNat - 48)) =
      fun value c => 10 * value + (c.toNat - '0'.toNat) := by
    funext value c
    rw [Nat.mul_comm]
    rfl
  rw [Text.decimal, Nat.toString_eq_repr, Nat.toList_repr, Binary64.digitsValue, step,
    ← Nat.ofDigitChars_eq_foldl, Nat.ofDigitChars_ten_toDigits]

theorem head_decimal_ne_zero {n : Nat} (positive : 0 < n) : (Text.decimal n).head? ≠ some '0' := by
  rw [Text.decimal, Nat.toString_eq_repr, Nat.toList_repr]
  induction n using Nat.strongRecOn with
  | ind n ih =>
    rw [Nat.toDigits_eq_if (by decide)]
    split
    · simp
      omega
    · have shorter := ih (n / 10) (by omega) (by omega)
      obtain ⟨c, tail, written⟩ := List.exists_cons_of_ne_nil (Nat.toDigits_ne_nil (n := n / 10) (b := 10))
      rw [written] at shorter ⊢
      exact shorter

theorem integer?_decimal (n : Nat) : integer? (Text.decimal n) = some (Text.decimal n) := by
  rcases Nat.eq_zero_or_pos n with rfl | positive
  · rfl
  · have nonzero := head_decimal_ne_zero positive
    have digits := fun c => isDigit_of_mem_decimal (n := n) (c := c)
    cases written : Text.decimal n with
    | nil =>
      rw [Text.decimal, Nat.toString_eq_repr, Nat.toList_repr] at written
      exact (Nat.toDigits_ne_nil written).elim
    | cons c tail =>
      rw [written] at nonzero digits
      have others : tail.takeWhile isDigit = tail := by
        have all : (tail ++ []).takeWhile isDigit = tail ++ [].takeWhile isDigit :=
          List.takeWhile_append_of_pos fun d mem => digits d (List.mem_cons_of_mem c mem)
        simpa using all
      have nonzero : c ≠ '0' := by simpa using nonzero
      simp [integer?, digits c List.mem_cons_self, others]

theorem length_decimal_le {n longest : Nat} (positive : 0 < longest) (short : n < Nat.pow 10 longest) :
    (Text.decimal n).length ≤ longest := by
  rw [Text.decimal, Nat.toString_eq_repr, Nat.toList_repr, Nat.length_toDigits_le_iff (by decide) positive]
  exact short

theorem holdsLong_int {i : Int} (short : i.natAbs < Nat.pow 10 Text.longestInteger) :
    (Value.int i).holdsLong = false := by
  have length := length_decimal_le (by decide) short
  rw [Value.holdsLong, decide_eq_false (Nat.not_lt.2 length)]

theorem itemsHoldLong_eq_false {items : List Value} (short : ∀ item ∈ items, item.holdsLong = false) :
    Value.itemsHoldLong items = false := by
  induction items with
  | nil => rfl
  | cons item items ih =>
    obtain ⟨first, others⟩ := List.forall_mem_cons.1 short
    rw [Value.itemsHoldLong, first, ih others]
    rfl

theorem entriesHoldLong_eq_false {entries : List (Value × Value)} (keys : ∀ entry ∈ entries, entry.1.holdsLong = false)
    (values : ∀ entry ∈ entries, entry.2.holdsLong = false) : Value.entriesHoldLong entries = false := by
  induction entries with
  | nil => rfl
  | cons entry entries ih =>
    obtain ⟨key, otherKeys⟩ := List.forall_mem_cons.1 keys
    obtain ⟨value, otherValues⟩ := List.forall_mem_cons.1 values
    rw [Value.entriesHoldLong, key, value, ih otherKeys otherValues]
    rfl

theorem number_decimal (negative : Bool) (whole : Text) {n : Nat} (short : n < Nat.pow 10 Text.longestInteger) {rest : Text}
    (stops : Stops rest) :
    number negative whole (Text.decimal n ++ rest) = .ok (.int (if negative then -(n : Int) else n), rest) := by
  have length : ¬ Text.longestInteger < (Text.decimal n).length := Nat.not_lt.2 (length_decimal_le (by decide) short)
  have alone : number negative whole (Text.decimal n) = .ok (.int (if negative then -(n : Int) else n), []) := by
    simp [number, integer?_decimal, length, digitsValue_decimal, fraction?, exponent?]
  exact number_append alone stops

theorem number_left {negative : Bool} {whole : Text} {v : Value} {left : Text}
    (h : number negative whole text = .ok (v, left)) : left ⊆ text := by
  unfold number at h
  cases found : integer? text with
  | none =>
    rw [found] at h
    cases h
  | some digits =>
    rw [found] at h
    dsimp only at h
    have dropped : left = ((text.drop digits.length).drop
        ((fraction? (text.drop digits.length)).getD []).length).drop
          ((exponent? ((text.drop digits.length).drop
            ((fraction? (text.drop digits.length)).getD []).length)).getD []).length := by
      split at h
      · split at h
        · cases h
        · simp only [Except.ok.injEq, Prod.mk.injEq] at h
          exact h.2.symm
      · simp only [Except.ok.injEq, Prod.mk.injEq] at h
        exact h.2.symm
    rw [dropped]
    exact List.Subset.trans (List.Subset.trans (List.drop_subset _ _) (List.drop_subset _ _)) (List.drop_subset _ _)

/-! ## Floating-point numbers -/

theorem isNumeral_of_mem_layout {digits : Text} (all : ∀ c ∈ digits, isDigit c = true) (point : Int) :
    ∀ c ∈ Binary64.layout digits point, isNumeral c = true := by
  have numerals : ∀ c ∈ digits, isNumeral c = true := fun c mem => isNumeral_of_isDigit (all c mem)
  have taken : ∀ n, ∀ c ∈ digits.take n, isNumeral c = true := fun n c mem => numerals c (List.mem_of_mem_take mem)
  have dropped : ∀ n, ∀ c ∈ digits.drop n, isNumeral c = true := fun n c mem => numerals c (List.mem_of_mem_drop mem)
  have zeros : ∀ n, ∀ c ∈ List.replicate n '0', isNumeral c = true := by
    intro n c mem
    obtain rfl := List.eq_of_mem_replicate mem
    rfl
  have power : ∀ n, ∀ c ∈ Text.decimal n, isNumeral c = true := fun n c mem =>
    isNumeral_of_isDigit (isDigit_of_mem_decimal mem)
  unfold Binary64.layout
  split
  · split
    · exact List.forall_mem_append.2 ⟨List.forall_mem_append.2 ⟨List.all_eq_true.1 (by decide), zeros _⟩, numerals⟩
    · dsimp only
      refine List.forall_mem_append.2 ⟨List.forall_mem_append.2 ⟨taken _, zeros _⟩, ?_⟩
      refine List.forall_mem_cons.2 ⟨by decide, ?_⟩
      split
      · simp [isNumeral, isDigit]
      · exact dropped _
  · dsimp only
    refine List.forall_mem_append.2 ⟨List.forall_mem_append.2 ⟨List.forall_mem_append.2 ⟨taken 1, ?_⟩, ?_⟩, ?_⟩
    · split
      · simp
      · exact List.forall_mem_cons.2 ⟨by decide, dropped 1⟩
    · split <;> exact List.all_eq_true.1 (by decide)
    · split
      · exact List.forall_mem_cons.2 ⟨by decide, power _⟩
      · exact power _

theorem exists_cons_append {c : Char} {first second : Text} (absent : c ∉ first)
    (next : ∃ d others, second = d :: others ∧ d ≠ c) : ∃ d others, first ++ second = d :: others ∧ d ≠ c := by
  cases first with
  | nil => exact next
  | cons d first =>
    refine ⟨d, first ++ second, rfl, ?_⟩
    rintro rfl
    exact absent List.mem_cons_self

theorem layout_unsigned {digits : Text} (all : ∀ c ∈ digits, isDigit c = true) (point : Int) :
    ∃ c others, Binary64.layout digits point = c :: others ∧ c ≠ '-' := by
  have unsigned : '-' ∉ digits := fun mem => absurd (all '-' mem) (by decide)
  unfold Binary64.layout
  split
  · split
    · exact ⟨'0', _, rfl, by decide⟩
    · dsimp only
      refine exists_cons_append ?_ ⟨'.', _, rfl, by decide⟩
      simp only [List.mem_append, List.mem_replicate, not_or]
      exact ⟨fun mem => unsigned (List.mem_of_mem_take mem), by simp⟩
  · dsimp only
    rw [List.append_assoc, List.append_assoc]
    refine exists_cons_append (fun mem => unsigned (List.mem_of_mem_take mem)) ?_
    split
    · exact ⟨'e', _, rfl, by decide⟩
    · exact ⟨'.', _, rfl, by decide⟩

/-- The text of a finite number is made of the characters of numbers, and there are some after the sign. -/
theorem text_finite (negative : Bool) (significand : Nat) (exponent : Int) :
    ∃ c others, (Binary64.finite negative significand exponent).text =
        (if negative then ['-'] else []) ++ c :: others ∧
      c ≠ '-' ∧ ∀ d ∈ c :: others, isNumeral d = true := by
  rw [Binary64.text]
  by_cases zero : significand = 0
  · rw [if_pos zero]
    exact ⟨'0', ['.', '0'], rfl, by decide, List.all_eq_true.1 (by decide)⟩
  · have digits : ∀ n, ∀ c ∈ Binary64.withoutZeros (Text.decimal n), isDigit c = true := by
      intro n c mem
      rw [Binary64.withoutZeros, Text.trimEndBy, List.mem_reverse] at mem
      exact isDigit_of_mem_decimal (List.mem_reverse.1 ((List.dropWhile_sublist _).subset mem))
    rw [if_neg zero]
    dsimp only
    obtain ⟨c, others, shape, unsigned⟩ := layout_unsigned (digits _) _
    refine ⟨c, others, by rw [shape], unsigned, ?_⟩
    rw [← shape]
    exact isNumeral_of_mem_layout (digits _) _

end LexGen.Json
