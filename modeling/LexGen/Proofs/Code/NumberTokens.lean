import LexGen.Proofs.Code.TokenRuns

/-!
# Numbers as tokens

The text of a natural number and that of a finite floating-point number without a sign are single tokens in front of
what closes a value, and they stand for the numbers.

* `cuts_decimal`, `numberToken_decimal`: natural numbers.
* `numberToken_float`: floating-point numbers.
-/

namespace LexGen.Code

def closers : List Char := [',', ':', ')', ']', '\x7d', '\n']

def Closed (rest : Text) : Prop := ∃ c others, rest = c :: others ∧ c ∈ closers

theorem Closed.head {rest : Text} (closed : Closed rest) {p : Char → Bool} (all : closers.all p = true) :
    ∀ c ∈ rest.head?, p c = true := by
  obtain ⟨c, others, rfl, mem⟩ := closed
  rintro d ⟨⟩
  exact List.all_eq_true.1 all _ mem

/-! ## Digits -/

section

variable {digits rest : Text}

theorem digitsTail_stops (all : ∀ c ∈ digits, c.isDigit = true)
    (stops : ∀ c ∈ rest.head?, (!c.isDigit && c != '_') = true) :
    digitsTail Char.isDigit (digits ++ rest) = some (digits, rest) := by
  induction digits with
  | nil =>
    cases rest with
    | nil => rfl
    | cons c rest =>
      have other := stops c rfl
      simp only [Bool.and_eq_true, Bool.not_eq_true', bne_iff_ne] at other
      rw [List.nil_append, digitsTail]
      · rw [if_neg (by simp [other.1])]
      · exact fun _ _ same => absurd same other.2
      · exact fun same => absurd same other.2
  | cons c digits ih =>
    have digit := all c List.mem_cons_self
    have low : c ≠ '_' := by
      rintro rfl
      cases digit
    rw [List.cons_append, digitsTail, if_pos digit, ih fun d mem => all d (List.mem_cons_of_mem c mem)]
    · rfl
    · exact fun _ _ same => absurd same low
    · exact fun same => absurd same low

theorem numberMayEnd_closed (closed : Closed rest) : numberMayEnd rest = true := by
  obtain ⟨c, others, rfl, mem⟩ := closed
  have all : (closers.all fun c => !isNameChar c) = true := rfl
  rw [numberMayEnd, List.all_eq_true.1 all c mem, Bool.or_true]

theorem numberEnd_closed (taken : Text) (closed : Closed rest) : numberEnd taken rest = some (taken, rest) := by
  have ends := numberMayEnd_closed closed
  have other := closed.head (p := fun c => c != 'j' && c != 'J') rfl
  obtain ⟨c, others, rfl, mem⟩ := closed
  have plain := other c rfl
  simp only [Bool.and_eq_true, bne_iff_ne] at plain
  rw [numberEnd, if_neg (by simp [plain]), if_pos ends]

theorem numberExponent_closed (taken : Text) (closed : Closed rest) : numberExponent taken rest = some (taken, rest) := by
  have ends := numberEnd_closed taken closed
  have other := closed.head (p := fun c => c != 'e' && c != 'E') rfl
  obtain ⟨c, others, rfl, mem⟩ := closed
  have plain := other c rfl
  simp only [Bool.and_eq_true, bne_iff_ne] at plain
  unfold numberExponent
  dsimp only
  rw [if_neg (by simp [plain]), ends]

theorem number_eq_decimalNumber {text : Text}
    (plain : ∀ c ∈ (text.drop 1).head?, c ∉ ['x', 'X', 'o', 'O', 'b', 'B']) : number text = decimalNumber text := by
  unfold number
  split
  · rename_i c rest
    have other := plain c rfl
    simp only [List.mem_cons, List.not_mem_nil, or_false, not_or] at other
    rw [if_neg (by simp [other]), if_neg (by simp [other]), if_neg (by simp [other])]
  · rfl

/-! ## Natural numbers -/

theorem decimalNumber_digits (all : ∀ c ∈ digits, c.isDigit = true) (single : digits.head? = some '0' → digits = ['0'])
    (closed : Closed rest) : decimalNumber (digits ++ rest) = some (digits, rest) := by
  have taken := digitsTail_stops all (closed.head rfl)
  have ends := numberEnd_closed digits closed
  have other := closed.head (p := fun c => c != '.' && c != 'e' && c != 'E' && c != 'j' && c != 'J') rfl
  have zeros : decimalNumber.checkZeros digits (digits, rest) = some (digits, rest) := by
    rw [decimalNumber.checkZeros]
    refine if_neg ?_
    by_cases zero : digits.head? = some '0'
    · simp [single zero]
    · simp [zero]
  obtain ⟨c, others, rfl, mem⟩ := closed
  have plain := other c rfl
  simp only [Bool.and_eq_true, bne_iff_ne] at plain
  rw [decimalNumber, taken, Option.bind_eq_bind, Option.bind_some]
  dsimp only
  split
  · rename_i same
    exact absurd (List.cons.inj same).1 plain.1.1.1.1
  · rename_i same
    obtain ⟨rfl, rfl⟩ := List.cons.inj same
    rw [if_neg (by simp [plain]), ends]
    exact zeros
  · rename_i same
    cases same

theorem number_decimal (n : Nat) (closed : Closed rest) :
    number (Text.decimal n ++ rest) = some (Text.decimal n, rest) := by
  obtain ⟨c, digits, written, all, single⟩ := exists_decimal n
  have letters : (closers.all fun c => ['x', 'X', 'o', 'O', 'b', 'B'].contains c) = false := rfl
  rw [written]
  rw [number_eq_decimalNumber, decimalNumber_digits all _ closed]
  · rintro ⟨⟩
    rw [single rfl]
  · intro d head
    cases digits with
    | nil =>
      have other := closed.head (p := fun c => !(['x', 'X', 'o', 'O', 'b', 'B'].contains c)) rfl d head
      simpa using other
    | cons e digits =>
      cases head
      exact digit_plain (all _ (List.mem_cons_of_mem _ List.mem_cons_self)) _ rfl

theorem cuts_decimal (brackets : List Char) (n : Nat) (closed : Closed rest) :
    Cuts (IsToken .number (Text.decimal n)) brackets (Text.decimal n ++ rest) brackets rest := by
  have taken := number_decimal n closed
  obtain ⟨c, digits, written, all, -⟩ := exists_decimal n
  rw [written] at taken ⊢
  exact cuts_numberToken brackets (all c List.mem_cons_self) taken

theorem digitsIn_ten (all : ∀ c ∈ digits, c.isDigit = true) : digitsIn 10 digits = Binary64.digitsValue digits := by
  unfold digitsIn Binary64.digitsValue
  refine List.foldl_ext _ _ _ fun n c mem => ?_
  rw [digitValue, if_pos (all c mem)]

theorem numberValue?_decimal {n : Nat} (short : n < Nat.pow 10 Text.longestInteger) :
    numberValue? (Text.decimal n) = some (.int n) := by
  have value := Json.digitsValue_decimal n
  have length := Json.length_decimal_le (by decide) short
  obtain ⟨c, digits, written, all, single⟩ := exists_decimal n
  rw [written] at value length ⊢
  have lowless : (c :: digits).filter (· != '_') = c :: digits := by
    refine List.filter_eq_self.2 fun d mem => ?_
    have := digit_plain (all d mem) ['_'] rfl
    simpa using this
  have decimal : numberValue?.decimal (c :: digits) = some (.int n) := by
    rw [numberValue?.decimal, if_pos (List.all_eq_true.2 all), if_neg (by omega), digitsIn_ten all, value]
  unfold numberValue?
  rw [lowless]
  dsimp only
  split
  · rename_i same
    obtain ⟨rfl, rfl⟩ := List.cons.inj same
    cases single rfl
  · exact decimal

end

/-! ## Floating-point numbers -/

structure IsDigits (text : Text) : Prop where
  nonempty : text ≠ []
  all : ∀ c ∈ text, c.isDigit = true

theorem IsDigits.first {digits : Text} (h : IsDigits digits) :
    ∃ c others, digits = c :: others ∧ c.isDigit = true := by
  obtain ⟨c, others, rfl⟩ := List.exists_cons_of_ne_nil h.nonempty
  exact ⟨c, others, rfl, h.all c List.mem_cons_self⟩

theorem IsDigits.append {digits others : Text} (h : IsDigits digits) (more : ∀ c ∈ others, c.isDigit = true) :
    IsDigits (digits ++ others) :=
  ⟨List.append_ne_nil_of_left_ne_nil h.nonempty _, List.forall_mem_append.2 ⟨h.all, more⟩⟩

theorem isDigits_decimal (n : Nat) : IsDigits (Text.decimal n) := by
  obtain ⟨c, digits, written, all, -⟩ := exists_decimal n
  rw [written]
  exact ⟨by simp, all⟩

/-- The exponent of a number. -/
inductive IsExponent : Text → Prop
  | mk {sign : Char} (isSign : sign = '+' ∨ sign = '-') {size : Text} (digits : IsDigits size) :
    IsExponent ('e' :: sign :: size)

/-- The text of a floating-point number without a sign. -/
inductive FloatText : Text → Prop
  | fraction {whole part : Text} (first : IsDigits whole) (second : IsDigits part) : FloatText (whole ++ '.' :: part)
  | power {whole exponent : Text} (first : IsDigits whole) (last : IsExponent exponent) :
    FloatText (whole ++ exponent)
  | both {whole part exponent : Text} (first : IsDigits whole) (second : IsDigits part) (last : IsExponent exponent) :
    FloatText (whole ++ '.' :: (part ++ exponent))

theorem floatText_layout {digits : Text} (h : IsDigits digits) (point : Int) :
    FloatText (Binary64.layout digits point) := by
  obtain ⟨c, others, rfl, digit⟩ := h.first
  have zeros (n : Nat) : ∀ c ∈ List.replicate n '0', c.isDigit = true := fun c mem => by
    rw [List.eq_of_mem_replicate mem]
    rfl
  have size : IsDigits (if (Text.decimal (point - 1).natAbs).length < 2 then '0' :: Text.decimal (point - 1).natAbs
      else Text.decimal (point - 1).natAbs) := by
    have digits := isDigits_decimal (point - 1).natAbs
    split
    · exact ⟨by simp, List.forall_mem_cons.2 ⟨rfl, digits.all⟩⟩
    · exact digits
  have sign : (if point - 1 < 0 then '-' else '+') = '+' ∨ (if point - 1 < 0 then '-' else '+') = '-' := by
    split
    · exact .inr rfl
    · exact .inl rfl
  unfold Binary64.layout
  split
  · split
    · refine .fraction (show IsDigits ['0'] from ⟨by simp, by simp⟩) ⟨by simp, ?_⟩
      exact List.forall_mem_append.2 ⟨zeros _, h.all⟩
    · rename_i positive
      refine .fraction ?_ ?_
      · refine .append ⟨?_, fun d mem => h.all d (List.mem_of_mem_take mem)⟩ (zeros _)
        obtain ⟨n, same⟩ : ∃ n, point.toNat = n + 1 := ⟨point.toNat - 1, by omega⟩
        simp [same]
      · split
        · exact ⟨by simp, by simp⟩
        · rename_i more
          exact ⟨by simpa using more, fun d mem => h.all d (List.mem_of_mem_drop mem)⟩
  · dsimp only [List.take_succ_cons, List.take_zero, List.drop_succ_cons, List.drop_zero]
    have first : IsDigits [c] := ⟨by simp, List.forall_mem_singleton.2 digit⟩
    cases others with
    | nil =>
      have power := FloatText.power first (.mk sign size)
      simpa using power
    | cons d others =>
      have second : IsDigits (d :: others) := ⟨by simp, fun e mem => h.all e (List.mem_cons_of_mem c mem)⟩
      have both := FloatText.both first second (.mk sign size)
      simpa using both

theorem digitsTail_digits {digits rest : Text} (h : IsDigits digits)
    (stops : ∀ c ∈ rest.head?, (!c.isDigit && c != '_') = true) :
    digitsTail Char.isDigit (digits ++ rest) = some (digits, rest) := digitsTail_stops h.all stops

theorem exponent_stops {exponent : Text} (h : IsExponent exponent) (rest : Text) :
    ∀ c ∈ (exponent ++ rest).head?, (!c.isDigit && c != '_') = true := by
  cases h with
  | mk =>
    rintro c ⟨⟩
    rfl

theorem number_digits {whole after : Text} (h : IsDigits whole)
    (plain : ∀ c ∈ after.head?, c ∉ ['x', 'X', 'o', 'O', 'b', 'B']) :
    number (whole ++ after) = decimalNumber (whole ++ after) := by
  refine number_eq_decimalNumber fun c head => ?_
  obtain ⟨d, others, rfl, -⟩ := h.first
  cases others with
  | nil => exact plain c head
  | cons e others =>
    cases head
    exact digit_plain (h.all _ (by simp)) _ rfl

theorem decimalNumber_point {whole : Text} (h : IsDigits whole) (after : Text) :
    decimalNumber (whole ++ '.' :: after) = numberFraction (whole ++ ['.']) after := by
  rw [decimalNumber, digitsTail_digits h (by simp), Option.bind_eq_bind, Option.bind_some]
  rfl

section

variable {rest : Text} (closed : Closed rest)

include closed

theorem numberExponent_exponent {exponent : Text} (h : IsExponent exponent) (taken : Text) :
    numberExponent taken (exponent ++ rest) = some (taken ++ exponent, rest) := by
  cases h with
  | @mk sign isSign size digits =>
    have run := digitsTail_digits digits (closed.head rfl)
    have ends := numberEnd_closed (taken ++ 'e' :: sign :: size) closed
    obtain ⟨c, others, rfl, digit⟩ := digits.first
    unfold numberExponent
    simp only [List.cons_append]
    rw [if_pos (by simp), if_pos (by simpa using isSign), if_pos (by simpa using digit)]
    rw [List.cons_append] at run
    rw [run]
    exact ends

theorem numberFraction_part {part : Text} (h : IsDigits part) (taken : Text) :
    numberFraction taken (part ++ rest) = some (taken ++ part, rest) := by
  have run := digitsTail_digits h (closed.head rfl)
  have ends := numberExponent_closed (taken ++ part) closed
  obtain ⟨c, others, rfl, digit⟩ := h.first
  rw [List.cons_append] at run ⊢
  rw [numberFraction, if_pos (by simpa using digit), run]
  exact ends

theorem numberFraction_both {part exponent : Text} (h : IsDigits part) (last : IsExponent exponent) (taken : Text) :
    numberFraction taken (part ++ (exponent ++ rest)) = some (taken ++ part ++ exponent, rest) := by
  have run := digitsTail_digits h (exponent_stops last rest)
  have ends := numberExponent_exponent closed last (taken ++ part)
  obtain ⟨c, others, rfl, digit⟩ := h.first
  rw [List.cons_append] at run ⊢
  rw [numberFraction, if_pos (by simpa using digit), run]
  exact ends

theorem decimalNumber_power {whole exponent : Text} (h : IsDigits whole) (last : IsExponent exponent) :
    decimalNumber (whole ++ (exponent ++ rest)) = some (whole ++ exponent, rest) := by
  have run := digitsTail_digits h (exponent_stops last rest)
  have ends := numberExponent_exponent closed last whole
  cases last with
  | @mk sign isSign size digits =>
    rw [decimalNumber, run, Option.bind_eq_bind, Option.bind_some]
    simp only [List.cons_append] at ends ⊢
    split
    · rename_i same
      cases (List.cons.inj same).1
    · rename_i same
      obtain ⟨rfl, -⟩ := List.cons.inj same
      rw [if_pos (by simp), ends, Option.bind_some, if_neg (by simp)]
    · rename_i same
      cases same

theorem number_float {token : Text} (h : FloatText token) : number (token ++ rest) = some (token, rest) := by
  cases h with
  | @fraction whole part first second =>
    rw [List.append_assoc, List.cons_append, number_digits first (by simp), decimalNumber_point first,
      numberFraction_part closed second]
    simp
  | @power whole exponent first last =>
    rw [List.append_assoc, number_digits first, decimalNumber_power closed first last]
    cases last with
    | mk => simp
  | @both whole part exponent first second last =>
    rw [List.append_assoc, List.cons_append, number_digits first (by simp), decimalNumber_point first,
      List.append_assoc, numberFraction_both closed second last]
    simp

end

/-! ## The values of floating-point numbers -/

theorem FloatText.chars {token : Text} (h : FloatText token) :
    ∀ c ∈ token, (c.isDigit || ['.', 'e', '+', '-'].contains c) = true := by
  have digits {text : Text} (all : IsDigits text) : ∀ c ∈ text, (c.isDigit || ['.', 'e', '+', '-'].contains c) = true :=
    fun c mem => by rw [all.all c mem, Bool.true_or]
  have power {text : Text} (all : IsExponent text) :
      ∀ c ∈ text, (c.isDigit || ['.', 'e', '+', '-'].contains c) = true := by
    cases all with
    | mk isSign size =>
      refine List.forall_mem_cons.2 ⟨rfl, List.forall_mem_cons.2 ⟨?_, digits size⟩⟩
      rcases isSign with rfl | rfl <;> rfl
  cases h with
  | fraction first second =>
    exact List.forall_mem_append.2 ⟨digits first, List.forall_mem_cons.2 ⟨rfl, digits second⟩⟩
  | power first last => exact List.forall_mem_append.2 ⟨digits first, power last⟩
  | both first second last =>
    refine List.forall_mem_append.2 ⟨digits first, List.forall_mem_cons.2 ⟨rfl, ?_⟩⟩
    exact List.forall_mem_append.2 ⟨digits second, power last⟩

theorem FloatText.marked {token : Text} (h : FloatText token) : ∃ c ∈ token, c.isDigit = false := by
  cases h with
  | fraction | both => exact ⟨'.', by simp, rfl⟩
  | power first last =>
    cases last with
    | mk => exact ⟨'e', by simp, rfl⟩

theorem FloatText.last {token : Text} (h : FloatText token) :
    ∃ before c, token = before ++ [c] ∧ c.isDigit = true := by
  have digits {text : Text} (all : IsDigits text) (before : Text) :
      ∃ before' c, before ++ text = before' ++ [c] ∧ c.isDigit = true := by
    refine ⟨before ++ text.dropLast, text.getLast all.nonempty, ?_, all.all _ (List.getLast_mem all.nonempty)⟩
    rw [List.append_assoc, List.dropLast_append_getLast]
  have power {text : Text} (all : IsExponent text) (before : Text) :
      ∃ before' c, before ++ text = before' ++ [c] ∧ c.isDigit = true := by
    cases all with
    | @mk sign _ size all => simpa using digits all (before ++ ['e', sign])
  cases h with
  | @fraction whole part first second => simpa using digits second (whole ++ ['.'])
  | @power whole exponent first last => exact power last whole
  | @both whole part exponent first second last => simpa using power last (whole ++ '.' :: part)

theorem FloatText.second {token : Text} (h : FloatText token) {c : Char} {others : Text}
    (same : token = '0' :: c :: others) : c ∉ ['x', 'X', 'o', 'O', 'b', 'B'] := by
  have char := h.chars c (by simp [same])
  simp only [Bool.or_eq_true] at char
  rcases char with digit | mark
  · exact digit_plain digit _ rfl
  · have mem := List.contains_iff_mem.1 mark
    simp only [List.mem_cons, List.not_mem_nil, or_false] at mem
    rcases mem with rfl | rfl | rfl | rfl <;> decide

theorem numberValue?_float {token : Text} (h : FloatText token) :
    numberValue? token = some (.float (Binary64.ofText false token)) := by
  have lowless : token.filter (· != '_') = token := by
    refine List.filter_eq_self.2 fun c mem => ?_
    have char := h.chars c mem
    refine bne_iff_ne.2 ?_
    rintro rfl
    cases char
  have decimal : numberValue?.decimal token = some (.float (Binary64.ofText false token)) := by
    obtain ⟨c, mem, mark⟩ := h.marked
    obtain ⟨before, last, same, digit⟩ := h.last
    have plain := digit_plain digit ['j', 'J'] rfl
    simp only [List.mem_cons, List.not_mem_nil, or_false, not_or] at plain
    have some : token.getLast? = some last := by rw [same, List.getLast?_concat]
    have other : ¬ token.all Char.isDigit = true := fun all => by
      rw [List.all_eq_true.1 all c mem] at mark
      cases mark
    rw [numberValue?.decimal, if_neg other, some]
    dsimp only
    rw [if_neg (by simp [plain])]
  unfold numberValue?
  rw [lowless]
  dsimp only
  split
  · rename_i c others
    have plain := h.second rfl
    simp only [List.mem_cons, List.not_mem_nil, or_false, not_or] at plain
    rw [if_neg (by simp [plain]), if_neg (by simp [plain]), if_neg (by simp [plain])]
    exact decimal
  · exact decimal

/-- What the token of a number is and what it stands for. -/
structure NumberToken (token : Text) (c : Constant) : Prop where
  first : ∃ c others, token = c :: others ∧ c.isDigit = true
  chars : ∀ c ∈ token, c ∉ ['\n', '\r', '\x00']
  cuts : ∀ brackets rest, Closed rest → Cuts (IsToken .number token) brackets (token ++ rest) brackets rest
  value : numberValue? token = some c

theorem numberToken_decimal {n : Nat} (short : n < Nat.pow 10 Text.longestInteger) :
    NumberToken (Text.decimal n) (.int n) where
  first := (isDigits_decimal n).first
  chars c mem := digit_plain ((isDigits_decimal n).all c mem) _ rfl
  cuts brackets _ closed := cuts_decimal brackets n closed
  value := numberValue?_decimal short

theorem numberToken_float {token : Text} (h : FloatText token) :
    NumberToken token (.float (Binary64.ofText false token)) := by
  have first : ∃ c others, token = c :: others ∧ c.isDigit = true := by
    cases h with
    | fraction first | power first | both first =>
      obtain ⟨c, others, rfl, digit⟩ := first.first
      exact ⟨c, _, rfl, digit⟩
  refine ⟨first, fun c mem control => ?_, fun brackets rest closed => ?_, numberValue?_float h⟩
  · have plain : (['\n', '\r', '\x00'].all fun c => !(c.isDigit || ['.', 'e', '+', '-'].contains c)) = true := rfl
    have other := List.all_eq_true.1 plain c control
    rw [h.chars c mem] at other
    cases other
  · have taken := number_float closed h
    obtain ⟨c, others, rfl, digit⟩ := first
    exact cuts_numberToken brackets digit taken

/-! ## The sign -/

theorem ofRatio_negate (num den : Nat) : Binary64.ofRatio true num den = (Binary64.ofRatio false num den).negate := by
  unfold Binary64.ofRatio
  split
  · rfl
  · dsimp only
    split <;> split <;> rfl

theorem ofText_negate (text : Text) : Binary64.ofText true text = (Binary64.ofText false text).negate := by
  unfold Binary64.ofText Binary64.ofDecimal
  dsimp only
  split
  · rfl
  · split
    · rfl
    · split <;> exact ofRatio_negate _ _

theorem digitsValue_zeros {digits : Text} (zeros : ∀ c ∈ digits, c = '0' ∨ c = '.') :
    Binary64.digitsValue digits = 0 := by
  unfold Binary64.digitsValue
  induction digits with
  | nil => rfl
  | cons c digits ih =>
    rcases zeros c List.mem_cons_self with rfl | rfl <;> exact ih fun d mem => zeros d (List.mem_cons_of_mem _ mem)

theorem ofText_zeros (negative : Bool) {text : Text}
    (zeros : ∀ c ∈ text.takeWhile (fun c => !(c == 'e' || c == 'E')), c = '0' ∨ c = '.') :
    Binary64.ofText negative text = .finite negative 0 Binary64.leastExponent := by
  have value : Binary64.digitsValue
      ((text.takeWhile fun c => !(c == 'e' || c == 'E')).takeWhile (· != '.') ++
        ((text.takeWhile fun c => !(c == 'e' || c == 'E')).dropWhile (· != '.')).drop 1) = 0 := by
    refine digitsValue_zeros (List.forall_mem_append.2 ⟨fun c mem => ?_, fun c mem => ?_⟩)
    · exact zeros c ((List.takeWhile_sublist _).subset mem)
    · exact zeros c ((List.dropWhile_sublist _).subset (List.mem_of_mem_drop mem))
  unfold Binary64.ofText
  dsimp only
  rw [value]
  unfold Binary64.ofDecimal
  dsimp only
  rw [if_pos (by simp)]

theorem ofText_layout_nil (negative : Bool) (point : Int) :
    Binary64.ofText negative (Binary64.layout [] point) = .finite negative 0 Binary64.leastExponent := by
  refine ofText_zeros negative fun c mem => ?_
  unfold Binary64.layout at mem
  dsimp only at mem
  split at mem
  · have mem := (List.takeWhile_sublist _).subset mem
    split at mem <;> simp at mem <;> tauto
  · cases mem

theorem read_signed (negative : Bool) {c : Char} {others : Text}
    (plain : c ∉ ['-', 'n', 'i']) :
    Binary64.read ((if negative then ['-'] else []) ++ c :: others) = Binary64.ofText negative (c :: others) := by
  simp only [List.mem_cons, List.not_mem_nil, or_false, not_or] at plain
  cases negative with
  | false =>
    rw [if_neg (by decide), List.nil_append]
    unfold Binary64.read
    split <;> simp_all
  | true =>
    rw [if_pos rfl, List.cons_append, List.nil_append]
    unfold Binary64.read
    split <;> simp_all

theorem floatText_withoutZeros {negative : Bool} {significand n : Nat} {exponent point : Int} (nonzero : significand ≠ 0)
    (value : Binary64.ofText negative (Binary64.layout (Binary64.withoutZeros (Text.decimal n)) point) =
      .finite negative significand exponent) :
    FloatText (Binary64.layout (Binary64.withoutZeros (Text.decimal n)) point) := by
  refine floatText_layout ⟨fun none => ?_, fun c mem => ?_⟩ _
  · rw [none, ofText_layout_nil] at value
    cases value
    exact nonzero rfl
  · rw [Binary64.withoutZeros, Text.trimEndBy, List.mem_reverse] at mem
    exact (isDigits_decimal _).all c (List.mem_reverse.1 ((List.dropWhile_sublist _).subset mem))

theorem floatText_text {negative : Bool} {significand : Nat} {exponent : Int}
    (reads : Binary64.read (Binary64.finite negative significand exponent).text =
      .finite negative significand exponent) : ∃ token, FloatText token ∧
      (Binary64.finite negative significand exponent).text = (if negative then ['-'] else []) ++ token ∧
      Binary64.ofText negative token = .finite negative significand exponent := by
  obtain ⟨c, others, shape, unsigned, numerals⟩ := Json.text_finite negative significand exponent
  have value : Binary64.ofText negative (c :: others) = .finite negative significand exponent := by
    rw [← reads, shape, read_signed]
    have numeral := numerals c List.mem_cons_self
    have letters : (['n', 'i'].all fun d => !Json.isNumeral d) = true := rfl
    intro mem
    rcases List.mem_cons.1 mem with rfl | mem
    · exact unsigned rfl
    · have other := List.all_eq_true.1 letters c mem
      rw [numeral] at other
      cases other
  refine ⟨c :: others, ?_, shape, value⟩
  have same := List.append_cancel_left (Eq.trans shape.symm (by rw [Binary64.text]))
  rw [same] at value ⊢
  split at value
  · rw [if_pos ‹_›]
    have zero : IsDigits ['0'] := ⟨by simp, by simp⟩
    exact .fraction zero zero
  · rename_i nonzero
    rw [if_neg nonzero]
    exact floatText_withoutZeros nonzero value

end LexGen.Code
