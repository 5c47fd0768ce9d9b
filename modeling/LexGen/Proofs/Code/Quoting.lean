import Mathlib.Data.List.TakeWhile
import LexGen.Code.Literal
import LexGen.Proofs.Code.PutTexts

/-!
# Quoted texts as literals

A quoted text is one token, whatever its characters are, and the token stands for the text. The same holds of byte
strings.

* `literalToken_quoted`, `literalToken_quotedBytes`: where the token ends, and what it stands for.
-/

namespace LexGen.Code

/-! ## Escapes -/

/-- The ways to write a character between quotation marks. `wide` tells whether the literal is a text rather than a
byte string. -/
inductive Escaped (wide : Bool) (mark : Char) : Char → Text → Prop
  | plain {c : Char} (visible : c ∉ [mark, '\\', '\n', '\r', '\x00']) (narrow : wide = true ∨ c.toNat < 128) :
    Escaped wide mark c [c]
  | letter {c letter : Char} (stands : letterEscape? letter = some c) : Escaped wide mark c ['\\', letter]
  | code {c letter : Char} {width : Nat} (known : hexWidth? wide letter = some width) (fits : c.toNat < Nat.pow 16 width) :
    Escaped wide mark c ('\\' :: letter :: Text.hexDigits width c.toNat)

theorem letterEscape?_shortEscape? {c letter : Char} (short : Text.shortEscape? c = some letter) :
    letterEscape? letter = some c := by
  unfold Text.shortEscape? at short
  split at short
  case h_5 => cases short
  all_goals
    obtain rfl := Option.some.inj short
    rfl

theorem letterEscape?_mark {mark : Char} (quotes : mark = '\'' ∨ mark = '"') : letterEscape? mark = some mark := by
  rcases quotes with rfl | rfl <;> rfl

theorem toNat_lt (c : Char) : c.toNat < 0x110000 := by
  have valid := c.valid
  simp only [UInt32.isValidChar, Nat.isValidChar] at valid
  change c.val.toNat < _
  omega

theorem escaped_quotedChar {mark : Char} (quotes : mark = '\'' ∨ mark = '"') (c : Char) :
    Escaped true mark c (Text.quotedChar mark c) := by
  unfold Text.quotedChar
  split
  · rename_i same
    exact .letter (same ▸ letterEscape?_mark quotes)
  · rename_i inner
    rcases shortEscape?_cases c with ⟨letter, short, -⟩ | ⟨short, slash, feed, back⟩
    · rw [short]
      exact .letter (letterEscape?_shortEscape? short)
    · rw [short]
      dsimp only
      split
      · rename_i printable
        have null : c ≠ '\x00' := by
          rintro rfl
          exact absurd printable (by decide)
        exact .plain (by simp [inner, slash, feed, back, null]) (.inl rfl)
      · unfold Text.hexEscape
        split
        · exact .code rfl (by omega)
        · split
          · exact .code rfl (by omega)
          · exact .code rfl (Nat.lt_of_lt_of_le (toNat_lt c) (by decide))

theorem escaped_quotedByte {mark : Char} (quotes : mark = '\'' ∨ mark = '"') {c : Char} (byte : c.toNat < 256) :
    Escaped false mark c (Text.quotedByte mark c) := by
  unfold Text.quotedByte
  split
  · rename_i same
    exact .letter (same ▸ letterEscape?_mark quotes)
  · rename_i inner
    rcases shortEscape?_cases c with ⟨letter, short, -⟩ | ⟨short, slash, feed, back⟩
    · rw [short]
      exact .letter (letterEscape?_shortEscape? short)
    · rw [short]
      dsimp only
      split
      · rename_i printable
        simp only [Bool.and_eq_true, decide_eq_true_eq] at printable
        have null : c ≠ '\x00' := by
          rintro rfl
          exact absurd printable.1 (by decide)
        exact .plain (by simp [inner, slash, feed, back, null]) (.inr (by omega))
      · exact .code rfl byte

/-! ## The end of a literal -/

section

variable {wide : Bool} {mark c : Char} {part rest : Text}

theorem shortBody_plain (visible : c ∉ [mark, '\\', '\n']) :
    shortBody mark (c :: rest) = (shortBody mark rest).map fun (taken, rest) => (c :: taken, rest) := by
  simp only [List.mem_cons, List.not_mem_nil, or_false, not_or] at visible
  rw [shortBody]
  · exact if_neg visible.1
  · exact visible.2.2
  · exact fun _ _ same => absurd same visible.2.1

theorem hexDigit_visible (quotes : mark = '\'' ∨ mark = '"') {d : Nat} (digit : d < 16) :
    Text.hexDigit d ∉ [mark, '\\', '\n', '\r', '\x00'] := by
  have all : ∀ d < 16, Text.hexDigit d ∉ ['\'', '\\', '\n', '\r', '\x00'] ∧
      Text.hexDigit d ∉ ['"', '\\', '\n', '\r', '\x00'] := by decide
  rcases quotes with rfl | rfl
  · exact (all d digit).1
  · exact (all d digit).2

theorem hexDigits_visible (quotes : mark = '\'' ∨ mark = '"') (width n : Nat) :
    ∀ c ∈ Text.hexDigits width n, c ∉ [mark, '\\', '\n', '\r', '\x00'] := by
  induction width generalizing n with
  | zero => exact fun _ mem => nomatch mem
  | succ width ih =>
    exact List.forall_mem_append.2
      ⟨ih _, List.forall_mem_singleton.2 (hexDigit_visible quotes (Nat.mod_lt n (by decide)))⟩

def GoesOn (mark : Char) (part : Text) : Prop := ∀ rest,
  shortBody mark (part ++ rest) = (shortBody mark rest).map fun (taken, rest) => (part ++ taken, rest)

theorem goesOn_nil (mark : Char) : GoesOn mark [] := by
  intro rest
  rw [List.nil_append]
  cases shortBody mark rest <;> rfl

theorem GoesOn.append {other : Text} (first : GoesOn mark part) (second : GoesOn mark other) :
    GoesOn mark (part ++ other) := by
  intro rest
  rw [List.append_assoc, first, second, Option.map_map]
  congr 1
  funext found
  simp

theorem goesOn_plain (visible : c ∉ [mark, '\\', '\n']) : GoesOn mark [c] := fun _ => shortBody_plain visible

theorem goesOn_slash (mark letter : Char) : GoesOn mark ['\\', letter] := fun _ => rfl

theorem goesOn_all (visible : ∀ c ∈ part, c ∉ [mark, '\\', '\n']) : GoesOn mark part := by
  induction part with
  | nil => exact goesOn_nil mark
  | cons c part ih =>
    exact (goesOn_plain (visible c List.mem_cons_self)).append fun rest =>
      ih (fun d mem => visible d (List.mem_cons_of_mem c mem)) rest

theorem visible_mono (h : c ∉ [mark, '\\', '\n', '\r', '\x00']) : c ∉ [mark, '\\', '\n'] :=
  fun mem => h (List.mem_of_mem_take (i := 3) mem)

theorem Escaped.goesOn (quotes : mark = '\'' ∨ mark = '"') (h : Escaped wide mark c part) : GoesOn mark part := by
  cases h with
  | plain visible => exact goesOn_plain (visible_mono visible)
  | letter => exact goesOn_slash mark _
  | code =>
    exact GoesOn.append (goesOn_slash mark _) (goesOn_all fun d mem => visible_mono (hexDigits_visible quotes _ _ d mem))

/-! ## Escapes are undone -/

theorem length_hexDigits (width n : Nat) : (Text.hexDigits width n).length = width := by
  induction width generalizing n with
  | zero => rfl
  | succ width ih => rw [Text.hexDigits, List.length_append, ih, List.length_singleton]

theorem digitsIn_append (base : Nat) (digits : Text) (c : Char) :
    digitsIn base (digits ++ [c]) = digitsIn base digits * base + digitValue c := by
  rw [digitsIn, List.foldl_append]
  rfl

theorem digitsIn_hexDigits {width n : Nat} (fits : n < Nat.pow 16 width) : digitsIn 16 (Text.hexDigits width n) = n := by
  have value : ∀ d < 16, digitValue (Text.hexDigit d) = d := by decide
  induction width generalizing n with
  | zero => exact (Nat.lt_one_iff.1 fits).symm
  | succ width ih =>
    have fits : n < Nat.pow 16 width * 16 := fits
    rw [Text.hexDigits, digitsIn_append, ih (by omega), value _ (Nat.mod_lt n (by decide))]
    omega

theorem isHexDigit_hexDigits (width n : Nat) : ∀ c ∈ Text.hexDigits width n, isHexDigit c = true := by
  have all : ∀ d < 16, isHexDigit (Text.hexDigit d) = true := by decide
  induction width generalizing n with
  | zero => exact fun _ mem => nomatch mem
  | succ width ih =>
    exact List.forall_mem_append.2 ⟨ih _, List.forall_mem_singleton.2 (all _ (Nat.mod_lt n (by decide)))⟩

theorem replaced_toNat (c : Char) : unescape.replaced c.toNat = c := by
  have valid := c.valid
  simp only [UInt32.isValidChar, Nat.isValidChar] at valid
  have single : ¬ (decide (0xd800 ≤ c.toNat) && decide (c.toNat < 0xe000)) = true := by
    simp only [Bool.and_eq_true, decide_eq_true_eq, Char.toNat]
    omega
  rw [unescape.replaced, if_neg single, Char.ofNat_toNat]

theorem hexWidth?_cases {letter : Char} {width : Nat} (known : hexWidth? wide letter = some width) :
    letter ≠ '\n' ∧ letterEscape? letter = none := by
  unfold hexWidth? at known
  split at known
  case h_4 => cases known
  all_goals exact ⟨by decide, rfl⟩

theorem unescape_code {letter : Char} {width : Nat} (known : hexWidth? wide letter = some width)
    (fits : c.toNat < Nat.pow 16 width) (fuel : Nat) (rest : Text) :
    unescape wide (fuel + 1) ('\\' :: letter :: Text.hexDigits width c.toNat ++ rest) =
      (unescape wide fuel rest).map (c :: ·) := by
  obtain ⟨feed, none⟩ := hexWidth?_cases known
  have digits : ((Text.hexDigits width c.toNat ++ rest).take width).takeWhile isHexDigit =
      Text.hexDigits width c.toNat := by
    rw [List.take_left' (length_hexDigits ..)]
    exact List.takeWhile_eq_self_iff.2 (isHexDigit_hexDigits width c.toNat)
  have small : ¬ 0x10ffff < c.toNat := by
    have := toNat_lt c
    omega
  rw [List.cons_append, List.cons_append, unescape, if_neg feed, none, known]
  simp only [digits, digitsIn_hexDigits fits, length_hexDigits, List.drop_left' (length_hexDigits ..), replaced_toNat]
  rw [if_neg (by simp [small])]

theorem Escaped.unescape (h : Escaped wide mark c part) (fuel : Nat) (rest : Text) :
    Code.unescape wide (fuel + 1) (part ++ rest) = (Code.unescape wide fuel rest).map (c :: ·) := by
  cases h with
  | plain visible =>
    simp only [List.mem_cons, List.not_mem_nil, or_false, not_or] at visible
    rw [List.singleton_append, Code.unescape]
    · exact fun same => absurd same visible.2.1
    · exact fun _ _ same => absurd same visible.2.1
  | @letter letter stands =>
    have feed : letter ≠ '\n' := by
      rintro rfl
      cases stands
    rw [List.cons_append, List.cons_append, List.nil_append, Code.unescape, if_neg feed, stands]
  | code known fits => exact unescape_code known fits fuel rest

theorem Escaped.chars (quotes : mark = '\'' ∨ mark = '"') (h : Escaped wide mark c part) :
    ∀ d ∈ part, d ∉ ['\n', '\r', '\x00'] ∧ (wide = true ∨ d.toNat < 128) := by
  have digits (width n : Nat) : ∀ d ∈ Text.hexDigits width n, d ∉ ['\n', '\r', '\x00'] ∧ d.toNat < 128 := by
    have all : ∀ d < 16, (Text.hexDigit d).toNat < 128 := by decide
    intro d mem
    refine ⟨fun other => hexDigits_visible quotes width n d mem (by simp_all), ?_⟩
    induction width generalizing n with
    | zero => cases mem
    | succ width ih =>
      rcases List.mem_append.1 mem with mem | mem
      · exact ih _ mem
      · rw [List.mem_singleton.1 mem]
        exact all _ (Nat.mod_lt n (by decide))
  have slash : '\\' ∉ ['\n', '\r', '\x00'] ∧ (wide = true ∨ '\\'.toNat < 128) := ⟨by decide, .inr (by decide)⟩
  cases h with
  | plain visible narrow =>
    exact List.forall_mem_singleton.2 ⟨fun other => visible (by simp_all), narrow⟩
  | letter stands =>
    refine List.forall_mem_cons.2 ⟨slash, List.forall_mem_singleton.2 ?_⟩
    unfold letterEscape? at stands
    split at stands
    case h_11 => cases stands
    all_goals exact ⟨by decide, .inr (by decide)⟩
  | code known =>
    refine List.forall_mem_cons.2 ⟨slash, List.forall_mem_cons.2 ⟨?_, fun d mem => (digits _ _ d mem).imp_right .inr⟩⟩
    unfold hexWidth? at known
    split at known
    case h_4 => cases known
    all_goals exact ⟨by decide, .inr (by decide)⟩

theorem Escaped.head (quotes : mark = '\'' ∨ mark = '"') (h : Escaped wide mark c part) :
    ∃ d others, part = d :: others ∧ d ≠ mark := by
  have slash : '\\' ≠ mark := by rcases quotes with rfl | rfl <;> decide
  cases h with
  | plain visible => exact ⟨_, _, rfl, fun same => visible (same ▸ List.mem_cons_self)⟩
  | letter | code => exact ⟨_, _, rfl, slash⟩

end

/-! ## Literals -/

/-- What the token of a literal is and what it stands for. -/
structure LiteralToken (isBytes : Bool) (text token : Text) : Prop where
  opens : ∃ c others, token = c :: others ∧ c ∈ ['\'', '"', 'b']
  chars : ∀ c ∈ token, c ∉ ['\n', '\r', '\x00']
  ends : ∃ length, ∀ rest : Text, rest.head? ≠ some '\'' → rest.head? ≠ some '"' →
    literalMark? (token ++ rest) = some length ∧ literal length (token ++ rest) = some (token, rest)
  part : (StringToken.ofText token).isFormatted = false ∧ (StringToken.ofText token).isMarked = false ∧
    (StringToken.ofText token).isBytes = isBytes
  value : (StringToken.ofText token).value? = some text

section

variable {wide : Bool} {mark : Char} {text : Text} {f : Char → Text} (quotes : mark = '\'' ∨ mark = '"')
  (each : ∀ c ∈ text, Escaped wide mark c (f c))

include quotes each in
theorem goesOn_flatMap : GoesOn mark (text.flatMap f) := by
  induction text with
  | nil => exact goesOn_nil mark
  | cons c text ih =>
    rw [List.flatMap_cons]
    exact ((each c List.mem_cons_self).goesOn quotes).append (ih fun d mem => each d (List.mem_cons_of_mem c mem))

include quotes each in
theorem unescape_flatMap {fuel : Nat} (enough : (text.flatMap f).length < fuel) :
    unescape wide fuel (text.flatMap f) = some text := by
  induction text generalizing fuel with
  | nil => cases fuel <;> rfl
  | cons c text ih =>
    have here := each c List.mem_cons_self
    obtain ⟨d, others, written, -⟩ := here.head quotes
    obtain ⟨fuel, rfl⟩ : ∃ fuel', fuel = fuel' + 1 := ⟨fuel - 1, by omega⟩
    rw [List.flatMap_cons] at enough ⊢
    rw [here.unescape, ih fun d mem => each d (List.mem_cons_of_mem c mem)]
    · rfl
    · rw [List.length_append, written, List.length_cons] at enough
      omega

include quotes in
theorem ofText_marked {letters : Text} (known : letters = [] ∨ letters = ['b']) {body : Text}
    (single : (body ++ [mark]).take 2 ≠ [mark, mark]) :
    StringToken.ofText (letters ++ mark :: (body ++ [mark])) =
      ⟨letters.contains 'b', false, false, false, letters ++ [mark], body⟩ := by
  have before : (letters ++ mark :: (body ++ [mark])).takeWhile (fun c => c != '\'' && c != '"') = letters := by
    rcases known with rfl | rfl <;> rcases quotes with rfl | rfl <;> rfl
  have long : (mark :: (body ++ [mark])).length - 2 * 1 = body.length := by simp
  simp only [StringToken.ofText, before, List.drop_left]
  rw [if_neg (by simp [List.replicate, single]), long, List.drop_one, List.tail_cons, List.take_left]
  rcases known with rfl | rfl <;> rfl

theorem literalMark?_marked {letters : Text} (known : letters = [] ∨ letters = ['b'])
    (quotes : mark = '\'' ∨ mark = '"') (rest : Text) :
    literalMark? (letters ++ mark :: rest) = some letters.length := by
  rcases known with rfl | rfl <;> rcases quotes with rfl | rfl <;> rfl

theorem literal_marked (letters : Text) {body rest : Text} (goesOn : GoesOn mark body)
    (closes : shortBody mark (mark :: rest) = some ([mark], rest))
    (single : (body ++ mark :: rest).take 2 ≠ [mark, mark]) :
    literal letters.length (letters ++ mark :: (body ++ mark :: rest)) =
      some (letters ++ mark :: (body ++ [mark]), rest) := by
  rw [literal, List.drop_left, List.take_left]
  dsimp only
  rw [if_neg single, goesOn, closes]
  rfl

include quotes each in
/-- A literal of a text, or of a byte string, is one token that stands for it. -/
theorem literalToken_marked {letters : Text} (known : letters = if wide then [] else ['b']) :
    LiteralToken (!wide) text (letters ++ mark :: (text.flatMap f ++ [mark])) := by
  have letters? : letters = [] ∨ letters = ['b'] := by cases wide <;> simp [known]
  have single (rest : Text) (other : rest.head? ≠ some mark) :
      (text.flatMap f ++ mark :: rest).take 2 ≠ [mark, mark] := by
    cases text with
    | nil => cases rest <;> simp_all
    | cons c text =>
      obtain ⟨d, others, written, other⟩ := (each c List.mem_cons_self).head quotes
      simp [written, other]
  have token := ofText_marked quotes letters? (single [] (by simp))
  have inside : ∀ d ∈ text.flatMap f, d ∉ ['\n', '\r', '\x00'] ∧ (wide = true ∨ d.toNat < 128) := by
    intro d mem
    obtain ⟨c, cMem, mem⟩ := List.mem_flatMap.1 mem
    exact (each c cMem).chars quotes d mem
  have marks : mark ∉ ['\n', '\r', '\x00'] := by rcases quotes with rfl | rfl <;> decide
  have ends (rest : Text) : shortBody mark (mark :: rest) = some ([mark], rest) := by
    rcases quotes with rfl | rfl <;> rfl
  refine ⟨?opens, ?chars, ⟨letters.length, fun rest single? double? => ?ends⟩, ?part, ?value⟩
  case opens => rcases letters? with rfl | rfl <;> rcases quotes with rfl | rfl <;> exact ⟨_, _, rfl, by decide⟩
  case chars =>
    refine List.forall_mem_append.2 ⟨?_, List.forall_mem_cons.2 ⟨marks, List.forall_mem_append.2
      ⟨fun d mem => (inside d mem).1, List.forall_mem_singleton.2 marks⟩⟩⟩
    rcases letters? with rfl | rfl <;> simp
  case ends =>
    have other : rest.head? ≠ some mark := by rcases quotes with rfl | rfl <;> assumption
    simp only [List.append_assoc, List.cons_append, List.nil_append]
    exact ⟨literalMark?_marked letters? quotes _,
      literal_marked letters (goesOn_flatMap quotes each) (ends rest) (single rest other)⟩
  case part =>
    rw [token]
    refine ⟨rfl, rfl, ?_⟩
    cases wide <;> simp [known]
  case value =>
    rw [token, StringToken.value?]
    dsimp only
    cases wide with
    | true =>
      have text? : letters.contains 'b' = false := by simp [known]
      simp only [text?, Bool.false_and, Bool.false_eq_true, if_false, Bool.not_false]
      exact unescape_flatMap quotes each (Nat.lt_succ_self _)
    | false =>
      have bytes? : letters.contains 'b' = true := by simp [known]
      have narrow : (text.flatMap f).any (fun c => 128 ≤ c.toNat) = false := by
        refine List.any_eq_false.2 fun d mem => ?_
        have := (inside d mem).2
        simpa using this
      simp only [bytes?, narrow, Bool.and_false, Bool.false_eq_true, if_false, Bool.not_true]
      exact unescape_flatMap quotes each (Nat.lt_succ_self _)

end

theorem literalToken_quoted (text : Text) : LiteralToken false text (Text.quoted text) := by
  have quotes := quoteMark_cases text
  exact literalToken_marked quotes (fun c _ => escaped_quotedChar quotes c)
    (show ([] : Text) = if true then [] else ['b'] from rfl)

theorem literalToken_quotedBytes {text : Text} (bytes : ∀ c ∈ text, c.toNat < 256) :
    LiteralToken true text (Text.quotedBytes text) := by
  have quotes := quoteMark_cases text
  exact literalToken_marked quotes (fun c mem => escaped_quotedByte quotes (bytes c mem))
    (show ['b'] = if false then [] else ['b'] from rfl)

end LexGen.Code
