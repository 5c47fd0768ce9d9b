import LexGen.Json.Reader
import LexGen.Json.Writer

/-!
# Strings between quotation marks

Every character has an escape of its own, and the reader undoes it, whatever comes next. Characters beyond the
first plane are written as two units, which are joined again.
-/

namespace LexGen.Json

/-! ## Units -/

theorem hexValue?_hexDigit {d : Nat} (digit : d < 16) : hexValue? (Text.hexDigit d) = some d := by
  have all : ∀ d < 16, hexValue? (Text.hexDigit d) = some d := by decide
  exact all d digit

theorem unitEscape_eq (unit : Nat) :
    unitEscape unit = ['\\', 'u', Text.hexDigit (unit / 16 / 16 / 16 % 16), Text.hexDigit (unit / 16 / 16 % 16),
      Text.hexDigit (unit / 16 % 16), Text.hexDigit (unit % 16)] := rfl

theorem hexUnit?_hexDigits {unit : Nat} (inRange : unit < 0x10000) :
    hexUnit? (Text.hexDigit (unit / 16 / 16 / 16 % 16)) (Text.hexDigit (unit / 16 / 16 % 16))
      (Text.hexDigit (unit / 16 % 16)) (Text.hexDigit (unit % 16)) = some unit := by
  have digit : ∀ n, n % 16 < 16 := fun n => Nat.mod_lt n (by decide)
  simp only [hexUnit?, hexValue?_hexDigit (digit _), Option.bind_eq_bind, Option.bind_some, Option.pure_def,
    Option.some.injEq]
  omega

theorem not_surrogate (c : Char) : isHighSurrogate c.toNat = false ∧ isLowSurrogate c.toNat = false := by
  have valid := c.valid
  simp only [UInt32.isValidChar, Nat.isValidChar] at valid
  simp only [isHighSurrogate, isLowSurrogate, Bool.and_eq_false_iff, decide_eq_false_iff_not, Char.toNat]
  omega

theorem unitChar_toNat (c : Char) : unitChar c.toNat = c := by
  rw [unitChar, (not_surrogate c).1, (not_surrogate c).2, Bool.or_false, if_neg Bool.false_ne_true, Char.ofNat_toNat]

theorem joined_halves {c : Char} (beyond : ¬ c.toNat < 0x10000) :
    isHighSurrogate (0xd800 + (c.toNat - 0x10000) / 0x400) = true ∧
      isLowSurrogate (0xdc00 + (c.toNat - 0x10000) % 0x400) = true ∧
      joined (0xd800 + (c.toNat - 0x10000) / 0x400) (0xdc00 + (c.toNat - 0x10000) % 0x400) = c := by
  have valid := c.valid
  simp only [UInt32.isValidChar, Nat.isValidChar] at valid
  have bound : c.toNat < 0x110000 := by
    change c.val.toNat < _
    omega
  refine ⟨?_, ?_, ?_⟩
  · simp only [isHighSurrogate, Bool.and_eq_true, decide_eq_true_eq]
    omega
  · simp only [isLowSurrogate, Bool.and_eq_true, decide_eq_true_eq]
    omega
  · rw [joined, show 0x10000 + (0xd800 + (c.toNat - 0x10000) / 0x400 - 0xd800) * 0x400 +
      (0xdc00 + (c.toNat - 0x10000) % 0x400 - 0xdc00) = c.toNat by omega, Char.ofNat_toNat]

/-! ## Escapes -/

theorem stringBody_unit (opened : Nat) {unit : Nat} (inRange : unit < 0x10000)
    (single : isHighSurrogate unit = false) {tail : Text} (more : tail ≠ []) (read : Text) :
    stringBody opened (unitEscape unit ++ tail) read = stringBody opened tail (unitChar unit :: read) := by
  have value := hexUnit?_hexDigits inRange
  obtain ⟨e, rest, rfl⟩ := List.exists_cons_of_ne_nil more
  rw [unitEscape_eq]
  generalize Text.hexDigit (unit / 16 / 16 / 16 % 16) = a at value ⊢
  generalize Text.hexDigit (unit / 16 / 16 % 16) = b at value ⊢
  generalize Text.hexDigit (unit / 16 % 16) = c at value ⊢
  generalize Text.hexDigit (unit % 16) = d at value ⊢
  change stringBody opened ('\\' :: 'u' :: a :: b :: c :: d :: e :: rest) read = _
  -- Whether another escape follows or not, the unit is read alone.
  rw [stringBody.eq_def]
  split
  case h_4 => simp_all
  case h_5 => simp_all
  case h_6 fresh same =>
    simp only [List.cons.injEq, true_and] at same
    exact (fresh a b c d e rest same.symm).elim
  case h_7 other same =>
    simp only [List.cons.injEq, true_and] at same
    exact (other same.1.symm).elim
  case h_8 other same =>
    simp only [List.cons.injEq] at same
    exact (other 'u' _ same.1.symm same.2.symm).elim
  all_goals simp_all

theorem stringBody_pair (opened : Nat) {high low : Nat} (isHigh : isHighSurrogate high = true)
    (isLow : isLowSurrogate low = true) {tail : Text} (more : tail ≠ []) (read : Text) :
    stringBody opened (unitEscape high ++ unitEscape low ++ tail) read =
      stringBody opened tail (joined high low :: read) := by
  have inRange : high < 0x10000 ∧ low < 0x10000 := by
    simp only [isHighSurrogate, isLowSurrogate, Bool.and_eq_true, decide_eq_true_eq] at isHigh isLow
    omega
  have highValue := hexUnit?_hexDigits inRange.1
  have lowValue := hexUnit?_hexDigits inRange.2
  obtain ⟨e, rest, rfl⟩ := List.exists_cons_of_ne_nil more
  simp only [unitEscape_eq, List.cons_append, List.nil_append]
  rw [stringBody.eq_def]
  simp only [highValue, lowValue, isHigh, isLow, if_true]

theorem stringBody_plain (opened : Nat) {c : Char} (quote : c ≠ '"') (backslash : c ≠ '\\')
    (printable : 0x20 ≤ c.toNat) (tail read : Text) :
    stringBody opened (c :: tail) read = stringBody opened tail (c :: read) := by
  rw [stringBody.eq_def]
  split
  case h_8 same =>
    simp only [List.cons.injEq] at same
    obtain ⟨rfl, rfl⟩ := same
    rw [if_neg (by omega)]
  all_goals simp_all

theorem stringBody_escapedChar (opened : Nat) (c : Char) {tail : Text} (more : tail ≠ []) (read : Text) :
    stringBody opened (escapedChar c ++ tail) read = stringBody opened tail (c :: read) := by
  obtain ⟨notHigh, notLow⟩ := not_surrogate c
  unfold escapedChar
  split
  case h_8 quote backslash _ _ _ _ _ =>
    dsimp only
    split
    · rename_i plain
      simp only [Bool.and_eq_true, decide_eq_true_eq] at plain
      exact stringBody_plain opened quote backslash plain.1 tail read
    · split
      · rename_i inRange
        rw [stringBody_unit opened inRange notHigh more, unitChar_toNat]
      · rename_i beyond
        obtain ⟨isHigh, isLow, pair⟩ := joined_halves beyond
        rw [stringBody_pair opened isHigh isLow more, pair]
  all_goals simp [stringBody, escaped?]

theorem stringBody_string (opened : Nat) (s rest read : Text) :
    stringBody opened (s.flatMap escapedChar ++ '"' :: rest) read = .ok (read.reverse ++ s, rest) := by
  induction s generalizing read with
  | nil => simp [stringBody]
  | cons c s ih =>
    rw [List.flatMap_cons, List.append_assoc, stringBody_escapedChar opened c (by simp), ih]
    simp

end LexGen.Json
