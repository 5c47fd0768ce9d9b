import LexGen.Proofs.Json.Canonical
import LexGen.Proofs.Value.Lookup

/-!
# What is read

`isJson_of_read`: whatever text is read, the result is a value of JSON. The induction is on the fuel, for values,
items and entries at once.
-/

namespace LexGen

namespace Value

variable {P Q : Value → Prop} {entries : List (Value × Value)}

theorem forall_insert {key value : Value} (named : P key) (given : Q value)
    (each : ∀ entry ∈ entries, P entry.1 ∧ Q entry.2) : ∀ entry ∈ insert key value entries, P entry.1 ∧ Q entry.2 := by
  induction entries with
  | nil => simp [insert, named, given]
  | cons entry entries ih =>
    obtain ⟨first, others⟩ := List.forall_mem_cons.1 each
    rw [insert]
    split
    · exact List.forall_mem_cons.2 ⟨⟨first.1, given⟩, others⟩
    · exact List.forall_mem_cons.2 ⟨first, ih others⟩

theorem forall_dictOf (each : ∀ entry ∈ entries, P entry.1 ∧ Q entry.2) :
    ∀ entry ∈ dictOf entries, P entry.1 ∧ Q entry.2 := by
  have kept : ∀ table : List (Value × Value), (∀ entry ∈ table, P entry.1 ∧ Q entry.2) →
      ∀ entry ∈ entries.foldl (fun table entry => insert entry.1 entry.2 table) table, P entry.1 ∧ Q entry.2 := by
    induction entries with
    | nil => exact fun table old => old
    | cons entry entries ih =>
      obtain ⟨⟨named, given⟩, others⟩ := List.forall_mem_cons.1 each
      exact fun table old => ih others _ (forall_insert named given old)
  exact kept [] (by simp)

end Value

namespace Json

/-! ## Numbers -/

theorem digitsValue_lt {digits : Text} (all : ∀ c ∈ digits, isDigit c = true) {longest : Nat}
    (short : digits.length ≤ longest) : Binary64.digitsValue digits < Nat.pow 10 longest := by
  have bound : ∀ (digits : Text) (n : Nat), (∀ c ∈ digits, isDigit c = true) →
      digits.foldl (fun n c => n * 10 + (c.toNat - 48)) n < (n + 1) * 10 ^ digits.length := by
    intro digits
    induction digits with
    | nil => simp
    | cons c digits ih =>
      intro n all
      obtain ⟨digit, others⟩ := List.forall_mem_cons.1 all
      have small : c.toNat - 48 ≤ 9 := by
        simp only [isDigit, Bool.and_eq_true, decide_eq_true_eq, Char.le_def, UInt32.le_iff_toNat_le] at digit
        exact Nat.sub_le_of_le_add digit.2
      refine Nat.lt_of_lt_of_le (ih _ others) ?_
      rw [List.length_cons, Nat.pow_succ', ← Nat.mul_assoc]
      refine Nat.mul_le_mul_right _ ?_
      change n * 10 + (c.toNat - 48) + 1 ≤ (n + 1) * 10
      omega
  have bounded := bound digits 0 all
  rw [Nat.zero_add, Nat.one_mul] at bounded
  exact Nat.lt_of_lt_of_le bounded (Nat.pow_le_pow_right (by decide) short)

theorem isDigit_of_integer? {text digits : Text} (h : integer? text = some digits) :
    ∀ c ∈ digits, isDigit c = true := by
  unfold integer? at h
  split at h
  · obtain rfl := Option.some.inj h
    simp [isDigit]
  · rename_i c rest _
    split at h
    · rename_i digit
      obtain rfl := Option.some.inj h
      exact List.forall_mem_cons.2 ⟨digit, List.all_eq_true.1 List.all_takeWhile⟩
    · cases h
  · cases h

theorem isJson_of_number {negative : Bool} {whole text rest : Text} {v : Value}
    (h : number negative whole text = .ok (v, rest)) : IsJson v := by
  unfold number at h
  cases found : integer? text with
  | none =>
    rw [found] at h
    cases h
  | some digits =>
    rw [found] at h
    dsimp only at h
    split at h
    · split at h
      · cases h
      · rename_i short
        simp only [Except.ok.injEq, Prod.mk.injEq] at h
        obtain ⟨rfl, -⟩ := h
        have small := digitsValue_lt (isDigit_of_integer? found) (Nat.not_lt.1 short)
        refine .int ?_
        split
        · rwa [Int.natAbs_neg, Int.natAbs_natCast]
        · rwa [Int.natAbs_natCast]
    · simp only [Except.ok.injEq, Prod.mk.injEq] at h
      exact h.1 ▸ .float _

/-! ## Values -/

theorem isJson_of_word? {text rest : Text} {v : Value} (h : word? text = some (v, rest)) : IsJson v := by
  obtain ⟨⟨name, value⟩, mem, found⟩ := List.exists_of_findSome?_eq_some h
  obtain ⟨_, -, same⟩ := Option.map_eq_some_iff.1 found
  obtain rfl : value = v := congrArg Prod.fst same
  simp only [words, List.mem_cons, List.not_mem_nil, or_false, Prod.mk.injEq] at mem
  rcases mem with ⟨-, rfl⟩ | ⟨-, rfl⟩ | ⟨-, rfl⟩ | ⟨-, rfl⟩ | ⟨-, rfl⟩ | ⟨-, rfl⟩ <;> constructor

theorem isJson_dictOf {pairs : List (Value × Value)}
    (each : ∀ pair ∈ pairs, (∃ s, pair.1 = .str s) ∧ IsJson pair.2) : IsJson (.dict (Value.dictOf pairs)) := by
  have entries := Value.forall_dictOf (P := fun key => ∃ s, key = .str s) each
  refine .dict ⟨fun entry mem => (entries entry mem).1, ?_⟩ fun entry mem => (entries entry mem).2
  refine ((Value.pairwise_dictOf pairs).imp_of_mem fun first _ different same => ?_)
  obtain ⟨entry, mem, rfl⟩ := List.mem_map.1 first
  obtain ⟨s, named⟩ := (entries entry mem).1
  rw [← same, named, (Value.same_str_right _ _).2 rfl] at different
  cases different

theorem isJson_of_readers (fuel : Nat) :
    (∀ text v rest, value fuel text = .ok (v, rest) → IsJson v) ∧
      (∀ text vs rest, items fuel text = .ok (vs, rest) → ∀ v ∈ vs, IsJson v) ∧
      ∀ text pairs rest, entries fuel text = .ok (pairs, rest) →
        ∀ pair ∈ pairs, (∃ s, pair.1 = .str s) ∧ IsJson pair.2 := by
  induction fuel with
  | zero =>
    refine ⟨?_, ?_, ?_⟩
    · intro text v rest h
      cases h
    · intro text vs rest h
      cases h
    · intro text vs rest h
      cases h
  | succ fuel ih =>
    obtain ⟨ofValue, ofItems, ofEntries⟩ := ih
    refine ⟨?_, ?_, ?_⟩
    · intro text v rest h
      cases text with
      | nil => cases h
      | cons c text =>
        unfold value at h
        split at h
        · obtain ⟨⟨s, left⟩, -, h⟩ := ok_of_bind h
          simp only [pure, Except.pure, Except.ok.injEq, Prod.mk.injEq] at h
          exact h.1 ▸ .str _
        · split at h
          · simp only [Except.ok.injEq, Prod.mk.injEq] at h
            exact h.1 ▸ .list (by simp)
          · obtain ⟨⟨values, left⟩, found, h⟩ := ok_of_bind h
            simp only [pure, Except.pure, Except.ok.injEq, Prod.mk.injEq] at h
            exact h.1 ▸ .list (ofItems _ _ _ found)
        · split at h
          · simp only [Except.ok.injEq, Prod.mk.injEq] at h
            exact h.1 ▸ isJson_dictOf (List.forall_mem_nil _)
          · obtain ⟨⟨pairs, left⟩, found, h⟩ := ok_of_bind h
            simp only [pure, Except.pure, Except.ok.injEq, Prod.mk.injEq] at h
            exact h.1 ▸ isJson_dictOf (ofEntries _ _ _ found)
        · split at h
          · rename_i found read
            obtain rfl := Except.ok.inj h
            exact isJson_of_word? read
          · split at h <;> exact isJson_of_number h
    · intro text vs rest h
      unfold items at h
      obtain ⟨⟨item, left⟩, read, h⟩ := ok_of_bind h
      dsimp only at h
      split at h
      · simp only [pure, Except.pure, Except.ok.injEq, Prod.mk.injEq] at h
        exact h.1 ▸ List.forall_mem_singleton.2 (ofValue _ _ _ read)
      · obtain ⟨⟨others, last⟩, found, h⟩ := ok_of_bind h
        simp only [pure, Except.pure, Except.ok.injEq, Prod.mk.injEq] at h
        exact h.1 ▸ List.forall_mem_cons.2 ⟨ofValue _ _ _ read, ofItems _ _ _ found⟩
      · cases h
    · intro text pairs rest h
      unfold entries at h
      split at h
      · rename_i same
        obtain rfl := Nat.succ.inj same
        obtain ⟨⟨key, left⟩, -, h⟩ := ok_of_bind h
        dsimp only at h
        split at h
        · obtain ⟨⟨item, last⟩, read, h⟩ := ok_of_bind h
          have first : (∃ s, Value.str (String.ofList key) = .str s) ∧ IsJson item := ⟨⟨_, rfl⟩, ofValue _ _ _ read⟩
          dsimp only at h
          split at h
          · simp only [pure, Except.pure, Except.ok.injEq, Prod.mk.injEq] at h
            exact h.1 ▸ List.forall_mem_singleton.2 first
          · obtain ⟨⟨others, end'⟩, found, h⟩ := ok_of_bind h
            simp only [pure, Except.pure, Except.ok.injEq, Prod.mk.injEq] at h
            exact h.1 ▸ List.forall_mem_cons.2 ⟨first, ofEntries _ _ _ found⟩
          · cases h
        · cases h
      · cases h

theorem isJson_of_read {text : Text} {v : Value} (h : read text = .ok v) : IsJson v := by
  unfold read at h
  split at h
  · cases h
  · obtain ⟨⟨result, rest⟩, found, h⟩ := ok_of_bind h
    dsimp only at h
    split at h
    · rw [← Except.ok.inj h]
      exact (isJson_of_readers _).1 _ _ _ found
    · cases h

end Json

end LexGen
