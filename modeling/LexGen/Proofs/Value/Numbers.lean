import LexGen.Proofs.Value.Lookup

/-!
# Values that equal a number

Equality is no equivalence in general, but what equals an integer can be exchanged: `1`, `1.0` and `True` are the
same position of a rule. The items that are dropped when the distinct ones are kept are therefore the same positions,
too.
-/

namespace LexGen

namespace Binary64

theorem ratio_pos (significand : Nat) (exponent : Int) : 0 < (ratio significand exponent).2 := by
  unfold ratio
  split
  · exact Nat.pow_pos (by decide)
  · exact Nat.one_pos

theorem sameInt_unique {x : Binary64} {i j : Int} (first : x.sameInt i = true) (second : x.sameInt j = true) :
    i = j := by
  cases x with
  | finite negative significand exponent =>
    have pos := ratio_pos significand exponent
    simp only [sameInt, fraction?, beq_iff_eq] at first second
    exact Int.eq_of_mul_eq_mul_right (by omega) (first.symm.trans second)
  | infinite | undefined => cases first

theorem sameInt_zero {x : Binary64} (zero : x.isZero = true) : x.sameInt 0 = true := by
  cases x with
  | finite negative significand exponent =>
    have none : significand = 0 := by simpa [isZero] using zero
    have ratio : (ratio significand exponent).1 = 0 := by
      unfold Binary64.ratio
      split <;> simp [none]
    simp only [sameInt, fraction?, ratio, beq_iff_eq]
    split <;> simp
  | infinite | undefined => cases zero

theorem sameInt_of_same {x y : Binary64} {i : Int} (equal : x.same y = true) (counts : y.sameInt i = true) :
    x.sameInt i = true := by
  have cause : (x.isZero = true ∧ y.isZero = true) ∨ x = y := by
    cases x <;> cases y <;> simp_all [same]
  rcases cause with ⟨zero, zero'⟩ | rfl
  · obtain rfl := sameInt_unique counts (sameInt_zero zero')
    exact sameInt_zero zero
  · exact counts

end Binary64

namespace Value

def isNumber : Value → Bool
  | bool _ | int _ | float _ => true
  | _ => false

theorem isNumber_of_same {v w : Value} (equal : same v w = true) (number : v.isNumber = true ∨ w.isNumber = true) :
    v.isNumber = true ∧ w.isNumber = true := by
  have opposed : v.isNumber = w.isNumber := by
    rcases number with number | number
    · cases v with
      | bool | int | float => cases w <;> first | rfl | simp [same, sameNumber?, integer?] at equal
      | _ => cases number
    · cases w with
      | bool | int | float => cases v <;> first | rfl | simp [same, sameNumber?, integer?] at equal
      | _ => cases number
  simpa [opposed] using number

theorem eq_float_or_integer {v : Value} (number : v.isNumber = true) :
    (∃ x, v = float x) ∨ ∃ i, v.integer? = some i := by
  cases v with
  | float x => exact .inl ⟨x, rfl⟩
  | bool | int => exact .inr ⟨_, rfl⟩
  | _ => cases number

theorem same_float {v : Value} {i : Int} (counted : v.integer? = some i) (x : Binary64) :
    same v (float x) = x.sameInt i ∧ same (float x) v = x.sameInt i := by
  cases v with
  | bool | int => simp [same, sameNumber?, counted]
  | _ => cases counted

theorem same_integers {v w : Value} {i j : Int} (first : v.integer? = some i) (second : w.integer? = some j) :
    same v w = (i == j) := by
  cases v with
  | bool | int =>
    cases w with
    | bool | int =>
      obtain rfl := Option.some.inj first
      obtain rfl := Option.some.inj second
      simp [same, sameNumber?, integer?]
    | _ => cases second
  | _ => cases first

theorem same_int_of_same {v w : Value} {i : Int} (equal : same v w = true) (counts : same (int i) w = true) :
    same (int i) v = true := by
  obtain ⟨-, number⟩ := isNumber_of_same counts (.inl rfl)
  obtain ⟨number', -⟩ := isNumber_of_same equal (.inr number)
  rcases eq_float_or_integer number with ⟨y, rfl⟩ | ⟨j, second⟩ <;>
    rcases eq_float_or_integer number' with ⟨x, rfl⟩ | ⟨k, first⟩
  · rw [(same_float rfl y).1] at counts
    have equal : x.same y = true := by simpa [same, sameNumber?] using equal
    rw [(same_float rfl x).1, Binary64.sameInt_of_same equal counts]
  · rw [(same_float rfl y).1] at counts
    rw [(same_float first y).1] at equal
    rw [same_integers rfl first, Binary64.sameInt_unique counts equal, beq_self_eq_true]
  · rw [same_integers rfl second, beq_iff_eq] at counts
    rw [(same_float second x).2] at equal
    rw [(same_float rfl x).1, counts, equal]
  · rw [same_integers rfl second, beq_iff_eq] at counts
    rw [same_integers first second, beq_iff_eq] at equal
    rw [same_integers rfl first, counts, equal, beq_self_eq_true]

theorem mem_distinct_of_mem {items : List Value} {item : Value} (mem : item ∈ items) :
    ∃ kept ∈ distinct items, kept = item ∨ same item kept = true := by
  have among : ∀ rest seen : List Value, (item ∈ rest ∨ ∃ kept ∈ seen, kept = item ∨ same item kept = true) →
      ∃ kept ∈ rest.foldl (fun seen item => if seen.any (same item) then seen else seen ++ [item]) seen,
        kept = item ∨ same item kept = true := by
    intro rest
    induction rest with
    | nil => exact fun seen found => found.resolve_left List.not_mem_nil
    | cons next rest ih =>
      intro seen found
      refine ih _ ?_
      dsimp only
      rcases found with found | ⟨kept, mem, equal⟩
      · rcases List.mem_cons.1 found with rfl | later
        · right
          split
          · rename_i known
            obtain ⟨kept, mem, equal⟩ := List.any_eq_true.1 known
            exact ⟨kept, mem, .inr equal⟩
          · exact ⟨item, List.mem_append_right _ (List.mem_singleton_self item), .inl rfl⟩
        · exact .inl later
      · refine .inr ⟨kept, ?_, equal⟩
        split
        · exact mem
        · exact List.mem_append_left _ mem
  exact among items [] (.inl mem)

end Value

end LexGen
