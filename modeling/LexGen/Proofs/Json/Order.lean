import LexGen.Json.Writer

/-!
# The order of entries

Entries whose keys are distinct texts are put into one order, whatever order they were given in. What stands
under the keys does not matter for that.
-/

namespace LexGen.Json

variable {α β : Type}

/-- Entries whose keys are distinct texts. -/
structure Keyed (entries : List (Value × α)) : Prop where
  named : ∀ entry ∈ entries, ∃ s, entry.1 = .str s
  distinct : (entries.map (·.1)).Nodup

def KeyBefore (first second : Value × α) : Prop := before? first.1 second.1 = some true

/-! ## Keys -/

theorem before?_str (s t : String) : before? (.str s) (.str t) = some (decide (s < t)) := rfl

theorem KeyBefore.of_lt {s t : String} {x y : α} (less : s < t) : KeyBefore (.str s, x) (.str t, y) := by
  rw [KeyBefore, before?_str, decide_eq_true less]

theorem Keyed.of_perm {entries others : List (Value × α)} (keyed : Keyed entries) (same : entries.Perm others) :
    Keyed others where
  named entry mem := keyed.named entry (same.mem_iff.2 mem)
  distinct := (same.map _).nodup_iff.1 keyed.distinct

theorem Keyed.tail {entry : Value × α} {entries : List (Value × α)} (keyed : Keyed (entry :: entries)) :
    Keyed entries where
  named other mem := keyed.named other (List.mem_cons_of_mem _ mem)
  distinct := (List.nodup_cons.1 keyed.distinct).2

theorem Keyed.map (f : α → β) {entries : List (Value × α)} (keyed : Keyed entries) :
    Keyed (entries.map fun entry => (entry.1, f entry.2)) where
  named := by
    intro entry mem
    obtain ⟨source, sourceMem, rfl⟩ := List.mem_map.1 mem
    exact keyed.named source sourceMem
  distinct := by
    rw [List.map_map]
    exact keyed.distinct

/-! ## Putting entries in order -/

theorem insertEntry_keyed {entry : Value × α} {entries : List (Value × α)} (keyed : Keyed (entry :: entries))
    (inOrder : entries.Pairwise KeyBefore) :
    ∃ result, insertEntry entry entries = some result ∧ result.Perm (entry :: entries) ∧
      result.Pairwise KeyBefore := by
  induction entries with
  | nil => exact ⟨[entry], rfl, .rfl, List.pairwise_singleton ..⟩
  | cons other others ih =>
    obtain ⟨key, x⟩ := entry
    obtain ⟨otherKey, y⟩ := other
    obtain ⟨s, rfl⟩ : ∃ s, key = .str s := keyed.named _ List.mem_cons_self
    obtain ⟨t, rfl⟩ : ∃ t, otherKey = .str t := keyed.named _ (List.mem_cons_of_mem _ List.mem_cons_self)
    have different : s ≠ t := by
      rintro rfl
      exact (List.nodup_cons.1 keyed.distinct).1 List.mem_cons_self
    have withoutOther : Keyed ((.str s, x) :: others) := (keyed.of_perm (.swap ..)).tail
    obtain ⟨afterOther, othersInOrder⟩ := List.pairwise_cons.1 inOrder
    rw [insertEntry, before?_str, Option.bind_eq_bind, Option.bind_some]
    by_cases less : s < t
    · refine ⟨(.str s, x) :: (.str t, y) :: others, by simp [less], .rfl, List.pairwise_cons.2 ⟨?_, inOrder⟩⟩
      intro third mem
      rcases List.mem_cons.1 mem with rfl | mem
      · exact .of_lt less
      · obtain ⟨u, named⟩ := withoutOther.named third (List.mem_cons_of_mem _ mem)
        have later := afterOther third mem
        rw [KeyBefore, named, before?_str, Option.some.injEq, decide_eq_true_eq] at later
        rw [KeyBefore, named, before?_str, decide_eq_true (String.lt_trans less later)]
    · obtain ⟨result, inserted, same, resultInOrder⟩ := ih withoutOther othersInOrder
      have greater : t < s := Decidable.byContradiction fun notGreater =>
        different (String.le_antisymm (String.not_lt.1 notGreater) (String.not_lt.1 less))
      refine ⟨(.str t, y) :: result, by simp [less, inserted], (same.cons _).trans (.swap ..),
        List.pairwise_cons.2 ⟨?_, resultInOrder⟩⟩
      intro third mem
      rcases List.mem_cons.1 (same.mem_iff.1 mem) with rfl | mem
      · exact .of_lt greater
      · exact afterOther third mem

theorem ordered_keyed {entries : List (Value × α)} (keyed : Keyed entries) :
    ∃ result, ordered entries = some result ∧ result.Perm entries ∧ result.Pairwise KeyBefore := by
  induction entries with
  | nil => exact ⟨[], rfl, .nil, .nil⟩
  | cons entry entries ih =>
    obtain ⟨rest, sorted, same, inOrder⟩ := ih keyed.tail
    obtain ⟨result, inserted, whole, resultInOrder⟩ :=
      insertEntry_keyed (keyed.of_perm (same.symm.cons entry)) inOrder
    exact ⟨result, by rw [ordered, sorted, Option.bind_eq_bind, Option.bind_some, inserted],
      whole.trans (same.cons entry), resultInOrder⟩

theorem ordered_of_perm {entries others : List (Value × α)} (keyed : Keyed entries) (same : entries.Perm others) :
    ordered entries = ordered others := by
  obtain ⟨first, sorted, firstSame, firstInOrder⟩ := ordered_keyed keyed
  obtain ⟨second, otherSorted, secondSame, secondInOrder⟩ := ordered_keyed (keyed.of_perm same)
  rw [sorted, otherSorted, Option.some.injEq]
  refine List.Perm.eq_of_pairwise ?_ firstInOrder secondInOrder
    (firstSame.trans (same.trans secondSame.symm))
  intro a b memFirst memSecond before after
  obtain ⟨s, aNamed⟩ := keyed.named a (firstSame.mem_iff.1 memFirst)
  obtain ⟨t, bNamed⟩ := (keyed.of_perm same).named b (secondSame.mem_iff.1 memSecond)
  rw [KeyBefore, aNamed, bNamed, before?_str, Option.some.injEq, decide_eq_true_eq] at before
  rw [KeyBefore, aNamed, bNamed, before?_str, Option.some.injEq, decide_eq_true_eq] at after
  exact (String.lt_asymm before after).elim

/-! ## What stands under the keys -/

theorem insertEntry_map (f : α → β) (entry : Value × α) (entries : List (Value × α)) :
    insertEntry (entry.1, f entry.2) (entries.map fun other => (other.1, f other.2)) =
      (insertEntry entry entries).map (·.map fun other => (other.1, f other.2)) := by
  induction entries with
  | nil => rfl
  | cons other others ih =>
    simp only [List.map_cons, insertEntry, ih, Option.bind_eq_bind]
    cases before? entry.1 other.1 with
    | none => rfl
    | some before =>
      cases before
      · cases insertEntry entry others <;> rfl
      · rfl

theorem ordered_map (f : α → β) (entries : List (Value × α)) :
    ordered (entries.map fun entry => (entry.1, f entry.2)) =
      (ordered entries).map (·.map fun entry => (entry.1, f entry.2)) := by
  induction entries with
  | nil => rfl
  | cons entry entries ih =>
    simp only [List.map_cons, ordered, ih, Option.bind_eq_bind]
    cases ordered entries with
    | none => rfl
    | some rest => exact insertEntry_map f entry rest

end LexGen.Json
