import LexGen.Text.Basic
import Mathlib.Data.List.Infix

/-!
# Replacing in texts

The text after a replacement, read from the front: an occurrence gives way to the new text, and any other
character stays. What begins at a character that stays has begun there before.
-/

namespace LexGen.Text

theorem startsWith_iff {start text : Text} : startsWith start text = true ↔ start <+: text := by
  rw [startsWith, Option.isSome_iff_exists]
  simp only [after?_eq_some, List.prefix_iff_eq_append]
  constructor
  · rintro ⟨rest, rfl⟩
    simp
  · intro whole
    exact ⟨_, whole.symm⟩

theorem occursIn_iff {part text : Text} : occursIn part text = true ↔ part <:+: text := by
  induction text with
  | nil => simp [occursIn, List.isEmpty_iff]
  | cons c text ih => rw [occursIn, Bool.or_eq_true, startsWith_iff, ih, List.infix_cons_iff]

/-! ## Parts of texts -/

theorem prefix_of_prefix_append_cons {part left right : Text} {c : Char} (avoids : c ∉ part)
    (h : part <+: left ++ c :: right) : part <+: left := by
  induction left generalizing part with
  | nil =>
    cases part with
    | nil => exact List.prefix_rfl
    | cons d part =>
      obtain ⟨rfl, -⟩ := List.cons_prefix_cons.1 h
      exact absurd List.mem_cons_self avoids
  | cons d left ih =>
    cases part with
    | nil => exact List.nil_prefix
    | cons e part =>
      obtain ⟨rfl, rest⟩ := List.cons_prefix_cons.1 h
      exact List.cons_prefix_cons.2 ⟨rfl, ih (fun mem => avoids (List.mem_cons_of_mem e mem)) rest⟩

theorem infix_of_infix_append_cons {part left right : Text} {c : Char} (avoids : c ∉ part)
    (nonempty : part ≠ []) (h : part <:+: left ++ c :: right) : part <:+: left ∨ part <:+: right := by
  induction left with
  | nil =>
    rcases List.infix_cons_iff.1 h with start | rest
    · have empty : part <+: [] := prefix_of_prefix_append_cons avoids start
      exact absurd (List.prefix_nil.1 empty) nonempty
    · exact Or.inr rest
  | cons d left ih =>
    rcases List.infix_cons_iff.1 h with start | rest
    · have before : part <+: d :: left := prefix_of_prefix_append_cons avoids start
      exact Or.inl before.isInfix
    · exact (ih rest).imp_left (·.trans (List.suffix_cons d left).isInfix)

/-! ## Replacement from the front -/

theorem replaceFrom_eq_drop (old new : Text) (skip : Nat) (text : Text) :
    replaceFrom old new skip text = replace old new (text.drop skip) := by
  induction skip generalizing text with
  | zero => rfl
  | succ skip ih =>
    cases text with
    | nil => rfl
    | cons c text => exact ih text

@[simp] theorem replace_nil (old new : Text) : replace old new [] = [] := rfl

theorem replace_append {old : Text} (nonempty : old ≠ []) (new rest : Text) :
    replace old new (old ++ rest) = new ++ replace old new rest := by
  obtain ⟨c, old, rfl⟩ := List.exists_cons_of_ne_nil nonempty
  have found : startsWith (c :: old) (c :: (old ++ rest)) = true :=
    startsWith_iff.2 (List.prefix_append (c :: old) rest)
  rw [replace, List.cons_append, replaceFrom, if_pos found, replaceFrom_eq_drop]
  simp

theorem replace_cons {old : Text} {c : Char} {text : Text} (other : ¬ old <+: c :: text) (new : Text) :
    replace old new (c :: text) = c :: replace old new text := by
  rw [replace, replaceFrom, if_neg (mt startsWith_iff.1 other)]
  rfl

@[elab_as_elim]
theorem replace_induction {old : Text} (nonempty : old ≠ []) {motive : Text → Prop} (nil : motive [])
    (found : ∀ rest, motive rest → motive (old ++ rest))
    (other : ∀ c text, ¬ old <+: c :: text → motive text → motive (c :: text)) (text : Text) :
    motive text := by
  induction length : text.length using Nat.strong_induction_on generalizing text with
  | _ length' ih =>
    subst length
    by_cases start : old <+: text
    · obtain ⟨rest, rfl⟩ := start
      have shorter : rest.length < (old ++ rest).length := by
        rw [List.length_append]
        have := List.length_pos_of_ne_nil nonempty
        omega
      exact found rest (ih _ shorter rest rfl)
    · cases text with
      | nil => exact nil
      | cons c text => exact other c text start (ih _ (Nat.lt_succ_self _) text rfl)

theorem replace_of_not_infix {old text : Text} (absent : ¬ old <:+: text) (new : Text) :
    replace old new text = text := by
  induction text with
  | nil => rfl
  | cons c text ih =>
    rw [List.infix_cons_iff, not_or] at absent
    rw [replace_cons absent.1, ih absent.2]

theorem replace_append_of_not_mem {c : Char} {old start : Text} (avoids : c ∉ start) (new rest : Text) :
    replace (c :: old) new (start ++ rest) = start ++ replace (c :: old) new rest := by
  induction start with
  | nil => rfl
  | cons d start ih =>
    rw [List.mem_cons, not_or] at avoids
    have other : ¬ (c :: old) <+: d :: (start ++ rest) := fun begins =>
      avoids.1 (List.cons_prefix_cons.1 begins).1
    rw [List.cons_append, replace_cons other, ih avoids.2, List.cons_append]

/-- What stands at the beginning after a replacement, and holds nothing of the new text, has stood there
before. -/
theorem prefix_of_prefix_replace {old new part text : Text} {c : Char} (nonempty : old ≠ []) (avoids : c ∉ part)
    (h : part <+: replace old (c :: new) text) : part <+: text := by
  induction text using replace_induction nonempty generalizing part with
  | nil => simpa using h
  | found rest _ =>
    rw [replace_append nonempty] at h
    have empty : part <+: [] := prefix_of_prefix_append_cons avoids h
    exact empty.trans List.nil_prefix
  | other d text other ih =>
    rw [replace_cons other] at h
    cases part with
    | nil => exact List.nil_prefix
    | cons e part =>
      obtain ⟨rfl, rest⟩ := List.cons_prefix_cons.1 h
      exact List.cons_prefix_cons.2 ⟨rfl, ih (fun mem => avoids (List.mem_cons_of_mem e mem)) rest⟩

end LexGen.Text
