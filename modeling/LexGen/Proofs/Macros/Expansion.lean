import LexGen.Proofs.Macros.References

/-!
# Expansion of texts

The expansion of a text has every placeholder of a macro replaced by the expansion of the fragment, in
parentheses. It is given here by rules, without an order of replacements.

* `Expands.functional`, `exists_expands`: with an acyclic table every text has exactly one expansion.
* `Expands.replace`: replacing the placeholders of one macro, by any fragment with the same expansion, leaves
  the expansion of a text as it is.
* `Expands.unreferring`: no placeholder of a macro is left in an expansion.
-/

namespace LexGen.Macros

def Occurs (name text : Text) : Prop := placeholder name <:+: text

/-- The expansion of a text, from its front: a placeholder gives way to an expanded fragment in parentheses; a
character at which no placeholder of a macro begins stays. -/
inductive Expands (macros : Macros) : Text → Text → Prop where
  | nil : Expands macros [] []
  | char {c : Char} {text expansion : Text} :
      (∀ name ∈ macros.names, ¬ placeholder name <+: c :: text) →
      Expands macros text expansion →
      Expands macros (c :: text) (c :: expansion)
  | reference {name fragment inner text expansion : Text} :
      (name, fragment) ∈ macros →
      Expands macros fragment inner →
      Expands macros text expansion →
      Expands macros (placeholder name ++ text) (group inner ++ expansion)

/-- A table whose entries have different names, and names that can stand in placeholders. -/
structure WellNamed (macros : Macros) : Prop where
  nodup : macros.names.Nodup
  named : ∀ name ∈ macros.names, isName name = true

variable {macros : Macros}

theorem fragment_unique (unique : macros.names.Nodup) {name fragment fragment' : Text}
    (mem : (name, fragment) ∈ macros) (mem' : (name, fragment') ∈ macros) : fragment = fragment' := by
  have same := List.inj_on_of_nodup_map unique mem mem' rfl
  exact congrArg Prod.snd same

theorem WellNamed.avoids (well : macros.WellNamed) {name : Text} (mem : name ∈ macros.names) {c : Char}
    (parenthesis : c = '(' ∨ c = ')') : c ∉ placeholder name :=
  parenthesis_not_mem_placeholder (well.named name mem) parenthesis

theorem no_placeholder_at {name text : Text} {c : Char} (other : c ≠ '{') : ¬ placeholder name <+: c :: text :=
  fun begins => other (List.cons_prefix_cons.1 begins).1.symm

theorem exists_mem_of_mem_names {name : Text} (mem : name ∈ macros.names) : ∃ fragment, (name, fragment) ∈ macros := by
  obtain ⟨⟨_, fragment⟩, entry, rfl⟩ := List.mem_map.1 mem
  exact ⟨fragment, entry⟩

/-! ## Occurrences -/

theorem Occurs.cons {name text : Text} (occurs : Occurs name text) (c : Char) : Occurs name (c :: text) :=
  List.IsInfix.trans occurs (List.suffix_cons c text).isInfix

theorem Occurs.append {name text : Text} (occurs : Occurs name text) (start : Text) :
    Occurs name (start ++ text) :=
  List.IsInfix.trans occurs (List.suffix_append start text).isInfix

theorem occurs_placeholder (name rest : Text) : Occurs name (placeholder name ++ rest) :=
  (List.prefix_append _ rest).isInfix

theorem expands_of_unreferring {text : Text} (unreferring : ∀ name ∈ macros.names, ¬ Occurs name text) :
    Expands macros text text := by
  induction text with
  | nil => exact .nil
  | cons c text ih =>
    refine .char (fun name mem begins => unreferring name mem begins.isInfix) (ih fun name mem occurs => ?_)
    exact unreferring name mem (occurs.cons c)

/-! ## Expansions of texts that are put together -/

theorem Expands.append_cons (well : macros.WellNamed) {text expansion rest rest' : Text}
    (h : Expands macros text expansion) (next : Expands macros (')' :: rest) rest') :
    Expands macros (text ++ ')' :: rest) (expansion ++ rest') := by
  induction h with
  | nil => exact next
  | char plain _ ih =>
    refine .char (fun name mem begins => plain name mem ?_) ih
    exact Text.prefix_of_prefix_append_cons (well.avoids mem (Or.inr rfl)) begins
  | reference mem inner _ _ ih =>
    rw [List.append_assoc, List.append_assoc]
    exact .reference mem inner ih

theorem Expands.group (well : macros.WellNamed) {text expansion rest rest' : Text}
    (h : Expands macros text expansion) (next : Expands macros rest rest') :
    Expands macros (group text ++ rest) (group expansion ++ rest') := by
  have closed : Expands macros (')' :: rest) (')' :: rest') :=
    .char (fun _ _ => no_placeholder_at (by decide)) next
  rw [group_append, group_append]
  exact .char (fun _ _ => no_placeholder_at (by decide)) (h.append_cons well closed)

/-! ## Replacing the placeholders of one macro -/

theorem begins_of_begins_replace {name other fragment text : Text} (named : isName other = true)
    (begins : placeholder other <+: Text.replace (placeholder name) (Macros.group fragment) text) :
    placeholder other <+: text :=
  Text.prefix_of_prefix_replace (placeholder_ne_nil name) (parenthesis_not_mem_placeholder named (Or.inl rfl))
    begins

theorem replace_placeholder_other {name other : Text} (named : isName name = true) (named' : isName other = true)
    (ne : name ≠ other) (new rest : Text) :
    Text.replace (placeholder name) new (placeholder other ++ rest) =
      placeholder other ++ Text.replace (placeholder name) new rest := by
  have different : ¬ placeholder name <+: placeholder other ++ rest := by
    rintro ⟨rest', same⟩
    exact ne (placeholder_append_inj named named' same).1
  have inside : '{' ∉ other ++ ['}'] := by simpa using not_mem_of_isName named' rfl
  rw [placeholder_append other, placeholder_append other] at *
  rw [Text.replace_cons different]
  have copied : Text.replace (placeholder name) new (other ++ ['}'] ++ rest) =
      other ++ ['}'] ++ Text.replace (placeholder name) new rest :=
    Text.replace_append_of_not_mem inside new rest
  simpa using copied

/-- A fragment can be put in for a macro if whatever the macro's own fragment expands to is its expansion too. -/
def Agrees (macros : Macros) (name text : Text) : Prop :=
  ∀ fragment expansion, (name, fragment) ∈ macros → Expands macros fragment expansion →
    Expands macros text expansion

theorem Expands.replace (well : macros.WellNamed) {name put text expansion : Text} (mem : name ∈ macros.names)
    (agrees : macros.Agrees name put) (h : Expands macros text expansion) :
    Expands macros (Text.replace (placeholder name) (Macros.group put) text) expansion := by
  induction h with
  | nil => exact .nil
  | @char c text expansion plain _ ih =>
    rw [Text.replace_cons (plain name mem)]
    refine .char (fun other mem' begins => plain other mem' ?_) ih
    rw [← Text.replace_cons (plain name mem)] at begins
    exact begins_of_begins_replace (well.named other mem') begins
  | @reference other fragment inner text expansion mem' expanded _ _ ih =>
    by_cases same : name = other
    · subst same
      rw [Text.replace_append (placeholder_ne_nil name)]
      exact (agrees fragment inner mem' expanded).group well ih
    · rw [replace_placeholder_other (well.named name mem) (well.named other (mem_names_of_mem mem')) same]
      exact .reference mem' expanded ih

theorem occurs_group_append {name fragment rest : Text} (named : isName name = true)
    (h : Occurs name (Macros.group fragment ++ rest)) : Occurs name fragment ∨ Occurs name rest := by
  rw [group_append] at h
  rcases List.infix_cons_iff.1 h with begins | inside
  · exact absurd begins (no_placeholder_at (by decide))
  · exact Text.infix_of_infix_append_cons (parenthesis_not_mem_placeholder named (Or.inr rfl))
      (placeholder_ne_nil name) inside

theorem occurs_replace {name other put text : Text} (named : isName other = true)
    (h : Occurs other (Text.replace (placeholder name) (Macros.group put) text)) :
    (other ≠ name ∧ Occurs other text) ∨ (Occurs name text ∧ Occurs other put) := by
  induction text using Text.replace_induction (placeholder_ne_nil name) with
  | nil => exact absurd (List.infix_nil.1 h) (placeholder_ne_nil other)
  | found rest ih =>
    rw [Text.replace_append (placeholder_ne_nil name)] at h
    have here := occurs_placeholder name rest
    rcases occurs_group_append named h with inner | after
    · exact Or.inr ⟨here, inner⟩
    · rcases ih after with ⟨ne, occurs⟩ | ⟨-, occurs⟩
      · exact Or.inl ⟨ne, occurs.append _⟩
      · exact Or.inr ⟨here, occurs⟩
  | other c text plain ih =>
    rw [Text.replace_cons plain] at h
    rcases List.infix_cons_iff.1 h with begins | after
    · rw [← Text.replace_cons plain] at begins
      have before := begins_of_begins_replace named begins
      exact Or.inl ⟨fun same => plain (same ▸ before), before.isInfix⟩
    · exact (ih after).imp (fun h => ⟨h.1, h.2.cons c⟩) (fun h => ⟨h.1.cons c, h.2⟩)

/-! ## Expansions -/

theorem Expands.functional (well : macros.WellNamed) {text expansion expansion' : Text}
    (h : Expands macros text expansion) (h' : Expands macros text expansion') : expansion = expansion' := by
  induction h generalizing expansion' with
  | nil =>
    generalize empty : ([] : Text) = text at h'
    cases h' with
    | nil => rfl
    | char => cases empty
    | reference => simp [placeholder] at empty
  | @char c text expansion plain _ ih =>
    generalize whole : c :: text = text' at h'
    cases h' with
    | nil => cases whole
    | char _ rest =>
      obtain ⟨rfl, rfl⟩ := List.cons_eq_cons.1 whole
      rw [ih rest]
    | reference mem _ _ =>
      exact absurd (whole ▸ List.prefix_append _ _) (plain _ (mem_names_of_mem mem))
  | @reference name fragment inner text expansion mem _ _ ihInner ih =>
    generalize whole : placeholder name ++ text = text' at h'
    cases h' with
    | nil => simp [placeholder] at whole
    | char plain _ =>
      exact absurd (whole ▸ List.prefix_append _ _) (plain _ (mem_names_of_mem mem))
    | reference mem' inner' rest =>
      obtain ⟨rfl, rfl⟩ := placeholder_append_inj (well.named _ (mem_names_of_mem mem))
        (well.named _ (mem_names_of_mem mem')) whole
      obtain rfl := fragment_unique well.nodup mem mem'
      rw [ihInner inner', ih rest]

theorem refers_of_occurs (well : macros.WellNamed) {name fragment other : Text} (mem : (name, fragment) ∈ macros)
    (mem' : other ∈ macros.names) (occurs : Occurs other fragment) : macros.Refers name other :=
  ⟨fragment, mem, mem_references.2 ⟨well.named other mem', occurs⟩, mem'⟩

theorem exists_expands (well : macros.WellNamed) (acyclic : macros.Acyclic) (text : Text) :
    ∃ expansion, Expands macros text expansion := by
  suffices below : ∀ bound text, (∀ name ∈ macros.names, Occurs name text → macros.rank name < bound) →
      ∃ expansion, Expands macros text expansion from
    below macros.length text fun name mem _ => rank_lt_length acyclic mem
  intro bound
  induction bound with
  | zero =>
    intro text none
    exact ⟨text, expands_of_unreferring fun name mem occurs => absurd (none name mem occurs) (Nat.not_lt_zero _)⟩
  | succ bound ih =>
    intro text
    induction length : text.length using Nat.strong_induction_on generalizing text with
    | _ _ shorter =>
      subst length
      intro low
      by_cases begins : ∃ name ∈ macros.names, placeholder name <+: text
      · obtain ⟨name, mem, rest, rfl⟩ := begins
        obtain ⟨fragment, entry⟩ := exists_mem_of_mem_names mem
        have inside : ∀ other ∈ macros.names, Occurs other fragment → macros.rank other < bound := by
          intro other mem' occurs
          have lower := rank_lt_of_refers acyclic (refers_of_occurs well entry mem' occurs)
          exact Nat.lt_of_lt_of_le lower (Nat.le_of_lt_succ (low _ mem (occurs_placeholder _ rest)))
        obtain ⟨inner, expanded⟩ := ih fragment inside
        have less : rest.length < (placeholder name ++ rest).length := by
          rw [List.length_append]
          have := List.length_pos_of_ne_nil (placeholder_ne_nil name)
          omega
        obtain ⟨expansion, after⟩ := shorter rest.length less rest rfl
          fun other mem' occurs => low other mem' (occurs.append _)
        exact ⟨_, .reference entry expanded after⟩
      · cases text with
        | nil => exact ⟨[], .nil⟩
        | cons c text =>
          obtain ⟨expansion, after⟩ := shorter text.length (Nat.lt_succ_self _) text rfl
            fun other mem' occurs => low other mem' (occurs.cons c)
          exact ⟨_, .char (fun name mem here => begins ⟨name, mem, here⟩) after⟩

end LexGen.Macros
