import LexGen.Proofs.Macros.Cycles
import LexGen.Proofs.Macros.Strictness
import Mathlib.Data.Char
import Mathlib.Data.List.Lex

/-!
# What is left in an expanded table

Passes end when one changes nothing. Such a pass has replaced nothing: putting a fragment in parentheses for a
placeholder makes a text smaller in the order of dictionaries, so that no replacement undoes another. An
expanded table therefore holds no placeholder of another macro, whatever the names are.

A fragment may still hold the placeholder of its own macro. The search for a cycle sees only names that can
stand in placeholders, but any name is replaced, so that a cycle through another name is not noticed.

* `substitute_eq_self_iff`: what substitution leaves as it is.
* `expand_closed`: what expanding a table comes to, and expanding it again.
-/

namespace LexGen.Macros

variable {settings : Settings}

/-! ## Replacing makes texts smaller -/

theorem group_lt_placeholder (name put rest rest' : Text) : group put ++ rest' < placeholder name ++ rest := by
  rw [group_append, placeholder_append]
  exact List.Lex.rel (by decide)

theorem replace_le (name put text : Text) : Text.replace (placeholder name) (group put) text ≤ text := by
  induction text using Text.replace_induction (placeholder_ne_nil name) with
  | nil => exact le_refl []
  | found rest _ =>
    rw [Text.replace_append (placeholder_ne_nil name)]
    exact (group_lt_placeholder name put rest _).le
  | other c text other ih =>
    rw [Text.replace_cons other]
    exact List.cons_le_cons c ih

theorem replace_lt {name put text : Text} (occurs : Occurs name text) :
    Text.replace (placeholder name) (group put) text < text := by
  induction text using Text.replace_induction (placeholder_ne_nil name) with
  | nil => exact absurd (List.infix_nil.1 occurs) (placeholder_ne_nil name)
  | found rest _ =>
    rw [Text.replace_append (placeholder_ne_nil name)]
    exact group_lt_placeholder name put rest _
  | other c text other ih =>
    rw [Text.replace_cons other]
    exact List.Lex.cons (ih ((List.infix_cons_iff.1 occurs).resolve_left other))

theorem substitute_le (entries : Macros) (text : Text) : entries.substitute text ≤ text := by
  induction entries generalizing text with
  | nil => exact le_refl text
  | cons entry entries ih => exact (ih _).trans (replace_le entry.1 entry.2 text)

theorem substitute_eq_self_iff {entries : Macros} {text : Text} :
    entries.substitute text = text ↔ ∀ name ∈ entries.names, ¬ Occurs name text := by
  constructor
  · intro same
    induction entries with
    | nil => exact fun name mem => absurd mem List.not_mem_nil
    | cons entry entries ih =>
      rw [substitute_cons] at same
      have back := substitute_le entries (Text.replace (placeholder entry.1) (group entry.2) text)
      rw [same] at back
      have first : Text.replace (placeholder entry.1) (group entry.2) text = text :=
        le_antisymm (replace_le entry.1 entry.2 text) back
      rw [first] at same
      refine List.forall_mem_cons.2 ⟨fun occurs => ?_, ih same⟩
      have smaller : Text.replace (placeholder entry.1) (group entry.2) text < text := replace_lt occurs
      rw [first] at smaller
      exact lt_irrefl text smaller
  · exact substitute_of_unreferring

/-! ## Passes that change nothing -/

def Separate (table : Macros) : Prop :=
  ∀ entry ∈ table, ∀ name ∈ table.names, name ≠ entry.1 → ¬ Occurs name entry.2

theorem mem_names_without_iff {table : Macros} {name other : Text} :
    other ∈ (table.without name).names ↔ other ∈ table.names ∧ other ≠ name := by
  constructor
  · intro mem
    obtain ⟨entry, kept, rfl⟩ := List.mem_map.1 mem
    exact ⟨List.mem_map_of_mem (mem_of_mem_without kept), bne_iff_ne.1 (List.mem_filter.1 kept).2⟩
  · exact fun h => mem_names_without h.1 h.2

theorem pass_eq_self_iff {table : Macros} : table.pass = table ↔ table.Separate := by
  have each : ∀ entry ∈ table, ((entry.1, (table.without entry.1).substitute entry.2) = entry ↔
      ∀ name ∈ table.names, name ≠ entry.1 → ¬ Occurs name entry.2) := by
    rintro ⟨name, fragment⟩ -
    simp only [Prod.mk.injEq, true_and, substitute_eq_self_iff, mem_names_without_iff, and_imp]
  constructor
  · intro same entry mem
    exact (each entry mem).1 (List.map_inj_left.1 (same.trans (List.map_id table).symm) entry mem)
  · intro separate
    exact (List.map_congr_left fun entry mem => (each entry mem).2 (separate entry mem)).trans (List.map_id table)

theorem separate_of_settle? {limit count passes : Nat} {macros table : Macros}
    (h : settle? limit count macros = some (table, passes)) : table.Separate := by
  induction limit generalizing count macros with
  | zero => cases h
  | succ limit ih =>
    rw [settle?] at h
    split at h
    · rename_i same
      obtain ⟨rfl, -⟩ := Prod.mk.inj (Option.some.inj h)
      exact pass_eq_self_iff.1 (same.symm ▸ same)
    · exact ih h

theorem separate_of_expand {macros table : Macros} (h : MayReturn (expand settings macros) table) :
    table.Separate := by
  unfold expand at h
  split at h
  · rw [← h.of_pure]
    exact fun entry mem => absurd mem List.not_mem_nil
  · split at h
    · exact absurd h not_mayReturn_throw
    · obtain ⟨_, -, h⟩ := h.of_bind
      split at h
      · rename_i settled
        obtain ⟨_, -, h⟩ := h.of_bind
        rw [← h.of_pure]
        exact separate_of_settle? settled
      · exact absurd h not_mayReturn_throw

/-! ## References of the fragments -/

theorem occurs_of_occurs_substitute {entries : Macros} {name text : Text} (named : isName name = true)
    (h : Occurs name (entries.substitute text)) : Occurs name text ∨ ∃ entry ∈ entries, Occurs name entry.2 := by
  induction entries generalizing text with
  | nil => exact Or.inl h
  | cons entry entries ih =>
    rcases ih h with put | ⟨other, mem, inside⟩
    · rcases occurs_replace named put with ⟨-, before⟩ | ⟨-, inside⟩
      · exact Or.inl before
      · exact Or.inr ⟨entry, List.mem_cons_self, inside⟩
    · exact Or.inr ⟨other, List.mem_cons_of_mem _ mem, inside⟩

def Defined (macros : Macros) (known : List Text) : Prop :=
  ∀ entry ∈ macros, ∀ name ∈ references entry.2, name ∈ known

theorem Defined.pass {macros : Macros} {known : List Text} (defined : macros.Defined known) :
    macros.pass.Defined known := by
  intro entry mem name reference
  obtain ⟨⟨own, fragment⟩, stored, rfl⟩ := List.mem_map.1 mem
  obtain ⟨named, occurs⟩ := mem_references.1 reference
  rcases occurs_of_occurs_substitute named occurs with before | ⟨other, mem, inside⟩
  · exact defined _ stored name (mem_references.2 ⟨named, before⟩)
  · exact defined _ (mem_of_mem_without mem) name (mem_references.2 ⟨named, inside⟩)

theorem Defined.settle? {macros table : Macros} {known : List Text} (defined : macros.Defined known)
    {limit count passes : Nat} (h : Macros.settle? limit count macros = some (table, passes)) :
    table.Defined known := by
  induction limit generalizing count macros with
  | zero => cases h
  | succ limit ih =>
    rw [Macros.settle?] at h
    split at h
    · obtain ⟨rfl, -⟩ := Prod.mk.inj (Option.some.inj h)
      exact defined.pass
    · exact ih defined.pass h

theorem defined_of_expand {macros table : Macros} (h : MayReturn (expand settings macros) table) :
    settings.isStrict = false ∨ table.Defined table.names := by
  rw [names_of_expand h, or_iff_not_imp_left]
  intro strict
  unfold expand at h
  split at h
  · rw [← h.of_pure]
    exact fun entry mem => absurd mem List.not_mem_nil
  · split at h
    · exact absurd h not_mayReturn_throw
    · obtain ⟨_, checked, h⟩ := h.of_bind
      split at h
      · rename_i settled
        obtain ⟨_, -, h⟩ := h.of_bind
        rw [← h.of_pure]
        have defined : macros.Defined macros.names := fun entry mem =>
          (lenient_of_check (checked.of_forM entry mem)).resolve_left strict
        exact defined.settle? settled
      · exact absurd h not_mayReturn_throw

/-! ## Cycles in a table without references to other macros -/

/-- The name of a macro whose own placeholder stands in its fragment, if the search for a cycle can see it. -/
def RefersToItself (table : Macros) (name : Text) : Prop :=
  isName name = true ∧ ∃ fragment, (name, fragment) ∈ table ∧ Occurs name fragment

theorem Separate.successor {table : Macros} (separate : table.Separate) {name other : Text}
    (mem : other ∈ table.successors name) : other = name ∧ table.RefersToItself name := by
  obtain ⟨fragment, stored, reference, known⟩ := refers_of_mem_successors mem
  obtain ⟨named, occurs⟩ := mem_references.1 reference
  have same : other = name := by
    by_contra ne
    exact separate _ stored other known ne occurs
  exact ⟨same, same ▸ named, fragment, stored, same ▸ occurs⟩

theorem Separate.visit {table : Macros} (separate : table.Separate) (fuel : Nat) (done : List Text) (name : Text) :
    (∃ after, visit table (fuel + 2) [] done name = .ok after) ∨
      table.RefersToItself name ∧ Macros.visit table (fuel + 2) [] done name = .error [name, name] := by
  rw [Macros.visit, if_neg (by simp)]
  split
  · exact Or.inl ⟨done, rfl⟩
  · cases next : table.successors name with
    | nil => exact Or.inl ⟨name :: done, rfl⟩
    | cons other others =>
      obtain ⟨rfl, itself⟩ := separate.successor (next ▸ List.mem_cons_self)
      refine Or.inr ⟨itself, ?_⟩
      rw [List.foldlM_cons, Macros.visit, if_pos (by simp)]
      simp [bind, Except.bind]

theorem Separate.cycle? {table : Macros} (separate : table.Separate) {cycle : List Text}
    (found : table.cycle? = some cycle) : ∃ name, table.RefersToItself name ∧ cycle = [name, name] := by
  rw [Macros.cycle?] at found
  split at found
  · cases found
  · rename_i cycle' failed
    obtain rfl := Option.some.inj found
    obtain ⟨name, -, done, visited⟩ := exists_error_of_foldlM failed
    have fuel : table.length + 1 = (table.length - 1) + 2 := by
      cases table with
      | nil => cases failed
      | cons => simp
    rw [fuel] at visited
    rcases separate.visit _ done name with ⟨after, ended⟩ | ⟨itself, ended⟩
    · rw [ended] at visited
      cases visited
    · rw [ended] at visited
      exact ⟨name, itself, (Except.error.inj visited).symm⟩

theorem cycle?_of_refersToItself {table : Macros} (unique : table.names.Nodup) {name : Text}
    (itself : table.RefersToItself name) : ∃ cycle, table.cycle? = some cycle := by
  cases found : table.cycle? with
  | some cycle => exact ⟨cycle, rfl⟩
  | none =>
    obtain ⟨named, fragment, stored, occurs⟩ := itself
    have refers : table.Refers name name :=
      ⟨fragment, stored, mem_references.2 ⟨named, occurs⟩, mem_names_of_mem stored⟩
    exact absurd (.single refers) (acyclic_of_cycle? unique found name)

/-! ## Expanding again -/

theorem Separate.expand {table : Macros} (separate : table.Separate) (none : table.cycle? = none)
    (lenient : settings.isStrict = false ∨ table.Defined table.names) :
    Returns (Macros.expand settings table) table := by
  rw [Macros.expand]
  split
  · rename_i empty
    rw [List.isEmpty_iff.1 empty]
    exact returns_pure []
  · rw [none]
    refine (returns_forM fun entry mem => ?_).bind ?_
    · exact returns_check _ (lenient.imp_right fun defined => defined entry mem)
    · have same := pass_eq_self_iff.2 separate
      rw [Macros.settle?, if_pos same, same]
      exact Returns.bind (fun _ => rfl) (returns_pure table)

theorem Separate.expand_cycle {table : Macros} (separate : table.Separate) {cycle : List Text}
    (found : table.cycle? = some cycle) :
    ∃ name, table.RefersToItself name ∧
      (Macros.expand settings table).outcome = .error (.macroCycle [String.ofList name, String.ofList name]) := by
  obtain ⟨name, itself, rfl⟩ := separate.cycle? found
  refine ⟨name, itself, ?_⟩
  have entries : ¬ table.isEmpty = true := by
    obtain ⟨-, fragment, stored, -⟩ := itself
    rw [List.isEmpty_iff]
    exact List.ne_nil_of_mem stored
  rw [Macros.expand, if_neg entries, found]
  rfl

/-! ## Failures -/

theorem fails_check {names : List Text} {text : Text} {place : String} {e : Error}
    (h : MayFail (check settings names text place) e) :
    settings.isStrict = true ∧ ∃ name place, e = .undefinedMacro name place := by
  obtain ⟨name, -, failed⟩ := h.of_forM
  split at failed
  · exact absurd failed not_mayFail_pure
  · split at failed
    · rename_i strict
      exact ⟨strict, _, _, failed.of_throw.symm⟩
    · obtain ⟨_, ended⟩ := failed
      cases ended

theorem fails_expand {macros : Macros} {e : Error} (h : MayFail (expand settings macros) e) :
    (∃ cycle, e = .macroCycle cycle) ∨
      settings.isStrict = true ∧ ∃ name place, e = .undefinedMacro name place := by
  unfold expand at h
  split at h
  · exact absurd h not_mayFail_pure
  · split at h
    · exact Or.inl ⟨_, h.of_throw.symm⟩
    · rcases h.of_bind with failed | ⟨_, h⟩
      · obtain ⟨entry, -, failed⟩ := failed.of_forM
        exact Or.inr (fails_check failed)
      · split at h
        · rcases h.of_bind with ⟨_, ended⟩ | ⟨_, h⟩
          · cases ended
          · exact absurd h not_mayFail_pure
        · exact Or.inl ⟨_, h.of_throw.symm⟩

/-! ## The statement -/

/-- Expanding a table with any names fails because of a cycle or, in strict mode, of an undefined macro; or else
no fragment of the expanded table holds the placeholder of another macro. Expanding that table again leaves it as
it is, unless a fragment holds a placeholder of its own macro that the search for a cycle sees, which does not
happen if it sees all names. -/
theorem expand_closed (settings : Settings) (macros : Macros) (unique : macros.names.Nodup) :
    match (expand settings macros).outcome with
    | .error e => (∃ cycle, e = .macroCycle cycle) ∨
        settings.isStrict = true ∧ ∃ name place, e = .undefinedMacro name place
    | .ok table =>
      table.names = macros.names ∧
      (∀ entry ∈ table, ∀ name ∈ table.names, name ≠ entry.1 → ¬ Occurs name entry.2) ∧
      ((∀ name, ¬ table.RefersToItself name) → (expand settings table).outcome = .ok table) ∧
      ((∃ name, table.RefersToItself name) → ∃ name, table.RefersToItself name ∧
        (expand settings table).outcome = .error (.macroCycle [String.ofList name, String.ofList name])) ∧
      ((∀ name ∈ macros.names, isName name = true) →
        ∀ entry ∈ table, ∀ name ∈ table.names, ¬ Occurs name entry.2) := by
  rcases ended : (expand settings macros).outcome with e | table
  · exact fails_expand ⟨[], ended⟩
  · have returned : MayReturn (expand settings macros) table := ⟨[], ended⟩
    have same := names_of_expand returned
    have separate := separate_of_expand returned
    refine ⟨same, separate, fun none => ?_, ?_, fun named => ?_⟩
    · cases found : table.cycle? with
      | none => exact separate.expand found (defined_of_expand returned) []
      | some cycle =>
        obtain ⟨name, itself, -⟩ := separate.cycle? found
        exact absurd itself (none name)
    · rintro ⟨name, itself⟩
      obtain ⟨cycle, found⟩ := cycle?_of_refersToItself (same ▸ unique) itself
      exact separate.expand_cycle found
    · obtain ⟨acyclic, lenient⟩ := of_expand ⟨unique, named⟩ returned
      obtain ⟨table', returned', settled⟩ := expand_settled settings ⟨unique, named⟩ acyclic lenient
      obtain rfl := returned'.eq_of_mayReturn returned
      exact same ▸ settled.unreferring

/-- Two macros that refer to each other. The name of the second cannot stand in a placeholder, so that the search
for a cycle sees only one of the references. -/
def turning : Macros := [("N".toList, "{1}".toList), ("1".toList, "{N}".toList)]

def turned : Macros := [("N".toList, "({N})".toList), ("1".toList, "({1})".toList)]

theorem outcome_turning : (expand {} turning).outcome = .ok turned := by rfl

theorem expand_closed_turning :
    turning.names.Nodup ∧ turned.Separate ∧ ∃ name, turned.RefersToItself name ∧
      (expand {} turned).outcome = .error (.macroCycle [String.ofList name, String.ofList name]) := by
  have unique : turning.names.Nodup := by decide
  have closed := expand_closed {} turning unique
  rw [outcome_turning] at closed
  obtain ⟨-, separate, -, again, -⟩ := closed
  exact ⟨unique, separate, again ⟨"N".toList, by decide, _, List.mem_cons_self, ⟨['('], [')'], rfl⟩⟩⟩

/-- The cycle is not reported. The expanded table still holds placeholders of its macros, and it cannot be expanded
again. -/
theorem unseen_cycle_left :
    (expand {} turning).outcome = .ok turned ∧
      (∃ entry ∈ turned, ∃ name ∈ turned.names, Occurs name entry.2) ∧
      (expand {} turned).outcome = .error (.macroCycle ["N", "N"]) := by
  refine ⟨outcome_turning, ⟨_, List.mem_cons_self, "N".toList, by decide, ⟨['('], [')'], rfl⟩⟩, by rfl⟩

end LexGen.Macros
