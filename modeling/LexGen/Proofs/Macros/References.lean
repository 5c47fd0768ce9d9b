import LexGen.Macros
import LexGen.Proofs.Outcome
import LexGen.Proofs.Text.Replace
import Mathlib.Data.Finset.Card
import Mathlib.Logic.Relation

/-!
# References between macros

The placeholders of a text are the places where the name of a macro stands between braces. A table of macros is
acyclic if no macro refers to itself through others; its macros then have ranks, lower ones for those that are
referred to.

* `mem_references`: the references of a text are the placeholders that occur in it.
* `rank_lt_of_refers`, `rank_lt_length`: the ranks of an acyclic table.
* `cycle?_of_acyclic`: the search for a cycle finds none.
-/

namespace LexGen.Macros

/-! ## Names -/

def isName : Text → Bool
  | [] => false
  | c :: text => isNameStart c && text.all isNamePart

def isDelimiter (c : Char) : Bool := c == '{' || c == '}' || c == '(' || c == ')'

theorem not_isNamePart_of_isDelimiter {c : Char} (h : isDelimiter c = true) : isNamePart c = false := by
  simp only [isDelimiter, Bool.or_eq_true, beq_iff_eq] at h
  rcases h with ((rfl | rfl) | rfl) | rfl <;> decide +kernel

theorem not_isNameStart_of_isDelimiter {c : Char} (h : isDelimiter c = true) : isNameStart c = false := by
  simp only [isDelimiter, Bool.or_eq_true, beq_iff_eq] at h
  rcases h with ((rfl | rfl) | rfl) | rfl <;> rfl

theorem not_mem_of_isName {name : Text} (named : isName name = true) {c : Char} (h : isDelimiter c = true) :
    c ∉ name := by
  cases name with
  | nil => exact List.not_mem_nil
  | cons d name =>
    rw [isName, Bool.and_eq_true, List.all_eq_true] at named
    rw [List.mem_cons]
    rintro (rfl | mem)
    · rw [not_isNameStart_of_isDelimiter h] at named
      exact Bool.false_ne_true named.1
    · exact Bool.false_ne_true ((not_isNamePart_of_isDelimiter h).symm.trans (named.2 c mem))

theorem placeholder_append (name rest : Text) : placeholder name ++ rest = '{' :: (name ++ '}' :: rest) := by
  simp [placeholder]

theorem group_append (fragment rest : Text) : group fragment ++ rest = '(' :: (fragment ++ ')' :: rest) := by
  simp [group]

theorem placeholder_ne_nil (name : Text) : placeholder name ≠ [] := by simp [placeholder]

theorem parenthesis_not_mem_placeholder {name : Text} (named : isName name = true) {c : Char}
    (parenthesis : c = '(' ∨ c = ')') : c ∉ placeholder name := by
  have avoids : c ∉ name := not_mem_of_isName named (by rcases parenthesis with rfl | rfl <;> rfl)
  rcases parenthesis with rfl | rfl <;> simpa [placeholder] using avoids

theorem placeholder_append_inj {name other rest rest' : Text} (named : isName name = true)
    (named' : isName other = true) (h : placeholder name ++ rest = placeholder other ++ rest') :
    name = other ∧ rest = rest' := by
  simp only [placeholder_append, List.cons.injEq, true_and] at h
  have upToClosing : ∀ {text : Text} (rest : Text), isName text = true →
      (text ++ '}' :: rest).takeWhile (· != '}') = text := by
    intro text rest named
    have inside : ∀ c ∈ text, (c != '}') = true := by
      intro c mem
      rw [bne_iff_ne]
      rintro rfl
      exact not_mem_of_isName named rfl mem
    rw [List.takeWhile_append_of_pos inside]
    simp
  have same : name = other := by
    rw [← upToClosing rest named, h, upToClosing rest' named']
  subst same
  exact ⟨rfl, by simpa using h⟩

/-! ## Placeholders of texts -/

theorem placeholder?_eq_some {text name : Text} :
    placeholder? text = some name ↔ isName name = true ∧ placeholder name <+: text := by
  constructor
  · intro found
    unfold placeholder? at found
    split at found
    · rename_i c text
      split at found
      · rename_i closes
        rw [Bool.and_eq_true, decide_eq_true_eq] at closes
        obtain ⟨start, closing⟩ := closes
        obtain ⟨rest, after⟩ := List.head?_eq_some_iff.1 closing
        obtain rfl := Option.some.inj found
        refine ⟨?_, rest, ?_⟩
        · rw [isName, start, Bool.true_and]
          exact List.all_takeWhile
        · have whole := List.takeWhile_append_dropWhile (p := isNamePart) (l := text)
          rw [after] at whole
          simpa [placeholder] using whole
      · cases found
    · cases found
  · rintro ⟨named, rest, rfl⟩
    cases name with
    | nil => cases named
    | cons c name =>
      rw [isName, Bool.and_eq_true, List.all_eq_true] at named
      have parts : (name ++ '}' :: rest).takeWhile isNamePart = name := by
        rw [List.takeWhile_append_of_pos named.2]
        simp [not_isNamePart_of_isDelimiter (c := '}') rfl]
      have after : (name ++ '}' :: rest).dropWhile isNamePart = '}' :: rest := by
        rw [List.dropWhile_append_of_pos named.2]
        simp [not_isNamePart_of_isDelimiter (c := '}') rfl]
      simp [placeholder, placeholder?, named.1, parts, after]

theorem mem_references {name text : Text} :
    name ∈ references text ↔ isName name = true ∧ placeholder name <:+: text := by
  induction text with
  | nil => simp [references, placeholder]
  | cons c text ih =>
    rw [List.infix_cons_iff, and_or_left, ← placeholder?_eq_some, ← ih, references]
    split
    · rename_i found
      rw [found, List.mem_cons, Option.some.injEq, eq_comm]
    · rename_i none
      rw [none]
      simp

/-! ## The graph of references -/

def Refers (macros : Macros) (name other : Text) : Prop :=
  ∃ fragment, (name, fragment) ∈ macros ∧ other ∈ references fragment ∧ other ∈ macros.names

def Acyclic (macros : Macros) : Prop := ∀ name, ¬ Relation.TransGen macros.Refers name name

theorem mem_names_of_mem {macros : Macros} {name fragment : Text} (mem : (name, fragment) ∈ macros) :
    name ∈ macros.names :=
  List.mem_map.2 ⟨(name, fragment), mem, rfl⟩

theorem Refers.target_mem {macros : Macros} {name other : Text} (h : macros.Refers name other) :
    other ∈ macros.names :=
  let ⟨_, _, _, mem⟩ := h
  mem

theorem acyclic_of_rank {macros : Macros} (rank : Text → Nat)
    (lower : ∀ entry ∈ macros, ∀ other ∈ references entry.2, other ∈ macros.names → rank other < rank entry.1) :
    macros.Acyclic := by
  have down : ∀ {name other}, Relation.TransGen macros.Refers name other → rank other < rank name := by
    intro name other path
    induction path with
    | single edge =>
      obtain ⟨fragment, mem, refers, mem'⟩ := edge
      exact lower _ mem _ refers mem'
    | tail _ edge ih =>
      obtain ⟨fragment, mem, refers, mem'⟩ := edge
      exact (lower _ mem _ refers mem').trans ih
  exact fun name path => Nat.lt_irrefl _ (down path)

open Classical in
noncomputable def rank (macros : Macros) (name : Text) : Nat :=
  (macros.names.toFinset.filter (Relation.TransGen macros.Refers name)).card

theorem rank_lt_of_refers {macros : Macros} (acyclic : macros.Acyclic) {name other : Text}
    (h : macros.Refers name other) : macros.rank other < macros.rank name := by
  classical
  apply Finset.card_lt_card
  rw [Finset.ssubset_iff_of_subset]
  · refine ⟨other, ?_, ?_⟩
    · rw [Finset.mem_filter, List.mem_toFinset]
      exact ⟨h.target_mem, .single h⟩
    · rw [Finset.mem_filter, not_and]
      exact fun _ => acyclic other
  · intro reached mem
    rw [Finset.mem_filter] at mem ⊢
    exact ⟨mem.1, .head h mem.2⟩

theorem rank_lt_length {macros : Macros} (acyclic : macros.Acyclic) {name : Text}
    (mem : name ∈ macros.names) : macros.rank name < macros.length := by
  classical
  have proper : macros.names.toFinset.filter (Relation.TransGen macros.Refers name) ⊂ macros.names.toFinset := by
    rw [Finset.ssubset_iff_of_subset (Finset.filter_subset _ _)]
    refine ⟨name, List.mem_toFinset.2 mem, ?_⟩
    rw [Finset.mem_filter, not_and]
    exact fun _ => acyclic name
  calc macros.rank name < macros.names.toFinset.card := Finset.card_lt_card proper
    _ ≤ macros.names.length := List.toFinset_card_le _
    _ = macros.length := List.length_map _

/-! ## The search for a cycle -/

theorem refers_of_mem_successors {macros : Macros} {name other : Text}
    (mem : other ∈ macros.successors name) : macros.Refers name other := by
  unfold successors at mem
  split at mem
  · rename_i fragment found
    rw [List.mem_filter, List.contains_iff_mem] at mem
    obtain ⟨first, others, rfl, -⟩ := List.lookup_eq_some_iff.1 found
    exact ⟨fragment, by simp, mem⟩
  · cases mem

theorem visit_of_acyclic {macros : Macros} (acyclic : macros.Acyclic) (fuel : Nat) {path : List Text}
    {name : Text} (leads : ∀ before ∈ path, Relation.TransGen macros.Refers before name) (done : List Text) :
    ∃ done', visit macros fuel path done name = .ok done' := by
  induction fuel generalizing path done name with
  | zero => exact ⟨done, rfl⟩
  | succ fuel ih =>
    rw [visit]
    have fresh : ¬ path.contains name = true := fun mem => acyclic name (leads name (List.contains_iff_mem.1 mem))
    rw [if_neg fresh]
    split
    · exact ⟨done, rfl⟩
    · have each : ∀ next ∈ macros.successors name, ∀ done,
          ∃ done', visit macros fuel (name :: path) done next = .ok done' := by
        intro next mem done
        have edge := refers_of_mem_successors mem
        apply ih
        intro before mem
        rcases List.mem_cons.1 mem with rfl | mem
        · exact .single edge
        · exact .tail (leads before mem) edge
      obtain ⟨after, visited⟩ := exists_ok_foldlM (visit macros fuel (name :: path)) each done
      exact ⟨name :: after, by rw [visited]; rfl⟩

theorem cycle?_of_acyclic {macros : Macros} (acyclic : macros.Acyclic) : macros.cycle? = none := by
  have each : ∀ name ∈ macros.names, ∀ done, ∃ done', visit macros (macros.length + 1) [] done name = .ok done' :=
    fun name _ done => visit_of_acyclic acyclic _ (by simp) done
  obtain ⟨done, visited⟩ := exists_ok_foldlM (visit macros (macros.length + 1) []) each []
  rw [cycle?, visited]

end LexGen.Macros
