import LexGen.Proofs.Macros.Expansion

/-!
# Expansion of tables

A table of macros is expanded by passes over all fragments. Every pass leaves the expansion of every fragment
as it is and lowers the ranks of the macros that fragments still refer to, so that after as many passes as there
are macros no reference is left and the fragments are their own expansions.

* `Progress` says how far the passes have come; `Progress.pass` is one of them.
* `expand_acyclic`: what expanding an acyclic table comes to.
-/

namespace LexGen.Macros

variable {macros : Macros}

/-! ## Substitution -/

theorem substitute_cons (name put : Text) (others : Macros) (text : Text) :
    substitute ((name, put) :: others) text =
      substitute others (Text.replace (placeholder name) (group put) text) := rfl

theorem Expands.substitute (well : macros.WellNamed) {entries : Macros} {text expansion : Text}
    (known : ∀ entry ∈ entries, entry.1 ∈ macros.names ∧ macros.Agrees entry.1 entry.2)
    (h : Expands macros text expansion) : Expands macros (substitute entries text) expansion := by
  induction entries generalizing text with
  | nil => exact h
  | cons entry entries ih =>
    obtain ⟨mem, agrees⟩ := known entry List.mem_cons_self
    exact ih (fun entry mem => known entry (List.mem_cons_of_mem _ mem)) (h.replace well mem agrees)

theorem substitute_of_unreferring {entries : Macros} {text : Text}
    (unreferring : ∀ name ∈ entries.names, ¬ Occurs name text) : substitute entries text = text := by
  induction entries with
  | nil => rfl
  | cons entry entries ih =>
    rw [substitute_cons, Text.replace_of_not_infix (unreferring entry.1 List.mem_cons_self)]
    exact ih fun name mem => unreferring name (List.mem_cons_of_mem _ mem)

/-- References of the text are still to be replaced or fit for being left; whatever is put in for a reference of
either kind holds only references that are fit for being left. Then these are the only ones in the end. -/
theorem occurs_substitute (well : macros.WellNamed) (Due Fit : Text → Prop) {entries : Macros} {text : Text}
    (known : ∀ entry ∈ entries, entry.1 ∈ macros.names)
    (inside : ∀ entry ∈ entries, Due entry.1 ∨ Fit entry.1 →
      ∀ name ∈ macros.names, Occurs name entry.2 → Fit name)
    (before : ∀ name ∈ macros.names, Occurs name text → (name ∈ entries.names ∧ Due name) ∨ Fit name) :
    ∀ name ∈ macros.names, Occurs name (substitute entries text) → Fit name := by
  induction entries generalizing text with
  | nil =>
    intro name mem occurs
    exact (before name mem occurs).resolve_left fun h => List.not_mem_nil h.1
  | cons entry entries ih =>
    refine ih (fun entry mem => known entry (List.mem_cons_of_mem _ mem))
      (fun entry mem => inside entry (List.mem_cons_of_mem _ mem)) ?_
    intro name mem occurs
    rcases occurs_replace (well.named name mem) occurs with ⟨ne, occurs⟩ | ⟨found, occurs⟩
    · exact (before name mem occurs).imp_left fun h => ⟨(List.mem_cons.1 h.1).resolve_left ne, h.2⟩
    · have kind := before entry.1 (known entry List.mem_cons_self) found
      exact Or.inr (inside entry List.mem_cons_self (kind.imp_left And.right) name mem occurs)

/-! ## Passes -/

/-- The fragments after `count` passes: they have the expansions of the first ones, and the macros that they
still refer to have lower ranks. -/
structure Progress (macros table : Macros) (count : Nat) : Prop where
  names_eq : table.names = macros.names
  agrees : ∀ entry ∈ table, macros.Agrees entry.1 entry.2
  rank : ∀ entry ∈ table, ∀ other ∈ macros.names, Occurs other entry.2 →
    macros.rank other + count < macros.rank entry.1

theorem progress_zero (well : macros.WellNamed) (acyclic : macros.Acyclic) : Progress macros macros 0 where
  names_eq := rfl
  agrees := by
    rintro ⟨name, text⟩ mem fragment expansion mem' h
    exact fragment_unique well.nodup mem' mem ▸ h
  rank := by
    rintro ⟨name, text⟩ mem other mem' occurs
    exact rank_lt_of_refers acyclic (refers_of_occurs well mem mem' occurs)

theorem Progress.mem_names {table : Macros} {count : Nat} (progress : Progress macros table count)
    {entry : Text × Text} (mem : entry ∈ table) : entry.1 ∈ macros.names :=
  progress.names_eq ▸ List.mem_map_of_mem mem

theorem mem_of_mem_without {table : Macros} {name : Text} {entry : Text × Text}
    (mem : entry ∈ table.without name) : entry ∈ table :=
  (List.mem_filter.1 mem).1

theorem mem_names_without {table : Macros} {name other : Text} (mem : other ∈ table.names) (ne : other ≠ name) :
    other ∈ (table.without name).names := by
  obtain ⟨entry, mem', rfl⟩ := List.mem_map.1 mem
  exact List.mem_map_of_mem (List.mem_filter.2 ⟨mem', bne_iff_ne.2 ne⟩)

theorem Progress.pass (well : macros.WellNamed) {table : Macros} {count : Nat}
    (progress : Progress macros table count) : Progress macros table.pass (count + 1) where
  names_eq := by
    rw [← progress.names_eq]
    simp [Macros.pass, Macros.names]
  agrees := by
    intro entry mem fragment expansion mem' h
    obtain ⟨⟨name, text⟩, stored, rfl⟩ := List.mem_map.1 mem
    have first : Expands macros text expansion := progress.agrees _ stored fragment expansion mem' h
    refine first.substitute well fun entry mem => ?_
    exact ⟨progress.mem_names (mem_of_mem_without mem), progress.agrees entry (mem_of_mem_without mem)⟩
  rank := by
    intro entry mem
    obtain ⟨⟨name, text⟩, stored, rfl⟩ := List.mem_map.1 mem
    -- A reference is replaced by a fragment whose references have ranks that are lower by more than `count`.
    refine occurs_substitute well (fun other => macros.rank other + count < macros.rank name)
      (fun other => macros.rank other + (count + 1) < macros.rank name)
      (fun entry mem => progress.mem_names (mem_of_mem_without mem)) ?_ ?_
    · intro entry mem kind other mem' occurs
      have lower := progress.rank entry (mem_of_mem_without mem) other mem' occurs
      omega
    · intro other mem' occurs
      have low := progress.rank _ stored other mem' occurs
      have ne : other ≠ name := by
        rintro rfl
        dsimp only at low
        omega
      exact Or.inl ⟨mem_names_without (progress.names_eq ▸ mem') ne, low⟩

def Unreferring (macros table : Macros) : Prop :=
  ∀ entry ∈ table, ∀ name ∈ macros.names, ¬ Occurs name entry.2

theorem names_without_subset (table : Macros) (name : Text) : (table.without name).names ⊆ table.names := by
  intro other mem
  obtain ⟨entry, kept, rfl⟩ := List.mem_map.1 mem
  exact List.mem_map_of_mem (mem_of_mem_without kept)

theorem pass_of_unreferring {table : Macros} (unreferring : Unreferring table table) : table.pass = table := by
  have same : ∀ entry ∈ table, (entry.1, (table.without entry.1).substitute entry.2) = entry := fun entry mem =>
    congrArg (entry.1, ·) <| substitute_of_unreferring fun name mem' =>
      unreferring entry mem name (names_without_subset table entry.1 mem')
  calc table.pass = table.map id := List.map_congr_left same
    _ = table := List.map_id table

theorem Progress.unreferring {table : Macros} {count : Nat} (progress : Progress macros table count)
    (bound : ∀ name ∈ macros.names, macros.rank name ≤ count) : Unreferring macros table := by
  intro entry mem name mem' occurs
  have low := progress.rank entry mem name mem' occurs
  have high := bound entry.1 (progress.mem_names mem)
  omega

theorem Progress.add (well : macros.WellNamed) {table : Macros} {count : Nat} (settled : table.pass = table)
    (progress : Progress macros table count) (more : Nat) : Progress macros table (count + more) := by
  induction more with
  | zero => exact progress
  | succ more ih => exact settled ▸ ih.pass well

/-- A table as the passes leave it: the fragments have the expansions of the first ones and hold no
references. -/
structure Settled (macros table : Macros) : Prop where
  names_eq : table.names = macros.names
  agrees : ∀ entry ∈ table, macros.Agrees entry.1 entry.2
  unreferring : Unreferring macros table

theorem settle?_of_acyclic (well : macros.WellNamed) (acyclic : macros.Acyclic) {limit : Nat} (made : Nat)
    {table : Macros} {count : Nat} (progress : Progress macros table count) (enough : macros.length ≤ count + limit) :
    ∃ final passes, settle? (limit + 1) made table = some (final, passes) ∧ Settled macros final := by
  have low : ∀ name ∈ macros.names, macros.rank name ≤ macros.length := fun name mem =>
    (rank_lt_length acyclic mem).le
  induction limit generalizing table count made with
  | zero =>
    have unreferring := progress.unreferring fun name mem => (low name mem).trans enough
    have settled : table.pass = table := pass_of_unreferring fun entry mem name mem' =>
      unreferring entry mem name (progress.names_eq ▸ mem')
    refine ⟨table, made + 1, ?_, progress.names_eq, progress.agrees, unreferring⟩
    rw [settle?, if_pos settled, settled]
  | succ limit ih =>
    by_cases settled : table.pass = table
    · refine ⟨table, made + 1, ?_, progress.names_eq, progress.agrees, ?_⟩
      · rw [settle?, if_pos settled, settled]
      · exact (progress.add well settled macros.length).unreferring fun name mem => (low name mem).trans (by omega)
    · obtain ⟨final, passes, ended, rest⟩ := ih (made + 1) (progress.pass well) (by omega)
      exact ⟨final, passes, by rw [settle?, if_neg settled]; exact ended, rest⟩

/-! ## Settled tables -/

theorem Settled.known {table : Macros} (settled : Settled macros table) :
    ∀ entry ∈ table, entry.1 ∈ macros.names ∧ macros.Agrees entry.1 entry.2 := fun entry mem =>
  ⟨settled.names_eq ▸ List.mem_map_of_mem mem, settled.agrees entry mem⟩

theorem Settled.substitute_unreferring (well : macros.WellNamed) {table : Macros} (settled : Settled macros table)
    (pattern : Text) : ∀ name ∈ macros.names, ¬ Occurs name (table.substitute pattern) := by
  refine occurs_substitute well (fun _ => True) (fun _ => False) (fun entry mem => (settled.known entry mem).1)
    (fun entry mem _ => settled.unreferring entry mem) ?_
  intro name mem _
  exact Or.inl ⟨settled.names_eq ▸ mem, trivial⟩

theorem Settled.expands_iff (well : macros.WellNamed) (acyclic : macros.Acyclic) {table : Macros}
    (settled : Settled macros table) (pattern text : Text) :
    Expands macros pattern text ↔ text = table.substitute pattern := by
  have unreferring := settled.substitute_unreferring well pattern
  have expanded : Expands macros pattern (table.substitute pattern) := by
    obtain ⟨expansion, h⟩ := exists_expands well acyclic pattern
    have same : table.substitute pattern = expansion :=
      (expands_of_unreferring unreferring).functional well (h.substitute well settled.known)
    exact same ▸ h
  constructor
  · exact fun h => h.functional well expanded
  · rintro rfl
    exact expanded

theorem Settled.mem_iff (well : macros.WellNamed) (acyclic : macros.Acyclic) {table : Macros}
    (settled : Settled macros table) (name text : Text) :
    (name, text) ∈ table ↔ ∃ fragment, (name, fragment) ∈ macros ∧ Expands macros fragment text := by
  have expanded : ∀ {text fragment}, (name, text) ∈ table → (name, fragment) ∈ macros →
      Expands macros fragment text := by
    intro text fragment mem mem'
    obtain ⟨expansion, h⟩ := exists_expands well acyclic fragment
    have agreed := settled.agrees _ mem fragment expansion mem' h
    have same : text = expansion :=
      (expands_of_unreferring (settled.unreferring _ mem)).functional well agreed
    exact same ▸ h
  constructor
  · intro mem
    obtain ⟨fragment, mem'⟩ := exists_mem_of_mem_names (settled.known _ mem).1
    exact ⟨fragment, mem', expanded mem mem'⟩
  · rintro ⟨fragment, mem', h⟩
    obtain ⟨text', mem⟩ := exists_mem_of_mem_names (settled.names_eq.symm ▸ mem_names_of_mem mem')
    exact h.functional well (expanded mem mem') ▸ mem

/-! ## Expansion of tables -/

theorem returns_check {settings : Settings} {names : List Text} {text : Text} (place : String)
    (lenient : settings.isStrict = false ∨ ∀ name ∈ references text, name ∈ names) :
    Returns (check settings names text place) ⟨⟩ := by
  refine returns_forM fun name mem => ?_
  split
  · exact returns_pure _
  · rename_i undefined
    split
    · rename_i strict
      rcases lenient with loose | defined
      · exact absurd strict (by simp [loose])
      · exact absurd (List.contains_iff_mem.2 (defined name mem)) undefined
    · exact fun _ => rfl

theorem expand_settled (settings : Settings) (well : macros.WellNamed) (acyclic : macros.Acyclic)
    (lenient : settings.isStrict = false ∨
      ∀ entry ∈ macros, ∀ name ∈ references entry.2, name ∈ macros.names) :
    ∃ table, Returns (expand settings macros) table ∧ Settled macros table := by
  rw [expand]
  split
  · rename_i empty
    obtain rfl := List.isEmpty_iff.1 empty
    exact ⟨[], returns_pure [], rfl, by simp, by simp [Unreferring]⟩
  · have enough : macros.length ≤ 0 + macros.length := Nat.le_add_left ..
    obtain ⟨table, passes, ended, settled⟩ := settle?_of_acyclic well acyclic 0 (progress_zero well acyclic) enough
    refine ⟨table, ?_, settled⟩
    rw [cycle?_of_acyclic acyclic]
    refine (returns_forM fun entry mem => ?_).bind ?_
    · exact returns_check _ (lenient.imp_right fun defined => defined entry mem)
    · rw [ended]
      exact Returns.bind (fun _ => rfl) (returns_pure table)

/-! ## The order of declarations -/

theorem mem_names_perm {other : Macros} (perm : other.Perm macros) {name : Text} :
    name ∈ other.names ↔ name ∈ macros.names :=
  (perm.map Prod.fst).mem_iff

theorem WellNamed.perm (well : macros.WellNamed) {other : Macros} (perm : other.Perm macros) : other.WellNamed where
  nodup := (perm.map Prod.fst).nodup_iff.2 well.nodup
  named name mem := well.named name ((mem_names_perm perm).1 mem)

theorem refers_perm {other : Macros} (perm : other.Perm macros) : other.Refers = macros.Refers := by
  funext name target
  simp only [Refers, perm.mem_iff, mem_names_perm perm]

theorem Expands.perm {other : Macros} (perm : other.Perm macros) {text expansion : Text}
    (h : Expands macros text expansion) : Expands other text expansion := by
  induction h with
  | nil => exact .nil
  | char plain _ ih => exact .char (fun name mem => plain name ((mem_names_perm perm).1 mem)) ih
  | reference mem _ _ ihInner ih => exact .reference (perm.mem_iff.2 mem) ihInner ih

theorem Settled.nodup (well : macros.WellNamed) {table : Macros} (settled : Settled macros table) : table.Nodup :=
  List.Nodup.of_map Prod.fst (settled.names_eq ▸ well.nodup : table.names.Nodup)

theorem Settled.perm (well : macros.WellNamed) (acyclic : macros.Acyclic) {other table table' : Macros}
    (perm : other.Perm macros) (acyclic' : other.Acyclic) (settled : Settled macros table)
    (settled' : Settled other table') :
    table'.Perm table ∧ ∀ pattern, table'.substitute pattern = table.substitute pattern := by
  have well' := well.perm perm
  constructor
  · rw [List.perm_ext_iff_of_nodup (settled'.nodup well') (settled.nodup well)]
    rintro ⟨name, text⟩
    rw [settled'.mem_iff well' acyclic', settled.mem_iff well acyclic]
    constructor
    · rintro ⟨fragment, mem, h⟩
      exact ⟨fragment, perm.mem_iff.1 mem, h.perm perm.symm⟩
    · rintro ⟨fragment, mem, h⟩
      exact ⟨fragment, perm.mem_iff.2 mem, h.perm perm⟩
  · intro pattern
    have expanded := (settled.expands_iff well acyclic pattern _).2 rfl
    exact ((settled'.expands_iff well' acyclic' pattern _).1 (expanded.perm perm)).symm

/-! ## The statement -/

/-- Expanding an acyclic table succeeds and replaces placeholders as the rules of expansion say, in the fragments
of the table and, with the expanded table, in any pattern. No placeholder of a macro is left, and the order in
which the macros are declared makes no difference. -/
theorem expand_acyclic (settings : Settings) (macros : Macros) (well : macros.WellNamed) (acyclic : macros.Acyclic)
    (lenient : settings.isStrict = false ∨
      ∀ entry ∈ macros, ∀ name ∈ references entry.2, name ∈ macros.names) :
    ∃ table, (expand settings macros).outcome = .ok table ∧ table.names = macros.names ∧
      (∀ name text, (name, text) ∈ table ↔
        ∃ fragment, (name, fragment) ∈ macros ∧ Expands macros fragment text) ∧
      (∀ pattern text, Expands macros pattern text ↔ text = table.substitute pattern) ∧
      Unreferring macros table ∧
      (∀ pattern, ∀ name ∈ macros.names, ¬ Occurs name (table.substitute pattern)) ∧
      ∀ reordered, reordered.Perm macros → ∃ table', (expand settings reordered).outcome = .ok table' ∧
        table'.Perm table ∧ ∀ pattern, table'.substitute pattern = table.substitute pattern := by
  obtain ⟨table, ended, settled⟩ := expand_settled settings well acyclic lenient
  refine ⟨table, ended [], settled.names_eq, settled.mem_iff well acyclic, settled.expands_iff well acyclic,
    settled.unreferring, settled.substitute_unreferring well, ?_⟩
  intro reordered perm
  have acyclic' : reordered.Acyclic := by
    rw [Acyclic, refers_perm perm]
    exact acyclic
  have lenient' := lenient.imp_right fun defined entry mem name found =>
    (mem_names_perm perm).2 (defined entry (perm.mem_iff.1 mem) name found)
  obtain ⟨table', ended', settled'⟩ := expand_settled settings (well.perm perm) acyclic' lenient'
  exact ⟨table', ended' [], settled.perm well acyclic perm acyclic' settled'⟩

def nested : Macros :=
  [("NUM".toList, "{INT}(\\.{INT}|{EXP}){UNIT}".toList), ("EXP".toList, "[eE]{INT}".toList),
    ("INT".toList, "{D}\x7b1,3\x7d".toList), ("D".toList, "[0-9]".toList)]

theorem expand_acyclic_nested :
    nested.WellNamed ∧ nested.Acyclic ∧ ∃ table, (expand {} nested).outcome = .ok table ∧
      ∀ text, Expands nested "-?{NUM}".toList text ↔ text = table.substitute "-?{NUM}".toList := by
  have well : nested.WellNamed := ⟨by decide, by decide +kernel⟩
  have acyclic : nested.Acyclic := acyclic_of_rank (fun name => 4 - nested.names.idxOf name) (by decide +kernel)
  obtain ⟨table, ended, -, -, patterns, -⟩ := expand_acyclic {} nested well acyclic (Or.inl rfl)
  exact ⟨well, acyclic, table, ended, patterns _⟩

end LexGen.Macros
