import LexGen.Proofs.Macros.Settling

/-!
# Tables that can be expanded

The search for a cycle is complete: a table in which it finds none is acyclic. The macros that it is done with
refer only to macros that it was done with before.

* `acyclic_of_cycle?`: a table in which no cycle is found has none.
* `expand_perm`: a table that can be expanded can be expanded in any order.
-/

namespace LexGen.Macros

variable {macros : Macros}

def Cleared (macros : Macros) : List Text → Prop
  | [] => True
  | name :: done => (∀ other, macros.Refers name other → other ∈ done) ∧ macros.Cleared done

theorem Cleared.closed {done : List Text} (cleared : macros.Cleared done) {name other : Text}
    (mem : name ∈ done) (path : Relation.TransGen macros.Refers name other) : other ∈ done := by
  have edge : ∀ {done name other}, macros.Cleared done → name ∈ done → macros.Refers name other → other ∈ done := by
    intro done
    induction done with
    | nil => exact fun _ mem => absurd mem List.not_mem_nil
    | cons first done ih =>
      intro name other cleared mem refers
      rcases List.mem_cons.1 mem with rfl | mem
      · exact List.mem_cons_of_mem _ (cleared.1 other refers)
      · exact List.mem_cons_of_mem _ (ih cleared.2 mem refers)
  induction path with
  | single refers => exact edge cleared mem refers
  | tail _ refers ih => exact edge cleared ih refers

theorem Cleared.not_cyclic {done : List Text} (cleared : macros.Cleared done) {name : Text} (mem : name ∈ done) :
    ¬ Relation.TransGen macros.Refers name name := by
  induction done with
  | nil => exact absurd mem List.not_mem_nil
  | cons first done ih =>
    intro cycle
    -- A cycle through the first macro leads through one that was cleared before it, and stays there.
    have inside : name ∈ done := by
      rcases List.mem_cons.1 mem with rfl | mem
      · obtain ⟨other, refers, rest⟩ := Relation.TransGen.head'_iff.1 cycle
        have before := cleared.1 other refers
        rcases Relation.reflTransGen_iff_eq_or_transGen.1 rest with same | path
        · exact same ▸ before
        · exact cleared.2.closed before path
      · exact mem
    exact ih cleared.2 inside cycle

theorem mem_successors_of_refers (unique : macros.names.Nodup) {name other : Text} (refers : macros.Refers name other) :
    other ∈ macros.successors name := by
  obtain ⟨fragment, mem, reference, known⟩ := refers
  have found : macros.lookup name = some fragment := by
    cases found : macros.lookup name with
    | none => exact absurd (List.lookup_eq_none_iff.1 found _ mem) (by simp)
    | some other =>
      obtain ⟨before, after, split, -⟩ := List.lookup_eq_some_iff.1 found
      have mem' : (name, other) ∈ macros := by simp [split]
      rw [fragment_unique unique mem mem']
  rw [successors, found]
  exact List.mem_filter.2 ⟨reference, List.contains_iff_mem.2 known⟩

/-- What a visit leaves: the macros that were done with before, the visited one and others, in an order in which
each refers only to those after it. -/
structure Clears (macros : Macros) (done : List Text) (names : List Text) (after : List Text) : Prop where
  cleared : macros.Cleared after
  kept : done ⊆ after
  visited : names ⊆ after

theorem clears_foldlM {f : List Text → Text → Except (List Text) (List Text)} {names : List Text}
    (each : ∀ name ∈ names, ∀ done after, macros.Cleared done → f done name = .ok after →
      macros.Clears done [name] after) {done after : List Text} (cleared : macros.Cleared done)
    (h : names.foldlM f done = .ok after) : macros.Clears done names after := by
  induction names generalizing done with
  | nil => exact ⟨Except.ok.inj h ▸ cleared, Except.ok.inj h ▸ List.Subset.refl _, List.nil_subset _⟩
  | cons name names ih =>
    rw [List.foldlM_cons] at h
    obtain ⟨between, first, h⟩ := ok_of_bind h
    have one := each name List.mem_cons_self done between cleared first
    have others := ih (fun name mem => each name (List.mem_cons_of_mem _ mem)) one.cleared h
    refine ⟨others.cleared, List.Subset.trans one.kept others.kept, List.cons_subset.2 ⟨?_, others.visited⟩⟩
    exact others.kept (one.visited List.mem_cons_self)

theorem clears_visit (unique : macros.names.Nodup) (fuel : Nat) {path done after : List Text} {name : Text}
    (distinct : path.Nodup) (among : path ⊆ macros.names) (enough : macros.length < path.length + fuel)
    (known : name ∈ macros.names) (cleared : macros.Cleared done)
    (h : visit macros fuel path done name = .ok after) : macros.Clears done [name] after := by
  induction fuel generalizing path done after name with
  | zero =>
    have few : path.length ≤ macros.names.length := (List.subperm_of_subset distinct among).length_le
    rw [names, List.length_map] at few
    omega
  | succ fuel ih =>
    rw [visit] at h
    split at h
    · cases h
    · rename_i fresh
      split at h
      · rename_i passed
        obtain rfl := Except.ok.inj h
        exact ⟨cleared, List.Subset.refl _, List.cons_subset.2 ⟨List.contains_iff_mem.1 passed, List.nil_subset _⟩⟩
      · obtain ⟨between, followed, h⟩ := ok_of_bind h
        obtain rfl := Except.ok.inj h
        have fresh : name ∉ path := fun mem => fresh (List.contains_iff_mem.2 mem)
        have followed := clears_foldlM (fun next mem done after cleared visited =>
          ih (List.nodup_cons.2 ⟨fresh, distinct⟩) (List.cons_subset.2 ⟨known, among⟩)
            (by rw [List.length_cons]; omega) (refers_of_mem_successors mem).target_mem cleared visited)
          cleared followed
        refine ⟨⟨fun other refers => ?_, followed.cleared⟩, ?_, ?_⟩
        · exact followed.visited (mem_successors_of_refers unique refers)
        · exact fun other mem => List.mem_cons_of_mem _ (followed.kept mem)
        · exact List.cons_subset.2 ⟨List.mem_cons_self, List.nil_subset _⟩

theorem acyclic_of_cycle? (unique : macros.names.Nodup) (none : macros.cycle? = none) : macros.Acyclic := by
  unfold cycle? at none
  split at none
  · rename_i done searched
    have clears : macros.Clears [] macros.names done :=
      clears_foldlM (fun name mem done after cleared visited =>
        clears_visit unique (macros.length + 1) List.nodup_nil (List.nil_subset _) (by simp) mem cleared visited)
        trivial searched
    intro name cycle
    have known : name ∈ macros.names := by
      obtain ⟨before, -, refers⟩ := Relation.TransGen.tail'_iff.1 cycle
      exact refers.target_mem
    exact clears.cleared.not_cyclic (clears.visited known) cycle
  · cases none

/-! ## Tables in another order -/

theorem lenient_of_check {settings : Settings} {names : List Text} {text : Text} {place : String}
    (h : MayReturn (check settings names text place) ⟨⟩) :
    settings.isStrict = false ∨ ∀ name ∈ references text, name ∈ names := by
  rw [or_iff_not_imp_left]
  intro strict name mem
  have passed := h.of_forM name mem
  split at passed
  · rename_i known
    exact List.contains_iff_mem.1 known
  · rw [if_pos (Bool.not_eq_false _ ▸ strict)] at passed
    exact absurd passed not_mayReturn_throw

/-- A table that has been expanded has no cycle, and its references are defined if they have to be. -/
theorem of_expand {settings : Settings} (well : macros.WellNamed) {table : Macros}
    (h : MayReturn (expand settings macros) table) :
    macros.Acyclic ∧ (settings.isStrict = false ∨
      ∀ entry ∈ macros, ∀ name ∈ references entry.2, name ∈ macros.names) := by
  unfold expand at h
  split at h
  · rename_i empty
    obtain rfl := List.isEmpty_iff.1 empty
    exact ⟨acyclic_of_rank (fun _ => 0) (by simp), Or.inr (by simp)⟩
  · split at h
    · exact absurd h not_mayReturn_throw
    · rename_i none
      obtain ⟨_, checked, -⟩ := h.of_bind
      refine ⟨acyclic_of_cycle? well.nodup none, ?_⟩
      rw [or_iff_not_imp_left]
      intro strict entry mem
      exact (lenient_of_check (checked.of_forM entry mem)).resolve_left strict

theorem expand_perm {settings : Settings} (well : macros.WellNamed) {table : Macros}
    (h : MayReturn (expand settings macros) table) {other : Macros} (perm : other.Perm macros) :
    ∃ table', Returns (expand settings other) table' ∧ table'.Perm table ∧
      ∀ pattern, table'.substitute pattern = table.substitute pattern := by
  obtain ⟨acyclic, lenient⟩ := of_expand well h
  obtain ⟨first, returned, settled⟩ := expand_settled settings well acyclic lenient
  obtain rfl := returned.eq_of_mayReturn h
  have acyclic' : other.Acyclic := by
    rw [Acyclic, refers_perm perm]
    exact acyclic
  have lenient' := lenient.imp_right fun defined entry mem name found =>
    (mem_names_perm perm).2 (defined entry (perm.mem_iff.1 mem) name found)
  obtain ⟨table', returned', settled'⟩ := expand_settled settings (well.perm perm) acyclic' lenient'
  exact ⟨table', returned', settled.perm well acyclic perm acyclic' settled'⟩

end LexGen.Macros
