import LexGen.Proofs.Macros.Cycles
import Mathlib.Data.List.Chain

/-!
# The search for a cycle

The search follows references from macro to macro. It keeps the macros on its way and those that it is done with,
and it stops where its way comes back to itself. Its rules are told here without a bound on the length of the way;
the way consists of different macros, so that the bound is never reached.

* `searches_cycle?`: the search comes to an end, and what it comes to is what `cycle?` yields.
* `finds_exactly_cycles`: a cycle is found exactly if there is one, and what is found is a cycle.
-/

namespace LexGen.Macros

variable {macros : Macros}

/-! ## The rules of the search -/

/-- Following the given names, one after the other, comes to a cycle, or else to the macros that lead to none.
`path` holds the macros on the way, the last one first, and `done` those that are done with. -/
inductive Searches (macros : Macros) :
    (path done names : List Text) → Except (List Text) (List Text) → Prop
  | nil {path done : List Text} : Searches macros path done [] (.ok done)
  | closes {path done names : List Text} {name : Text} (onPath : name ∈ path) :
    Searches macros path done (name :: names) (.error (name :: (path.takeWhile (· != name)).reverse ++ [name]))
  | passes {path done names : List Text} {name : Text} {result : Except (List Text) (List Text)}
    (fresh : name ∉ path) (passed : name ∈ done) (others : Searches macros path done names result) :
    Searches macros path done (name :: names) result
  | fails {path done names cycle : List Text} {name : Text} (fresh : name ∉ path) (new : name ∉ done)
    (followed : Searches macros (name :: path) done (macros.successors name) (.error cycle)) :
    Searches macros path done (name :: names) (.error cycle)
  | leaves {path done between names : List Text} {name : Text} {result : Except (List Text) (List Text)}
    (fresh : name ∉ path) (new : name ∉ done)
    (followed : Searches macros (name :: path) done (macros.successors name) (.ok between))
    (others : Searches macros path (name :: between) names result) :
    Searches macros path done (name :: names) result

/-- A way of different macros is no longer than the table, so that a visit with enough fuel follows the rules. -/
theorem searches_foldlM {fuel : Nat} {path done names : List Text} (distinct : path.Nodup)
    (among : path ⊆ macros.names) (enough : macros.length < path.length + fuel) (known : names ⊆ macros.names) :
    Searches macros path done names (names.foldlM (visit macros fuel path) done) := by
  induction fuel generalizing path done names with
  | zero =>
    have few : path.length ≤ macros.names.length := (List.subperm_of_subset distinct among).length_le
    rw [Macros.names, List.length_map] at few
    omega
  | succ fuel ih =>
    induction names generalizing done with
    | nil => exact .nil
    | cons name names others =>
      obtain ⟨first, known⟩ := List.cons_subset.1 known
      rw [List.foldlM_cons, visit]
      split
      · rename_i onPath
        exact .closes (List.contains_iff_mem.1 onPath)
      · rename_i fresh
        have fresh : name ∉ path := fun mem => fresh (List.contains_iff_mem.2 mem)
        split
        · rename_i passed
          exact .passes fresh (List.contains_iff_mem.1 passed) (others known)
        · rename_i new
          have new : name ∉ done := fun mem => new (List.contains_iff_mem.2 mem)
          have followed : Searches macros (name :: path) done (macros.successors name)
              ((macros.successors name).foldlM (visit macros fuel (name :: path)) done) :=
            ih (List.nodup_cons.2 ⟨fresh, distinct⟩) (List.cons_subset.2 ⟨first, among⟩)
              (by rw [List.length_cons]; omega) fun other mem => (refers_of_mem_successors mem).target_mem
          cases ended : (macros.successors name).foldlM (visit macros fuel (name :: path)) done with
          | error cycle => exact .fails fresh new (ended ▸ followed)
          | ok between => exact .leaves fresh new (ended ▸ followed) (others known)

theorem searches_cycle? (macros : Macros) :
    ∃ result, Searches macros [] [] macros.names result ∧
      ∀ cycle, macros.cycle? = some cycle ↔ result = .error cycle := by
  have searched : Searches macros [] [] macros.names (macros.names.foldlM (visit macros (macros.length + 1) []) []) :=
    searches_foldlM List.nodup_nil (List.nil_subset _) (by simp) (List.Subset.refl _)
  refine ⟨_, searched, fun cycle => ?_⟩
  rw [cycle?]
  split
  · rename_i ended
    simp [ended]
  · rename_i ended
    simp [ended]

/-! ## What is found -/

/-- Names of macros of which each refers to the next one, and the last one is the first. -/
structure IsCycle (macros : Macros) (cycle : List Text) : Prop where
  two_le_length : 2 ≤ cycle.length
  known : cycle ⊆ macros.names
  closed : cycle.head? = cycle.getLast?
  distinct : cycle.dropLast.Nodup
  edges : cycle.IsChain macros.Refers

/-- The way leads from each macro to the one before it in the list, and its last macro to the given ones. -/
structure Leads (macros : Macros) (path names : List Text) : Prop where
  distinct : path.Nodup
  among : path ⊆ macros.names
  edges : path.IsChain fun other name => macros.Refers name other
  known : names ⊆ macros.names
  next : ∀ last ∈ path.head?, ∀ name ∈ names, macros.Refers last name

theorem Leads.tail {path names : List Text} {name : Text} (leads : macros.Leads path (name :: names)) :
    macros.Leads path names where
  distinct := leads.distinct
  among := leads.among
  edges := leads.edges
  known := fun _ mem => leads.known (List.mem_cons_of_mem _ mem)
  next := fun last found other mem => leads.next last found other (List.mem_cons_of_mem _ mem)

theorem Leads.follow {path names : List Text} {name : Text} (leads : macros.Leads path (name :: names))
    (fresh : name ∉ path) : macros.Leads (name :: path) (macros.successors name) where
  distinct := List.nodup_cons.2 ⟨fresh, leads.distinct⟩
  among := List.cons_subset.2 ⟨leads.known List.mem_cons_self, leads.among⟩
  edges := List.isChain_cons.2 ⟨fun last found => leads.next last found name List.mem_cons_self, leads.edges⟩
  known := fun _ mem => (refers_of_mem_successors mem).target_mem
  next := by
    rintro last found other mem
    obtain rfl := Option.some.inj found
    exact refers_of_mem_successors mem

theorem Leads.closes {path names : List Text} {name : Text} (leads : macros.Leads path (name :: names))
    (onPath : name ∈ path) : macros.IsCycle (name :: (path.takeWhile (· != name)).reverse ++ [name]) := by
  have since : ∃ rest, path = path.takeWhile (· != name) ++ name :: rest := by
    obtain ⟨before, rest, rfl, other⟩ := List.eq_append_cons_of_mem onPath
    refine ⟨rest, ?_⟩
    have all : ∀ other ∈ before, (other != name) = true := fun other mem => bne_iff_ne.2 fun same => by
      subst same
      contradiction
    rw [List.takeWhile_append_of_pos all, List.takeWhile_cons_of_neg (by simp), List.append_nil]
  obtain ⟨rest, split⟩ := since
  generalize path.takeWhile (· != name) = since at split
  subst split
  have knownName : name ∈ macros.names := leads.known List.mem_cons_self
  have back : (name :: since.reverse).IsChain macros.Refers := by
    have whole : (since ++ [name] ++ rest).IsChain fun other name => macros.Refers name other := by
      simpa using leads.edges
    simpa using List.isChain_reverse.2 whole.left_of_append
  refine ⟨by simp, ?_, by rw [List.getLast?_concat]; rfl, ?_, ?_⟩
  · intro other mem
    rcases List.mem_append.1 mem with mem | mem
    · rcases List.mem_cons.1 mem with rfl | mem
      · exact knownName
      · exact leads.among (List.mem_append_left _ (List.mem_reverse.1 mem))
    · exact List.mem_singleton.1 mem ▸ knownName
  · rw [List.dropLast_concat, List.nodup_cons, List.mem_reverse, List.nodup_reverse]
    obtain ⟨nodup, -, apart⟩ := List.nodup_append.1 leads.distinct
    exact ⟨fun mem => apart name mem name List.mem_cons_self rfl, nodup⟩
  · refine List.isChain_append.2 ⟨back, List.isChain_singleton _, fun last found other mem => ?_⟩
    obtain rfl : name = other := by simpa using mem
    refine leads.next last ?_ name List.mem_cons_self
    cases since with
    | nil => exact found
    | cons latest since =>
      rw [List.reverse_cons, ← List.cons_append, List.getLast?_concat] at found
      exact found

theorem Searches.isCycle {path done names cycle : List Text} {result : Except (List Text) (List Text)}
    (h : Searches macros path done names result) (leads : macros.Leads path names) (found : result = .error cycle) :
    macros.IsCycle cycle := by
  induction h with
  | nil => cases found
  | closes onPath => exact Except.error.inj found ▸ leads.closes onPath
  | passes _ _ _ ih => exact ih leads.tail found
  | fails fresh _ _ ih => exact ih (leads.follow fresh) found
  | leaves _ _ _ _ _ ih => exact ih leads.tail found

theorem leads_names (macros : Macros) : macros.Leads [] macros.names where
  distinct := List.nodup_nil
  among := List.nil_subset _
  edges := List.isChain_nil
  known := List.Subset.refl _
  next := by simp

/-! ## The statement -/

/-- The search comes to an end for every table. It finds no cycle exactly if there is none, be it a macro that refers
to itself, and what it finds is a cycle. -/
theorem finds_exactly_cycles (macros : Macros) (unique : macros.names.Nodup) :
    (∃ result, Searches macros [] [] macros.names result ∧
      ∀ cycle, macros.cycle? = some cycle ↔ result = .error cycle) ∧
    (macros.cycle? = none ↔ macros.Acyclic) ∧
    ∀ cycle, macros.cycle? = some cycle → macros.IsCycle cycle := by
  refine ⟨searches_cycle? macros, ⟨acyclic_of_cycle? unique, cycle?_of_acyclic⟩, fun cycle found => ?_⟩
  obtain ⟨result, searched, same⟩ := searches_cycle? macros
  exact searched.isCycle (leads_names macros) ((same cycle).1 found)

/-- A table in which the search leaves a macro that leads to no cycle before it comes to one that does. -/
def detouring : Macros :=
  [("START".toList, "{LEAF}{LOOP}".toList), ("LEAF".toList, "x".toList), ("LOOP".toList, "{LEAF}{BACK}".toList),
    ("BACK".toList, "{LOOP}{START}".toList)]

theorem finds_exactly_cycles_detouring :
    detouring.names.Nodup ∧ detouring.cycle? = some ["LOOP".toList, "BACK".toList, "LOOP".toList] ∧
      detouring.IsCycle ["LOOP".toList, "BACK".toList, "LOOP".toList] := by
  have unique : detouring.names.Nodup := by decide
  have found : detouring.cycle? = some ["LOOP".toList, "BACK".toList, "LOOP".toList] := by rfl
  exact ⟨unique, found, (finds_exactly_cycles detouring unique).2.2 _ found⟩

end LexGen.Macros
