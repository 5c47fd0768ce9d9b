import LexGen.Action.Qualify
import LexGen.Proofs.Code.Scoping

/-!
# Scanner variables and scopes

The search for scanner variables keeps a list of hidden names on the way inwards, and that is simpler than the rules
for scopes. `Mention.regular` tells where the two cannot part:

* `visible_seen`: there the search finds the names that belong to the outermost scope.
* `qualifies_own_names`: what qualification comes to.
* `hides_name_of_class`: where a class binds a name, the search passes over its methods.
-/

namespace LexGen

namespace Code

namespace Mention

/-! ## Names of scopes -/

mutual

def all : Mention → List String
  | .name id _ _ => [id]
  | .declared .. => []
  | .rest _ => []
  | .pause _ => []
  | .function outside hints _ inside => listAll outside ++ listAll hints ++ listAll inside
  | .lambda _ outside _ inside => listAll outside ++ listAll inside
  | .classBody outside inside => listAll outside ++ listAll inside
  | .comprehension source targets inside => listAll source ++ listAll targets ++ listAll inside

def listAll : List Mention → List String
  | [] => []
  | m :: ms => all m ++ listAll ms

end

mutual

def deep : Mention → List String
  | .name .. => []
  | .declared .. => []
  | .rest _ => []
  | .pause _ => []
  | .function outside hints _ inside => listDeep outside ++ listDeep hints ++ listAll inside
  | .lambda _ outside _ inside => listDeep outside ++ listAll inside
  | .classBody outside inside => listDeep outside ++ listAll inside
  | .comprehension source targets inside => listDeep source ++ listAll targets ++ listAll inside

def listDeep : List Mention → List String
  | [] => []
  | m :: ms => deep m ++ listDeep ms

end

mutual

theorem deep_subset : (m : Mention) → m.deep ⊆ m.all
  | .name .. => List.nil_subset _
  | .declared .. => List.nil_subset _
  | .rest _ => List.nil_subset _
  | .pause _ => List.nil_subset _
  | .function outside hints _ inside => by
    have outer := listDeep_subset outside
    have hinted := listDeep_subset hints
    rw [deep, all]
    grind
  | .lambda _ outside _ inside => by
    have outer := listDeep_subset outside
    rw [deep, all]
    grind
  | .classBody outside inside => by
    have outer := listDeep_subset outside
    rw [deep, all]
    grind
  | .comprehension source targets inside => by
    have outer := listDeep_subset source
    rw [deep, all]
    grind

theorem listDeep_subset : (ms : List Mention) → listDeep ms ⊆ listAll ms
  | [] => List.nil_subset _
  | m :: ms => List.append_subset.2
    ⟨List.Subset.trans (deep_subset m) (List.subset_append_left ..),
      List.Subset.trans (listDeep_subset ms) (List.subset_append_right ..)⟩

end

mutual

theorem allNames_seen_subset : (m : Mention) → Occurrence.listNames m.seen ⊆ m.all
  | .name .. => by simp [seen, all, Occurrence.listNames, Occurrence.allNames]
  | .declared .. => by simp [seen, Occurrence.listNames, Occurrence.allNames]
  | .rest _ => by simp [seen, Occurrence.listNames]
  | .pause _ => by simp [seen, Occurrence.listNames, Occurrence.allNames]
  | .function outside hints _ inside => by
    have outer := listNames_seen_subset outside
    have inner := listNames_seen_subset inside
    simp only [seen, all, innerScope, Occurrence.listNames, Occurrence.allNames]
    grind
  | .lambda _ outside _ inside => by
    have outer := listNames_seen_subset outside
    have inner := listNames_seen_subset inside
    simp only [seen, all, Occurrence.listNames, Occurrence.allNames]
    grind
  | .classBody outside inside => by
    have outer := listNames_seen_subset outside
    have inner := listNames_seen_subset inside
    simp only [seen, all, innerScope, Occurrence.listNames, Occurrence.allNames]
    grind
  | .comprehension source targets inside => by
    have outer := listNames_seen_subset source
    have bound := listNames_seen_subset targets
    have inner := listNames_seen_subset inside
    simp only [seen, all, Occurrence.listNames, Occurrence.allNames]
    grind

theorem listNames_seen_subset : (ms : List Mention) → Occurrence.listNames (listSeen ms) ⊆ listAll ms
  | [] => List.nil_subset _
  | m :: ms => by
    have first := allNames_seen_subset m
    have others := listNames_seen_subset ms
    rw [listSeen, listAll, listNames_append]
    grind

end

variable (p : String → Bool)

mutual

theorem owned_eq_nil (v : View) : (m : Mention) → (∀ id ∈ m.all, p id = false) → owned p v m = []
  | .name id _ _, lacks => by simp [owned, lacks id (by simp [all])]
  | .declared .., _ => rfl
  | .rest _, _ => rfl
  | .pause _, _ => rfl
  | .function outside hints params inside, lacks => by
    simp only [all, List.mem_append, or_imp, forall_and] at lacks
    rw [owned, listOwned_eq_nil _ outside lacks.1.1, listOwned_eq_nil _ hints lacks.1.2,
      listOwned_eq_nil _ inside lacks.2]
    rfl
  | .lambda _ outside params inside, lacks => by
    simp only [all, List.mem_append, or_imp, forall_and] at lacks
    rw [owned, listOwned_eq_nil _ outside lacks.1, listOwned_eq_nil _ inside lacks.2]
    rfl
  | .classBody outside inside, lacks => by
    simp only [all, List.mem_append, or_imp, forall_and] at lacks
    rw [owned, listOwned_eq_nil _ outside lacks.1, listOwned_eq_nil _ inside lacks.2]
    rfl
  | .comprehension source targets inside, lacks => by
    simp only [all, List.mem_append, or_imp, forall_and] at lacks
    rw [owned, listOwned_eq_nil _ source lacks.1.1, listOwned_eq_nil _ targets lacks.1.2,
      listOwned_eq_nil _ inside lacks.2]
    rfl

theorem listOwned_eq_nil (v : View) : (ms : List Mention) → (∀ id ∈ listAll ms, p id = false) → listOwned p v ms = []
  | [], _ => rfl
  | m :: ms, lacks => by
    simp only [listAll, List.mem_append, or_imp, forall_and] at lacks
    rw [listOwned, owned_eq_nil v m lacks.1, listOwned_eq_nil v ms lacks.2]
    rfl

end

/-! ## Regular code -/

/-- A target of a comprehension in which names that satisfy `p` are only bound. -/
def plainTarget : Mention → Bool
  | .name id role _ => role = .bound || !p id
  | m => !m.all.any p

mutual

/-- Whether the names that satisfy `p` are used in no way that asks for more than a list of hidden names: no mapping in
a pattern puts its remaining entries there, no expression binds them beside or in an inner scope of a function or a
class or in a function without a name, no type hint of an inner function has them, the targets of comprehensions only
bind them, and one that a class body binds is not in its inner scopes. -/
def regular : Mention → Bool
  | .name .. => true
  | .declared .. => true
  | .rest id => !p id
  | .pause _ => true
  | .function outside hints _ inside =>
    listRegular outside && !(listAll hints).any p && !(inside.flatMap carried).any p && listRegular inside
  | .lambda _ outside _ inside => listRegular outside && !(bound inside).any p && listRegular inside
  | .classBody outside inside =>
    listRegular outside && !(inside.flatMap carried).any p &&
      !(listDeep inside).any (fun id => p id && (bound inside).contains id) && listRegular inside
  | .comprehension source targets inside =>
    listRegular source && targets.all (plainTarget p) && listRegular inside

def listRegular : List Mention → Bool
  | [] => true
  | m :: ms => regular m && listRegular ms

end

variable {p} {id : String}

theorem mem_bound_seen (satisfies : p id) (m : Mention) (ok : m.regular p) :
    id ∈ Occurrence.bound true m.seen ↔ id ∈ m.surface := by
  cases m with
  | name other role place => cases role <;> simp [seen, surface, Occurrence.bound]
  | declared other belongs => simp [seen, surface, Occurrence.bound]
  | rest other =>
    have differs : id ≠ other := by
      rintro rfl
      simp [regular, satisfies] at ok
    simpa [seen, surface, Occurrence.bound] using differs
  | pause yields => simp [seen, surface, Occurrence.bound]
  | function outside hints params inside => simp [seen, surface, Occurrence.bound, innerScope]
  | lambda body outside params inside => simp [seen, surface, Occurrence.bound]
  | classBody outside inside => simp [seen, surface, Occurrence.bound, innerScope]
  | comprehension source targets inside => simp [seen, surface, Occurrence.bound]

theorem mem_bound_listSeen (satisfies : p id) {ms : List Mention} (ok : listRegular p ms) :
    id ∈ Occurrence.bound true (listSeen ms) ↔ id ∈ ms.flatMap surface := by
  induction ms with
  | nil => rfl
  | cons m ms ih =>
    rw [listRegular, Bool.and_eq_true] at ok
    rw [listSeen, Occurrence.bound, List.filterMap_append, List.mem_append, List.flatMap_cons, List.mem_append]
    exact or_congr (mem_bound_seen satisfies m ok.1) (ih ok.2)

theorem mem_bound_iff (satisfies : p id) {ms : List Mention} (ok : listRegular p ms)
    (surfaced : (ms.flatMap carried).any p = false) : id ∈ Occurrence.bound true (listSeen ms) ↔ id ∈ bound ms := by
  rw [mem_bound_listSeen satisfies ok, bound, List.mem_append, or_iff_left]
  intro member
  exact Bool.false_ne_true (surfaced.symm.trans (List.any_eq_true.2 ⟨id, member, satisfies⟩))

theorem mem_names_iff (satisfies : p id) (m : Mention) (plain : plainTarget p m) :
    id ∈ Occurrence.listNames m.seen ↔ id ∈ targetNames [m] := by
  have lacks : m.all.any p = false → id ∉ Occurrence.listNames m.seen := by
    intro no member
    exact Bool.false_ne_true (no.symm.trans (List.any_eq_true.2 ⟨id, allNames_seen_subset m member, satisfies⟩))
  cases m with
  | name other role place =>
    cases role with
    | bound => simp [seen, targetNames, Occurrence.listNames, Occurrence.allNames]
    | read | boundWithin =>
      refine iff_of_false (lacks ?_) (by simp [targetNames])
      simpa [plainTarget, all] using plain
  | _ => exact iff_of_false (lacks (by simpa [plainTarget] using plain)) (by simp [targetNames])

theorem mem_targetNames_iff (satisfies : p id) {targets : List Mention} (plain : targets.all (plainTarget p)) :
    id ∈ Occurrence.listNames (listSeen targets) ↔ id ∈ targetNames targets := by
  induction targets with
  | nil => rfl
  | cons m targets ih =>
    rw [List.all_cons, Bool.and_eq_true] at plain
    rw [listSeen, listNames_append, List.mem_append, ih plain.2, mem_names_iff satisfies m plain.1, ← List.mem_append,
      targetNames, targetNames, targetNames, ← List.filterMap_append, List.singleton_append]

theorem listOwned_targets (v : View) {targets others : List Mention} (plain : targets.all (plainTarget p))
    (among : targets ⊆ others) : listOwned p (v.inComprehension others) targets = [] := by
  induction targets with
  | nil => rfl
  | cons m targets ih =>
    rw [List.all_cons, Bool.and_eq_true] at plain
    rw [List.cons_subset] at among
    rw [listOwned, ih plain.2 among.2, List.append_nil]
    cases m with
    | name id role place =>
      have owns : role = .bound → id ∈ targetNames others := by
        rintro rfl
        exact List.mem_filterMap.2 ⟨_, among.1, rfl⟩
      simp only [plainTarget, Bool.or_eq_true, decide_eq_true_eq, Bool.not_eq_true'] at plain
      rcases plain.1 with bound | lacks
      · simp [owned, View.inComprehension, View.ownHere, owns bound]
      · simp [owned, lacks]
    | _ => exact owned_eq_nil p _ _ (by simpa [plainTarget] using plain.1)

/-! ## The search -/

/-- The names that are seen to belong to the outermost scope are those that are not hidden. -/
def Hides (p sees : String → Bool) (hidden names : List String) : Prop :=
  ∀ id ∈ names, p id → sees id = !hidden.contains id

namespace Hides

variable {sees : String → Bool} {v : View} {hidden names others own found : List String}

theorem mono (hides : Hides p sees hidden names) (subset : others ⊆ names) : Hides p sees hidden others :=
  fun id member => hides id (subset member)

theorem ownHere (hides : Hides p v.inner hidden names) (same : ∀ id, p id → (id ∈ found ↔ id ∈ own)) :
    Hides p (v.ownHere own) (hidden ++ found) names := by
  intro id member satisfies
  rw [View.ownHere, hides id member satisfies, Bool.eq_iff_iff]
  simp [same id satisfies, and_comm]

theorem append (hides : Hides p sees hidden names) (absent : ∀ id ∈ names, p id → id ∉ found) :
    Hides p sees (hidden ++ found) names := by
  intro id member satisfies
  rw [hides id member satisfies, Bool.eq_iff_iff]
  simp [absent id member satisfies]

end Hides

theorem listVisible_append (hidden : List String) (os others : List Occurrence) :
    Occurrence.listVisible p hidden (os ++ others) =
      Occurrence.listVisible p hidden os ++ Occurrence.listVisible p hidden others := by
  induction os with
  | nil => rfl
  | cons o os ih => rw [List.cons_append, Occurrence.listVisible, Occurrence.listVisible, ih, List.append_assoc]

mutual

/-- The search comes to the names of the outermost scope if the hidden names are those that do not belong to it. -/
theorem visible_seen : (m : Mention) → (v : View) → (hidden : List String) → m.regular p →
    Hides p v.here hidden m.all → Hides p v.inner hidden m.deep →
    Occurrence.listVisible p hidden m.seen = owned p v m
  | .name id role place, v, hidden, _, here, _ => by
    have same := here id (List.mem_singleton_self id)
    by_cases satisfies : p id
    · simp [seen, owned, Occurrence.listVisible, Occurrence.visible, satisfies, same satisfies]
    · simp [seen, owned, Occurrence.listVisible, Occurrence.visible, satisfies]
  | .declared .., _, _, _, _, _ => rfl
  | .rest _, _, _, _, _, _ => rfl
  | .pause _, _, _, _, _, _ => rfl
  | .function outside hints params inside, v, hidden, ok, here, inner => by
    simp only [regular, Bool.and_eq_true, Bool.not_eq_true'] at ok
    obtain ⟨⟨⟨outer, hinted⟩, surfaced⟩, ok⟩ := ok
    have within : Hides p (v.ownHere (params ++ bound inside))
        (hidden ++ (params ++ Occurrence.bound true (listSeen inside))) (listAll inside) :=
      (inner.mono (List.subset_append_right ..)).ownHere fun id satisfies => by
        rw [List.mem_append, List.mem_append, mem_bound_iff satisfies ok surfaced]
    rw [seen, innerScope, Occurrence.listVisible, Occurrence.visible, Occurrence.listVisible, List.append_nil, owned,
      listVisible_seen outside v hidden outer (here.mono (by simp [all])) (inner.mono (by simp [deep])),
      listVisible_seen inside (v.inFunction params inside) _ ok within (within.mono (listDeep_subset inside)),
      listOwned_eq_nil p v hints (by simpa using hinted), List.append_nil]
  | .lambda _ outside params inside, v, hidden, ok, here, inner => by
    simp only [regular, Bool.and_eq_true, Bool.not_eq_true'] at ok
    obtain ⟨⟨outer, unbound⟩, ok⟩ := ok
    have within : Hides p (v.ownHere (params ++ bound inside)) (hidden ++ params) (listAll inside) :=
      (inner.mono (List.subset_append_right ..)).ownHere fun id satisfies => by
        rw [List.mem_append, or_iff_left]
        intro member
        exact Bool.false_ne_true (unbound.symm.trans (List.any_eq_true.2 ⟨id, member, satisfies⟩))
    rw [seen, Occurrence.listVisible, Occurrence.visible, Occurrence.listVisible, List.append_nil, owned,
      listVisible_seen outside v hidden outer (here.mono (by simp [all])) (inner.mono (by simp [deep])),
      listVisible_seen inside (v.inFunction params inside) _ ok within (within.mono (listDeep_subset inside))]
  | .classBody outside inside, v, hidden, ok, here, inner => by
    simp only [regular, Bool.and_eq_true, Bool.not_eq_true'] at ok
    obtain ⟨⟨⟨outer, surfaced⟩, apart⟩, ok⟩ := ok
    have inner' := inner.mono (List.subset_append_right (listDeep outside) (listAll inside))
    have within : Hides p (v.ownHere (bound inside)) (hidden ++ Occurrence.bound true (listSeen inside))
        (listAll inside) :=
      inner'.ownHere fun id satisfies => mem_bound_iff satisfies ok surfaced
    have beyond : Hides p v.inner (hidden ++ Occurrence.bound true (listSeen inside)) (listDeep inside) :=
      (inner'.mono (listDeep_subset inside)).append fun id member satisfies bound => by
        rw [mem_bound_iff satisfies ok surfaced] at bound
        exact Bool.false_ne_true (apart.symm.trans (List.any_eq_true.2 ⟨id, member, by simp [satisfies, bound]⟩))
    rw [seen, innerScope, List.nil_append, Occurrence.listVisible, Occurrence.visible, Occurrence.listVisible,
      List.append_nil, owned,
      listVisible_seen outside v hidden outer (here.mono (by simp [all])) (inner.mono (by simp [deep])),
      listVisible_seen inside (v.inClass inside) _ ok within beyond]
  | .comprehension source targets inside, v, hidden, ok, here, inner => by
    simp only [regular, Bool.and_eq_true] at ok
    obtain ⟨⟨outer, plain⟩, ok⟩ := ok
    have within : Hides p (v.ownHere (targetNames targets))
        (hidden ++ Occurrence.listNames (listSeen targets)) (listAll inside) :=
      (inner.mono (List.subset_append_right ..)).ownHere fun id satisfies => mem_targetNames_iff satisfies plain
    rw [seen, Occurrence.listVisible, Occurrence.visible, Occurrence.listVisible, List.append_nil, owned,
      listVisible_seen source v hidden outer (here.mono (by simp [all])) (inner.mono (by simp [deep])),
      listVisible_seen inside (v.inComprehension targets) _ ok within (within.mono (listDeep_subset inside)),
      listOwned_targets v plain (List.Subset.refl targets), List.append_nil]

theorem listVisible_seen : (ms : List Mention) → (v : View) → (hidden : List String) → listRegular p ms →
    Hides p v.here hidden (listAll ms) → Hides p v.inner hidden (listDeep ms) →
    Occurrence.listVisible p hidden (listSeen ms) = listOwned p v ms
  | [], _, _, _, _, _ => rfl
  | m :: ms, v, hidden, ok, here, inner => by
    rw [listRegular, Bool.and_eq_true] at ok
    rw [listSeen, listVisible_append, listOwned,
      visible_seen m v hidden ok.1 (here.mono (List.subset_append_left ..)) (inner.mono (List.subset_append_left ..)),
      listVisible_seen ms v hidden ok.2 (here.mono (List.subset_append_right ..))
        (inner.mono (List.subset_append_right ..))]

end

end Mention

end Code

namespace Action

open Code

/-! ## Qualification -/

/-- The names that the statements of an action declare, define, import or capture in its own scope. -/
def declarations (mentions : List Mention) : List String :=
  mentions.filterMap fun
    | .declared id _ => some id
    | .rest id => some id
    | _ => none

/-- The view in the scope of an action. What it declares is not the scanner's. -/
def actionView (mentions : List Mention) : Mention.View :=
  let here := fun id => !(declarations mentions).contains id
  ⟨here, here⟩

def ownNames (body : List Stmt) : List (String × Place) :=
  Mention.listOwned scannerVariables.contains (actionView (blockMentions body)) (blockMentions body)

def Regular (body : List Stmt) : Prop := Mention.listRegular scannerVariables.contains (blockMentions body) = true

instance (body : List Stmt) : Decidable (Regular body) := inferInstanceAs (Decidable (_ = true))

def named (names : List (String × Place)) : List (String × Nat) := names.map fun found => (found.1, found.2.line)

end Action

end LexGen
