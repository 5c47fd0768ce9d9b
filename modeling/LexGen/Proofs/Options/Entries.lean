import LexGen.Proofs.Json.RoundTrip
import LexGen.Proofs.Options.Reading

/-!
# Options as entries

Options are kept as the entries that differ from the defaults. The entries can be read in any order: every known
option is found by its name, and the others are kept.

* `ofEntries_of_perm`: the entries are read as the options that they were made of.
-/

namespace LexGen.Options

open Json (Keyed Plain canonical)

variable {options : Options}

/-! ## Looking options up -/

def knownEntries (options : Options) : List (Value × Value) := { options with extra := [] }.toEntries

theorem toEntries_eq (options : Options) : options.toEntries = options.extra ++ options.knownEntries := by
  simp only [knownEntries, toEntries, List.nil_append, List.append_assoc]

theorem get?_knownEntries (options : Options) :
    Value.get? options.knownEntries "case-insensitive" =
      (if options.caseInsensitive then some (.bool true) else none) ∧
    Value.get? options.knownEntries "flex" = (if options.flex then some (.bool true) else none) ∧
    Value.get? options.knownEntries "backtrack_lexer" = (if options.backtracking then some (.bool true) else none) ∧
    Value.get? options.knownEntries "ranges" = (if options.ranges then some (.bool true) else none) ∧
    Value.get? options.knownEntries "moduleType" =
      (if options.convention = .bare then none else some (.str options.convention.name)) ∧
    Value.get? options.knownEntries "moduleName" =
      (if options.moduleName = "lexer" then none else some (.str options.moduleName)) := by
  refine ⟨?_, ?_, ?_, ?_, ?_, ?_⟩ <;>
    simp [knownEntries, toEntries, Value.get?_append, Value.get?_if, Value.get?_unless]

theorem truthy_switch (on : Bool) :
    ((if on then some (Value.bool true) else none).map Value.truthy).getD false = on := by
  cases on <;> rfl

/-! ## Reading entries in any order -/

def isKnown (key : Value) : Bool :=
  match key with
  | .str name => knownNames.contains name
  | _ => false

/-- What entries with distinct names are read as, when their convention and their module name can be read. -/
theorem foldlM_readEntry {entries : List (Value × Value)} (keyed : Keyed entries) {convention : Convention}
    {moduleName : String}
    (conventions : ∀ v, (.str "moduleType", v) ∈ entries → Convention.ofValue v = .ok convention)
    (moduleNames : ∀ v, (.str "moduleName", v) ∈ entries → readModuleName v = .ok moduleName) (options : Options) :
    entries.foldlM readEntry options = .ok {
      caseInsensitive := ((Value.get? entries "case-insensitive").map Value.truthy).getD options.caseInsensitive
      flex := ((Value.get? entries "flex").map Value.truthy).getD options.flex
      backtracking := ((Value.get? entries "backtrack_lexer").map Value.truthy).getD options.backtracking
      ranges := ((Value.get? entries "ranges").map Value.truthy).getD options.ranges
      convention := ((Value.get? entries "moduleType").map fun _ => convention).getD options.convention
      moduleName := ((Value.get? entries "moduleName").map fun _ => moduleName).getD options.moduleName
      extra := options.extra ++ entries.filter fun entry => !isKnown entry.1 } := by
  induction entries generalizing options with
  | nil => simp; rfl
  | cons entry entries ih =>
    obtain ⟨key, v⟩ := entry
    obtain ⟨name, rfl⟩ : ∃ name, key = .str name := keyed.named _ List.mem_cons_self
    -- What is read under a name is not overwritten by the entries after it.
    have absent : Value.get? entries name = none := by
      refine Value.get?_eq_none fun other mem same => ?_
      exact (List.nodup_cons.1 keyed.distinct).1 (List.mem_map.2 ⟨other, mem, same⟩)
    have rest := ih keyed.tail (fun v mem => conventions v (List.mem_cons_of_mem _ mem))
      (fun v mem => moduleNames v (List.mem_cons_of_mem _ mem))
    rw [List.foldlM_cons]
    unfold readEntry
    split
    case h_5 v same =>
      obtain ⟨key, rfl⟩ := Prod.mk.inj same
      obtain rfl := Value.str.inj key
      rw [conventions _ List.mem_cons_self]
      refine (rest _).trans ?_
      simp [Value.get?_cons, absent, isKnown, knownNames]
    case h_6 v same =>
      obtain ⟨key, rfl⟩ := Prod.mk.inj same
      obtain rfl := Value.str.inj key
      rw [moduleNames _ List.mem_cons_self]
      refine (rest _).trans ?_
      simp [Value.get?_cons, absent, isKnown, knownNames]
    case h_7 key v _ _ _ _ _ _ same =>
      obtain ⟨rfl, rfl⟩ := Prod.mk.inj same
      refine (rest _).trans ?_
      simp_all [Value.get?_cons, isKnown, knownNames]
    all_goals
      rename_i same
      obtain ⟨key, rfl⟩ := Prod.mk.inj same
      obtain rfl := Value.str.inj key
      refine (rest _).trans ?_
      simp [Value.get?_cons, absent, isKnown, knownNames]

/-! ## Reading what options are kept as -/

theorem scalar_of_mem_knownEntries {entry : Value × Value} (mem : entry ∈ options.knownEntries) :
    entry.2 = .bool true ∨ ∃ s, entry.2 = .str s := by
  simp [knownEntries, toEntries] at mem
  rcases mem with ⟨-, rfl⟩ | ⟨-, rfl⟩ | ⟨-, rfl⟩ | ⟨-, rfl⟩ | ⟨-, rfl⟩ | ⟨-, rfl⟩ <;> simp

theorem moduleType_of_mem_knownEntries {v : Value} (mem : (.str "moduleType", v) ∈ options.knownEntries) :
    v = .str options.convention.name := by
  simp [knownEntries, toEntries] at mem
  exact mem.2

theorem moduleName_of_mem_knownEntries {v : Value} (mem : (.str "moduleName", v) ∈ options.knownEntries) :
    v = .str options.moduleName := by
  simp [knownEntries, toEntries] at mem
  exact mem.2

theorem knownEntries_sublist (options : Options) :
    (options.knownEntries.map (·.1)).Sublist (knownNames.map Value.str) := by
  have names : knownNames.map Value.str = [Value.str "case-insensitive"] ++ [Value.str "flex"] ++
      [Value.str "backtrack_lexer"] ++ [Value.str "ranges"] ++ [Value.str "moduleType"] ++ [Value.str "moduleName"] :=
    rfl
  simp only [knownEntries, toEntries, List.nil_append, List.map_append, names]
  refine .append (.append (.append (.append (.append ?_ ?_) ?_) ?_) ?_) ?_ <;> split <;> simp

theorem isKnown_iff {key : Value} : isKnown key = true ↔ ∃ name ∈ knownNames, key = .str name := by
  cases key <;> simp [isKnown]

theorem isKnown_of_mem_knownEntries {entry : Value × Value} (mem : entry ∈ options.knownEntries) :
    isKnown entry.1 = true := by
  obtain ⟨name, known, same⟩ := List.mem_map.1 ((knownEntries_sublist options).subset (List.mem_map_of_mem mem))
  exact isKnown_iff.2 ⟨name, known, same.symm⟩

theorem Regular.isKnown_eq_false (regular : options.Regular) {entry : Value × Value} (mem : entry ∈ options.extra) :
    isKnown entry.1 = false := by
  refine Bool.eq_false_iff.2 fun known => ?_
  obtain ⟨name, known, same⟩ := isKnown_iff.1 known
  exact regular.unknown entry mem name known same

theorem Regular.keyed_toEntries (regular : options.Regular) (keyed : Keyed options.extra) :
    Keyed options.toEntries where
  named entry mem := by
    rw [toEntries_eq] at mem
    rcases List.mem_append.1 mem with extra | known
    · exact keyed.named entry extra
    · obtain ⟨name, -, same⟩ := isKnown_iff.1 (isKnown_of_mem_knownEntries known)
      exact ⟨name, same⟩
  distinct := by
    rw [toEntries_eq, List.map_append]
    refine List.nodup_append.2 ⟨keyed.distinct, ?_, ?_⟩
    · exact (knownEntries_sublist options).nodup (by simp [knownNames])
    · intro key extra other known same
      obtain ⟨entry, entryMem, rfl⟩ := List.mem_map.1 extra
      obtain ⟨knownEntry, knownMem, rfl⟩ := List.mem_map.1 known
      have unknown := regular.isKnown_eq_false entryMem
      rw [same, isKnown_of_mem_knownEntries knownMem] at unknown
      cases unknown

theorem ofValue_name (convention : Convention) : Convention.ofValue (.str convention.name) = .ok convention := by
  have named : Convention.ofName? (lowerCase convention.name) = some convention := by
    cases convention <;> decide +kernel
  have told : (Value.str convention.name).told = .ok convention.name := rfl
  rw [Convention.ofValue, told]
  · dsimp only [liftM, monadLift, MonadLift.monadLift, Bind.bind, Except.bind]
    rw [named]
    rfl
  · simp
  · simp

theorem canonical_of_mem_knownEntries {entry : Value × Value} (mem : entry ∈ options.knownEntries) :
    canonical entry.2 = entry.2 := by
  rcases scalar_of_mem_knownEntries mem with same | ⟨s, same⟩ <;> rw [same] <;> rfl

theorem map_canonical_toEntries (options : Options) :
    (options.toEntries.map fun entry => (entry.1, canonical entry.2)) =
      (options.extra.map fun entry => (entry.1, canonical entry.2)) ++ options.knownEntries := by
  have knowns : options.knownEntries.map (fun entry => (entry.1, canonical entry.2)) = options.knownEntries := by
    refine (List.map_congr_left fun entry mem => ?_).trans (List.map_id _)
    rw [canonical_of_mem_knownEntries mem]
    rfl
  rw [toEntries_eq, List.map_append, knowns]

theorem Regular.plain_toEntries (regular : options.Regular) (plain : Plain (.dict options.extra)) :
    Plain (.dict options.toEntries) := by
  refine .dict (regular.keyed_toEntries plain.keyed) fun entry mem => ?_
  rw [toEntries_eq] at mem
  rcases List.mem_append.1 mem with extra | known
  · exact plain.of_mem extra
  · rcases scalar_of_mem_knownEntries known with same | ⟨s, same⟩
    · exact same ▸ .bool true
    · exact same ▸ .str s

/-- Read back in any order, the entries of options are these options, with the others in that order. -/
theorem Regular.ofEntries_of_perm (regular : options.Regular) (keyed : Keyed options.extra)
    {entries : List (Value × Value)}
    (same : entries.Perm (options.toEntries.map fun entry => (entry.1, canonical entry.2))) :
    ∃ extra, extra.Perm (options.extra.map fun entry => (entry.1, canonical entry.2)) ∧
      ofEntries entries = .ok { options with extra } := by
  have keyedEntries := ((regular.keyed_toEntries keyed).map canonical).of_perm same.symm
  rw [map_canonical_toEntries] at same
  have unknown : ∀ entry ∈ options.extra.map fun entry => (entry.1, canonical entry.2), isKnown entry.1 = false := by
    rintro _ mem
    obtain ⟨entry, extra, rfl⟩ := List.mem_map.1 mem
    have other := regular.isKnown_eq_false extra
    exact other
  have among : ∀ name ∈ knownNames, ∀ v, (.str name, v) ∈ entries → (.str name, v) ∈ options.knownEntries := by
    intro name known v mem
    rcases List.mem_append.1 (same.mem_iff.1 mem) with extra | inside
    · have other := unknown _ extra
      rw [isKnown_iff.2 ⟨name, known, rfl⟩] at other
      cases other
    · exact inside
  have found : ∀ name ∈ knownNames, Value.get? entries name = Value.get? options.knownEntries name := by
    intro name known
    rw [Value.get?_of_perm keyedEntries.distinct same, Value.get?_append, Value.get?_eq_none, Option.none_or]
    intro entry mem same
    have other := unknown entry mem
    rw [isKnown_iff.2 ⟨name, known, same⟩] at other
    cases other
  refine ⟨entries.filter fun entry => !isKnown entry.1, ?_, ?_⟩
  · refine (same.filter _).trans (.of_eq ?_)
    rw [List.filter_append, List.filter_eq_self.2 fun entry mem => by rw [unknown entry mem]; rfl,
      List.filter_eq_nil_iff.2 fun entry mem => by simp [isKnown_of_mem_knownEntries mem], List.append_nil]
  · have conventions : ∀ v, (.str "moduleType", v) ∈ entries → Convention.ofValue v = .ok options.convention := by
      intro v mem
      rw [moduleType_of_mem_knownEntries (among "moduleType" (by simp [knownNames]) v mem), ofValue_name]
    have moduleNames : ∀ v, (.str "moduleName", v) ∈ entries → readModuleName v = .ok options.moduleName := by
      intro v mem
      rw [moduleName_of_mem_knownEntries (among "moduleName" (by simp [knownNames]) v mem),
        readModuleName_str regular.named]
    refine (foldlM_readEntry keyedEntries conventions moduleNames {}).trans ?_
    rw [found "case-insensitive" (by simp [knownNames]), found "flex" (by simp [knownNames]),
      found "backtrack_lexer" (by simp [knownNames]), found "ranges" (by simp [knownNames]),
      found "moduleType" (by simp [knownNames]), found "moduleName" (by simp [knownNames])]
    obtain ⟨caseInsensitive, flex, backtracking, ranges, moduleType, moduleName⟩ := get?_knownEntries options
    rw [caseInsensitive, flex, backtracking, ranges, moduleType, moduleName, truthy_switch, truthy_switch,
      truthy_switch, truthy_switch, Except.ok.injEq, mk.injEq]
    refine ⟨rfl, rfl, rfl, rfl, ?_, ?_, rfl⟩ <;> split <;> simp_all

/-! ## Entries in another order -/

/-- In distinct entries a name has one value, so what it is read as does not depend on where it stands. -/
theorem exists_reading {α : Type} (fallback : α) {entries : List (Value × Value)} (keyed : Keyed entries)
    {name : String} {read : Value → Except Error α} (each : ∀ v, (.str name, v) ∈ entries → ∃ a, read v = .ok a) :
    ∃ a, ∀ v, (.str name, v) ∈ entries → read v = .ok a := by
  cases found : Value.get? entries name with
  | none =>
    refine ⟨fallback, fun v mem => ?_⟩
    rw [Value.get?_of_mem keyed.distinct mem] at found
    cases found
  | some given =>
    obtain ⟨a, result⟩ := each given (Value.mem_of_get? found)
    refine ⟨a, fun v mem => ?_⟩
    rw [Value.get?_of_mem keyed.distinct mem] at found
    rw [Option.some.inj found, result]

theorem ofEntries_perm {entries other : List (Value × Value)} (keyed : Keyed entries) (perm : other.Perm entries)
    (h : ofEntries entries = .ok options) :
    Keyed options.extra ∧ ∃ extra, extra.Perm options.extra ∧ ofEntries other = .ok { options with extra } := by
  have each := exists_of_foldlM_ok h
  obtain ⟨convention, conventions⟩ : ∃ convention, ∀ v, (.str "moduleType", v) ∈ entries →
      Convention.ofValue v = .ok convention := by
    refine exists_reading .bare keyed fun v mem => ?_
    obtain ⟨before, after, read⟩ := each _ mem
    obtain ⟨convention, read, -⟩ := ok_of_bind read
    exact ⟨convention, read⟩
  obtain ⟨moduleName, moduleNames⟩ : ∃ moduleName, ∀ v, (.str "moduleName", v) ∈ entries →
      readModuleName v = .ok moduleName := by
    refine exists_reading "" keyed fun v mem => ?_
    obtain ⟨before, after, read⟩ := each _ mem
    obtain ⟨moduleName, read, -⟩ := ok_of_bind read
    exact ⟨moduleName, read⟩
  have first := foldlM_readEntry keyed conventions moduleNames {}
  have second := foldlM_readEntry (keyed.of_perm perm.symm) (fun v mem => conventions v (perm.mem_iff.1 mem))
    (fun v mem => moduleNames v (perm.mem_iff.1 mem)) {}
  have found : ∀ name, Value.get? other name = Value.get? entries name := fun name =>
    (Value.get?_of_perm keyed.distinct perm.symm).symm
  obtain rfl := Except.ok.inj (first.symm.trans h)
  simp only [found] at second
  refine ⟨?_, other.filter fun entry => !isKnown entry.1, perm.filter _, second⟩
  exact ⟨fun entry mem => keyed.named entry (List.mem_filter.1 mem).1,
    keyed.distinct.sublist (List.filter_sublist.map _)⟩

end LexGen.Options
