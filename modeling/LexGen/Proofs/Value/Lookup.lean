import LexGen.Value.Equality

/-!
# Looking up names

Texts are only equal to themselves, so an entry whose key is a text is found by that text alone.
-/

namespace LexGen.Value

@[simp] theorem same_str_right (v : Value) (s : String) : same v (str s) = true ↔ v = str s := by
  cases v <;> simp [same, sameNumber?, integer?]

@[simp] theorem same_int (i j : Int) : same (int i) (int j) = (i == j) := by
  simp [same, sameNumber?, integer?]

theorem eq_int {v : Value} {i : Int} (type : v.typeName = "int") (counted : v.integer? = some i) : v = int i := by
  cases v with
  | int j => rw [Option.some.inj counted]
  | bool b => exact absurd type (by simp [typeName])
  | _ => cases counted

theorem same_list_map {f : Value → Value} {items : List Value} (each : ∀ item ∈ items, same (f item) item = true) :
    same (list (items.map f)) (list items) = true := by
  rw [same]
  induction items with
  | nil => rw [List.map_nil, sameItems]
  | cons item items ih =>
    rw [List.map_cons, sameItems, each item List.mem_cons_self, Bool.true_and]
    exact ih fun item mem => each item (List.mem_cons_of_mem _ mem)

theorem allHashable_iff {items : List Value} : allHashable items = true ↔ ∀ v ∈ items, v.hashable = true := by
  induction items with
  | nil => simp [allHashable]
  | cons v items ih => rw [allHashable, Bool.and_eq_true, ih, List.forall_mem_cons]

variable {entries others : List (Value × Value)} {name : String}

theorem subentries_of_forall
    (each : ∀ entry ∈ others, ∃ other ∈ entries, same entry.1 other.1 = true ∧ same entry.2 other.2 = true) :
    subentries others entries = true := by
  induction others with
  | nil => rw [subentries]
  | cons entry others ih =>
    obtain ⟨other, mem, equal⟩ := each entry List.mem_cons_self
    rw [subentries, ih fun entry mem => each entry (List.mem_cons_of_mem _ mem), Bool.and_true]
    exact List.any_eq_true.2 ⟨other, mem, by rw [equal.1, equal.2]; rfl⟩

theorem same_dict (length : others.length = entries.length)
    (each : ∀ entry ∈ others, ∃ other ∈ entries, same entry.1 other.1 = true ∧ same entry.2 other.2 = true) :
    same (dict others) (dict entries) = true := by
  rw [same, length, subentries_of_forall each, beq_self_eq_true]
  rfl

@[simp] theorem get?_nil : get? [] name = Option.none := rfl

theorem get?_cons (key : String) (value : Value) :
    get? ((str key, value) :: entries) name = if key = name then some value else get? entries name := by
  simp only [get?, lookup, same_str_right, str.injEq]

theorem get?_cons_of_ne {entry : Value × Value} (other : entry.1 ≠ str name) :
    get? (entry :: entries) name = get? entries name := by
  simp [get?, lookup, other]

theorem get?_append : get? (entries ++ others) name = (get? entries name).or (get? others name) := by
  induction entries with
  | nil => rfl
  | cons entry entries ih =>
    simp only [get?, List.cons_append, lookup] at ih ⊢
    rw [ih]
    split <;> rfl

theorem get?_eq_none (absent : ∀ entry ∈ entries, entry.1 ≠ str name) : get? entries name = Option.none := by
  induction entries with
  | nil => rfl
  | cons entry entries ih =>
    rw [get?_cons_of_ne (absent entry List.mem_cons_self)]
    exact ih fun entry mem => absent entry (List.mem_cons_of_mem _ mem)

/-! Entries that may be left out. -/

theorem get?_if (c : Prop) [Decidable c] (key : String) (value : Value) :
    get? (if c then [(str key, value)] else []) name = if c ∧ key = name then some value else Option.none := by
  by_cases given : c <;> simp [given, get?_cons]

theorem get?_unless (c : Prop) [Decidable c] (key : String) (value : Value) :
    get? (if c then [] else [(str key, value)]) name = if ¬c ∧ key = name then some value else Option.none := by
  by_cases given : c <;> simp [given, get?_cons]

/-! ## Mappings -/

theorem insert_of_absent {key : String} (value : Value) (absent : ∀ entry ∈ entries, entry.1 ≠ str key) :
    insert (str key) value entries = entries ++ [(str key, value)] := by
  induction entries with
  | nil => rfl
  | cons entry entries ih =>
    have different : ¬ same entry.1 (str key) = true := fun equal =>
      absent entry List.mem_cons_self ((same_str_right _ _).1 equal)
    rw [insert, if_neg different, ih fun entry mem => absent entry (List.mem_cons_of_mem _ mem)]
    rfl

theorem foldl_insert (named : ∀ entry ∈ entries, ∃ s, entry.1 = str s) (distinct : (entries.map (·.1)).Nodup)
    (table : List (Value × Value)) (absent : ∀ entry ∈ entries, ∀ other ∈ table, other.1 ≠ entry.1) :
    entries.foldl (fun table entry => insert entry.1 entry.2 table) table = table ++ entries := by
  induction entries generalizing table with
  | nil => simp
  | cons entry entries ih =>
    obtain ⟨key, value⟩ := entry
    obtain ⟨s, rfl⟩ : ∃ s, key = str s := named _ List.mem_cons_self
    obtain ⟨first, distinct⟩ := List.nodup_cons.1 distinct
    rw [List.foldl_cons, insert_of_absent value (absent _ List.mem_cons_self),
      ih (fun entry mem => named entry (List.mem_cons_of_mem _ mem)) distinct]
    · simp
    · intro entry mem other inside same
      rcases List.mem_append.1 inside with old | new
      · exact absent entry (List.mem_cons_of_mem _ mem) other old same
      · obtain rfl := List.mem_singleton.1 new
        exact first (List.mem_map.2 ⟨entry, mem, same.symm⟩)

theorem dictOf_eq_self (named : ∀ entry ∈ entries, ∃ s, entry.1 = str s) (distinct : (entries.map (·.1)).Nodup) :
    dictOf entries = entries :=
  foldl_insert named distinct [] fun _ _ _ mem => absurd mem List.not_mem_nil

theorem dictOf_append (named : ∀ entry ∈ others, ∃ s, entry.1 = str s) (distinct : (others.map (·.1)).Nodup)
    (absent : ∀ entry ∈ others, ∀ other ∈ entries, other.1 ≠ entry.1) (itself : dictOf entries = entries) :
    dictOf (entries ++ others) = entries ++ others := by
  rw [dictOf, List.foldl_append]
  change others.foldl _ (dictOf entries) = _
  rw [itself]
  exact foldl_insert named distinct entries absent

theorem keys_insert (key value : Value) (table : List (Value × Value)) :
    (insert key value table).map (·.1) = table.map (·.1) ∨
      (insert key value table).map (·.1) = table.map (·.1) ++ [key] ∧ ∀ entry ∈ table, same entry.1 key = false := by
  induction table with
  | nil => exact .inr ⟨rfl, by simp⟩
  | cons entry table ih =>
    obtain ⟨k, v⟩ := entry
    rw [insert]
    split
    · exact .inl rfl
    · rename_i different
      rw [Bool.not_eq_true] at different
      simp only [List.map_cons, List.cons_append, List.cons.injEq, true_and, List.forall_mem_cons]
      exact ih.imp_right fun ⟨appended, absent⟩ => ⟨appended, different, absent⟩

theorem pairwise_dictOf (entries : List (Value × Value)) :
    ((dictOf entries).map (·.1)).Pairwise fun first second => same first second = false := by
  have kept : ∀ (entries table : List (Value × Value)),
      (table.map (·.1)).Pairwise (fun first second => same first second = false) →
        ((entries.foldl (fun table entry => insert entry.1 entry.2 table) table).map (·.1)).Pairwise
          fun first second => same first second = false := by
    intro entries
    induction entries with
    | nil => exact fun _ h => h
    | cons entry entries ih =>
      intro table distinct
      refine ih _ ?_
      rcases keys_insert entry.1 entry.2 table with old | ⟨appended, absent⟩
      · exact old ▸ distinct
      · rw [appended, List.pairwise_append]
        refine ⟨distinct, List.pairwise_singleton .., fun key mem other new => ?_⟩
        obtain ⟨before, beforeMem, rfl⟩ := List.mem_map.1 mem
        rw [List.mem_singleton.1 new]
        exact absent before beforeMem
  exact kept entries [] .nil

theorem mem_of_mem_distinct {items : List Value} {item : Value} (mem : item ∈ distinct items) : item ∈ items := by
  have among : ∀ (rest seen : List Value),
      item ∈ rest.foldl (fun seen item => if seen.any (same item) then seen else seen ++ [item]) seen →
        item ∈ seen ∨ item ∈ rest := by
    intro rest
    induction rest with
    | nil => exact fun seen mem => .inl mem
    | cons next rest ih =>
      intro seen mem
      rw [List.foldl_cons] at mem
      rcases ih _ mem with old | later
      · split at old
        · exact .inl old
        · rcases List.mem_append.1 old with old | new
          · exact .inl old
          · rw [List.mem_singleton.1 new]
            exact .inr List.mem_cons_self
      · exact .inr (List.mem_cons_of_mem _ later)
  exact (among items [] mem).resolve_left List.not_mem_nil

theorem get?_of_mem {value : Value} (distinct : (entries.map (·.1)).Nodup) (mem : (str name, value) ∈ entries) :
    get? entries name = some value := by
  induction entries with
  | nil => cases mem
  | cons entry entries ih =>
    obtain ⟨absent, distinct⟩ := List.nodup_cons.1 distinct
    rcases List.mem_cons.1 mem with rfl | mem
    · rw [get?_cons, if_pos rfl]
    · have other : entry.1 ≠ str name := by
        intro equal
        apply absent
        dsimp only
        rw [equal]
        exact List.mem_map_of_mem mem
      rw [get?_cons_of_ne other, ih distinct mem]

theorem mem_of_get? {value : Value} (found : get? entries name = some value) : (str name, value) ∈ entries := by
  induction entries with
  | nil => cases found
  | cons entry entries ih =>
    obtain ⟨key, item⟩ := entry
    simp only [get?, lookup] at found
    split at found
    · rename_i equal
      obtain rfl := Option.some.inj found
      rw [(same_str_right _ _).1 equal]
      exact List.mem_cons_self
    · exact List.mem_cons_of_mem _ (ih found)

theorem get?_of_perm (distinct : (entries.map (·.1)).Nodup) (reordered : entries.Perm others) :
    get? entries name = get? others name := by
  have distinctOthers := (reordered.map (·.1)).nodup_iff.1 distinct
  cases found : get? others name with
  | some value => exact get?_of_mem distinct (reordered.mem_iff.2 (mem_of_get? found))
  | none =>
    cases here : get? entries name with
    | none => rfl
    | some value =>
      rw [get?_of_mem distinctOthers (reordered.mem_iff.1 (mem_of_get? here))] at found
      cases found

end LexGen.Value
