import LexGen.Proofs.Json.RoundTrip

/-!
# Texts that do not depend on an order

The text of a mapping is that of its entries in the order of their keys. So it is the same for a mapping that has
been rearranged, even if neither can be written.

* `write?_perm`: rearranged mappings have the same text.
* `IsJson.exists_text`: a value of JSON has a text.
-/

namespace LexGen.Json

variable {layout : Layout} {depth : Nat} {entries others : List (Value × Value)}

/-! ## Entries -/

theorem keys_writeEntries? {texts : List (Value × Text)} (h : writeEntries? layout depth entries = some texts) :
    texts.map (·.1) = entries.map (·.1) := by
  induction entries generalizing texts with
  | nil =>
    obtain rfl := Option.some.inj h
    rfl
  | cons entry entries ih =>
    simp only [writeEntries?, Option.bind_eq_bind, Option.bind_eq_some_iff] at h
    obtain ⟨text, -, rest, written, h⟩ := h
    obtain rfl := Option.some.inj h
    rw [List.map_cons, List.map_cons, ih written]

theorem keyed_writeEntries? (keyed : Keyed entries) {texts : List (Value × Text)}
    (h : writeEntries? layout depth entries = some texts) : Keyed texts where
  named text mem := by
    have key : text.1 ∈ entries.map (·.1) := keys_writeEntries? h ▸ List.mem_map_of_mem mem
    obtain ⟨entry, entryMem, same⟩ := List.mem_map.1 key
    exact same ▸ keyed.named entry entryMem
  distinct := keys_writeEntries? h ▸ keyed.distinct

theorem writeEntries?_perm (perm : others.Perm entries) :
    Option.Rel (fun texts texts' => texts'.Perm texts) (writeEntries? layout depth entries)
      (writeEntries? layout depth others) := by
  induction perm with
  | nil => exact .some .nil
  | cons entry perm ih =>
    rename_i others entries
    simp only [writeEntries?]
    generalize writeEntries? layout depth entries = written at ih
    generalize writeEntries? layout depth others = written' at ih
    cases write? layout depth entry.2 with
    | none => exact .none
    | some text =>
      cases ih with
      | none => exact .none
      | some perm => exact .some (perm.cons _)
  | swap first second entries =>
    simp only [writeEntries?]
    cases write? layout depth first.2 <;> cases write? layout depth second.2 <;>
      cases writeEntries? layout depth entries
    all_goals first | exact .none | exact .some (.swap ..)
  | trans _ _ ih ih' =>
    rename_i first second third _ _
    generalize writeEntries? layout depth first = written at ih
    generalize writeEntries? layout depth second = written' at ih ih'
    generalize writeEntries? layout depth third = written'' at ih'
    cases ih' with
    | none =>
      cases ih
      exact .none
    | some perm =>
      cases ih with
      | some perm' => exact .some (perm'.trans perm)

/-! ## Mappings -/

theorem write?_perm (keyed : Keyed entries) (perm : others.Perm entries) :
    write? layout depth (.dict others) = write? layout depth (.dict entries) := by
  have related : Option.Rel (fun texts texts' => texts'.Perm texts) (writeEntries? layout (depth + 1) entries)
      (writeEntries? layout (depth + 1) others) := writeEntries?_perm perm
  rw [write?, write?]
  cases written : writeEntries? layout (depth + 1) entries with
  | none =>
    cases written' : writeEntries? layout (depth + 1) others with
    | none => rfl
    | some texts' =>
      rw [written, written'] at related
      cases related
  | some texts =>
    cases written' : writeEntries? layout (depth + 1) others with
    | none =>
      rw [written, written'] at related
      cases related
    | some texts' =>
      rw [written, written'] at related
      cases related with
      | some perm =>
        simp only [Option.bind_eq_bind, Option.bind_some]
        rw [ordered_of_perm (keyed_writeEntries? keyed written) perm.symm]

theorem write?_entries (same : List.Forall₂ (fun entry other => other.1 = entry.1 ∧
      write? layout (depth + 1) other.2 = write? layout (depth + 1) entry.2) entries others) :
    write? layout depth (.dict others) = write? layout depth (.dict entries) := by
  have texts : writeEntries? layout (depth + 1) others = writeEntries? layout (depth + 1) entries := by
    induction same with
    | nil => rfl
    | cons first _ ih => rw [writeEntries?, writeEntries?, first.1, first.2, ih]
  rw [write?, write?, texts]

/-! ## Values of JSON -/

/-- The values of JSON. An integer has a length up to which it can be converted. -/
inductive IsJson : Value → Prop
  | none : IsJson .none
  | bool (b : Bool) : IsJson (.bool b)
  | int {i : Int} (short : i.natAbs < Nat.pow 10 Text.longestInteger) : IsJson (.int i)
  | float (x : Binary64) : IsJson (.float x)
  | str (s : String) : IsJson (.str s)
  | list {items : List Value} (each : ∀ item ∈ items, IsJson item) : IsJson (.list items)
  | dict {entries : List (Value × Value)} (keyed : Keyed entries) (each : ∀ entry ∈ entries, IsJson entry.2) :
    IsJson (.dict entries)

theorem IsJson.holdsLong {v : Value} (h : IsJson v) : v.holdsLong = false := by
  induction h with
  | int short => exact holdsLong_int short
  | list _ ih => exact itemsHoldLong_eq_false ih
  | dict keyed _ ih =>
    refine entriesHoldLong_eq_false (fun entry mem => ?_) ih
    obtain ⟨s, same⟩ := keyed.named entry mem
    rw [same]
    rfl
  | _ => rfl

def HasText (v : Value) : Prop := ∀ layout depth, ∃ text, write? layout depth v = some text

theorem hasText_str (s : String) : HasText (.str s) := fun _ _ => ⟨_, rfl⟩

theorem hasText_int (i : Int) : HasText (.int i) := fun _ _ => ⟨_, rfl⟩

theorem hasText_bool (b : Bool) : HasText (.bool b) := by
  cases b <;> exact fun _ _ => ⟨_, rfl⟩

theorem hasText_list {items : List Value} (each : ∀ item ∈ items, HasText item) : HasText (.list items) := by
  intro layout depth
  have texts := writeItems?_eq fun item mem => (each item mem layout (depth + 1)).elim fun _ => written_of_write?
  exact ⟨_, by rw [write?, texts]; rfl⟩

theorem hasText_dict (keyed : Keyed entries) (each : ∀ entry ∈ entries, HasText entry.2) :
    HasText (.dict entries) := by
  intro layout depth
  obtain ⟨inOrder, same, -, sorted⟩ := exists_ordered keyed
  exact ⟨_, write?_dict keyed
    (fun entry mem => (each entry mem layout (depth + 1)).elim fun _ => written_of_write?) same sorted⟩

theorem IsJson.hasText {v : Value} (h : IsJson v) : HasText v := by
  induction h with
  | none => exact fun _ _ => ⟨_, rfl⟩
  | bool b => exact hasText_bool b
  | @int i _ => exact hasText_int i
  | float x => exact fun _ _ => ⟨_, rfl⟩
  | str s => exact hasText_str s
  | list _ ih => exact hasText_list ih
  | dict keyed _ ih => exact hasText_dict keyed ih

end LexGen.Json
