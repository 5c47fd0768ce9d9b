import LexGen.Proofs.Json.Order
import LexGen.Proofs.Json.Values

/-!
# What is written is read again

A value that JSON has a form for is written, and its text is read as the same value with the entries of every
object in the order of their keys.

* `Plain.exists_read`: the round trip of a value.
* `write?_canonical`: what is read has the same text again.
* `same_canonical`: what is read equals what was written.
-/

namespace LexGen.Json

/-! ## Plain values -/

/-- The values that JSON has a form for. The text of a number with a fraction has to be read as that number, and
integers are only converted up to a length. -/
inductive Plain : Value → Prop
  | none : Plain .none
  | bool (b : Bool) : Plain (.bool b)
  | int {i : Int} (short : i.natAbs < Nat.pow 10 Text.longestInteger) : Plain (.int i)
  | float {negative : Bool} {significand : Nat} {exponent : Int}
    (restores : read (float (.finite negative significand exponent)) =
      .ok (.float (.finite negative significand exponent))) : Plain (.float (.finite negative significand exponent))
  | str (s : String) : Plain (.str s)
  | list {items : List Value} (each : ∀ item ∈ items, Plain item) : Plain (.list items)
  | dict {entries : List (Value × Value)} (keyed : Keyed entries) (each : ∀ entry ∈ entries, Plain entry.2) :
    Plain (.dict entries)

theorem Plain.keyed {entries : List (Value × Value)} (plain : Plain (.dict entries)) : Keyed entries := by
  cases plain with
  | dict keyed _ => exact keyed

theorem Plain.of_mem {entries : List (Value × Value)} (plain : Plain (.dict entries)) {key v : Value}
    (mem : (key, v) ∈ entries) : Plain v := by
  cases plain with
  | dict _ each => exact each (key, v) mem

/-! ## The canonical order -/

mutual

def canonical : Value → Value
  | .list items => .list (canonicalItems items)
  | .dict entries => .dict ((ordered (canonicalEntries entries)).getD [])
  | v => v

def canonicalItems : List Value → List Value
  | [] => []
  | item :: items => canonical item :: canonicalItems items

def canonicalEntries : List (Value × Value) → List (Value × Value)
  | [] => []
  | (key, item) :: entries => (key, canonical item) :: canonicalEntries entries

end

theorem canonicalItems_eq (items : List Value) : canonicalItems items = items.map canonical := by
  induction items with
  | nil => rfl
  | cons item items ih => rw [canonicalItems, ih, List.map_cons]

theorem canonicalEntries_eq (entries : List (Value × Value)) :
    canonicalEntries entries = entries.map fun entry => (entry.1, canonical entry.2) := by
  induction entries with
  | nil => rfl
  | cons entry entries ih => rw [canonicalEntries, ih, List.map_cons]

theorem canonical_list (items : List Value) : canonical (.list items) = .list (items.map canonical) := by
  rw [canonical, canonicalItems_eq]

/-- The entries of a mapping in order. They are the same for its canonical form and for its text. -/
theorem exists_ordered {entries : List (Value × Value)} (keyed : Keyed entries) :
    ∃ inOrder : List (Value × Value), inOrder.Perm entries ∧
      canonical (.dict entries) = .dict (inOrder.map fun entry => (entry.1, canonical entry.2)) ∧
      ∀ f : Value → Text, ordered (entries.map fun entry => (entry.1, f entry.2)) =
        some (inOrder.map fun entry => (entry.1, f entry.2)) := by
  obtain ⟨inOrder, sorted, same, -⟩ := ordered_keyed keyed
  refine ⟨inOrder, same, ?_, fun f => ?_⟩
  · rw [canonical, canonicalEntries_eq, ordered_map canonical, sorted]
    rfl
  · rw [ordered_map f, sorted]
    rfl

/-! ## Writing -/

def written (layout : Layout) (depth : Nat) (v : Value) : Text := (write? layout depth v).getD []

section

variable {layout : Layout} {depth : Nat}

theorem writeItems?_eq {items : List Value}
    (each : ∀ item ∈ items, write? layout depth item = some (written layout depth item)) :
    writeItems? layout depth items = some (items.map (written layout depth)) := by
  induction items with
  | nil => rfl
  | cons item items ih =>
    rw [writeItems?, each item List.mem_cons_self, ih fun item mem => each item (List.mem_cons_of_mem _ mem)]
    rfl

theorem writeEntries?_eq {entries : List (Value × Value)}
    (each : ∀ entry ∈ entries, write? layout depth entry.2 = some (written layout depth entry.2)) :
    writeEntries? layout depth entries =
      some (entries.map fun entry => (entry.1, written layout depth entry.2)) := by
  induction entries with
  | nil => rfl
  | cons entry entries ih =>
    rw [writeEntries?, each entry List.mem_cons_self, ih fun entry mem => each entry (List.mem_cons_of_mem _ mem)]
    rfl

theorem written_of_write? {v : Value} {text : Text} (h : write? layout depth v = some text) :
    write? layout depth v = some (written layout depth v) := by
  rw [written, h]
  rfl

def entryText (layout : Layout) (depth : Nat) (entry : Value × Value) : Text :=
  (key? entry.1).getD [] ++ [':', ' '] ++ written layout depth entry.2

theorem entryTexts_eq (layout : Layout) (depth : Nat) {entries : List (Value × Value)}
    (named : ∀ entry ∈ entries, ∃ s, entry.1 = .str s) :
    (entries.map fun entry => (entry.1, written layout depth entry.2)).mapM
        (fun (key, text) => do return (← key? key) ++ [':', ' '] ++ text) =
      some (entries.map (entryText layout depth)) := by
  rw [List.mapM_map]
  refine mapM_eq_pure fun entry mem => ?_
  obtain ⟨s, name⟩ := named entry mem
  simp only [Function.comp_apply, entryText, name]
  rfl

theorem write?_dict {entries : List (Value × Value)} (keyed : Keyed entries)
    (each : ∀ entry ∈ entries, write? layout (depth + 1) entry.2 = some (written layout (depth + 1) entry.2))
    {inOrder : List (Value × Value)} (same : inOrder.Perm entries)
    (sorted : ∀ f : Value → Text, ordered (entries.map fun entry => (entry.1, f entry.2)) =
      some (inOrder.map fun entry => (entry.1, f entry.2))) :
    write? layout depth (.dict entries) =
      some (layout.enclose depth '{' '}' (inOrder.map (entryText layout (depth + 1)))) := by
  have named := entryTexts_eq layout (depth + 1) (keyed.of_perm same.symm).named
  rw [write?, writeEntries?_eq each, Option.bind_eq_bind, Option.bind_some, sorted, Option.bind_some, named]
  rfl

end

/-! ## Reading what is written -/

theorem readsEntry_entryText {layout : Layout} {depth : Nat} {entry : Value × Value}
    (named : ∃ s, entry.1 = .str s) (reads : Reads (written layout depth entry.2) (canonical entry.2)) :
    ReadsEntry (entryText layout depth entry) (entry.1, canonical entry.2) := by
  obtain ⟨s, name⟩ := named
  exact ⟨s, _, name, by simp [entryText, name, key?], reads⟩

theorem forall₂_map_of_forall {α β γ : Type} {R : β → γ → Prop} {f : α → β} {g : α → γ} {items : List α}
    (each : ∀ item ∈ items, R (f item) (g item)) : List.Forall₂ R (items.map f) (items.map g) :=
  List.forall₂_map_left_iff.2 (List.forall₂_map_right_iff.2 (List.forall₂_same.2 each))

theorem Plain.written_reads {v : Value} (plain : Plain v) (layout : Layout) (depth : Nat) :
    write? layout depth v = some (written layout depth v) ∧ Reads (written layout depth v) (canonical v) := by
  induction plain generalizing depth with
  | none => exact ⟨rfl, reads_null⟩
  | bool b => cases b <;> [exact ⟨rfl, reads_false⟩; exact ⟨rfl, reads_true⟩]
  | int short => exact ⟨rfl, reads_int short⟩
  | float restores => exact ⟨rfl, reads_float restores⟩
  | str s => exact ⟨rfl, reads_string s⟩
  | @list items _ ih =>
    have text : write? layout depth (.list items) =
        some (layout.enclose depth '[' ']' (items.map (written layout (depth + 1)))) := by
      rw [write?, writeItems?_eq fun item mem => (ih item mem (depth + 1)).1]
      rfl
    refine ⟨written_of_write? text, ?_⟩
    rw [written, text, Option.getD_some, canonical_list]
    exact reads_list (forall₂_map_of_forall fun item mem => (ih item mem (depth + 1)).2) layout depth
  | @dict entries keyed _ ih =>
    obtain ⟨inOrder, same, shape, sorted⟩ := exists_ordered keyed
    have text := write?_dict keyed (fun entry mem => (ih entry mem (depth + 1)).1) same sorted
    have keyedInOrder := keyed.of_perm same.symm
    refine ⟨written_of_write? text, ?_⟩
    rw [written, text, Option.getD_some, shape]
    refine reads_object (forall₂_map_of_forall fun entry mem => ?_) (keyedInOrder.map canonical).distinct layout depth
    exact readsEntry_entryText (keyedInOrder.named entry mem) (ih entry (same.mem_iff.1 mem) (depth + 1)).2

theorem Plain.exists_read {v : Value} (plain : Plain v) (layout : Layout) :
    ∃ text, write? layout 0 v = some text ∧ read text = .ok (canonical v) :=
  ⟨_, (plain.written_reads layout 0).1, (plain.written_reads layout 0).2.read⟩

/-! ## Writing what is read -/

/-- The text of a mapping is the same for entries in any order and for values that have the same text. -/
theorem write?_dict_congr {layout : Layout} {depth : Nat} {entries others reordered : List (Value × Value)}
    (plain : Plain (.dict entries))
    (each : List.Forall₂ (fun entry other => other.1 = entry.1 ∧
      write? layout (depth + 1) other.2 = write? layout (depth + 1) entry.2) entries others)
    (same : reordered.Perm others) :
    write? layout depth (.dict reordered) = write? layout depth (.dict entries) := by
  have texts : ∀ entry ∈ entries, write? layout (depth + 1) entry.2 = some (written layout (depth + 1) entry.2) :=
    fun entry mem => ((plain.of_mem mem).written_reads layout (depth + 1)).1
  have otherTexts : ∀ other ∈ reordered,
      write? layout (depth + 1) other.2 = some (written layout (depth + 1) other.2) := by
    intro other mem
    obtain ⟨entry, entryMem, -, text⟩ := exists_of_mem_forall₂ each (same.mem_iff.1 mem)
    exact written_of_write? (text.trans (texts entry entryMem))
  have pairs : (reordered.map fun entry => (entry.1, written layout (depth + 1) entry.2)).Perm
      (entries.map fun entry => (entry.1, written layout (depth + 1) entry.2)) := by
    refine (same.map _).trans (.of_eq ?_)
    symm
    rw [← List.forall₂_eq_eq_eq, List.forall₂_map_left_iff, List.forall₂_map_right_iff]
    refine each.imp fun entry other agree => ?_
    rw [written, ← agree.1, ← agree.2, written]
  rw [write?, write?, writeEntries?_eq texts, writeEntries?_eq otherTexts, Option.bind_eq_bind, Option.bind_some,
    Option.bind_eq_bind, Option.bind_some, ordered_of_perm ((plain.keyed.map _).of_perm pairs.symm) pairs]

theorem write?_dict_of_perm {layout : Layout} {depth : Nat} {entries reordered : List (Value × Value)}
    (plain : Plain (.dict entries)) {f : Value → Value}
    (each : ∀ entry ∈ entries, write? layout (depth + 1) (f entry.2) = write? layout (depth + 1) entry.2)
    (same : reordered.Perm (entries.map fun entry => (entry.1, f entry.2))) :
    write? layout depth (.dict reordered) = write? layout depth (.dict entries) := by
  refine write?_dict_congr plain (List.forall₂_map_right_iff.2 (List.forall₂_same.2 fun entry mem => ?_)) same
  exact ⟨rfl, each entry mem⟩

theorem write?_canonical {v : Value} (plain : Plain v) (layout : Layout) (depth : Nat) :
    write? layout depth (canonical v) = write? layout depth v := by
  induction plain generalizing depth with
  | @list items plains ih =>
    have texts : ∀ item ∈ items, write? layout (depth + 1) item = some (written layout (depth + 1) item) :=
      fun item mem => ((plains item mem).written_reads layout (depth + 1)).1
    have again : ∀ item ∈ items.map canonical,
        write? layout (depth + 1) item = some (written layout (depth + 1) item) := by
      refine List.forall_mem_map.2 fun item mem => ?_
      exact written_of_write? ((ih item mem (depth + 1)).trans (texts item mem))
    have same : (items.map canonical).map (written layout (depth + 1)) = items.map (written layout (depth + 1)) := by
      rw [List.map_map]
      refine List.map_congr_left fun item mem => ?_
      simp only [Function.comp_apply, written, ih item mem]
    rw [canonical_list, write?, write?, writeItems?_eq texts, writeItems?_eq again, same]
  | @dict entries keyed plains ih =>
    obtain ⟨inOrder, same, shape, -⟩ := exists_ordered keyed
    rw [shape]
    exact write?_dict_of_perm (.dict keyed plains) (fun entry mem => ih entry mem (depth + 1)) (same.map _)
  | _ => rfl

/-! ## Equality -/

theorem same_dict_of_perm {entries others : List (Value × Value)} (keyed : Keyed entries) {f : Value → Value}
    (each : ∀ entry ∈ entries, Value.same (f entry.2) entry.2 = true)
    (same : others.Perm (entries.map fun entry => (entry.1, f entry.2))) :
    Value.same (.dict others) (.dict entries) = true := by
  refine Value.same_dict (by simpa using same.length_eq) fun entry mem => ?_
  obtain ⟨source, sourceMem, rfl⟩ := List.mem_map.1 (same.mem_iff.1 mem)
  obtain ⟨s, named⟩ := keyed.named source sourceMem
  exact ⟨source, sourceMem, by rw [named, Value.same_str_right], each source sourceMem⟩

theorem same_canonical {v : Value} (plain : Plain v) : Value.same (canonical v) v = true := by
  induction plain with
  | none | bool b | int | str s => simp [canonical, Value.same, Value.sameNumber?, Value.integer?]
  | float => simp [canonical, Value.same, Value.sameNumber?, Binary64.same]
  | @list items _ ih =>
    rw [canonical_list]
    exact Value.same_list_map ih
  | @dict entries keyed _ ih =>
    obtain ⟨inOrder, same, shape, -⟩ := exists_ordered keyed
    rw [shape]
    exact same_dict_of_perm keyed ih (same.map _)

end LexGen.Json
