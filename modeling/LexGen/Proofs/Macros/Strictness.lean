import LexGen.Proofs.Macros.References

/-!
# Undefined macros

A placeholder that names no macro is left as it is, with a warning, or it is an error. Whichever of the two is
asked for, compilation goes the same way up to the first such placeholder.

* `InStep`: a permissive computation and a strict one go the same way up to the first warning.
* `Warns`: which warnings a computation makes if it comes to a result.
-/

namespace LexGen

/-! ## Warnings -/

namespace Macros

/-- A placeholder that names no macro, and where the text with the placeholder stands. -/
structure Undefined where
  name : Text
  place : String
  deriving DecidableEq, Repr

namespace Undefined

def error (undefined : Undefined) : Error :=
  .undefinedMacro (String.ofList undefined.name) undefined.place

def note (undefined : Undefined) : Note :=
  ⟨.warning, channel,
    "Undefined macro \x7b" ++ String.ofList undefined.name ++ "\x7d in " ++ undefined.place ++ " left verbatim"⟩

def ofNote? (note : Note) : Option Undefined :=
  let message := note.message.toList.drop "Undefined macro \x7b".toList.length
  let name := message.takeWhile (· != '}')
  let place := (message.drop (name.length + "\x7d in ".toList.length)).take
    (message.length - (name.length + "\x7d in ".toList.length + " left verbatim".toList.length))
  let undefined : Undefined := ⟨name, String.ofList place⟩
  if undefined.note = note then some undefined else none

theorem ofNote?_note {undefined : Undefined} (named : '}' ∉ undefined.name) :
    ofNote? undefined.note = some undefined := by
  obtain ⟨name, place⟩ := undefined
  have opened : (note ⟨name, place⟩).message.toList.drop "Undefined macro \x7b".toList.length =
      name ++ ("\x7d in ".toList ++ (place.toList ++ " left verbatim".toList)) := by
    simp only [note, String.toList_append, String.toList_ofList, List.append_assoc, List.drop_left]
  have named' : (name ++ ("\x7d in ".toList ++ (place.toList ++ " left verbatim".toList))).takeWhile (· != '}') =
      name := by
    have inside : ∀ c ∈ name, (c != '}') = true := by
      intro c mem
      rw [bne_iff_ne]
      rintro rfl
      exact named mem
    rw [List.takeWhile_append_of_pos inside]
    exact List.append_nil name
  have closed : ((name ++ ("\x7d in ".toList ++ (place.toList ++ " left verbatim".toList))).drop
      (name.length + "\x7d in ".toList.length)) = place.toList ++ " left verbatim".toList := by
    rw [← List.drop_drop, List.drop_left, List.drop_left]
  have size : (name ++ ("\x7d in ".toList ++ (place.toList ++ " left verbatim".toList))).length -
      (name.length + "\x7d in ".toList.length + " left verbatim".toList.length) = place.toList.length := by
    simp only [List.length_append]
    omega
  simp only [ofNote?, opened, named', closed, size, List.take_left, String.ofList_toList, if_true]

end Undefined

def warnings (journal : Journal) : List Undefined := journal.filterMap Undefined.ofNote?

@[simp] theorem warnings_append (journal notes : Journal) :
    warnings (journal ++ notes) = warnings journal ++ warnings notes :=
  List.filterMap_append

theorem warnings_debug (channel message : String) : warnings [⟨.debug, channel, message⟩] = [] := by
  have no : Undefined.ofNote? ⟨.debug, channel, message⟩ = none := by
    unfold Undefined.ofNote?
    refine if_neg fun same => ?_
    have level : Level.warning = Level.debug := congrArg Note.level same
    cases level
  rw [warnings, List.filterMap_cons, no]
  rfl

/-! ## Placeholders -/

/-- The names of the placeholders that stand in a text, once for each place where one begins. -/
def placeholders (text : Text) : List Text := text.tails.filterMap placeholder?

theorem references_eq_placeholders (text : Text) : references text = placeholders text := by
  induction text with
  | nil => rfl
  | cons c text ih =>
    rw [references, ih]
    change _ = (List.tails (c :: text)).filterMap placeholder?
    rw [List.tails_cons, List.filterMap_cons]
    cases placeholder? (c :: text) <;> rfl

def undefinedIn (names : List Text) (text : Text) (place : String) : List Undefined :=
  ((placeholders text).filter fun name => !names.contains name).map (⟨·, place⟩)

end Macros

/-! ## Computations that go the same way -/

open Macros

variable {α β : Type}

/-- A permissive computation only adds to the journal. If it adds no warnings the strict one is the same, else it
fails with the first warning. -/
def InStep (permissive strict : Journaled α) : Prop :=
  ∀ journal, ∃ notes, (permissive.run.run journal).2 = journal ++ notes ∧
    match warnings notes with
    | [] => strict.run.run journal = permissive.run.run journal
    | first :: _ => (strict.run.run journal).1 = .error first.error

def Warns (x : Journaled α) (found : List Undefined) : Prop :=
  ∀ journal a now, x.run.run journal = (.ok a, now) → warnings now = warnings journal ++ found

def Quiet (x : Journaled α) : Prop :=
  ∀ journal, ∃ notes, (x.run.run journal).2 = journal ++ notes ∧ warnings notes = []

theorem Quiet.inStep {x : Journaled α} (quiet : Quiet x) : InStep x x := by
  intro journal
  obtain ⟨notes, added, none⟩ := quiet journal
  exact ⟨notes, added, by rw [none]⟩

theorem Quiet.warns {x : Journaled α} (quiet : Quiet x) : Warns x [] := by
  intro journal a now ended
  obtain ⟨notes, added, none⟩ := quiet journal
  rw [ended] at added
  change now = journal ++ notes at added
  rw [added, warnings_append, none]

theorem quiet_pure (a : α) : Quiet (pure a : Journaled α) :=
  fun journal => ⟨[], (List.append_nil journal).symm, rfl⟩

theorem quiet_lift (x : Except Error α) : Quiet (liftM x : Journaled α) :=
  fun journal => ⟨[], (List.append_nil journal).symm, rfl⟩

theorem quiet_throw (e : Error) : Quiet (throw e : Journaled α) :=
  fun journal => ⟨[], (List.append_nil journal).symm, rfl⟩

theorem quiet_note (channel message : String) : Quiet (Journal.note .debug channel message) :=
  fun _ => ⟨_, rfl, warnings_debug channel message⟩

theorem error_of_bind {x : Journaled α} {f : α → Journaled β} {journal : Journal} {e : Error}
    (failed : (x.run.run journal).1 = .error e) : ((x >>= f).run.run journal).1 = .error e := by
  rw [run_bind]
  rcases ended : x.run.run journal with ⟨e' | a, now⟩
  · rw [ended] at failed
    obtain rfl : e' = e := Except.error.inj failed
    rfl
  · rw [ended] at failed
    cases failed

theorem InStep.bind {x y : Journaled α} {f g : α → Journaled β} (first : InStep x y)
    (next : ∀ a, InStep (f a) (g a)) : InStep (x >>= f) (y >>= g) := by
  intro journal
  obtain ⟨notes, added, same⟩ := first journal
  rw [run_bind]
  rcases ended : x.run.run journal with ⟨e | a, now⟩
  · rw [ended] at added same
    refine ⟨notes, added, ?_⟩
    split at same
    · rw [run_bind, same]
    · exact error_of_bind same
  · rw [ended] at added same
    obtain rfl : now = journal ++ notes := added
    obtain ⟨more, added', same'⟩ := next a (journal ++ notes)
    refine ⟨notes ++ more, by rw [← List.append_assoc]; exact added', ?_⟩
    rw [warnings_append]
    split at same
    · rename_i none
      rw [none, List.nil_append, run_bind, same]
      exact same'
    · rename_i found
      rw [found]
      exact error_of_bind same

theorem Warns.bind {x : Journaled α} {f : α → Journaled β} {first second : List Undefined} (h : Warns x first)
    (next : ∀ a, MayReturn x a → Warns (f a) second) : Warns (x >>= f) (first ++ second) := by
  intro journal b now ended
  rw [run_bind] at ended
  split at ended
  · rename_i a between first
    rw [next a ⟨journal, by rw [first]⟩ between b now ended, h journal a between first, List.append_assoc]
  · cases ended

theorem Quiet.bind {x : Journaled α} {f : α → Journaled β} (first : Quiet x) (next : ∀ a, Quiet (f a)) :
    Quiet (x >>= f) := by
  intro journal
  obtain ⟨notes, added, none⟩ := first journal
  rw [run_bind]
  rcases ended : x.run.run journal with ⟨e | a, now⟩
  · rw [ended] at added
    exact ⟨notes, added, none⟩
  · rw [ended] at added
    obtain rfl : now = journal ++ notes := added
    obtain ⟨more, added', none'⟩ := next a (journal ++ notes)
    exact ⟨notes ++ more, by rw [← List.append_assoc]; exact added', by rw [warnings_append, none, none']; rfl⟩

theorem InStep.mapM {f g : α → Journaled β} (each : ∀ item, InStep (f item) (g item)) (items : List α) :
    InStep (items.mapM f) (items.mapM g) := by
  induction items with
  | nil => exact (quiet_pure []).inStep
  | cons item items ih =>
    rw [List.mapM_cons, List.mapM_cons]
    exact (each item).bind fun b => ih.bind fun others => (quiet_pure (b :: others)).inStep

theorem Warns.mapM {f : α → Journaled β} {found : α → List Undefined}
    (each : ∀ item, Warns (f item) (found item)) (items : List α) :
    Warns (items.mapM f) (items.flatMap found) := by
  induction items with
  | nil => exact (quiet_pure []).warns
  | cons item items ih =>
    rw [List.mapM_cons, List.flatMap_cons]
    refine (each item).bind fun b _ => ?_
    rw [← List.append_nil (items.flatMap found)]
    exact ih.bind fun others _ => (quiet_pure (b :: others)).warns

theorem Quiet.mapM {f : α → Journaled β} (each : ∀ item, Quiet (f item)) (items : List α) :
    Quiet (items.mapM f) := by
  induction items with
  | nil => exact quiet_pure []
  | cons item items ih =>
    rw [List.mapM_cons]
    exact (each item).bind fun b => ih.bind fun others => quiet_pure (b :: others)

theorem InStep.forM {f g : α → Journaled PUnit} {items : List α} (each : ∀ item ∈ items, InStep (f item) (g item)) :
    InStep (items.forM f) (items.forM g) := by
  induction items with
  | nil => exact (quiet_pure _).inStep
  | cons item items ih =>
    exact (each item List.mem_cons_self).bind fun _ => ih fun item mem => each item (List.mem_cons_of_mem _ mem)

theorem Warns.forM {f : α → Journaled PUnit} {found : α → List Undefined} {items : List α}
    (each : ∀ item ∈ items, Warns (f item) (found item)) : Warns (items.forM f) (items.flatMap found) := by
  induction items with
  | nil => exact (quiet_pure _).warns
  | cons item items ih =>
    rw [List.flatMap_cons]
    exact (each item List.mem_cons_self).bind fun _ _ =>
      ih fun item mem => each item (List.mem_cons_of_mem _ mem)

/-! ## Checks -/

namespace Macros

theorem warnings_note {name : Text} (named : isName name = true) (place : String) :
    warnings [Undefined.note ⟨name, place⟩] = [⟨name, place⟩] := by
  rw [warnings, List.filterMap_cons, Undefined.ofNote?_note (not_mem_of_isName named rfl)]
  rfl

section Checks

variable {permissive strict : Settings} (isPermissive : permissive.isStrict = false)
  (isStrict : strict.isStrict = true)

include isPermissive isStrict in
theorem check_inStep (names : List Text) (text : Text) (place : String) :
    InStep (check permissive names text place) (check strict names text place) := by
  refine InStep.forM fun name mem => ?_
  split
  · exact (quiet_pure _).inStep
  · rw [isPermissive, if_neg Bool.false_ne_true]
    intro journal
    refine ⟨[Undefined.note ⟨name, place⟩], rfl, ?_⟩
    rw [warnings_note (mem_references.1 mem).1]
    rfl

include isPermissive in
theorem check_warns (names : List Text) (text : Text) (place : String) :
    Warns (check permissive names text place) (undefinedIn names text place) := by
  have found : undefinedIn names text place =
      (references text).flatMap fun name => if names.contains name then [] else [⟨name, place⟩] := by
    rw [undefinedIn, ← references_eq_placeholders]
    induction references text with
    | nil => rfl
    | cons name others ih =>
      rw [List.flatMap_cons, ← ih, List.filter_cons]
      cases names.contains name <;> rfl
  rw [found]
  refine Warns.forM fun name mem => ?_
  split
  · exact (quiet_pure _).warns
  · rw [isPermissive, if_neg Bool.false_ne_true]
    intro journal a now ended
    obtain rfl : journal ++ [Undefined.note ⟨name, place⟩] = now := congrArg Prod.snd ended
    rw [warnings_append, warnings_note (mem_references.1 mem).1]

/-! ## Tables of macros -/

def undefinedOf (macros : Macros) : List Undefined :=
  macros.flatMap fun (name, fragment) =>
    undefinedIn macros.names fragment ("macro '" ++ String.ofList name ++ "'")

include isPermissive isStrict in
theorem expand_inStep (macros : Macros) : InStep (expand permissive macros) (expand strict macros) := by
  unfold expand
  split
  · exact (quiet_pure _).inStep
  · split
    · exact (quiet_throw _).inStep
    · refine (InStep.forM fun entry _ => check_inStep isPermissive isStrict _ _ _).bind fun _ => ?_
      split
      · exact (quiet_note _ _).inStep.bind fun _ => (quiet_pure _).inStep
      · exact (quiet_throw _).inStep

include isPermissive in
theorem expand_warns (macros : Macros) : Warns (expand permissive macros) macros.undefinedOf := by
  unfold expand
  split
  · rename_i empty
    rw [List.isEmpty_iff.1 empty]
    exact (quiet_pure _).warns
  · split
    · exact fun _ _ _ ended => nomatch ended
    · rw [← List.append_nil macros.undefinedOf]
      refine (Warns.forM fun entry _ => check_warns isPermissive _ _ _).bind fun _ _ => ?_
      split
      · exact ((quiet_note _ _).bind fun _ => quiet_pure _).warns
      · exact (quiet_throw _).warns

end Checks

/-- Expansion leaves the names as they are, even if a table is expanded that has no expansion. -/
theorem names_of_settle? {limit count passes : Nat} {macros table : Macros}
    (h : settle? limit count macros = some (table, passes)) : table.names = macros.names := by
  have names_pass : ∀ macros : Macros, macros.pass.names = macros.names := by
    intro macros
    simp [pass, names]
  induction limit generalizing count macros with
  | zero => cases h
  | succ limit ih =>
    rw [settle?] at h
    split at h
    · obtain ⟨rfl, -⟩ := Prod.mk.inj (Option.some.inj h)
      exact names_pass macros
    · rw [ih h, names_pass]

theorem names_of_expand {settings : Settings} {macros table : Macros}
    (h : MayReturn (expand settings macros) table) : table.names = macros.names := by
  unfold expand at h
  split at h
  · rename_i empty
    rw [← h.of_pure, List.isEmpty_iff.1 empty]
  · split at h
    · exact absurd h not_mayReturn_throw
    · obtain ⟨_, -, h⟩ := h.of_bind
      split at h
      · rename_i settled
        obtain ⟨_, -, h⟩ := h.of_bind
        rw [← h.of_pure]
        exact names_of_settle? settled
      · exact absurd h not_mayReturn_throw

end Macros

end LexGen
