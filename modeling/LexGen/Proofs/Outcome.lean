import Mathlib.Data.List.Forall2
import Mathlib.Control.Lawful

/-!
# What computations yield

A computation yields a value or an error. One with a state leaves a state in any case; these properties do not
mention it.

* `Returns`: a computation yields a value, whatever state it begins in.
* `MayReturn`: a computation yields a value from some state. A sequence that does has gone through all its
  steps.
* `MayFail`: a computation yields an error from some state.
* `Yields`: what a computation may yield another one always yields.
* `Agree`: two results that are related values or the same error.
-/

namespace LexGen

variable {ε S α β : Type}

/-! ## Results -/

theorem ok_of_bind {x : Except ε α} {f : α → Except ε β} {b : β} (h : x >>= f = .ok b) :
    ∃ a, x = .ok a ∧ f a = .ok b := by
  cases x with
  | error e => cases h
  | ok a => exact ⟨a, rfl, h⟩

theorem exists_ok_of_any {x : Except ε α} {p : α → Bool} (h : x.toOption.any p = true) :
    ∃ a, x = .ok a ∧ p a = true := by
  cases x with
  | error e => cases h
  | ok a => exact ⟨a, rfl, h⟩

theorem invariant_of_foldlM {f : β → α → Except ε β} {P : β → Prop} {items : List α}
    (step : ∀ b, ∀ item ∈ items, ∀ next, P b → f b item = .ok next → P next) {b last : β} (first : P b)
    (h : items.foldlM f b = .ok last) : P last := by
  induction items generalizing b with
  | nil => exact Except.ok.inj h ▸ first
  | cons item items ih =>
    rw [List.foldlM_cons] at h
    obtain ⟨next, stepped, h⟩ := ok_of_bind h
    have others := fun b item mem => step b item (List.mem_cons_of_mem _ mem)
    exact ih others (step b item List.mem_cons_self next first stepped) h

theorem exists_ok_foldlM (f : β → α → Except ε β) {items : List α}
    (each : ∀ item ∈ items, ∀ b, ∃ b', f b item = .ok b') (b : β) : ∃ b', items.foldlM f b = .ok b' := by
  induction items generalizing b with
  | nil => exact ⟨b, rfl⟩
  | cons item items ih =>
    obtain ⟨between, first⟩ := each item List.mem_cons_self b
    obtain ⟨after, others⟩ := ih (fun item mem => each item (List.mem_cons_of_mem _ mem)) between
    exact ⟨after, by rw [List.foldlM_cons, first]; exact others⟩

theorem exists_of_foldlM_ok {f : β → α → Except ε β} {items : List α} {b last : β}
    (h : items.foldlM f b = .ok last) : ∀ item ∈ items, ∃ before after, f before item = .ok after := by
  induction items generalizing b with
  | nil => simp
  | cons item items ih =>
    rw [List.foldlM_cons] at h
    obtain ⟨between, stepped, h⟩ := ok_of_bind h
    exact List.forall_mem_cons.2 ⟨⟨b, between, stepped⟩, ih h⟩

theorem exists_error_of_foldlM {f : β → α → Except ε β} {items : List α} {b : β} {e : ε}
    (h : items.foldlM f b = .error e) : ∃ item ∈ items, ∃ before, f before item = .error e := by
  induction items generalizing b with
  | nil => cases h
  | cons item items ih =>
    rw [List.foldlM_cons] at h
    cases stepped : f b item with
    | error e' =>
      rw [stepped] at h
      exact ⟨item, List.mem_cons_self, b, by rw [stepped]; exact h⟩
    | ok between =>
      rw [stepped] at h
      obtain ⟨other, mem, failed⟩ := ih h
      exact ⟨other, List.mem_cons_of_mem _ mem, failed⟩

theorem mapM_eq_pure {m : Type → Type} [Monad m] [LawfulMonad m] {f : α → m β} {g : α → β} {items : List α}
    (each : ∀ item ∈ items, f item = pure (g item)) : items.mapM f = pure (items.map g) := by
  induction items with
  | nil => exact List.mapM_nil
  | cons item items ih =>
    rw [List.mapM_cons, each item List.mem_cons_self, pure_bind,
      ih fun item mem => each item (List.mem_cons_of_mem _ mem), pure_bind]
    rfl

theorem forM_eq_ok {f : α → Except ε PUnit} {items : List α} (each : ∀ item ∈ items, f item = .ok ⟨⟩) :
    items.forM f = .ok ⟨⟩ := by
  induction items with
  | nil => rfl
  | cons item items ih =>
    rw [List.forM_eq_forM, List.forM_cons, each item List.mem_cons_self]
    exact ih fun item mem => each item (List.mem_cons_of_mem _ mem)

theorem ok_of_forM {f : α → Except ε Unit} {items : List α} (h : items.forM f = .ok ()) :
    ∀ item ∈ items, f item = .ok () := by
  induction items with
  | nil => simp
  | cons first items ih =>
    obtain ⟨_, one, others⟩ := ok_of_bind (f := fun _ => items.forM f) h
    exact List.forall_mem_cons.2 ⟨one, ih others⟩

theorem exists_of_mem_forall₂ {R : α → β → Prop} {items : List α} {results : List β}
    (h : List.Forall₂ R items results) {b : β} (mem : b ∈ results) : ∃ item ∈ items, R item b := by
  induction h with
  | nil => cases mem
  | @cons item result items results first _ ih =>
    rcases List.mem_cons.1 mem with rfl | mem
    · exact ⟨item, List.mem_cons_self, first⟩
    · obtain ⟨other, otherMem, related⟩ := ih mem
      exact ⟨other, List.mem_cons_of_mem _ otherMem, related⟩

theorem exists_getElem?_of_forall₂ {R : α → β → Prop} {items : List α} {results : List β}
    (h : List.Forall₂ R items results) {i : Nat} {item : α} (found : items[i]? = some item) :
    ∃ b, results[i]? = some b ∧ R item b := by
  induction h generalizing i with
  | nil => cases found
  | @cons first result items results related _ ih =>
    cases i with
    | zero => exact ⟨result, rfl, Option.some.inj found ▸ related⟩
    | succ i => exact ih found

theorem forall₂_of_mapM {f : α → Except ε β} {items : List α} {results : List β}
    (h : items.mapM f = .ok results) : List.Forall₂ (fun item b => f item = .ok b) items results := by
  induction items generalizing results with
  | nil =>
    rw [List.mapM_nil] at h
    exact Except.ok.inj h ▸ .nil
  | cons item items ih =>
    rw [List.mapM_cons] at h
    obtain ⟨b, first, h⟩ := ok_of_bind h
    obtain ⟨others, rest, h⟩ := ok_of_bind h
    exact Except.ok.inj h ▸ .cons first (ih rest)

theorem mapM_of_forall₂ {f : α → Except ε β} {items : List α} {results : List β}
    (h : List.Forall₂ (fun item b => f item = .ok b) items results) : items.mapM f = .ok results := by
  induction h with
  | nil => exact List.mapM_nil
  | cons first _ ih =>
    rw [List.mapM_cons, first, ih]
    rfl

theorem forall₂_zipIdx {R : α → β → Prop} {S : α × Nat → β × Nat → Prop} {items : List α} {others : List β}
    (h : List.Forall₂ R items others) (each : ∀ a b i, R a b → S (a, i) (b, i)) (start : Nat) :
    List.Forall₂ S (items.zipIdx start) (others.zipIdx start) := by
  induction h generalizing start with
  | nil => exact .nil
  | cons first _ ih => exact .cons (each _ _ _ first) (ih (start + 1))

theorem mapM_eq_of_forall₂ {m : Type → Type} [Monad m] [LawfulMonad m] {γ : Type} {f : α → m γ} {g : β → m γ}
    {items : List α} {others : List β} (h : List.Forall₂ (fun a b => g b = f a) items others) :
    others.mapM g = items.mapM f := by
  induction h with
  | nil => rw [List.mapM_nil, List.mapM_nil]
  | cons first _ ih => rw [List.mapM_cons, List.mapM_cons, first, ih]

theorem forM_eq_of_forall₂ {m : Type → Type} [Monad m] {f : α → m PUnit} {g : β → m PUnit}
    {items : List α} {others : List β} (h : List.Forall₂ (fun a b => g b = f a) items others) :
    others.forM g = items.forM f := by
  induction h with
  | nil => rfl
  | cons first _ ih => rw [List.forM_eq_forM, List.forM_eq_forM, List.forM_cons, List.forM_cons, first,
      ← List.forM_eq_forM, ← List.forM_eq_forM, ih]

/-! ## Runs -/

theorem run_bind (x : ExceptT ε (StateM S) α) (f : α → ExceptT ε (StateM S) β) (s : S) :
    (x >>= f).run.run s =
      match x.run.run s with
      | (.ok a, between) => (f a).run.run between
      | (.error e, between) => (.error e, between) := by
  simp only [ExceptT.run_bind, StateT.run_bind]
  rcases x.run.run s with ⟨_ | _, between⟩ <;> rfl

/-! ## Computations that yield a value -/

def Returns (x : ExceptT ε (StateM S) α) (a : α) : Prop := ∀ s, (x.run.run s).1 = .ok a

theorem returns_pure (a : α) : Returns (pure a : ExceptT ε (StateM S) α) a := fun _ => rfl

theorem Returns.bind {x : ExceptT ε (StateM S) α} {f : α → ExceptT ε (StateM S) β} {a : α} {b : β}
    (h : Returns x a) (next : Returns (f a) b) : Returns (x >>= f) b := by
  intro s
  rw [run_bind]
  rcases ended : x.run.run s with ⟨result, between⟩
  obtain rfl : result = .ok a := by rw [← h s, ended]
  exact next between

theorem returns_forM {f : α → ExceptT ε (StateM S) PUnit} {items : List α}
    (each : ∀ item ∈ items, Returns (f item) ⟨⟩) : Returns (items.forM f) ⟨⟩ := by
  induction items with
  | nil => exact returns_pure _
  | cons item items ih =>
    change Returns (f item >>= fun _ => items.forM f) ⟨⟩
    exact (each item List.mem_cons_self).bind (ih fun item mem => each item (List.mem_cons_of_mem _ mem))

/-! ## Computations that have yielded a value -/

def MayReturn (x : ExceptT ε (StateM S) α) (a : α) : Prop := ∃ s, (x.run.run s).1 = .ok a

theorem MayReturn.of_pure {a b : α} (h : MayReturn (pure a : ExceptT ε (StateM S) α) b) : a = b :=
  let ⟨_, same⟩ := h
  Except.ok.inj same

theorem MayReturn.of_lift {x : Except ε α} {a : α} (h : MayReturn (liftM x : ExceptT ε (StateM S) α) a) :
    x = .ok a :=
  let ⟨_, same⟩ := h
  same

theorem not_mayReturn_throw {e : ε} {a : α} : ¬ MayReturn (throw e : ExceptT ε (StateM S) α) a :=
  fun ⟨_, same⟩ => nomatch same

theorem MayReturn.of_bind {x : ExceptT ε (StateM S) α} {f : α → ExceptT ε (StateM S) β} {b : β}
    (h : MayReturn (x >>= f) b) : ∃ a, MayReturn x a ∧ MayReturn (f a) b := by
  obtain ⟨s, ended⟩ := h
  rw [run_bind] at ended
  split at ended
  · rename_i a between first
    exact ⟨a, ⟨s, by rw [first]⟩, between, ended⟩
  · cases ended

theorem MayReturn.of_mapM {f : α → ExceptT ε (StateM S) β} {items : List α} {results : List β}
    (h : MayReturn (items.mapM f) results) : List.Forall₂ (fun item b => MayReturn (f item) b) items results := by
  induction items generalizing results with
  | nil =>
    rw [List.mapM_nil] at h
    rw [← h.of_pure]
    exact .nil
  | cons item items ih =>
    rw [List.mapM_cons] at h
    obtain ⟨b, first, h⟩ := h.of_bind
    obtain ⟨others, rest, h⟩ := h.of_bind
    rw [← h.of_pure]
    exact .cons first (ih rest)

theorem MayReturn.of_forM {f : α → ExceptT ε (StateM S) PUnit} {items : List α}
    (h : MayReturn (items.forM f) ⟨⟩) : ∀ item ∈ items, MayReturn (f item) ⟨⟩ := by
  induction items with
  | nil => simp
  | cons first items ih =>
    obtain ⟨_, one, others⟩ := MayReturn.of_bind (f := fun _ => items.forM f) h
    exact List.forall_mem_cons.2 ⟨one, ih others⟩

theorem Returns.eq_of_mayReturn {x : ExceptT ε (StateM S) α} {a b : α} (h : Returns x a) (h' : MayReturn x b) :
    a = b := by
  obtain ⟨s, ended⟩ := h'
  exact Except.ok.inj ((h s).symm.trans ended)

/-! ## Computations that have failed -/

def MayFail (x : ExceptT ε (StateM S) α) (e : ε) : Prop := ∃ s, (x.run.run s).1 = .error e

theorem MayFail.of_throw {e e' : ε} (h : MayFail (throw e : ExceptT ε (StateM S) α) e') : e = e' :=
  let ⟨_, same⟩ := h
  Except.error.inj same

theorem not_mayFail_pure {a : α} {e : ε} : ¬ MayFail (pure a : ExceptT ε (StateM S) α) e :=
  fun ⟨_, same⟩ => nomatch same

theorem MayFail.of_bind {x : ExceptT ε (StateM S) α} {f : α → ExceptT ε (StateM S) β} {e : ε}
    (h : MayFail (x >>= f) e) : MayFail x e ∨ ∃ a, MayFail (f a) e := by
  obtain ⟨s, ended⟩ := h
  rw [run_bind] at ended
  split at ended
  · rename_i a between _
    exact Or.inr ⟨a, between, ended⟩
  · rename_i first
    exact Or.inl ⟨s, by rw [first, Except.error.inj ended]⟩

theorem MayFail.of_forM {f : α → ExceptT ε (StateM S) PUnit} {items : List α} {e : ε}
    (h : MayFail (items.forM f) e) : ∃ item ∈ items, MayFail (f item) e := by
  induction items with
  | nil => exact absurd h not_mayFail_pure
  | cons first items ih =>
    rcases MayFail.of_bind (f := fun _ => items.forM f) h with one | ⟨_, others⟩
    · exact ⟨first, List.mem_cons_self, one⟩
    · obtain ⟨item, mem, failed⟩ := ih others
      exact ⟨item, List.mem_cons_of_mem _ mem, failed⟩

/-! ## Computations that yield what others have yielded -/

def Yields (x y : ExceptT ε (StateM S) α) : Prop := ∀ a, MayReturn x a → Returns y a

namespace Yields

variable {x y : ExceptT ε (StateM S) α} {f g : α → ExceptT ε (StateM S) β}

theorem lift (x : Except ε α) : Yields (liftM x : ExceptT ε (StateM S) α) (liftM x) :=
  fun _ h _ => h.of_lift

theorem pure (a : α) : Yields (Pure.pure a : ExceptT ε (StateM S) α) (Pure.pure a) := by
  intro b h
  rw [h.of_pure]
  exact returns_pure b

theorem bind (first : Yields x y) (next : ∀ a, MayReturn x a → Yields (f a) (g a)) :
    Yields (x >>= f) (y >>= g) := by
  intro b h
  obtain ⟨a, returned, h⟩ := h.of_bind
  exact (first a returned).bind (next a returned b h)

theorem mapM {items : List α} (each : ∀ item ∈ items, Yields (f item) (g item)) :
    Yields (items.mapM f) (items.mapM g) := by
  induction items with
  | nil => exact pure []
  | cons item items ih =>
    rw [List.mapM_cons, List.mapM_cons]
    refine (each item List.mem_cons_self).bind fun b _ => ?_
    exact (ih fun item mem => each item (List.mem_cons_of_mem _ mem)).bind fun others _ => pure (b :: others)

end Yields

/-! ## Results that agree -/

/-- Two results that are values in a relation, or the same error. -/
inductive Agree (R : α → β → Prop) : Except ε α → Except ε β → Prop
  | ok {a : α} {b : β} : R a b → Agree R (.ok a) (.ok b)
  | error (e : ε) : Agree R (.error e) (.error e)

namespace Agree

variable {γ δ : Type} {R : α → β → Prop} {S : γ → δ → Prop}

theorem same (x : Except ε α) : Agree Eq x x := by
  cases x with
  | error e => exact .error e
  | ok a => exact .ok rfl

theorem ok_or_error {x : Except ε α} {y : Except ε β} (h : Agree R x y) :
    (∃ a b, x = .ok a ∧ y = .ok b ∧ R a b) ∨ ∃ e, x = .error e ∧ y = .error e := by
  cases h with
  | ok related => exact .inl ⟨_, _, rfl, rfl, related⟩
  | error e => exact .inr ⟨e, rfl, rfl⟩

theorem exists_of_isSome {x : Except ε α} {y : Except ε β} (h : Agree R x y) (made : x.toOption.isSome = true) :
    ∃ a b, x = .ok a ∧ y = .ok b ∧ R a b := by
  rcases h.ok_or_error with related | ⟨e, failed, -⟩
  · exact related
  · rw [failed] at made
    cases made

theorem bind {x : Except ε α} {y : Except ε β} {f : α → Except ε γ} {g : β → Except ε δ} (first : Agree R x y)
    (next : ∀ a b, R a b → Agree S (f a) (g b)) : Agree S (x >>= f) (y >>= g) := by
  cases first with
  | ok related => exact next _ _ related
  | error e => exact .error e

theorem bind_same (x : Except ε α) {f : α → Except ε γ} {g : α → Except ε δ} (next : ∀ a, Agree S (f a) (g a)) :
    Agree S (x >>= f) (x >>= g) :=
  (same x).bind fun a _ h => h ▸ next a

theorem mapM {f : α → Except ε γ} {g : β → Except ε δ} {items : List α} {others : List β}
    (each : List.Forall₂ (fun a b => Agree S (f a) (g b)) items others) :
    Agree (List.Forall₂ S) (items.mapM f) (others.mapM g) := by
  induction each with
  | nil =>
    rw [List.mapM_nil, List.mapM_nil]
    exact .ok .nil
  | cons first _ ih =>
    rw [List.mapM_cons, List.mapM_cons]
    exact first.bind fun a b h => ih.bind fun as bs hs => .ok (.cons h hs)

end Agree

end LexGen
