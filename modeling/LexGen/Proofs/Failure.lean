import LexGen.Error
import LexGen.Proofs.Outcome

/-!
# How computations fail

* `FailsWith`: what the errors of a computation are. A sequence fails with what one of its steps fails with.
* `Error.Expected`: an error of the compiler, or a fault for which there is a known cause.
-/

namespace LexGen

variable {ε α β : Type}

/-! ## Errors of computations -/

def FailsWith (allowed : ε → Prop) (x : Except ε α) : Prop := ∀ e, x = .error e → allowed e

namespace FailsWith

variable {allowed wider : ε → Prop} {x : Except ε α}

theorem ok (a : α) : FailsWith allowed (.ok a : Except ε α) := fun _ failed => nomatch failed

theorem error {e : ε} (h : allowed e) : FailsWith allowed (.error e : Except ε α) :=
  fun _ failed => Except.error.inj failed ▸ h

theorem mono (h : FailsWith allowed x) (le : ∀ e, allowed e → wider e) : FailsWith wider x :=
  fun e failed => le e (h e failed)

theorem bind {f : α → Except ε β} (first : FailsWith allowed x) (next : ∀ a, x = .ok a → FailsWith allowed (f a)) :
    FailsWith allowed (x >>= f) := by
  cases x with
  | error e => exact error (first e rfl)
  | ok a => exact next a rfl

theorem mapM {f : α → Except ε β} {items : List α} (each : ∀ item ∈ items, FailsWith allowed (f item)) :
    FailsWith allowed (items.mapM f) := by
  induction items with
  | nil => exact ok []
  | cons item items ih =>
    obtain ⟨first, others⟩ := List.forall_mem_cons.1 each
    rw [List.mapM_cons]
    exact first.bind fun b _ => (ih others).bind fun results _ => ok (b :: results)

theorem forM {f : α → Except ε Unit} {items : List α} (each : ∀ item ∈ items, FailsWith allowed (f item)) :
    FailsWith allowed (items.forM f) := by
  induction items with
  | nil => exact ok ()
  | cons item items ih =>
    obtain ⟨first, others⟩ := List.forall_mem_cons.1 each
    exact first.bind fun _ _ => ih others

/-- A fold whose steps keep `P` fails with what a step fails with that begins with `P`. -/
theorem foldlM {P : β → Prop} {f : β → α → Except ε β} {items : List α}
    (step : ∀ item ∈ items, ∀ b, P b → FailsWith allowed (f b item) ∧ ∀ next, f b item = .ok next → P next) {b : β}
    (first : P b) : FailsWith allowed (items.foldlM f b) := by
  induction items generalizing b with
  | nil => exact ok b
  | cons item items ih =>
    obtain ⟨one, others⟩ := List.forall_mem_cons.1 step
    obtain ⟨fails, keeps⟩ := one b first
    rw [List.foldlM_cons]
    exact fails.bind fun next stepped => ih others (keeps next stepped)

end FailsWith

/-! ## Errors of computations with a state -/

def MayFailWith {S : Type} (allowed : ε → Prop) (x : ExceptT ε (StateM S) α) : Prop := ∀ e, MayFail x e → allowed e

namespace MayFailWith

variable {S : Type} {allowed wider : ε → Prop}

theorem lift {x : Except ε α} (h : FailsWith allowed x) :
    MayFailWith allowed (liftM x : ExceptT ε (StateM S) α) := fun e ⟨_, failed⟩ => h e failed

theorem pure (a : α) : MayFailWith allowed (Pure.pure a : ExceptT ε (StateM S) α) :=
  fun _ failed => (not_mayFail_pure failed).elim

theorem mono {x : ExceptT ε (StateM S) α} (h : MayFailWith allowed x) (le : ∀ e, allowed e → wider e) :
    MayFailWith wider x := fun e failed => le e (h e failed)

theorem bind {x : ExceptT ε (StateM S) α} {f : α → ExceptT ε (StateM S) β} (first : MayFailWith allowed x)
    (next : ∀ a, MayReturn x a → MayFailWith allowed (f a)) : MayFailWith allowed (x >>= f) := by
  rintro e ⟨s, failed⟩
  rw [run_bind] at failed
  split at failed
  · rename_i a between returned
    exact next a ⟨s, by rw [returned]⟩ e ⟨between, failed⟩
  · rename_i e' between ended
    exact first e ⟨s, by rw [ended, Except.error.inj failed]⟩

theorem mapM {f : α → ExceptT ε (StateM S) β} {items : List α} (each : ∀ item ∈ items, MayFailWith allowed (f item)) :
    MayFailWith allowed (items.mapM f) := by
  induction items with
  | nil => exact pure []
  | cons item items ih =>
    obtain ⟨first, others⟩ := List.forall_mem_cons.1 each
    rw [List.mapM_cons]
    exact first.bind fun b _ => (ih others).bind fun results _ => pure (b :: results)

end MayFailWith

/-! ## Errors of the compiler -/

namespace Error

/-- Whether an error is one of the compiler: neither a fault of code or of a value, nor input that is not matched. -/
def isOwn : Error → Bool
  | fault _ | lexical .. => false
  | _ => true

abbrev IsOwn (e : Error) : Prop := e.isOwn = true

/-- An error of the compiler, or a fault with a cause. -/
inductive Expected (cause : Fault → Prop) : Error → Prop
  | own {e : Error} (h : e.IsOwn) : Expected cause e
  | fault {f : Fault} (h : cause f) : Expected cause (.fault f)

theorem Expected.mono {cause other : Fault → Prop} (le : ∀ f, cause f → other f) {e : Error} (h : e.Expected cause) :
    e.Expected other := by
  cases h with
  | own h => exact .own h
  | fault h => exact .fault (le _ h)

end Error

def faultOf : Except Error α → Option String
  | .error (.fault f) => some f.name
  | _ => none

theorem exists_fault_of_faultOf {x : Except Error α} {name : String} (h : faultOf x = some name) :
    ∃ f, x = .error (.fault f) ∧ f.name = name := by
  unfold faultOf at h
  split at h
  · exact ⟨_, rfl, Option.some.inj h⟩
  · cases h

theorem FailsWith.own {cause : Fault → Prop} {x : Except Error α} (h : FailsWith Error.IsOwn x) :
    FailsWith (Error.Expected cause) x := h.mono fun _ => .own

theorem FailsWith.lift {cause : Fault → Prop} {x : Except Fault α} (h : FailsWith cause x) :
    FailsWith (Error.Expected cause) (liftM x : Except Error α) := by
  cases x with
  | error f => exact .error (.fault (h f rfl))
  | ok a => exact .ok a

/-! ## Texts of values -/

theorem Value.shown_eq {v : Value} (short : v.holdsLong = false) : v.shown = .ok v.display :=
  if_neg (by simp [short])

theorem failsWith_shown (v : Value) : FailsWith (fun f => f = .badValue ∧ v.holdsLong = true) v.shown := by
  unfold Value.shown
  split
  · rename_i long
    exact .error ⟨rfl, long⟩
  · exact .ok _

theorem failsWith_told (v : Value) : FailsWith (fun f => f = .badValue ∧ v.holdsLong = true) v.told := by
  unfold Value.told
  split
  · rename_i long
    exact .error ⟨rfl, long⟩
  · exact .ok _

end LexGen
