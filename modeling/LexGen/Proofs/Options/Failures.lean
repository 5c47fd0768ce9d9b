import LexGen.Options
import LexGen.Proofs.Failure

/-!
# How reading options fails

An options block is refused with an error of the compiler, unless an option that has to be a text is given an integer of
too many digits to be written.
-/

namespace LexGen

namespace Options

/-- An option that has to be a text is given a value with an integer of too many digits in it. -/
def HasLong (entries : List (Value × Value)) : Prop :=
  ∃ name ∈ ["moduleType", "moduleName"], ∃ value, (.str name, value) ∈ entries ∧ value.holdsLong = true

end Options

theorem Convention.failsWith_ofValue (v : Value) :
    FailsWith (Error.Expected fun f => f = .badValue ∧ v.holdsLong = true) (Convention.ofValue v) := by
  unfold Convention.ofValue
  split
  · exact .ok _
  · exact .ok _
  · refine (failsWith_told v).lift.bind fun name _ => ?_
    split
    · exact .ok _
    · exact .error (.own rfl)

namespace Options

theorem failsWith_moduleNameOf (v : Value) :
    FailsWith (fun f => f = .badValue ∧ v.holdsLong = true) (moduleNameOf v) := by
  unfold moduleNameOf
  split
  · exact failsWith_told v
  · exact .ok _

theorem failsWith_readModuleName (v : Value) :
    FailsWith (Error.Expected fun f => f = .badValue ∧ v.holdsLong = true) (readModuleName v) := by
  refine (failsWith_moduleNameOf v).lift.bind fun name _ => ?_
  split
  · exact .error (.own rfl)
  · split
    · exact .error (.own rfl)
    · exact .ok _

theorem failsWith_ofEntries (entries : List (Value × Value)) :
    FailsWith (Error.Expected fun f => f = .badValue ∧ HasLong entries) (ofEntries entries) := by
  refine .foldlM (P := fun _ => True) (fun entry mem options _ => ⟨?_, fun _ _ => trivial⟩) trivial
  unfold Options.readEntry
  split
  case h_5 value =>
    refine ((Convention.failsWith_ofValue value).mono fun _ => .mono ?_).bind fun _ _ => .ok _
    exact fun _ ⟨same, long⟩ => ⟨same, "moduleType", by simp, value, mem, long⟩
  case h_6 value =>
    refine ((failsWith_readModuleName value).mono fun _ => .mono ?_).bind fun _ _ => .ok _
    exact fun _ ⟨same, long⟩ => ⟨same, "moduleName", by simp, value, mem, long⟩
  all_goals exact .ok _

end Options

end LexGen
