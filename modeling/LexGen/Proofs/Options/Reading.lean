import LexGen.Grammar
import LexGen.Proofs.Outcome

/-!
# Options that have been read

What reading an options block makes sure of: the options that are kept for the scanner are unknown ones, and the
name of the scanner is one that can be read again.
-/

namespace LexGen.Options

def knownNames : List String :=
  ["case-insensitive", "flex", "backtrack_lexer", "ranges", "moduleType", "moduleName"]

def isModuleName (name : String) : Bool :=
  isIdentifier name.toList && !keywords.contains name && !isReserved name

structure Regular (options : Options) : Prop where
  unknown : ∀ entry ∈ options.extra, ∀ name ∈ knownNames, entry.1 ≠ .str name
  named : isModuleName options.moduleName = true

theorem regular_default : Regular {} where
  unknown := by simp
  named := by decide +kernel

theorem isModuleName_of_read {value : Value} {name : String} (h : readModuleName value = .ok name) :
    isModuleName name = true := by
  obtain ⟨given, -, h⟩ := ok_of_bind h
  split at h
  · cases h
  · split at h
    · cases h
    · rename_i valid free
      obtain rfl := Except.ok.inj h
      simp_all [isModuleName]

theorem readModuleName_str {name : String} (valid : isModuleName name = true) :
    readModuleName (.str name) = .ok name := by
  have nonempty : name ≠ "" := by
    rintro rfl
    exact absurd valid (by decide)
  have given : moduleNameOf (.str name) = .ok name := by
    rw [moduleNameOf, if_pos (by simpa [Value.truthy] using nonempty)]
    rfl
  simp only [isModuleName, Bool.and_eq_true, Bool.not_eq_true'] at valid
  unfold readModuleName
  rw [given]
  change (if !isIdentifier name.toList || keywords.contains name then _ else if isReserved name then _ else _) = _
  rw [valid.1.1, valid.1.2, valid.2]
  rfl

theorem Regular.readEntry {options next : Options} {entry : Value × Value} (regular : options.Regular)
    (h : options.readEntry entry = .ok next) : next.Regular := by
  unfold Options.readEntry at h
  split at h
  case h_5 value =>
    obtain ⟨c, -, h⟩ := ok_of_bind h
    exact Except.ok.inj h ▸ ⟨regular.unknown, regular.named⟩
  case h_6 value =>
    obtain ⟨name, read, h⟩ := ok_of_bind h
    exact Except.ok.inj h ▸ ⟨regular.unknown, isModuleName_of_read read⟩
  case h_7 key value _ _ _ _ _ _ =>
    obtain rfl := Except.ok.inj h
    refine ⟨fun entry mem name known same => ?_, regular.named⟩
    rcases List.mem_append.1 mem with old | new
    · exact regular.unknown entry old name known same
    · obtain rfl := List.mem_singleton.1 new
      obtain rfl : key = .str name := same
      simp_all [knownNames]
  all_goals exact Except.ok.inj h ▸ ⟨regular.unknown, regular.named⟩

theorem regular_ofEntries {entries : List (Value × Value)} {options : Options}
    (h : ofEntries entries = .ok options) : options.Regular :=
  invariant_of_foldlM (fun _ _ _ _ regular stepped => regular.readEntry stepped) regular_default h

theorem regular_ofValue {v : Value} {options : Options} (h : ofValue v = .ok options) : options.Regular := by
  unfold ofValue at h
  split at h
  · exact regular_ofEntries h
  · exact regular_ofEntries h
  · exact Except.ok.inj h ▸ regular_default
  · split at h
    · cases h
    · exact Except.ok.inj h ▸ regular_default

end LexGen.Options

/-! ## Grammars -/

namespace LexGen.Grammar

variable {grammar : Grammar}

theorem regular_of_ofEntries {entries : List (Value × Value)} (h : ofEntries entries = .ok grammar) :
    grammar.options.Regular := by
  obtain ⟨items, -, h⟩ := ok_of_bind h
  obtain ⟨rules, -, h⟩ := ok_of_bind h
  dsimp only at h
  split at h
  · obtain ⟨conditions, -, h⟩ := ok_of_bind h
    obtain ⟨options, optionsRead, h⟩ := ok_of_bind h
    obtain ⟨macros, -, h⟩ := ok_of_bind h
    obtain ⟨moduleInclude, -, h⟩ := ok_of_bind h
    rw [← Except.ok.inj h]
    exact Options.regular_ofValue optionsRead
  · cases h

theorem regular_of_ofForm {form : Value} (h : ofForm form = .ok grammar) : grammar.options.Regular := by
  unfold ofForm at h
  split at h
  · exact regular_of_ofEntries h
  · cases h

theorem regular_of_ofSource {parser : Option (Text → Except Error Value)} {source : Value}
    (h : ofSource parser source = .ok grammar) : grammar.options.Regular := by
  unfold ofSource at h
  split at h
  · rw [← Except.ok.inj h]
    exact Options.regular_default
  · exact regular_of_ofForm h
  · obtain ⟨decoded, -, h⟩ := ok_of_bind h
    unfold ofDecoded at h
    split at h
    · exact regular_of_ofEntries h
    · cases h
  · exact regular_of_ofForm h

end LexGen.Grammar
