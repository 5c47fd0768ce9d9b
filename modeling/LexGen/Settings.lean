import LexGen.Error
import LexGen.Value.Equality

/-!
# Settings

Settings apply to every compilation: how strictly references to macros are checked, and which skeleton the
emitted module is built on.
-/

namespace LexGen

/-- The ambient settings. Both are kept as they were given. -/
structure Settings where
  strict : Value := .bool false
  skeleton : Value := .str "python"

namespace Settings

def isStrict (settings : Settings) : Bool := settings.strict.truthy

/-- Read settings from a mapping. Unknown names are ignored. -/
def ofValue : Value → Except Error Settings
  | .dict entries =>
    .ok ⟨(Value.get? entries "strict_macros").getD (.bool false),
      (Value.get? entries "template").getD (.str "python")⟩
  | _ => .error (.fault .noAttribute)

end Settings

/-- The settings in force, with the settings to return to when the innermost scopes are left. -/
structure SettingsScope where
  current : Settings := {}
  outer : List Settings := []

namespace SettingsScope

def set (scope : SettingsScope) (settings : Settings) : SettingsScope :=
  { scope with current := settings }

def reset (scope : SettingsScope) : SettingsScope :=
  { scope with current := {} }

def enter (scope : SettingsScope) (settings : Settings) : SettingsScope :=
  ⟨settings, scope.current :: scope.outer⟩

def leave? (scope : SettingsScope) : Option SettingsScope :=
  match scope.outer with
  | [] => none
  | settings :: outer => some ⟨settings, outer⟩

end SettingsScope

end LexGen
