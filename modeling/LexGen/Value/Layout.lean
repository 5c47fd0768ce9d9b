import LexGen.Value.Display

/-!
# Layout of values

A value is shown on one line if it fits, and otherwise the items of lists and mappings stand on lines of
their own, aligned after the opening bracket.
-/

namespace LexGen.Value

def lineWidth : Nat := 80

def itemBreak (column : Nat) : Text := [',', '\n'] ++ List.replicate column ' '

mutual

/-- Show a value that begins at the given column and that `reserved` characters follow on its last line. -/
def laidOut (column reserved : Nat) (v : Value) : Text :=
  let line := v.display.toList
  if column + line.length + reserved ≤ lineWidth then line
  else
    match v with
    | list items => '[' :: laidOutItems (column + 1) (reserved + 1) items ++ [']']
    | dict entries => '{' :: laidOutEntries (column + 1) (reserved + 1) entries ++ ['}']
    | _ => line

def laidOutItems (column reserved : Nat) : List Value → Text
  | [] => []
  | [item] => laidOut column reserved item
  | item :: items => laidOut column 1 item ++ itemBreak column ++ laidOutItems column reserved items

def laidOutEntries (column reserved : Nat) : List (Value × Value) → Text
  | [] => []
  | [(key, item)] =>
    let shown := key.display.toList
    shown ++ [':', ' '] ++ laidOut (column + shown.length + 2) reserved item
  | (key, item) :: entries =>
    let shown := key.display.toList
    shown ++ [':', ' '] ++ laidOut (column + shown.length + 2) 1 item ++ itemBreak column ++
      laidOutEntries column reserved entries

end

end LexGen.Value
