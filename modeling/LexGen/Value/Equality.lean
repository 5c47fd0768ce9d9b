import LexGen.Value.Basic

/-!
# Equality of values and look-up in mappings

Numbers are equal when they count the same, whatever their type: `1`, `1.0` and `True` are one key of a
mapping. Lists and tuples are equal item by item, sets and mappings whatever the order.
-/

namespace LexGen.Value

/-- Equality of numbers of any type. `none` if one of the values is no number. -/
def sameNumber? : Value → Value → Option Bool
  | float x, float y => some (x.same y)
  | float x, y => y.integer?.map x.sameInt
  | x, float y => x.integer?.map y.sameInt
  | x, y =>
    match x.integer?, y.integer? with
    | some i, some j => some (i == j)
    | _, _ => Option.none

mutual

def same : Value → Value → Bool
  | none, none => true
  | str s, str t => s == t
  | bytes s, bytes t => s == t
  | list xs, list ys => sameItems xs ys
  | tuple xs, tuple ys => sameItems xs ys
  | set xs, set ys => xs.length == ys.length && subset xs ys
  | dict xs, dict ys => xs.length == ys.length && subentries xs ys
  | pattern p f, pattern q g => p == q && f == g
  | callable c, callable d => c == d
  | convention c, convention d => c == d
  | location l, location m => l == m
  | scanner, scanner => true
  | object k, object l => k == l
  | reference r, reference s => r == s
  | x, y => (sameNumber? x y).getD false

def sameItems : List Value → List Value → Bool
  | [], [] => true
  | x :: xs, y :: ys => same x y && sameItems xs ys
  | _, _ => false

def subset : List Value → List Value → Bool
  | [], _ => true
  | x :: xs, ys => ys.any (same x) && subset xs ys

def subentries : List (Value × Value) → List (Value × Value) → Bool
  | [], _ => true
  | (k, v) :: xs, ys => ys.any (fun entry => same k entry.1 && same v entry.2) && subentries xs ys

end

instance : BEq Value := ⟨same⟩

def lookup (key : Value) : List (Value × Value) → Option Value
  | [] => Option.none
  | (k, v) :: entries => if same k key then some v else lookup key entries

def get? (entries : List (Value × Value)) (name : String) : Option Value :=
  lookup (str name) entries

/-- Put a value under a key: in the place of an equal key, or else at the end. -/
def insert (key value : Value) : List (Value × Value) → List (Value × Value)
  | [] => [(key, value)]
  | (k, v) :: entries => if same k key then (k, value) :: entries else (k, v) :: insert key value entries

def dictOf (entries : List (Value × Value)) : List (Value × Value) :=
  entries.foldl (fun table entry => insert entry.1 entry.2 table) []

def distinct (items : List Value) : List Value :=
  items.foldl (fun seen item => if seen.any (same item) then seen else seen ++ [item]) []

mutual

def hashable : Value → Bool
  | list _ | set _ | dict _ | options _ | grammar _ | location _ => false
  | tuple items => allHashable items
  | _ => true

def allHashable : List Value → Bool
  | [] => true
  | item :: items => hashable item && allHashable items

end

end LexGen.Value
