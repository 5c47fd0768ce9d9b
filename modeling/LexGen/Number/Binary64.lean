import LexGen.Text.Quoted

/-!
# Binary floating point

Numbers with a 53-bit significand, as in IEEE 754 binary64, decided by exact arithmetic on natural numbers.
A decimal is read as the nearest number, a tie going to the even significand; a number is written with the
fewest digits that read back, the nearest of those.
-/

namespace LexGen

/-- A floating-point number. A finite one is `±significand · 2 ^ exponent`, with a significand below `2 ^ 53`
that is at least `2 ^ 52` unless the exponent is the least one, `-1074`. -/
inductive Binary64 where
  | finite (negative : Bool) (significand : Nat) (exponent : Int)
  | infinite (negative : Bool)
  | undefined
  deriving DecidableEq, Repr

namespace Binary64

/-! ## Rounding -/

/-- The integer nearest to `num / den`; of two nearest, the even one. -/
def roundQuotient (num den : Nat) : Nat :=
  let floor := num / den
  let rest := num % den
  if 2 * rest < den || (2 * rest == den && floor % 2 == 0) then floor else floor + 1

def leastExponent : Int := -1074

def greatestExponent : Int := 971

/-- The numerator and denominator of `num / den / 2 ^ exponent`. -/
def scaled (num den : Nat) (exponent : Int) : Nat × Nat :=
  if exponent < 0 then (num * Nat.pow 2 (-exponent).toNat, den) else (num, den * Nat.pow 2 exponent.toNat)

/-- The exponent at which `num / den` has a significand of 53 bits, or the least exponent. -/
def fittingExponent (num den : Nat) : Int :=
  let lower : Int := (Nat.log2 num : Int) - Nat.log2 den - 53
  let (n, d) := scaled num den lower
  max leastExponent (if n / d < Nat.pow 2 53 then lower else lower + 1)

/-- The number nearest to `±num / den`. -/
def ofRatio (negative : Bool) (num den : Nat) : Binary64 :=
  if num = 0 then finite negative 0 leastExponent
  else
    let exponent := fittingExponent num den
    let (n, d) := scaled num den exponent
    let significand := roundQuotient n d
    let (significand, exponent) :=
      if significand = Nat.pow 2 53 then (Nat.pow 2 52, exponent + 1) else (significand, exponent)
    if greatestExponent < exponent then infinite negative else finite negative significand exponent

/-- The number nearest to `±digits · 10 ^ exponent`. Decimals far outside the range of finite numbers are
decided by their length. -/
def ofDecimal (negative : Bool) (digits : Nat) (exponent : Int) : Binary64 :=
  let size : Int := exponent + (Text.decimal digits).length
  if digits = 0 || size < -330 then finite negative 0 leastExponent
  else if 310 < size then infinite negative
  else if exponent < 0 then ofRatio negative digits (Nat.pow 10 (-exponent).toNat)
  else ofRatio negative (digits * Nat.pow 10 exponent.toNat) 1

def ofInt (i : Int) : Binary64 :=
  ofRatio (i < 0) i.natAbs 1

/-! ## Value and comparison -/

def ratio (significand : Nat) (exponent : Int) : Nat × Nat :=
  if exponent < 0 then (significand, Nat.pow 2 (-exponent).toNat) else (significand * Nat.pow 2 exponent.toNat, 1)

def fraction? : Binary64 → Option (Int × Nat)
  | finite negative significand exponent =>
    let (num, den) := ratio significand exponent
    some (if negative then -(num : Int) else num, den)
  | _ => none

def isZero : Binary64 → Bool
  | finite _ significand _ => significand == 0
  | _ => false

def same : Binary64 → Binary64 → Bool
  | undefined, _ => false
  | _, undefined => false
  | x, y => (x.isZero && y.isZero) || x == y

def sameInt (x : Binary64) (i : Int) : Bool :=
  match x.fraction? with
  | some (num, den) => num == i * den
  | none => false

def less : Binary64 → Binary64 → Bool
  | undefined, _ => false
  | _, undefined => false
  | infinite negative, y => negative && y != infinite true
  | x, infinite negative => !negative && x != infinite false
  | x, y =>
    match x.fraction?, y.fraction? with
    | some (n, d), some (n', d') => n * d' < n' * d
    | _, _ => false

def negate : Binary64 → Binary64
  | finite negative significand exponent => finite (!negative) significand exponent
  | infinite negative => infinite (!negative)
  | undefined => undefined

def ofFraction (num : Int) (den : Nat) : Binary64 :=
  ofRatio (num < 0) num.natAbs den

def add : Binary64 → Binary64 → Binary64
  | undefined, _ => undefined
  | _, undefined => undefined
  | infinite a, infinite b => if a = b then infinite a else undefined
  | infinite a, _ => infinite a
  | _, infinite b => infinite b
  | finite a m p, finite b n q =>
    if m = 0 && n = 0 then finite (a && b) 0 leastExponent
    else
      let (x, dx) := ratio m p
      let (y, dy) := ratio n q
      ofFraction ((if a then -(x : Int) else x) * dy + (if b then -(y : Int) else y) * dx) (dx * dy)

def mul : Binary64 → Binary64 → Binary64
  | undefined, _ => undefined
  | _, undefined => undefined
  | finite a m p, finite b n q =>
    let (x, dx) := ratio m p
    let (y, dy) := ratio n q
    ofRatio (a != b) (x * y) (dx * dy)
  | infinite a, finite b n _ => if n = 0 then undefined else infinite (a != b)
  | finite a m _, infinite b => if m = 0 then undefined else infinite (a != b)
  | infinite a, infinite b => infinite (a != b)

/-- The rounded power of a finite number that is not zero. A negative exponent stands for the reciprocal. -/
def power (x : Binary64) (exponent : Int) : Binary64 :=
  match x with
  | finite negative significand p =>
    let count := exponent.natAbs
    let (num, den) := ratio significand p
    let odd := negative && count % 2 == 1
    if exponent < 0 then ofRatio odd (den.pow count) (num.pow count)
    else ofRatio odd (num.pow count) (den.pow count)
  | x => x

/-! ## Writing -/

/-- `num / den · 10 ^ shift` as a fraction. -/
def shifted (num den : Nat) (shift : Int) : Nat × Nat :=
  if shift < 0 then (num, den * Nat.pow 10 (-shift).toNat) else (num * Nat.pow 10 shift.toNat, den)

/-- The number of digits before the decimal point of `num / den`, at most zero below one: the least `p` from
`start` on with `num / den < 10 ^ p`. -/
def pointFrom (num den : Nat) : (fuel : Nat) → (start : Int) → Int
  | 0, p => p
  | fuel + 1, p =>
    let (n, d) := shifted num den (-p)
    if n < d then p else pointFrom num den fuel (p + 1)

/-- The place of the decimal point of a positive fraction: `10 ^ (p - 1) ≤ num / den < 10 ^ p`. -/
def pointOf (num den : Nat) : Int :=
  let estimate := ((Nat.log2 num : Int) - Nat.log2 den - 1) * 30103 / 100000
  pointFrom num den 4 (estimate - 1)

/-- The two decimals with `count` digits next to `num / den`, as integers at the given place of the point,
the nearer one first. -/
def neighbours (num den : Nat) (point : Int) (count : Nat) : List Nat :=
  let (n, d) := shifted num den (count - point)
  let floor := n / d
  if roundQuotient n d = floor then [floor, floor + 1] else [floor + 1, floor]

/-- The digits of the shortest decimal with at least `count` digits that reads back. -/
def shortestFrom (significand : Nat) (exponent : Int) (num den : Nat) (point : Int) :
    (fuel count : Nat) → Nat × Int
  | 0, count => ((neighbours num den point count).headD 0, point - count)
  | fuel + 1, count =>
    let readsBack := fun (digits : Nat) =>
      ofDecimal false digits (point - count) == finite false significand exponent
    match (neighbours num den point count).find? readsBack with
    | some digits => (digits, point - count)
    | none => shortestFrom significand exponent num den point fuel (count + 1)

/-- The shortest decimal that reads back as a positive number: digits and the power of ten to scale by. -/
def shortest (significand : Nat) (exponent : Int) : Nat × Int :=
  let (num, den) := ratio significand exponent
  shortestFrom significand exponent num den (pointOf num den) 17 1

def withoutZeros (digits : Text) : Text :=
  Text.trimEndBy (· == '0') digits

/-- Write digits with the decimal point at `point`: positionally from `1e-4` up to below `1e16`, and with an
exponent of at least two digits elsewhere. -/
def layout (digits : Text) (point : Int) : Text :=
  if -4 < point && point ≤ 16 then
    if point ≤ 0 then ['0', '.'] ++ List.replicate (-point).toNat '0' ++ digits
    else
      let whole := digits.take point.toNat
      let whole := whole ++ List.replicate (point.toNat - whole.length) '0'
      let part := digits.drop point.toNat
      whole ++ '.' :: (if part.isEmpty then ['0'] else part)
  else
    let power := point - 1
    let sign := if power < 0 then '-' else '+'
    let size := Text.decimal power.natAbs
    let part := digits.drop 1
    digits.take 1 ++ (if part.isEmpty then [] else '.' :: part) ++
      ['e', sign] ++ (if size.length < 2 then '0' :: size else size)

def text : Binary64 → Text
  | undefined => ['n', 'a', 'n']
  | infinite negative => (if negative then ['-'] else []) ++ ['i', 'n', 'f']
  | finite negative significand exponent =>
    (if negative then ['-'] else []) ++
      if significand = 0 then ['0', '.', '0']
      else
        let (digits, power) := shortest significand exponent
        let all := Text.decimal digits
        layout (withoutZeros all) (power + all.length)

/-! ## Reading -/

def digitsValue (digits : Text) : Nat :=
  digits.foldl (fun n c => n * 10 + (c.toNat - 48)) 0

def exponentOf : Text → Int
  | '-' :: digits => -(digitsValue digits : Int)
  | '+' :: digits => digitsValue digits
  | digits => digitsValue digits

def ofText (negative : Bool) (text : Text) : Binary64 :=
  let isExponent := fun c => c == 'e' || c == 'E'
  let body := text.takeWhile (!isExponent ·)
  let power := exponentOf ((text.dropWhile (!isExponent ·)).drop 1)
  let whole := body.takeWhile (· != '.')
  let part := (body.dropWhile (· != '.')).drop 1
  ofDecimal negative (digitsValue (whole ++ part)) (power - part.length)

/-- Read what `text` writes. -/
def read : Text → Binary64
  | ['n', 'a', 'n'] => undefined
  | ['i', 'n', 'f'] => infinite false
  | ['-', 'i', 'n', 'f'] => infinite true
  | '-' :: text => ofText true text
  | text => ofText false text

end Binary64

end LexGen
