import LexGen.Json.Reader
import LexGen.Options
import LexGen.Pattern.Tree

/-!
# Reading patterns

A reader of regular expressions. A failure says what is wrong and where. The text is taken in units: a
character, or a backslash with the character after it.
-/

namespace LexGen.Pattern

/-- Why a text is no pattern. -/
inductive Failure where
  /-- The text is not well formed; the position is known unless it only shows in the whole pattern. -/
  | malformed (message : String) (position : Option Nat)
  /-- A number of rounds, or a set of flags, that is too large. -/
  | tooLarge
  /-- Flags that do not go together, or a number that is too long to be converted. -/
  | badValue
  deriving DecidableEq, Repr

/-- What the reader knows at a position. -/
structure Reading where
  rest : Text
  /-- The length of the whole text. -/
  total : Nat
  /-- The flags of the whole pattern, as far as they have been read. -/
  flags : PatternFlags
  names : List (Text × Nat) := []
  /-- The widths of the groups from the first one on; a group that is still open has none. -/
  widths : List (Option Width) := []
  /-- The number of groups, with the whole pattern as one, at the beginning of the lookbehind around. -/
  behind : Option Nat := none
  /-- The first positions at which conditions name groups by number. -/
  conditions : List (Nat × Nat) := []

abbrev Reader := StateT Reading (Except Failure)

/-! ## Units -/

def unit? : Text → Option Text
  | [] => none
  | '\\' :: c :: _ => some ['\\', c]
  | c :: _ => some [c]

def position : Reader Nat := do
  let r ← get
  return r.total - r.rest.length

def failBack {α : Type} (message : String) (back : Nat) : Reader α := do
  throw (.malformed message (some ((← position) - back)))

def failFrom {α : Type} (message : String) (start : Nat) : Reader α :=
  throw (.malformed message (some start))

/-- Go on with the given rest. A backslash cannot be the last character. -/
def continueWith (rest : Text) : Reader Unit := do
  if rest = ['\\'] then failFrom "bad escape (end of pattern)" ((← get).total - 1)
  modify fun r => { r with rest := rest }

def peek : Reader (Option Text) := do
  return unit? (← get).rest

def take : Reader (Option Text) := do
  let next ← peek
  match next with
  | some unit => continueWith ((← get).rest.drop unit.length)
  | none => pure ()
  return next

def accept (c : Char) : Reader Bool := do
  if (← peek) = some [c] then
    let _ ← take
    return true
  else return false

/-- Take at most `limit` characters that satisfy `p`. -/
def takeUpTo (p : Char → Bool) : (limit : Nat) → Reader Text
  | 0 => return []
  | limit + 1 => do
    match ← peek with
    | some [c] =>
      if p c then
        let _ ← take
        return c :: (← takeUpTo p limit)
      else return []
    | _ => return []

/-- Take all characters that satisfy `p`. -/
def takeAll (p : Char → Bool) : Reader Text := do
  takeUpTo p (← get).rest.length

/-- Take units up to a closing character, which is taken too. `what` tells what they make up. -/
def takeUntil (closing : Char) (what : String) : (fuel : Nat) → (taken : Text) → Reader Text
  | 0, _ => failBack ("missing " ++ what) 0
  | fuel + 1, taken => do
    match ← take with
    | none =>
      if taken.isEmpty then failBack ("missing " ++ what) 0
      else failBack ("missing " ++ closing.toString ++ ", unterminated name") taken.length
    | some unit =>
      if unit = [closing] then
        if taken.isEmpty then failBack ("missing " ++ what) 1 else return taken
      else takeUntil closing what fuel (taken ++ unit)

def shown (unit : Text) : String := String.ofList unit

/-! ## Escapes -/

def isHexDigit (c : Char) : Bool := c.isDigit || ('a' ≤ c && c ≤ 'f') || ('A' ≤ c && c ≤ 'F')

def isOctalDigit (c : Char) : Bool := '0' ≤ c && c ≤ '7'

def digitOf (c : Char) : Nat :=
  if c.isDigit then c.toNat - 48 else if 'a' ≤ c then c.toNat - 87 else c.toNat - 55

def valueIn (base : Nat) (digits : Text) : Nat :=
  digits.foldl (fun n c => n * base + digitOf c) 0

def letterEscape? : Char → Option Nat
  | 'a' => some 7
  | 'b' => some 8
  | 'f' => some 12
  | 'n' => some 10
  | 'r' => some 13
  | 't' => some 9
  | 'v' => some 11
  | '\\' => some 92
  | _ => none

def classEscape? : Char → Option SetItem
  | 'd' => some (.charClass .digit false)
  | 'D' => some (.charClass .digit true)
  | 's' => some (.charClass .space false)
  | 'S' => some (.charClass .space true)
  | 'w' => some (.charClass .word false)
  | 'W' => some (.charClass .word true)
  | _ => none

def anchorEscape? : Char → Option Anchor
  | 'A' => some .textStart
  | 'b' => some .boundary
  | 'B' => some .noBoundary
  | 'Z' => some .textEnd
  | _ => none

/-- Read the digits of a hexadecimal escape, exactly `width` of them. -/
def hexEscape (letter : Char) (width : Nat) : Reader Nat := do
  let digits ← takeUpTo isHexDigit width
  let all := '\\' :: letter :: digits
  if digits.length < width then failBack ("incomplete escape " ++ shown all) all.length
  let code := valueIn 16 digits
  if 0x10ffff < code then failBack ("bad escape " ++ shown all) all.length
  return code

/-- The characters that have names. Patterns are read with any such table. -/
class CharacterNames where
  named? : Text → Option Char

instance : CharacterNames := ⟨fun _ => none⟩

variable [CharacterNames]

/-- Read an escape that tells the code of a character, if the letter begins one: its digits, or its name. -/
def numericEscape (c : Char) : Reader (Option Nat) := do
  match c with
  | 'x' => return some (← hexEscape 'x' 2)
  | 'u' => return some (← hexEscape 'u' 4)
  | 'U' => return some (← hexEscape 'U' 8)
  | 'N' =>
    if !(← accept '{') then failBack "missing \x7b" 0
    let name ← takeUntil '}' "character name" ((← get).rest.length + 1) []
    match CharacterNames.named? name with
    | some char => return some char.toNat
    | none => failBack ("undefined character name " ++ quote (String.ofList name)) (name.length + 4)
  | _ => return none

def octalEscape (all : Text) : Reader Nat := do
  let code := valueIn 8 (all.drop 1)
  if 0o377 < code then
    failBack ("octal escape value " ++ shown all ++ " outside of range 0-0o377") all.length
  return code

/-- The character of an escape without a meaning of its own. Letters and digits are refused. -/
def plainEscape (c : Char) : Reader Nat := do
  if c.isAlphanum then failBack ("bad escape " ++ shown ['\\', c]) 2
  return c.toNat

def setEscape (c : Char) : Reader SetItem := do
  if let some code := letterEscape? c then return .single code
  if let some item := classEscape? c then return item
  if let some code ← numericEscape c then return .single code
  if isOctalDigit c then
    let more ← takeUpTo isOctalDigit 2
    return .single (← octalEscape ('\\' :: c :: more))
  return .single (← plainEscape c)

/-! ## Groups -/

def Reading.groups (r : Reading) : Nat := r.widths.length + 1

def Reading.closed? (r : Reading) (index : Nat) : Option Width :=
  if index = 0 then none else (r.widths.getD (index - 1) none)

/-- Check a reference to a group inside a lookbehind: the group has to be closed before it. -/
def checkBehind (index : Nat) : Reader Unit := do
  let r ← get
  if let some groups := r.behind then
    if (r.closed? index).isNone then failBack "cannot refer to an open group" 0
    if groups ≤ index then
      failBack "cannot refer to group defined in the same lookbehind subpattern" 0

def checkName (name : Text) : Reader Unit := do
  if !isIdentifier name then
    failBack ("bad character in group name " ++ quote (String.ofList name)) (name.length + 1)

def openGroup (name : Option Text) : Reader Nat := do
  let r ← get
  let index := r.groups
  match name with
  | none => set { r with widths := r.widths ++ [none] }
  | some name =>
    if let some other := r.names.lookup name then
      failBack ("redefinition of group name " ++ quote (String.ofList name) ++ " as group " ++ toString index ++
        "; was group " ++ toString other) (name.length + 1)
    set { r with widths := r.widths ++ [none], names := r.names ++ [(name, index)] }
  return index

def closeGroup (index : Nat) (width : Width) : Reader Unit :=
  modify fun r => { r with widths := r.widths.set (index - 1) (some width) }

/-! ## Items -/

/-- What a repetition can follow. -/
inductive ItemKind where
  | anchor
  | repetition
  | other
  deriving DecidableEq, Repr

/-- A part of a sequence. -/
structure Item where
  node : Node
  width : Width
  kind : ItemKind := .other

def Item.char (node : Node) : Item := ⟨node, .one, .other⟩

def Item.anchor (a : Anchor) : Item := ⟨.anchor a, .zero, .anchor⟩

def Item.row (items : List Item) : Item :=
  ⟨items.foldr (fun item rest => if rest = .empty then item.node else .seq item.node rest) .empty,
    items.foldl (fun width item => width.add item.width) .zero, .other⟩

def referTo (index : Nat) (back : Nat) : Reader Item := do
  match (← get).closed? index with
  | none => failBack "cannot refer to an open group" back
  | some width =>
    checkBehind index
    return ⟨.backreference index, width, .other⟩

def escape (c : Char) : Reader Item := do
  if let some a := anchorEscape? c then return .anchor a
  if let some item := classEscape? c then return .char (.set false [item])
  if let some code := letterEscape? c then return .char (.literal false code)
  if let some code ← numericEscape c then return .char (.literal false code)
  if c = '0' then
    let more ← takeUpTo isOctalDigit 2
    return .char (.literal false (valueIn 8 ('0' :: more)))
  if c.isDigit then
    let second ← takeUpTo Char.isDigit 1
    if isOctalDigit c && second.all isOctalDigit && !second.isEmpty then
      let third ← takeUpTo isOctalDigit 1
      if !third.isEmpty then
        return .char (.literal false (← octalEscape ('\\' :: c :: second ++ third)))
    let index := valueIn 10 (c :: second)
    if index < (← get).groups then referTo index (second.length + 2)
    else failBack ("invalid group reference " ++ toString index) (second.length + 1)
  else return .char (.literal false (← plainEscape c))

/-! ## Character sets -/

def setMember (unit : Text) : Reader SetItem :=
  match unit with
  | ['\\', c] => setEscape c
  | c :: _ => return .single c.toNat
  | [] => return .single 0

/-- Read the members of a set up to its end. `start` is where the set begins. -/
def setItems (start : Nat) : (fuel : Nat) → (read : List SetItem) → Reader (List SetItem)
  | 0, _ => failFrom "unterminated character set" start
  | fuel + 1, read => do
    match ← take with
    | none => failFrom "unterminated character set" start
    | some unit =>
      if unit = [']'] && !read.isEmpty then return read
      let first ← setMember unit
      if ← accept '-' then
        match ← take with
        | none => failFrom "unterminated character set" start
        | some [']'] => return read ++ [first, .single '-'.toNat]
        | some other =>
          let last ← setMember other
          let bad : Reader (List SetItem) :=
            failBack ("bad character range " ++ shown unit ++ "-" ++ shown other) (unit.length + 1 + other.length)
          match first, last with
          | .single lo, .single hi => if hi < lo then bad else setItems start fuel (read ++ [.range lo hi])
          | _, _ => bad
      else setItems start fuel (read ++ [first])

def charSet : Reader Node := do
  let start := (← position) - 1
  let negated ← accept '^'
  let items ← setItems start ((← get).rest.length + 1) []
  match items.eraseDups with
  | [.single code] => return .literal negated code
  | items => return .set negated items

/-! ## Repetition -/

def longestCount : Nat := 4294967295

def roundCount (digits : Text) : Reader Nat := do
  if Text.longestInteger < digits.length then throw .badValue
  let count := valueIn 10 digits
  if longestCount ≤ count then throw .tooLarge
  return count

/-- Read the bounds between braces, after the opening one. Nothing if the brace stands for itself. -/
def braces : Reader (Option (Nat × Option Nat)) := do
  if (← peek) = some ['}'] then return none
  let before ← get
  let start ← position
  let low ← takeAll Char.isDigit
  let high ← if ← accept ',' then takeAll Char.isDigit else pure low
  if ← accept '}' then
    let min ← if low.isEmpty then pure 0 else roundCount low
    let max ← if high.isEmpty then pure none else some <$> roundCount high
    if let some max := max then
      if max < min then failFrom "min repeat greater than max repeat" start
    return some (min, max)
  else
    set before
    return none

def readGreed : Reader Greed := do
  match ← peek with
  | some ['?'] => do
    let _ ← take
    return .lazy
  | some ['+'] => do
    let _ ← take
    return .possessive
  | _ => return .greedy

/-- Repeat the last item. `start` is where the operator begins. -/
def repeatLast (start : Nat) (done : List Item) (min : Nat) (max : Option Nat) : Reader (List Item) := do
  match done with
  | [] => failFrom "nothing to repeat" start
  | item :: before =>
    if item.kind = .anchor then failFrom "nothing to repeat" start
    if item.kind = .repetition then failFrom "multiple repeat" start
    let greed ← readGreed
    return ⟨.repetition greed min max item.node, item.width.times min max, .repetition⟩ :: before

/-! ## Flags in groups -/

def flag? : Char → Option PatternFlags
  | 'i' => some PatternFlags.ignoreCase
  | 'L' => some PatternFlags.locale
  | 'm' => some PatternFlags.multiline
  | 's' => some PatternFlags.dotAll
  | 'x' => some PatternFlags.verbose
  | 'a' => some PatternFlags.ascii
  | 't' => some PatternFlags.template
  | 'u' => some PatternFlags.unicode
  | _ => none

def isLetters (unit : Text) : Bool := !unit.isEmpty && unit.all Unicode.isAlphabetic

def unitFlag? : Text → Option PatternFlags
  | [c] => flag? c
  | _ => none

/-- Read the flags to set, of which the first one has been taken. Yields them and what ends them. -/
def flagsToSet : (fuel : Nat) → (flag : PatternFlags) → (read : PatternFlags) → Reader (PatternFlags × Char)
  | 0, _, _ => failBack "missing -, : or )" 0
  | fuel + 1, flag, read => do
    if flag = PatternFlags.locale then failBack "bad inline flags: cannot use 'L' flag with a str pattern" 0
    let read := read.union flag
    if flag.has PatternFlags.kinds && read &&& PatternFlags.kinds != flag then
      failBack "bad inline flags: flags 'a', 'u' and 'L' are incompatible" 0
    match ← take with
    | none => failBack "missing -, : or )" 0
    | some [')'] => return (read, ')')
    | some ['-'] => return (read, '-')
    | some [':'] => return (read, ':')
    | some unit =>
      match unitFlag? unit with
      | some flag => flagsToSet fuel flag read
      | none => failBack (if isLetters unit then "unknown flag" else "missing -, : or )") unit.length

def flagsToClear : (fuel : Nat) → (flag : PatternFlags) → (read : PatternFlags) → Reader PatternFlags
  | 0, _, _ => failBack "missing :" 0
  | fuel + 1, flag, read => do
    if flag.has PatternFlags.kinds then
      failBack "bad inline flags: cannot turn off flags 'a', 'u' and 'L'" 0
    let read := read.union flag
    match ← take with
    | none => failBack "missing :" 0
    | some [':'] => return read
    | some unit =>
      match unitFlag? unit with
      | some flag => flagsToClear fuel flag read
      | none => failBack (if isLetters unit then "unknown flag" else "missing :") unit.length

/-- Read the flags of a group, of which the first character has been taken. Nothing if they concern the whole
pattern; otherwise the flags to set and to clear. -/
def groupFlags (unit : Text) : Reader (Option (PatternFlags × PatternFlags)) := do
  let fuel := (← get).rest.length + 1
  let (add, ending) ← match unitFlag? unit with
    | some flag => flagsToSet fuel flag 0
    | none => pure (0, '-')
  if ending = ')' then
    modify fun r => { r with flags := r.flags.union add }
    return none
  if add.has PatternFlags.wholePattern then failBack "bad inline flags: cannot turn on global flag" 1
  let remove ← if ending = '-' then
      match ← take with
      | none => failBack "missing flag" 0
      | some unit =>
        match unitFlag? unit with
        | some flag => flagsToClear fuel flag 0
        | none => failBack (if isLetters unit then "unknown flag" else "missing flag") unit.length
    else pure 0
  if remove.has PatternFlags.wholePattern then failBack "bad inline flags: cannot turn off global flag" 1
  if add.has remove then failBack "bad inline flags: flag turned on and off" 1
  return some (add, remove)

/-! ## Conditions -/

/-- The value of a number as it may be written in a condition: digits of any script, single underscores
between them, white space around and a plus sign before. -/
def looseNumber? (text : Text) : Option Nat :=
  let text := Text.trim text
  let text := if text.head? = some '+' then text.drop 1 else text
  let minus := text.head? = some '-'
  let text := if minus then text.drop 1 else text
  let gaps := (text.zip (text.drop 1)).any fun (a, b) => a == '_' && b == '_'
  if text.isEmpty || gaps || text.head? = some '_' || text.getLast? = some '_' ||
      !text.all (fun c => c == '_' || Unicode.isDigit c) then none
  else
    let n := (text.filter (· != '_')).foldl (fun n c => n * 10 + Unicode.digitValue c) 0
    if minus && n != 0 then none else some n

def mostGroups : Nat := 1073741823

def conditionGroup : Reader Nat := do
  let name ← takeUntil ')' "group name" ((← get).rest.length + 1) []
  let shownName := quote (String.ofList name)
  let index ← if isIdentifier name then
      match (← get).names.lookup name with
      | some index => pure index
      | none => failBack ("unknown group name " ++ shownName) (name.length + 1)
    else
      match looseNumber? name with
      | none => failBack ("bad character in group name " ++ shownName) (name.length + 1)
      | some index => do
        if index = 0 then failBack "bad group number" (name.length + 1)
        if mostGroups ≤ index then
          failBack ("invalid group reference " ++ toString index) (name.length + 1)
        let start := (← position) - name.length - 1
        modify fun r =>
          if (r.conditions.lookup index).isSome then r
          else { r with conditions := r.conditions ++ [(index, start)] }
        pure index
  checkBehind index
  return index

/-! ## Patterns -/

/-- What follows the opening of a group. -/
inductive Opening where
  /-- A comment or flags: there is no group. -/
  | nothing
  | item (item : Item)
  | group (name : Option Text)
  | flags (add remove : PatternFlags)
  | atomic
  | lookahead (negative : Bool)
  | lookbehind (negative : Bool)
  | conditional (index : Nat)

def skipComment (start : Nat) : (fuel : Nat) → Reader Unit
  | 0 => failFrom "missing ), unterminated comment" start
  | fuel + 1 => do
    match ← take with
    | none => failFrom "missing ), unterminated comment" start
    | some unit => if unit = [')'] then pure () else skipComment start fuel

/-- Read what follows `(?P`. -/
def namedOpening : Reader Opening := do
  if ← accept '<' then
    let name ← takeUntil '>' "group name" ((← get).rest.length + 1) []
    checkName name
    return .group (some name)
  if ← accept '=' then
    let name ← takeUntil ')' "group name" ((← get).rest.length + 1) []
    checkName name
    match (← get).names.lookup name with
    | none => failBack ("unknown group name " ++ quote (String.ofList name)) (name.length + 1)
    | some index => return .item (← referTo index (name.length + 1))
  match ← take with
  | none => failBack "unexpected end of pattern" 0
  | some unit => failBack ("unknown extension ?P" ++ shown unit) (unit.length + 2)

/-- Read what follows `(?<`. -/
def behindOpening : Reader Opening := do
  match ← take with
  | none => failBack "unexpected end of pattern" 0
  | some ['='] => return .lookbehind false
  | some ['!'] => return .lookbehind true
  | some unit => failBack ("unknown extension ?<" ++ shown unit) (unit.length + 2)

/-- Read what follows `(?`. `start` is where the group begins, and `first` tells whether the pattern begins
there too, so that flags for the whole pattern may follow. -/
def specialOpening (start : Nat) (first : Bool) : Reader Opening := do
  match ← take with
  | none => failBack "unexpected end of pattern" 0
  | some ['P'] => namedOpening
  | some [':'] => return .flags 0 0
  | some ['#'] => do
    skipComment start ((← get).rest.length + 1)
    return .nothing
  | some ['='] => return .lookahead false
  | some ['!'] => return .lookahead true
  | some ['<'] => behindOpening
  | some ['('] => return .conditional (← conditionGroup)
  | some ['>'] => return .atomic
  | some unit =>
    if (unitFlag? unit).isSome || unit = ['-'] then
      match ← groupFlags unit with
      | some (add, remove) => return .flags add remove
      | none =>
        if !first then failFrom "global flags not at the start of the expression" start
        return .nothing
    else failBack ("unknown extension ?" ++ shown unit) (unit.length + 1)

def verboseInside (outer : Bool) (add remove : PatternFlags) : Bool :=
  (outer || add.has PatternFlags.verbose) && !remove.has PatternFlags.verbose

/-- Take the closing parenthesis of a group that begins at `start`. -/
def closing (start : Nat) : Reader Unit := do
  if !(← accept ')') then failFrom "missing ), unterminated subpattern" start

def skipLine : (fuel : Nat) → Reader Unit
  | 0 => pure ()
  | fuel + 1 => do
    match ← take with
    | none => pure ()
    | some unit => if unit = ['\n'] then pure () else skipLine fuel

def isLayout (c : Char) : Bool := c == ' ' || (9 ≤ c.toNat && c.toNat ≤ 13)

mutual

/-- Read alternatives up to a closing parenthesis or the end. `top` tells whether they make up the whole
pattern. -/
def alternatives : (fuel : Nat) → (verbose top first : Bool) → Reader Item
  | 0, _, _, _ => return Item.row []
  | fuel + 1, verbose, top, first => do
    let item ← sequence fuel verbose first []
    if ← accept '|' then
      let flags := (← get).flags
      let verbose := if top then flags.has PatternFlags.verbose else verbose
      let rest ← alternatives fuel verbose top false
      return ⟨.alt item.node rest.node, item.width.join rest.width, .other⟩
    else return item

/-- Read a sequence up to a bar, a closing parenthesis or the end. `done` holds the items read so far, the
last one first, and `first` tells whether the pattern begins with the sequence. -/
def sequence : (fuel : Nat) → (verbose first : Bool) → (done : List Item) → Reader Item
  | 0, _, _, done => return Item.row done.reverse
  | fuel + 1, verbose, first, done => do
    match ← peek with
    | none => return Item.row done.reverse
    | some ['|'] => return Item.row done.reverse
    | some [')'] => return Item.row done.reverse
    | some unit => do
      let start ← position
      let _ ← take
      match unit with
      | [_, c] => sequence fuel verbose first ((← escape c) :: done)
      | [c] => do
        if verbose && isLayout c then sequence fuel verbose first done
        else if verbose && c = '#' then
          skipLine ((← get).rest.length + 1)
          sequence fuel verbose first done
        else match c with
        | '[' => sequence fuel verbose first (Item.char (← charSet) :: done)
        | '.' => sequence fuel verbose first (Item.char .any :: done)
        | '^' => sequence fuel verbose first (Item.anchor .lineStart :: done)
        | '$' => sequence fuel verbose first (Item.anchor .lineEnd :: done)
        | '?' => sequence fuel verbose first (← repeatLast start done 0 (some 1))
        | '*' => sequence fuel verbose first (← repeatLast start done 0 none)
        | '+' => sequence fuel verbose first (← repeatLast start done 1 none)
        | '{' =>
          match ← braces with
          | some (min, max) => sequence fuel verbose first (← repeatLast start done min max)
          | none => sequence fuel verbose first (Item.char (.literal false '{'.toNat) :: done)
        | '(' => do
          let opening ← if ← accept '?' then specialOpening start (first && done.isEmpty)
            else pure (.group none)
          match opening with
          | .nothing => do
            let flags := (← get).flags
            sequence fuel (verbose || (first && done.isEmpty && flags.has PatternFlags.verbose)) first done
          | .item item => sequence fuel verbose first (item :: done)
          | .group name => do
            let index ← openGroup name
            let body ← alternatives fuel verbose false false
            closing start
            closeGroup index body.width
            sequence fuel verbose first (⟨.group index body.node, body.width, .other⟩ :: done)
          | .flags add remove => do
            let body ← alternatives fuel (verboseInside verbose add remove) false false
            closing start
            let node := if add = 0 && remove = 0 then body.node else .flagged add remove body.node
            sequence fuel verbose first (⟨node, body.width, .other⟩ :: done)
          | .atomic => do
            let body ← alternatives fuel verbose false false
            closing start
            sequence fuel verbose first (⟨.atomic body.node, body.width, .other⟩ :: done)
          | .lookahead negative => do
            let body ← alternatives fuel verbose false false
            closing start
            sequence fuel verbose first (⟨.lookahead negative body.node, .zero, .other⟩ :: done)
          | .lookbehind negative => do
            let outer := (← get).behind
            modify fun r => { r with behind := some (r.behind.getD r.groups) }
            let body ← alternatives fuel verbose false false
            modify fun r => { r with behind := outer }
            closing start
            sequence fuel verbose first (⟨.lookbehind negative body.width body.node, .zero, .other⟩ :: done)
          | .conditional index => do
            let yes ← sequence fuel verbose false []
            let no ← if ← accept '|' then do
                let no ← sequence fuel verbose false []
                if (← peek) = some ['|'] then failBack "conditional backref with more than two branches" 0
                pure no
              else pure (Item.row [])
            closing start
            sequence fuel verbose first (⟨.conditional index yes.node no.node, yes.width.join no.width, .other⟩ :: done)
        | c => sequence fuel verbose first (Item.char (.literal false c.toNat) :: done)
      | _ => sequence fuel verbose first done

end

/-- Settle the flags of a whole pattern: its classes are those of Unicode unless it says otherwise. -/
def settleFlags (flags : PatternFlags) : Except Failure PatternFlags :=
  if flags.has PatternFlags.locale then .error .badValue
  else if !flags.has PatternFlags.ascii then .ok (flags.union PatternFlags.unicode)
  else if flags.has PatternFlags.unicode then .error .badValue
  else .ok flags

/-- Read a whole pattern. Yields its tree and flags. -/
def readWhole : Reader (Node × PatternFlags) := do
  continueWith (← get).rest
  let r ← get
  let item ← alternatives (2 * r.total + 2) (r.flags.has PatternFlags.verbose) true true
  let flags ← settleFlags (← get).flags
  if (← peek).isSome then failBack "unbalanced parenthesis" 0
  let r ← get
  match r.conditions.find? fun (index, _) => r.groups ≤ index with
  | some (index, start) => failFrom ("invalid group reference " ++ toString index) start
  | none => return (item.node, flags)

def read (text : Text) (flags : PatternFlags) : Except Failure (Node × PatternFlags) := do
  let (result, _) ← readWhole.run { rest := text, total := text.length, flags := flags }
  return result

end LexGen.Pattern
