import LexGen.Error

/-!
# Journal

The stages of the compiler leave notes in a journal. A stage that fails leaves the notes that it has made
before. Every note belongs to a channel, named after the part of the compiler that made it.
-/

namespace LexGen

/-- How important a note is. -/
inductive Level where
  | debug
  | warning
  deriving DecidableEq, Repr

def Level.name : Level → String
  | debug => "DEBUG"
  | warning => "WARNING"

def Level.rank : Level → Nat
  | debug => 10
  | warning => 30

structure Note where
  level : Level
  channel : String
  message : String
  deriving DecidableEq, Repr

abbrev Journal := List Note

abbrev Journaled := ExceptT Error (StateM Journal)

namespace Journal

def note (level : Level) (channel message : String) : Journaled Unit :=
  modifyThe Journal (· ++ [⟨level, channel, message⟩])

/-- The full name of a channel. All channels lie below one root. -/
def channelName (name : String) : String :=
  if name == "relex" || name.startsWith "relex." then name else "relex." ++ name

end Journal

def Journaled.result {α : Type} (computation : Journaled α) : Except Error α × Journal :=
  computation.run.run []

def Journaled.outcome {α : Type} (computation : Journaled α) : Except Error α :=
  computation.result.1

end LexGen
