import LexGen.Scanner.State

/-!
# Where the scanner is

A look at the input around the position, as error messages show it.
-/

namespace LexGen.Scanner.State

variable {σ : Type}

def excerptLength : Nat := 20

def ellipsis : Text := "...".toList

def withoutFeeds (text : Text) : Text := text.filter (· != '\n')

def pastInput (s : State σ) : Text :=
  let past := Text.upTo s.matched (s.matched.length - s.piece.length)
  (if past.length > excerptLength then ellipsis else []) ++
    withoutFeeds (past.drop (past.length - excerptLength))

def upcomingInput (s : State σ) : Text :=
  let upcoming := s.piece ++ s.rest.take (excerptLength - s.piece.length)
  withoutFeeds (upcoming.take excerptLength ++ if upcoming.length > excerptLength then ellipsis else [])

def showPosition (s : State σ) : Text :=
  let past := s.pastInput
  past ++ s.upcomingInput ++ ['\n'] ++ List.replicate past.length '-' ++ ['^']

end LexGen.Scanner.State
