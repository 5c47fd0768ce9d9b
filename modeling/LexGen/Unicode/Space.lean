import LexGen.Unicode.Boundaries

/-!
# White space

Code points that are white space: the bidirectional types WS, B and S and the space separators.
-/

namespace LexGen.Unicode

def spaceBoundaries : Boundaries := ⟨[
  9, 14, 28, 33, 133, 134, 160, 161, 5760, 5761, 8192, 8203, 8232, 8234, 8239, 8240, 8287, 8288,
  12288, 12289]⟩

def isSpace (c : Char) : Bool :=
  spaceBoundaries.contains c.toNat

end LexGen.Unicode
