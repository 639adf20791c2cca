import Descent.Pattern

/-!
# Lexemes

The smallest parsers: a lexeme looks at the remaining text alone and takes a number of characters
from its beginning, or does not match. Taking whole characters keeps offsets on boundaries.
-/

namespace Descent

/-- An answer of `read?` is a value and the number of characters taken. -/
structure Lexeme (α : Type) where
  expected : String
  read? : Text → Option (α × Nat)

namespace Lexeme

def literal (text : String) : Lexeme String where
  expected := s!"'{text}'"
  read? rest := if text.toList.isPrefixOf rest then some (text, text.length) else none

/-- A group of a pattern that matches at the beginning. -/
def pattern (pattern : Pattern) (group : Nat) : Lexeme String where
  expected := s!"/{pattern.source}/"
  read? := pattern.read? group

def anyChar : Lexeme Char where
  expected := "any character"
  read? rest := rest.head?.map fun c => (c, 1)

def remainder : Lexeme String where
  expected := "any text"
  read? rest := some (String.ofList rest, rest.length)

end Lexeme

end Descent
