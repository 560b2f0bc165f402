import LineJoin.Chars.Name
import LineJoin.Chars.Property

/-!
# Names in patterns

What patterns can call characters by is a parameter of reading them: the names of properties, and
the names of single characters. The names that have a table here are the ones patterns are read
with if nothing else is said.
-/

namespace LineJoin

/-- What the names stand for by which patterns speak of characters. -/
class CharacterNames where
  /-- A property that is named alone. -/
  property? (name : List Char) : Option Property
  /-- The name of a class in brackets. -/
  inClass? (name : List Char) : Option Property
  /-- A value of a property. -/
  qualified? (property value : List Char) : Property.Lookup
  /-- A single character. -/
  character? (name : List Char) : Option Nat

/-- The names with a table. -/
instance standardNames : CharacterNames where
  property? := Property.named?
  inClass? := Property.inClass?
  qualified? := Property.qualified?
  character? := characterNamed?

end LineJoin
