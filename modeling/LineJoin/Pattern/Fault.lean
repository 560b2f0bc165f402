import LineJoin.Number.Decimal

/-!
# Faults in patterns

What can be wrong with the text of a pattern. A `Fault` names the problem and the place in the text
at which it is noticed; `Fault.message` is the text shown for it.
-/

namespace LineJoin.Pattern

inductive Problem where
  | nothingToRepeat
  | multipleRepeat
  | leastAboveMost
  | countTooBig
  | missing (what : String)
  | unbalanced
  | unterminatedSet
  | badRange
  | unknownProperty
  | unknownPropertyValue
  | missingName
  | badName
  | unknownExtension
  | unknownGroup
  | invalidReference
  | openReference
  | ambiguousReference
  | badEscape (letter : Char)
  | escapeAtEnd
  | incompleteEscape (text : List Char)
  | badHexEscape (text : List Char)
  | undefinedName
  | flagsTurnedOff
  | noFlagsAfterDash
  | flagOnAndOff
  | unknownVerb
  | unknownList
  | nothingToApproximate
  | badErrorLimit
  | repeatedErrorKind
  | repeatedErrorCost
  | secondCostLimit
  | unclosedLimits
  | noTest
  /-- Nothing is wrong with the text as far as it has been read, but patterns with approximate
  matching, with other flags, or with a verb that prunes the search are outside of what is matched
  here. -/
  | beyondMatching
deriving DecidableEq, Repr

def Problem.text : Problem → String
  | nothingToRepeat => "nothing to repeat"
  | multipleRepeat => "multiple repeat"
  | leastAboveMost => "min repeat greater than max repeat"
  | countTooBig => "repeat count too big"
  | missing what => "missing " ++ what
  | unbalanced => "unbalanced parenthesis"
  | unterminatedSet => "unterminated character set"
  | badRange => "bad character range"
  | unknownProperty => "unknown property"
  | unknownPropertyValue => "unknown property value"
  | missingName => "missing group name"
  | badName => "bad character in group name"
  | unknownExtension => "unknown extension"
  | unknownGroup => "unknown group"
  | invalidReference => "invalid group reference"
  | openReference => "cannot refer to an open group"
  | ambiguousReference => "ambiguous group reference"
  | badEscape letter => "bad escape \\" ++ String.singleton letter
  | escapeAtEnd => "bad escape (end of pattern)"
  | incompleteEscape text => "incomplete escape \\" ++ String.ofList text
  | badHexEscape text => "bad hex escape \\" ++ String.ofList text
  | undefinedName => "undefined character name"
  | flagsTurnedOff => "bad inline flags: cannot turn flags off"
  | noFlagsAfterDash => "bad inline flags: no flags after '-'"
  | flagOnAndOff => "bad inline flags: flag turned on and off"
  | unknownVerb => "unknown verb"
  | unknownList => "undefined named list"
  | nothingToApproximate => "nothing for fuzzy constraint"
  | badErrorLimit => "bad fuzzy cost limit"
  | repeatedErrorKind => "repeated fuzzy constraint"
  | repeatedErrorCost => "repeated fuzzy cost"
  | secondCostLimit => "more than one cost equation"
  | unclosedLimits => "expected \x7d"
  | noTest => "expected character set"
  | beyondMatching => "beyond exact matching"

structure Fault where
  problem : Problem
  position : Nat
deriving DecidableEq, Repr

/-- The line of a place, counted from one. -/
def lineOf (text : List Char) (position : Nat) : Nat := (text.take position).count '\n' + 1

/-- The column of a place, counted from one. -/
def columnOf (text : List Char) (position : Nat) : Nat :=
  ((text.take position).reverse.takeWhile (· != '\n')).length + 1

/-- The message about a fault in a pattern text; it gives line and column if there are lines. -/
def Fault.message (text : List Char) (f : Fault) : String :=
  let place := f.problem.text ++ " at position " ++ natText f.position
  if text.contains '\n' then
    place ++ " (line " ++ natText (lineOf text f.position) ++ ", column " ++
      natText (columnOf text f.position) ++ ")"
  else place

end LineJoin.Pattern
