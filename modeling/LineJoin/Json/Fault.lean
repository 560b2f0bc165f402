import LineJoin.Number.Decimal

/-!
# Faults in JSON texts

What can be wrong with a JSON text and where it is noticed. Positions count characters from zero;
the message also gives line and column, counted from one.
-/

namespace LineJoin.Json

inductive Problem where
  | expectingValue
  | expectingName
  | expectingColon
  | expectingComma
  | extraData
  | unterminatedString
  | controlCharacter
  | badEscape
  | badUnicodeEscape
  | byteOrderMark
deriving DecidableEq, Repr

def Problem.text : Problem → String
  | expectingValue => "Expecting value"
  | expectingName => "Expecting property name enclosed in double quotes"
  | expectingColon => "Expecting ':' delimiter"
  | expectingComma => "Expecting ',' delimiter"
  | extraData => "Extra data"
  | unterminatedString => "Unterminated string starting at"
  | controlCharacter => "Invalid control character at"
  | badEscape => "Invalid \\escape"
  | badUnicodeEscape => "Invalid \\uXXXX escape"
  | byteOrderMark => "Unexpected UTF-8 BOM (decode using utf-8-sig)"

inductive Fault where
  | syntaxFault (problem : Problem) (position : Nat)
  /-- An integer with more digits than are read. -/
  | tooManyDigits (count : Nat)
deriving DecidableEq, Repr

def Fault.message (text : List Char) : Fault → String
  | syntaxFault problem position =>
    let before := text.take position
    let column := (before.reverse.takeWhile (· != '\n')).length + 1
    problem.text ++ ": line " ++ natText (before.count '\n' + 1) ++ " column " ++
      natText column ++ " (char " ++ natText position ++ ")"
  | tooManyDigits count => tooManyDigitsMessage count

end LineJoin.Json
