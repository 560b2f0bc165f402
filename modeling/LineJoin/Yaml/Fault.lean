import LineJoin.Text.Quoted
import LineJoin.Value.Calendar

/-!
# Faults in YAML texts

What can be wrong with a YAML text. A fault names its problem and where it was found, and often also
what was being read and where that began. Lines and columns are counted from zero here and shown from
one.
-/

namespace LineJoin.Yaml

/-- A place in a text. -/
structure Mark where
  line : Nat
  column : Nat
deriving DecidableEq, Repr, Inhabited

/-- What was being read when a problem came up. -/
inductive Context where
  | nextToken
  | simpleKey
  | directive
  | directiveUri
  | anchor
  | reference
  | tag
  | tagUri
  | blockScalar
  | quotedScalar
  | doubleQuotedScalar
  | node
  | nodeContent (inBlock : Bool)
  | blockSequence
  | blockMapping
  | flowSequence
  | flowMapping
  | firstAnchor (name : String)
  | document
  | mapping
  | orderedMap
  | pairs
deriving DecidableEq, Repr

def Context.text : Context → String
  | nextToken => "while scanning for the next token"
  | simpleKey => "while scanning a simple key"
  | directive => "while scanning a directive"
  | directiveUri => "while parsing a directive"
  | anchor => "while scanning an anchor"
  | reference => "while scanning an alias"
  | tag => "while scanning a tag"
  | tagUri => "while parsing a tag"
  | blockScalar => "while scanning a block scalar"
  | quotedScalar => "while scanning a quoted scalar"
  | doubleQuotedScalar => "while scanning a double-quoted scalar"
  | node => "while parsing a node"
  | nodeContent inBlock =>
    if inBlock then "while parsing a block node" else "while parsing a flow node"
  | blockSequence => "while parsing a block collection"
  | blockMapping => "while parsing a block mapping"
  | flowSequence => "while parsing a flow sequence"
  | flowMapping => "while parsing a flow mapping"
  | firstAnchor name => "found duplicate anchor " ++ quoted name ++ "; first occurrence"
  | document => "expected a single document in the stream"
  | mapping => "while constructing a mapping"
  | orderedMap => "while constructing an ordered map"
  | pairs => "while constructing pairs"

inductive Problem where
  /-- Something was expected and another character was found. -/
  | expected (wanted : String) (found : Char)
  /-- Something was expected and another kind of token was found. -/
  | expectedToken (wanted found : String)
  /-- A separator or closing bracket was expected and another kind of token was found. -/
  | expectedSeparator (wanted found : String)
  /-- A kind of node was expected and another kind was found. -/
  | expectedNode (wanted found : String)
  | itemCount (count : Nat)
  | cannotStart (c : Char)
  | missingColon
  | entryNotAllowed
  | keyNotAllowed
  | valueNotAllowed
  | zeroIndentation
  | documentSeparator
  | endOfStream
  | unknownEscape (c : Char)
  /-- The escaped bytes of a tag are no text. -/
  | badBytes (message : String)
  | duplicateVersion
  | incompatibleVersion
  | duplicateHandle (handle : String)
  | undefinedHandle (handle : String)
  | undefinedAlias (name : String)
  | secondAnchor
  | secondDocument
  | unknownTag (tag : String)
  | unhashableKey
  | notAscii (message : String)
  | badBase64 (message : String)
deriving DecidableEq, Repr

def quotedChar (c : Char) : String := quoted (String.singleton c)

def Problem.text : Problem → String
  | expected wanted found => "expected " ++ wanted ++ ", but found " ++ quotedChar found
  | expectedToken wanted found => "expected " ++ wanted ++ ", but found " ++ quoted found
  | expectedSeparator wanted found => "expected " ++ wanted ++ ", but got " ++ quoted found
  | expectedNode wanted found => "expected a " ++ wanted ++ ", but found " ++ found
  | itemCount count =>
    "expected a single mapping item, but found " ++ natText count ++ " items"
  | cannotStart c => "found character " ++ quotedChar c ++ " that cannot start any token"
  | missingColon => "could not find expected ':'"
  | entryNotAllowed => "sequence entries are not allowed here"
  | keyNotAllowed => "mapping keys are not allowed here"
  | valueNotAllowed => "mapping values are not allowed here"
  | zeroIndentation => "expected indentation indicator in the range 1-9, but found 0"
  | documentSeparator => "found unexpected document separator"
  | endOfStream => "found unexpected end of stream"
  | unknownEscape c => "found unknown escape character " ++ quotedChar c
  | badBytes message => message
  | duplicateVersion => "found duplicate YAML directive"
  | incompatibleVersion => "found incompatible YAML document (version 1.* is required)"
  | duplicateHandle handle => "duplicate tag handle " ++ quoted handle
  | undefinedHandle handle => "found undefined tag handle " ++ quoted handle
  | undefinedAlias name => "found undefined alias " ++ quoted name
  | secondAnchor => "second occurrence"
  | secondDocument => "but found another document"
  | unknownTag tag => "could not determine a constructor for the tag " ++ quoted tag
  | unhashableKey => "found unhashable key"
  | notAscii message => "failed to convert base64 data into ascii: " ++ message
  | badBase64 message => "failed to decode base64 data: " ++ message

/-- A scalar whose text does not fit its tag. -/
inductive Misfit where
  /-- An escape with a number that is no code point. -/
  | codePoint (n : Nat)
  | integer (base : Nat) (text : String)
  | tooManyDigits (count : Nat)
  | float (text : String)
  /-- A number without any digit. -/
  | noNumber
  /-- Parts in base sixty of which some count more than any floating point number. -/
  | tooLarge
  | truth (text : String)
  | timestamp
  | calendar (problem : String)
  /-- An offset, in minutes, of a day or more. -/
  | offset (minutes : Int)
deriving DecidableEq, Repr

def Misfit.message : Misfit → String
  | codePoint n =>
    if n < 0x80000000 then "chr() arg not in range(0x110000)"
    else "Python int too large to convert to C int"
  | integer base text =>
    "invalid literal for int() with base " ++ natText base ++ ": " ++ quoted text
  | tooManyDigits count => tooManyDigitsMessage count
  | float text => "could not convert string to float: " ++ quoted text
  | noNumber => "string index out of range"
  | tooLarge => "int too large to convert to float"
  | truth text => quoted text
  | timestamp => "'NoneType' object has no attribute 'groupdict'"
  | calendar problem => problem
  | offset minutes =>
    "offset must be a timedelta strictly between -timedelta(hours=24) and timedelta(hours=24), not " ++
      Moment.durationLiteral minutes ++ "."

inductive Fault where
  /-- A character that no text may hold. -/
  | unprintable (c : Char) (position : Nat)
  | found (problem : Problem) (mark : Mark)
  | inside (context : Context) (start : Option Mark) (problem : Problem) (mark : Mark)
  | misfit (m : Misfit)
deriving DecidableEq, Repr

def Mark.text (source : String) (m : Mark) : String :=
  "  in \"" ++ source ++ "\", line " ++ natText (m.line + 1) ++ ", column " ++ natText (m.column + 1)

/-- The lines of a message about a text from the named source. The place where the context began is
left out where the problem is at the same place. -/
def Fault.message (source : String) : Fault → String
  | unprintable c position =>
    "unacceptable character #x" ++ String.ofList (hexDigits 4 c.toNat) ++
      ": special characters are not allowed\n  in \"" ++ source ++ "\", position " ++
      natText position
  | found problem mark => problem.text ++ "\n" ++ mark.text source
  | inside context start problem mark =>
    let opening := match start with
      | some m => if m = mark then [] else [m.text source]
      | none => []
    String.intercalate "\n" (context.text :: opening ++ [problem.text, mark.text source])
  | misfit m => m.message

end LineJoin.Yaml
