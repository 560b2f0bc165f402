import LineJoin.Yaml.Fault

/-!
# Tokens of YAML texts

The words and signs of a YAML text, together with the signs that indentation stands for: where block
collections begin and end.
-/

namespace LineJoin.Yaml

inductive Token.Content where
  | version (major minor : Nat)
  | tagHandle (handle lead : String)
  /-- A directive that has no meaning here. -/
  | otherDirective
  | documentStart
  | documentEnd
  | streamEnd
  | blockSequenceStart
  | blockMappingStart
  | blockEnd
  | flowSequenceStart
  | flowMappingStart
  | flowSequenceEnd
  | flowMappingEnd
  | blockEntry
  | flowEntry
  | key
  | value
  | reference (name : String)
  | anchor (name : String)
  /-- A tag, with the handle to look up unless it is written out. -/
  | tag (handle : Option String) (suffix : String)
  | scalar (text : List Char) (plain : Bool)
deriving DecidableEq, Repr

structure Token where
  content : Token.Content
  start : Mark
  stop : Mark
deriving DecidableEq, Repr

/-- How messages name the kind of a token. -/
def Token.Content.name : Token.Content → String
  | version _ _ | tagHandle _ _ | otherDirective => "<directive>"
  | documentStart => "<document start>"
  | documentEnd => "<document end>"
  | streamEnd => "<stream end>"
  | blockSequenceStart => "<block sequence start>"
  | blockMappingStart => "<block mapping start>"
  | blockEnd => "<block end>"
  | flowSequenceStart => "["
  | flowMappingStart => "\x7b"
  | flowSequenceEnd => "]"
  | flowMappingEnd => "\x7d"
  | blockEntry => "-"
  | flowEntry => ","
  | key => "?"
  | value => ":"
  | reference _ => "<alias>"
  | anchor _ => "<anchor>"
  | tag _ _ => "<tag>"
  | scalar _ _ => "<scalar>"

def Token.Content.isDirective : Token.Content → Bool
  | version _ _ | tagHandle _ _ | otherDirective => true
  | _ => false

end LineJoin.Yaml
