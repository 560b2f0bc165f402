import LineJoin.Joining.Options

/-!
# The settings

The sections and keys of a configuration, the type that each is to have, and the default values.
-/

namespace LineJoin.Settings

inductive ValueType where
  | section
  | bool
  | listOrNull
  | text
  | number
deriving DecidableEq, Repr

/-- The type of every known key, by the path of its section and its name. -/
def schema : List (String × ValueType) :=
  [("line_breaks", .section), ("line_breaks.include_hangul", .bool),
    ("line_breaks.include_emoji", .bool), ("line_breaks.include_squared_latin_abbrs", .bool),
    ("line_breaks.additional_regexp_pairs", .listOrNull), ("input", .section),
    ("input.default_encoding", .text), ("input.detect_encoding", .bool),
    ("input.confidence_threshold", .number), ("input.tree_format", .text), ("logging", .section),
    ("logging.level", .text), ("logging.format", .text), ("logging.file_enabled", .bool),
    ("logging.file_path", .text)]

/-- Whether a value has a type. Truth values are no numbers. -/
def ValueType.admits : ValueType → Value → Bool
  | .section, v => v.dict?.isSome
  | .bool, v => match v.unshare with
    | .bool _ => true
    | _ => false
  | .listOrNull, v => match v.unshare with
    | .list _ | .null => true
    | _ => false
  | .text, v => v.text?.isSome
  | .number, v => match v.unshare with
    | .int _ | .float _ => true
    | _ => false

def treeFormats : List String := ["text", "mdast"]

def logLevels : List String := ["DEBUG", "INFO", "WARNING", "ERROR", "CRITICAL"]

def defaultFileName : String := "cjk_linebreak.yml"

def mapping (entries : List (String × Value)) : Value :=
  .dict (entries.map fun e => (.str e.1, e.2))

/-- The double nearest to 0.7. -/
def defaultThreshold : Binary64 := .ofDecimal false ⟨7, -1⟩

def defaults : Entries :=
  [(.str "line_breaks", mapping
      [("include_hangul", .bool false), ("include_emoji", .bool false),
        ("include_squared_latin_abbrs", .bool false), ("additional_regexp_pairs", .list [])]),
    (.str "input", mapping
      [("default_encoding", .str "utf-8"), ("detect_encoding", .bool true),
        ("confidence_threshold", .float defaultThreshold), ("tree_format", .str "text")]),
    (.str "logging", mapping
      [("level", .str "INFO"),
        ("format", .str "%(asctime)s - %(name)s - %(levelname)s - %(message)s"),
        ("file_enabled", .bool false), ("file_path", .str "cjk_linebreak.log")])]

/-- The options that the section on line breaks gives; an empty one gives the default options. -/
def optionsOf (config : Entries) : Logged OptionsError Options :=
  let v := Entries.named config "line_breaks"
  Options.ofValue (if v.truthy then v else .dict [])

end LineJoin.Settings
