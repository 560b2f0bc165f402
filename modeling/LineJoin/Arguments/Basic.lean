import LineJoin.Rule
import LineJoin.Settings.Schema

/-!
# Arguments

What a command line asks for, the switches that it may hold, and what can be wrong with it.
-/

namespace LineJoin

structure Arguments where
  config : String := Settings.defaultFileName
  logLevel : Option String := none
  writeConfig : Option String := none
  filepath : Option String := none
  output : Option String := none
  treeFormat : Option String := none
  encoding : Option String := none
  /-- The units that are switched on. -/
  extensions : Extensions := {}
  rules : List Rule := []
deriving Repr

inductive Switch where
  | help
  | config
  | logLevel
  | writeConfig
  | output
  | format
  | encoding
  | hangul
  | emoji
  | squared
  | before
  | after
  | pair
deriving DecidableEq, Repr

namespace Switch

/-- The names of each switch, in the order in which messages list them. -/
def names : List (String × Switch) :=
  [("-h", help), ("--help", help), ("--config", config), ("--log-level", logLevel),
    ("--write-config", writeConfig), ("-o", output), ("--output", output), ("--format", format),
    ("--encoding", encoding), ("--hangul", hangul), ("--emoji", emoji),
    ("--squared-latin-abbrs", squared), ("--before", before), ("--after", after), ("--pair", pair)]

def named? (name : String) : Option Switch := names.lookup name

/-- How messages name a switch. -/
def label (s : Switch) : String :=
  String.intercalate "/" ((names.filter fun n => n.2 == s).map (·.1))

/-- How many values follow. -/
def valueCount : Switch → Nat
  | help | hangul | emoji | squared => 0
  | pair => 2
  | _ => 1

/-- The values that a switch admits, where not every text is one. -/
def choices? : Switch → Option (List String)
  | logLevel => some Settings.logLevels
  | format => some Settings.treeFormats
  | _ => none

end Switch

inductive ArgumentFault where
  | ambiguous (argument : String) (matching : List String)
  /-- Fewer values follow than the switch has. -/
  | missingValues (s : Switch)
  | unwantedValue (s : Switch) (value : String)
  | invalidChoice (s : Switch) (value : String) (choices : List String)
  | unrecognized (arguments : List String)
  | noInput
  | outputWithoutInput
deriving Repr

namespace ArgumentFault

def valuesText : Nat → String
  | 1 => "one argument"
  | n => natText n ++ " arguments"

def problem : ArgumentFault → String
  | ambiguous argument matching =>
    "ambiguous option: " ++ argument ++ " could match " ++ String.intercalate ", " matching
  | missingValues s => "argument " ++ s.label ++ ": expected " ++ valuesText s.valueCount
  | unwantedValue s value =>
    "argument " ++ s.label ++ ": ignored explicit argument " ++ quoted value
  | invalidChoice s value choices =>
    "argument " ++ s.label ++ ": invalid choice: " ++ quoted value ++ " (choose from " ++
      String.intercalate ", " (choices.map quoted) ++ ")"
  | unrecognized arguments => "unrecognized arguments: " ++ String.intercalate " " arguments
  | noInput => "the following arguments are required: filepath"
  | outputWithoutInput => "--output requires an input file"

end ArgumentFault

namespace Arguments

def programName : String := "cjk-linebreak"

def usage : String :=
  "usage: cjk-linebreak [-h] [--config CONFIG] " ++
    "[--log-level \x7bDEBUG,INFO,WARNING,ERROR,CRITICAL\x7d] [--write-config PATH] [-o OUTPUT] " ++
    "[--format \x7btext,mdast\x7d] [--encoding ENCODING] [--hangul] [--emoji] " ++
    "[--squared-latin-abbrs] [--before PATTERN] [--after PATTERN] [--pair BEFORE AFTER] " ++
    "[filepath]\n"

def helpLines : List String :=
  ["",
    "cjk-linebreak - remove line breaks between CJK characters",
    "",
    "positional arguments:",
    "  filepath              Input file (plain text or mdast JSON). Use '-' to read from stdin",
    "",
    "options:",
    "  -h, --help            show this help message and exit",
    "  --config CONFIG       Path to configuration file (default: cjk_linebreak.yml)",
    "  --log-level \x7bDEBUG,INFO,WARNING,ERROR,CRITICAL\x7d",
    "                        Override the configured log level",
    "  --write-config PATH   Save the effective settings, command-line overrides included, as YAML to PATH",
    "  -o OUTPUT, --output OUTPUT",
    "                        Write the result to this file instead of stdout",
    "  --format \x7btext,mdast\x7d",
    "                        Input format: plain text or an mdast JSON tree (default: from config, else text)",
    "  --encoding ENCODING   Input encoding. Disables detection when given",
    "  --hangul              Treat Hangul as CJK-like",
    "  --emoji               Treat emoji sequences as CJK-like",
    "  --squared-latin-abbrs",
    "                        Treat squared Latin abbreviations (e.g. ㎅) as CJK-like",
    "  --before PATTERN      Add a rule accepting PATTERN before the break",
    "  --after PATTERN       Add a rule accepting PATTERN after the break",
    "  --pair BEFORE AFTER   Add a rule with both sides; pass '' to leave a side empty",
    "",
    "USAGE EXAMPLES:",
    "  cjk-linebreak novel.txt                      # print the unwrapped text",
    "  cjk-linebreak novel.txt -o novel.clean.txt   # write to a file",
    "  cjk-linebreak --hangul --emoji notes.txt     # also join Hangul and emoji",
    "  cjk-linebreak --before '[)]' --after '[(]' doc.txt",
    "  cjk-linebreak --format mdast tree.json       # transform an mdast JSON tree",
    "  cat wrapped.txt | cjk-linebreak -            # read from stdin",
    "  cjk-linebreak --hangul --write-config cjk_linebreak.yml   # save settings"]

def help : String := usage ++ String.join (helpLines.map (· ++ "\n"))

end Arguments

/-- What is printed about a fault. -/
def ArgumentFault.message (f : ArgumentFault) : String :=
  Arguments.usage ++ Arguments.programName ++ ": error: " ++ f.problem ++ "\n"

end LineJoin
