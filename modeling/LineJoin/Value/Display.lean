import LineJoin.Value.Basic

/-!
# Values in messages

`Value.literal` shows a value as messages show parts of collections, with texts between quotes.
`Value.display` shows it on its own, where a text stands as it is.
-/

namespace LineJoin

namespace Value

def boolText (b : Bool) : String := if b then "True" else "False"

def tupleText : List String → String
  | [item] => "(" ++ item ++ ",)"
  | items => "(" ++ String.intercalate ", " items ++ ")"

def braces (items : List String) : String :=
  "\x7b" ++ String.intercalate ", " items ++ "\x7d"

mutual
def literal : Value → String
  | null => "None"
  | bool b => boolText b
  | int n => intText n
  | float x => x.text
  | str s => quoted s
  | bytes data => quotedBytes data
  | list items => "[" ++ String.intercalate ", " (literals items) ++ "]"
  | tuple items => tupleText (literals items)
  | set items => if items.isEmpty then "set()" else braces (literals items)
  | dict entries => braces (entryLiterals entries)
  | frozen entries => "mappingproxy(" ++ braces (entryLiterals entries) ++ ")"
  | object fields => "namespace(" ++ String.intercalate ", " (fieldLiterals fields) ++ ")"
  | rule r => r.text
  | day d => "datetime.date(" ++ d.commaText ++ ")"
  | moment m => m.literal
  | shared _ v => v.literal

def literals : List Value → List String
  | [] => []
  | v :: rest => v.literal :: literals rest

def entryLiteral : Value × Value → String
  | (key, value) => key.literal ++ ": " ++ value.literal

def entryLiterals : List (Value × Value) → List String
  | [] => []
  | e :: rest => entryLiteral e :: entryLiterals rest

def fieldLiteral : String × Value → String
  | (name, value) => name ++ "=" ++ value.literal

def fieldLiterals : List (String × Value) → List String
  | [] => []
  | f :: rest => if f.1 = "" then fieldLiterals rest else fieldLiteral f :: fieldLiterals rest
end

def display : Value → String
  | str s => s
  | day d => d.text
  | moment m => m.text
  | shared _ v => v.display
  | v => v.literal

end Value

end LineJoin
