import LineJoin.Yaml.Draft
import LineJoin.Yaml.Page

/-!
# Writing YAML

`Yaml.write` writes a value as a document in block style: one item or entry on each line, with an
indentation of two and lists at the indentation of their keys. The text of a value reads back as the
value.
-/

namespace LineJoin.Yaml

/-- Says that a value cannot be written. -/
structure Unwritable where
  value : Value

def Unwritable.message (u : Unwritable) : String :=
  "('cannot represent an object', " ++ u.value.literal ++ ")"

def padNumber (n : Nat) : List Char :=
  let digits := decimalDigits n
  List.replicate (3 - digits.length) '0' ++ digits

def anchorName (n : Nat) : List Char := 'i' :: 'd' :: padNumber n

/-- A tag as it is written before a node. -/
def Tag.shorthand (t : Tag) : List Char := '!' :: '!' :: t.name.toList

namespace Draft

/-- The length of a key before its colon, without quotes and signs. -/
def keyLength : Draft → Nat
  | reference n => (anchorName n).length
  | scalar anchor tag text =>
    (anchor.map fun n => (anchorName n).length).getD 0 + tag.shorthand.length + text.length
  | sequence anchor _ =>
    (anchor.map fun n => (anchorName n).length).getD 0 + Tag.seq.shorthand.length
  | mapping anchor tag _ =>
    (anchor.map fun n => (anchorName n).length).getD 0 + tag.shorthand.length

/-- Whether a key can stand before its colon on one line. Other keys follow a question mark. -/
def isSimpleKey (d : Draft) : Bool :=
  d.keyLength < 128 && match d with
    | reference _ => true
    | scalar _ _ text => !text.isEmpty && !Style.isMultiline text
    | sequence _ items => items.isEmpty
    | mapping _ _ entries => entries.isEmpty

/-- Where a node stands. The outermost node has no indentation around it. -/
structure Place where
  outer : Option Nat
  inMapping : Bool
  isKey : Bool

def Place.inner (p : Place) : Nat := (p.outer.map (· + 2)).getD 2

def Place.blockIndent (p : Place) : Nat := (p.outer.map (· + 2)).getD 0

/-- Items of a sequence under a key are not indented. -/
def Place.itemIndent (place : Place) (page : Page) : Nat :=
  if place.inMapping && !page.fresh then place.outer.getD 0 else place.blockIndent

def putAnchor (anchor : Option Nat) (p : Page) : Page :=
  match anchor with
  | some n => p.sign false ('&' :: anchorName n)
  | none => p

def putScalar (place : Place) (tag : Tag) (text : List Char) (p : Page) : Page :=
  let clear := Tag.ofPlain text == tag
  let style := Style.choose (tag == .binary) clear place.isKey text
  let told := if style = .plain then clear else tag == .str
  let p := if told then p else p.sign false tag.shorthand
  let folds := !place.isKey
  match style with
  | .plain => { p.putPlain place.inner folds text with isOpen := place.outer.isNone }
  | .single => p.putSingle place.inner folds text
  | .double => p.putDouble place.inner folds text
  | .block => p.putBlock place.inner text

mutual
def put (place : Place) : Draft → Page → Page
  | reference n, p => p.sign false ('*' :: anchorName n)
  | scalar anchor tag text, p => putScalar place tag text (putAnchor anchor p)
  | sequence anchor items, p =>
    let p := putAnchor anchor p
    if items.isEmpty then p.sign false ['[', ']']
    else putItems (place.itemIndent p) items p
  | mapping anchor tag entries, p =>
    let p := putAnchor anchor p
    let p := if tag = .map then p else p.sign false tag.shorthand
    if entries.isEmpty then p.sign false ['\x7b', '\x7d']
    else putEntries place.blockIndent entries p

def putItems (indent : Nat) : List Draft → Page → Page
  | [], p => p
  | item :: rest, p =>
    putItems indent rest (put ⟨some indent, false, false⟩ item ((p.indent indent).sign true ['-']))

def putEntries (indent : Nat) : List (Draft × Draft) → Page → Page
  | [], p => p
  | e :: rest, p => putEntries indent rest (putEntry indent e (p.indent indent))

def putEntry (indent : Nat) : Draft × Draft → Page → Page
  | (key, value), p =>
    let place : Place := ⟨some indent, true, false⟩
    if key.isSimpleKey then
      put place value ((put { place with isKey := true } key p).close [':'])
    else
      put place value
        (((put place key (p.sign true ['?'])).indent indent).sign true [':'])
end

/-- The text of a document. -/
def text (d : Draft) : String :=
  let p := (put ⟨none, false, false⟩ d {}).indent 0
  (if p.isOpen then (p.sign false "...".toList).indent 0 else p).text

end Draft

def write (v : Value) : Except Unwritable String :=
  match unwritable? v with
  | some u => .error ⟨u⟩
  | none => .ok (Draft.ofValue v).text

end LineJoin.Yaml
