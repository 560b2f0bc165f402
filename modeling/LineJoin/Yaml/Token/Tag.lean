import LineJoin.Encoding.Unicode
import LineJoin.Yaml.Cursor
import LineJoin.Yaml.Token.Basic

/-!
# Names, tags and directives

Anchors and aliases have names of letters and digits. A tag is a URI, usually shortened by a handle
between exclamation marks; a directive at the start of a document says what a handle stands for.
-/

namespace LineJoin.Yaml.Token

open Reading

/-- The token that a content makes from a mark to here. -/
def upTo (start : Mark) (content : Content) : Reading Token := do
  return ⟨content, start, ← mark⟩

/-- A name, after which the given characters may stand. -/
def readName (context : Context) (start : Mark) (mayFollow : Char → Bool) : Reading String := do
  let name ← takeWhile isNameChar
  if name.isEmpty || !mayFollow (← head) then
    expected context start "alphabetic or numeric character"
  return String.ofList name

def mayFollowAnchor (c : Char) : Bool :=
  isGap c || "?:,]\x7d%@\x60".toList.contains c

/-- An anchor or an alias, by its first character. -/
def readAnchor : Reading Token := do
  let start ← mark
  let isAlias := (← head) = '*'
  advance 1
  let name ← readName (if isAlias then .reference else .anchor) start mayFollowAnchor
  upTo start (if isAlias then .reference name else .anchor name)

/-! ## Tags -/

def isUriChar (c : Char) : Bool :=
  isNameChar c || ";/?:@&=+$,.!~*'()[]%".toList.contains c

/-- The bytes of a run of escapes. -/
def escapedBytes (context : Context) (start : Mark) : Nat → Reading (List UInt8)
  | 0 => return []
  | fuel + 1 => do
    if (← head) ≠ '%' then return []
    advance 1
    let digits := (← get).rest.take 2
    for c in [← ahead 0, ← ahead 1] do
      if !isHexDigit c then
        failInside context start
          (.expected "URI escape sequence of 2 hexadecimal numbers" c)
    advance 2
    return UInt8.ofNat (Span.hexNumber digits) :: (← escapedBytes context start fuel)

/-- A run of escapes, which have to be the bytes of a text. -/
def uriEscapes (context : Context) (start : Mark) : Reading (List Char) := do
  let here ← mark
  match Encoding.Utf8.decode (← escapedBytes context start ((← left) + 1)) with
  | .ok cs => return cs
  | .error f => throw (.inside context (some start) (.badBytes f.message) here)

def uriParts (context : Context) (start : Mark) : Nat → Reading (List Char)
  | 0 => return []
  | fuel + 1 => do
    let plain ← takeWhile fun c => isUriChar c && c != '%'
    if (← head) = '%' then
      let cs ← uriEscapes context start
      return plain ++ cs ++ (← uriParts context start fuel)
    else return plain

/-- A URI of at least one character. -/
def readUri (inDirective : Bool) (start : Mark) : Reading String := do
  let before := (← get).index
  let cs ← uriParts (if inDirective then .directive else .tag) start ((← left) + 1)
  if (← get).index = before then
    expected (if inDirective then .directiveUri else .tagUri) start "URI"
  return String.ofList cs

/-- A handle: one exclamation mark, or a name between two. -/
def readHandle (context : Context) (start : Mark) : Reading String := do
  if (← head) ≠ '!' then expected context start "'!'"
  if (← ahead 1) = ' ' then
    advance 1
    return "!"
  else
    let name := (((← get).rest.drop 1).takeWhile isNameChar)
    advance (name.length + 1)
    if (← head) ≠ '!' then expected context start "'!'"
    advance 1
    return String.ofList ('!' :: name ++ ['!'])

/-- Whether a second exclamation mark comes before the next blank. -/
def hasHandle (cs : List Char) : Bool :=
  (cs.takeWhile fun c => !isSpaceOrEnd c).contains '!'

def readTag : Reading Token := do
  let start ← mark
  let next ← ahead 1
  let content ← if next = '<' then do
      advance 2
      let uri ← readUri false start
      if (← head) ≠ '>' then expected .tagUri start "'>'"
      advance 1
      pure (Content.tag none uri)
    else if isGap next then do
      advance 1
      pure (Content.tag none "!")
    else do
      let handle ← if hasHandle ((← get).rest.drop 1) then readHandle .tag start
        else do
          advance 1
          pure "!"
      pure (Content.tag (some handle) (← readUri false start))
  if !isSpaceOrEnd (← head) then expected .tag start "' '"
  upTo start content

/-! ## Directives -/

def versionNumber (start : Mark) : Reading Nat := do
  if !isDigit (← head) then expected .directive start "a digit"
  return digitsValue (← takeWhile isDigit)

def versionContent (start : Mark) : Reading Content := do
  skipWhile (· == ' ')
  let major ← versionNumber start
  if (← head) ≠ '.' then expected .directive start "a digit or '.'"
  advance 1
  let minor ← versionNumber start
  if !isSpaceOrEnd (← head) then expected .directive start "a digit or ' '"
  return .version major minor

def handleContent (start : Mark) : Reading Content := do
  skipWhile (· == ' ')
  let handle ← readHandle .directive start
  if (← head) ≠ ' ' then expected .directive start "' '"
  skipWhile (· == ' ')
  let lead ← readUri true start
  if !isSpaceOrEnd (← head) then expected .directive start "' '"
  return .tagHandle handle lead

def readDirective : Reading Token := do
  let start ← mark
  advance 1
  let name ← readName .directive start isSpaceOrEnd
  let token ← if name = "YAML" then do upTo start (← versionContent start)
    else if name = "TAG" then do upTo start (← handleContent start)
    else do
      let token ← upTo start .otherDirective
      skipWhile fun c => !isBreakOrEnd c
      pure token
  restOfLine .directive start
  return token

end LineJoin.Yaml.Token
