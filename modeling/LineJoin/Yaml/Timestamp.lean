import LineJoin.Yaml.Fault

/-!
# Timestamps

A timestamp is a date, or a date and a time of day with an optional fraction of a second and an
optional offset from universal time.
-/

namespace LineJoin.Yaml

/-- The written parts of a time of day. -/
structure TimeParts where
  hour : Nat
  minute : Nat
  second : Nat
  fraction : List Char
  /-- Minutes ahead of universal time. -/
  offset : Option Int
deriving DecidableEq, Repr

structure TimestampParts where
  day : Day
  time : Option TimeParts
deriving DecidableEq, Repr

namespace TimestampParts

/-- The longest run of digits up to a length, as a number, if there are enough. -/
def number? (least most : Nat) (cs : List Char) : Option (Nat × List Char) :=
  let digits := (cs.take most).takeWhile isDigit
  if least ≤ digits.length then some (digitsValue digits, cs.drop digits.length) else none

def sign? (c : Char) : List Char → Option (List Char)
  | d :: rest => if d = c then some rest else none
  | [] => none

def isGapChar (c : Char) : Bool := c == ' ' || c == '\t'

/-- What separates the time from the date: a letter or blanks. -/
def separator? : List Char → Option (List Char)
  | c :: rest =>
    if c = 'T' || c = 't' then some rest
    else if isGapChar c then some (rest.dropWhile isGapChar) else none
  | [] => none

def readFraction : List Char → List Char × List Char
  | '.' :: rest => (rest.takeWhile isDigit, rest.dropWhile isDigit)
  | rest => ([], rest)

/-- The offset at the end, or none where the text ends. -/
def offset? (cs : List Char) : Option (Option Int) :=
  if cs.isEmpty then some none
  else match cs.dropWhile isGapChar with
    | ['Z'] => some (some 0)
    | c :: rest => do
      if !(c == '+' || c == '-') then none
      let (hours, rest) ← number? 1 2 rest
      let minutes ← match rest with
        | [] => some 0
        | ':' :: rest =>
          match number? 2 2 rest with
          | some (m, []) => some m
          | _ => none
        | _ => none
      let total : Int := hours * 60 + minutes
      return some (if c = '-' then -total else total)
    | [] => none

def readDay (cs : List Char) : Option (Day × List Char) := do
  let (year, cs) ← number? 4 4 cs
  let (month, cs) ← number? 1 2 (← sign? '-' cs)
  let (day, cs) ← number? 1 2 (← sign? '-' cs)
  return (⟨year, month, day⟩, cs)

def readTime (cs : List Char) : Option TimeParts := do
  let (hour, cs) ← number? 1 2 cs
  let (minute, cs) ← number? 2 2 (← sign? ':' cs)
  let (second, cs) ← number? 2 2 (← sign? ':' cs)
  let (fraction, cs) := readFraction cs
  return ⟨hour, minute, second, fraction, ← offset? cs⟩

def read? (cs : List Char) : Option TimestampParts := do
  let (day, cs) ← readDay cs
  if cs.isEmpty then return ⟨day, none⟩
  return ⟨day, ← readTime (← separator? cs)⟩

/-- A fraction of a second in microseconds; further digits are cut off. -/
def micros (fraction : List Char) : Nat :=
  let digits := fraction.take 6
  digitsValue digits * tenTo (6 - digits.length)

end TimestampParts

/-- Whether a plain scalar is a timestamp. A date alone has to have all its digits. -/
def isTimestamp (cs : List Char) : Bool :=
  match TimestampParts.read? cs with
  | some p => p.time.isSome || cs.length == 10
  | none => false

end LineJoin.Yaml
