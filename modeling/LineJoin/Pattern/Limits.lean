import LineJoin.Pattern.Escapes

/-!
# Limits of approximate matching

Braces after an element may say how many errors are allowed in matching it, of each kind (`d` for
characters that are missing, `i` for ones too many, `s` for other ones, `e` for all of them) and by
cost, as in `{1<=e<=3,2i+1d<5}`. The limits are read here; no pattern that allows errors is matched.
-/

namespace LineJoin.Pattern

open Reader

variable [CharacterNames]

/-- Limits on the errors in matching an element. -/
structure Limits where
  /-- The least and the most number of errors of a kind. -/
  kinds : List (Char × Nat × Option Nat) := []
  hasCosts : Bool := false

namespace Limits

def add (l : Limits) (kind : Char) (least : Nat) (most : Option Nat) : Limits :=
  { l with kinds := (kind, least, most) :: l.kinds }

def none? (l : Limits) (kind : Char) : Bool := l.kinds.lookup kind == some (0, some 0)

/-- Whether there may be errors at all. -/
def allowErrors (l : Limits) : Bool := !(l.none? 'e' || ['s', 'i', 'd'].all l.none?)

end Limits

def readLimit : Reader Nat := do
  let place ← position
  let digits ← takeWhile isDigit
  if digits.isEmpty then failAt place .badErrorLimit else return digitsValue digits

/-- The sign before a limit; whether the limit itself is allowed. -/
def readComparison : Reader (Option Bool) := do
  if ← accept '<' then return some (← accept '=') else return none

def errorKind? (c : Char) : Option Char := if ['d', 'e', 'i', 's'].contains c then some c else none

/-- A kind of errors without a limit yet. -/
def checkKind (l : Limits) (c : Option Char) : Reader (Option Char) := do
  match c.bind errorKind? with
  | some kind => if (l.kinds.lookup kind).isSome then fail .repeatedErrorKind else return some kind
  | none => return none

/-- A kind of errors, with the most of them after it. -/
def readMost (l : Limits) (c : Char) : Reader (Option Limits) := do
  match ← checkKind l (some c) with
  | none => return none
  | some kind =>
    match ← readComparison with
    | none => return some (l.add kind 0 none)
    | some inclusive =>
      let place ← position
      let most ← readLimit
      if inclusive then return some (l.add kind 0 (some most))
      else if most = 0 then failAt place .badErrorLimit
      else return some (l.add kind 0 (some (most - 1)))

/-- A kind of errors between the least and the most of them. -/
def readBetween (l : Limits) : Reader (Option Limits) := do
  let place ← position
  let low ← readLimit
  match ← readComparison with
  | none => return none
  | some fromLow =>
    match ← checkKind l (← next) with
    | none => return none
    | some kind =>
      match ← readComparison with
      | none => return none
      | some toHigh =>
        let high ← readLimit
        let least := if fromLow then low else low + 1
        let above := if toHigh then high + 1 else high
        if least < above then return some (l.add kind least (some (above - 1)))
        else failAt place .badErrorLimit

def readKindLimit (l : Limits) : Reader (Option Limits) := do
  let before ← get
  match ← next with
  | some c =>
    if c.isAlpha then readMost l c
    else if isDigit c then set before; readBetween l
    else return none
  | none => return none

/-- The cost of a kind of errors, besides the ones that have one. -/
def readCost (costs : List Char) : Reader (Option (List Char)) := do
  let _ ← takeWhile isDigit
  match ← next with
  | some c =>
    if ['d', 'i', 's'].contains c then
      if costs.contains c then fail .repeatedErrorCost else return some (c :: costs)
    else return none
  | none => return none

/-- Costs with a sign between them. There are three kinds of errors that cost something. -/
def readCosts : Nat → List Char → Reader (Option (List Char))
  | 0, _ => return none
  | fuel + 1, costs => do
    match ← readCost costs with
    | none => return none
    | some costs => if ← accept '+' then readCosts fuel costs else return some costs

/-- A limit on the costs of all errors. -/
def readCostLimit (l : Limits) : Reader (Option Limits) := do
  if l.hasCosts then fail .secondCostLimit
  else
    match ← readCosts 4 [] with
    | none => return none
    | some _ =>
      match ← readComparison with
      | none => return none
      | some inclusive =>
        let digits ← takeWhile isDigit
        if digits.isEmpty then fail .beyondMatching
        else if !inclusive && digitsValue digits = 0 then fail .badErrorLimit
        else return some { l with hasCosts := true }

/-- The limit for one kind of errors, or for the costs. -/
def readOneLimit (l : Limits) : Reader (Option Limits) := do
  match ← attempt (readKindLimit l) with
  | some l => return some l
  | none => readCostLimit l

/-- Limits with commas between them. There are four kinds of errors, and the costs. -/
def readLimitList : Nat → Limits → Reader (Option Limits)
  | 0, _ => return none
  | fuel + 1, l => do
    match ← readOneLimit l with
    | none => return none
    | some l => if ← accept ',' then readLimitList fuel l else return some l

/-- The class of characters that errors are made with. -/
def readErrorTest : Reader Unit := do
  let place ← position
  match ← next with
  | none => failAt place .noTest
  | some c =>
    if c = '\\' then let _ ← readEscape false
    else if c = '[' then let _ ← readSet
    else if "()|?*+\x7b^$#".toList.contains c then failAt place .noTest

/-- The closing brace of limits. -/
def closeLimits (l : Limits) : Reader (Option Limits) := do
  if ← accept '\x7d' then return some l else fail .unclosedLimits

/-- Limits after an opening brace; without proper ones the brace stands for itself. -/
def readLimits : Reader (Option Limits) := do
  match ← attempt (readLimitList 6 {}) with
  | none => return none
  | some l =>
    if ← accept ':' then readErrorTest
    closeLimits l

end LineJoin.Pattern
