import LineJoin.Text.Quoted

/-!
# Break rules

A rule says what may stand next to a line break that is removed. Each side is an optional pattern
fragment: a missing side admits the units alone, a present one admits the units and the fragment.
-/

namespace LineJoin

structure Rule where
  before : Option String := none
  after : Option String := none
deriving DecidableEq, Repr, Inhabited

namespace Rule

def sideText : Option String → String
  | none => "None"
  | some fragment => quoted fragment

/-- How messages show a rule. -/
def text (r : Rule) : String :=
  "BreakRule(before_break=" ++ sideText r.before ++ ", after_break=" ++ sideText r.after ++ ")"

/-- An empty fragment is a missing one. -/
def side (fragment : String) : Option String :=
  if fragment = "" then none else some fragment

end Rule

end LineJoin
