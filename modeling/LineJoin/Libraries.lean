import LineJoin.Encoding.Choice
import LineJoin.Joining.Document

/-!
# Libraries

What a run leaves to others: detecting encodings, decoding, and matching as far as patterns go beyond
the ones that are known here. Texts are made of characters here. Where a text holds halves of pairs
that stand alone, it is left to others what becomes of it; so a source may be given by its code points.
-/

namespace LineJoin

/-- A rule that may make a pattern elsewhere: it is approximate, prunes the search or sets other flags,
or it names a property or a character that is not known here. -/
def RuleFault.isBeyond (f : RuleFault) : Bool :=
  match f.fault.problem with
  | .beyondMatching | .unknownProperty | .unknownPropertyValue | .undefinedName => true
  | _ => false

/-- A rule without fragments, which admits units only. -/
def Rule.isBare (r : Rule) : Bool := r.before.getD "" == "" && r.after.getD "" == ""

/-- The text of an input. -/
inductive Source where
  | text (s : String)
  /-- A text in which halves of pairs stand alone, by its code points. -/
  | halved (codes : List Nat)
deriving DecidableEq

structure Libraries where
  detector : Encoding.Detector := fun _ => {}
  registry : Encoding.Registry := Encoding.standardRegistry
  /-- How texts are rewritten where the first rule that makes no pattern here is beyond. -/
  beyond : Options → RuleFault → Except RuleFault (String → String) := fun _ f => .error f
  /-- What a JSON document with halves in its strings is rewritten to, if no half is left. -/
  halvedDocument : Options → String → Option String := fun _ _ => none
  /-- What a source with halves is rewritten to, if no half is left. -/
  halvedSource : Entries → Options → List Nat → Except DocumentError (Option String) :=
    fun _ _ _ => .ok none

namespace Libraries

/-- How texts are rewritten, or the fault of a rule. -/
def rewriter (libs : Libraries) (o : Options) : Except RuleFault (String → String) :=
  match compileRules o with
  | .ok patterns => .ok (rewriteString patterns)
  | .error f => if f.isBeyond then libs.beyond o f else .error f

/-- Removes line breaks from a tree. -/
def removeBreaks (libs : Libraries) (o : Options) (tree : Value) : Tree.Outcome :=
  match libs.rewriter o with
  | .error f => ⟨tree, .error (.rewrite (.rule f)), []⟩
  | .ok f => Tree.outcomeOf [] o.rules.length (Tree.rewriteWalk f tree)

/-- The result for a JSON document, unless halves are left in it. Without fragments only breaks are
deleted, and every half is left. -/
def resultFor (libs : Libraries) (o : Options) (source result : String) : Option String :=
  if !Json.holdsHalf source.toList then some result
  else if o.additionalRules.all (·.isBare) then none
  else libs.halvedDocument o source

end Libraries

end LineJoin
