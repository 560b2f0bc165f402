/-!
# Log records

What the program reports while it works. A `Logged` computation gives a result or an error, and the
records made on the way either way.
-/

namespace LineJoin

inductive Level where
  | debug
  | info
  | warning
  | error
  | critical
deriving DecidableEq, Repr

namespace Level

def name : Level → String
  | debug => "DEBUG"
  | info => "INFO"
  | warning => "WARNING"
  | error => "ERROR"
  | critical => "CRITICAL"

def number : Level → Nat
  | debug => 10
  | info => 20
  | warning => 30
  | error => 40
  | critical => 50

end Level

/-- The part of the program that a record comes from. -/
inductive Channel where
  | application
  | options
  | rewriting
  | settings
  | decoding
deriving DecidableEq, Repr

def Channel.name : Channel → String
  | application => "cjk_linebreak"
  | options => "cjk_linebreak.models"
  | rewriting => "cjk_linebreak.break_rewriter"
  | settings => "cjk_linebreak.config_loader"
  | decoding => "cjk_linebreak.common_file_utils"

structure Record where
  level : Level
  channel : Channel
  message : String
  /-- The record tells of an error whose circumstances are shown below it. -/
  withTrace : Bool := false
deriving DecidableEq, Repr

/-- A computation that can fail and keeps records, the oldest first. -/
abbrev Logged (ε α : Type) : Type := ExceptT ε (StateM (List Record)) α

namespace Logged

variable {ε ε' α : Type}

def log (level : Level) (channel : Channel) (message : String) : Logged ε Unit :=
  modifyThe (List Record) (· ++ [{ level := level, channel := channel, message := message }])

def ofExcept (e : Except ε α) : Logged ε α := ExceptT.mk (pure e)

/-- The result and the records. -/
def outcome (x : Logged ε α) : Except ε α × List Record := x.run.run []

/-- The same computation with its error seen as one of another kind. -/
def mapError (f : ε → ε') (x : Logged ε α) : Logged ε' α :=
  ExceptT.mk (Except.mapError f <$> x.run)

end Logged

end LineJoin
