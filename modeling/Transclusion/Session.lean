import Transclusion.Text.Ranges

/-!
The state that engine work reads and writes: a store, the flag that a render is
in progress, and the records noted so far. Work that fails keeps what it did to
the state before.
-/

namespace Transclusion

inductive Severity where
  | debug
  | info
  | warning
  | error
  | critical
  deriving DecidableEq, Repr

namespace Severity

def name : Severity → String
  | .debug => "DEBUG"
  | .info => "INFO"
  | .warning => "WARNING"
  | .error => "ERROR"
  | .critical => "CRITICAL"

end Severity

structure Record where
  severity : Severity
  source : String
  message : String
  deriving DecidableEq, Repr

structure Session (Store : Type) where
  store : Store
  busy : Bool := false
  records : List Record := []

abbrev Act (Store : Type) := StateM (Session Store)

namespace Session

variable {Store : Type}

/-- The record becomes the last one. -/
def note (severity : Severity) (source message : String) : Act Store Unit :=
  modify fun session =>
    { session with records := session.records ++ [⟨severity, source, message⟩] }

def setBusy (busy : Bool) : Act Store Unit :=
  modify fun session => { session with busy }

end Session

end Transclusion
