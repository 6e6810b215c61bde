/-!
# Log events
-/

namespace StepUp.Log

/-- How grave an event is, the gravest first. -/
inductive Level where
  | error
  | warn
  | info
  | debug
  | trace
deriving DecidableEq

namespace Level

def name : Level → String
  | error => "ERROR"
  | warn => "WARN"
  | info => "INFO"
  | debug => "DEBUG"
  | trace => "TRACE"

/-- A number that grows with the detail. -/
def detail : Level → Nat
  | error => 1
  | warn => 2
  | info => 3
  | debug => 4
  | trace => 5

end Level

/-- What an event tells besides its message. Quoted text is put between quotes on a plain line. -/
inductive Detail where
  | text (s : String)
  | quoted (s : String)
  | flag (b : Bool)
  | count (n : UInt16)
deriving DecidableEq

structure Event where
  level : Level
  target : String
  message : String
  details : List (String × Detail)
deriving DecidableEq

end StepUp.Log
