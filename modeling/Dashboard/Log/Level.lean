namespace Dashboard.Log

/-- Severities, from what is always shown to the most talkative. -/
inductive Level where
  | error
  | warning
  | info
  | debug
  | verbose
deriving DecidableEq, Repr, Inhabited

namespace Level

/-- The place of a severity in the order, errors first. -/
def rank : Level → Nat
  | error => 0
  | warning => 1
  | info => 2
  | debug => 3
  | verbose => 4

instance : LE Level := ⟨fun first second => first.rank ≤ second.rank⟩
instance : LT Level := ⟨fun first second => first.rank < second.rank⟩
instance (first second : Level) : Decidable (first ≤ second) :=
  inferInstanceAs (Decidable (first.rank ≤ second.rank))
instance (first second : Level) : Decidable (first < second) :=
  inferInstanceAs (Decidable (first.rank < second.rank))

def label : Level → String
  | error => "ERROR"
  | warning => "WARNING"
  | info => "INFO"
  | debug => "DEBUG"
  | verbose => "VERBOSE"

end Level

/-- Severities used by libraries that log through the common facade. -/
inductive FacadeLevel where
  | error
  | warn
  | info
  | debug
  | trace
deriving DecidableEq, Repr

/-- The severity under which a library's record is shown. -/
def FacadeLevel.level : FacadeLevel → Level
  | error => .error
  | warn => .warning
  | info => .info
  | debug => .debug
  | trace => .verbose

end Dashboard.Log
