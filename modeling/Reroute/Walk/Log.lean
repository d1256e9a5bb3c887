/-!
# Log records

What the program reports about its own work: a level, the part that reports, a message and named values.  A computation
with a log reports records and then succeeds or fails; what it reported before a failure stays.
-/

namespace Reroute

/-! ### Records -/

/-- How important a record is. -/
inductive Level where
  | error
  | warn
  | info
  | debug
  | trace
deriving DecidableEq, Repr

namespace Level

/-- The name of a level in capital letters. -/
def name : Level → String
  | error => "ERROR"
  | warn => "WARN"
  | info => "INFO"
  | debug => "DEBUG"
  | trace => "TRACE"

/-- How much a level lets through: a record passes a filter whose level has at least its own detail. -/
def detail : Level → Nat
  | error => 1
  | warn => 2
  | info => 3
  | debug => 4
  | trace => 5

end Level

/-- A named value of a record. -/
inductive LogValue where
  | text (value : String)
  | bool (value : Bool)
  | number (value : Nat)
deriving DecidableEq, Repr

/-- A record. -/
structure LogRecord where
  level : Level
  source : String
  message : String
  values : List (String × LogValue)
deriving DecidableEq, Repr

/-! ### Results with a log -/

/-- A result and the records reported on the way to it. -/
structure Logged (ε α : Type) where
  log : List LogRecord
  result : Except ε α

namespace Logged

/-- A result without records. -/
def ofExcept {ε α : Type} (result : Except ε α) : Logged ε α := ⟨[], result⟩

/-- A record. -/
def report {ε : Type} (record : LogRecord) : Logged ε Unit := ⟨[record], .ok ()⟩

/-- A computation followed by one that uses its result. -/
def andThen {ε α β : Type} (first : Logged ε α) (next : α → Logged ε β) : Logged ε β :=
  match first.result with
  | .ok a => ⟨first.log ++ (next a).log, (next a).result⟩
  | .error e => ⟨first.log, .error e⟩

instance {ε : Type} : Monad (Logged ε) where
  pure a := ofExcept (.ok a)
  bind := andThen

end Logged

end Reroute
