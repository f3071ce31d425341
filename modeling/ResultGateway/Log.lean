-- Log records. A record has a level, the part of the program it comes
-- from, a message and fields. A log is the list of the records in order.

namespace ResultGateway.Log

/-! ## Levels -/

inductive Level where
  | error
  | warn
  | info
  | debug
  | trace
deriving DecidableEq, Repr

def Level.name : Level → String
  | error => "ERROR"
  | warn => "WARN"
  | info => "INFO"
  | debug => "DEBUG"
  | trace => "TRACE"

/-- The rank of a level: the graver the lower. -/
def Level.rank : Level → Nat
  | error => 1
  | warn => 2
  | info => 3
  | debug => 4
  | trace => 5

/-! ## Records -/

/-- The part of the program that a record comes from. -/
inductive Origin where
  | client
  | command
deriving DecidableEq, Repr

structure Record where
  level : Level
  origin : Origin
  message : String
  /-- The names of the fields and the texts of their values. -/
  fields : List (String × String) := []
deriving DecidableEq, Repr

def Record.line (r : Record) : String :=
  r.level.name ++ " " ++ r.message
    ++ String.join (r.fields.map fun field => " " ++ field.1 ++ "=" ++ field.2)

/-- The records at a level or a graver one. -/
def upTo (level : Level) (records : List Record) : List Record :=
  records.filter fun r => r.level.rank ≤ level.rank

end ResultGateway.Log
