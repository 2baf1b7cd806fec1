import RailWatch.Text.Quoted
/-!
# RailWatch.Log

What a run writes down: records with a level, a target, a message and fields.

A record is one line. The value of a field stands as it is or in quotation marks; which of the two
is up to whoever makes the record.
-/

namespace RailWatch

/-- How much a record matters, most first. -/
inductive Level
  | error
  | warn
  | info
  | debug
  | trace
deriving DecidableEq

namespace Level

/-- The levels by their rank, from 1 on. -/
def rank : Level → Nat
  | error => 1
  | warn => 2
  | info => 3
  | debug => 4
  | trace => 5

/-- The name of a level. -/
def label : Level → String
  | error => "ERROR"
  | warn => "WARN"
  | info => "INFO"
  | debug => "DEBUG"
  | trace => "TRACE"

end Level

/-- A field of a record, with its value as it is written. -/
structure LogField where
  name : String
  value : String
deriving DecidableEq

namespace LogField

/-- A field whose value stands as it is. -/
def plain (name value : String) : LogField := ⟨name, value⟩

/-- A field whose value stands in quotation marks. -/
def quoted (name value : String) : LogField := ⟨name, Text.quoted value⟩

end LogField

/-- A record. -/
structure LogRecord where
  level : Level
  /-- The part of the program that the record is from. -/
  target : String
  message : String
  fields : List LogField
deriving DecidableEq

/-- The line of a record. -/
def LogRecord.line (r : LogRecord) : String :=
  r.fields.foldl (fun line f => line ++ " " ++ f.name ++ "=" ++ f.value)
    (r.level.label ++ " " ++ r.target ++ ": " ++ r.message)

end RailWatch
