import RenderRelay.Log.Record

/-! # Timing operations

A timed operation leaves one record: that it is completed, or that it failed and how long it
took either way, to a tenth of a millisecond. -/

namespace RenderRelay.Log

/-- What a log keeps of a record. -/
structure LogEntry where
  severity : Severity
  message : String
  extra : Fields
deriving DecidableEq, Repr

/-- The name that all loggers of the program start with. -/
def rootLogger : String := "comfy_remote"

/-- The full name of a logger. -/
def loggerName (name : String) : String :=
  if name = rootLogger ∨ (rootLogger ++ ".").toList.isPrefixOf name.toList then name
  else rootLogger ++ "." ++ name

/-- The entry of an operation that took some seconds. -/
def timedEntry (operation : String) (seconds : Double) (failed : Bool) (extra : Fields) :
    LogEntry :=
  let millis := seconds * Double.ofInt 1000
  { severity := if failed then .warning else .info
    message := String.join [operation, if failed then " failed (" else " completed (",
      millis.fixedText 1, "ms)"]
    extra := Entries.merge [("operation", .str operation), ("success", .bool (!failed)),
      ("duration_ms", .float (millis.roundTo 1))] extra }

/-- Names that no extra field of a timed operation may have. -/
def timingNames : List String := ["logger", "operation"]

/-- What a log with a threshold keeps of a timed operation; an extra field may not have the
name of a field that every record has. -/
def timed (threshold operation : String) (seconds : Double) (failed : Bool) (extra : Fields) :
    Except Failure (List LogEntry) :=
  let entry := timedEntry operation seconds failed extra
  if extra.keys.any timingNames.contains then .error .wrongKind
  else if entry.severity.rank < thresholdRank threshold then .ok []
  else match extra.keys.find? recordNames.contains with
    | some name => .error (.missingField name)
    | none => .ok [entry]

end RenderRelay.Log
