import RenderRelay.Json.Printer
import RenderRelay.Log.Severity
import RenderRelay.Log.Template
import RenderRelay.Text.Search
import RenderRelay.Time.Calendar

/-! # Log records

A record is written as a line by a template, or as a JSON object.

* The template finds the fields of the record and the extra ones by their names.
* The object has four fields and the extra ones, but for those that start with an underscore
  or have the name of a field of the record. -/

namespace RenderRelay.Log

open Text

/-- A log record. -/
structure LogRecord where
  logger : String
  severity : String
  template : String
  values : List Json
  millis : Int
  extra : Fields
deriving DecidableEq, Repr

/-- Names that the fields of every record have. -/
def recordNames : List String :=
  ["name", "msg", "args", "levelname", "levelno", "pathname", "filename", "module", "exc_info",
    "exc_text", "stack_info", "lineno", "funcName", "created", "msecs", "relativeCreated",
    "thread", "threadName", "processName", "process", "message", "asctime", "taskName"]

namespace LogRecord

/-- The moment of a record. -/
def moment (record : LogRecord) : Moment := Moment.ofMillis record.millis

/-- The values for the template: one object with fields stands for its fields. -/
def supply (record : LogRecord) : Supply :=
  match record.values with
  | [.obj (field :: fields)] => .named (field :: fields)
  | values => .listed values

/-- The message; without values the template is the message. -/
def message (record : LogRecord) : Except Failure String :=
  if record.values.isEmpty then .ok record.template
  else fillTemplate record.template record.supply

/-! ### Dates -/

/-- The names of the days, Sunday first. -/
def dayNames : List String :=
  ["Sunday", "Monday", "Tuesday", "Wednesday", "Thursday", "Friday", "Saturday"]

/-- The names of the months. -/
def monthNames : List String :=
  ["January", "February", "March", "April", "May", "June", "July", "August", "September",
    "October", "November", "December"]

/-- The hour on a dial of twelve. -/
def dialHour (hour : Nat) : Nat := if hour % 12 = 0 then 12 else hour % 12

/-- The number of the week, whose days start at `first` (Sunday being zero). -/
def weekNumber (dayOfYear weekday first : Nat) : Nat :=
  (dayOfYear + 6 - (weekday + 7 - first) % 7) / 7

/-- A number with a blank before it if it has one digit. -/
def blankPadded (n : Nat) : String := if n < 10 then " " ++ Moment.padded 1 n else Moment.padded 1 n

/-- A part of a date by its letter. -/
def datePart (record : LogRecord) (letter : Char) : String :=
  let moment := record.moment
  let weekday := Moment.weekday record.millis
  let dayName := dayNames.getD weekday ""
  let monthName := monthNames.getD (moment.month - 1) ""
  let year := moment.year.toNat
  let padded := Moment.padded
  let day := padded 2 moment.day
  let month := padded 2 moment.month
  let shortYear := padded 2 (year % 100)
  let hourMinute := padded 2 moment.hour ++ ":" ++ padded 2 moment.minute
  match letter with
  | 'Y' => padded 1 year
  | 'C' => padded 2 (year / 100)
  | 'y' => shortYear
  | 'm' => month
  | 'd' => day
  | 'e' => blankPadded moment.day
  | 'H' => padded 2 moment.hour
  | 'k' => blankPadded moment.hour
  | 'I' => padded 2 (dialHour moment.hour)
  | 'l' => blankPadded (dialHour moment.hour)
  | 'M' => padded 2 moment.minute
  | 'S' => padded 2 moment.second
  | 'p' => if moment.hour < 12 then "AM" else "PM"
  | 'P' => if moment.hour < 12 then "am" else "pm"
  | 'a' => take dayName 3
  | 'A' => dayName
  | 'b' | 'h' => take monthName 3
  | 'B' => monthName
  | 'j' => padded 3 moment.dayOfYear
  | 'u' => padded 1 (if weekday = 0 then 7 else weekday)
  | 'w' => padded 1 weekday
  | 'U' => padded 2 (weekNumber moment.dayOfYear weekday 0)
  | 'W' => padded 2 (weekNumber moment.dayOfYear weekday 1)
  | 'F' => padded 1 year ++ "-" ++ month ++ "-" ++ day
  | 'D' | 'x' => month ++ "/" ++ day ++ "/" ++ shortYear
  | 'R' => hourMinute
  | 'T' | 'X' => moment.timeText
  | 'r' => String.join [padded 2 (dialHour moment.hour), ":", padded 2 moment.minute, ":",
      padded 2 moment.second, if moment.hour < 12 then " AM" else " PM"]
  | 'c' => String.join [take dayName 3, " ", take monthName 3, " ", blankPadded moment.day, " ",
      moment.timeText, " ", padded 1 year]
  | 's' => Json.intText (Int.fdiv record.millis 1000)
  | 'z' => "+0000"
  | 'Z' => "UTC"
  | 'n' => "\n"
  | 't' => "\t"
  | '%' => "%"
  | letter => String.ofList ['%', letter]

/-- A date written by a template with a letter for each part. -/
def dateChars (record : LogRecord) : List Char → List Char
  | '%' :: letter :: rest => (record.datePart letter).toList ++ dateChars record rest
  | c :: rest => c :: dateChars record rest
  | [] => []

/-- The time of a record: by a template, or as date, time and milliseconds. -/
def timeText (record : LogRecord) (dateFormat : Option String) : String :=
  match dateFormat.filter fun s => !s.isEmpty with
  | some template => String.ofList (record.dateChars template.toList)
  | none => String.join [record.moment.dateText, " ", record.moment.timeText, ",",
      Moment.padded 3 record.moment.milli]

/-! ### Lines -/

/-- The template of a line when none is given. -/
def defaultLine : String := "%(message)s"

/-- Can the character stand in the key of a slot that a line must have? -/
def isKeyChar (c : Char) : Bool := c.isAlphanum || c = '_' || 0x80 ≤ c.toNat

/-- The text after a number or a star; the text itself if there is none. -/
def dropNumber : List Char → List Char
  | '*' :: rest => rest
  | cs => cs.dropWhile Char.isDigit

/-- Does the text start with a slot that has a key of letters, digits and underscores? -/
def startsKeyedSlot : List Char → Bool
  | '%' :: '(' :: cs =>
      match cs.takeWhile isKeyChar, cs.dropWhile isKeyChar with
      | _ :: _, ')' :: cs =>
          let cs := dropNumber (cs.dropWhile isFlag)
          let cs := match cs with
            | '.' :: places => if dropNumber places = places then cs else dropNumber places
            | cs => cs
          match cs with
          | kind :: _ => "diouxefgcrsa%".toList.contains kind.toLower
          | [] => false
      | _, _ => false
  | _ => false

/-- Is there a slot with a key? -/
def hasKeyedSlot : List Char → Bool
  | [] => false
  | c :: cs => startsKeyedSlot (c :: cs) || hasKeyedSlot cs

/-- The fields that a line can show. -/
def lineFields (record : LogRecord) (message : String) (dateFormat : Option String) : Fields :=
  let seconds := (Double.ofInt record.millis).part 1000
  let own : Fields := [("name", .str record.logger), ("msg", .str record.template),
    ("levelname", .str record.severity),
    ("levelno", Json.ofInt? (((Severity.ofName? record.severity).map Severity.rank).map Int.ofNat)),
    ("created", .float seconds),
    ("msecs", .float (Double.ofInt record.moment.milli))]
  ((own.merge record.extra).put "message" (.str message)).put "asctime"
    (.str (record.timeText dateFormat))

/-- The record as a line. -/
def line (record : LogRecord) (template dateFormat : Option String) : Except Failure String := do
  let template := (template.filter fun s => !s.isEmpty).getD defaultLine
  if !hasKeyedSlot template.toList then throw .unreadable
  let message ← record.message
  match fillTemplate template (.named (record.lineFields message dateFormat)) with
  | .error (.missingField _) => throw .unreadable
  | .error failure => throw failure
  | .ok text => return text

/-! ### Objects -/

/-- Is an extra field shown in an object? -/
def isShown (name : String) : Bool :=
  name.toList.head? ≠ some '_' && !recordNames.contains name

/-- The record as a JSON object on one line. -/
def object (record : LogRecord) : Except Failure String := do
  let message ← record.message
  let own : Fields := [("timestamp", .str (record.moment.iso ++ "+00:00")),
    ("level", .str record.severity), ("logger", .str record.logger),
    ("message", .str message)]
  return (Json.obj (own.merge (record.extra.filter fun field => isShown field.1))).write .spaced

end LogRecord

end RenderRelay.Log
