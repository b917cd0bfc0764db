import RenderRelay.Number.Read
import RenderRelay.Text.Search

/-! # Switches

The words of a command line are switches and their values.

* A switch has a long name, which may be cut short as long as only one switch is meant, and
  some have a letter.
* A value stands in the same word, after an equals sign or right after the letter, or in the
  next one; letters of switches without a value can be written together.
* A word with a hyphen in front can be a value only if it is a negative number or has a blank
  in it.
* Whatever else there is on the line is a misuse. -/

namespace RenderRelay.CommandLine

open Text

/-- The switches. -/
inductive Switch where
  | help
  | host
  | port
  | dataDirectory
  | version
  | check
deriving DecidableEq, Repr

namespace Switch

/-- All switches. -/
def all : List Switch := [.help, .host, .port, .dataDirectory, .version, .check]

/-- The long name of a switch. -/
def name : Switch → String
  | .help => "--help"
  | .host => "--host"
  | .port => "--port"
  | .dataDirectory => "--data-dir"
  | .version => "--version"
  | .check => "--check"

/-- The letter of a switch. -/
def letter : Switch → Option Char
  | .help => some 'h'
  | .port => some 'p'
  | .version => some 'v'
  | .host | .dataDirectory | .check => none

/-- Does the switch have a value? -/
def takesValue : Switch → Bool
  | .host | .port | .dataDirectory => true
  | .help | .version | .check => false

/-- What the switch is for. -/
def description : Switch → String
  | .help => "Show this message and exit"
  | .host => "Bind address (default: 127.0.0.1)"
  | .port => "Port to serve on (default: 3000)"
  | .dataDirectory =>
      "Directory for workflows.json, history.json and outputs/ (default: ./data)"
  | .version => "Show version and exit"
  | .check => "Check feature availability and exit"

/-- The switch of a letter. -/
def ofLetter? (c : Char) : Option Switch := all.find? fun switch => switch.letter = some c

/-- The switches whose long names start with a text. -/
def startingWith (text : String) : List Switch :=
  all.filter fun switch => text.toList.isPrefixOf switch.name.toList

end Switch

/-! ### Words -/

/-- What a word is: a value; switches, the last of which may have a value, in the word or in
the next one; or neither. -/
inductive Word where
  | value
  | switches (flags : List Switch) (valued : Option (Switch × Option String))
  | misuse
deriving DecidableEq, Repr

/-- Is this a negative number, with digits before or after a point or both? -/
def isNegativeNumber : List Char → Bool
  | '-' :: cs =>
      let isDigit (c : Char) := (decimalValue? c).isSome
      match cs.dropWhile isDigit with
      | [] => !cs.isEmpty
      | '.' :: places => !places.isEmpty && places.all isDigit
      | _ => false
  | _ => false

/-- A word that names no switch. -/
def otherWord (word : String) : Word :=
  if isNegativeNumber word.toList || word.toList.contains ' ' then .value else .misuse

/-- The switch that a word with two hyphens names. -/
def longWord (word : String) : Word :=
  let (name, value) := match splitOnce word "=" with
    | some (name, value) => (name, some value)
    | none => (word, none)
  match Switch.startingWith name with
  | [switch] =>
      if switch.takesValue then .switches [] (some (switch, value))
      else if value.isNone then .switches [switch] none
      else .misuse
  | [] => otherWord word
  | _ => .misuse

/-- The switches that letters name. -/
def lettersWord : List Char → Word
  | [] => .switches [] none
  | letter :: rest =>
      match Switch.ofLetter? letter with
      | none => .misuse
      | some switch =>
          if switch.takesValue then
            let value := match rest with
              | [] => none
              | '=' :: value => some (String.ofList value)
              | value => some (String.ofList value)
            .switches [] (some (switch, value))
          else match lettersWord rest with
            | .switches flags valued => .switches (switch :: flags) valued
            | word => word

/-- What a word is. -/
def wordOf (word : String) : Word :=
  match word.toList with
  | '-' :: '-' :: _ :: _ => longWord word
  | '-' :: '-' :: [] => .misuse
  | '-' :: letter :: rest =>
      if (Switch.ofLetter? letter).isSome then lettersWord (letter :: rest) else otherWord word
  | _ => .value

/-- The switches on a line with their values, if it is well used. -/
def readWords : List String → Option (List (Switch × String))
  | [] => some []
  | word :: rest =>
      match wordOf word with
      | .switches flags none => (flags.map (·, "") ++ ·) <$> readWords rest
      | .switches flags (some (switch, some value)) =>
          (flags.map (·, "") ++ [(switch, value)] ++ ·) <$> readWords rest
      | .switches flags (some (switch, none)) =>
          match rest with
          | value :: rest =>
              if wordOf value = .value then
                (flags.map (·, "") ++ [(switch, value)] ++ ·) <$> readWords rest
              else none
          | [] => none
      | .value | .misuse => none

/-! ### Options -/

/-- What a line asks for. -/
structure Options where
  host : Option String := none
  port : Option Int := none
  dataDirectory : Option String := none
  version : Bool := false
  check : Bool := false
  help : Bool := false
deriving DecidableEq, Repr

/-- The options with a switch; the port must be an integer. -/
def Options.withSwitch (options : Options) (switch : Switch) (value : String) :
    Option Options :=
  match switch with
  | .help => some { options with help := true }
  | .host => some { options with host := some value }
  | .port => (Number.readInteger value).map fun port => { options with port := some port }
  | .dataDirectory => some { options with dataDirectory := some value }
  | .version => some { options with version := true }
  | .check => some { options with check := true }

/-- The options of a line; of switches given twice the last one counts. -/
def Options.ofWords (words : List String) : Option Options := do
  let switches ← readWords words
  switches.foldlM (fun options (switch, value) => options.withSwitch switch value) {}

end RenderRelay.CommandLine
