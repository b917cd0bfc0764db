/-! # Severities

Log records have a severity, by which a threshold keeps them out.  The words of two severities
have second forms. -/

namespace RenderRelay.Log

/-- How severe a record is. -/
inductive Severity where
  | debug
  | info
  | warning
  | error
  | critical
deriving DecidableEq, Repr

namespace Severity

/-- All severities, the least one first. -/
def all : List Severity := [.debug, .info, .warning, .error, .critical]

/-- The word for a severity. -/
def name : Severity → String
  | .debug => "DEBUG"
  | .info => "INFO"
  | .warning => "WARNING"
  | .error => "ERROR"
  | .critical => "CRITICAL"

/-- The rank of a severity. -/
def rank : Severity → Nat
  | .debug => 10
  | .info => 20
  | .warning => 30
  | .error => 40
  | .critical => 50

/-- The severity of a word. -/
def ofName? (name : String) : Option Severity :=
  match name with
  | "WARN" => some .warning
  | "FATAL" => some .critical
  | name => all.find? fun severity => severity.name = name

end Severity

/-- The least rank that a threshold lets through, by its word in letters of either case.  A
word that names no severity stands for information; the word for no threshold leaves that of
the surrounding log, which is a warning. -/
def thresholdRank (word : String) : Nat :=
  let word := word.toUpper
  if word = "NOTSET" then Severity.warning.rank
  else ((Severity.ofName? word).getD .info).rank

end RenderRelay.Log
