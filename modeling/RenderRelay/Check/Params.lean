import RenderRelay.Failure
import RenderRelay.Number.Read
import RenderRelay.Text.Search

/-! # Run parameters

Checks of what a person enters for a run.

* A prompt is a text of at most 10000 characters; two control characters are dropped from it.
  No prompt leaves the graph's own text alone.
* A seed is -1, which draws one, or a number below 2^64; a step count is a number from 1 to
  1000.  Both may come as integers, as numbers without a fraction or as text, and a blank
  leaves the graph's own value alone. -/

namespace RenderRelay.Check

open Text Number

/-- The greatest number of characters of a prompt. -/
def maxPromptLength : Nat := 10000

/-- The greatest seed. -/
def maxSeed : Int := 18446744073709551615

/-- The greatest step count. -/
def maxSteps : Int := 1000

/-- Why a parameter is refused. -/
inductive ParamError where
  | notText
  | tooLong
  | notInteger
  | seedRange
  | stepsRange
deriving DecidableEq, Repr

/-- The reason in words. -/
def ParamError.reason : ParamError → String
  | .notText => "must be a string"
  | .tooLong => "longer than 10000 characters"
  | .notInteger => "must be an integer"
  | .seedRange => "must be -1 or between 0 and 18446744073709551615"
  | .stepsRange => "must be between 1 and 1000"

/-- The failure of a parameter with a value. -/
def ParamError.failure (e : ParamError) (parameter : String) (value : Json) : Failure :=
  .fault (.invalidParameter parameter value (some e.reason))

/-- Control characters that are dropped from prompts: null and escape. -/
def isDropped (c : Char) : Bool := c.toNat = 0 || c.toNat = 0x1B

/-- The prompt without control characters that are dropped. -/
def cleanPrompt (text : String) : String := without isDropped text

/-- The prompt that is sent to the graph; null leaves the graph's text alone. -/
def prompt (name : String) (value : Json) : Except Failure (Option String) :=
  match value with
  | .null => .ok none
  | .str text =>
      let cleaned := cleanPrompt text
      if maxPromptLength < cleaned.length then
        .error (ParamError.tooLong.failure name (.str (take cleaned 40 ++ "...")))
      else .ok (some cleaned)
  | value => .error (ParamError.notText.failure name value)

/-- The integer that was entered; null and a blank text are none. -/
def entered (name : String) (value : Json) : Except Failure (Option Int) :=
  let refused : Except Failure (Option Int) := .error (ParamError.notInteger.failure name value)
  match value with
  | .null => .ok none
  | .int n => .ok (some n)
  | .float x => match x.integer? with
      | some n => .ok (some n)
      | none => refused
  | .str text =>
      let trimmed := trim text
      if trimmed.isEmpty then .ok none
      else match readInteger trimmed with
        | some n => .ok (some n)
        | none => refused
  | _ => refused

/-- The integer that was entered, if it is within bounds. -/
def boundedInteger (name : String) (low high : Int) (outside : ParamError) (value : Json) :
    Except Failure (Option Int) := do
  match ← entered name value with
  | none => .ok none
  | some n =>
      if n < low ∨ high < n then .error (outside.failure name (.int n)) else .ok (some n)

/-- The seed that was entered. -/
def seed (value : Json) : Except Failure (Option Int) :=
  boundedInteger "seed" (-1) maxSeed .seedRange value

/-- The step count that was entered. -/
def steps (value : Json) : Except Failure (Option Int) :=
  boundedInteger "steps" 1 maxSteps .stepsRange value

end RenderRelay.Check
