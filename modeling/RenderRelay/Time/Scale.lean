import RenderRelay.Failure
import RenderRelay.Number.Read

/-! # Scales of time

Runs are timed in milliseconds by a clock.  What the program asks of such times is a
`TimeScale`: differences, comparison with a limit, and the clock after a pause.

* The scale in use is that of binary64 numbers.
* `pauses` bounds how many pauses of one length fit into a time, so that whoever waits for the
  time to pass knows when to be done. -/

namespace RenderRelay

/-- Points and lengths of time in milliseconds; pauses are given in seconds. -/
class TimeScale (τ : Type) where
  /-- The first time less the second. -/
  minus : τ → τ → τ
  /-- Is a length of time greater than a limit? -/
  exceeds : (time limit : τ) → Bool
  /-- The clock after a pause. -/
  later : (clock seconds : τ) → τ
  /-- A number of pauses after which a length of time has passed. -/
  pauses : (time seconds : τ) → Nat
  /-- The whole milliseconds of a point in time. -/
  stamp : τ → Int
  /-- The nearest whole number of milliseconds. -/
  rounded : τ → Except Failure Int
  /-- The time as a value. -/
  toJson : τ → Json
  /-- The time of a value. -/
  ofJson : Json → Except Failure τ

namespace Double

/-- A thousand. -/
def thousand : Double := ofInt 1000

/-- The nearest integer, or the failure of a number that has none. -/
def rounded : Double → Except Failure Int
  | .infinite _ => .error .outOfRange
  | .notANumber => .error .unreadable
  | x => .ok (x.round?.getD 0)

/-- The number that a value stands for: booleans count as zero and one, and a text spells
one. -/
def ofJson : Json → Except Failure Double
  | .float x => .ok x
  | .bool b => .ok (ofInt (if b then 1 else 0))
  | .int n => match ofInt n with
      | .infinite _ => .error .outOfRange
      | x => .ok x
  | .str text => match Number.readDouble text with
      | some x => .ok x
      | none => .error .unreadable
  | _ => .error .wrongKind

/-- Twice the number of pauses that fill a length of time, and some more: rounding may make a
pause shorter, but by less than half. -/
def pauses (time seconds : Double) : Nat :=
  match time, seconds * thousand with
  | .finite false m e _, .finite false n f _ =>
      let (num, den) := asQuotient m e
      let (stepNum, stepDen) := asQuotient n f
      2 * (num * stepDen / (den * stepNum)) + 4
  | _, _ => 4

instance : TimeScale Double where
  minus x y := x - y
  exceeds time limit := less limit time
  later clock seconds := clock + seconds * thousand
  pauses := pauses
  stamp clock := clock.truncate?.getD 0
  rounded := rounded
  toJson := .float
  ofJson := ofJson

end Double

end RenderRelay
