import RenderRelay.Entries
import RenderRelay.Json.Basic

/-! # Issues

Whoever sends an object whose fields are checked is told everything that is wrong with it: one
issue per field, in the order of the declared fields, then one per field that is not declared.

* `IssueKind` lists what can be wrong, each with its code and its message.
* A `Verdict` is a value or the issues that it has; two verdicts in sequence have the issues
  of both. -/

namespace RenderRelay.Check

/-- What can be wrong with a value. -/
inductive IssueKind where
  | missing
  | unexpected
  | notObject (model : String)
  | notText
  | tooShort
  | tooLong (limit : Nat)
  | notNumber
  | numberText
  | negative
  | notInteger
  | integerText
  | integerFraction
  | integerSize
  | notFinite
  | notBoolean
  | booleanText
  | notPath
  | refused (reason : String)
deriving DecidableEq, Repr

namespace IssueKind

/-- The code of an issue. -/
def code : IssueKind → String
  | .missing => "missing"
  | .unexpected => "extra_forbidden"
  | .notObject _ => "model_type"
  | .notText => "string_type"
  | .tooShort => "string_too_short"
  | .tooLong _ => "string_too_long"
  | .notNumber => "float_type"
  | .numberText => "float_parsing"
  | .negative => "greater_than_equal"
  | .notInteger => "int_type"
  | .integerText => "int_parsing"
  | .integerFraction => "int_from_float"
  | .integerSize => "int_parsing_size"
  | .notFinite => "finite_number"
  | .notBoolean => "bool_type"
  | .booleanText => "bool_parsing"
  | .notPath => "path_type"
  | .refused _ => "value_error"

/-- The message of an issue. -/
def message : IssueKind → String
  | .missing => "Field required"
  | .unexpected => "Extra inputs are not permitted"
  | .notObject model => "Input should be a valid dictionary or instance of " ++ model
  | .notText => "Input should be a valid string"
  | .tooShort => "String should have at least 1 character"
  | .tooLong limit => String.join ["String should have at most ", toString limit, " characters"]
  | .notNumber => "Input should be a valid number"
  | .numberText => "Input should be a valid number, unable to parse string as a number"
  | .negative => "Input should be greater than or equal to 0"
  | .notInteger => "Input should be a valid integer"
  | .integerText => "Input should be a valid integer, unable to parse string as an integer"
  | .integerFraction => "Input should be a valid integer, got a number with a fractional part"
  | .integerSize => "Unable to parse input string as an integer, exceeded maximum size"
  | .notFinite => "Input should be a finite number"
  | .notBoolean => "Input should be a valid boolean"
  | .booleanText => "Input should be a valid boolean, unable to interpret input"
  | .notPath => "Input is not a valid path"
  | .refused reason => "Value error, " ++ reason

end IssueKind

/-- Something wrong at a place, which is the path of keys that leads there. -/
structure Issue where
  place : List String
  kind : IssueKind
deriving DecidableEq, Repr

/-- An issue as an object. -/
def Issue.toJson (issue : Issue) : Json :=
  .obj [("type", .str issue.kind.code), ("loc", .arr (issue.place.map Json.str)),
    ("msg", .str issue.kind.message)]

/-- A value, or everything that is wrong with it. -/
inductive Verdict (α : Type) where
  | valid (value : α)
  | invalid (issues : List Issue)

namespace Verdict

variable {α β : Type}

/-- The verdict on a value made of another. -/
def map (f : α → β) : Verdict α → Verdict β
  | .valid value => .valid (f value)
  | .invalid issues => .invalid issues

/-- The verdict on a function applied to a value, with the issues of both. -/
def apply (f : Verdict (α → β)) (x : Verdict α) : Verdict β :=
  match f, x with
  | .valid f, .valid value => .valid (f value)
  | .valid _, .invalid issues => .invalid issues
  | .invalid issues, .valid _ => .invalid issues
  | .invalid issues, .invalid more => .invalid (issues ++ more)

instance : Functor Verdict := ⟨map, fun value verdict => verdict.map fun _ => value⟩
instance : Pure Verdict := ⟨.valid⟩
instance : Seq Verdict := ⟨fun f x => f.apply (x ())⟩
instance : SeqLeft Verdict := ⟨fun x y => (x.map fun value _ => value).apply (y ())⟩

/-- The verdict on a value that stands under a key. -/
def under (key : String) : Verdict α → Verdict α
  | .valid value => .valid value
  | .invalid issues =>
      .invalid (issues.map fun issue => { issue with place := key :: issue.place })

/-- The verdict on a value that has at most one issue. -/
def ofExcept : Except IssueKind α → Verdict α
  | .ok value => .valid value
  | .error kind => .invalid [⟨[], kind⟩]

end Verdict

/-! ### Fields -/

variable {α : Type}

/-- How a value is read. -/
abbrev Reader (α : Type) := Json → Except IssueKind α

/-- A field that has to be there. -/
def required (fields : Fields) (name : String) (read : Reader α) : Verdict α :=
  Verdict.under name (match fields.get? name with
    | some value => .ofExcept (read value)
    | none => .invalid [⟨[], .missing⟩])

/-- A field that may be missing. -/
def withDefault (fields : Fields) (name : String) (default : α) (read : Reader α) : Verdict α :=
  match fields.get? name with
  | some value => Verdict.under name (.ofExcept (read value))
  | none => .valid default

/-- Refuses fields other than those of some names. -/
def noOthers (fields : Fields) (names : List String) : Verdict Unit :=
  match fields.keys.filter fun name => !names.contains name with
  | [] => .valid ()
  | others => .invalid (others.map fun name => ⟨[name], .unexpected⟩)

end RenderRelay.Check
