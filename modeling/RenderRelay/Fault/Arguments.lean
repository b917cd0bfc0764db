import RenderRelay.Failure

/-! # Faults from named arguments

A fault can be described by its kind and by named arguments.

* Some kinds insist on arguments: what was looked up, or a parameter and its value.  A kind
  without a message of its own insists on a message.
* A kind that fixes its code or its level takes none.
* Whatever else is given and known is taken over; a missing insisted one is a failure. -/

namespace RenderRelay

/-- Does the kind fix its code? -/
def FaultKind.fixesCode (kind : FaultKind) : Bool := kind.code ≠ kind.name

/-- Does the kind fix its level? -/
def FaultKind.fixesLevel (kind : FaultKind) : Bool := kind.level ≠ .error

namespace Fault

/-- The level of a name. -/
def levelNamed? (name : String) : Option Level := Level.all.find? fun level => level.name = name

/-- What arguments say about any fault beside its message. -/
def Extras.ofArguments (args : Fields) (cause : Option Cause) : Extras where
  userMessage := (args.get "user_message").text?
  code := (args.get "code").text?
  details := (args.get "details").fields?.getD []
  cause := cause
  suggestions := (args.get "suggestions").items.filterMap Json.text?
  level := (args.get "level").text? >>= levelNamed?
  requestId := (args.get "request_id").text?

/-- An argument that has to be given. -/
def insisted (args : Fields) (name : String) : Except Failure Json :=
  match args.get? name with
  | some value => .ok value
  | none => .error .wrongKind

/-- The message that is given, or that of the kind. -/
def messageOf (kind : FaultKind) (args : Fields) : Except Failure String :=
  match (args.get "message").text?.or kind.message? with
  | some message => .ok message
  | none => .error .wrongKind

/-- The fault of a kind and its arguments. -/
def ofArguments (kind : FaultKind) (args : Fields) (cause : Option Cause) :
    Except Failure Fault := do
  if (kind.fixesCode && args.has "code") || (kind.fixesLevel && args.has "level") then
    throw .wrongKind
  let extras := Extras.ofArguments args cause
  let text (name : String) : Option String := (args.get name).text?
  let integer (name : String) : Option Int := (args.get name).integer?
  match kind with
  | .workflowNotFound =>
      return workflowNotFound (← insisted args "workflow_id") (text "message") extras
  | .historyItemNotFound =>
      return historyItemNotFound (← insisted args "item_id") (text "message") extras
  | .invalidParameter => do
      let parameter ← insisted args "parameter"
      let value ← insisted args "value"
      return invalidParameter parameter.display value (text "reason") extras
  | .backendConnection =>
      return backendConnection (← messageOf kind args) (text "url") extras
  | .upload =>
      return upload (← messageOf kind args) (integer "status_code") (text "body") extras
  | .submit =>
      return submit (← messageOf kind args) (integer "status_code") (text "body") extras
  | .noResult =>
      return noResult (← messageOf kind args) (text "job_id")
        ((args.get "elapsed_ms").number? >>= Double.round?) extras
  | .retryExhausted =>
      return retryExhausted (← messageOf kind args) (integer "attempts") cause extras
  | kind => return plain kind (← messageOf kind args) extras

end Fault

end RenderRelay
