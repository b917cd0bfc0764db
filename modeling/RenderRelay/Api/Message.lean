import RenderRelay.Bytes.Utf8
import RenderRelay.Check.Issue
import RenderRelay.Fault
import RenderRelay.Text.Lowercase
import RenderRelay.Text.Search
import RenderRelay.Url.Form

/-! # Messages of the web layer

What the web layer receives and what it answers.

* A request has the fields of its query, and those of a form or a JSON value; a form may carry
  files.
* A field of a form that is empty counts as missing; an empty parameter of a query does not. -/

namespace RenderRelay.Api

/-- A file of a form. -/
structure Upload where
  filename : String
  content : Bytes
  contentType : Option String
deriving DecidableEq, Repr

/-- A request. -/
structure ApiRequest where
  method : String
  path : String
  query : Url.Form
  form : Url.Form
  files : Entries Upload
  body : Json
  headers : Entries String
  cookies : Entries String
deriving DecidableEq, Repr

/-- The last value of a field. -/
def lastValue (form : Url.Form) (name : String) : Option String :=
  ((form.filter fun field => field.1 = name).getLast?).map Prod.snd

namespace ApiRequest

/-- A parameter of the query. -/
def param (request : ApiRequest) (name : String) : Option String := lastValue request.query name

/-- A field of the form. -/
def field (request : ApiRequest) (name : String) : Option String :=
  (lastValue request.form name).filter fun value => !value.isEmpty

/-- A file of the form. -/
def file (request : ApiRequest) (name : String) : Option Upload := request.files.get? name

end ApiRequest

/-- What a response carries. -/
inductive Content where
  | json (value : Json)
  | file (mediaType : String) (bytes : Bytes)
  | empty
deriving DecidableEq, Repr

/-- A response; names of headers are in small letters. -/
structure ApiResponse where
  status : Nat
  content : Content
  headers : Entries String
deriving DecidableEq, Repr

/-- A media type with the encoding of texts. -/
def withCharset (mediaType : String) : String :=
  if "text/".toList.isPrefixOf mediaType.toList
      && !Text.hasInfix (Text.lower mediaType) "charset=" then
    mediaType ++ "; charset=utf-8"
  else mediaType

/-- The media type of what is carried. -/
def Content.mediaType? : Content → Option String
  | .json _ => some "application/json"
  | .file mediaType _ => some (withCharset mediaType)
  | .empty => none

namespace ApiResponse

/-- A JSON response.  What it carries is taken to have no number that is infinite or none at all:
no response can carry these. -/
def json (status : Nat) (value : Json) : ApiResponse := ⟨status, .json value, []⟩

/-- A JSON object with status 200. -/
def ok (fields : Fields) : ApiResponse := json 200 (.obj fields)

/-- The response to a fault. -/
def ofFault (production : Bool) (fault : Fault) : ApiResponse :=
  json fault.kind.httpStatus (.obj (fault.toFields (!production)))

/-- The response with one more header. -/
def withHeader (response : ApiResponse) (name value : String) : ApiResponse :=
  { response with headers := response.headers ++ [(name, value)] }

/-- The media type, then the other headers. -/
def allHeaders (response : ApiResponse) : Entries String :=
  (match response.content.mediaType? with
    | some mediaType => [("content-type", mediaType)]
    | none => []) ++ response.headers

end ApiResponse

/-- Something wrong with a parameter: where it stands, what was given and what is wrong. -/
structure ParamIssue where
  place : List String
  given : Json
  kind : Check.IssueKind
deriving DecidableEq, Repr

/-- The response to parameters that cannot be read. -/
def ApiResponse.unprocessable (issue : ParamIssue) : ApiResponse :=
  json 422 (.obj [("detail", .arr [.obj [("type", .str issue.kind.code),
    ("loc", .arr (issue.place.map Json.str)), ("msg", .str issue.kind.message),
    ("input", issue.given)]])])

end RenderRelay.Api
