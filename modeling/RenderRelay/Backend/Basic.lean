import RenderRelay.Fault
import RenderRelay.Bytes.Utf8
import RenderRelay.Url.Form

/-! # The backend

The render backend is reached by HTTP.  What it answers may depend on everything that it was
asked before.

* A `Request` has a path, the parameters of a query and perhaps a body.
* A `Reply` is a response, or a failure on the way there; failures are of three classes.
* `Traffic` is what has been exchanged: the requests sent and the waits between attempts. -/

namespace RenderRelay

/-- The methods in use. -/
inductive Method where
  | get
  | post
deriving DecidableEq, Repr

/-- A method's name. -/
def Method.name : Method → String
  | .get => "GET"
  | .post => "POST"

/-- A file in the body of a request. -/
structure FilePart where
  name : String
  filename : String
  contentType : String
  content : Bytes
deriving DecidableEq, Repr

/-- The body of a request. -/
inductive RequestBody where
  | none
  | json (value : Json)
  | file (part : FilePart)
deriving DecidableEq, Repr

/-- A request to the backend. -/
structure Request where
  method : Method
  path : String
  query : Url.Form
  body : RequestBody
deriving DecidableEq, Repr

/-- What the backend answers. -/
structure Response where
  status : Nat
  body : Bytes
  contentType : Option String
deriving DecidableEq, Repr

/-- Does the status say that the request succeeded? -/
def Response.isSuccess (response : Response) : Bool :=
  200 ≤ response.status && response.status ≤ 299

/-- The classes of failures on the way to the backend. -/
inductive TransportClass where
  | timeout
  | connect
  | other
deriving DecidableEq, Repr

/-- A failure on the way to the backend: its class, its kind's name and its text. -/
structure TransportFailure where
  class_ : TransportClass
  kind : String
  text : String
deriving DecidableEq, Repr

/-- What comes back for a request. -/
inductive Reply where
  | response (response : Response)
  | failure (failure : TransportFailure)
deriving DecidableEq, Repr

/-- A backend answers a request by what it was asked before, the earliest first. -/
abbrev Backend := List Request → Request → Reply

/-- What has been exchanged with the backend. -/
structure Traffic where
  sent : List Request
  waits : List Double
deriving DecidableEq, Repr

namespace Traffic

/-- No exchange yet. -/
def none : Traffic := ⟨[], []⟩

/-- Sends a request. -/
def send (traffic : Traffic) (backend : Backend) (request : Request) : Reply × Traffic :=
  (backend traffic.sent request, { traffic with sent := traffic.sent ++ [request] })

end Traffic

end RenderRelay
