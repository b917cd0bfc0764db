import RenderRelay.Json.Basic
import RenderRelay.Text.Blank
import RenderRelay.Url.Form

/-! # Images of the backend

An `ImageRef` names an image that the backend holds.  `viewParams` are the parameters that
fetch it; `viewUrl` asks the backend for it directly, `proxyUrl` this program's own web layer,
which is told the backend and may be given a session token. -/

namespace RenderRelay

open Text

/-- An image that the backend holds. -/
structure ImageRef where
  filename : String
  subfolder : Option String
  category : Option String
deriving DecidableEq, Repr

namespace ImageRef

/-- The category of an image that has none. -/
def defaultCategory : String := "output"

/-- The parameters that fetch the image. -/
def viewParams (image : ImageRef) : Url.Form :=
  [("filename", image.filename), ("subfolder", image.subfolder.getD ""),
    ("type", (image.category.filter fun s => !s.isEmpty).getD defaultCategory)]

/-- Form fields as an object. -/
def formJson (form : Url.Form) : Json := .obj (form.map fun (name, value) => (name, .str value))

/-- A URL without slashes at its end. -/
def withoutEndSlashes (url : String) : String :=
  String.ofList (dropEndWhile (· = '/') url.toList)

/-- The URL at which the backend serves the image. -/
def viewUrl (baseUrl : String) (image : ImageRef) : String :=
  withoutEndSlashes baseUrl ++ "/view?" ++ Url.encode image.viewParams

/-- The fields of a request for the image to this program. -/
def proxyParams (baseUrl : String) (token : Option String) (image : ImageRef) : Url.Form :=
  image.viewParams ++ ("base_url", baseUrl) ::
    (match token.filter fun s => !s.isEmpty with
      | some token => [("token", token)]
      | none => [])

/-- The path at which this program serves images. -/
def proxyPath : String := "/api/image"

/-- The URL at which this program serves the image. -/
def proxyUrl (baseUrl : String) (token : Option String) (path : String) (image : ImageRef) :
    String :=
  path ++ "?" ++ Url.encode (image.proxyParams baseUrl token)

end ImageRef

end RenderRelay
