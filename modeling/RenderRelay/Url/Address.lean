import RenderRelay.Url.Form

/-! # Addresses

What a URL asks its host for, and the URL of an endpoint of a backend.

* `target` is the path and the fields of the query.  Single and double dots among the components
  of the path are resolved, and percent-encoded characters are read back; a fragment is not sent.
* `address` is the target of an endpoint.  The endpoint stands behind the backend's URL without
  its fragment; if that URL has a query, the endpoint becomes a part of the query. -/

namespace RenderRelay.Url

open Text

/-- Does the character end a path? -/
def endsPath (c : Char) : Bool := c = '?' || c = '#'

/-- What follows the scheme of a URL. -/
def afterScheme (url : List Char) : List Char :=
  ((splitOnceChars "://".toList url).map Prod.snd).getD url

/-- The path of a URL, empty if it has none. -/
def pathOf (url : List Char) : List Char :=
  ((afterScheme url).dropWhile fun c => c ≠ '/' && !endsPath c).takeWhile fun c => !endsPath c

/-- The query of a URL, empty if it has none. -/
def queryOf (url : List Char) : List Char :=
  ((url.takeWhile (· ≠ '#')).dropWhile (· ≠ '?')).drop 1

/-- The fields of the query of a URL. -/
def parameters (url : List Char) : Form := decode (String.ofList (queryOf url))

/-- The components of a path with dots resolved; the result so far comes last first. -/
def resolveDots : (done : List (List Char)) → List (List Char) → List (List Char)
  | done, [] => done.reverse
  | done, part :: rest =>
      if part = ['.'] then resolveDots done rest
      else if part = ['.', '.'] then
        resolveDots (if done = [[]] then done else done.drop 1) rest
      else resolveDots (part :: done) rest

/-- A path with dots resolved. -/
def normalPath (path : List Char) : List Char :=
  ['/'].intercalate (resolveDots [] (splitChar '/' path))

/-- Path and query that a URL asks for. -/
def target (url : List Char) : String × Form :=
  let path := if (pathOf url).isEmpty then ['/'] else pathOf url
  (Bytes.decodeLossy (percentDecode (normalPath path)), parameters url)

/-- The URL of an endpoint of a backend. -/
def joined (base endpoint : List Char) : List Char :=
  let before := base.takeWhile (· ≠ '#')
  let before := if before.getLast? = some '/' then before else before ++ ['/']
  before ++ endpoint.dropWhile (· = '/')

/-- Path and query of a request to an endpoint of a backend. -/
def address (base endpoint : String) : String × Form :=
  target (joined base.toList endpoint.toList)

end RenderRelay.Url
