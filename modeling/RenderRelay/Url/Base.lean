import RenderRelay.Failure
import RenderRelay.Text.Blank
import RenderRelay.Text.Search

/-! # Backend URLs

`normalizeBase` turns what a person enters as the address of a backend into a URL: it drops
the blanks around it, puts `http://` before it unless a scheme is there, and drops the slashes
at its end.  Two inputs are refused: one without any text and one without a host. -/

namespace RenderRelay.Url

open Text

/-- Why a text is no backend URL. -/
inductive BaseError where
  | missing
  | noHost
deriving DecidableEq, Repr

/-- The reason in words. -/
def BaseError.reason : BaseError → String
  | .missing => "backend URL is required"
  | .noHost => "backend URL has no host"

/-- The fault of a refused text. -/
def BaseError.fault (raw : Json) (e : BaseError) : Fault :=
  .invalidParameter "base_url" raw (some e.reason)

/-- ASCII letters. -/
def isLetter (c : Char) : Bool := ('a' ≤ c && c ≤ 'z') || ('A' ≤ c && c ≤ 'Z')

/-- Characters of a scheme after its first one. -/
def isSchemeChar (c : Char) : Bool := isLetter c || c.isDigit || c = '+' || c = '.' || c = '-'

/-- Does the text start with a scheme and `://`? -/
def hasScheme : List Char → Bool
  | [] => false
  | c :: cs => isLetter c && "://".toList.isPrefixOf (cs.dropWhile isSchemeChar)

/-- The text with a scheme. -/
def withScheme (cs : List Char) : List Char :=
  if hasScheme cs then cs else "http://".toList ++ cs

/-- The URL without slashes at its end; a URL of scheme and slashes alone has no host. -/
def dropEndSlashes (cs : List Char) : Except BaseError (List Char) :=
  match splitOnceChars "://".toList cs with
  | some (scheme, rest) =>
      let rest := dropEndWhile (· = '/') rest
      if rest.isEmpty then .error .noHost else .ok (scheme ++ "://".toList ++ rest)
  | none => .ok cs

/-- The backend URL of what was entered. -/
def normalizeBase (raw : Option String) : Except BaseError String :=
  let cs := trimBy isBlank (raw.getD "").toList
  if cs.isEmpty then .error .missing else (dropEndSlashes (withScheme cs)).map String.ofList

/-- The backend URL of what was entered, or a fault. -/
def checkBase (raw : Option String) : Except Failure String :=
  (normalizeBase raw).mapError fun e => .fault (e.fault (Json.ofText? raw))

end RenderRelay.Url
