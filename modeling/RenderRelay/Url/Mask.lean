/-! # Masked URLs

`maskCredentials` hides the passwords of all URLs in a text: of `://user:password@` the
password becomes four stars.  A user name is not empty and holds neither colon nor slash; a
password reaches to the next at sign. -/

namespace RenderRelay.Url

/-- What a password is shown as. -/
def passwordMask : List Char := "****".toList

/-- Characters of a user name. -/
def isUserChar (c : Char) : Bool := c ≠ ':' && c ≠ '/'

/-- If user and password start the text: all up to the password's colon, and what follows the
password. -/
def splitCredentials (cs : List Char) : Option (List Char × List Char) :=
  let user := cs.takeWhile isUserChar
  match cs.dropWhile isUserChar with
  | ':' :: secret =>
      let password := secret.takeWhile (· ≠ '@')
      match secret.dropWhile (· ≠ '@') with
      | '@' :: rest =>
          if user.isEmpty || password.isEmpty then none else some (user ++ [':'], '@' :: rest)
      | _ => none
  | _ => none

/-- A text with its passwords masked. -/
def maskChars : (fuel : Nat) → List Char → List Char
  | 0, cs => cs
  | fuel + 1, ':' :: '/' :: '/' :: cs =>
      match splitCredentials cs with
      | some (user, rest) => "://".toList ++ user ++ passwordMask ++ maskChars fuel rest
      | none => ':' :: maskChars fuel ('/' :: '/' :: cs)
  | fuel + 1, c :: cs => c :: maskChars fuel cs
  | _ + 1, [] => []

/-- A text with its passwords masked. -/
def maskCredentials (s : String) : String := String.ofList (maskChars s.length s.toList)

end RenderRelay.Url
