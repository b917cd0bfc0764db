import RenderRelay.Text.Search

/-! # Names of files

The name of a path is its last component, in the two syntaxes that a stored file may be asked
for in.  Empty components and single dots do not count.

* `posixName`: components stand between slashes.
* `windowsName`: slashes and backslashes separate components, and a drive (a letter and a
  colon, or a share of a server) comes first and is no component.
* `suffixOf` is the extension of a name with its dot: a dot at either end makes none. -/

namespace RenderRelay.Path

open Text

/-- The last component that is neither empty nor a single dot. -/
def lastComponent (components : List (List Char)) : List Char :=
  ((components.filter fun part => !part.isEmpty && part ≠ ['.']).getLast?).getD []

/-- The name of a path whose components stand between slashes. -/
def posixNameChars (path : List Char) : List Char := lastComponent (splitChar '/' path)

/-- The name of a path whose components stand between slashes. -/
def posixName (path : String) : String := String.ofList (posixNameChars path.toList)

/-- The path with backslashes only. -/
def withBackslashes (path : List Char) : List Char := path.map fun c => if c = '/' then '\\' else c

/-- What follows the server and the share of a path that starts with two backslashes. -/
def dropShare (path : List Char) : List Char :=
  match path.dropWhile (· ≠ '\\') with
  | '\\' :: share => share.dropWhile (· ≠ '\\')
  | _ => []

/-- The path without its drive or share. -/
def dropDrive : List Char → List Char
  | '\\' :: '\\' :: c :: rest =>
      if c ≠ '\\' then dropShare (c :: rest) else '\\' :: '\\' :: c :: rest
  | c :: ':' :: rest => if c.isAlpha then rest else c :: ':' :: rest
  | path => path

/-- The name of a path with drives, in which both slashes separate components. -/
def windowsNameChars (path : List Char) : List Char :=
  lastComponent (splitChar '\\' (dropDrive (withBackslashes path)))

/-- The name of a path with drives, in which both slashes separate components. -/
def windowsName (path : String) : String := String.ofList (windowsNameChars path.toList)

/-- The extension of a name, with its dot. -/
def suffixOf (name : List Char) : Option (List Char) :=
  let after := (name.reverse.takeWhile (· ≠ '.')).reverse
  let stem := name.take (name.length - after.length - 1)
  if stem.isEmpty || after.isEmpty || !name.contains '.' then none else some ('.' :: after)

end RenderRelay.Path
