import RenderRelay.Failure
import RenderRelay.Path.Name

/-! # Names of stored files

Two sides of one rule: `safeName` makes a name under which a file can be stored, and
`checkStored` decides which names a client may ask for.

* A safe name has letters, digits, dots, underscores and hyphens only, does not start or end
  with a dot or an underscore, and has an extension.
* A stored name is a bare name in both path syntaxes, and holds no sequence that might climb
  up a directory, encoded or not. -/

namespace RenderRelay.Path

open Text

/-- Characters of a safe name. -/
def isSafeChar (c : Char) : Bool :=
  ('a' ≤ c && c ≤ 'z') || ('A' ≤ c && c ≤ 'Z') || ('0' ≤ c && c ≤ '9') ||
    c = '.' || c = '_' || c = '-'

/-- Each run of characters that are not safe becomes one underscore. -/
def squeeze : (inRun : Bool) → List Char → List Char
  | _, [] => []
  | inRun, c :: cs =>
      if isSafeChar c then c :: squeeze false cs
      else if inRun then squeeze true cs
      else '_' :: squeeze true cs

/-- Dots and underscores, which a safe name neither starts nor ends with. -/
def isEdge (c : Char) : Bool := c = '.' || c = '_'

/-- The extension of a name that has none. -/
def defaultSuffix : List Char := ".png".toList

/-- The characters of a safe name, without those of class `isEdge` at its ends. -/
def trimEdges (cs : List Char) : List Char :=
  ((cs.dropWhile isEdge).reverse.dropWhile isEdge).reverse

/-- The safe form of a path's name. -/
def safeNameChars (path : List Char) : List Char :=
  let trimmed := trimEdges (squeeze false (posixNameChars path))
  let base := if trimmed.isEmpty then "output".toList else trimmed
  if (suffixOf base).isSome then base else base ++ defaultSuffix

/-- The safe form of a path's name; no path counts as an empty one. -/
def safeName (path : Option String) : String :=
  String.ofList (safeNameChars (path.getD "").toList)

/-- Sequences that might climb up a directory, in small letters. -/
def climbing : List String := ["../", "..\\", "%2e%2e", "%252e", "..%2f", "..%5c"]

/-- Does the name hold a sequence that might climb up a directory? -/
def mayClimb (name : String) : Bool :=
  let lowered := name.toList.map Char.toLower
  climbing.any fun sequence => hasInfixChars sequence.toList lowered

/-- Is the name bare in both path syntaxes? -/
def isBare (name : String) : Bool :=
  posixName name = name && windowsName name = name && name ≠ "." && name ≠ ".."

/-- Why a client may not ask for a name. -/
inductive NameError where
  | missing
  | climbing
  | notBare
deriving DecidableEq, Repr

/-- The reason in words. -/
def NameError.message : NameError → String
  | .missing => "Missing file name"
  | .climbing => "Invalid file name: possible traversal attempt"
  | .notBare => "Invalid file name"

/-- The fault of a refused name. -/
def NameError.fault (e : NameError) : Fault := .plain .security e.message

/-- A name that a client may ask for. -/
def checkStored (name : Option String) : Except NameError String :=
  match name with
  | none => .error .missing
  | some name =>
      if name.isEmpty then .error .missing
      else if mayClimb name then .error .climbing
      else if isBare name then .ok name
      else .error .notBare

end RenderRelay.Path
