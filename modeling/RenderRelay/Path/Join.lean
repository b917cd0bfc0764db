import RenderRelay.Text.Search

/-! # Paths

A path in its plain form has no empty components and no single dots; two slashes at its start
are kept apart from one.  `join` puts a path below another, unless it starts at the root. -/

namespace RenderRelay.Path

open Text

/-- The root that a path starts at: none, one slash, or two. -/
def rootOf (path : List Char) : List Char :=
  match (path.takeWhile (· = '/')).length with
  | 0 => []
  | 2 => ['/', '/']
  | _ => ['/']

/-- The components of a path that are neither empty nor a single dot. -/
def componentsOf (path : List Char) : List (List Char) :=
  (splitChar '/' path).filter fun part => !part.isEmpty && part ≠ ['.']

/-- The path of a root and components. -/
def ofComponents (root : List Char) (components : List (List Char)) : String :=
  let cs := root ++ ['/'].intercalate components
  if cs.isEmpty then "." else String.ofList cs

/-- The plain form of a path. -/
def plain (path : String) : String :=
  ofComponents (rootOf path.toList) (componentsOf path.toList)

/-- A path below another. -/
def join (parent child : String) : String :=
  if child.toList.head? = some '/' then plain child
  else ofComponents (rootOf parent.toList)
    (componentsOf parent.toList ++ componentsOf child.toList)

end RenderRelay.Path
