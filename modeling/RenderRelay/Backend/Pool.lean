import RenderRelay.Image.Basic

/-! # Shared connections

Connections to the backend that is used by default are shared: one per URL, made when it is
first asked for.  Any other backend gets connections of its own. -/

namespace RenderRelay

/-- The URLs that have shared connections, in the order in which they were made. -/
structure Pool where
  urls : List String
deriving DecidableEq, Repr

namespace Pool

/-- No connections. -/
def empty : Pool := ⟨[]⟩

/-- The URL under which connections are shared. -/
def key (default : String) (url : Option String) : String :=
  ImageRef.withoutEndSlashes ((url.filter fun s => !s.isEmpty).getD default)

/-- The place of the connections of a URL, which are made if there are none. -/
def acquire (pool : Pool) (key : String) : Nat × Pool :=
  match pool.urls.idxOf? key with
  | some place => (place, pool)
  | none => (pool.urls.length, ⟨pool.urls ++ [key]⟩)

/-- Closes all connections. -/
def close (_ : Pool) : Pool := empty

end Pool

/-- How a client is connected: by shared connections or by its own, and to which URL. -/
structure Connection where
  shared : Bool
  clientUrl : String
  url : String
deriving DecidableEq, Repr

/-- The connection of a client to a backend, and the pool after it. -/
def Pool.connect (pool : Pool) (defaultBackend baseUrl : String) : Connection × Pool :=
  let url := ImageRef.withoutEndSlashes baseUrl
  if baseUrl = defaultBackend then
    let (_, pool) := pool.acquire (Pool.key defaultBackend (some baseUrl))
    (⟨true, url, Pool.key defaultBackend (some baseUrl)⟩, pool)
  else (⟨false, url, url⟩, pool)

end RenderRelay
