import RenderRelay.Job.Basic

/-! # Cycles of a job

`Job.cycleRoot?` searches the references of a job in depth, from each node that no earlier
search has seen, and answers the first root whose search comes back to a node of its own path.

* A search is given the path that led to its node and the nodes seen so far; it answers the
  nodes seen after it, or nothing once a cycle is found.
* A path never repeats a node, so the number of nodes bounds its length and serves as fuel.
* References to missing nodes lead nowhere. -/

namespace RenderRelay.Job

/-- The nodes that a node refers to, as far as they are there. -/
def successors (job : Job) (id : String) : List String :=
  match job.node? id with
  | some node => (node.references.map HeldReference.nodeId).filter job.contains
  | none => []

/-- The nodes seen after a search from `id`; `none` if it found a cycle. -/
def search (next : String → List String) :
    (depth : Nat) → (path seen : List String) → (id : String) → Option (List String)
  | 0, _, seen, _ => some seen
  | depth + 1, path, seen, id =>
      (next id).foldlM (fun seen neighbor =>
        if !seen.contains neighbor then search next depth (id :: path) seen neighbor
        else if (id :: path).contains neighbor then none
        else some seen) (id :: seen)

/-- The first of `roots` from which a search finds a cycle. -/
def firstCyclic (next : String → List String) (depth : Nat) :
    (seen roots : List String) → Option String
  | _, [] => none
  | seen, root :: rest =>
      if seen.contains root then firstCyclic next depth seen rest
      else match search next depth [] seen root with
        | none => some root
        | some seen => firstCyclic next depth seen rest

/-- The root of the first search that finds a cycle. -/
def cycleRoot? (job : Job) : Option String :=
  firstCyclic job.successors job.nodes.length [] job.nodes.keys

/-- The structural problems of a job. -/
def problems (job : Job) : List Problem :=
  if job.nodes.isEmpty then [.empty]
  else (job.cycleRoot?.map Problem.cycle).toList ++ job.danglingReferences

end RenderRelay.Job
