import Mathlib.Data.Finset.Card
import Mathlib.Logic.Relation
import RenderRelay.Job.Compile
import RenderRelay.Proofs.Entries

/-! # The search for cycles

A node refers to another if one of its inputs holds a reference to it and it is there
(`Job.Refers`).  The search visits the nodes of a job in depth, and the neighbours of each in any
order (`Job.VisitOrder`).

* `Job.Explores` is the search as a relation, with no bound on its depth.  `explores_search` says
  that `Job.search` computes it, since every node on the way is a new one.
* `Explores.leads`: if a cycle is found, one of the nodes to visit leads to a cycle.  What carries
  it is that each node of the path leads to all that is to be visited.
* `Explores.finished`: if none is found, none of them does.  What carries it is that the nodes that
  are seen and not on the path lead to none.
* `VisitOrder.cycleRoot?_eq`: so the root of the search that finds a cycle is the first node of the
  job that leads to one.  `Job.reports_cycle_iff` and `Job.names_first_leading` say what this means
  for the problems of a job. -/

namespace RenderRelay.Job

open Relation (ReflTransGen TransGen)

/-- An input of the node `id` holds a reference to the node `other`, which is there. -/
def Refers (job : Job) (id other : String) : Prop :=
  (∃ node, job.node? id = some node ∧ ∃ held ∈ node.references, held.nodeId = other) ∧
    job.contains other = true

/-- The node lies on a cycle of references. -/
def OnCycle (job : Job) (id : String) : Prop := TransGen job.Refers id id

/-- References lead from the node to one that lies on a cycle. -/
def LeadsToCycle (job : Job) (id : String) : Prop :=
  ∃ other, ReflTransGen job.Refers id other ∧ job.OnCycle other

/-- An order in which the neighbours of each node are visited. -/
structure VisitOrder (job : Job) where
  next : String → List String
  mem_next : ∀ id other, other ∈ next id ↔ job.Refers id other

/-- The root of the first search that finds a cycle, if neighbours are visited in this order. -/
def VisitOrder.cycleRoot? {job : Job} (order : job.VisitOrder) : Option String :=
  firstCyclic order.next job.nodes.length [] job.nodes.keys

/-- The node without the references to nodes of other ids than these. -/
def keepReferences (there : String → Bool) (node : JobNode) : JobNode :=
  ⟨node.kind, node.inputs.filter fun input =>
    (JobNode.held? input).all fun held => there held.nodeId⟩

/-- The job without the references to nodes that are not there. -/
def closed (job : Job) : Job :=
  ⟨job.nodes.map fun entry => (entry.1, keepReferences job.contains entry.2)⟩

/-- The nodes `todo` are visited one after another, beside those seen so far and below a path of
nodes whose visits are not over.  The outcome is what is seen at the end, or nothing once a cycle is
found. -/
inductive Explores (next : String → List String) :
    (path seen todo : List String) → Option (List String) → Prop where
  | done (path seen : List String) : Explores next path seen [] (some seen)
  | back {path seen todo : List String} {id : String} (hseen : id ∈ seen) (hpath : id ∈ path) :
      Explores next path seen (id :: todo) none
  | skip {path seen todo : List String} {id : String} {out : Option (List String)}
      (hseen : id ∈ seen) (hpath : id ∉ path) (hrest : Explores next path seen todo out) :
      Explores next path seen (id :: todo) out
  | found {path seen todo : List String} {id : String} (hnew : id ∉ seen)
      (hbelow : Explores next (id :: path) (id :: seen) (next id) none) :
      Explores next path seen (id :: todo) none
  | enter {path seen after todo : List String} {id : String} {out : Option (List String)}
      (hnew : id ∉ seen) (hbelow : Explores next (id :: path) (id :: seen) (next id) (some after))
      (hrest : Explores next path after todo out) : Explores next path seen (id :: todo) out

variable {job : Job} {id other : String}

/-! ### References -/

theorem mem_successors_iff : other ∈ job.successors id ↔ job.Refers id other := by
  unfold successors Refers
  cases job.node? id with
  | none => simp
  | some node => simp [List.mem_filter, List.mem_map]

/-- The neighbours in the order in which the references are held. -/
def heldOrder (job : Job) : job.VisitOrder := ⟨job.successors, fun _ _ => mem_successors_iff⟩

theorem mem_keys_of_refers (h : job.Refers id other) :
    id ∈ job.nodes.keys ∧ other ∈ job.nodes.keys := by
  obtain ⟨⟨node, hnode, -⟩, hother⟩ := h
  exact ⟨Entries.mem_keys_of_mem (Entries.mem_of_lookup hnode), Entries.has_iff_mem_keys.mp hother⟩

theorem OnCycle.leadsToCycle (h : job.OnCycle id) : job.LeadsToCycle id := ⟨id, .refl, h⟩

/-- A node leads to a cycle if it refers to one that does. -/
theorem leadsToCycle_iff :
    job.LeadsToCycle id ↔ ∃ other, job.Refers id other ∧ job.LeadsToCycle other := by
  constructor
  · rintro ⟨cyclic, hpath, hcycle⟩
    obtain rfl | ⟨other, hrefers, hrest⟩ := hpath.cases_head
    · obtain ⟨other, hrefers, hrest⟩ := TransGen.head'_iff.mp hcycle
      exact ⟨other, hrefers, id, hrest, hcycle⟩
    · exact ⟨other, hrefers, cyclic, hrest, hcycle⟩
  · rintro ⟨other, hrefers, cyclic, hpath, hcycle⟩
    exact ⟨cyclic, hpath.head hrefers, hcycle⟩

/-- If every node that refers to a node on a cycle lies on one, so does every node that leads to
one. -/
theorem LeadsToCycle.onCycle (h : job.LeadsToCycle id)
    (hback : ∀ id other, job.Refers id other → job.OnCycle other → job.OnCycle id) :
    job.OnCycle id := by
  obtain ⟨cyclic, hpath, hcycle⟩ := h
  induction hpath using ReflTransGen.head_induction_on with
  | refl => exact hcycle
  | head hrefers _ ih => exact hback _ _ hrefers ih

theorem exists_onCycle_iff :
    (∃ id, job.OnCycle id) ↔ ∃ id ∈ job.nodes.keys, job.LeadsToCycle id := by
  constructor
  · rintro ⟨id, hcycle⟩
    obtain ⟨other, hrefers, -⟩ := TransGen.head'_iff.mp hcycle
    exact ⟨id, (mem_keys_of_refers hrefers).1, hcycle.leadsToCycle⟩
  · rintro ⟨-, -, id, -, hcycle⟩
    exact ⟨id, hcycle⟩

/-! ### What a search finds -/

namespace Explores

variable {next : String → List String} {path seen after todo : List String}
  {out out' : Option (List String)}

/-- A search has one outcome. -/
theorem unique (h : Explores next path seen todo out) (h' : Explores next path seen todo out') :
    out = out' := by
  induction h generalizing out' with
  | done => cases h'; rfl
  | back hseen hpath =>
      cases h' with
      | back => rfl
      | skip _ hpath' => exact absurd hpath hpath'
      | found => rfl
      | enter hnew => exact absurd hseen hnew
  | skip hseen hpath _ ih =>
      cases h' with
      | back _ hpath' => exact absurd hpath' hpath
      | skip _ _ hrest => exact ih hrest
      | found hnew => exact absurd hseen hnew
      | enter hnew => exact absurd hseen hnew
  | found hnew _ ih =>
      cases h' with
      | back hseen => exact absurd hseen hnew
      | skip hseen => exact absurd hseen hnew
      | found => rfl
      | enter _ hbelow => cases ih hbelow
  | enter hnew _ _ ihbelow ihrest =>
      cases h' with
      | back hseen => exact absurd hseen hnew
      | skip hseen => exact absurd hseen hnew
      | found _ hbelow => cases ihbelow hbelow
      | enter _ hbelow hrest =>
          cases ihbelow hbelow
          exact ihrest hrest

/-- What was seen stays seen. -/
theorem subset (h : Explores next path seen todo out) (hout : out = some after) :
    seen ⊆ after := by
  induction h generalizing after with
  | done =>
      cases hout
      exact List.Subset.refl _
  | back => cases hout
  | skip _ _ _ ih => exact ih hout
  | found => cases hout
  | @enter _ _ _ _ id _ _ _ _ ihbelow ihrest =>
      exact fun kept hkept => ihrest hout (ihbelow rfl (List.mem_cons_of_mem id hkept))

/-- A search that finds a cycle was given a node that leads to one. -/
theorem leads {order : job.VisitOrder} (h : Explores order.next path seen todo out)
    (hout : out = none) (hpath : ∀ id ∈ path, ∀ other ∈ todo, TransGen job.Refers id other) :
    ∃ id ∈ todo, job.LeadsToCycle id := by
  induction h with
  | done => cases hout
  | back _ hmem =>
      -- the node is on the path, so it leads to itself
      have hcycle : job.OnCycle _ := hpath _ hmem _ List.mem_cons_self
      exact ⟨_, List.mem_cons_self, hcycle.leadsToCycle⟩
  | skip _ _ _ ih =>
      obtain ⟨id, hid, hleads⟩ := ih hout fun id hid other hother =>
        hpath id hid other (List.mem_cons_of_mem _ hother)
      exact ⟨id, List.mem_cons_of_mem _ hid, hleads⟩
  | @found path seen todo id _ _ ih =>
      have hbelow : ∀ first ∈ id :: path, ∀ other ∈ order.next id,
          TransGen job.Refers first other := by
        intro first hfirst other hother
        have hrefers := (order.mem_next id other).mp hother
        obtain rfl | hfirst := List.mem_cons.mp hfirst
        · exact .single hrefers
        · exact (hpath first hfirst id List.mem_cons_self).tail hrefers
      obtain ⟨other, hother, hleads⟩ := ih rfl hbelow
      have hrefers := (order.mem_next id other).mp hother
      exact ⟨id, List.mem_cons_self, leadsToCycle_iff.mpr ⟨other, hrefers, hleads⟩⟩
  | enter _ _ _ _ ih =>
      obtain ⟨id, hid, hleads⟩ := ih hout fun id hid other hother =>
        hpath id hid other (List.mem_cons_of_mem _ hother)
      exact ⟨id, List.mem_cons_of_mem _ hid, hleads⟩

/-- After a search that finds no cycle, the nodes that are seen and not on the path lead to none,
and neither do those that were to be visited. -/
theorem finished {order : job.VisitOrder} (h : Explores order.next path seen todo out)
    (hout : out = some after) (hsub : path ⊆ seen)
    (hseen : ∀ id ∈ seen, id ∉ path → ¬ job.LeadsToCycle id) :
    (∀ id ∈ after, id ∉ path → ¬ job.LeadsToCycle id) ∧ ∀ id ∈ todo, ¬ job.LeadsToCycle id := by
  induction h generalizing after with
  | done =>
      cases hout
      exact ⟨hseen, fun _ hid => absurd hid List.not_mem_nil⟩
  | back => cases hout
  | skip hmem hpath _ ih =>
      obtain ⟨hafter, htodo⟩ := ih hout hsub hseen
      exact ⟨hafter, List.forall_mem_cons.mpr ⟨hseen _ hmem hpath, htodo⟩⟩
  | found => cases hout
  | @enter path seen between todo id _ hnew hbelow _ ihbelow ihrest =>
      have hopen : ∀ other ∈ id :: seen, other ∉ id :: path → ¬ job.LeadsToCycle other := by
        intro other hother hnot
        obtain ⟨hne, hnot⟩ := not_or.mp (mt List.mem_cons.mpr hnot)
        exact hseen other ((List.mem_cons.mp hother).resolve_left hne) hnot
      obtain ⟨hbetween, hnext⟩ := ihbelow rfl (List.cons_subset_cons id hsub) hopen
      have hid : ¬ job.LeadsToCycle id := by
        rw [leadsToCycle_iff]
        rintro ⟨other, hrefers, hleads⟩
        exact hnext other ((order.mem_next id other).mpr hrefers) hleads
      have hclosed : ∀ other ∈ between, other ∉ path → ¬ job.LeadsToCycle other := by
        intro other hother hnot
        by_cases heq : other = id
        · exact heq ▸ hid
        · exact hbetween other hother fun hmem => (List.mem_cons.mp hmem).elim heq hnot
      have hgrown : path ⊆ between := fun kept hkept =>
        hbelow.subset rfl (List.mem_cons_of_mem id (hsub hkept))
      obtain ⟨hafter, htodo⟩ := ihrest hout hgrown hclosed
      exact ⟨hafter, List.forall_mem_cons.mpr ⟨hid, htodo⟩⟩

/-- From the start, a search finds a cycle exactly if a node that is to be visited leads to one. -/
theorem eq_none_iff {order : job.VisitOrder} (h : Explores order.next [] [] todo out) :
    out = none ↔ ∃ id ∈ todo, job.LeadsToCycle id := by
  constructor
  · exact fun hout => h.leads hout fun _ hid => absurd hid List.not_mem_nil
  · rintro ⟨id, hid, hleads⟩
    cases hout : out with
    | none => rfl
    | some after =>
        have hclear := h.finished hout (List.Subset.refl _) fun _ hid => absurd hid List.not_mem_nil
        exact absurd hleads (hclear.2 id hid)

end Explores

/-! ### The search ends -/

section Depth

variable {next : String → List String} {nodes path seen after todo : List String} {depth : Nat}

/-- The visit of one neighbour. -/
def visit (next : String → List String) (depth : Nat) (path seen : List String)
    (neighbor : String) : Option (List String) :=
  if !seen.contains neighbor then search next depth path seen neighbor
  else if path.contains neighbor then none
  else some seen

theorem search_succ (next : String → List String) (depth : Nat) (path seen : List String)
    (id : String) : search next (depth + 1) path seen id =
      (next id).foldlM (visit next depth (id :: path)) (id :: seen) := rfl

/-- The nodes that are not seen yet. -/
def unseen (nodes seen : List String) : Finset String := nodes.toFinset \ seen.toFinset

theorem card_unseen_anti (h : seen ⊆ after) :
    (unseen nodes after).card ≤ (unseen nodes seen).card := by
  refine Finset.card_le_card fun id hid => ?_
  unfold unseen at hid ⊢
  simp only [Finset.mem_sdiff, List.mem_toFinset] at hid ⊢
  exact ⟨hid.1, fun hmem => hid.2 (h hmem)⟩

/-- Seeing a new node leaves fewer. -/
theorem card_unseen_cons (hid : id ∈ nodes) (hnew : id ∉ seen) :
    (unseen nodes (id :: seen)).card < (unseen nodes seen).card := by
  refine Finset.card_lt_card ⟨fun other hother => ?_, fun hsub => ?_⟩
  · unfold unseen at hother ⊢
    simp only [Finset.mem_sdiff, List.mem_toFinset, List.mem_cons, not_or] at hother ⊢
    exact ⟨hother.1, hother.2.2⟩
  · have hmem : id ∈ unseen nodes seen := by
      unfold unseen
      simp only [Finset.mem_sdiff, List.mem_toFinset]
      exact ⟨hid, hnew⟩
    have hgone := hsub hmem
    unfold unseen at hgone
    simp at hgone

/-- Visiting nodes one after another, if the search from each new one is what it should be. -/
theorem explores_foldlM
    (hsearch : ∀ seen id, id ∈ nodes → id ∉ seen → (unseen nodes seen).card ≤ depth →
      Explores next (id :: path) (id :: seen) (next id) (search next depth path seen id)) :
    ∀ todo seen : List String, todo ⊆ nodes → (unseen nodes seen).card ≤ depth →
      Explores next path seen todo (todo.foldlM (visit next depth path) seen) := by
  intro todo
  induction todo with
  | nil => exact fun seen _ _ => .done path seen
  | cons id todo ih =>
      intro seen hsub hdepth
      obtain ⟨hid, hsub⟩ := List.cons_subset.mp hsub
      rw [List.foldlM_cons]
      by_cases hseen : id ∈ seen
      · by_cases hpath : id ∈ path
        · have hvisit : visit next depth path seen id = none := by simp [visit, hseen, hpath]
          rw [hvisit]
          exact .back hseen hpath
        · have hvisit : visit next depth path seen id = some seen := by
            simp [visit, hseen, hpath]
          rw [hvisit]
          exact .skip hseen hpath (ih seen hsub hdepth)
      · have hvisit : visit next depth path seen id = search next depth path seen id := by
          simp [visit, hseen]
        have hbelow := hsearch seen id hid hseen hdepth
        rw [hvisit]
        cases hout : search next depth path seen id with
        | none =>
            rw [hout] at hbelow
            exact .found hseen hbelow
        | some after =>
            rw [hout] at hbelow
            have hgrown : seen ⊆ after := fun kept hkept =>
              hbelow.subset rfl (List.mem_cons_of_mem id hkept)
            exact .enter hseen hbelow (ih after hsub ((card_unseen_anti hgrown).trans hdepth))

/-- The search from a new node goes no deeper than there are nodes to see. -/
theorem explores_search (hnext : ∀ id, next id ⊆ nodes) :
    ∀ (depth : Nat) (path seen : List String) (id : String), id ∈ nodes → id ∉ seen →
      (unseen nodes seen).card ≤ depth →
        Explores next (id :: path) (id :: seen) (next id) (search next depth path seen id) := by
  intro depth
  induction depth with
  | zero =>
      intro path seen id hid hnew hdepth
      have hless := card_unseen_cons hid hnew
      omega
  | succ depth ih =>
      intro path seen id hid hnew hdepth
      have hless := card_unseen_cons hid hnew
      rw [search_succ]
      exact explores_foldlM (ih (id :: path)) (next id) (id :: seen) (hnext id) (by omega)

end Depth

/-! ### The root that is named -/

namespace VisitOrder

theorem next_subset (order : job.VisitOrder) (id : String) : order.next id ⊆ job.nodes.keys :=
  fun other hother => (mem_keys_of_refers ((order.mem_next id other).mp hother)).2

theorem card_unseen_le (job : Job) (seen : List String) :
    (unseen job.nodes.keys seen).card ≤ job.nodes.length := by
  refine (Finset.card_le_card Finset.sdiff_subset).trans ?_
  refine (List.toFinset_card_le _).trans_eq ?_
  unfold Entries.keys
  rw [List.length_map]

/-- The search of the whole job ends. -/
theorem explores_keys (order : job.VisitOrder) : ∃ out,
    Explores order.next [] [] job.nodes.keys out :=
  ⟨_, explores_foldlM (explores_search order.next_subset job.nodes.length [])
    job.nodes.keys [] (List.Subset.refl _) (card_unseen_le job [])⟩

open Classical in
/-- The root of the first search that finds a cycle is the first of the roots that leads to one:
what was seen before leads to none. -/
theorem firstCyclic_eq (order : job.VisitOrder) (roots : List String) :
    ∀ seen : List String, roots ⊆ job.nodes.keys → (∀ id ∈ seen, ¬ job.LeadsToCycle id) →
      firstCyclic order.next job.nodes.length seen roots =
        roots.find? fun id => decide (job.LeadsToCycle id) := by
  induction roots with
  | nil => exact fun _ _ _ => rfl
  | cons root roots ih =>
      intro seen hsub hseen
      obtain ⟨hroot, hsub⟩ := List.cons_subset.mp hsub
      unfold firstCyclic
      by_cases hmem : root ∈ seen
      · rw [if_pos (by simpa using hmem), List.find?_cons_of_neg (by simpa using hseen root hmem)]
        exact ih seen hsub hseen
      · rw [if_neg (by simpa using hmem)]
        have hexplores := explores_search order.next_subset job.nodes.length [] seen root hroot hmem
          (card_unseen_le job seen)
        -- the search from the root is the visit of the root, below no path
        cases hout : search order.next job.nodes.length [] seen root with
        | none =>
            rw [hout] at hexplores
            have hvisit : Explores order.next [] seen [root] none := .found hmem hexplores
            obtain ⟨id, hid, hleads⟩ := hvisit.leads rfl fun _ hid => absurd hid List.not_mem_nil
            rw [List.mem_singleton.mp hid] at hleads
            exact (List.find?_cons_of_pos (by simpa using hleads)).symm
        | some after =>
            rw [hout] at hexplores
            have hvisit : Explores order.next [] seen [root] (some after) :=
              .enter hmem hexplores (.done [] after)
            obtain ⟨hafter, hclear⟩ := hvisit.finished rfl (List.nil_subset seen)
              fun id hid _ => hseen id hid
            rw [List.find?_cons_of_neg (by simpa using hclear root List.mem_cons_self)]
            exact ih after hsub fun id hid => hafter id hid List.not_mem_nil

open Classical in
/-- The node that is named is the first one of the job that leads to a cycle. -/
theorem cycleRoot?_eq (order : job.VisitOrder) :
    order.cycleRoot? = job.nodes.keys.find? fun id => decide (job.LeadsToCycle id) :=
  order.firstCyclic_eq job.nodes.keys [] (List.Subset.refl _) fun _ hid =>
    absurd hid List.not_mem_nil

theorem isSome_cycleRoot?_iff (order : job.VisitOrder) :
    order.cycleRoot?.isSome = true ↔ ∃ id, job.OnCycle id := by
  rw [cycleRoot?_eq, List.find?_isSome, exists_onCycle_iff]
  simp only [decide_eq_true_eq]

theorem cycleRoot?_eq_some_iff (order : job.VisitOrder) :
    order.cycleRoot? = some id ↔ ∃ before after, job.nodes.keys = before ++ id :: after ∧
      job.LeadsToCycle id ∧ ∀ other ∈ before, ¬ job.LeadsToCycle other := by
  rw [cycleRoot?_eq, List.find?_eq_some_iff_append]
  simp only [decide_eq_true_eq, Bool.not_eq_true', decide_eq_false_iff_not]
  constructor
  · rintro ⟨hleads, before, after, hkeys, hbefore⟩
    exact ⟨before, after, hkeys, hleads, hbefore⟩
  · rintro ⟨before, after, hkeys, hleads, hbefore⟩
    exact ⟨hleads, before, after, hkeys, hbefore⟩

end VisitOrder

/-! ### The problems of a job -/

theorem cycle_mem_problems_iff (order : job.VisitOrder) :
    Problem.cycle id ∈ job.problems ↔ order.cycleRoot? = some id := by
  have hroot : job.cycleRoot? = order.cycleRoot? :=
    (job.heldOrder.cycleRoot?_eq).trans order.cycleRoot?_eq.symm
  have hdangling : Problem.cycle id ∉ job.danglingReferences := by
    unfold danglingReferences
    simp
  unfold problems
  split_ifs with hempty
  · have hnone : order.cycleRoot? = none := by
      rw [order.cycleRoot?_eq, List.isEmpty_iff.mp hempty]
      rfl
    simp [hnone]
  · rw [List.mem_append, hroot]
    simp [hdangling]

theorem references_keepReferences (there : String → Bool) (node : JobNode) :
    (keepReferences there node).references =
      node.references.filter fun held => there held.nodeId := by
  unfold keepReferences JobNode.references
  induction node.inputs with
  | nil => rfl
  | cons input inputs ih =>
      cases hheld : JobNode.held? input with
      | none => simp [hheld, ih]
      | some held => cases hthere : there held.nodeId <;> simp [hheld, hthere, ih]

theorem keys_closed (job : Job) : job.closed.nodes.keys = job.nodes.keys := by
  unfold closed Entries.keys
  rw [List.map_map]
  rfl

theorem refers_closed (job : Job) : job.closed.Refers = job.Refers := by
  have hcontains : job.closed.contains = job.contains := by
    funext other
    rw [Bool.eq_iff_iff, contains, contains, Entries.has_iff_mem_keys, Entries.has_iff_mem_keys,
      keys_closed]
  funext id other
  unfold Refers
  rw [hcontains]
  unfold node? closed Entries.get?
  dsimp only
  rw [Entries.lookup_map]
  cases job.nodes.lookup id with
  | none => rfl
  | some node =>
      rw [Option.map_some]
      simp only [Option.some.injEq, exists_eq_left', references_keepReferences, List.mem_filter]
      rw [eq_iff_iff, and_congr_left_iff]
      intro hother
      constructor
      · rintro ⟨held, ⟨hheld, -⟩, rfl⟩
        exact ⟨held, hheld, rfl⟩
      · rintro ⟨held, hheld, rfl⟩
        exact ⟨held, ⟨hheld, hother⟩, rfl⟩

theorem cycleRoot?_closed (order : job.VisitOrder) (other : job.closed.VisitOrder) :
    other.cycleRoot? = order.cycleRoot? := by
  rw [order.cycleRoot?_eq, other.cycleRoot?_eq, keys_closed]
  unfold LeadsToCycle OnCycle
  rw [refers_closed]

/-- **A cycle is reported exactly if there is one.**  In whatever order the neighbours are visited,
the search ends, in one way, and finds a cycle exactly if some node lies on one; so does what is
computed with a bound on the depth, and what is reported; and references to nodes that are not there
count for nothing. -/
theorem reports_cycle_iff (job : Job) (order : job.VisitOrder) :
    (∃! out, Explores order.next [] [] job.nodes.keys out) ∧
      (Explores order.next [] [] job.nodes.keys none ↔ ∃ id, job.OnCycle id) ∧
      (order.cycleRoot?.isSome = true ↔ ∃ id, job.OnCycle id) ∧
      ((∃ id, Problem.cycle id ∈ job.problems) ↔ ∃ id, job.OnCycle id) ∧
      ∀ other : job.closed.VisitOrder, other.cycleRoot? = order.cycleRoot? := by
  obtain ⟨out, hout⟩ := order.explores_keys
  refine ⟨⟨out, hout, fun _ h => h.unique hout⟩, ?_, order.isSome_cycleRoot?_iff, ?_,
    cycleRoot?_closed order⟩
  · rw [exists_onCycle_iff, ← hout.eq_none_iff]
    constructor
    · exact fun hnone => hout.unique hnone
    · exact fun hnone => hnone ▸ hout
  · rw [← order.isSome_cycleRoot?_iff, Option.isSome_iff_exists]
    exact exists_congr fun id => cycle_mem_problems_iff order

/-- **What is named leads to a cycle.**  In whatever order the neighbours are visited, the node that
is named is the first node of the job from which references lead to a cycle.  It lies on one itself
if every node does that refers to a node on a cycle. -/
theorem names_first_leading (job : Job) (order : job.VisitOrder) :
    (∀ id, Problem.cycle id ∈ job.problems ↔ order.cycleRoot? = some id) ∧
      (∀ id, Problem.cycle id ∈ job.problems ↔
        ∃ before after, job.nodes.keys = before ++ id :: after ∧ job.LeadsToCycle id ∧
          ∀ other ∈ before, ¬ job.LeadsToCycle other) ∧
      ((∀ id other, job.Refers id other → job.OnCycle other → job.OnCycle id) →
        ∀ id, Problem.cycle id ∈ job.problems → job.OnCycle id) := by
  have hnamed : ∀ id, Problem.cycle id ∈ job.problems ↔
      ∃ before after, job.nodes.keys = before ++ id :: after ∧ job.LeadsToCycle id ∧
        ∀ other ∈ before, ¬ job.LeadsToCycle other := fun id =>
    (cycle_mem_problems_iff order).trans order.cycleRoot?_eq_some_iff
  refine ⟨fun id => cycle_mem_problems_iff order, hnamed, fun hback id hid => ?_⟩
  obtain ⟨-, -, -, hleads, -⟩ := (hnamed id).mp hid
  exact hleads.onCycle hback

/-- Two nodes that refer to each other. -/
def pairedJob : Job :=
  ⟨[("1", ⟨"A", [("0", .reference "2" 0)]⟩), ("2", ⟨"B", [("0", .reference "1" 0)]⟩)]⟩

/-- Every node of this job lies on the cycle, and so does the one that is named. -/
theorem names_first_leading_pairedJob :
    (∀ id other, pairedJob.Refers id other → pairedJob.OnCycle other → pairedJob.OnCycle id) ∧
      Problem.cycle "1" ∈ pairedJob.problems ∧ pairedJob.OnCycle "1" := by
  have hforth : pairedJob.Refers "1" "2" := mem_successors_iff.mp (by decide +kernel)
  have hback : pairedJob.Refers "2" "1" := mem_successors_iff.mp (by decide +kernel)
  have hcycle : ∀ id ∈ pairedJob.nodes.keys, pairedJob.OnCycle id := by
    intro id hid
    obtain rfl | rfl : id = "1" ∨ id = "2" := by simpa [pairedJob, Entries.keys] using hid
    · exact .tail (.single hforth) hback
    · exact .tail (.single hback) hforth
  have hclosed : ∀ id other, pairedJob.Refers id other → pairedJob.OnCycle other →
      pairedJob.OnCycle id := fun id _ hrefers _ => hcycle id (mem_keys_of_refers hrefers).1
  have hnamed : Problem.cycle "1" ∈ pairedJob.problems := by decide +kernel
  exact ⟨hclosed, hnamed,
    (names_first_leading pairedJob pairedJob.heldOrder).2.2 hclosed "1" hnamed⟩

/-- A node that refers to one which refers to itself. -/
def tailedGraph : Graph :=
  ⟨[⟨"1", some "A", none, [], .listed []⟩, ⟨"2", some "B", none, [], .listed []⟩],
    [⟨.int 1, "2", 0, "1", 0⟩, ⟨.int 2, "2", 0, "2", 0⟩]⟩

/-- The job of this graph. -/
def tailedJob : Job :=
  ⟨[("1", ⟨"A", [("0", .reference "2" 0)]⟩), ("2", ⟨"B", [("0", .reference "2" 0)]⟩)]⟩

/-- The first node is named, though nothing refers to it. -/
theorem names_node_off_cycle :
    tailedGraph.compile.job = tailedJob ∧ Problem.cycle "1" ∈ tailedJob.problems ∧
      ¬ tailedJob.OnCycle "1" ∧ tailedJob.OnCycle "2" := by
  have hself : tailedJob.Refers "2" "2" := mem_successors_iff.mp (by decide +kernel)
  refine ⟨by decide +kernel, by decide +kernel, fun hcycle => ?_, .single hself⟩
  obtain ⟨id, -, hrefers⟩ := TransGen.tail'_iff.mp hcycle
  have hnone : ∀ id ∈ tailedJob.nodes.keys, "1" ∉ tailedJob.successors id := by decide +kernel
  exact hnone id (mem_keys_of_refers hrefers).1 (mem_successors_iff.mpr hrefers)

end RenderRelay.Job
