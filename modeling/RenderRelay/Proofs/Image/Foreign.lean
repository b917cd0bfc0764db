import Mathlib.Logic.Relation
import RenderRelay.Image.Extract
import RenderRelay.Proofs.Entries

/-! # Images of other jobs

A poll for a job looks at the entries that are known to be of that job, and at nothing else that a
history body holds.

* `find?_obj`: the image of a job in a body that is an object, entry by entry.
* `IsForeign` holds of a body that is not itself an entry of the job.
* `Apart` is one change of a body that leaves alone what it holds under the id of the job, at the
  top and below `history`.
* `find?_of_foreign`: of a foreign body only these two values count, so that no change elsewhere is
  seen. -/

namespace RenderRelay.ImageRef

/-- The body is no entry of the job: it has no outputs of its own, or names another job. -/
def IsForeign (body : Fields) (jobId : String) : Prop :=
  body.has "outputs" = false ∨
    (body.get "prompt_id" ≠ .null ∧ (body.get "prompt_id").display ≠ jobId)

instance (body : Fields) (jobId : String) : Decidable (IsForeign body jobId) :=
  inferInstanceAs (Decidable (_ ∨ _))

/-- What a body holds under the id of the job below `history`; null if it has no such entry. -/
def nestedEntry (body : Fields) (jobId : String) : Json := (body.get "history").get jobId

/-- One change of a body that leaves alone what it holds under the id of the job, at the top and
below `history`.  If the id is `history`, what stands below is a part of the entry at the top. -/
inductive Apart (jobId : String) : Fields → Fields → Prop where
  | top (body other : Fields) (h : Entries.Edit jobId body other)
      (hhistory : Entries.Edit "history" body other) : Apart jobId body other
  | below (body nested other : Fields) (hhistory : body.get "history" = .obj nested)
      (h : Entries.Edit jobId nested other) (hjob : jobId ≠ "history") :
      Apart jobId body (body.put "history" (.obj other))

variable {body other : Fields} {jobId : String}

theorem isOwnEntry_eq_false_iff : isOwnEntry body (some jobId) = false ↔ IsForeign body jobId := by
  unfold isOwnEntry IsForeign
  simp only [Bool.and_eq_false_iff, Bool.or_eq_false_iff, decide_eq_false_iff_not, ne_eq]

/-- The image of a job in a body: its own, if the body may be an entry of the job, then that of
the entry under the id, then that of the entry under the id below `history`. -/
theorem find?_obj (body : Fields) (jobId : String) :
    find? (.obj body) (some jobId) =
      (if isOwnEntry body (some jobId) then firstInEntry (.obj body) else none).or
        ((firstInEntry (body.get jobId)).or (firstInEntry (nestedEntry body jobId))) := by
  unfold find? candidates candidatesOfFields nestedEntry
  rw [List.findSome?_append]
  congr 1
  · split_ifs
    · exact List.findSome?_singleton
    · rfl
  · rw [List.findSome?_cons, List.findSome?_singleton]
    cases firstInEntry (body.get jobId) <;> rfl

theorem find?_of_isForeign (h : IsForeign body jobId) :
    find? (.obj body) (some jobId) =
      (firstInEntry (body.get jobId)).or (firstInEntry (nestedEntry body jobId)) := by
  rw [find?_obj, isOwnEntry_eq_false_iff.mpr h, if_neg Bool.false_ne_true, Option.none_or]

/-- A list of entries may hold any job's, so none of them is looked at for a job. -/
theorem find?_of_fields_eq_none {value : Json} (h : value.fields? = none) (jobId : String) :
    find? value (some jobId) = none := by
  cases value with
  | obj fields => cases h
  | _ => rfl

/-! ### Changes elsewhere -/

theorem get_of_edit {key : String} (h : Entries.Edit key body other) :
    other.get key = body.get key := by
  unfold Fields.get
  rw [h.lookup_eq]

theorem Apart.get_eq (h : Apart jobId body other) : other.get jobId = body.get jobId := by
  cases h with
  | top _ hedit _ => exact get_of_edit hedit
  | below _ _ _ _ hjob =>
      unfold Fields.get
      rw [Entries.lookup_put_of_ne _ _ hjob]

theorem Apart.nestedEntry_eq (h : Apart jobId body other) :
    nestedEntry other jobId = nestedEntry body jobId := by
  unfold nestedEntry
  cases h with
  | top _ _ hhistory => rw [get_of_edit hhistory]
  | below _ more hhistory hedit _ =>
      have hput : Fields.get (Entries.put body "history" (.obj more)) "history" = .obj more := by
        unfold Fields.get
        rw [Entries.lookup_put_self]
        rfl
      rw [hput, hhistory]
      exact get_of_edit hedit

theorem get_eq_of_apart (h : Relation.ReflTransGen (Apart jobId) body other) :
    other.get jobId = body.get jobId ∧ nestedEntry other jobId = nestedEntry body jobId := by
  induction h with
  | refl => exact ⟨rfl, rfl⟩
  | tail _ happart ih => exact ⟨happart.get_eq.trans ih.1, happart.nestedEntry_eq.trans ih.2⟩

/-- The image of a job in a foreign body is that of the entry under the id, or else of the entry
under the id below `history`.  All foreign bodies in which these two are alike give the same image,
and so do those that come of one another by changes elsewhere.  A body that is no object has no
image of the job. -/
theorem find?_of_foreign (hforeign : IsForeign body jobId) :
    find? (.obj body) (some jobId) =
        (firstInEntry (body.get jobId)).or (firstInEntry (nestedEntry body jobId)) ∧
      (∀ other : Fields, IsForeign other jobId → other.get jobId = body.get jobId →
        nestedEntry other jobId = nestedEntry body jobId →
          find? (.obj other) (some jobId) = find? (.obj body) (some jobId)) ∧
      (∀ other : Fields, IsForeign other jobId → Relation.ReflTransGen (Apart jobId) body other →
        find? (.obj other) (some jobId) = find? (.obj body) (some jobId)) ∧
      ∀ value : Json, value.fields? = none → find? value (some jobId) = none := by
  have hagree : ∀ other : Fields, IsForeign other jobId → other.get jobId = body.get jobId →
      nestedEntry other jobId = nestedEntry body jobId →
        find? (.obj other) (some jobId) = find? (.obj body) (some jobId) := by
    intro other hother hentry hnested
    rw [find?_of_isForeign hother, find?_of_isForeign hforeign, hentry, hnested]
  refine ⟨find?_of_isForeign hforeign, hagree, ?_, fun value h => find?_of_fields_eq_none h jobId⟩
  intro other hother happart
  obtain ⟨hentry, hnested⟩ := get_eq_of_apart happart
  exact hagree other hother hentry hnested

/-! ### An entry of another job -/

/-- An entry with one image. -/
def entryWith (filename : String) : Json :=
  .obj [("outputs", .obj [("9", .obj [("images", .arr [.obj [("filename", .str filename)]])])])]

/-- The entry of job `b` at the top, and entries of both jobs below `history`. -/
def bodyOfB : Fields :=
  [("prompt_id", .str "b"), ("outputs", (entryWith "b.png").get "outputs"),
    ("history", .obj [("b", entryWith "b.png"), ("a", entryWith "a.png")])]

/-- The same without the outputs at the top, and with another entry of job `b` below. -/
def bodyWithoutB : Fields :=
  [("prompt_id", .str "b"), ("history", .obj [("b", .null), ("a", entryWith "a.png")])]

/-- Job `a` gets its own image from both. -/
theorem find?_of_foreign_bodyOfB :
    IsForeign bodyOfB "a" ∧ IsForeign bodyWithoutB "a" ∧
      find? (.obj bodyOfB) (some "a") = some ⟨"a.png", none, none⟩ ∧
      find? (.obj bodyWithoutB) (some "a") = some ⟨"a.png", none, none⟩ ∧
      find? (.arr [entryWith "a.png"]) (some "a") = none := by
  have hforeign : IsForeign bodyOfB "a" := by decide
  have hother : IsForeign bodyWithoutB "a" := by decide
  have hremoved : Apart "a" bodyOfB (Entries.remove bodyOfB "outputs") :=
    .top _ _ (.remove _ _ (by decide)) (.remove _ _ (by decide))
  have hwritten : Apart "a" (Entries.remove bodyOfB "outputs") bodyWithoutB :=
    .below _ [("b", entryWith "b.png"), ("a", entryWith "a.png")] _ rfl
      (.write _ "b" Json.null (by decide)) (by decide)
  obtain ⟨himage, -, hedits, hlist⟩ := find?_of_foreign hforeign
  have hfirst : find? (.obj bodyOfB) (some "a") = some ⟨"a.png", none, none⟩ := himage.trans rfl
  have hsecond := hedits bodyWithoutB hother
    ((Relation.ReflTransGen.single hremoved).tail hwritten)
  exact ⟨hforeign, hother, hfirst, hsecond.trans hfirst, hlist _ rfl⟩

end RenderRelay.ImageRef
