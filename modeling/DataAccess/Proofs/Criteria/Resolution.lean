import DataAccess.Proofs.Criteria.Path
import DataAccess.Proofs.Support.Work

/-!
# `DataAccess.Proofs.Criteria.Resolution`: what resolving names keeps

Names are resolved in four places: in a filter, an order or a grouping,
in the references of a template, and in a path that is fetched. All of
them change a criteria only by `JoinRegistry.resolve` on its joins, and
by putting the joins back when they fail. So a property of criteria that
survives these two (`Resolvable`) is kept wherever names are resolved.

Most paths that are asked for have no points, because they were cut out
of a text at its points. Only a path that is given as a list may have
any; `D` says which of those are meant.

A name without points needs no joins, and its resolution is that of a
field of the root (`exec_resolveField_plain`).
-/

set_option autoImplicit false

namespace DataAccess.Criteria

variable {ι : Type} {schema : Schema ι} {D : List String → Prop} {P : Criteria ι → Prop}

/-- The property survives that joins are made for a path with `D`, and
that the joins are put back. -/
structure Resolvable (schema : Schema ι) (D : List String → Prop) (P : Criteria ι → Prop) :
    Prop where
  dotFree : ∀ path, DotFree path → D path
  resolve : ∀ path, D path → ∀ c, P c →
    Work.Keeps P (onJoins (JoinRegistry.resolve schema c.root c.joinMaxDepth path))
  restore : ∀ c c', P c → P c' → P { c' with joins := c.joins }

namespace Resolvable

variable (h : Resolvable schema D P)
include h

/-- Undoing the joins of failed work keeps what restoring them keeps. -/
theorem keepingJoins {α : Type} {w : Work (Criteria ι) α} (hw : Work.Keeps P w) :
    Work.Keeps P (keepingJoins w) :=
  Work.keeps_undoing hw h.restore

/-- What resolving a path in the registry keeps is kept by resolving a
name. -/
theorem resolvePath (name : String) : Work.Keeps P (resolvePath schema name) := by
  unfold Criteria.resolvePath
  refine Work.keeps_get_bind fun c hc => ?_
  split
  · exact Work.keeps_bind (Work.keeps_ofResult _) fun column => Work.keeps_pure _
  · -- The path is cut out of the name, so that its relations have no points.
    rename_i path field _ hsplit
    have hdot : DotFree path := by
      have := dotFree_splitName name
      rwa [hsplit] at this
    refine Work.keeps_bind (h.resolve path (h.dotFree path hdot) c hc) fun join => ?_
    exact Work.keeps_bind (Work.keeps_ofResult _) fun column => Work.keeps_pure _

/-- Resolving a field keeps it too. -/
theorem resolveField (name : String) : Work.Keeps P (resolveField schema name) :=
  h.keepingJoins (h.resolvePath name)

/-- Resolving a reference of a template keeps it. -/
theorem resolveReference (name : String) : Work.Keeps P (resolveReference schema name) := by
  unfold Criteria.resolveReference
  split
  · exact Work.keeps_pure _
  · split
    · exact Work.keeps_pure _
    · exact Work.keeps_bind (h.resolvePath name) fun column => Work.keeps_pure _

/-- References are resolved one after another, and one that fails ends
the template. -/
theorem join (template : String) (pieces : List Template.Piece) :
    Work.Keeps P (Template.join template (Criteria.resolveReference schema) pieces) := by
  induction pieces with
  | nil => exact Work.keeps_pure _
  | cons piece pieces ih =>
      cases piece with
      | char c => exact Work.keeps_bind ih fun text => Work.keeps_pure _
      | reference name =>
          refine Work.keeps_bind (h.resolveReference name) fun column => ?_
          exact Work.keeps_bind ih fun text => Work.keeps_pure _
      | unfinished => exact Work.keeps_fail _

/-- Resolving all references of a template keeps it. -/
theorem resolveTemplate (template : String) :
    Work.Keeps P (resolveTemplate schema template) := by
  refine Work.keeps_get_bind fun c hc => ?_
  exact Work.keeps_bind (h.join template _) fun text => Work.keeps_pure _

/-- Fetching a path keeps it, if the path is one of those it may resolve. -/
theorem fetchPath {path : List String} (hpath : D path) :
    Work.Keeps P (addFetchPath schema path) := by
  refine h.keepingJoins (Work.keeps_get_bind fun c hc => ?_)
  exact Work.keeps_bind (h.resolve path hpath c hc) fun join => Work.keeps_pure _

/-- Fetching written paths one by one keeps it, as their segments have no
dots. -/
theorem fetches (paths : List String) : Work.Keeps P (paths.forM (addFetch schema)) :=
  Work.keeps_forM paths fun path _ => h.fetchPath (h.dotFree _ (dotFree_splitPath path))

/-- Fetching written paths together keeps it. -/
theorem addFetches (paths : List String) : Work.Keeps P (addFetches schema paths) :=
  h.keepingJoins (h.fetches paths)

end Resolvable

/-! ### Names without points -/

/-- A name without dots has no relations. -/
theorem splitName_plain {name : String} (hname : '.' ∉ name.toList) :
    splitName name = ([], name) := by
  have hsegments := splitPath_singleton hname
  rw [splitPath] at hsegments
  simp [splitName, hsegments]

/-- A name without points is that of a field of the root. -/
theorem exec_resolveField_plain {name field : String} (hsplit : splitName name = ([], field))
    (c : Criteria ι) :
    (resolveField schema name).exec c
      = (((schema c.root).columnName name).map fun column => ⟨.main, column⟩, c) := by
  have hrun : (resolvePath schema name).exec c
      = (((schema c.root).columnName name).map fun column => ⟨.main, column⟩, c) := by
    rw [resolvePath, Work.exec_get_bind, hsplit]
    dsimp only
    rw [Work.exec_bind, Work.exec_ofResult]
    cases (schema c.root).columnName name <;> rfl
  rw [resolveField, keepingJoins, Work.undoing, Work.exec_of, hrun]
  cases (schema c.root).columnName name <;> rfl

end DataAccess.Criteria
