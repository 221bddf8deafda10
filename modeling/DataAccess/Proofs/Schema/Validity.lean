import DataAccess.Proofs.Support.Work
import DataAccess.Schema.Basic
import Mathlib.Data.List.Nodup

/-!
# `DataAccess.Proofs.Schema.Validity`: valid declarations

What `Declaration.validate` is good for. Fields are checked one after
another against the names and columns of those before them, so that in a
valid declaration any two fields differ in both (`pairwise_fields`). A
field is then found by its name (`field_of_mem`), and so is the identity
(`columnName_identity`).
-/

set_option autoImplicit false

namespace DataAccess.Declaration

variable {ι : Type}

/-- Of fields that were checked no two share a name or a column, and none
takes a name or a column that was there before. -/
theorem pairwise_of_checkFields {d : Declaration ι} {fields : List Field}
    {names columns : List String} (h : d.checkFields names columns fields = .ok ()) :
    (fields.Pairwise fun f g => f.name ≠ g.name ∧ f.column ≠ g.column) ∧
      ∀ f ∈ fields, f.name ∉ names ∧ f.column ∉ columns := by
  -- Over the fields, with the names and columns that were seen before them.
  induction fields generalizing names columns with
  | nil => simp
  | cons f fields ih =>
      rw [checkFields] at h
      split at h
      · cases h
      rename_i hname
      split at h
      · cases h
      rename_i hcolumn
      obtain ⟨hpairwise, hnew⟩ := ih h
      refine ⟨List.pairwise_cons.mpr ⟨fun g hg => ?_, hpairwise⟩, fun g hg => ?_⟩
      · -- A later field was compared with `f`.
        obtain ⟨hn, hc⟩ := hnew g hg
        exact ⟨fun heq => hn (by simp [heq]), fun heq => hc (by simp [heq])⟩
      · rcases List.mem_cons.mp hg with rfl | hg
        · simpa using And.intro hname hcolumn
        · exact (hnew g hg).imp (fun hn hmem => hn (by simp [hmem]))
            fun hc hmem => hc (by simp [hmem])

/-- A valid declaration uses no name and no column of a field twice. -/
theorem pairwise_fields {d : Declaration ι} (h : d.validate = .ok ()) :
    d.fields.Pairwise fun f g => f.name ≠ g.name ∧ f.column ≠ g.column := by
  obtain ⟨_, -, h⟩ := Result.bind_eq_ok.mp h
  obtain ⟨_, hfields, -⟩ := Result.bind_eq_ok.mp h
  exact (pairwise_of_checkFields hfields).1

/-- No two fields of a valid type have one name. -/
theorem nodup_names {d : Declaration ι} (h : d.validate = .ok ()) :
    (d.fields.map (·.name)).Nodup :=
  List.pairwise_map.mpr ((pairwise_fields h).imp And.left)

/-- No two fields of a valid type have one column. -/
theorem nodup_columns {d : Declaration ι} (h : d.validate = .ok ()) :
    (d.fields.map (·.column)).Nodup :=
  List.pairwise_map.mpr ((pairwise_fields h).imp And.right)

/-- Where names are different, each thing is found by its own. -/
theorem find?_of_nodup {α : Type} {name : α → String} {items : List α}
    (h : (items.map name).Nodup) {a : α} (ha : a ∈ items) :
    items.find? (name · == name a) = some a := by
  induction items with
  | nil => exact absurd ha List.not_mem_nil
  | cons b items ih =>
      obtain ⟨hb, hitems⟩ := List.nodup_cons.mp h
      rcases List.mem_cons.mp ha with rfl | ha
      · simp
      -- The name of the first item is not that of a later one.
      · have hne : name b ≠ name a := fun heq => hb (List.mem_map.mpr ⟨a, ha, heq.symm⟩)
        rw [List.find?_cons_of_neg (by simpa using hne), ih hitems ha]

/-- In a valid declaration a field is found by its name. -/
theorem field_of_mem {d : Declaration ι} (h : d.validate = .ok ()) {f : Field}
    (hf : f ∈ d.fields) : d.field f.name = .ok f := by
  rw [field, find?_of_nodup (nodup_names h) hf]

/-- The identity field is one of the fields. -/
theorem mem_of_identityField {d : Declaration ι} {f : Field} (h : d.identityField = .ok f) :
    f ∈ d.fields := by
  rw [identityField] at h
  split at h
  · rename_i g hg
    obtain rfl := Except.ok.inj h
    have hin : g ∈ d.identities := by simp [hg]
    exact (List.mem_filter.mp hin).1
  · cases h
  · cases h

/-- Relations that were checked are joined through fields. -/
theorem columnName_of_checkRelations {d : Declaration ι} {relations : List (Relation ι)}
    {names : List String} (h : d.checkRelations names relations = .ok ()) :
    ∀ r ∈ relations, ∃ column, d.columnName r.joinField = .ok column := by
  induction relations generalizing names with
  | nil => simp
  | cons r relations ih =>
      rw [checkRelations] at h
      split at h
      · cases h
      -- The check looked the field up.
      obtain ⟨f, hfield, hrest⟩ := Result.bind_eq_ok.mp h
      refine List.forall_mem_cons.mpr ⟨⟨f.column, ?_⟩, ih hrest⟩
      rw [columnName, hfield]
      rfl

/-- In a valid declaration every relation is joined through a field. -/
theorem columnName_joinField {d : Declaration ι} (h : d.validate = .ok ()) {r : Relation ι}
    (hr : r ∈ d.relations) : ∃ column, d.columnName r.joinField = .ok column := by
  obtain ⟨_, -, h⟩ := Result.bind_eq_ok.mp h
  obtain ⟨_, -, hrelations⟩ := Result.bind_eq_ok.mp h
  exact columnName_of_checkRelations hrelations r hr

/-- The column of the identity, by the name of the identity. -/
theorem columnName_identity {d : Declaration ι} (h : d.validate = .ok ()) {f : Field}
    (hf : d.identityField = .ok f) : d.columnName f.name = .ok f.column := by
  rw [columnName, field_of_mem h (mem_of_identityField hf)]
  rfl

end DataAccess.Declaration
