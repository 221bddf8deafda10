import DataAccess.Proofs.Support.Work
import DataAccess.Schema.Basic
import DataAccess.Value.Extraction
import Mathlib.Data.List.Basic
import Mathlib.Logic.Function.Basic

/-!
# `DataAccess.Proofs.Dao.Closure`: rows that depend on others

Which rows have to go when some rows go, apart from how they are
deleted. A store has the rows of all tables; an entity type has a table,
and the number in a field of a row can be the identity of another row,
on which the row depends if the schema says so.

`Doomed` is the least set of rows with the marked ones in it and with all
rows that depend on a row in it. `Store.purge` is the store without them.
Deleting in steps comes to the same as deleting at once
(`purge_purge`), where the second step looks only at what the first one
left. A purge makes no row that points at nothing: one that is left and
does so did so before (`Store.dangling_purge`).

A deletion takes the rows that depend on some rows first and those rows
last; `purge_pointing` says that both together are a purge again.
-/

set_option autoImplicit false

namespace DataAccess

variable {ι : Type}

/-- A row of a table: the values of its columns. -/
abbrev TableRow := String → Value

/-- The rows of all tables, by the names of the tables. -/
abbrev Store := String → List TableRow

/-- The number that a value is read as, if it is one. -/
def Value.number? (v : Value) : Option Int64 :=
  (v.as Int64).toOption

/-- The number in a column is one of the given ones. -/
def TableRow.Among (column : String) (numbers : List Int64) (t : TableRow) : Prop :=
  ∃ i ∈ numbers, (t column).number? = some i

instance (column : String) (numbers : List Int64) (t : TableRow) :
    Decidable (t.Among column numbers) :=
  inferInstanceAs (Decidable (∃ i ∈ numbers, (t column).number? = some i))

/-- The store without the rows of a table whose number in a column is one
of the given ones. -/
def Store.without (st : Store) (table column : String) (numbers : List Int64) : Store :=
  fun name =>
    if name = table then (st name).filter fun t => ¬ t.Among column numbers else st name

namespace Schema

/-- The identity of a row of the type `k`. -/
def identityOf? (schema : Schema ι) (k : ι) (t : TableRow) : Option Int64 :=
  (schema k).identityField.toOption.bind fun f => (t f.column).number?

/-- The identity that a field of a row of the type `k` points at. -/
def pointerOf? (schema : Schema ι) (k : ι) (field : String) (t : TableRow) : Option Int64 :=
  ((schema k).columnName field).toOption.bind fun column => (t column).number?

/-- Rows of the type `d` depend on those of the type `k` that their field
points at. -/
def Links (schema : Schema ι) (k d : ι) (field : String) : Prop :=
  d ∈ (schema k).dependents ∧ ∃ r ∈ (schema d).relations, r.target = k ∧ r.joinField = field

end Schema

/-- The rows that go when the marked ones go: those themselves, and every
row that depends on one that goes. -/
inductive Doomed (schema : Schema ι) (st : Store) (marked : ι → TableRow → Prop) :
    ι → TableRow → Prop where
  | marked {k : ι} {t : TableRow} (hmem : t ∈ st (schema k).table) (hmarked : marked k t) :
    Doomed schema st marked k t
  | dependent {k d : ι} {field : String} {parent t : TableRow} {i : Int64}
    (hparent : Doomed schema st marked k parent) (hlink : schema.Links k d field)
    (hmem : t ∈ st (schema d).table) (hid : schema.identityOf? k parent = some i)
    (hpointer : schema.pointerOf? d field t = some i) : Doomed schema st marked d t

/-- A row of a table is left when the marked ones go. -/
def Kept (schema : Schema ι) (st : Store) (marked : ι → TableRow → Prop) (name : String)
    (t : TableRow) : Prop :=
  ¬ ∃ k, (schema k).table = name ∧ Doomed schema st marked k t

noncomputable instance (schema : Schema ι) (st : Store) (marked : ι → TableRow → Prop)
    (name : String) (t : TableRow) : Decidable (Kept schema st marked name t) :=
  Classical.dec _

/-- The store without the rows that go when the marked ones go. -/
noncomputable def Store.purge (schema : Schema ι) (st : Store) (marked : ι → TableRow → Prop) :
    Store :=
  fun name => (st name).filter fun t => Kept schema st marked name t

/-- Every row that depends on another one has that one in the store: no
row points at nothing. -/
def Anchored (schema : Schema ι) (st : Store) : Prop :=
  ∀ k d field, schema.Links k d field → ∀ t ∈ st (schema d).table, ∀ i,
    schema.pointerOf? d field t = some i →
      ∃ parent ∈ st (schema k).table, schema.identityOf? k parent = some i

/-- The field of a row of the type `d` points at a row of the type `k`
that is not there. -/
def Dangling (schema : Schema ι) (st : Store) (k d : ι) (field : String) (t : TableRow) : Prop :=
  schema.Links k d field ∧ ∃ i, schema.pointerOf? d field t = some i ∧
    ∀ parent ∈ st (schema k).table, schema.identityOf? k parent ≠ some i

/-- A store is anchored just if no row dangles. -/
theorem anchored_iff {schema : Schema ι} {st : Store} :
    Anchored schema st
      ↔ ∀ k d field, ∀ t ∈ st (schema d).table, ¬ Dangling schema st k d field t := by
  constructor
  · rintro h k d field t ht ⟨hlink, i, hpointer, hnone⟩
    -- The parent that an anchored row has is one that a dangling row lacks.
    obtain ⟨parent, hparent, hid⟩ := h k d field hlink t ht i hpointer
    exact hnone parent hparent hid
  · intro h k d field hlink t ht i hpointer
    by_contra hnone
    exact h k d field t ht
      ⟨hlink, i, hpointer, fun parent hparent hid => hnone ⟨parent, hparent, hid⟩⟩

section Doomed
variable {schema : Schema ι} {st : Store} {marked other : ι → TableRow → Prop}

/-- The doomed rows are the least set of its kind: a set goes with them
that has the marked rows and all that depends on its own. -/
theorem Doomed.least (set : ι → TableRow → Prop)
    (hmarked : ∀ k, ∀ t ∈ st (schema k).table, marked k t → set k t)
    (hclosed : ∀ k d field parent i, set k parent → schema.Links k d field →
      schema.identityOf? k parent = some i → ∀ t ∈ st (schema d).table,
        schema.pointerOf? d field t = some i → set d t)
    {k : ι} {t : TableRow} (h : Doomed schema st marked k t) : set k t := by
  induction h with
  | marked hmem hm => exact hmarked _ _ hmem hm
  | dependent _ hlink hmem hid hpointer ih => exact hclosed _ _ _ _ _ ih hlink hid _ hmem hpointer

/-- More marked rows in a greater store doom more. -/
theorem Doomed.mono {st' : Store} (hst : ∀ k, st (schema k).table ⊆ st' (schema k).table)
    (hmarked : ∀ k t, marked k t → other k t) {k : ι} {t : TableRow}
    (h : Doomed schema st marked k t) : Doomed schema st' other k t := by
  induction h with
  | marked hmem hm => exact .marked (hst _ hmem) (hmarked _ _ hm)
  | dependent _ hlink hmem hid hpointer ih => exact .dependent ih hlink (hst _ hmem) hid hpointer

end Doomed

namespace Store

variable {schema : Schema ι} {st : Store} {marked other : ι → TableRow → Prop}

/-- A purge only takes rows away. -/
theorem purge_subset (name : String) : st.purge schema marked name ⊆ st name :=
  List.filter_subset_self _

/-- Without marked rows nothing goes. -/
theorem purge_none (h : ∀ k t, ¬ marked k t) : st.purge schema marked = st := by
  have hnone : ∀ k t, ¬ Doomed schema st marked k t := by
    intro k t hdoomed
    exact hdoomed.least (fun _ _ => False) (fun k t _ hm => h k t hm)
      fun _ _ _ _ _ hfalse => hfalse.elim
  funext name
  exact List.filter_eq_self.mpr fun t _ => by simp [Kept, hnone]

/-- A table of no entity type is left alone. -/
theorem purge_other {name : String} (hname : ∀ k, (schema k).table ≠ name) :
    st.purge schema marked name = st name :=
  List.filter_eq_self.mpr fun t _ => by simp [Kept, hname]

section Injective
variable (htables : Function.Injective fun k => (schema k).table)

include htables

/-- A row of a type is left unless it is doomed as one of that type. -/
theorem kept_table {k : ι} {t : TableRow} :
    Kept schema st marked (schema k).table t ↔ ¬ Doomed schema st marked k t :=
  not_congr ⟨fun ⟨_, hl, hdoomed⟩ => htables hl ▸ hdoomed, fun hdoomed => ⟨k, rfl, hdoomed⟩⟩

/-- A purge leaves the rows that are not doomed. -/
theorem mem_purge {k : ι} {t : TableRow} :
    t ∈ st.purge schema marked (schema k).table
      ↔ t ∈ st (schema k).table ∧ ¬ Doomed schema st marked k t := by
  rw [purge, List.mem_filter, decide_eq_true_eq, kept_table htables]

/-- What two sets of marked rows doom: what the first one dooms, and what
the second one dooms in the rest. -/
theorem doomed_or {k : ι} {t : TableRow} :
    Doomed schema st (fun k t => marked k t ∨ other k t) k t
      ↔ Doomed schema st marked k t ∨ Doomed schema (st.purge schema marked) other k t := by
  constructor
  · intro h
    -- Over the dependence; a row goes by the first set if its parent does.
    induction h with
    | @marked k t hmem hm =>
        by_cases hfirst : Doomed schema st marked k t
        · exact Or.inl hfirst
        · have hother : other k t := hm.resolve_left fun hm => hfirst (.marked hmem hm)
          exact Or.inr (.marked ((mem_purge htables).mpr ⟨hmem, hfirst⟩) hother)
    | @dependent k d field parent t i _ hlink hmem hid hpointer ih =>
        rcases ih with ih | ih
        · exact Or.inl (.dependent ih hlink hmem hid hpointer)
        · by_cases hfirst : Doomed schema st marked d t
          · exact Or.inl hfirst
          · have hleft := (mem_purge htables).mpr ⟨hmem, hfirst⟩
            exact Or.inr (.dependent ih hlink hleft hid hpointer)
  · rintro (h | h)
    · exact h.mono (fun _ => List.Subset.refl _) fun _ _ => Or.inl
    · exact h.mono (fun _ => purge_subset _) fun _ _ => Or.inr

/-- One purge after another is one of all that was marked. -/
theorem purge_purge : (st.purge schema marked).purge schema other
    = st.purge schema fun k t => marked k t ∨ other k t := by
  funext name
  rw [purge, purge, purge, List.filter_filter]
  refine List.filter_congr fun t _ => ?_
  rw [← Bool.decide_and, decide_eq_decide, Kept, Kept, Kept]
  simp only [doomed_or htables, and_or_left, exists_or, not_or]
  exact and_comm

/-- A row that is left and points at nothing did so before: what it points
at does not go, as it would go along. -/
theorem dangling_purge {k d : ι} {field : String} {t : TableRow}
    (ht : t ∈ st.purge schema marked (schema d).table)
    (h : Dangling schema (st.purge schema marked) k d field t) :
    Dangling schema st k d field t := by
  obtain ⟨hlink, i, hpointer, hnone⟩ := h
  obtain ⟨hmem, hkept⟩ := (mem_purge htables).mp ht
  refine ⟨hlink, i, hpointer, fun parent hparent hid => ?_⟩
  have hleft : ¬ Doomed schema st marked k parent := fun hdoomed =>
    hkept (.dependent hdoomed hlink hmem hid hpointer)
  exact hnone parent ((mem_purge htables).mpr ⟨hparent, hleft⟩) hid

end Injective

end Store

/-- The rows of the type `d` whose field points at one of the given
identities. -/
def Schema.PointingBy (schema : Schema ι) (d : ι) (field : String) (ids : List Int64) (l : ι)
    (t : TableRow) : Prop :=
  l = d ∧ ∃ i ∈ ids, schema.pointerOf? d field t = some i

/-- The rows that depend on rows of the type `k` with the given
identities. -/
def Schema.Pointing (schema : Schema ι) (k : ι) (ids : List Int64) (l : ι) (t : TableRow) :
    Prop :=
  ∃ d field, schema.Links k d field ∧ schema.PointingBy d field ids l t

/-- The rows of the type `k` with the given identities. -/
def Schema.Identified (schema : Schema ι) (k : ι) (ids : List Int64) (l : ι) (t : TableRow) :
    Prop :=
  l = k ∧ ∃ i ∈ ids, schema.identityOf? k t = some i

/-- The rows of the type `k` whose number in a column is one of the given
ones. -/
def Holding (k : ι) (column : String) (numbers : List Int64) (l : ι) (t : TableRow) : Prop :=
  l = k ∧ t.Among column numbers

section Last
variable {schema : Schema ι} {st : Store} {k : ι} {column : String} {numbers ids : List Int64}
  (hids : ∀ i, i ∈ ids ↔ ∃ t ∈ st (schema k).table,
    t.Among column numbers ∧ schema.identityOf? k t = some i)

include hids

/-- A row goes with those that hold some numbers if it is one of them, or
if it goes with those that depend on them. -/
theorem doomed_holding {l : ι} {t : TableRow} :
    Doomed schema st (Holding k column numbers) l t
      ↔ Doomed schema st (schema.Pointing k ids) l t ∨
        t ∈ st (schema l).table ∧ Holding k column numbers l t := by
  constructor
  · intro h
    induction h with
    | marked hmem hm => exact Or.inr ⟨hmem, hm⟩
    | @dependent l d field parent t i _ hlink hmem hid hpointer ih =>
        refine Or.inl ?_
        rcases ih with ih | ⟨hparent, rfl, hholds⟩
        · exact .dependent ih hlink hmem hid hpointer
        · have hi : i ∈ ids := (hids i).mpr ⟨parent, hparent, hholds, hid⟩
          exact .marked hmem ⟨d, field, hlink, rfl, i, hi, hpointer⟩
  · rintro (h | ⟨hmem, hm⟩)
    · induction h with
      | @marked d t hmem hm =>
          -- Whoever is pointed at holds one of the numbers, and goes.
          obtain ⟨_, field, hlink, rfl, i, hi, hpointer⟩ := hm
          obtain ⟨parent, hparent, hholds, hid⟩ := (hids i).mp hi
          exact .dependent (.marked hparent ⟨rfl, hholds⟩) hlink hmem hid hpointer
      | dependent _ hlink hmem hid hpointer ih => exact .dependent ih hlink hmem hid hpointer
    · exact .marked hmem hm

/-- To delete the rows that depend on some rows, and then those rows, is
to delete them with all that depends on them. -/
theorem purge_pointing (htables : Function.Injective fun k => (schema k).table) :
    (st.purge schema (schema.Pointing k ids)).without (schema k).table column numbers
      = st.purge schema (Holding k column numbers) := by
  funext name
  rw [Store.without, Store.purge, Store.purge]
  split
  · -- In the table of `k`, the rows themselves go too.
    rename_i hname
    subst hname
    rw [List.filter_filter]
    refine List.filter_congr fun t ht => ?_
    rw [← Bool.decide_and, decide_eq_decide, Store.kept_table htables,
      Store.kept_table htables, doomed_holding hids, not_or, and_comm]
    simp [Holding, ht]
  · rename_i hname
    refine List.filter_congr fun t _ => ?_
    rw [decide_eq_decide, Kept, Kept]
    refine not_congr (exists_congr fun l => and_congr_right fun hl => ?_)
    -- In any other table the marked rows are those that point at them.
    have hother : ¬ Holding k column numbers l t := fun h => hname (by rw [← hl, h.1])
    rw [doomed_holding hids]
    simp [hother]

end Last

end DataAccess
