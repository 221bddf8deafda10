import DataAccess.Proofs.Criteria.Reference
import DataAccess.Proofs.Dao.Protocol
import DataAccess.Proofs.Dao.Relational
import DataAccess.Proofs.Schema.Validity
import DataAccess.Record

/-!
# `DataAccess.Proofs.Dao.Cascade`: what a cascading delete deletes

A cascading delete reads identities before it deletes, and deletes by
conditions that are looked at later, when other rows are gone already.
Here it is shown that this comes to the same as taking out the rows with
all that depends on them at once.

`Purges` says that of two histories: the later store is a purge of the
earlier one, and so are all stores in between. It is put together from
the links of a type (`deleteDependents_purges`, by induction on the depth
that is left) and closed by the deletion of the rows themselves
(`Purges.last`). No row comes to point at nothing by a purge, and so a row
of a store in between that does so did so at the start.

Names of fields with a point in them are read as paths of relations when
rows are deleted, though they name fields everywhere else
(`deleteCascadeByCriteria_pointed_name`); the theorem is about the others.
-/

set_option autoImplicit false

namespace DataAccess

variable {σ ι ε : Type}

/-! ### Histories of purges -/

/-- The store has become a purge of what it was, and every store in
between was a purge of it. -/
def Purges (schema : Schema ι) (marked : ι → TableRow → Prop) (h h' : History) : Prop :=
  h'.now = h.now.purge schema marked ∧
    ∃ steps, h'.steps = h.steps ++ steps ∧ ∀ st ∈ steps, ∃ other, st = h.now.purge schema other

namespace Purges

variable {schema : Schema ι} {marked other : ι → TableRow → Prop} {h h' h'' : History}

/-- Nothing was marked, and nothing happened. -/
theorem nothing (hnone : ∀ k t, ¬ marked k t) (hsame : h' = h) : Purges schema marked h h' := by
  subst hsame
  exact ⟨(Store.purge_none hnone).symm, [], (List.append_nil _).symm, by simp⟩

/-- One purge after another. -/
theorem trans (htables : Function.Injective fun k => (schema k).table)
    (hfirst : Purges schema marked h h') (hsecond : Purges schema other h' h'') :
    Purges schema (fun k t => marked k t ∨ other k t) h h'' := by
  obtain ⟨hnow, steps, hsteps, hpurges⟩ := hfirst
  obtain ⟨hnow', steps', hsteps', hpurges'⟩ := hsecond
  refine ⟨by rw [hnow', hnow, Store.purge_purge htables], steps ++ steps', ?_, ?_⟩
  · rw [hsteps', hsteps, List.append_assoc]
  · intro st hst
    rcases List.mem_append.mp hst with hst | hst
    · exact hpurges st hst
    · obtain ⟨third, hthird⟩ := hpurges' st hst
      exact ⟨_, by rw [hthird, hnow, Store.purge_purge htables]⟩

/-- What is marked may be said in another way. -/
theorem congr (hpurges : Purges schema marked h h') (heq : ∀ k t, marked k t ↔ other k t) :
    Purges schema other h h' := by
  have hsame : marked = other := funext fun k => funext fun t => propext (heq k t)
  rwa [← hsame]

/-- After the rows that depend on some rows, those rows themselves are
deleted. -/
theorem last (htables : Function.Injective fun k => (schema k).table) {k : ι} {column : String}
    {numbers ids : List Int64}
    (hids : ∀ i, i ∈ ids ↔ ∃ t ∈ h.now (schema k).table,
      t.Among column numbers ∧ schema.identityOf? k t = some i)
    (hpurges : Purges schema (schema.Pointing k ids) h h')
    (hdelete : h'' = h'.without (schema k).table column numbers) :
    Purges schema (Holding k column numbers) h h'' := by
  obtain ⟨hnow, steps, hsteps, hearlier⟩ := hpurges
  have hlast : h'.now.without (schema k).table column numbers
      = h.now.purge schema (Holding k column numbers) := by
    rw [hnow, purge_pointing hids htables]
  subst hdelete
  refine ⟨hlast, steps ++ [h.now.purge schema (Holding k column numbers)], ?_, ?_⟩
  · rw [History.without, hsteps, hlast, List.append_assoc]
  · intro st hst
    rcases List.mem_append.mp hst with hst | hst
    · exact hearlier st hst
    · exact ⟨_, List.mem_singleton.mp hst⟩

end Purges

/-! ### Statements of a deletion -/

namespace Dao

variable {dao : Dao σ ι ε}

/-- A criteria for the entities with some numbers in a field can be made out
if the type has the field. -/
theorem membershipCriteria_eq {k : ι} {field : String} {ids : List Int64}
    (hname : '.' ∉ field.toList) (hids : ids ≠ []) :
    dao.membershipCriteria k field ids
      = ((dao.model.schema k).columnName field).map fun column => Criteria.withCondition
          ⟨.and, .filter ⟨.main, column⟩ .membership, ids.map .int64⟩ (dao.criteriaFor k) := by
  have hvalues : Criteria.filterValues field .membership (.array (ids.map .int64))
      = .ok (ids.map .int64) := by
    have hscalar : (ids.map Value.int64).all Value.isScalar = true :=
      List.all_eq_true.mpr (List.forall_mem_map.mpr fun _ _ => rfl)
    rw [Criteria.filterValues, if_neg (by simpa using hids), if_pos hscalar]
  -- A name without points joins nothing, so the criteria gets the condition only.
  have hresolve : (Criteria.resolveField dao.model.schema field).exec (dao.criteriaFor k)
      = (((dao.model.schema k).columnName field).map fun column => ⟨.main, column⟩,
          dao.criteriaFor k) :=
    Criteria.exec_resolveField_plain (Criteria.splitName_plain hname) _
  rw [membershipCriteria, changed, Criteria.addFilter, hvalues,
    Work.exec_bind_ok (Work.exec_ofResult _ _)]
  cases hcolumn : (dao.model.schema k).columnName field <;> rw [hcolumn] at hresolve
  · rw [Work.exec_bind_error hresolve]
    rfl
  · rw [Work.exec_bind_ok hresolve]
    rfl

/-- A field whose name has no point is one of the type itself, and the
rows with some numbers in it are found in its table alone. -/
theorem membershipCriteria_ok {k : ι} {field : String} {ids : List Int64} {criteria : Criteria ι}
    (hname : '.' ∉ field.toList) (h : dao.membershipCriteria k field ids = .ok criteria) :
    ∃ column, (dao.model.schema k).columnName field = .ok column ∧ criteria.root = k ∧
      criteria.selection dao.model.schema = .among (dao.model.schema k).table column ids := by
  have hids : ids ≠ [] := by
    rintro rfl
    cases h
  rw [membershipCriteria_eq hname hids] at h
  cases hcolumn : (dao.model.schema k).columnName field <;> rw [hcolumn] at h
  · cases h
  · obtain rfl := Except.ok.inj h
    exact ⟨_, rfl, rfl, rfl⟩

/-- The statement that reads the identities of such rows. -/
theorem selectIds_ok {criteria : Criteria ι} {select : Statement}
    (h : dao.selectIds criteria = .ok select) :
    ∃ identity, (dao.model.schema criteria.root).identityField = .ok identity ∧
      select = .project (criteria.selection dao.model.schema)
        [.column ⟨.main, identity.column⟩] := by
  obtain ⟨identity, hidentity, hselect⟩ := Result.bind_eq_ok.mp h
  exact ⟨identity, hidentity, (Except.ok.inj hselect).symm⟩

/-- The dependents of a type are its links to others. -/
theorem mem_dependentLinks [DecidableEq ι] {schema : Schema ι} {k d : ι} {field : String} :
    (d, field) ∈ dependentLinks schema k ↔ schema.Links k d field := by
  simp only [dependentLinks, Declaration.relationsTo, Schema.Links, List.mem_flatMap,
    List.mem_map, List.mem_filter, decide_eq_true_eq, Prod.mk.injEq]
  constructor
  · rintro ⟨_, hd, r, ⟨hr, htarget⟩, rfl, hfield⟩
    exact ⟨hd, r, hr, htarget, hfield⟩
  · rintro ⟨hd, r, hr, htarget, hfield⟩
    exact ⟨d, hd, r, ⟨hr, htarget⟩, rfl, hfield⟩

/-- The links of a type, and what points by them at some of its rows. -/
theorem exists_link_iff [DecidableEq ι] {schema : Schema ι} {k d : ι} {ids : List Int64}
    {t : TableRow} :
    (∃ link ∈ dependentLinks schema k, schema.PointingBy link.1 link.2 ids d t)
      ↔ schema.Pointing k ids d t := by
  constructor
  · rintro ⟨⟨other, field⟩, hlink, hpointing⟩
    exact ⟨other, field, mem_dependentLinks.mp hlink, hpointing⟩
  · rintro ⟨other, field, hlink, hpointing⟩
    exact ⟨(other, field), mem_dependentLinks.mpr hlink, hpointing⟩

/-- If no join field has a point in its name, neither has one of a
dependent. -/
theorem joinField_plain [DecidableEq ι] {schema : Schema ι}
    (hnames : ∀ k, ∀ relation ∈ (schema k).relations, '.' ∉ relation.joinField.toList) {k : ι}
    {link : ι × String} (hlink : link ∈ dependentLinks schema k) : '.' ∉ link.2.toList := by
  obtain ⟨-, relation, hrelation, -, hfield⟩ := mem_dependentLinks.mp hlink
  exact hfield ▸ hnames _ relation hrelation

section Purges
variable (r : Relational dao.model.schema dao.db.source)

/-- Work on one link after another. -/
theorem forM_purges (htables : Function.Injective fun k => (dao.model.schema k).table)
    {links : List (ι × String)} {f : ι × String → Work (Session σ) Unit}
    {marked : ι × String → ι → TableRow → Prop}
    (hf : ∀ link ∈ links, ∀ s s', (f link).exec s = (.ok (), s') →
      Purges dao.model.schema (marked link) (r.view s.world) (r.view s'.world))
    {s s' : Session σ} (h : (links.forM f).exec s = (.ok (), s')) :
    Purges dao.model.schema (fun k t => ∃ link ∈ links, marked link k t) (r.view s.world)
      (r.view s'.world) := by
  induction links generalizing s with
  | nil =>
      obtain rfl : s = s' := congrArg Prod.snd h
      exact .nothing (by simp) rfl
  | cons link links ih =>
      obtain ⟨_, t, hfirst, hrest⟩ := Work.exec_bind_eq_ok.mp h
      have hlinks := ih (fun other ho => hf other (by simp [ho])) hrest
      exact ((hf link (by simp) s t hfirst).trans htables hlinks).congr fun k t => by simp

/-- One level of a deletion: the rows that depend on those with some
numbers in a column, and then those rows. -/
theorem level_purges [DecidableEq ι]
    (htables : Function.Injective fun k => (dao.model.schema k).table)
    {k : ι} {column : String} {numbers ids : List Int64} {f : ι × String → Work (Session σ) Unit}
    {s t s' : Session σ} {written : Written}
    (hids : ∀ i, i ∈ ids ↔ ∃ row ∈ (r.view s.world).now (dao.model.schema k).table,
      row.Among column numbers ∧ dao.model.schema.identityOf? k row = some i)
    (hf : ∀ link ∈ dependentLinks dao.model.schema k, ∀ s s',
      (f link).exec s = (.ok (), s') →
        Purges dao.model.schema (dao.model.schema.PointingBy link.1 link.2 ids)
          (r.view s.world) (r.view s'.world))
    (hlinks : ((dependentLinks dao.model.schema k).forM f).exec s = (.ok (), t))
    (hdelete : (dao.db.execute (.delete (.among (dao.model.schema k).table column numbers))).exec t
      = (.ok written, s')) :
    Purges dao.model.schema (Holding k column numbers) (r.view s.world) (r.view s'.world) := by
  exact .last htables hids ((forM_purges r htables hf hlinks).congr fun d row => exists_link_iff)
    (r.execute_ok hdelete)

/-- A row holds one of the numbers in a field's column just if the field
points at one of them. -/
theorem holding_iff_pointingBy {schema : Schema ι} {k : ι} {field column : String}
    (hcolumn : (schema k).columnName field = .ok column) (ids : List Int64) (l : ι)
    (t : TableRow) : Holding k column ids l t ↔ schema.PointingBy k field ids l t := by
  have hpointer : schema.pointerOf? k field t = (t column).number? := by
    rw [Schema.pointerOf?, hcolumn]
    rfl
  rw [Holding, TableRow.Among, Schema.PointingBy, hpointer]

omit r in
/-- A deletion of dependents without parents does nothing. Any other one
that succeeds reads the rows that point at the parents, deletes what
depends on those, and then those. -/
theorem deleteDependents_ok [DecidableEq ι] {depth : Nat} {k : ι} {field : String}
    {parents : List Int64} {s s' : Session σ} (hname : '.' ∉ field.toList)
    (h : (dao.deleteDependents depth k field parents).exec s = (.ok (), s')) :
    (parents = [] ∧ s' = s) ∨
    ∃ n column identity ids s₁ s₂ written, depth = n + 1 ∧
      (dao.model.schema k).columnName field = .ok column ∧
      (dao.model.schema k).identityField = .ok identity ∧
      (dao.fetchIds (.project (.among (dao.model.schema k).table column parents)
        [.column ⟨.main, identity.column⟩])).exec s = (.ok ids, s₁) ∧
      ((dependentLinks dao.model.schema k).forM fun link =>
        dao.deleteDependents n link.1 link.2 ids).exec s₁ = (.ok (), s₂) ∧
      (dao.db.execute (.delete (.among (dao.model.schema k).table column parents))).exec s₂
        = (.ok written, s') := by
  unfold deleteDependents at h
  split at h
  · rename_i hnone
    exact Or.inl ⟨List.isEmpty_iff.mp hnone, (congrArg Prod.snd h).symm⟩
  cases depth with
  -- With no level left the deletion fails.
  | zero => cases h
  | succ n =>
      obtain ⟨criteria, hcriteria, h⟩ := Work.exec_ofResult_bind_eq_ok.mp h
      obtain ⟨select, hselect, h⟩ := Work.exec_ofResult_bind_eq_ok.mp h
      obtain ⟨ids, s₁, hfetch, h⟩ := Work.exec_bind_eq_ok.mp h
      obtain ⟨_, s₂, hlinks, h⟩ := Work.exec_bind_eq_ok.mp h
      obtain ⟨written, s₃, hdelete, h⟩ := Work.exec_bind_eq_ok.mp h
      obtain rfl : s₃ = s' := congrArg Prod.snd h
      -- Both statements speak of the rows among the parents' numbers.
      obtain ⟨column, hcolumn, rfl, hselection⟩ := membershipCriteria_ok hname hcriteria
      obtain ⟨identity, hidentity, rfl⟩ := selectIds_ok hselect
      rw [hselection] at hfetch
      rw [Criteria.delete, hselection] at hdelete
      exact Or.inr ⟨n, column, identity, ids, s₁, s₂, written, rfl, hcolumn, hidentity, hfetch,
        hlinks, hdelete⟩

/-- The rows that point at some identities are deleted with all that
depends on them. -/
theorem deleteDependents_purges [DecidableEq ι]
    (htables : Function.Injective fun k => (dao.model.schema k).table)
    (hnames : ∀ k, ∀ relation ∈ (dao.model.schema k).relations, '.' ∉ relation.joinField.toList)
    {depth : Nat} {k : ι} {field : String} {parents : List Int64} {s s' : Session σ}
    (hname : '.' ∉ field.toList)
    (h : (dao.deleteDependents depth k field parents).exec s = (.ok (), s')) :
    Purges dao.model.schema (dao.model.schema.PointingBy k field parents) (r.view s.world)
      (r.view s'.world) := by
  induction depth generalizing k field parents s s' with
  | zero =>
      obtain ⟨rfl, rfl⟩ | ⟨n, _, _, _, _, _, _, hdepth, -⟩ := deleteDependents_ok hname h
      · exact .nothing (by simp [Schema.PointingBy]) rfl
      · cases hdepth
  | succ depth ih =>
      obtain ⟨rfl, rfl⟩ | ⟨n, column, identity, ids, s₁, s₂, written, hdepth, hcolumn, hidentity,
        hfetch, hlinks, hdelete⟩ := deleteDependents_ok hname h
      · exact .nothing (by simp [Schema.PointingBy]) rfl
      obtain rfl := Nat.succ.inj hdepth
      obtain ⟨hsame, hids⟩ := Relational.fetchIds_among r hidentity hfetch
      rw [← hsame] at hids
      -- What depends on the rows that were read is deleted one type less deep.
      have hlevel := level_purges r htables hids
        (fun link hlink s s' hrun => ih (joinField_plain hnames hlink) hrun) hlinks hdelete
      rw [hsame] at hlevel
      exact hlevel.congr (holding_iff_pointingBy hcolumn parents)

omit r in
/-- A deletion of no roots does nothing. Any other one that succeeds deletes
what depends on the roots and then those, and returns how many rows its last
statement deleted. -/
theorem deleteRoots_ok [DecidableEq ι] {ids : List Int64} {s s' : Session σ} {n : UInt64}
    (hvalid : dao.declaration.validate = .ok ())
    (hname : ∀ identity, dao.declaration.identityField = .ok identity →
      '.' ∉ identity.name.toList)
    (h : (dao.deleteRoots ids).exec s = (.ok n, s')) :
    (ids = [] ∧ n = 0 ∧ s' = s) ∨
    ∃ identity t written, (dao.model.schema dao.kind).identityField = .ok identity ∧
      ((dependentLinks dao.model.schema dao.kind).forM fun link =>
        dao.deleteDependents dao.db.settings.joinMaxDepth link.1 link.2 ids).exec s
          = (.ok (), t) ∧
      (dao.db.execute (.delete (.among (dao.model.schema dao.kind).table identity.column
        ids))).exec t = (.ok written, s') ∧
      n = written.rows := by
  unfold deleteRoots at h
  split at h
  · rename_i hnone
    cases h
    exact .inl ⟨List.isEmpty_iff.mp hnone, rfl, rfl⟩
  obtain ⟨_, t, hlinks, h⟩ := Work.exec_bind_eq_ok.mp h
  obtain ⟨identity, hfield, h⟩ := Work.exec_ofResult_bind_eq_ok.mp h
  obtain ⟨roots, hmembership, h⟩ := Work.exec_ofResult_bind_eq_ok.mp h
  obtain ⟨written, u, hdelete, h⟩ := Work.exec_bind_eq_ok.mp h
  cases h
  obtain ⟨column, hcolumn, -, hselection⟩ :=
    membershipCriteria_ok (hname identity hfield) hmembership
  -- The identity is found again by its name.
  obtain rfl : identity.column = column :=
    Except.ok.inj ((Declaration.columnName_identity hvalid hfield).symm.trans hcolumn)
  rw [Criteria.delete, hselection] at hdelete
  exact .inr ⟨identity, t, written, hfield, hlinks, hdelete, rfl⟩

/-- The rows with some identities are deleted with all that depends on
them. -/
theorem deleteCascadeRows_purges [DecidableEq ι]
    (htables : Function.Injective fun k => (dao.model.schema k).table)
    (hvalid : dao.declaration.validate = .ok ())
    (hnames : ∀ k, ∀ relation ∈ (dao.model.schema k).relations, '.' ∉ relation.joinField.toList)
    (hidentity : ∀ identity, dao.declaration.identityField = .ok identity →
      '.' ∉ identity.name.toList)
    {select : Statement} {ids : List Int64} {s s' : Session σ} {n : UInt64}
    (hroots : r.Reads (r.view s.world) select dao.kind ids)
    (h : (dao.deleteCascadeRows select).exec s = (.ok n, s')) :
    Purges dao.model.schema (dao.model.schema.Identified dao.kind ids) (r.view s.world)
      (r.view s'.world) := by
  obtain ⟨found, s₁, hfetch, h⟩ := Work.exec_bind_eq_ok.mp h
  obtain ⟨c, rows, hrun, hfound⟩ := Relational.fetchIds_ok hfetch
  obtain ⟨hsame, hread⟩ := hroots.read rfl hrun
  obtain rfl : found = ids :=
    (List.map_inj_right fun _ _ => Option.some.inj).mp (hfound.symm.trans hread)
  obtain ⟨rfl, -, rfl⟩ | ⟨identity, s₂, written, hfield, hlinks, hdelete, -⟩ :=
    deleteRoots_ok hvalid hidentity h
  · exact .nothing (by simp [Schema.Identified]) hsame
  -- The identity of a row is read in the column of the identity field.
  have hid : ∀ t : TableRow, dao.model.schema.identityOf? dao.kind t
      = (t identity.column).number? := by
    intro t
    rw [Schema.identityOf?, hfield]
    rfl
  have hids : ∀ i, i ∈ found ↔ ∃ t ∈ (r.view s₁.world).now (dao.model.schema dao.kind).table,
      t.Among identity.column found ∧ dao.model.schema.identityOf? dao.kind t = some i := by
    intro i
    constructor
    · intro hi
      obtain ⟨t, ht, hti⟩ := hroots.found i hi
      rw [hsame]
      exact ⟨t, ht, ⟨i, hi, (hid t).symm.trans hti⟩, hti⟩
    · rintro ⟨t, -, ⟨j, hj, hnumber⟩, hti⟩
      rw [hid, hnumber] at hti
      exact Option.some.inj hti ▸ hj
  -- Below the roots it is a level as any other.
  have hlevel := level_purges r htables hids
    (fun link hlink s s' hrun =>
      deleteDependents_purges r htables hnames (joinField_plain hnames hlink) hrun)
    hlinks hdelete
  rw [hsame] at hlevel
  exact hlevel.congr fun l t => by rw [Holding, TableRow.Among, Schema.Identified, hid]

/-- The work of a deletion between its hooks, which change nothing. -/
theorem deleting_ok (hbefore : ∀ criteria, Work.Leads r.Same (dao.hooks.beforeDelete criteria))
    (hafter : ∀ criteria success, Work.Leads r.Same (dao.hooks.afterDelete criteria success))
    {c : Criteria ι} {w : Work (Session σ) UInt64} {s s' : Session σ} {n : UInt64}
    (h : (dao.deleting c w).exec s = (.ok n, s')) :
    ∃ t t', r.Same s t ∧ w.exec t = (.ok n, t') ∧ r.Same t' s' := by
  obtain ⟨s₁, s₄, hopen, hwork, hclose⟩ := r.transaction_ok h
  obtain ⟨_, t, hfirst, hwork⟩ := Work.exec_bind_eq_ok.mp (Work.exec_mapError_eq_ok.mp hwork)
  obtain ⟨t', hrun, hlast⟩ := Work.exec_concluding_eq_ok hwork
  exact ⟨t, t', r.same_trans s s₁ t hopen (hbefore c s₁ () t hfirst), hrun,
    r.same_trans t' s₄ s' (hafter c true t' () s₄ hlast) hclose⟩

end Purges

end Dao

/-- The rows of a type with the given identities are deleted with all that
depends on them, and nothing else is; a row that is there in a store in
between points at nothing only if it did so at the start. -/
structure Cascades (schema : Schema ι) (k : ι) (ids : List Int64) (h h' : History) : Prop where
  /-- The rows that are left are those that do not go with the roots. -/
  purged : h'.now = h.now.purge schema (schema.Identified k ids)
  left : ∀ l t, t ∈ h'.now (schema l).table ↔
    t ∈ h.now (schema l).table ∧ ¬ Doomed schema h.now (schema.Identified k ids) l t
  /-- Tables of no entity type are left alone. -/
  other : ∀ name, (∀ l, (schema l).table ≠ name) → h'.now name = h.now name
  anchored : ∃ steps, h'.steps = h.steps ++ steps ∧
    (∀ st ∈ steps, ∀ l d field, ∀ t ∈ st (schema d).table,
      Dangling schema st l d field t → Dangling schema h.now l d field t) ∧
    (Anchored schema h.now → ∀ st ∈ steps, Anchored schema st)

/-- A purge of the rows with some identities is a cascade from them. -/
theorem Purges.cascades {schema : Schema ι} {k : ι} {ids : List Int64} {h h' : History}
    (htables : Function.Injective fun k => (schema k).table)
    (hpurges : Purges schema (schema.Identified k ids) h h') : Cascades schema k ids h h' where
  purged := hpurges.1
  left l t := by rw [hpurges.1, Store.mem_purge htables]
  other name hname := by rw [hpurges.1, Store.purge_other hname]
  anchored := by
    obtain ⟨-, steps, hsteps, hpurged⟩ := hpurges
    have hbefore : ∀ st ∈ steps, ∀ l d field, ∀ t ∈ st (schema d).table,
        Dangling schema st l d field t → Dangling schema h.now l d field t := by
      intro st hst l d field t ht hdangling
      obtain ⟨marked, rfl⟩ := hpurged st hst
      exact Store.dangling_purge htables ht hdangling
    refine ⟨steps, hsteps, hbefore, fun hanchored st hst => anchored_iff.mpr ?_⟩
    -- A row that dangles in between is still one of the start, where none does.
    intro l d field t ht hdangling
    obtain ⟨marked, rfl⟩ := hpurged st hst
    exact anchored_iff.mp hanchored l d field t (Store.purge_subset _ ht)
      (Store.dangling_purge htables ht hdangling)

/-- A cascading delete that succeeds has deleted the roots and all that
depends on them, in a database whose fields have no points in their
names. -/
theorem Dao.deleteCascadeByCriteria_cascades [DecidableEq ι] (dao : Dao σ ι ε)
    (r : Relational dao.model.schema dao.db.source)
    (htables : Function.Injective fun k => (dao.model.schema k).table)
    (hvalid : ∀ k, (dao.model.schema k).validate = .ok ())
    (hnames : ∀ k, ∀ relation ∈ (dao.model.schema k).relations, '.' ∉ relation.joinField.toList)
    (hidentity : ∀ identity, dao.declaration.identityField = .ok identity →
      '.' ∉ identity.name.toList)
    (hbefore : ∀ criteria, Work.Leads r.Same (dao.hooks.beforeDelete criteria))
    (hafter : ∀ criteria success, Work.Leads r.Same (dao.hooks.afterDelete criteria success))
    {criteria criteria' : Criteria ι} {select : Statement} {ids : List Int64} {s s' : Session σ}
    {n : UInt64} (hselect : dao.selectIds criteria.suspendLimits = .ok select)
    (hroots : r.Reads (r.view s.world) select dao.kind ids)
    (hrun : dao.deleteCascadeByCriteria.exec (criteria, s) = (.ok n, criteria', s')) :
    Cascades dao.model.schema dao.kind ids (r.view s.world) (r.view s'.world) := by
  -- The statement that reads the roots is made before the transaction begins.
  obtain ⟨statement, ⟨c, t⟩, hstatement, hrun⟩ := Work.exec_bind_eq_ok.mp hrun
  have hmade : statement = .ok select :=
    (Except.ok.inj (congrArg Prod.fst hstatement)).symm.trans hselect
  obtain rfl : s = t := congrArg (fun outcome => outcome.2.2) hstatement
  obtain ⟨_, hselected, hrun⟩ := Work.exec_ofResult_bind_eq_ok.mp hrun
  obtain rfl := Except.ok.inj (hmade.symm.trans hselected)
  rw [Work.exec_get_bind] at hrun
  have hdeleting : (dao.deleting c (dao.deleteCascadeRows select)).exec s = (.ok n, s') := by
    simp only [Database.onSession, Work.exec_within, Prod.mk.injEq] at hrun
    exact Prod.ext hrun.1 hrun.2.2
  obtain ⟨t, t', hstart, hrows, hend⟩ := deleting_ok r hbefore hafter hdeleting
  have hstart : r.view t.world = r.view s.world := hstart
  have hend : r.view s'.world = r.view t'.world := hend
  rw [← hstart] at hroots
  have hpurges := deleteCascadeRows_purges r htables (hvalid dao.kind) hnames hidentity hroots hrows
  rw [hstart, ← hend] at hpurges
  exact hpurges.cascades htables

/-! ### A league -/

/-- The entity types of a league. -/
inductive League where
  | team
  | player
  | manager
  deriving DecidableEq

namespace League

/-- A league of teams, players and managers. Players depend on their team
and on their captain, who is a player; the field that points at the team
has the given name. -/
def schema (teamField : String) : Schema League
  | .team => {
    typeName := "Team"
    table := "team"
    fields := [⟨"id", "id", .bigInt, true⟩]
    relations := []
    dependents := [.player] }
  | .player => {
    typeName := "Player"
    table := "player"
    fields := [⟨"id", "id", .bigInt, true⟩, ⟨teamField, "team_id", .bigInt, false⟩,
      ⟨"captain_id", "captain_id", .bigInt, false⟩, ⟨"boss_id", "boss_id", .bigInt, false⟩]
    relations := [⟨"team", teamField, .team⟩, ⟨"captain", "captain_id", .player⟩,
      ⟨"boss", "boss_id", .manager⟩]
    dependents := [.player] }
  | .manager => {
    typeName := "Manager"
    table := "manager"
    fields := [⟨"id", "id", .bigInt, true⟩]
    relations := []
    dependents := [] }

/-- A player. -/
def playerRow (id team : Int64) (captain boss : Value) : TableRow
  | "id" => .int64 id
  | "team_id" => .int64 team
  | "captain_id" => captain
  | "boss_id" => boss
  | _ => .null

/-- A row that is only an identity. -/
def idRow (id : Int64) : TableRow
  | "id" => .int64 id
  | _ => .null

/-- Two teams; the captain of the second team plays for the first one. -/
def store : Store
  | "team" => [idRow 1, idRow 2]
  | "player" => [playerRow 5 1 .null .null, playerRow 6 2 (.int64 5) .null,
      playerRow 7 2 .null (.int64 1)]
  | "manager" => [idRow 1]
  | _ => []

/-- Access to the teams of a league. -/
def dao (teamField : String) : Dao History League (Record League) where
  db := .of History.source
  model := Record.model fun k => ⟨schema teamField k, [], []⟩
  kind := .team

/-- A criteria for the first team. -/
def firstTeam : Criteria League :=
  Criteria.run (schema "") (.new .team) [.filter .and "id" .membership (.array [.int64 1])]

/-- The first team is deleted with all that depends on it. -/
def deletion (teamField : String) : Result UInt64 × Criteria League × Session History :=
  (dao teamField).deleteCascadeByCriteria.exec (firstTeam, .start ⟨store, []⟩)

/-- Every type is valid, whatever the name of the field is, if no other
field has it. -/
theorem valid (k : League) : (schema "team_id" k).validate = .ok () ∧
    (schema "boss.id" k).validate = .ok () := by
  cases k <;> exact ⟨rfl, rfl⟩

/-- The types of the league have a table each. -/
theorem tables (teamField : String) :
    Function.Injective fun k => (schema teamField k).table := by
  intro k l h
  cases k <;> cases l <;> simp_all [schema]

/-- The statement that reads the teams to delete. -/
theorem selectIds_firstTeam (teamField : String) :
    (dao teamField).selectIds firstTeam.suspendLimits
      = .ok (.project (.among "team" "id" [1]) [.column ⟨.main, "id"⟩]) := by
  rfl

/-- It reads the number of the first team, and changes nothing. -/
theorem reads_firstTeam (teamField : String) :
    (History.relational (schema teamField)).Reads ⟨store, []⟩
      (.project (.among "team" "id" [1]) [.column ⟨.main, "id"⟩]) .team [1] where
  read hw h := by
    subst hw
    obtain ⟨hrows, rfl⟩ := Prod.mk.inj h
    obtain rfl := Except.ok.inj hrows
    exact ⟨rfl, by decide +kernel⟩
  found i hi := by
    obtain rfl := List.mem_singleton.mp hi
    exact ⟨idRow 1, by simp [store, schema], rfl⟩

end League

/-- The player of the first team goes, and the one whose captain that
was; the third one stays. -/
theorem Dao.deleteCascadeByCriteria_cascades_league :
    let after := (League.deletion "team_id").2.2.world
    Cascades (League.schema "team_id") .team [1] ⟨League.store, []⟩ after ∧
      (League.deletion "team_id").1.toOption = some 1 ∧
      (after.now "player").map (fun t => (t "id").number?) = [some 7] := by
  intro after
  have hok : (League.deletion "team_id").1.toOption = some 1 := by decide +kernel
  refine ⟨?_, hok, by decide +kernel⟩
  obtain ⟨n, hn⟩ : ∃ n, (League.deletion "team_id").1 = .ok n := by
    rcases hresult : (League.deletion "team_id").1 with e | n
    · rw [hresult] at hok
      cases hok
    · exact ⟨n, rfl⟩
  have hrun : (League.dao "team_id").deleteCascadeByCriteria.exec
      (League.firstTeam, .start ⟨League.store, []⟩)
      = (.ok n, (League.deletion "team_id").2.1, (League.deletion "team_id").2.2) :=
    Prod.ext hn rfl
  have hstill : ∀ s, (History.relational (League.schema "team_id")).Same s s := fun _ => rfl
  -- The hooks are not used, so they change no world.
  refine Dao.deleteCascadeByCriteria_cascades (League.dao "team_id")
    (History.relational (League.schema "team_id")) (League.tables "team_id")
    (fun k => (League.valid k).1) (by intro k; cases k <;> decide)
    (by intro identity h; cases h; decide) (fun _ => Work.leads_pure hstill ())
    (fun _ _ => Work.leads_pure hstill ()) (League.selectIds_firstTeam "team_id") ?_
    hrun
  exact League.reads_firstTeam "team_id"

/-- A field whose name is written like a path: the players that are
deleted with the first team are those whose boss has its number, and the
player of that team stays without a team. -/
theorem Dao.deleteCascadeByCriteria_pointed_name :
    (∀ k, (League.schema "boss.id" k).validate = .ok ()) ∧
      (League.deletion "boss.id").1.toOption = some 1 ∧
      ¬ Cascades (League.schema "boss.id") .team [1] ⟨League.store, []⟩
        (League.deletion "boss.id").2.2.world := by
  refine ⟨fun k => (League.valid k).2, by decide +kernel, fun h => ?_⟩
  have hleft : ((League.deletion "boss.id").2.2.world.now "player").map
      (fun t => (t "id").number?) = [some 5, some 6] := by decide +kernel
  obtain ⟨t, ht, hid⟩ : ∃ t ∈ (League.deletion "boss.id").2.2.world.now "player",
      (t "id").number? = some 5 := by
    rw [← List.mem_map, hleft]
    decide
  obtain ⟨hmem, hkept⟩ := (h.left .player t).mp ht
  -- The only player of that number is the one that goes with the first team.
  have hplayer : t = League.playerRow 5 1 .null .null := by
    simp only [League.schema, League.store, List.mem_cons, List.not_mem_nil, or_false] at hmem
    rcases hmem with rfl | rfl | rfl
    · rfl
    · exact absurd hid (by decide)
    · exact absurd hid (by decide)
  have hteam : Doomed (League.schema "boss.id") League.store
      ((League.schema "boss.id").Identified .team [1]) .team (League.idRow 1) :=
    .marked (by simp [League.schema, League.store]) ⟨rfl, 1, by simp, rfl⟩
  have hlink : (League.schema "boss.id").Links .team .player "boss.id" :=
    ⟨by simp [League.schema], _, List.mem_cons_self, rfl, rfl⟩
  refine hkept (.dependent hteam hlink hmem rfl ?_)
  rw [hplayer]
  rfl

end DataAccess
