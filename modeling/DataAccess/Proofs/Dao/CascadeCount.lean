import DataAccess.Proofs.Dao.CascadeCycles

/-!
# `DataAccess.Proofs.Dao.CascadeCount`: the number that a cascade returns

A cascading delete returns how many rows its last statement deleted. That
is the one for the roots; but when it is sent, rows that depend on a root
are gone already, and a root may be one of these. So the roots that depend
on other roots, directly or through rows of any types, are deleted and not
counted.

* `Tallying`: a source that knows which rows a selection means, and counts
  the rows that it deletes.
* `Schema.DependsOnOne`: a row depends on one of some rows. These are the
  rows that go before them (`doomed_pointing_iff`).
* `CascadeCount`: what the number says. It is that of the roots if and
  only if none of them depends on another one.

`Dao.deleteCascadeByCriteria_counts` is the principal theorem, and
`League.deletion_counts_less` a deletion of two rows that returns one.
-/

set_option autoImplicit false

namespace DataAccess

variable {σ ι ε : Type}

/-! ### Rows that depend on one of some rows -/

/-- How many rows of a table have `P`. -/
noncomputable def Store.tally (st : Store) (table : String) (P : TableRow → Prop) : UInt64 :=
  open Classical in
  UInt64.ofNat ((st table).countP fun t => P t)

namespace Store

variable {st : Store} {table : String} {P Q : TableRow → Prop}

/-- The tally counts the rows that meet a condition. -/
theorem tally_eq_countP [DecidablePred P] :
    st.tally table P = UInt64.ofNat ((st table).countP fun t => P t) :=
  congrArg UInt64.ofNat (List.countP_congr fun t _ => by simp)

/-- Conditions that agree on the rows have one tally. -/
theorem tally_congr (h : ∀ t ∈ st table, P t ↔ Q t) : st.tally table P = st.tally table Q := by
  classical
  rw [tally_eq_countP, tally_eq_countP]
  exact congrArg UInt64.ofNat (List.countP_congr fun t ht => by simpa using h t ht)

/-- Of the rows that are left by a purge, those with `P` are counted that do
not go with the marked ones. -/
theorem tally_purge {schema : Schema ι} (htables : Function.Injective fun k => (schema k).table)
    {marked : ι → TableRow → Prop} {k : ι} :
    (st.purge schema marked).tally (schema k).table P
      = st.tally (schema k).table fun t => P t ∧ ¬ Doomed schema st marked k t := by
  classical
  rw [tally_eq_countP, tally_eq_countP, purge, List.countP_filter]
  refine congrArg UInt64.ofNat (List.countP_congr fun t _ => ?_)
  rw [Bool.and_eq_true, decide_eq_true_eq, decide_eq_true_eq, decide_eq_true_eq,
    kept_table htables]

/-- A deletion leaves the rows of its table that it is not about. -/
theorem mem_without {column : String} {numbers : List Int64} {t : TableRow} :
    t ∈ st.without table column numbers table ↔ t ∈ st table ∧ ¬ t.Among column numbers := by
  rw [without, if_pos rfl, List.mem_filter, decide_eq_true_eq]

end Store

namespace Schema

/-- The row of the type `k` depends on one of some rows of this type,
directly or through others. -/
def DependsOnOne (schema : Schema ι) (st : Store) (k : ι) (rows : List TableRow)
    (t : TableRow) : Prop :=
  ∃ m ∈ rows, Relation.TransGen (schema.Depends st) (k, m) (k, t)

/-- Those of some rows of the type `k` that depend on none of them. -/
noncomputable def independent (schema : Schema ι) (st : Store) (k : ι) (rows : List TableRow) :
    List TableRow :=
  open Classical in
  rows.filter fun t => ¬ schema.DependsOnOne st k rows t

end Schema

section Dependent
variable {schema : Schema ι} {st : Store} {k : ι} {rows : List TableRow} {ids : List Int64}

/-- What goes is in the store. -/
theorem Doomed.mem {marked : ι → TableRow → Prop} {l : ι} {t : TableRow}
    (h : Doomed schema st marked l t) : t ∈ st (schema l).table := by
  cases h with
  | marked hmem _ => exact hmem
  | dependent _ _ hmem _ _ => exact hmem

/-- A number is one of some identities if it is that of one of the rows. -/
theorem exists_identity_iff (hids : ids.map some = rows.map (schema.identityOf? k))
    {number : Option Int64} :
    (∃ i ∈ ids, number = some i) ↔ ∃ m ∈ rows, number = schema.identityOf? k m := by
  have hmem : number ∈ ids.map some ↔ number ∈ rows.map (schema.identityOf? k) := by rw [hids]
  simpa only [List.mem_map, eq_comm] using hmem

/-- The rows that go with those that point at some rows are those that
depend on one of them, if only through others. -/
theorem doomed_pointing_iff (hrows : rows ⊆ st (schema k).table)
    (hids : ids.map some = rows.map (schema.identityOf? k)) {l : ι} {t : TableRow} :
    Doomed schema st (schema.Pointing k ids) l t
      ↔ ∃ m ∈ rows, Relation.TransGen (schema.Depends st) (k, m) (l, t) := by
  constructor
  · intro h
    induction h with
    | @marked l t hmem hm =>
        obtain ⟨d, field, hlink, rfl, hpointing⟩ := hm
        obtain ⟨m, hm, hid⟩ := (exists_identity_iff hids).mp hpointing
        obtain ⟨i, -, hpointer⟩ := hpointing
        exact ⟨m, hm, .single
          ⟨hrows hm, hmem, field, i, hlink, hid.symm.trans hpointer, hpointer⟩⟩
    | dependent hparent hlink hmem hid hpointer ih =>
        obtain ⟨m, hm, hpath⟩ := ih
        exact ⟨m, hm, hpath.tail ⟨hparent.mem, hmem, _, _, hlink, hid, hpointer⟩⟩
  · rintro ⟨m, hm, hpath⟩
    -- One step after another, from the row that is pointed at.
    have hgoes (row : ι × TableRow) (h : Relation.TransGen (schema.Depends st) (k, m) row) :
        Doomed schema st (schema.Pointing k ids) row.1 row.2 := by
      induction h with
      | single hstep =>
          obtain ⟨-, hmem, field, i, hlink, hid, hpointer⟩ := hstep
          have hpointing := (exists_identity_iff hids).mpr ⟨m, hm, hpointer.trans hid.symm⟩
          exact .marked hmem ⟨_, field, hlink, rfl, hpointing⟩
      | tail _ hstep ih =>
          obtain ⟨-, hmem, field, i, hlink, hid, hpointer⟩ := hstep
          exact .dependent ih hlink hmem hid hpointer
    exact hgoes (l, t) hpath

end Dependent

/-! ### What the number says -/

/-- What the number `n` says of some rows of the type `k` that a cascade has
deleted, given the stores before and after it. -/
structure CascadeCount (schema : Schema ι) (k : ι) (st after : Store) (rows : List TableRow)
    (n : UInt64) : Prop where
  /-- All of the rows are gone. -/
  gone : ∀ t ∈ rows, t ∉ after (schema k).table
  /-- Counted are the rows with their identities that depend on none of
  them. -/
  counted : n = st.tally (schema k).table fun t =>
    (∃ m ∈ rows, schema.identityOf? k t = schema.identityOf? k m) ∧
      ¬ schema.DependsOnOne st k rows t
  /-- If a row is known by its identity, these are some of the rows. -/
  keyed : st.Keyed schema k → n = UInt64.ofNat (schema.independent st k rows).length
  /-- All of the rows are counted if none of them depends on another one,
  and only then. -/
  exact : st.Keyed schema k → rows.length < UInt64.size →
    (n.toNat = rows.length ↔ ∀ t ∈ rows, ¬ schema.DependsOnOne st k rows t)

section Count
variable {schema : Schema ι} {st : Store} {k : ι} {rows : List TableRow}

/-- Rows that are known by their identities are counted by them. -/
theorem Store.Keyed.tally_independent (hkeyed : st.Keyed schema k)
    (hrows : rows.Subperm (st (schema k).table)) :
    st.tally (schema k).table (fun t =>
        (∃ m ∈ rows, schema.identityOf? k t = schema.identityOf? k m) ∧
          ¬ schema.DependsOnOne st k rows t)
      = UInt64.ofNat (schema.independent st k rows).length := by
  classical
  have htable : (st (schema k).table).Nodup := by
    obtain ⟨ids, hids, hmap⟩ := hkeyed
    refine List.Nodup.of_map (schema.identityOf? k) ?_
    rw [hmap]
    exact hids.map fun _ _ => Option.some.inj
  have hnodup : rows.Nodup := by
    obtain ⟨some, hperm, hsublist⟩ := hrows
    exact hperm.nodup_iff.mp (htable.sublist hsublist)
  -- The rows of the table that share an identity with one of the rows are these themselves.
  have hsame : ((st (schema k).table).filter fun t =>
      ∃ m ∈ rows, schema.identityOf? k t = schema.identityOf? k m).Perm rows := by
    refine (List.perm_ext_iff_of_nodup (htable.filter _) hnodup).mpr fun t => ?_
    rw [List.mem_filter, decide_eq_true_eq]
    constructor
    · rintro ⟨ht, m, hm, hid⟩
      exact hkeyed.eq_of_identity ht (hrows.subset hm) hid ▸ hm
    · exact fun ht => ⟨hrows.subset ht, t, ht, rfl⟩
  rw [Store.tally, Schema.independent, List.countP_eq_length_filter,
    ← (hsame.filter _).length_eq, List.filter_filter]
  simp only [Bool.decide_and, Bool.and_comm]

/-- All rows are independent just if none depends on one of them. -/
theorem length_independent_eq_iff :
    (schema.independent st k rows).length = rows.length
      ↔ ∀ t ∈ rows, ¬ schema.DependsOnOne st k rows t := by
  classical
  rw [Schema.independent, List.length_filter_eq_length_iff]
  simp only [decide_eq_true_eq]

/-- What the number says follows from what is counted. -/
theorem CascadeCount.of_counted {after : Store} {n : UInt64}
    (hrows : rows.Subperm (st (schema k).table))
    (hgone : ∀ t ∈ rows, t ∉ after (schema k).table)
    (hcounted : n = st.tally (schema k).table fun t =>
      (∃ m ∈ rows, schema.identityOf? k t = schema.identityOf? k m) ∧
        ¬ schema.DependsOnOne st k rows t) :
    CascadeCount schema k st after rows n where
  gone := hgone
  counted := hcounted
  keyed hkeyed := by rw [hcounted, hkeyed.tally_independent hrows]
  exact hkeyed hsmall := by
    have hle : (schema.independent st k rows).length ≤ rows.length := by
      classical
      exact List.length_filter_le _ _
    -- The number does not wrap around, so that it tells the length.
    rw [hcounted, hkeyed.tally_independent hrows, UInt64.toNat_ofNat_of_lt' (hle.trans_lt hsmall),
      length_independent_eq_iff]

end Count

/-! ### Sources that count -/

/-- A source that keeps rows in tables, and knows which of them a selection
means. It reads these, or with groupings some of them, and counts the rows
that it deletes. -/
structure Tallying (schema : Schema ι) (source : DataSource σ) extends
    Relational schema source where
  /-- A row of a table meets conditions through joins. -/
  means : Store → List JoinedTable → List Condition → TableRow → Bool
  read : ∀ {c dialect selection column rows w w'}, selection.window = .all →
    (source.fetch c ⟨dialect, .project selection [.column ⟨.main, column⟩]⟩).exec w
      = (.ok rows, w') →
    view w' = view w ∧ ∃ shown,
      List.Subperm shown (((view w).now selection.table).filter
        (means (view w).now selection.joins selection.conditions)) ∧
      (selection.groupings = [] → shown.Perm (((view w).now selection.table).filter
        (means (view w).now selection.joins selection.conditions))) ∧
      rows.map Row.number? = shown.map fun t => (t column).number?
  count : ∀ {c dialect k column numbers written w w'},
    (source.execute c ⟨dialect, .delete (.among (schema k).table column numbers)⟩).exec w
      = (.ok written, w') →
    written.rows = (view w).now.tally (schema k).table (·.Among column numbers)

/-- The rows of its type that the conditions and joins of a criteria mean. -/
def Tallying.meant {schema : Schema ι} {source : DataSource σ} (r : Tallying schema source)
    (c : Criteria ι) (st : Store) : List TableRow :=
  (st (schema c.root).table).filter (r.means st (c.joinedTables schema) c.conditions)

namespace Dao

variable {dao : Dao σ ι ε} [DecidableEq ι]

section Roots
variable (hplain : dao.model.schema.Plain) (hvalid : dao.declaration.validate = .ok ())
  (hname : ∀ identity, dao.declaration.identityField = .ok identity →
    '.' ∉ identity.name.toList)

include hplain hvalid hname

/-- The rows with the identities of some roots are deleted, and counted if
they do not go with those that point at the roots. -/
theorem deleteRoots_counts (r : Tallying dao.model.schema dao.db.source) {ids : List Int64}
    {s s' : Session σ} {n : UInt64} (h : (dao.deleteRoots ids).exec s = (.ok n, s')) :
    (∀ t ∈ (r.view s'.world).now dao.declaration.table, ∀ i ∈ ids,
      dao.model.schema.identityOf? dao.kind t ≠ some i) ∧
    n = (r.view s.world).now.tally dao.declaration.table fun t =>
      (∃ i ∈ ids, dao.model.schema.identityOf? dao.kind t = some i) ∧
        ¬ Doomed dao.model.schema (r.view s.world).now
          (dao.model.schema.Pointing dao.kind ids) dao.kind t := by
  obtain ⟨rfl, rfl, rfl⟩ | ⟨identity, u, written, hidentity, hlinks, hdelete, rfl⟩ :=
    deleteRoots_ok hvalid hname h
  · simp [Store.tally]
  -- The rows of the last statement are those with one of the identities.
  have hamong (t : TableRow) : t.Among identity.column ids
      ↔ ∃ i ∈ ids, dao.model.schema.identityOf? dao.kind t = some i := by
    simp only [TableRow.Among, Schema.identityOf?_eq hidentity]
  constructor
  · intro t ht i hi hid
    rw [r.execute_ok hdelete] at ht
    exact (Store.mem_without.mp ht).2 ((hamong t).mpr ⟨i, hi, hid⟩)
  · -- When the roots are deleted, those that depend on a root are gone.
    have hpurges := (forM_purges r.toRelational hplain.tables
      (fun link hlink s s' hrun => deleteDependents_purges r.toRelational hplain.tables
        hplain.names (joinField_plain hplain.names hlink) hrun) hlinks).congr
      (fun d t => exists_link_iff)
    obtain ⟨c, hrun⟩ := Relational.onConnection_ok hdelete
    rw [r.count hrun, hpurges.1, Store.tally_purge hplain.tables]
    exact Store.tally_congr fun t _ => and_congr_left fun _ => hamong t

end Roots

/-- A cascading delete that succeeds has deleted the rows that the criteria
means, or with groupings some of these, and returns how many of them depend
on none of them. -/
theorem deleteCascadeByCriteria_counts (dao : Dao σ ι ε)
    (r : Tallying dao.model.schema dao.db.source) (hplain : dao.model.schema.Plain)
    (hvalid : dao.declaration.validate = .ok ())
    (hname : ∀ identity, dao.declaration.identityField = .ok identity →
      '.' ∉ identity.name.toList)
    (hbefore : ∀ criteria, Work.Leads r.Same (dao.hooks.beforeDelete criteria))
    (hafter : ∀ criteria success, Work.Leads r.Same (dao.hooks.afterDelete criteria success))
    {c c' : Criteria ι} {s s' : Session σ} {n : UInt64} (hroot : c.root = dao.kind)
    (hrun : dao.deleteCascadeByCriteria.exec (c, s) = (.ok n, c', s')) :
    ∃ rows, List.Subperm rows (r.meant c (r.view s.world).now) ∧
      (c.groupings = [] → rows.Perm (r.meant c (r.view s.world).now)) ∧
      CascadeCount dao.model.schema dao.kind (r.view s.world).now (r.view s'.world).now rows n := by
  obtain ⟨identity, hidentity, -⟩ := Result.bind_eq_ok.mp hvalid
  have hfield : (dao.model.schema c.root).identityField = .ok identity := by rwa [hroot]
  rw [deleteCascadeByCriteria_exec hfield] at hrun
  have hdeleting : (dao.deleting c (dao.rootIds c >>= dao.deleteRoots)).exec s = (.ok n, s') :=
    Prod.ext (congrArg (·.1) hrun) (congrArg (·.2.2) hrun)
  obtain ⟨t, t', hopen, hwork, hclose⟩ := deleting_ok r.toRelational hbefore hafter hdeleting
  -- The rows are read first, in the transaction.
  obtain ⟨ids, u, hread, hroots⟩ := Work.exec_bind_eq_ok.mp hwork
  rw [rootIds, selectIds_suspendLimits hfield] at hread
  obtain ⟨connection, shown, hfetch, hids⟩ := Relational.fetchIds_ok hread
  obtain ⟨hsame, rows, hsome, hall, hnumbers⟩ := r.read c.window_suspendLimits hfetch
  have hstart : r.view t.world = r.view s.world := hopen
  rw [hstart] at hsome hall hsame
  have hids : ids.map some = rows.map (dao.model.schema.identityOf? dao.kind) := by
    rw [← hids, hnumbers]
    exact List.map_congr_left fun row _ => (Schema.identityOf?_eq hidentity row).symm
  have hrows : List.Subperm rows ((r.view s.world).now (dao.model.schema dao.kind).table) := by
    rw [← hroot]
    exact hsome.trans List.filter_sublist.subperm
  obtain ⟨hgone, hcount⟩ := deleteRoots_counts hplain hvalid hname r hroots
  rw [hsame] at hcount
  rw [show r.view t'.world = r.view s'.world from hclose.symm] at hgone
  refine ⟨rows, hsome, hall, .of_counted hrows (fun row hrow hleft => ?_) (hcount.trans ?_)⟩
  · obtain ⟨i, hi, hid⟩ := (exists_identity_iff hids).mpr ⟨row, hrow, rfl⟩
    exact hgone row hleft i hi hid
  · exact Store.tally_congr fun row _ =>
      and_congr (exists_identity_iff hids) (not_congr (doomed_pointing_iff hrows.subset hids))

end Dao

/-! ### Players of a league -/

/-- The source that is a store counts the rows that it deletes. -/
def History.tallying (schema : Schema ι) : Tallying schema History.source where
  toRelational := History.relational schema
  means st joins conditions t := conditions.all (·.holds (st.joined joins t))
  read {c dialect selection column rows w w'} _ h := by
    obtain ⟨hrows, rfl⟩ := Prod.mk.inj h
    obtain rfl := Except.ok.inj hrows
    refine ⟨rfl, _, List.Subperm.refl _, fun _ => List.Perm.refl _, ?_⟩
    rw [List.map_map]
    rfl
  count {c dialect k column numbers written w w'} h := by
    obtain ⟨hwritten, -⟩ := Prod.mk.inj h
    obtain rfl := Except.ok.inj hwritten
    rw [Store.tally_eq_countP]
    exact congrArg UInt64.ofNat (List.countP_congr fun t _ => by rw [means_among])

namespace League

/-- Access to the players of a league. -/
def playerDao : Dao History League (Record League) :=
  { dao "team_id" with kind := .player }

/-- A criteria for two players, of whom one is the captain of the other. -/
def captainAndPlayer : Criteria League :=
  Criteria.run (schema "team_id") (.new .player)
    [.filter .and "id" .membership (.array [.int64 5, .int64 6])]

/-- The two of them are deleted. -/
def playerDeletion : Result UInt64 × Criteria League × Session History :=
  playerDao.deleteCascadeByCriteria.exec (captainAndPlayer, .start ⟨store, []⟩)

/-- The players that are meant. -/
def meantPlayers : List TableRow :=
  (History.tallying (schema "team_id")).meant captainAndPlayer store

/-- Two players are meant, both of whom are deleted; the one that depends on
the other is not counted. -/
theorem deletion_counts_less :
    meantPlayers.map (fun t => (t "id").number?) = [some 5, some 6] ∧
      (playerDeletion.2.2.world.now "player").map (fun t => (t "id").number?) = [some 7] ∧
      playerDeletion.1.toOption = some 1 := by
  decide +kernel

end League

/-- The number says that one of the two players depends on the other. -/
theorem Dao.deleteCascadeByCriteria_counts_players :
    ∃ rows, rows.Perm League.meantPlayers ∧
      CascadeCount (League.schema "team_id") .player League.store
        League.playerDeletion.2.2.world.now rows 1 ∧
      ∃ t ∈ rows, (League.schema "team_id").DependsOnOne League.store .player rows t := by
  have hok : League.playerDeletion.1.toOption = some 1 := by decide +kernel
  have hresult : League.playerDeletion.1 = .ok 1 := by
    rcases hrun : League.playerDeletion.1 with e | n <;> rw [hrun] at hok
    · cases hok
    · exact congrArg Except.ok (Option.some.inj hok)
  have hstill : ∀ s, (History.tallying (League.schema "team_id")).Same s s := fun _ => rfl
  have hrun : League.playerDao.deleteCascadeByCriteria.exec
      (League.captainAndPlayer, .start ⟨League.store, []⟩)
      = (.ok 1, League.playerDeletion.2.1, League.playerDeletion.2.2) :=
    Prod.ext hresult rfl
  obtain ⟨rows, -, hall, hcount⟩ := deleteCascadeByCriteria_counts League.playerDao
    (History.tallying (League.schema "team_id"))
    ⟨League.tables "team_id", by intro k; cases k <;> decide⟩ (League.valid .player).1
    (by intro identity h; cases h; decide) (fun _ => Work.leads_pure hstill ())
    (fun _ _ => Work.leads_pure hstill ()) rfl hrun
  have hrows : rows.Perm League.meantPlayers := hall rfl
  refine ⟨rows, hrows, hcount, ?_⟩
  have hkeyed : Store.Keyed League.store (League.schema "team_id") .player :=
    ⟨[5, 6, 7], by decide, by decide +kernel⟩
  have hlength : rows.length = 2 := hrows.length_eq.trans (by decide +kernel)
  -- If none depended on the other, two rows would be counted.
  by_contra hnone
  have hsame := (hcount.exact hkeyed (by rw [hlength]; decide)).mpr fun t ht hdepends =>
    hnone ⟨t, ht, hdepends⟩
  rw [hlength] at hsame
  exact absurd hsame (by decide)

end DataAccess
