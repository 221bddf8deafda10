import Mathlib.Data.List.Dedup
import DataAccess.Proofs.Dao.Reads
import DataAccess.Proofs.Dao.Relational
import DataAccess.Proofs.Database.Units

/-!
# `DataAccess.Proofs.Dao.Answering`: sources that answer finds and counts

What finds and counts bring, by the rows of joined tables that meet the
conditions of a selection. `Answering` says of a source that it has such rows in every
state, that reads leave them alone, that a find brings as many rows as there
are, or one of each group (`foundRows`), as far as they are in its window,
and that a count brings one number, or one for each group (`countedRows`).

`Answering.counting_ok` and `Answering.findByCriteria_ok` are what this makes of a count and a
find of a `Dao`.
-/

set_option autoImplicit false

namespace DataAccess

variable {σ ι ε α ρ κ : Type}

/-! ### What is found and counted -/

/-- The values that rows are grouped by. -/
def groupValues (key : ρ → ColumnRef → κ) (groupings : List ColumnRef) (rows : List ρ) :
    List (List κ) :=
  rows.map fun row => groupings.map (key row)

section Groups
variable [DecidableEq κ] (key : ρ → ColumnRef → κ) (groupings : List ColumnRef) (rows : List ρ)

/-- How many rows a find brings: all of them, or one of each group. -/
def foundRows : Nat :=
  if groupings.isEmpty then rows.length else (groupValues key groupings rows).dedup.length

/-- The numbers that a count brings: that of all rows, or those of each
group. -/
def countedRows : List Nat :=
  if groupings.isEmpty then [rows.length]
  else
    let values := groupValues key groupings rows
    values.dedup.map values.count

variable {rows}

/-- No count is larger than the number of rows. -/
theorem le_of_mem_countedRows {n : Nat} (h : n ∈ countedRows key groupings rows) :
    n ≤ rows.length := by
  unfold countedRows at h
  split at h
  · exact (List.mem_singleton.mp h).le
  · obtain ⟨value, -, rfl⟩ := List.mem_map.mp h
    exact List.count_le_length.trans_eq (List.length_map _)

end Groups

/-- How many of `n` rows are in a window. -/
def Window.cut (n : Nat) : Window → Nat
  | .all => n
  | .limit rows => min rows.toNat n
  | .page p => min p.pageSize.toNat (n - p.startIndex.toNat)

/-- The row holds a number, in its first column. -/
def Row.Counts (row : Row) (n : Nat) : Prop :=
  row.first? = some (.int64 (Int64.ofNat n))

/-- The number is read back. -/
theorem Row.Counts.read {row : Row} {n : Nat} (h : row.Counts n) (hn : n < 2 ^ 63) :
    (do (← row.at? 0).as UInt64 : Result UInt64) = .ok (UInt64.ofNat n) := by
  have hvalue : row.at? 0 = .ok (.int64 (Int64.ofNat n)) := by
    rw [Counts, first?, List.head?_eq_getElem?] at h
    rw [at?, h]
  -- A number below `2 ^ 63` is not negative as one of 64 bits.
  have hsign : ¬ Int64.ofNat n < 0 := by
    rw [Int64.lt_iff_toInt_lt, Int64.toInt_ofNat_of_lt hn]
    exact Int.not_lt.mpr (Int.natCast_nonneg n)
  rw [hvalue]
  show (if Int64.ofNat n < 0 then _ else Except.ok (Int64.ofNat n).toUInt64) = _
  rw [if_neg hsign]
  rfl

/-- The source answers finds and counts with the rows `ρ` that selections
match; `κ` is what their columns hold. -/
structure Answering (source : DataSource σ) (ρ κ : Type) [DecidableEq κ] where
  /-- The rows of a table, with those joined to them, that meet
  conditions. -/
  matched : σ → String → List JoinedTable → List Condition → List ρ
  /-- What a column of a row holds. -/
  key : ρ → ColumnRef → κ
  acquire : ∀ w, ∃ c w', source.acquire.exec w = (.ok c, w') ∧ matched w' = matched w
  release : ∀ c w, ∃ w', (source.release c).exec w = (.ok (), w') ∧ matched w' = matched w
  find : ∀ c dialect selection columns w, ∃ rows w',
    (source.fetch c ⟨dialect, .find selection columns⟩).exec w = (.ok rows, w') ∧
      matched w' = matched w ∧
      rows.length = selection.window.cut (foundRows key selection.groupings
        (matched w selection.table selection.joins selection.conditions))
  count : ∀ c dialect selection w, selection.window = .all → ∃ rows w',
    (source.fetch c ⟨dialect, .count selection⟩).exec w = (.ok rows, w') ∧
      matched w' = matched w ∧
      ∃ numbers, List.Forall₂ Row.Counts rows numbers ∧
        numbers.Perm (countedRows key selection.groupings
          (matched w selection.table selection.joins selection.conditions))

/-- Two states have the same rows. -/
def Answering.Same [DecidableEq κ] {source : DataSource σ} (store : Answering source ρ κ)
    (s s' : Session σ) : Prop :=
  store.matched s'.world = store.matched s.world

/-- The hooks of loads leave the rows alone. -/
structure Interceptor.KeepsRows [DecidableEq κ] {source : DataSource σ}
    (hooks : Interceptor σ ι ε) (store : Answering source ρ κ) : Prop where
  beforeLoad : ∀ c, Work.Leads store.Same (hooks.beforeLoad c)
  afterLoad : ∀ c success, Work.Leads store.Same (hooks.afterLoad c success)

/-- Hooks that do nothing do. -/
theorem Interceptor.keepsRows_of_none [DecidableEq κ] {source : DataSource σ}
    (store : Answering source ρ κ) : ({} : Interceptor σ ι ε).KeepsRows store where
  beforeLoad _ := Work.leads_pure (σ := Session σ) (fun _ => (rfl : store.Same _ _)) ()
  afterLoad _ _ := Work.leads_pure (σ := Session σ) (fun _ => (rfl : store.Same _ _)) ()

/-- What is made of a list is as long as the list. -/
theorem Result.length_of_mapM {β : Type} {f : α → Result β} {as : List α} {bs : List β}
    (h : as.mapM f = .ok bs) : bs.length = as.length := by
  induction as generalizing bs with
  | nil =>
      obtain rfl := Except.ok.inj h
      rfl
  | cons a as ih =>
      rw [List.mapM_cons] at h
      obtain ⟨b, -, h⟩ := Result.bind_eq_ok.mp h
      obtain ⟨rest, hrest, h⟩ := Result.bind_eq_ok.mp h
      obtain rfl := Except.ok.inj h
      rw [List.length_cons, List.length_cons, ih hrest]

namespace Answering

variable [DecidableEq κ]

section Session
variable {db : Database σ} {store : Answering db.source ρ κ} {s t : Session σ}

/-- Two steps that each keep the world keep it together. -/
theorem Same.trans {u : Session σ} (h : store.Same s t) (h' : store.Same t u) : store.Same s u :=
  Eq.trans h' h

/-- A unit can be opened, and has a connection. -/
theorem openConnection_ok (store : Answering db.source ρ κ) (s : Session σ) :
    ∃ t, db.openConnection.exec s = (.ok (), t) ∧ store.Same s t ∧
      t.units.connection.isSome = true ∧ 0 < t.units.openCalls := by
  -- A connection that is there is joined, and otherwise one is acquired.
  cases hc : s.units.connection with
  | some c =>
      refine ⟨_, db.openUnit_joins hc none, rfl, ?_, Nat.succ_pos _⟩
      show s.units.connection.isSome = true
      rw [hc]
      rfl
  | none =>
      obtain ⟨c, w, hacquire, hsame⟩ := store.acquire s.world
      exact ⟨_, Database.openUnit_connected hc (Database.connect_acquired hacquire), hsame, rfl,
        Nat.succ_pos _⟩

/-- A unit that is open can be closed. -/
theorem closeConnection_ok (store : Answering db.source ρ κ) (h : 0 < t.units.openCalls) :
    ∃ t', db.closeConnection.exec t = (.ok (), t') ∧ store.Same t t' := by
  -- A nested unit just counts down; the outermost one gives its connection back.
  match hcalls : t.units.openCalls with
  | 0 => rw [hcalls] at h; cases h
  | n + 2 => exact ⟨_, db.closeUnit_nested hcalls none, rfl⟩
  | 1 =>
      cases hc : t.units.connection with
      | none => exact ⟨_, db.closeUnit_vacant hcalls hc none, rfl⟩
      | some c =>
          obtain ⟨w, hrelease, hsame⟩ := store.release c t.world
          refine ⟨⟨{}, w⟩, (db.closeUnit_giveBack hcalls hc none).trans ?_, hsame⟩
          rw [show db.giveBack c t.units.transactional none = db.releaseOf c from rfl,
            Database.exec_releaseOf hrelease]
          rfl

/-- Opening a unit does not change what is stored. -/
theorem openConnection_same : Work.Leads store.Same db.openConnection := by
  intro s _ s' h
  obtain ⟨t, hopen, hsame, -⟩ := store.openConnection_ok s
  obtain rfl := congrArg Prod.snd (hopen.symm.trans h)
  exact hsame

/-- Closing a unit does not change what is stored. -/
theorem closeConnection_same : Work.Leads store.Same db.closeConnection := by
  intro t _ t' h
  rcases Nat.eq_zero_or_pos t.units.openCalls with hcalls | hcalls
  · cases (db.closeUnit_unopened hcalls none).symm.trans h
  · obtain ⟨u, hclose, hsame⟩ := store.closeConnection_ok hcalls
    obtain rfl := congrArg Prod.snd (hclose.symm.trans h)
    exact hsame

/-- Reads that succeed on an open connection and leave the units alone
succeed in a unit of their own. -/
theorem readOnly_ok {w : Work (Session σ) α} {Q : α → Prop}
    (hw : ∀ t, store.Same s t → t.units.connection.isSome = true →
      ∃ a t', w.exec t = (.ok a, t') ∧ t'.units = t.units ∧ store.Same t t' ∧ Q a) :
    ∃ a s', (db.readOnly w).exec s = (.ok a, s') ∧ store.Same s s' ∧ Q a := by
  obtain ⟨t, hopen, hst, hconnection, hcalls⟩ := store.openConnection_ok s
  obtain ⟨a, t', hrun, hunits, htt', ha⟩ := hw t hst hconnection
  -- The reads leave the unit open, so that it can be closed.
  rw [← hunits] at hcalls
  obtain ⟨s', hclose, ht's'⟩ := store.closeConnection_ok hcalls
  refine ⟨a, s', ?_, (hst.trans htt').trans ht's', ha⟩
  rw [Database.readOnly, Work.exec_enclosed_ok hopen, Work.exec_concluding, hrun]
  dsimp only
  rw [hclose]
  rfl

end Session

/-! ### Counts -/

section Reads
variable {dao : Dao σ ι ε} (store : Answering dao.db.source ρ κ) (c : Criteria ι)
  {s t : Session σ}

/-- The rows that a criteria means. -/
def rowsOf (w : σ) : List ρ :=
  store.matched w (dao.model.schema c.root).table (c.joinedTables dao.model.schema) c.conditions

/-- A number that a count with these results may return. -/
def Tells (numbers : List Nat) (total : UInt64) : Prop :=
  total.toNat ∈ numbers ∨ numbers = [] ∧ total = 0

variable {store c}

/-- The count reads the first of the numbers. -/
theorem fetchCount_ok (selection : Selection) (hwindow : selection.window = .all)
    (hsmall : (store.matched s.world selection.table selection.joins
      selection.conditions).length < 2 ^ 63)
    (hconnection : s.units.connection.isSome = true) :
    ∃ total s', (dao.fetchCount (.count selection)).exec s = (.ok total, s') ∧
      s'.units = s.units ∧ store.Same s s' ∧
      Tells (countedRows store.key selection.groupings
        (store.matched s.world selection.table selection.joins selection.conditions)) total := by
  obtain ⟨id, hid⟩ := Option.isSome_iff_exists.mp hconnection
  obtain ⟨rows, w, hfetch, hsame, numbers, hcounts, hperm⟩ :=
    store.count id dao.db.dialect selection s.world hwindow
  have hrun : (dao.db.fetch (.count selection)).exec s = (.ok rows, ⟨s.units, w⟩) := by
    rw [Database.fetch, Work.exec_bind_ok (Database.connection_exec hid), Session.onWorld,
      Work.exec_within, hfetch]
  rw [Dao.fetchCount, Work.exec_bind_ok hrun]
  cases hcounts with
  | nil => exact ⟨0, _, rfl, rfl, hsame, Or.inr ⟨hperm.nil_eq.symm, rfl⟩⟩
  | @cons row n rest numbers hrow _ =>
      -- The groups may come in any order, so the first row is that of some group.
      have hmem : n ∈ countedRows store.key selection.groupings
          (store.matched s.world selection.table selection.joins selection.conditions) :=
        hperm.mem_iff.mp List.mem_cons_self
      have hn : n < 2 ^ 63 := (le_of_mem_countedRows _ _ hmem).trans_lt hsmall
      refine ⟨UInt64.ofNat n, ⟨s.units, w⟩, ?_, rfl, hsame, Or.inl ?_⟩
      · show (Work.ofResult (do (← row.at? 0).as UInt64 : Result UInt64)).exec _ = _
        rw [hrow.read hn]
        rfl
      · rwa [UInt64.toNat_ofNat_of_lt' (hn.trans (by decide))]

/-- A count that is made returns the first of its numbers. -/
theorem counting_ok (hsmall : (store.rowsOf c s.world).length < 2 ^ 63) :
    ∃ total s', (dao.counting c).exec s = (.ok total, s') ∧ store.Same s s' ∧
      Tells (countedRows store.key c.groupings (store.rowsOf c s.world)) total := by
  refine readOnly_ok fun t hst hconnection => ?_
  -- The unit may change the state of the source, but not the rows in it.
  have hrows : store.rowsOf c t.world = store.rowsOf c s.world := by
    rw [rowsOf, rowsOf, show store.matched t.world = _ from hst]
  rw [← hrows] at hsmall ⊢
  obtain ⟨total, t', hrun, hunits, hsame, htells⟩ :=
    fetchCount_ok (c.suspendLimits.selection dao.model.schema) c.window_suspendLimits hsmall
      hconnection
  exact ⟨total, t', Work.exec_mapError_eq_ok.mpr hrun, hunits, hsame, htells⟩

/-! ### Finds -/

/-- The entities that are found are as many as the rows in the window. -/
theorem findByCriteria_ok (hhooks : dao.hooks.KeepsRows store) {items : List ε}
    (h : (dao.findByCriteria c).exec s = (.ok items, t)) :
    store.Same s t ∧
      items.length = c.window.cut (foundRows store.key c.groupings (store.rowsOf c s.world)) := by
  -- The unit, and the hooks in it.
  obtain ⟨_, s₁, hopen, h⟩ := Work.exec_bind_eq_ok.mp h
  obtain ⟨s₄, h, hclose⟩ := Work.exec_concluding_eq_ok h
  obtain ⟨_, s₂, hbefore, h⟩ := Work.exec_bind_eq_ok.mp (Work.exec_mapError_eq_ok.mp h)
  obtain ⟨s₃, h, hafter⟩ := Work.exec_concluding_eq_ok h
  -- The rows, and what is made of them.
  obtain ⟨rows, s₃', hfetch, hmap⟩ := Work.exec_bind_eq_ok.mp h
  obtain ⟨id, hsent⟩ := Relational.onConnection_ok hfetch
  obtain ⟨rows', w, hrun, hrows, hlength⟩ :=
    store.find id dao.db.dialect (c.selection dao.model.schema) (c.projection dao.model.schema)
      s₂.world
  obtain ⟨rfl, rfl⟩ : rows' = rows ∧ w = s₃'.world := by
    simpa only [Prod.mk.injEq, Except.ok.injEq] using hrun.symm.trans hsent
  simp only [Work.exec_ofResult, Prod.mk.injEq] at hmap
  obtain ⟨hitems, rfl⟩ := hmap
  have hfound : store.Same s s₂ :=
    (openConnection_same s _ s₁ hopen).trans (hhooks.beforeLoad c s₁ _ s₂ hbefore)
  have hclosed : store.Same s₃' t :=
    (hhooks.afterLoad c true s₃' _ s₄ hafter).trans (closeConnection_same s₄ _ t hclose)
  refine ⟨(hfound.trans hrows).trans hclosed, ?_⟩
  rw [Result.length_of_mapM hitems, hlength, rowsOf, ← hfound]
  rfl

end Reads

end Answering

/-! ### A store that answers -/

/-- The rows in a window. -/
def Window.rows (rows : List α) : Window → List α
  | .all => rows
  | .limit n => rows.take n.toNat
  | .page p => (rows.drop p.startIndex.toNat).take p.pageSize.toNat

/-- How many rows a window shows depends on how many there are. -/
theorem Window.length_rows (window : Window) (rows : List α) :
    (window.rows rows).length = window.cut rows.length := by
  cases window with
  | all => rfl
  | limit n => exact List.length_take
  | page p => rw [Window.rows, List.length_take, List.length_drop, Window.cut]

/-- The rows, or the first one of each group. -/
def firstRows [DecidableEq κ] (key : ρ → ColumnRef → κ) (groupings : List ColumnRef)
    (rows : List ρ) : List ρ :=
  if groupings.isEmpty then rows
  else (groupValues key groupings rows).dedup.filterMap fun value =>
    rows.find? fun row => groupings.map (key row) = value

/-- One row of each group is shown. -/
theorem length_firstRows [DecidableEq κ] (key : ρ → ColumnRef → κ) (groupings : List ColumnRef)
    (rows : List ρ) : (firstRows key groupings rows).length = foundRows key groupings rows := by
  unfold firstRows foundRows
  split
  · rfl
  · -- A group has a row.
    refine List.filterMap_length_eq_length.mpr fun value hvalue => ?_
    obtain ⟨row, hrow, rfl⟩ := List.mem_map.mp (List.mem_dedup.mp hvalue)
    exact List.find?_isSome.mpr ⟨row, hrow, decide_eq_true rfl⟩

namespace Store

/-- The rows of a table, with those joined to them, that meet conditions. -/
def matched (st : Store) (table : String) (joins : List JoinedTable)
    (conditions : List Condition) : List (List (Alias × TableRow)) :=
  ((st table).map (st.joined joins)).filter fun row => conditions.all (·.holds row)

/-- The value in a column of joined rows. -/
def cell (row : List (Alias × TableRow)) (ref : ColumnRef) : Value :=
  ((row.lookup ref.table).map (· ref.column)).getD .null

/-- The number there, by which the rows are grouped. -/
def cellNumber (row : List (Alias × TableRow)) (ref : ColumnRef) : Option Int64 :=
  (cell row ref).number?

/-- What a find and a count bring. -/
def answer (st : Store) : Statement → Result (List Row)
  | .find s columns =>
    let rows := st.matched s.table s.joins s.conditions
    .ok ((s.window.rows (firstRows cellNumber s.groupings rows)).map fun row =>
      .of (columns.map (·.text)) (columns.map (cell row)))
  | .count s =>
    let rows := st.matched s.table s.joins s.conditions
    .ok ((countedRows cellNumber s.groupings rows).map fun n =>
      .of ["COUNT(1)"] [.int64 (Int64.ofNat n)])
  | _ => .error History.unknown

/-- A source that keeps a store, for reading. It has one connection. -/
def reader : DataSource Store where
  backend := .sqlite
  acquire := return 0
  begin _ _ := return
  commit _ := return
  rollback _ := return
  release _ := return
  execute _ _ := Work.fail History.unknown
  fetch _ command := do Work.ofResult ((← get).answer command.statement)
  close st := st

/-- It answers finds and counts. -/
def answering : Answering reader (List (Alias × TableRow)) (Option Int64) where
  matched := matched
  key := cellNumber
  acquire w := ⟨0, w, rfl, rfl⟩
  release c w := ⟨w, rfl, rfl⟩
  find c dialect selection columns w := by
    refine ⟨_, w, rfl, rfl, ?_⟩
    rw [List.length_map, Window.length_rows, length_firstRows]
  count c dialect selection w hwindow := by
    refine ⟨_, w, rfl, rfl, countedRows cellNumber selection.groupings _, ?_, List.Perm.refl _⟩
    rw [List.forall₂_map_left_iff]
    exact List.forall₂_same.mpr fun n _ => rfl

end Store

end DataAccess
