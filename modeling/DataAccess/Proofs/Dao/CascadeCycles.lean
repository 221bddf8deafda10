import DataAccess.Proofs.Dao.Cascade
import DataAccess.Proofs.Dao.CascadeLevels
import DataAccess.Proofs.Dao.RootRows
import Mathlib.Logic.Relation

/-!
# `DataAccess.Proofs.Dao.CascadeCycles`: rows that depend on each other

Rows that depend on each other in a cycle cannot be deleted by a cascade,
which deletes a row only when all that depend on it are gone. It follows the
cycle until it is too deep. What has to be shown is that nothing else that it
deletes on the way breaks the cycle.

A row from which a cycle is reached (`Schema.ReachesCycle`) has a dependent one
of which this is true as well (`Schema.ReachesCycle.next`). So as long as all
these rows are there, a deletion of dependents either fails or was about none
of them: `Proceeds` says this of a part of a cascade by levels, together with
what it sends, and has a rule for every way in which a cascade is put
together. `proceeds_deleteDependentsAt` goes by induction on the levels that
are left, and `proceeds_deleteCascadeRowsAt` is the cascade itself.
-/

set_option autoImplicit false

namespace DataAccess

variable {σ ι ε α β : Type}

/-! ### Rows that depend on each other -/

namespace Schema

/-- Of two rows with their types the second one depends on the first. -/
def Depends (schema : Schema ι) (st : Store) (parent child : ι × TableRow) : Prop :=
  parent.2 ∈ st (schema parent.1).table ∧ child.2 ∈ st (schema child.1).table ∧
    ∃ field i, schema.Links parent.1 child.1 field ∧
      schema.identityOf? parent.1 parent.2 = some i ∧
      schema.pointerOf? child.1 field child.2 = some i

/-- From a row, through rows that depend on it, one comes to a row that
depends on itself, if only through others. -/
def ReachesCycle (schema : Schema ι) (st : Store) (row : ι × TableRow) : Prop :=
  ∃ again, Relation.ReflTransGen (schema.Depends st) row again ∧
    Relation.TransGen (schema.Depends st) again again

/-- The statement deletes rows of a type by the numbers in a column, and none
of these is a row from which a cycle is reached. -/
def SparesCycles (schema : Schema ι) (st : Store) (statement : Statement) : Prop :=
  ∃ k column numbers, statement = .delete (.among (schema k).table column numbers) ∧
    ∀ t, schema.ReachesCycle st (k, t) → ¬ t.Among column numbers

/-- The types have tables of their own, and no field that a relation is joined
through has a point in its name. -/
structure Plain (schema : Schema ι) : Prop where
  tables : Function.Injective fun k => (schema k).table
  names : ∀ k, ∀ relation ∈ (schema k).relations, '.' ∉ relation.joinField.toList

end Schema

section Cycles
variable {schema : Schema ι} {st : Store} {row : ι × TableRow}

/-- A row from which a cycle is reached has a dependent one of which the same
is true. -/
theorem Schema.ReachesCycle.next (h : schema.ReachesCycle st row) :
    ∃ child, schema.Depends st row child ∧ schema.ReachesCycle st child := by
  obtain ⟨again, hpath, hcycle⟩ := h
  cases Relation.ReflTransGen.cases_head hpath with
  | inl heq =>
      -- The row is on the cycle itself, which is gone round once more.
      subst heq
      obtain ⟨child, hstep, hback⟩ := Relation.TransGen.head'_iff.mp hcycle
      exact ⟨child, hstep, row, hback, hcycle⟩
  | inr hstep =>
      obtain ⟨child, hstep, hrest⟩ := hstep
      exact ⟨child, hstep, again, hrest, hcycle⟩

/-- A row that reaches a cycle is in the store. -/
theorem Schema.ReachesCycle.mem (h : schema.ReachesCycle st row) :
    row.2 ∈ st (schema row.1).table := by
  obtain ⟨child, hstep, -⟩ := h.next
  exact hstep.1

/-- What is left of a store has all rows from which a cycle is reached, and no
row that was not there. -/
structure Unbroken (schema : Schema ι) (st now : Store) : Prop where
  subset : ∀ k, now (schema k).table ⊆ st (schema k).table
  kept : ∀ k t, schema.ReachesCycle st (k, t) → t ∈ now (schema k).table

namespace Unbroken

variable {now : Store}

/-- A store is unbroken in itself. -/
theorem refl : Unbroken schema st st where
  subset _ := List.Subset.refl _
  kept _ _ h := h.mem

/-- A deletion that spares the cycles. -/
theorem without (h : Unbroken schema st now)
    (htables : Function.Injective fun k => (schema k).table) {k : ι} {column : String}
    {numbers : List Int64}
    (hspares : ∀ t, schema.ReachesCycle st (k, t) → ¬ t.Among column numbers) :
    Unbroken schema st (now.without (schema k).table column numbers) where
  subset l := by
    unfold Store.without
    split
    · exact List.Subset.trans (List.filter_subset_self _) (h.subset l)
    · exact h.subset l
  kept l t ht := by
    unfold Store.without
    split
    -- In the table of the deletion a row on the way to a cycle is spared.
    · rename_i hname
      obtain rfl := htables hname
      rw [List.mem_filter, decide_eq_true_eq]
      exact ⟨h.kept l t ht, hspares t ht⟩
    · exact h.kept l t ht

end Unbroken

end Cycles

/-! ### How a part of a cascade goes -/

namespace Dao

variable (dao : Dao σ ι ε)

/-- The cascade came to dependents that are too deep. -/
def TooDeep (e : Error) : Prop :=
  ∃ k, e = .configuration (.cascadeTooDeep (dao.model.schema k).table dao.db.settings.joinMaxDepth)

/-- The error is the fault of the declarations: if these are valid, that the
cascade came too deep. -/
structure AtFault (e : Error) : Prop where
  configuration : e.isConfiguration = true
  tooDeep : (∀ k, (dao.model.schema k).validate = .ok ()) → dao.TooDeep e

/-- A statement on some level. If it deletes it is below the root, and spares
the cycles. -/
def Sparing (st : Store) (entry : Nat × Event) : Prop :=
  entry.2.isStatement = true ∧ ∀ c command written, entry.2 = .execute c command written →
    1 ≤ entry.1 ∧ dao.model.schema.SparesCycles st command.statement

variable {dao} (r : Relational dao.model.schema dao.db.source) (st : Store)

/-- From a state on, a part of a cascade sends statements that spare the
cycles. If it succeeds `P` holds of the result, and the rows from which a cycle
is reached are still there; if it fails and no statement did, the declarations
are at fault. -/
def Proceeds (P : α → Prop) (w : Work (Session (Recorded (Nat × Event) σ)) α)
    (s : Session (Recorded (Nat × Event) σ)) : Prop :=
  ∃ added, (w.exec s).2.world.log = s.world.log ++ added ∧ (w.exec s).2.units = s.units ∧
    (∀ entry ∈ added, dao.Sparing st entry) ∧
    (∀ a, (w.exec s).1 = .ok a → P a ∧
      Unbroken dao.model.schema st (r.view (w.exec s).2.world.state).now) ∧
    ∀ e, (w.exec s).1 = .error e → (∀ entry ∈ added, entry.2.failure? = none) → dao.AtFault e

/-- There is a connection, and all rows from which a cycle is reached are
there. -/
structure Intact (s : Session (Recorded (Nat × Event) σ)) : Prop where
  connected : s.units.connection.isSome = true
  unbroken : Unbroken dao.model.schema st (r.view s.world.state).now

section Proceeds
variable {r st} {P : α → Prop} {Q : β → Prop} {s : Session (Recorded (Nat × Event) σ)}

/-- A value that meets what is asked proceeds, and sends nothing. -/
theorem proceeds_pure {a : α} (hs : Intact r st s) (ha : P a) :
    Proceeds r st P (pure a) s := by
  refine ⟨[], (List.append_nil _).symm, rfl, by simp, ?_, fun e he => by cases he⟩
  rintro _ ⟨⟩
  exact ⟨ha, hs.unbroken⟩

/-- A failure that is the fault of the declarations proceeds, and sends
nothing. -/
theorem proceeds_fail {e : Error} (he : dao.AtFault e) : Proceeds r st P (Work.fail e) s := by
  refine ⟨[], (List.append_nil _).symm, rfl, by simp, fun a ha => ?_, ?_⟩
  · cases ha
  · rintro _ ⟨⟩ -
    exact he

/-- What follows a part may rely on what is known of its result. -/
theorem Proceeds.bind {w : Work (Session (Recorded (Nat × Event) σ)) α}
    {f : α → Work (Session (Recorded (Nat × Event) σ)) β} (h : Proceeds r st P w s)
    (hs : Intact r st s) (hf : ∀ a t, P a → Intact r st t → Proceeds r st Q (f a) t) :
    Proceeds r st Q (w >>= f) s := by
  obtain ⟨added, hlog, hunits, hspares, hok, herror⟩ := h
  -- The second part runs only if the first one succeeds.
  rcases hrun : w.exec s with ⟨e | a, t⟩ <;> rw [hrun] at hlog hunits hok herror
  · refine ⟨added, ?_⟩
    rw [Work.exec_bind_error hrun]
    refine ⟨hlog, hunits, hspares, fun b hb => ?_, ?_⟩
    · cases hb
    · rintro _ ⟨⟩
      exact herror e rfl
  · obtain ⟨ha, hunbroken⟩ := hok a rfl
    have ht : Intact r st t := ⟨by rw [hunits]; exact hs.connected, hunbroken⟩
    obtain ⟨later, hlog', hunits', hspares', hok', herror'⟩ := hf a t ha ht
    refine ⟨added ++ later, ?_⟩
    rw [Work.exec_bind_ok hrun]
    refine ⟨?_, hunits'.trans hunits, List.forall_mem_append.mpr ⟨hspares, hspares'⟩, hok', ?_⟩
    · rw [hlog', hlog, List.append_assoc]
    -- If no statement of the second part fails, its error is at fault.
    · exact fun e he hsound => herror' e he fun entry hentry =>
        hsound entry (List.mem_append_right _ hentry)

/-- Work that is done for each element proceeds if it does for every one. -/
theorem proceeds_forM {κ : Type} {P : κ → Prop} {xs : List κ}
    {f : κ → Work (Session (Recorded (Nat × Event) σ)) PUnit} (hs : Intact r st s)
    (hf : ∀ x ∈ xs, ∀ t, Intact r st t → Proceeds r st (fun _ => P x) (f x) t) :
    Proceeds r st (fun _ => ∀ x ∈ xs, P x) (xs.forM f) s := by
  induction xs generalizing s with
  | nil => exact proceeds_pure hs (by simp)
  | cons x xs ih =>
      refine (hf x (by simp) s hs).bind hs fun _ t hx ht => ?_
      obtain ⟨added, hlog, hunits, hspares, hok, herror⟩ :=
        ih ht fun y hy => hf y (by simp [hy])
      exact ⟨added, hlog, hunits, hspares, fun a ha =>
        ⟨List.forall_mem_cons.mpr ⟨hx, (hok a ha).1⟩, (hok a ha).2⟩, herror⟩

/-! #### Statements -/

/-- One statement, which is noted down. -/
theorem proceeds_sent (call : ConnectionId → Work σ α)
    (entry : ConnectionId → Result α → Nat × Event) (hs : Intact r st s)
    (hsparing : ∀ c result, dao.Sparing st (entry c result))
    (hfailure : ∀ c e, (entry c (.error e)).2.failure? ≠ none)
    (hok : ∀ c a state, (call c).exec s.world.state = (.ok a, state) →
      P a ∧ Unbroken dao.model.schema st (r.view state).now) :
    Proceeds r st P (Database.connection >>= fun c =>
      Session.onWorld (Recorded.noting (entry c) (call c))) s := by
  obtain ⟨c, hc⟩ := Option.isSome_iff_exists.mp hs.connected
  rcases hrun : (call c).exec s.world.state with ⟨result, state⟩
  refine ⟨[entry c result], ?_⟩
  rw [Work.exec_bind_ok (Database.connection_exec hc), Session.onWorld, Work.exec_within,
    Recorded.exec_noting (entry c) hrun]
  refine ⟨rfl, rfl, List.forall_mem_singleton.mpr (hsparing c result), ?_, ?_⟩
  · rintro a rfl
    exact hok c a state hrun
  · rintro e rfl hsound
    exact absurd (hsound _ (List.mem_singleton_self _)) (hfailure c e)

/-- Identities are read on a level, from rows that have some. -/
theorem proceeds_fetchIds {P : List Int64 → Prop} (hs : Intact r st s) {level : Nat}
    {select : Statement}
    (hread : ∀ c rows state,
      (dao.db.source.fetch c ⟨dao.db.dialect, select⟩).exec s.world.state = (.ok rows, state) →
        r.view state = r.view s.world.state ∧
          ∃ ids, rows.map Row.number? = ids.map some ∧ P ids) :
    Proceeds r st P ((dao.atLevel level).fetchIds select) s := by
  have hfetch : Proceeds r st (fun rows => ∃ ids, rows.map Row.number? = ids.map some ∧ P ids)
      ((dao.atLevel level).db.fetch select) s := by
    refine proceeds_sent (dao.db.source.fetch · ⟨dao.db.dialect, select⟩)
      (fun c result => (level, .fetch c ⟨dao.db.dialect, select⟩ result)) hs ?_ ?_ ?_
    · simp [Sparing, Event.isStatement]
    · simp [Event.failure?]
    · intro c rows state hrun
      obtain ⟨hview, hrows⟩ := hread c rows state hrun
      exact ⟨hrows, hview ▸ hs.unbroken⟩
  refine hfetch.bind hs fun rows t hrows ht => ?_
  obtain ⟨ids, hids, hP⟩ := hrows
  -- Every row that was read tells a number, so none is refused.
  have hread : readIds rows = .ok ids := readIds_ok hids
  change Proceeds r st P (Work.ofResult (readIds rows)) t
  rw [hread]
  exact proceeds_pure ht hP

/-- Rows below the root are deleted, none of which reaches a cycle. -/
theorem proceeds_execute (hs : Intact r st s) (hplain : dao.model.schema.Plain) {level : Nat}
    (hlevel : 1 ≤ level) {k : ι} {column : String} {numbers : List Int64}
    (hspares : ∀ t, dao.model.schema.ReachesCycle st (k, t) → ¬ t.Among column numbers) :
    Proceeds r st (fun _ => True) ((dao.atLevel level).db.execute
      (.delete (.among (dao.model.schema k).table column numbers))) s := by
  let command : Command :=
    ⟨dao.db.dialect, .delete (.among (dao.model.schema k).table column numbers)⟩
  refine proceeds_sent (dao.db.source.execute · command)
    (fun c result => (level, .execute c command result)) hs ?_ ?_ ?_
  · refine fun c result => ⟨rfl, ?_⟩
    rintro _ _ _ ⟨⟩
    exact ⟨hlevel, k, column, numbers, rfl, hspares⟩
  · simp [Event.failure?]
  · intro c written state hrun
    rw [r.delete hrun]
    exact ⟨trivial, hs.unbroken.without hplain.tables hspares⟩

/-- The identities of rows with some numbers in a column are read. Those of
rows from which a cycle is reached are among them. -/
theorem proceeds_fetchIds_among (hs : Intact r st s)
    (hidentified : ∀ k, ∀ t ∈ st (dao.model.schema k).table,
      ∃ i, dao.model.schema.identityOf? k t = some i)
    {level : Nat} {k : ι} {column : String} {numbers : List Int64} {identity : Field}
    (hidentity : (dao.model.schema k).identityField = .ok identity) :
    Proceeds r st
      (fun ids => ∀ t, dao.model.schema.ReachesCycle st (k, t) → t.Among column numbers →
        ∃ i ∈ ids, dao.model.schema.identityOf? k t = some i)
      ((dao.atLevel level).fetchIds (.project (.among (dao.model.schema k).table column numbers)
        [.column ⟨.main, identity.column⟩])) s := by
  refine proceeds_fetchIds hs fun c rows state hrun => ?_
  obtain ⟨hview, hrows⟩ := r.select hidentity hrun
  refine ⟨hview, ?_⟩
  -- Every row that is found was there at the start, and has an identity.
  obtain ⟨ids, hids⟩ : ∃ ids : List Int64, ids.map some = rows.map Row.number? := by
    refine exists_map_some fun row hrow => ?_
    obtain ⟨t, ht, hnumber⟩ := List.mem_map.mp
      (hrows.mem_iff.mp (List.mem_map_of_mem (f := Row.number?) hrow))
    obtain ⟨i, hi⟩ := hidentified k t (hs.unbroken.subset k (List.mem_filter.mp ht).1)
    exact ⟨i, by rw [← hnumber, ← Schema.identityOf?_eq hidentity, hi]⟩
  refine ⟨ids, hids.symm, fun t ht hamong => ?_⟩
  have hmem := hs.unbroken.kept k t ht
  obtain ⟨i, hi⟩ := hidentified k t (hs.unbroken.subset k hmem)
  refine ⟨i, ?_, hi⟩
  rw [← List.mem_map_of_injective (f := some) fun _ _ => Option.some.inj, hids, hrows.mem_iff,
    ← hi, Schema.identityOf?_eq hidentity, List.mem_map]
  exact ⟨t, List.mem_filter.mpr ⟨hmem, decide_eq_true hamong⟩, rfl⟩

/-- What cannot be made out is the fault of the declarations. -/
theorem proceeds_ofResult_bind {result : Result β}
    {f : β → Work (Session (Recorded (Nat × Event) σ)) α}
    (herror : ∀ e, result = .error e → dao.AtFault e)
    (hok : ∀ b, result = .ok b → Proceeds r st P (f b) s) :
    Proceeds r st P (Work.ofResult result >>= f) s := by
  cases result with
  | error e => exact proceeds_fail (herror e rfl)
  | ok b => exact hok b rfl

end Proceeds

/-! ### The levels of a cascade -/

/-- A join field without a column is the fault of the declarations. -/
theorem atFault_columnName {k : ι} {relation : Relation ι}
    (hrelation : relation ∈ (dao.model.schema k).relations) {e : Error}
    (h : (dao.model.schema k).columnName relation.joinField = .error e) : dao.AtFault e where
  configuration := by
    obtain hfield | ⟨_, -, hnever⟩ := Result.bind_eq_error.mp h
    · rw [Declaration.field] at hfield
      split at hfield <;> cases hfield
      rfl
    · cases hnever
  tooDeep hvalid := by
    obtain ⟨column, hcolumn⟩ := Declaration.columnName_joinField (hvalid k) hrelation
    cases hcolumn.symm.trans h

/-- A type without an identity is the fault of the declarations. -/
theorem atFault_identityField {k : ι} {e : Error}
    (h : (dao.model.schema k).identityField = .error e) : dao.AtFault e where
  configuration := by
    rw [Declaration.identityField] at h
    split at h <;> cases h <;> rfl
  tooDeep hvalid := by
    obtain ⟨identity, hidentity, -⟩ := Result.bind_eq_ok.mp (hvalid k)
    cases hidentity.symm.trans h

variable {r st} [DecidableEq ι]

/-- A row from which a cycle is reached is not one of those with the given
identities, if no such row depends on them. -/
theorem identity_not_mem {k : ι} {ids : List Int64} {row : TableRow} {i : Int64}
    (hlinks : ∀ link ∈ dependentLinks dao.model.schema k, ∀ t,
      dao.model.schema.ReachesCycle st (link.1, t) →
        ¬ ∃ i ∈ ids, dao.model.schema.pointerOf? link.1 link.2 t = some i)
    (hrow : dao.model.schema.ReachesCycle st (k, row))
    (hid : dao.model.schema.identityOf? k row = some i) : i ∉ ids := by
  intro hi
  obtain ⟨child, ⟨-, -, field, j, hlink, hj, hpointer⟩, hchild⟩ := hrow.next
  obtain rfl : i = j := Option.some.inj (hid.symm.trans hj)
  exact hlinks (child.1, field) (mem_dependentLinks.mpr hlink) child.2 hchild ⟨i, hi, hpointer⟩

/-- The deletion of dependents spares the cycles. It succeeds only if none of
the rows it is about reaches one. -/
theorem proceeds_deleteDependentsAt (hplain : dao.model.schema.Plain)
    (hidentified : ∀ k, ∀ t ∈ st (dao.model.schema k).table,
      ∃ i, dao.model.schema.identityOf? k t = some i)
    {depth level : Nat} (hdepth : level + depth = dao.db.settings.joinMaxDepth + 1)
    (hlevel : 1 ≤ level) {parent k : ι} {field : String}
    (hlink : dao.model.schema.Links parent k field) (parents : List Int64)
    {s : Session (Recorded (Nat × Event) σ)} (hs : Intact r st s) :
    Proceeds r st
      (fun _ => ∀ t, dao.model.schema.ReachesCycle st (k, t) →
        ¬ ∃ i ∈ parents, dao.model.schema.pointerOf? k field t = some i)
      (dao.deleteDependentsAt level k field parents) s := by
  -- Over the levels that are left, for any level, link and parents.
  induction depth generalizing level parent k field parents s with
  | zero =>
      rw [deleteDependentsAt]
      split
      · rename_i hnone
        obtain rfl := List.isEmpty_iff.mp hnone
        exact proceeds_pure hs (by simp)
      · rw [dif_pos (by omega)]
        exact proceeds_fail ⟨rfl, fun _ => ⟨k, rfl⟩⟩
  -- Read the dependents, delete what depends on them, and then delete them.
  | succ depth ih =>
      rw [deleteDependentsAt]
      split
      · rename_i hnone
        obtain rfl := List.isEmpty_iff.mp hnone
        exact proceeds_pure hs (by simp)
      rename_i hsome
      rw [dif_neg (by omega)]
      obtain ⟨-, relation, hrelation, -, rfl⟩ := hlink
      have hmembership : dao.membershipCriteria k relation.joinField parents = _ :=
        membershipCriteria_eq (hplain.names k relation hrelation) (by simpa using hsome)
      cases hcolumn : (dao.model.schema k).columnName relation.joinField with
      | error e =>
          rw [hmembership, hcolumn]
          exact proceeds_fail (atFault_columnName hrelation hcolumn)
      | ok column =>
      rw [hmembership, hcolumn]
      refine proceeds_ofResult_bind (fun e he => ?_) fun criteria hcriteria => ?_
      · cases he
      obtain rfl := Except.ok.inj hcriteria
      refine proceeds_ofResult_bind (fun e he => ?_) fun select hselect => ?_
      · obtain hidentity | ⟨_, -, hnever⟩ := Result.bind_eq_error.mp he
        · exact atFault_identityField hidentity
        · cases hnever
      obtain ⟨identity, hidentity, rfl⟩ := selectIds_ok hselect
      refine (proceeds_fetchIds_among hs hidentified hidentity).bind hs fun ids t hids ht => ?_
      refine (proceeds_forM ht fun link hlink u hu =>
        ih (by omega) (by omega) (mem_dependentLinks.mp hlink) ids hu).bind ht
          fun _ u hlinks hu => ?_
      -- A row that is about to go and reaches a cycle would have had a dependent that does.
      have hspares : ∀ row, dao.model.schema.ReachesCycle st (k, row) →
          ¬ row.Among column parents := by
        intro row hrow hamong
        obtain ⟨i, hi, hid⟩ := hids row hrow hamong
        exact identity_not_mem hlinks hrow hid hi
      refine (proceeds_execute hu hplain hlevel hspares).bind hu fun _ v _ hv =>
        proceeds_pure hv fun row hrow hpointing => hspares row hrow ?_
      obtain ⟨i, hi, hpointer⟩ := hpointing
      refine ⟨i, hi, ?_⟩
      rw [Schema.pointerOf?, hcolumn] at hpointer
      exact hpointer

/-- A cascade that begins with a row from which a cycle is reached does not
succeed. -/
theorem proceeds_deleteCascadeRowsAt (hplain : dao.model.schema.Plain)
    {s : Session (Recorded (Nat × Event) σ)} (hs : Intact r st s)
    (hidentified : ∀ k, ∀ t ∈ st (dao.model.schema k).table,
      ∃ i, dao.model.schema.identityOf? k t = some i)
    {select : Statement} {ids : List Int64}
    (hroots : r.Reads (r.view s.world.state) select dao.kind ids)
    (hreaches : ∃ t, ∃ i ∈ ids, dao.model.schema.identityOf? dao.kind t = some i ∧
      dao.model.schema.ReachesCycle st (dao.kind, t)) :
    Proceeds r st (fun _ => False) (dao.deleteCascadeRowsAt select) s := by
  obtain ⟨root, i, hi, hid, hroot⟩ := hreaches
  have hread : Proceeds r st (· = ids) ((dao.atLevel 0).fetchIds select) s :=
    proceeds_fetchIds hs fun c rows state hrun =>
      (hroots.read rfl hrun).imp_right fun hrows => ⟨ids, hrows, rfl⟩
  refine hread.bind hs ?_
  rintro _ t rfl ht
  rw [if_neg (by simpa using List.ne_nil_of_mem hi)]
  refine (proceeds_forM ht fun link hlink u hu =>
    proceeds_deleteDependentsAt hplain hidentified (Nat.add_comm 1 _) le_rfl
      (mem_dependentLinks.mp hlink) _ hu).bind ht fun _ u hlinks hu => ?_
  exact absurd hi (identity_not_mem hlinks hroot hid)

end Dao

end DataAccess
