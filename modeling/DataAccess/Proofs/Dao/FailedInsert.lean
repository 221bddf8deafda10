import DataAccess.Proofs.Dao.Protocol

/-!
# `DataAccess.Proofs.Dao.FailedInsert`: what an insert leaves of an entity

An entity without an identity is inserted or saved, and the call may fail
at any point. It gets its identity in the middle of the call, when the
statement has reported a key; nothing takes the identity back when a hook, the
commit or the release fails after that.

`Dao.insert_identity` says so for all sources and hooks: when the call
returns, with whatever outcome, the entity has the key that was reported,
and none if none was. So a failed insert leaves the entity new if and only
if no key was reported, and if there was one, something after the statement
failed. `Dao.insert_identity_kept` is a run in which the row is rolled back
and the entity is new no longer, so that saving it again is an update.

The proof goes by stages: an insert is `Dao.Pending` up to its statement,
and `Dao.Identified` after it.
-/

set_option autoImplicit false

namespace DataAccess

variable {σ τ ι ε α : Type}

/-! ### Stages -/

/-- Work between an opening and a closing, where `P` is the stage before it
and `Q` the one after it. -/
theorem Work.enclosed_stages {P Q : σ → Prop} {opening : Work σ Unit}
    {closing : Bool → Work σ Unit} {w : Work σ α} (hopening : Work.Keeps P opening)
    (hw : ∀ s, P s → Q (w.exec s).2) (hclosing : ∀ success, Work.Keeps Q (closing success))
    (hPQ : ∀ s, P s → Q s) {s : σ} (hs : P s) :
    Q ((Work.enclosed opening closing w).exec s).2 := by
  have hopened := hopening s hs
  rcases hrun : opening.exec s with ⟨e | _, t⟩ <;> rw [hrun] at hopened
  · rw [Work.exec_enclosed_error hrun]
    exact hPQ t hopened
  · rw [Work.exec_enclosed_ok hrun, Work.exec_concluding]
    exact hclosing _ _ (hw t hopened)

/-! ### Keys -/

/-- The key that a statement reported. -/
def Act.key? : Act ι ε → Option Int64
  | .event (.execute _ _ (.ok written)) => written.generatedKey
  | _ => none

/-- The keys that statements reported. -/
def keys (acts : List (Act ι ε)) : List Int64 :=
  acts.filterMap Act.key?

/-- The keys of two lists of acts are those of each, one after the other. -/
@[simp] theorem keys_append (acts later : List (Act ι ε)) :
    keys (acts ++ later) = keys acts ++ keys later :=
  List.filterMap_append

/-- Only statements report keys. -/
theorem keys_of_unstated {events : List Event} (h : ∀ event ∈ events, event.isStatement = false) :
    keys (events.map (Act.event (ι := ι) (ε := ε))) = [] := by
  refine List.filterMap_eq_nil_iff.mpr fun act hact => ?_
  obtain ⟨event, hevent, rfl⟩ := List.mem_map.mp hact
  have hunstated := h event hevent
  cases event with
  | execute => cases hunstated
  | _ => rfl

/-- Hooks report no keys. -/
theorem Called.keys_eq_nil {told : Told ι ε → Prop} {hooks : List Hook} {acts : List (Act ι ε)}
    {failure : Option Error} (h : Called told hooks acts failure) : keys acts = [] := by
  induction h with
  | done | failed => rfl
  | passed _ _ ih => exact ih

/-- An entity that is given an identity has it. -/
def Model.KeepsId (m : Model ι ε) : Prop :=
  ∀ key e, m.id? (m.setId key e) = some key

/-- The hooks before an insert give no new entity an identity. -/
structure Interceptor.LeavesNew (hooks : Interceptor σ ι ε) (m : Model ι ε) : Prop where
  beforeSave : Work.Keeps (fun p => m.isNew p.1 = true) hooks.beforeSave
  beforeInsert : Work.Keeps (fun p => m.isNew p.1 = true) hooks.beforeInsert

namespace Dao

variable (dao : Dao σ ι ε)

/-- No key was reported, and the entity is new. -/
def Pending (p : ε × Session (Recorded (Act ι ε) σ)) : Prop :=
  dao.model.isNew p.1 = true ∧ keys p.2.world.log = []

/-- The entity has the key that was reported, if one was. -/
def Identified (p : ε × Session (Recorded (Act ι ε) σ)) : Prop :=
  dao.model.id? p.1 = (keys p.2.world.log).head?

variable {dao}

/-- An entity that is new, of which no key was reported, has the identity
that was reported. -/
theorem Pending.identified {p : ε × Session (Recorded (Act ι ε) σ)} (h : dao.Pending p) :
    dao.Identified p := by
  obtain ⟨hnew, hkeys⟩ := h
  rw [Identified, hkeys]
  exact Option.isNone_iff_eq_none.mp hnew

/-! #### What keeps the stages -/

/-- Work with the session that sends no statement. -/
theorem keys_onSession {noted : Work (Session (Recorded (Act ι ε) σ)) α} {w : Work (Session σ) α}
    {P : Units → Units → List (Act ι ε) → Result α → Prop} (h : Tracks View.alone P noted w)
    (hP : ∀ u u' added result, P u u' added result → keys added = [])
    (p : ε × Session (Recorded (Act ι ε) σ)) :
    ((Database.onSession noted).exec p).2.1 = p.1 ∧
      keys ((Database.onSession noted).exec p).2.2.world.log = keys p.2.world.log := by
  obtain ⟨added, -, hlog, hadded⟩ := h p.2
  refine ⟨rfl, ?_⟩
  show keys (noted.exec p.2).2.world.log = _
  rw [show (noted.exec p.2).2.world.log = p.2.world.log ++ added from hlog, keys_append,
    hP _ _ _ _ hadded, List.append_nil]

/-- Work on the session that adds no keys leaves an insertion pending. -/
theorem pending_onSession {noted : Work (Session (Recorded (Act ι ε) σ)) α}
    {w : Work (Session σ) α} {P : Units → Units → List (Act ι ε) → Result α → Prop}
    (h : Tracks View.alone P noted w)
    (hP : ∀ u u' added result, P u u' added result → keys added = []) :
    Work.Keeps dao.Pending (Database.onSession noted) := by
  intro p hp
  obtain ⟨hentity, hkeys⟩ := keys_onSession h hP p
  rw [Pending, hentity, hkeys]
  exact hp

/-- Work on the session that adds no keys leaves the entity with the
identity that it has. -/
theorem identified_onSession {noted : Work (Session (Recorded (Act ι ε) σ)) α}
    {w : Work (Session σ) α} {P : Units → Units → List (Act ι ε) → Result α → Prop}
    (h : Tracks View.alone P noted w)
    (hP : ∀ u u' added result, P u u' added result → keys added = []) :
    Work.Keeps dao.Identified (Database.onSession noted) := by
  intro p hp
  obtain ⟨hentity, hkeys⟩ := keys_onSession h hP p
  rw [Identified, hentity, hkeys]
  exact hp

/-- Opening a transaction adds no keys. -/
theorem pending_openTransaction :
    Work.Keeps dao.Pending (Database.onSession dao.noted.db.openTransaction) := by
  refine pending_onSession (Tracks.opens Act.event dao.db _) ?_
  rintro u u' _ result ⟨events, rfl, hopens⟩
  exact keys_of_unstated hopens.unstated

/-- Closing a transaction leaves the entity with the identity that it has. -/
theorem identified_closeTransaction (success : Bool) :
    Work.Keeps dao.Identified (Database.onSession (dao.noted.db.closeTransaction success)) := by
  refine identified_onSession (Tracks.closeUnit Act.event dao.db (some success)) ?_
  rintro u u' _ result ⟨events, late, rfl, hcloses, -⟩
  exact keys_of_unstated hcloses.unstated

/-- Calling a hook leaves the entity with the identity that it has. -/
theorem identified_noting (hook : Hook) (told : Told ι ε) (w : Work (Session σ) Unit) :
    Work.Keeps dao.Identified (Database.onSession (Interceptor.noting hook told w)) :=
  identified_onSession (Tracks.calling hook told w) fun _ _ _ _ hcalled => hcalled.keys_eq_nil

/-- A hook before the statement is called on a new entity, and leaves it
new. -/
theorem pending_notingSave (hook : Hook) {w : Work (ε × Session σ) Unit}
    (hw : Work.Keeps (fun p => dao.model.isNew p.1 = true) w) :
    Work.Keeps dao.Pending (Interceptor.notingSave hook w) := by
  rintro ⟨e, s⟩ ⟨hnew, hkeys⟩
  refine ⟨hw (e, s.erased) hnew, ?_⟩
  show keys (s.world.log ++ [.hook hook (.saving e) _]) = []
  rw [keys_append, hkeys]
  rfl

/-! #### The statement -/

/-- A statement that succeeds adds the key that it reports, if any. -/
theorem keys_execute (db : Database σ) (st : Statement) (s : Session (Recorded (Act ι ε) σ)) :
    keys (((db.noted Act.event).execute st).exec s).2.world.log
      = keys s.world.log ++
        ((((db.noted Act.event).execute st).exec s).1.toOption.bind (·.generatedKey)).toList := by
  obtain ⟨added, -, hlog, -, events, rfl, hsends⟩ := Tracks.executing (ι := ι) (ε := ε) db st s
  rw [show (((db.noted Act.event).execute st).exec s).2.world.log = s.world.log ++ _ from hlog,
    keys_append]
  congr 1
  generalize (((db.noted Act.event).execute st).exec s).1 = result at hsends
  generalize (View.alone.session s).units.connection = connection at hsends
  -- Only a statement that was sent and succeeded can report a key.
  cases hsends with
  | unsent => rfl
  | sent c =>
      cases result with
      | error e => rfl
      | ok written =>
          cases hkey : written.generatedKey <;>
            simp [keys, Act.key?, Database.executing, Except.toOption, hkey]

/-- The statement reports a key, which the entity gets, or the entity stays
new. -/
theorem identified_insertRow (hmodel : dao.model.KeepsId)
    {p : ε × Session (Recorded (Act ι ε) σ)} (hp : dao.Pending p) :
    dao.Identified (dao.noted.insertRow.exec p).2 := by
  obtain ⟨e, s⟩ := p
  have hnew : dao.model.isNew e = true := hp.1
  rw [insertRow, Work.exec_get_bind]
  simp only [noted_db, noted_model, noted_declaration, noted_insertFields, hnew, if_true]
  -- Without its fields nothing is inserted, and the entity stays new.
  cases dao.insertFields e with
  | error err =>
      rw [Work.exec_bind_error (Work.exec_ofResult _ _)]
      exact hp.identified
  | ok fields =>
      rw [Work.exec_bind_ok (Work.exec_ofResult _ _)]
      have hkeys := keys_execute dao.db (.insert dao.declaration.table fields) s
      rw [show keys s.world.log = [] from hp.2, List.nil_append] at hkeys
      rcases hrun : ((dao.db.noted Act.event).execute
        (.insert dao.declaration.table fields)).exec s with ⟨result, t⟩
      rw [hrun] at hkeys
      have hexec : (Database.onSession ((dao.db.noted Act.event).execute
          (.insert dao.declaration.table fields))).exec (e, s) = (result, (e, t)) := by
        rw [Database.onSession, Work.exec_within, hrun]
      -- If the statement fails, it reports no key.
      cases result with
      | error err =>
          rw [Work.exec_bind_error hexec]
          exact Pending.identified ⟨hnew, hkeys⟩
      | ok written =>
          rw [Work.exec_bind_ok hexec]
          cases hkey : written.generatedKey with
          | none => exact Pending.identified ⟨hnew, hkeys.trans (congrArg Option.toList hkey)⟩
          | some key =>
              -- The entity has got the key that was reported, the first and only one.
              show dao.model.id? (dao.model.setId key e) = (keys t.world.log).head?
              rw [hmodel, hkeys]
              exact (congrArg (List.head? ∘ Option.toList) hkey).symm

/-! #### The whole -/

/-- The hooks before leave the entity new, and those after leave its
identity. -/
theorem identified_insert (hmodel : dao.model.KeepsId) (hhooks : dao.hooks.LeavesNew dao.model)
    {p : ε × Session (Recorded (Act ι ε) σ)} (hp : dao.Pending p) :
    dao.Identified (dao.noted.insert.exec p).2 := by
  -- The hooks before the statement, the statement, and the hooks after it.
  have hinside (q) (hq : dao.Pending q) : dao.Identified ((dao.noted.saving
      dao.noted.hooks.beforeInsert dao.noted.hooks.afterInsert dao.noted.insertRow).exec q).2 := by
    refine Work.enclosed_stages (P := dao.Pending) ?_ (fun _ => identified_insertRow hmodel)
      (fun success => ?_) (fun _ => Pending.identified) hq
    · exact Work.keeps_bind (pending_notingSave .beforeSave hhooks.beforeSave) fun _ =>
        pending_notingSave .beforeInsert hhooks.beforeInsert
    · refine Work.keeps_get_bind fun q' _ => Work.keeps_bind ?_ fun _ => ?_
      · exact identified_noting .afterInsert _ (dao.hooks.afterInsert q'.1 success)
      · exact identified_noting .afterSave _ (dao.hooks.afterSave q'.1 success)
  refine Work.enclosed_stages pending_openTransaction (fun q hq => ?_)
    identified_closeTransaction (fun _ => Pending.identified) hp
  rw [Work.exec_mapError]
  exact hinside q hq

/-! #### What fails later -/

end Dao

/-- A hook after the statement, the commit or the release. -/
def Act.isLate : Act ι ε → Bool
  | .hook .afterInsert _ _ | .hook .afterSave _ _ => true
  | .event (.commit ..) | .event (.release ..) => true
  | _ => false

/-- Something went wrong after the statement. -/
def FailsLate (acts : List (Act ι ε)) : Prop :=
  ∃ act ∈ acts, act.isLate = true ∧ act.failure?.isSome = true

instance (acts : List (Act ι ε)) : Decidable (FailsLate acts) :=
  inferInstanceAs (Decidable (∃ act ∈ acts, _ ∧ _))

/-- What fails late does so whatever came before. -/
theorem FailsLate.append_left {acts : List (Act ι ε)} (h : FailsLate acts)
    (earlier : List (Act ι ε)) : FailsLate (earlier ++ acts) := by
  obtain ⟨act, hact, hlate⟩ := h
  exact ⟨act, List.mem_append_right _ hact, hlate⟩

/-- What fails late does so whatever comes after. -/
theorem FailsLate.append_right {acts : List (Act ι ε)} (h : FailsLate acts)
    (later : List (Act ι ε)) : FailsLate (acts ++ later) := by
  obtain ⟨act, hact, hlate⟩ := h
  exact ⟨act, List.mem_append_left _ hact, hlate⟩

/-- Of hooks after the statement, one that fails fails late. -/
theorem Called.failsLate {told : Told ι ε → Prop} {hooks : List Hook} {acts : List (Act ι ε)}
    {failure : Option Error} (h : Called told hooks acts failure)
    (hhooks : ∀ hook ∈ hooks, hook = .afterInsert ∨ hook = .afterSave)
    (hfailure : failure.isSome = true) : FailsLate acts := by
  induction h with
  | done => cases hfailure
  | @failed hook later t e tells =>
      refine ⟨_, List.mem_singleton_self _, ?_, rfl⟩
      rcases hhooks hook List.mem_cons_self with rfl | rfl <;> rfl
  | passed tells _ ih =>
      exact (ih (fun hook hhook => hhooks hook (List.mem_cons_of_mem _ hhook)) hfailure).append_left
        [_]

/-- A closing that keeps what was done fails late, if it fails. -/
theorem Closing.failsLate {c : ConnectionId} {events : List Event}
    (h : Closing c (some true) events) (hfailed : failures events ≠ []) :
    FailsLate (events.map (Act.event (ι := ι) (ε := ε))) := by
  cases h with
  | ended _ result released =>
      cases result with
      | error e => exact ⟨.event (.commit c (.error e)), by simp [finishing], rfl, rfl⟩
      | ok _ =>
          cases released with
          | error e => exact ⟨.event (.release c (.error e)), by simp, rfl, rfl⟩
          | ok _ => exact absurd rfl hfailed

namespace Dao

variable {dao : Dao σ ι ε}

/-- An insertion with a key does not fail for the lack of one. -/
theorem keyed_of_key {e : ε} {written : Written} {key : Int64}
    (h : written.generatedKey = some key) : dao.keyed e written = .ok () := by
  rw [keyed, h]
  split <;> rfl

/-- In the course of an insert, a statement that reports a key succeeds. So
what goes wrong goes wrong later. -/
theorem failsLate_of_course {e : ε} {steady : Prop} {acts : List (Act ι ε)} {wrong : List Error}
    (hsteady : steady) (h : Course ((Request.insert e).protocol dao) steady acts wrong)
    (hkeys : keys acts ≠ []) (hwrong : wrong ≠ []) : FailsLate acts := by
  cases h with
  | unopened asked => exact absurd (keys_of_unstated asked.unstated) hkeys
  | @opened c opening closing u inner own late asked inside closed =>
      have hinner : keys inner ≠ [] := by
        intro hnil
        simp [hnil, keys_of_unstated asked.unstated, keys_of_unstated closed.unstated] at hkeys
      cases inside with
      | stopped before => exact absurd before.keys_eq_nil hinner
      | @finished u₁ u' earlier later events own' late' told before statements tells after same =>
          -- The statement was sent and succeeded.
          have hevents : keys (events.map (Act.event (ι := ι) (ε := ε))) ≠ [] := by
            intro hnil
            simp [hnil, before.keys_eq_nil, after.keys_eq_nil] at hinner
          obtain ⟨e', hsingle⟩ := statements
          have hown : own' = none := by
            generalize u₁.connection = connection at hsingle
            cases hsingle with
            | refused => exact absurd rfl hevents
            | unsent => exact absurd rfl hevents
            | sent c' result made =>
                cases result with
                | error err => exact absurd rfl hevents
                | ok written =>
                    cases hkey : written.generatedKey with
                    | none => simp [keys, Act.key?, Database.executing, hkey] at hevents
                    | some key =>
                        show (dao.keyed e' written).failure? = none
                        rw [keyed_of_key hkey]
                        rfl
          subst hown
          cases late' with
          | some reason =>
              -- A hook after it failed.
              refine ((FailsLate.append_left ?_ _).append_left _).append_right _
              exact after.failsLate (by simp [Request.protocol, Protocol.saving]) rfl
          | none =>
              -- All hooks passed, so that the transaction was to be kept.
              obtain ⟨rfl, rfl⟩ := same hsteady
              have hlate : late ≠ [] := hwrong
              refine FailsLate.append_left ?_ _
              cases closed with
              | unopened none => cases none
              | nested around => cases around
              | vacant _ gone => cases gone
              | outermost _ there kept => exact kept.failsLate hlate

/-- A new entity that is inserted, or saved, where no unit is open has the
key that the statement reported when the call returns, whatever its outcome;
if none was reported it is still new. So it is still new if the call fails,
unless a key was reported and something failed after the statement: a hook,
the commit, or the release of the connection. What is noted down changes
nothing. -/
theorem insert_identity (dao : Dao σ ι ε) (hmodel : dao.model.KeepsId)
    (hhooks : dao.hooks.LeavesNew dao.model) {e : ε} (hnew : dao.model.isNew e = true)
    (world : σ) :
    let noted := dao.noted.insert.exec (e, .start ⟨[], world⟩)
    dao.insert.exec (e, .start world) = (noted.1, (noted.2.1, noted.2.2.erased)) ∧
      dao.save.exec (e, .start world) = dao.insert.exec (e, .start world) ∧
      dao.model.id? noted.2.1 = (keys noted.2.2.world.log).head? ∧
      (noted.1.isOk = false → dao.hooks.KeepsUnits → ¬ FailsLate noted.2.2.world.log →
        dao.model.isNew noted.2.1 = true) := by
  intro noted
  have hidentified : dao.model.id? noted.2.1 = (keys noted.2.2.world.log).head? :=
    identified_insert hmodel hhooks ⟨hnew, rfl⟩
  have hsaving := Tracks.saving dao "insertion" .beforeInsert .afterInsert
    (fun hkeeps => hkeeps.beforeInsert) (fun hkeeps => hkeeps.afterInsert) (Tracks.insertRow dao)
  obtain ⟨acts, hsame, hlog, hruns⟩ := Tracks.writeOn
    (p := (Request.insert e).protocol dao) dao rfl hsaving (e, .start ⟨[], world⟩)
  refine ⟨hsame, ?_, hidentified, fun hfailed hunits hpunctual => ?_⟩
  · rw [save, Work.exec_get_bind]
    dsimp only
    rw [hnew, if_pos rfl]
  · obtain ⟨wrong, hcourse, hfirst⟩ := hruns rfl
    obtain rfl : noted.2.2.world.log = acts := hlog
    -- The call failed, so that something went wrong.
    have hwrong : wrong ≠ [] := by
      rintro rfl
      have hnone : noted.1.failure? = none := hfirst
      rw [← Result.isNone_failure?, hnone] at hfailed
      cases hfailed
    have hkeys : keys noted.2.2.world.log = [] := by
      by_contra hsome
      exact hpunctual (failsLate_of_course hunits hcourse hsome hwrong)
    rw [Model.isNew, hidentified, hkeys]
    rfl

/-! ### A hook that fails after the statement -/

/-- A hook that fails when someone was inserted. -/
def failingLate : Interceptor Script Unit (Option Int64) where
  afterInsert _ success := if success then Work.fail (.database "late") else return

/-- Access to people with that hook. -/
def lateInsertDao : Dao Script Unit (Option Int64) :=
  ⟨Program.scripted, Program.peopleModel, (), failingLate⟩

/-- The hooks leave the units alone. -/
theorem failingLate_keepsUnits : failingLate.KeepsUnits where
  beforeSave _ _ := rfl
  afterSave _ _ _ _ := rfl
  beforeInsert _ _ := rfl
  afterInsert _ success _ _ := by cases success <;> rfl
  beforeUpdate _ _ := rfl
  afterUpdate _ _ _ _ := rfl
  beforeDelete _ _ _ := rfl
  afterDelete _ _ _ _ := rfl
  beforeLoad _ _ _ := rfl
  afterLoad _ _ _ _ := rfl

/-- The hooks before an insertion do nothing. -/
theorem failingLate_leavesNew : failingLate.LeavesNew Program.peopleModel where
  beforeSave _ h := h
  beforeInsert _ h := h

/-- Where the statement fails, the person is still new. -/
theorem insert_identity_locked :
    let noted := lateInsertDao.noted.insert.exec
      (none, .start ⟨[], { execute := [.error (.database "locked")] }⟩)
    noted.1.isOk = false ∧ Program.peopleModel.isNew noted.2.1 = true := by
  intro noted
  obtain ⟨-, -, -, hnew⟩ := insert_identity lateInsertDao (fun _ _ => rfl) failingLate_leavesNew
    (e := none) rfl { execute := [.error (.database "locked")] }
  have hfailed : noted.1.isOk = false := by decide +kernel
  have hpunctual : ¬ FailsLate noted.2.2.world.log := by decide +kernel
  exact ⟨hfailed, hnew hfailed failingLate_keepsUnits hpunctual⟩

/-- A transaction was undone. -/
def undone (acts : List (Act ι ε)) : Bool :=
  acts.any fun
    | .event (.rollback _ (.ok _)) => true
    | _ => false

/-- The kinds of the writes that were sent. -/
def writes (acts : List (Act ι ε)) : List String :=
  acts.filterMap fun
    | .event (.execute _ ⟨_, .insert ..⟩ _) => some "INSERT"
    | .event (.execute _ ⟨_, .update ..⟩ _) => some "UPDATE"
    | _ => none

/-- The hook fails, and the row is rolled back, but the person has its key:
saving it again updates a row that is not there. -/
theorem insert_identity_kept :
    let failed := lateInsertDao.noted.insert.exec (none, .start ⟨[], {}⟩)
    let again := lateInsertDao.noted.save.exec (failed.2.1, .start ⟨[], {}⟩)
    Program.peopleModel.isNew none = true ∧ failed.1.isOk = false ∧
      undone failed.2.2.world.log = true ∧ Program.peopleModel.isNew failed.2.1 = false ∧
      writes failed.2.2.world.log = ["INSERT"] ∧ writes again.2.2.world.log = ["UPDATE"] := by
  decide +kernel

end Dao

end DataAccess
