import DataAccess.Dao.Planned
import DataAccess.Proofs.Database.Tracked

/-!
# `DataAccess.Proofs.Dao.Course`: the course of an operation with hooks

An operation of a `Dao` opens a unit, calls the hooks before it, sends its
statements, calls the hooks after it, and closes the unit. `Course p` says
which acts of this there are, in order, when each of them may fail, for an
operation with the `Protocol` `p`, and lists what went wrong, in order.

* `Called`: hooks are called in turn up to the first one that fails.
* `Within`: the hooks before the statements, the statements, and the hooks
  after them, which are told whether the statements succeeded.
* `Course`: all of this in a unit. What goes wrong inside of it is an error
  of the operation, and what goes wrong with the unit itself one of the
  connection.

The acts are what a source and an interceptor note down that are not
disturbed by it otherwise (`Database.noted`, `Interceptor.noted`). Hooks may
do as they like with the session; those that leave open units as they find
them (`Interceptor.KeepsUnits`) leave them to the operation.
`Tracks.course` puts a course together from its parts.
-/

set_option autoImplicit false

namespace DataAccess

variable {σ ι ε S T α β γ δ : Type}

/-! ### Acts -/

/-- Something that an operation did, and how it went. -/
inductive Act (ι ε : Type) where
  /-- It asked something of the source. -/
  | event (event : Event)
  /-- It called a hook, and told it something. -/
  | hook (hook : Hook) (told : Told ι ε) (result : Result Unit)

/-- What went wrong with an act by itself. -/
def Act.failure? : Act ι ε → Option Error
  | .event e => e.failure?
  | .hook _ _ result => result.failure?

namespace Interceptor

/-- A hook that is noted down. -/
def noting (hook : Hook) (told : Told ι ε) (w : Work (Session σ) Unit) :
    Work (Session (Recorded (Act ι ε) σ)) Unit :=
  Work.of fun s =>
    let (result, t) := w.exec s.erased
    (result, ⟨t.units, ⟨s.world.log ++ [.hook hook told result], t.world⟩⟩)

/-- A hook before a save that is noted down with the entity as it is. -/
def notingSave (hook : Hook) (w : Work (ε × Session σ) Unit) :
    Work (ε × Session (Recorded (Act ι ε) σ)) Unit :=
  Work.of fun p =>
    let (result, (e, t)) := w.exec (p.1, p.2.erased)
    (result, (e, ⟨t.units, ⟨p.2.world.log ++ [.hook hook (.saving p.1) result], t.world⟩⟩))

/-- The hooks, each of which is noted down. -/
def noted (hooks : Interceptor σ ι ε) : Interceptor (Recorded (Act ι ε) σ) ι ε where
  beforeSave := notingSave .beforeSave hooks.beforeSave
  afterSave e success := noting .afterSave (.saved e success) (hooks.afterSave e success)
  beforeInsert := notingSave .beforeInsert hooks.beforeInsert
  afterInsert e success := noting .afterInsert (.saved e success) (hooks.afterInsert e success)
  beforeUpdate := notingSave .beforeUpdate hooks.beforeUpdate
  afterUpdate e success := noting .afterUpdate (.saved e success) (hooks.afterUpdate e success)
  beforeDelete criteria := noting .beforeDelete (.using criteria) (hooks.beforeDelete criteria)
  afterDelete criteria success :=
    noting .afterDelete (.used criteria success) (hooks.afterDelete criteria success)
  beforeLoad criteria := noting .beforeLoad (.using criteria) (hooks.beforeLoad criteria)
  afterLoad criteria success :=
    noting .afterLoad (.used criteria success) (hooks.afterLoad criteria success)

/-- Work that leaves open units as it finds them. -/
def Steady (units : S → Units) (w : Work S Unit) : Prop :=
  ∀ s, 0 < (units s).openCalls → units (w.exec s).2 = units s

/-- The hooks leave open units as they find them. -/
structure KeepsUnits (hooks : Interceptor σ ι ε) : Prop where
  beforeSave : Steady (·.2.units) hooks.beforeSave
  afterSave : ∀ e success, Steady (·.units) (hooks.afterSave e success)
  beforeInsert : Steady (·.2.units) hooks.beforeInsert
  afterInsert : ∀ e success, Steady (·.units) (hooks.afterInsert e success)
  beforeUpdate : Steady (·.2.units) hooks.beforeUpdate
  afterUpdate : ∀ e success, Steady (·.units) (hooks.afterUpdate e success)
  beforeDelete : ∀ criteria, Steady (·.units) (hooks.beforeDelete criteria)
  afterDelete : ∀ criteria success, Steady (·.units) (hooks.afterDelete criteria success)
  beforeLoad : ∀ criteria, Steady (·.units) (hooks.beforeLoad criteria)
  afterLoad : ∀ criteria success, Steady (·.units) (hooks.afterLoad criteria success)

end Interceptor

/-- Access whose source and whose hooks are noted down. -/
def Dao.noted (dao : Dao σ ι ε) : Dao (Recorded (Act ι ε) σ) ι ε :=
  ⟨dao.db.noted .event, dao.model, dao.kind, dao.hooks.noted⟩

/-! ### What happens, and what goes wrong -/

/-- The hooks are called in turn and told what is `told`, up to the first
one that fails, which is what goes wrong. -/
inductive Called (told : Told ι ε → Prop) :
    List Hook → List (Act ι ε) → Option Error → Prop where
  | done : Called told [] [] none
  | failed {hook : Hook} {later : List Hook} {t : Told ι ε} {e : Error} (tells : told t) :
      Called told (hook :: later) [.hook hook t (.error e)] (some e)
  | passed {hook : Hook} {later : List Hook} {t : Told ι ε} {acts : List (Act ι ε)}
      {failure : Option Error} (tells : told t) (rest : Called told later acts failure) :
      Called told (hook :: later) (.hook hook t (.ok ()) :: acts) failure

/-- One statement on the connection that is there, if it can be made out at
all; what it brings is checked. -/
inductive Single (statement : Result Statement)
    (event : Statement → ConnectionId → Result γ → Event) (check : γ → Result δ) :
    Option ConnectionId → List Event → Option Error → Prop where
  | refused {e : Error} (connection : Option ConnectionId) (cannot : statement = .error e) :
      Single statement event check connection [] (some e)
  | unsent {st : Statement} (made : statement = .ok st) :
      Single statement event check none [] (some (.connection .notOpen))
  | sent {st : Statement} (c : ConnectionId) (result : Result γ) (made : statement = .ok st) :
      Single statement event check (some c) [event st c result] (result >>= check).failure?

/-- What an operation with hooks is to do. -/
structure Protocol (ι ε : Type) where
  /-- The name of the operation in errors. -/
  operation : String
  /-- The isolation of its transaction, if it has one. -/
  level : Option Isolation
  /-- The hooks before its statements. -/
  before : List Hook
  /-- The hooks after its statements. -/
  after : List Hook
  /-- What the former are told. -/
  tellsBefore : Told ι ε → Prop
  /-- What the latter are told, by whether the statements succeeded. -/
  tellsAfter : Bool → Told ι ε → Prop
  /-- What the statements are on the connection that is there, and what goes
  wrong with them. -/
  statements : Option ConnectionId → List Event → Option Error → Prop

/-- What happens inside of a unit that was opened with the units `u`, with
the units it leaves: the acts, and what goes wrong. If `steady`, the
units are those of the opening all along. -/
inductive Within (p : Protocol ι ε) (steady : Prop) (u : Units) :
    Units → List (Act ι ε) → List Error → Prop where
  /-- A hook fails before the statements, and nothing follows it. -/
  | stopped {u' : Units} {acts : List (Act ι ε)} {e : Error}
      (before : Called p.tellsBefore p.before acts (some e)) (inside : steady → u' = u) :
      Within p steady u u' acts [e]
  /-- No hook fails before the statements, and all takes its course. -/
  | finished {u₁ u' : Units} {earlier later : List (Act ι ε)} {events : List Event}
      {own late : Option Error} {told : Told ι ε}
      (before : Called p.tellsBefore p.before earlier none)
      (statements : p.statements u₁.connection events own)
      (tells : p.tellsAfter own.isNone told)
      (after : Called (fun t => t = told) p.after later late)
      (inside : steady → u₁ = u ∧ u' = u) :
      Within p steady u u' (earlier ++ events.map .event ++ later) (own.toList ++ late.toList)

/-- What happens in the course of an operation, and what goes wrong, in
order. -/
inductive Course (p : Protocol ι ε) (steady : Prop) : List (Act ι ε) → List Error → Prop where
  /-- The unit is not opened, and nothing follows. -/
  | unopened {e : Error} {events : List Event} (asked : Opening p.level (.error e) events) :
      Course p steady (events.map .event) (failures events)
  /-- The unit is opened and closed, with a verdict by whether anything went
  wrong in it. -/
  | opened {c : ConnectionId} {opening closing : List Event} {u : Units}
      {acts : List (Act ι ε)} {own late : List Error}
      (asked : Opening p.level (.ok c) opening)
      (inside : Within p steady ⟨1, some c, p.level.isSome⟩ u acts own)
      (closed : Closes (p.level.map fun _ => own.isEmpty) u closing late) :
      Course p steady (opening.map .event ++ acts ++ closing.map .event)
        (own.map (Error.inOperation p.operation) ++ late)

/-! ### Where nothing goes wrong -/

/-- An opening that succeeds has no failures. -/
theorem Opening.unfailing {level : Option Isolation} {c : ConnectionId} {events : List Event}
    (h : Opening level (.ok c) events) : ∀ event ∈ events, event.failure? = none := by
  cases h <;> simp [Event.failure?]

/-- Events with no failures do not fail. -/
theorem unfailing_of_failures {events : List Event} (h : failures events = []) :
    ∀ event ∈ events, event.failure? = none :=
  List.filterMap_eq_nil_iff.mp h

/-- A closing without a late error has no failures. -/
theorem Closes.unfailing {verdict : Option Bool} {u : Units} {events : List Event}
    {late : List Error} (h : Closes verdict u events late) (hlate : late = []) :
    ∀ event ∈ events, event.failure? = none := by
  cases h with
  | unopened => cases hlate
  | nested => simp
  | vacant => simp
  | outermost => exact unfailing_of_failures hlate

/-- Hooks that were all passed did not fail. -/
theorem Called.unfailing {told : Told ι ε → Prop} {hooks : List Hook} {acts : List (Act ι ε)}
    {failure : Option Error} (h : Called told hooks acts failure) (hnone : failure = none) :
    ∀ act ∈ acts, act.failure? = none := by
  induction h with
  | done => simp
  | failed => cases hnone
  | passed _ _ ih => exact List.forall_mem_cons.mpr ⟨rfl, ih hnone⟩

/-- A statement that failed is something that goes wrong. -/
theorem Single.unfailing {statement : Result Statement}
    {event : Statement → ConnectionId → Result γ → Event} {check : γ → Result δ}
    (hevent : ∀ st c result, (event st c result).failure? = result.failure?)
    {connection : Option ConnectionId} {events : List Event} {failure : Option Error}
    (h : Single statement event check connection events failure) (hnone : failure = none) :
    ∀ event ∈ events, event.failure? = none := by
  cases h with
  | refused => cases hnone
  | unsent => cases hnone
  | sent c result made =>
      -- A statement that was sent fails with its own result.
      cases result with
      | error e => cases hnone
      | ok a => exact List.forall_mem_singleton.mpr (hevent _ c (.ok a))

/-- What goes wrong with a statement goes wrong with the statements. -/
def Protocol.Telling (p : Protocol ι ε) : Prop :=
  ∀ connection events, p.statements connection events none →
    ∀ event ∈ events, event.failure? = none

/-- What was noted of an event fails if the event does. -/
theorem unfailing_map {events : List Event} (h : ∀ event ∈ events, event.failure? = none) :
    ∀ act ∈ events.map (Act.event (ι := ι) (ε := ε)), act.failure? = none := by
  intro act hact
  obtain ⟨event, hevent, rfl⟩ := List.mem_map.mp hact
  exact h event hevent

/-- Between an opening and a closing nothing has failed if there is no
error of its own. -/
theorem Within.unfailing {p : Protocol ι ε} (hp : p.Telling) {steady : Prop} {u u' : Units}
    {acts : List (Act ι ε)} {own : List Error} (h : Within p steady u u' acts own)
    (hown : own = []) : ∀ act ∈ acts, act.failure? = none := by
  cases h with
  | stopped => cases hown
  | finished before statements tells after =>
      -- Neither the hooks before, nor the statements, nor the hooks after have an error.
      obtain ⟨hown, hlate⟩ := List.append_eq_nil_iff.mp hown
      rw [Option.toList_eq_nil_iff] at hown hlate
      rw [hown] at statements
      exact List.forall_mem_append.mpr ⟨List.forall_mem_append.mpr
        ⟨before.unfailing rfl, unfailing_map (hp _ _ statements)⟩, after.unfailing hlate⟩

/-- If nothing goes wrong in a course, none of its acts failed. -/
theorem Course.unfailing {p : Protocol ι ε} (hp : p.Telling) {steady : Prop}
    {acts : List (Act ι ε)} {wrong : List Error} (h : Course p steady acts wrong)
    (hwrong : wrong = []) : ∀ act ∈ acts, act.failure? = none := by
  cases h with
  | unopened asked => exact unfailing_map (unfailing_of_failures hwrong)
  | opened asked inside closed =>
      -- Neither the work inside nor the closing has an error.
      obtain ⟨hown, hlate⟩ := List.append_eq_nil_iff.mp hwrong
      have hinside := inside.unfailing hp (List.map_eq_nil_iff.mp hown)
      exact List.forall_mem_append.mpr ⟨List.forall_mem_append.mpr
        ⟨unfailing_map asked.unfailing, hinside⟩, unfailing_map (closed.unfailing hlate)⟩

namespace Called

variable {told : Told ι ε → Prop} {hooks : List Hook} {acts : List (Act ι ε)}

/-- Hooks are called one after another. -/
theorem append {hooks' : List Hook} {acts' : List (Act ι ε)} {failure : Option Error}
    (h : Called told hooks acts none) (h' : Called told hooks' acts' failure) :
    Called told (hooks ++ hooks') (acts ++ acts') failure := by
  generalize hnone : (none : Option Error) = first at h
  induction h with
  | done => exact h'
  | failed => cases hnone
  | passed tells _ ih => exact .passed tells (ih hnone)

/-- Hooks after one that fails are not called. -/
theorem append_failed {e : Error} (later : List Hook) (h : Called told hooks acts (some e)) :
    Called told (hooks ++ later) acts (some e) := by
  generalize hsome : some e = first at h
  induction h with
  | done => cases hsome
  | failed tells => exact .failed tells
  | passed tells _ ih => exact .passed tells (ih hsome)

/-- One hook is called, and its result decides. -/
theorem single {t : Told ι ε} (hook : Hook) (tells : told t) (result : Result Unit) :
    Called told [hook] [.hook hook t result] result.failure? := by
  cases result with
  | ok _ => exact .passed tells .done
  | error e => exact .failed tells

end Called

/-- Without a failure the result is a success. -/
theorem Result.isNone_failure? (result : Result α) : result.failure?.isNone = result.isOk := by
  cases result <;> rfl

/-- The first error counts, of work and of what concludes it. -/
theorem Result.failure?_concluded (own : Result α) (late : Result Unit) :
    (Work.concluded own late).failure? = (own.failure?.toList ++ late.failure?.toList).head? := by
  cases own <;> cases late <;> rfl

/-- An error that is replaced is still one. -/
theorem Result.failure?_mapError (f : Error → Error) (result : Result α) :
    Result.failure? (result.mapError f) = result.failure?.map f := by
  cases result <;> rfl

/-! ### Courses of work -/

/-- The hooks are called; open units stay as they are if `steady`. -/
def Calls (steady : Prop) (told : Told ι ε → Prop) (hooks : List Hook) (u u' : Units)
    (added : List (Act ι ε)) (result : Result Unit) : Prop :=
  Called told hooks added result.failure? ∧ (steady → 0 < u.openCalls → u' = u)

/-- Statements are sent, which leave the units as they are. -/
def SendsAll (statements : Option ConnectionId → List Event → Option Error → Prop)
    (u u' : Units) (added : List (Act ι ε)) (result : Result α) : Prop :=
  u' = u ∧ ∃ events, added = events.map .event ∧ statements u.connection events result.failure?

/-- Nothing is done, but something is checked. -/
def Checks (check : Result α) (u u' : Units) (added : List (Act ι ε)) (result : Result β) : Prop :=
  u' = u ∧ added = [] ∧ result.failure? = check.failure?

/-- What is done in an open unit. -/
def Fills (p : Protocol ι ε) (steady : Prop) (u u' : Units) (added : List (Act ι ε))
    (result : Result α) : Prop :=
  0 < u.openCalls → ∃ own, Within p steady u u' added own ∧ result.failure? = own.head?

/-- What is done without an open unit; the first thing that goes wrong is
the outcome. -/
def Runs (p : Protocol ι ε) (steady : Prop) (u _u' : Units) (added : List (Act ι ε))
    (result : Result α) : Prop :=
  u = {} → ∃ failures, Course p steady added failures ∧ result.failure? = failures.head?

namespace Tracks

variable {v : View S T σ (Act ι ε)} {steady : Prop}

/-! #### Hooks -/

theorem notingSave (hook : Hook) {w : Work (ε × Session σ) Unit}
    (hw : steady → Interceptor.Steady (·.2.units) w) :
    Tracks View.beside (Calls steady (fun t : Told ι ε => ∃ e, t = .saving e) [hook])
      (Interceptor.notingSave hook w) w := by
  intro p
  refine ⟨[.hook hook (.saving p.1) (w.exec (p.1, p.2.erased)).1], rfl, rfl, ?_, fun h => ?_⟩
  · exact .single hook ⟨p.1, rfl⟩ _
  · exact hw h (p.1, p.2.erased)

/-- The hook is called, whatever it does with the units. -/
theorem calling (hook : Hook) (told : Told ι ε) (w : Work (Session σ) Unit) :
    Tracks View.alone
      (fun _ _ added result => Called (fun t => t = told) [hook] added result.failure?)
      (Interceptor.noting hook told w) w := by
  intro s
  refine ⟨[.hook hook told (w.exec s.erased).1], rfl, rfl, Called.single hook ?_ _⟩
  rfl

theorem noting (hook : Hook) {told : Told ι ε} {w : Work (Session σ) Unit}
    (hw : steady → Interceptor.Steady (·.units) w) :
    Tracks View.alone (Calls steady (fun t => t = told) [hook])
      (Interceptor.noting hook told w) w := by
  intro s
  obtain ⟨added, hrun, hlog, hcalled⟩ := calling hook told w s
  exact ⟨added, hrun, hlog, hcalled, fun h => hw h s.erased⟩

/-- Hooks and, if none fails, more hooks. -/
theorem calls_bind {told : Told ι ε → Prop} {hooks hooks' : List Hook} {noted : Work S Unit}
    {w : Work T Unit} {noted' : Unit → Work S Unit} {w' : Unit → Work T Unit}
    (h : Tracks v (Calls steady told hooks) noted w)
    (h' : ∀ a, Tracks v (Calls steady told hooks') (noted' a) (w' a)) :
    Tracks v (Calls steady told (hooks ++ hooks')) (noted >>= noted') (w >>= w') := by
  refine h.bind h' (fun u u' added e hcalls => ?_)
    fun u u₁ u₂ added later a result hcalls hlater => ?_
  -- A hook that fails is the last one that is called.
  · exact ⟨hcalls.1.append_failed hooks', hcalls.2⟩
  · refine ⟨hcalls.1.append hlater.1, fun hsteady hopen => ?_⟩
    have hunits := hcalls.2 hsteady hopen
    rw [← hunits] at hopen ⊢
    exact hlater.2 hsteady hopen

/-! #### Statements -/

/-- Less may be said of the statements. -/
theorem sends_mono {P Q : Option ConnectionId → List Event → Option Error → Prop}
    {noted : Work S α} {w : Work T α} (h : Tracks v (SendsAll (ι := ι) (ε := ε) P) noted w)
    (hPQ : ∀ connection events failure, P connection events failure →
      Q connection events failure) :
    Tracks v (SendsAll Q) noted w := by
  refine h.mono ?_
  rintro u u' added result ⟨hu, events, hadded, hsent⟩
  exact ⟨hu, events, hadded, hPQ _ _ _ hsent⟩

/-- The operation cannot be made out, or it goes on. -/
theorem ofResult_bind {P : Units → Units → List (Act ι ε) → Result β → Prop} {r : Result α}
    {noted : α → Work S β} {w : α → Work T β}
    (herror : ∀ e, r = .error e → ∀ u, P u u [] (.error e))
    (hok : ∀ a, r = .ok a → Tracks v P (noted a) (w a)) :
    Tracks v P (Work.ofResult r >>= noted) (Work.ofResult r >>= w) := by
  cases r with
  | error e => exact .fail (herror e rfl)
  | ok a => exact hok a rfl

/-- A statement is sent, and what it brings is checked. -/
theorem single {statement : Result Statement} {st : Statement}
    {event : Statement → ConnectionId → Result γ → Event} {check : γ → Result δ}
    {noted : Work S γ} {w : Work T γ} {noted' : γ → Work S β} {w' : γ → Work T β}
    (hst : statement = .ok st) (h : Tracks v (SendsOne .event (event st)) noted w)
    (h' : ∀ a, Tracks v (Checks (check a)) (noted' a) (w' a)) :
    Tracks v (SendsAll (Single statement event check)) (noted >>= noted') (w >>= w') := by
  -- The statement fails, and is the last thing; or it brings something, which is
  -- checked.
  refine h.bind h' ?_ ?_
  · rintro _ u added e ⟨rfl, sent, rfl, hsends⟩
    refine ⟨rfl, sent, rfl, ?_⟩
    generalize u.connection = connection at hsends
    cases hsends with
    | unsent => exact .unsent hst
    | sent c => exact .sent c (.error e) hst
  · rintro _ _ u added _ a result ⟨rfl, sent, rfl, hsends⟩ ⟨rfl, rfl, hcheck⟩
    refine ⟨rfl, sent, List.append_nil _, ?_⟩
    rw [hcheck]
    generalize u.connection = connection at hsends
    cases hsends with
    | sent c => exact .sent c (.ok a) hst

/-! #### The whole -/

variable {p : Protocol ι ε}

/-- The hooks before an operation, its statements and the hooks after it. -/
theorem within {before : Work S Unit} {before' : Work T Unit} {after : Bool → Work S Unit}
    {after' : Bool → Work T Unit} {noted : Work S α} {w : Work T α}
    (hbefore : Tracks v (Calls steady p.tellsBefore p.before) before before')
    (hstatements : Tracks v (SendsAll p.statements) noted w)
    (hafter : ∀ success, Tracks v
      (fun u u' added result => ∃ told, p.tellsAfter success told ∧
        Calls steady (fun t => t = told) p.after u u' added result)
      (after success) (after' success)) :
    Tracks v (Fills p steady) (Work.enclosed before after noted)
      (Work.enclosed before' after' w) := by
  -- What follows the hooks before the statements, which may have changed the units.
  have hrest : Tracks v (fun u₁ u' added result => ∃ events later own late told,
      added = events.map .event ++ later ∧ p.statements u₁.connection events own ∧
        p.tellsAfter own.isNone told ∧ Called (fun t => t = told) p.after later late ∧
        (steady → 0 < u₁.openCalls → u' = u₁) ∧
        result.failure? = (own.toList ++ late.toList).head?)
      (noted.concluding after) (w.concluding after') := by
    refine hstatements.concluding hafter ?_
    rintro u _ u' added later own late ⟨rfl, events, rfl, hsent⟩ ⟨told, htells, hcalled, hunits⟩
    rw [← Result.isNone_failure?] at htells
    exact ⟨events, later, own.failure?, late.failure?, told, rfl, hsent, htells, hcalled, hunits,
      Result.failure?_concluded own late⟩
  refine hbefore.bind (fun _ => hrest) ?_ ?_
  · rintro u u' added e ⟨hcalled, hunits⟩ hopen
    exact ⟨[e], .stopped hcalled fun hsteady => hunits hsteady hopen, rfl⟩
  · rintro u u₁ u' earlier _ _ result ⟨hcalled, hunits⟩
      ⟨events, later, own, late, told, rfl, hsent, htells, hcalled', hunits', hfirst⟩ hopen
    refine ⟨own.toList ++ late.toList, ?_, hfirst⟩
    rw [← List.append_assoc]
    refine .finished hcalled hsent htells hcalled' fun hsteady => ?_
    have hsame := hunits hsteady hopen
    exact ⟨hsame, (hunits' hsteady (by rwa [hsame])).trans hsame⟩

/-- An operation, in a unit that it opens and closes. -/
theorem course {opening : Work S Unit} {opening' : Work T Unit} {closing : Bool → Work S Unit}
    {closing' : Bool → Work T Unit} {noted : Work S α} {w : Work T α}
    (hopening : Tracks v (OpensUnit .event p.level) opening opening')
    (hclosing : ∀ success, Tracks v (ClosesUnit .event (p.level.map fun _ => success))
      (closing success) (closing' success))
    (hinside : Tracks v (Fills p steady) noted w) :
    Tracks v (Runs p steady)
      (Work.enclosed opening closing (noted.mapError (.inOperation p.operation)))
      (Work.enclosed opening' closing' (w.mapError (.inOperation p.operation))) := by
  -- What follows the opening.
  have hrest : Tracks v (fun u₁ _ added result => 0 < u₁.openCalls → ∃ acts closing u own late,
      added = acts ++ closing.map .event ∧ Within p steady u₁ u acts own ∧
        Closes (p.level.map fun _ => own.isEmpty) u closing late ∧
        result.failure? = (own.map (Error.inOperation p.operation) ++ late).head?)
      ((noted.mapError (.inOperation p.operation)).concluding closing)
      ((w.mapError (.inOperation p.operation)).concluding closing') := by
    refine (hinside.mapError (f := .inOperation p.operation)).concluding hclosing ?_
    rintro u₁ u _ acts _ _ late ⟨result, hwithin, rfl⟩ ⟨events, errors, rfl, hcloses, hlate⟩ hopen
    obtain ⟨own, hwithin, hfirst⟩ := hwithin hopen
    refine ⟨acts, events, u, own, errors, rfl, hwithin, ?_, ?_⟩
    · have hverdict :
          own.isEmpty = Except.isOk (result.mapError (Error.inOperation p.operation)) := by
        rw [← Result.isNone_failure?, Result.failure?_mapError, hfirst]
        cases own <;> rfl
      rw [hverdict]
      exact hcloses
    · rw [Result.failure?_concluded, Result.failure?_mapError, hfirst, hlate]
      cases own <;> cases errors <;> rfl
  refine hopening.bind (fun _ => hrest) ?_ ?_
  · rintro u u' added e hadded hs
    obtain ⟨events, rfl, hopened⟩ := hadded hs
    cases hopened with
    | refused asked first => exact ⟨_, .unopened asked, first.symm⟩
  · rintro u u₁ u₂ added later _ result hadded hlater hs
    obtain ⟨opening, rfl, hopened⟩ := hadded hs
    cases hopened with
    | opened asked =>
        obtain ⟨acts, closing, u, own, late, rfl, hwithin, hcloses, hfirst⟩ := hlater Nat.one_pos
        refine ⟨_, ?_, hfirst⟩
        rw [← List.append_assoc]
        exact .opened asked hwithin hcloses

end Tracks

end DataAccess
