import DataAccess.Proofs.Dao.Protocol
import DataAccess.Proofs.Dao.Reads

/-!
# `DataAccess.Proofs.Dao.PageTurn`: what is asked to find a page

The acts of `Dao.findPage` on a source and hooks that are noted down
(`Dao.noted`): those of a find, in which nothing is counted, and then
perhaps those of a count, in which one thing is. `Paged` lists the ways in
which this can go, with the outcome and the criteria after it, given what
is known of finds and of counts, and `Dao.paged` says that there are no
others, whatever the hooks do and however the source answers, at any depth.
`PageTurn` and `Dao.pageTurn` are the same with what is counted.

A count that was answered is lost in one way only: the connection it was
made on could not be given back (`Tallied.told`).
-/

set_option autoImplicit false

namespace DataAccess

variable {σ ι ε S T α : Type}

/-! ### Acts -/

/-- The number that the rows of a count tell: that in the first column of
the first row. -/
def Dao.tally (rows : List Row) : Result UInt64 :=
  match rows.head? with
  | some row => do
    let count ← row.at? 0
    count.as UInt64
  | none => .ok 0

/-- The number of a count is the tally of its rows. -/
theorem Dao.fetchCount_eq (dao : Dao σ ι ε) (statement : Statement) :
    dao.fetchCount statement
      = dao.db.fetch statement >>= fun rows => Work.ofResult (tally rows) := by
  rw [fetchCount]
  congr 1
  funext rows
  unfold tally
  cases rows.head? <;> rfl

namespace Act

/-- A count was sent. -/
def isCount : Act ι ε → Bool
  | .event (.fetch _ ⟨_, .count _⟩ _) => true
  | _ => false

/-- The rows that were counted, and the number that was told. -/
def counted? : Act ι ε → Option (Selection × UInt64)
  | .event (.fetch _ ⟨_, .count selection⟩ (.ok rows)) =>
    (Dao.tally rows).toOption.map fun total => (selection, total)
  | _ => none

/-- A find brought rows. -/
def hasRows : Act ι ε → Bool
  | .event (.fetch _ ⟨_, .find ..⟩ (.ok rows)) => !rows.isEmpty
  | _ => false

/-- A connection could not be given back. -/
def isUnreleased : Act ι ε → Bool
  | .event (.release _ (.error _)) => true
  | _ => false

end Act

/-- What was counted, and what was told, in order. -/
def counts (acts : List (Act ι ε)) : List (Selection × UInt64) :=
  acts.filterMap Act.counted?

/-- Nothing was counted. -/
def Uncounted (acts : List (Act ι ε)) : Prop :=
  ∀ act ∈ acts, act.isCount = false

section Acts
variable {acts later : List (Act ι ε)}

/-- Acts without counts come one after another. -/
theorem uncounted_append :
    Uncounted (acts ++ later) ↔ Uncounted acts ∧ Uncounted later :=
  List.forall_mem_append

/-- What is no statement is no count. -/
theorem uncounted_of_unstated {events : List Event}
    (h : ∀ event ∈ events, event.isStatement = false) :
    Uncounted (events.map (Act.event (ι := ι) (ε := ε))) := by
  intro act hact
  obtain ⟨event, hevent, rfl⟩ := List.mem_map.mp hact
  have hunstated := h event hevent
  cases event with
  | fetch => cases hunstated
  | _ => rfl

/-- Hooks make no counts. -/
theorem Called.uncounted {told : Told ι ε → Prop} {hooks : List Hook} {failure : Option Error}
    (h : Called told hooks acts failure) : Uncounted acts := by
  induction h with
  | done => exact List.forall_mem_nil _
  | failed => exact List.forall_mem_singleton.mpr rfl
  | passed _ _ ih => exact List.forall_mem_cons.mpr ⟨rfl, ih⟩

/-- Counts are made in the order of the acts. -/
theorem counts_append : counts (acts ++ later) = counts acts ++ counts later :=
  List.filterMap_append

/-- The first act is a count, or the counts are those of the others. -/
theorem counts_cons (act : Act ι ε) :
    counts (act :: acts) = act.counted?.toList ++ counts acts := by
  rw [counts, List.filterMap_cons]
  cases act.counted? <;> rfl

/-- Nothing was counted where nothing is a count. -/
theorem Act.counted?_of_not_isCount {act : Act ι ε} (h : act.isCount = false) :
    act.counted? = none := by
  unfold counted?
  split
  · cases h
  · rfl

/-- Where nothing was counted there are no numbers. -/
theorem Uncounted.counts_eq_nil (h : Uncounted acts) : counts acts = [] :=
  List.filterMap_eq_nil_iff.mpr fun act hact => Act.counted?_of_not_isCount (h act hact)

/-- Where nothing was counted there are no acts that count. -/
theorem Uncounted.filter_eq_nil (h : Uncounted acts) : acts.filter Act.isCount = [] :=
  List.filter_eq_nil_iff.mpr fun act hact => by rw [h act hact]; exact Bool.false_ne_true

end Acts

/-! ### The find -/

/-- Nothing is counted. -/
def Quiet (_u _u' : Units) (added : List (Act ι ε)) (_result : Result α) : Prop :=
  Uncounted added

/-- Nothing is counted, and entities come of rows. -/
def Shows (_u _u' : Units) (added : List (Act ι ε)) (result : Result (List ε)) : Prop :=
  Uncounted added ∧ ∀ items, result = .ok items → items ≠ [] → ∃ act ∈ added, act.hasRows = true

namespace Tracks

/-- What is found is shown, with hooks or a unit around it that count
nothing. -/
theorem shows_enclosed {v : View S T σ (Act ι ε)} {opening : Work S Unit} {opening' : Work T Unit}
    {closing : Bool → Work S Unit} {closing' : Bool → Work T Unit} {noted : Work S (List ε)}
    {w : Work T (List ε)} (hopening : Tracks v Quiet opening opening')
    (hclosing : ∀ success, Tracks v Quiet (closing success) (closing' success))
    (h : Tracks v Shows noted w) :
    Tracks v Shows (Work.enclosed opening closing noted) (Work.enclosed opening' closing' w) := by
  have hrest : Tracks v Shows (noted.concluding closing) (w.concluding closing') := by
    refine h.concluding hclosing ?_
    rintro u u₁ u₂ added later own late ⟨huncounted, hrows⟩ hlater
    -- A closing that fails hides the entities, but never makes some.
    refine ⟨uncounted_append.mpr ⟨huncounted, hlater⟩, fun items hitems hsome => ?_⟩
    have hown : own = .ok items := by
      cases own <;> cases late <;> first | exact hitems | cases hitems
    obtain ⟨act, hact, hact'⟩ := hrows items hown hsome
    exact ⟨act, List.mem_append_left _ hact, hact'⟩
  refine hopening.bind (fun _ => hrest) ?_ ?_
  · exact fun u u' added e hquiet => ⟨hquiet, fun items hitems => by cases hitems⟩
  · rintro u u₁ u₂ added later _ result hquiet ⟨huncounted, hrows⟩
    refine ⟨uncounted_append.mpr ⟨hquiet, huncounted⟩, fun items hitems hsome => ?_⟩
    obtain ⟨act, hact, hact'⟩ := hrows items hitems hsome
    exact ⟨act, List.mem_append_right _ hact, hact'⟩

/-- An error that is replaced changes nothing of this. -/
theorem shows_mapError {v : View S T σ (Act ι ε)} {f : Error → Error} {noted : Work S (List ε)}
    {w : Work T (List ε)} (h : Tracks v Shows noted w) :
    Tracks v Shows (noted.mapError f) (w.mapError f) := by
  refine h.mapError.mono ?_
  rintro u u' added result ⟨own, ⟨huncounted, hrows⟩, rfl⟩
  refine ⟨huncounted, fun items hitems => hrows items ?_⟩
  cases own with
  | ok _ => exact hitems
  | error _ => cases hitems

/-- To note a hook counts nothing. -/
theorem quiet_noting (hook : Hook) (told : Told ι ε) (w : Work (Session σ) Unit) :
    Tracks View.alone Quiet (Interceptor.noting hook told w) w :=
  (calling hook told w).mono fun _ _ _ _ hcalled => hcalled.uncounted

/-- Entities are made of the rows of a find. -/
theorem shows_fetch (dao : Dao σ ι ε) (joins : JoinRegistry ι) (selection : Selection)
    (columns : List ColumnRef) :
    Tracks View.alone Shows (dao.noted.fetch joins (.find selection columns))
      (dao.fetch joins (.find selection columns)) := by
  have hmap (rows : List Row) : Tracks (View.alone (σ := σ))
      (fun _ _ (added : List (Act ι ε)) result =>
        added = [] ∧ result = rows.mapM (dao.model.mapRow dao.kind joins))
      (Work.ofResult (rows.mapM (dao.model.mapRow dao.kind joins)))
      (Work.ofResult (rows.mapM (dao.model.mapRow dao.kind joins))) :=
    .ofResult fun _ => ⟨rfl, rfl⟩
  -- The rows come first, and the entities are made of them with nothing else sent.
  refine (fetching dao.db _).bind hmap ?_ ?_
  · rintro _ u added e ⟨rfl, events, rfl, hsends⟩
    refine ⟨?_, fun items hitems => by cases hitems⟩
    generalize u.connection = connection at hsends
    cases hsends with
    | unsent => exact List.forall_mem_nil _
    | sent c => exact List.forall_mem_singleton.mpr rfl
  · rintro _ u _ added _ rows result ⟨rfl, events, rfl, hsends⟩ ⟨rfl, rfl⟩
    rw [List.append_nil]
    generalize u.connection = connection at hsends
    cases hsends with
    | sent c =>
        refine ⟨List.forall_mem_singleton.mpr rfl, fun items hitems hsome => ?_⟩
        refine ⟨_, List.mem_singleton_self _, ?_⟩
        -- Where there is an entity there was a row to make it of.
        cases rows with
        | nil => exact absurd (Except.ok.inj hitems).symm hsome
        | cons row rows => rfl

/-- Nothing is counted while entities are found. -/
theorem shows_findByCriteria (dao : Dao σ ι ε) (c : Criteria ι) :
    Tracks View.alone Shows (dao.noted.findByCriteria c) (dao.findByCriteria c) := by
  -- Opening and closing send no statement, and the hooks are quiet.
  refine shows_enclosed ?_ (fun _ => ?_) (shows_mapError (shows_enclosed (quiet_noting _ _ _)
    (fun success => quiet_noting _ _ _) (shows_fetch dao c.joins _ _)))
  · refine (opens Act.event dao.db none).mono ?_
    rintro u u' added result ⟨events, rfl, hopens⟩
    exact uncounted_of_unstated hopens.unstated
  · refine (closeUnit Act.event dao.db none).mono ?_
    rintro u u' added result ⟨events, late, rfl, hcloses, -⟩
    exact uncounted_of_unstated hcloses.unstated

end Tracks

/-! ### The count -/

/-- How a count of the selection goes, in a unit of its own: it is not
asked for, or it is asked for once. An error that is not its own is that of
a connection that could not be given back. -/
inductive Tallied (selection : Selection) : List (Act ι ε) → Result UInt64 → Prop where
  | unasked {events : List Event} {e : Error}
      (unstated : ∀ event ∈ events, event.isStatement = false) :
      Tallied selection (events.map .event) (.error e)
  | asked {opening closing : List Event} {c : ConnectionId} {dialect : Dialect}
      {answer : Result (List Row)} {late : Result Unit}
      (before : ∀ event ∈ opening, event.isStatement = false)
      (after : ∀ event ∈ closing, event.isStatement = false)
      (unreleased : late.isOk = false → ∃ act ∈ closing.map (Act.event (ι := ι) (ε := ε)),
        act.isUnreleased = true) :
      Tallied selection
        (opening.map .event ++
          .event (.fetch c ⟨dialect, .count selection⟩ answer) :: closing.map .event)
        (Work.concluded ((answer >>= Dao.tally).mapError (.inOperation "count")) late)

namespace Tallied

variable {selection : Selection} {acts : List (Act ι ε)}

/-- There is one count at most. -/
theorem length_filter_le {result : Result UInt64} (h : Tallied selection acts result) :
    (acts.filter Act.isCount).length ≤ 1 := by
  cases h with
  | unasked unstated =>
      rw [(uncounted_of_unstated unstated).filter_eq_nil]
      exact Nat.zero_le 1
  | asked before after =>
      rw [List.filter_append, (uncounted_of_unstated before).filter_eq_nil, List.nil_append,
        List.filter_cons_of_pos rfl, (uncounted_of_unstated after).filter_eq_nil]
      exact Nat.le_refl 1

/-- The number that is told is the outcome, unless the connection could not
be given back. -/
theorem told {result : Result UInt64} (h : Tallied selection acts result) :
    (∀ total, result = .ok total → counts acts = [(selection, total)]) ∧
      (∀ e, result = .error e → counts acts ≠ [] → ∃ act ∈ acts, act.isUnreleased = true) := by
  cases h with
  | unasked unstated =>
      refine ⟨fun total htotal => ?_, fun e _ hcounts => ?_⟩
      · cases htotal
      · exact absurd (uncounted_of_unstated unstated).counts_eq_nil hcounts
  | @asked opening closing c dialect answer late before after unreleased =>
      have hact :
          (Act.event (ι := ι) (ε := ε) (.fetch c ⟨dialect, .count selection⟩ answer)).counted?
            = (answer >>= Dao.tally).toOption.map fun total => (selection, total) := by
        cases answer <;> rfl
      have hcounts : counts (opening.map (Act.event (ι := ι) (ε := ε)) ++
          .event (.fetch c ⟨dialect, .count selection⟩ answer) :: closing.map .event)
          = ((answer >>= Dao.tally).toOption.map fun total => (selection, total)).toList := by
        rw [counts_append, (uncounted_of_unstated before).counts_eq_nil, List.nil_append,
          counts_cons, (uncounted_of_unstated after).counts_eq_nil, List.append_nil, hact]
      rw [hcounts]
      -- Without a number nothing was counted; with one, only the closing can have failed.
      cases hnumber : answer >>= Dao.tally with
      | error e =>
          refine ⟨fun total htotal => ?_, fun e' _ hsome => absurd rfl hsome⟩
          cases htotal
      | ok number =>
          cases late with
          | ok _ =>
              refine ⟨fun total htotal => ?_, fun e' hfailed => ?_⟩
              · obtain rfl := Except.ok.inj htotal
                rfl
              · cases hfailed
          | error reason =>
              refine ⟨fun total htotal => ?_, fun e' _ _ => ?_⟩
              · cases htotal
              · obtain ⟨act, hact, hunreleased⟩ := unreleased rfl
                exact ⟨act, List.mem_append_right _ (List.mem_cons_of_mem _ hact), hunreleased⟩

end Tallied

namespace Tracks

/-- The statement of a count is sent once, where there is a connection. -/
theorem fetchCount (dao : Dao σ ι ε) (selection : Selection) :
    Tracks View.alone
      (fun u u' (added : List (Act ι ε)) result => u' = u ∧ ∀ c, u.connection = some c →
        ∃ answer, added = [.event (.fetch c ⟨dao.db.dialect, .count selection⟩ answer)] ∧
          result = answer >>= Dao.tally)
      (dao.noted.fetchCount (.count selection)) (dao.fetchCount (.count selection)) := by
  have htally (rows : List Row) : Tracks (View.alone (σ := σ))
      (fun u u' (added : List (Act ι ε)) result => u' = u ∧ added = [] ∧ result = Dao.tally rows)
      (Work.ofResult (Dao.tally rows)) (Work.ofResult (Dao.tally rows)) :=
    .ofResult fun _ => ⟨rfl, rfl, rfl⟩
  rw [Dao.fetchCount_eq, Dao.fetchCount_eq]
  refine (fetching dao.db _).bind htally ?_ ?_
  -- The statement fails, and that is the answer.
  · rintro _ u added e ⟨rfl, events, rfl, hsends⟩
    refine ⟨rfl, fun c hc => ?_⟩
    rw [hc] at hsends
    cases hsends with
    | sent => exact ⟨.error e, rfl, rfl⟩
  · rintro _ u _ added _ rows result ⟨rfl, events, rfl, hsends⟩ ⟨rfl, rfl, rfl⟩
    refine ⟨rfl, fun c hc => ?_⟩
    rw [hc] at hsends
    cases hsends with
    | sent => exact ⟨.ok rows, rfl, rfl⟩

/-- A unit that is open and has no transaction to end can be closed but for
its connection. -/
theorem unreleased_of_closes {u : Units} {events : List Event} {late : List Error}
    (h : Closes none u events late) (hopen : 0 < u.openCalls) (hlate : late ≠ []) :
    ∃ act ∈ events.map (Act.event (ι := ι) (ε := ε)), act.isUnreleased = true := by
  cases h with
  | unopened closed => rw [closed] at hopen; cases hopen
  | nested => exact absurd rfl hlate
  | vacant => exact absurd rfl hlate
  | @outermost c events last there asked =>
      rw [ite_self] at asked
      cases asked with
      | plain released =>
          -- The only thing that can go wrong is the release.
          cases released with
          | ok _ => exact absurd rfl hlate
          | error e => exact ⟨.event (.release c (.error e)), List.mem_singleton_self _, rfl⟩

/-- A count takes place in a unit of its own. -/
theorem tallied_counting (dao : Dao σ ι ε) (c : Criteria ι) :
    Tracks View.alone
      (fun _ _ added result => Tallied (c.suspendLimits.selection dao.model.schema) added result)
      (dao.noted.counting c) (dao.counting c) := by
  -- What follows the opening, of which only the statement is a count.
  have hrest : Tracks View.alone
      (fun u _ (added : List (Act ι ε)) result => ∀ id, u.connection = some id → 0 < u.openCalls →
        ∀ opening : List Event, (∀ event ∈ opening, event.isStatement = false) →
          Tallied (c.suspendLimits.selection dao.model.schema) (opening.map .event ++ added) result)
      (((dao.noted.fetchCount (.count (c.suspendLimits.selection dao.model.schema))).mapError
        (.inOperation "count")).concluding fun _ => (dao.db.noted Act.event).closeUnit none)
      (((dao.fetchCount (.count (c.suspendLimits.selection dao.model.schema))).mapError
        (.inOperation "count")).concluding fun _ => dao.db.closeUnit none) := by
    refine (fetchCount dao _).mapError.concluding (fun _ => closeUnit Act.event dao.db none) ?_
    rintro u u' u₂ added later _ late ⟨own, ⟨rfl, hsent⟩, rfl⟩ ⟨events, errors, rfl, hcloses, hlate⟩
      id hid hopen opening hopening
    obtain ⟨answer, rfl, rfl⟩ := hsent id hid
    refine .asked hopening hcloses.unstated fun hfailed => unreleased_of_closes hcloses hopen ?_
    rintro rfl
    cases late with
    | ok _ => cases hfailed
    | error e => cases hlate
  refine (opens Act.event dao.db none).bind (fun _ => hrest) ?_ ?_
  · rintro u u' added e ⟨events, rfl, hopens⟩
    exact .unasked hopens.unstated
  · rintro u u₁ u₂ added later _ result ⟨events, rfl, hopens⟩ hlater
    obtain ⟨id, hid, hopen⟩ : ∃ id, u₁.connection = some id ∧ 0 < u₁.openCalls := by
      cases hopens with
      | @joined id there => exact ⟨id, there, Nat.succ_pos _⟩
      | @entered id _ absent asked => exact ⟨id, rfl, Nat.succ_pos _⟩
    exact hlater id hid hopen events hopens.unstated

end Tracks

/-! ### The page -/

/-- How a page of the criteria is found, where `F` says how its find goes
and `G` how its count does: the acts, the outcome, and the criteria after
it. -/
inductive Paged (F : List (Act ι ε) → Result (List ε) → Prop)
    (G : List (Act ι ε) → Result UInt64 → Prop) (c : Criteria ι) :
    List (Act ι ε) → Result (Page ε) → Criteria ι → Prop where
  /-- There is no page to be found. -/
  | unpaged (unpaged : c.paging = none) : Paged F G c [] (.error (.invalidInput .pageOfUnpaged)) c
  /-- The page is not found. -/
  | unfound {acts : List (Act ι ε)} {e : Error} (find : F acts (.error e)) :
      Paged F G c acts (.error e) c
  /-- The page has no rows, or the total is known. -/
  | uncounted {acts : List (Act ι ε)} {items : List ε} {paging : Paging}
      (paged : c.paging = some paging) (find : F acts (.ok items))
      (done : (items.isEmpty || paging.isTotalKnown) = true) :
      Paged F G c acts (.ok (.of items paging)) c
  /-- The page has rows, and the total gets known. -/
  | counted {found tally : List (Act ι ε)} {items : List ε} {paging : Paging} {total : UInt64}
      (paged : c.paging = some paging) (find : F found (.ok items))
      (more : (items.isEmpty || paging.isTotalKnown) = false) (count : G tally (.ok total)) :
      Paged F G c (found ++ tally) (.ok (.of items (paging.setTotal total)))
        (c.setPaging (paging.setTotal total))
  /-- The page has rows, but the total does not get known. -/
  | unsettled {found tally : List (Act ι ε)} {items : List ε} {paging : Paging} {e : Error}
      (paged : c.paging = some paging) (find : F found (.ok items))
      (more : (items.isEmpty || paging.isTotalKnown) = false) (count : G tally (.error e)) :
      Paged F G c (found ++ tally) (.error e) c

namespace Dao

/-- The session with an empty record. -/
def unnoted (s : Session σ) : Session (Recorded (Act ι ε) σ) :=
  ⟨s.units, ⟨[], s.world⟩⟩

/-- Whatever the source and the hooks do, a page is found in one of these
ways; what is noted down changes nothing. -/
theorem paged (dao : Dao σ ι ε) (c : Criteria ι) {F : List (Act ι ε) → Result (List ε) → Prop}
    {G : List (Act ι ε) → Result UInt64 → Prop}
    (hfind : Tracks View.alone (fun _ _ added result => F added result)
      (dao.noted.findByCriteria c) (dao.findByCriteria c))
    (hcount : Tracks View.alone (fun _ _ added result => G added result)
      (dao.noted.counting c) (dao.counting c)) (s : Session σ) :
    let noted := dao.noted.findPage.exec (c, unnoted s)
    dao.findPage.exec (c, s) = (noted.1, (noted.2.1, noted.2.2.erased)) ∧
      Paged F G c noted.2.2.world.log noted.1 noted.2.1 := by
  intro noted
  cases hpaging : c.paging with
  | none =>
      have hnoted : noted = (.error (.invalidInput .pageOfUnpaged), (c, unnoted s)) :=
        findPage_unpaged dao.noted c _ hpaging
      rw [hnoted, findPage_unpaged dao c s hpaging]
      exact ⟨rfl, .unpaged hpaging⟩
  | some paging =>
      obtain ⟨found, hsame, hlog, hF⟩ := hfind (unnoted s)
      rcases hrun : (dao.noted.findByCriteria c).exec (unnoted s) with ⟨e | items, t⟩ <;>
        rw [hrun] at hsame hlog hF <;>
        change (dao.findByCriteria c).exec s = (_, t.erased) at hsame
      · have hnoted : noted = (.error e, (c, t)) := findPage_unfound dao.noted hpaging hrun
        rw [hnoted, findPage_unfound dao hpaging hsame]
        obtain rfl : t.world.log = found := hlog
        exact ⟨rfl, .unfound hF⟩
      cases hdone : (items.isEmpty || paging.isTotalKnown) with
      | true =>
          have hnoted : noted = (.ok (.of items paging), (c, t)) :=
            findPage_uncounted dao.noted hpaging hrun hdone
          rw [hnoted, findPage_uncounted dao hpaging hsame hdone]
          obtain rfl : t.world.log = found := hlog
          exact ⟨rfl, .uncounted hpaging hF hdone⟩
      | false =>
          -- The count is a unit after that of the find, and its acts follow those of the find.
          obtain ⟨tally, hsame', hlog', hG⟩ := hcount t
          have hlog' := hlog'.trans (congrArg (· ++ tally) hlog)
          rcases hrun' : (dao.noted.counting c).exec t with ⟨e | total, u⟩ <;>
            rw [hrun'] at hsame' hlog' hG <;>
            change (dao.counting c).exec t.erased = (_, u.erased) at hsame'
          · have hnoted : noted = (.error e, (c, u)) :=
              findPage_unsettled dao.noted hpaging hrun hdone hrun'
            rw [hnoted, findPage_unsettled dao hpaging hsame hdone hsame']
            dsimp only
            rw [show u.world.log = found ++ tally from hlog']
            exact ⟨rfl, .unsettled hpaging hF hdone hG⟩
          · have hnoted : noted = (.ok (.of items (paging.setTotal total)),
                (c.setPaging (paging.setTotal total), u)) :=
              findPage_counted dao.noted hpaging hrun hdone hrun'
            rw [hnoted, findPage_counted dao hpaging hsame hdone hsame']
            dsimp only
            rw [show u.world.log = found ++ tally from hlog']
            exact ⟨rfl, .counted hpaging hF hdone hG⟩

end Dao

/-- How a page of the criteria is found: the acts, the outcome, and the
criteria after it. -/
inductive PageTurn (schema : Schema ι) (c : Criteria ι) :
    List (Act ι ε) → Result (Page ε) → Criteria ι → Prop where
  /-- The page is not found. -/
  | unfound {acts : List (Act ι ε)} {e : Error} (uncounted : Uncounted acts) :
      PageTurn schema c acts (.error e) c
  /-- The page has no rows, or the total is known. -/
  | uncounted {acts : List (Act ι ε)} {items : List ε} {paging : Paging}
      (paged : c.paging = some paging) (uncounted : Uncounted acts)
      (done : (items.isEmpty || paging.isTotalKnown) = true) :
      PageTurn schema c acts (.ok (.of items paging)) c
  /-- The page has rows, and the total gets known. -/
  | counted {found tally : List (Act ι ε)} {items : List ε} {paging : Paging} {total : UInt64}
      (paged : c.paging = some paging) (uncounted : Uncounted found)
      (rows : ∃ act ∈ found, act.hasRows = true) (nonempty : items ≠ [])
      (unknown : paging.isTotalKnown = false)
      (tallied : Tallied (c.suspendLimits.selection schema) tally (.ok total)) :
      PageTurn schema c (found ++ tally) (.ok (.of items (paging.setTotal total)))
        (c.setPaging (paging.setTotal total))
  /-- The page has rows, but the total does not get known. -/
  | unsettled {found tally : List (Act ι ε)} {paging : Paging} {e : Error}
      (paged : c.paging = some paging) (uncounted : Uncounted found)
      (rows : ∃ act ∈ found, act.hasRows = true) (unknown : paging.isTotalKnown = false)
      (tallied : Tallied (c.suspendLimits.selection schema) tally (.error e)) :
      PageTurn schema c (found ++ tally) (.error e) c

/-- A count is made only after a find with rows, while the total is not
known. -/
theorem PageTurn.of_paged {schema : Schema ι} {c c' : Criteria ι} {acts : List (Act ι ε)}
    {result : Result (Page ε)}
    (h : Paged (fun added result => Uncounted added ∧ ∀ items, result = .ok items → items ≠ [] →
      ∃ act ∈ added, act.hasRows = true) (Tallied (c.suspendLimits.selection schema))
      c acts result c') : PageTurn schema c acts result c' := by
  have hmore {items : List ε} {paging : Paging}
      (h : (items.isEmpty || paging.isTotalKnown) = false) :
      items ≠ [] ∧ paging.isTotalKnown = false := by
    obtain ⟨hempty, hunknown⟩ := Bool.or_eq_false_iff.mp h
    exact ⟨List.isEmpty_eq_false_iff.mp hempty, hunknown⟩
  -- The course of a page: there is none, its rows are not found, or they are counted
  -- or not.
  cases h with
  | unpaged => exact .unfound (List.forall_mem_nil _)
  | unfound find => exact .unfound find.1
  | uncounted paged find done => exact .uncounted paged find.1 done
  | counted paged find more count =>
      obtain ⟨hsome, hunknown⟩ := hmore more
      exact .counted paged find.1 (find.2 _ rfl hsome) hsome hunknown count
  | unsettled paged find more count =>
      obtain ⟨hsome, hunknown⟩ := hmore more
      exact .unsettled paged find.1 (find.2 _ rfl hsome) hunknown count

/-- A page is found in one of these ways; what is noted down changes
nothing. -/
theorem Dao.pageTurn (dao : Dao σ ι ε) (c : Criteria ι) (s : Session σ) :
    let noted := dao.noted.findPage.exec (c, unnoted s)
    dao.findPage.exec (c, s) = (noted.1, (noted.2.1, noted.2.2.erased)) ∧
      PageTurn dao.model.schema c noted.2.2.world.log noted.1 noted.2.1 :=
  (dao.paged c (Tracks.shows_findByCriteria dao c) (Tracks.tallied_counting dao c) s).imp_right
    .of_paged

end DataAccess
