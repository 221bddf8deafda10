import DataAccess.Proofs.Criteria.Change

/-!
# `DataAccess.Proofs.Criteria.Rejection`: changes that fail

A change of a criteria that fails leaves no trace. While a name, a
template or several paths are resolved, joins are made and counters run
on, one relation after another, and any of them may be the one that
fails. Until then nothing but the joins has changed
(`resolvable_sameButJoins`), and these are put back as they were
(`atomic_keepingJoins`). Whatever else a change does to the criteria, it
does at its end, where nothing fails any more.

`Change.atomic` is the fact about one change. `run_rejected` is what
follows for a program: it goes on as if the change had never been tried.
-/

set_option autoImplicit false

namespace DataAccess

namespace Work

variable {σ α β : Type}

/-- If the work fails, the state is as it was. -/
def Atomic (w : Work σ α) : Prop :=
  ∀ s e s', w.exec s = (.error e, s') → s' = s

/-- A failure by itself changes nothing. -/
theorem atomic_fail (e : Error) : Atomic (fail e : Work σ α) := by
  intro s e' s' h
  exact (congrArg Prod.snd h).symm

/-- A change of the state does not fail. -/
theorem atomic_modify (f : σ → σ) : Atomic (modify f : Work σ PUnit) := by
  intro s e s' h
  cases h

/-- An outcome that is given changes nothing. -/
theorem atomic_ofResult_bind {r : Result α} {f : α → Work σ β} (hf : ∀ a, Atomic (f a)) :
    Atomic (ofResult r >>= f) := by
  intro s e s' h
  cases r with
  | error e' => exact (congrArg Prod.snd h).symm
  | ok a => exact hf a s e s' h

/-- Reading the state first changes nothing. -/
theorem atomic_get_bind {f : σ → Work σ α} (hf : ∀ s, Atomic (f s)) : Atomic (get >>= f) := by
  intro s e s' h
  rw [exec_get_bind] at h
  exact hf s s e s' h

/-- What comes after the first part does not fail. -/
theorem atomic_bind_of_ok {w : Work σ α} {f : α → Work σ β} (hw : Atomic w)
    (hf : ∀ a s, ∃ b s', (f a).exec s = (.ok b, s')) : Atomic (w >>= f) := by
  intro s e s' h
  rw [exec_bind] at h
  rcases hrun : w.exec s with ⟨_ | a, t⟩
  · rw [hrun] at h
    obtain ⟨-, rfl⟩ := Prod.mk.inj h
    exact hw s _ _ hrun
  -- The first part succeeded, and then the whole does.
  · obtain ⟨b, t', hb⟩ := hf a t
    rw [hrun] at h
    cases hb.symm.trans h

/-- Work after which the state is changed is atomic, as the change is last
and cannot fail. -/
theorem atomic_bind_modify {w : Work σ α} {f : α → σ → σ} (hw : Atomic w) :
    Atomic (w >>= fun a => (modify (f a) : Work σ PUnit)) :=
  atomic_bind_of_ok hw fun a s => ⟨⟨⟩, f a s, rfl⟩

end Work

variable {ι : Type}

namespace Criteria

/-- The criteria are the same but for their joins. -/
def SameButJoins (c₀ c : Criteria ι) : Prop :=
  { c with joins := c₀.joins } = c₀

section Atomic
variable (schema : Schema ι)

/-- Resolving names changes nothing but the joins. -/
theorem resolvable_sameButJoins (c₀ : Criteria ι) :
    Resolvable schema (fun _ => True) (SameButJoins c₀) where
  dotFree _ _ := trivial
  resolve _ _ _ _ :=
    Work.keeps_within (R := fun _ => True) (fun _ _ => trivial) (fun _ _ => trivial)
      fun _ _ h _ => h
  restore _ _ _ h := h

/-- Work that changes nothing but the joins leaves no trace when it
fails, as these are put back. -/
theorem atomic_keepingJoins {α : Type} {w : Work (Criteria ι) α}
    (hw : ∀ c₀, Work.Keeps (SameButJoins c₀) w) : Work.Atomic (keepingJoins w) := by
  intro c e c' h
  have hsame : SameButJoins c (w.exec c).2 := hw c c rfl
  simp only [keepingJoins, Work.undoing, Work.exec_of] at h
  rcases hrun : w.exec c with ⟨_ | a, t⟩
  · rw [hrun] at h hsame
    -- The joins of the state before are put into the state after.
    obtain ⟨-, rfl⟩ := Prod.mk.inj h
    exact hsame
  · rw [hrun] at h
    cases h

/-- A field that cannot be resolved leaves no joins. -/
theorem atomic_resolveField (name : String) : Work.Atomic (resolveField schema name) :=
  atomic_keepingJoins fun c₀ => (resolvable_sameButJoins schema c₀).resolvePath name

/-- A filter that is refused leaves no joins: its value is read before its
field is resolved. -/
theorem atomic_addFilter (connector : Connector) (field : String) (comparison : Comparison)
    (value : Value) : Work.Atomic (addFilter schema connector field comparison value) :=
  Work.atomic_ofResult_bind fun _ => Work.atomic_bind_modify (atomic_resolveField schema field)

/-- Counting the placeholders of the resolved text may fail too, before
the joins are put back. -/
theorem atomic_addCondition (connector : Connector) (template : String) (values : List Value) :
    Work.Atomic (addCondition schema connector template values) := by
  rw [addCondition_eq]
  split
  · exact Work.atomic_fail _
  · split
    · exact Work.atomic_fail _
    -- Only the resolved text changes anything, and that is the joins.
    · refine Work.atomic_bind_modify (atomic_keepingJoins fun c₀ => ?_)
      have h := resolvable_sameButJoins schema c₀
      refine Work.keeps_bind (h.resolveTemplate template) fun text => ?_
      split
      · exact Work.keeps_fail _
      · exact Work.keeps_pure _

/-- A fetch that is refused leaves none of the joins it made on the way. -/
theorem atomic_addFetchPath (path : List String) : Work.Atomic (addFetchPath schema path) := by
  refine atomic_keepingJoins fun c₀ => Work.keeps_get_bind fun c hc => ?_
  have h := (resolvable_sameButJoins schema c₀).resolve path trivial c hc
  exact Work.keeps_bind h fun join => Work.keeps_pure _

/-- The paths before the one that fails were fetched, and are not any
more. -/
theorem atomic_addFetches (paths : List String) : Work.Atomic (addFetches schema paths) :=
  atomic_keepingJoins fun c₀ => (resolvable_sameButJoins schema c₀).fetches paths

/-- A page that cannot be set leaves the paging. -/
theorem atomic_setPage (number : UInt64) : Work.Atomic (setPage (ι := ι) number) := by
  refine Work.atomic_get_bind fun c => ?_
  split
  · exact Work.atomic_fail _
  · exact Work.atomic_ofResult_bind fun _ => Work.atomic_modify _

/-- A change that fails leaves the criteria as it was. -/
theorem Change.atomic (change : Change) : Work.Atomic (change.work schema) := by
  cases change with
  | filter connector field comparison value =>
      exact atomic_addFilter schema connector field comparison value
  | condition connector template values =>
      exact atomic_addCondition schema connector template values
  | order field direction => exact Work.atomic_bind_modify (atomic_resolveField schema field)
  | grouping field => exact Work.atomic_bind_modify (atomic_resolveField schema field)
  | fetchPath path => exact atomic_addFetchPath schema path
  | fetch path => exact atomic_addFetchPath schema (splitPath path)
  | fetches paths => exact atomic_addFetches schema paths
  | resolve name =>
      exact Work.atomic_bind_of_ok (atomic_resolveField schema name) fun _ c => ⟨⟨⟩, c, rfl⟩
  | page number => exact atomic_setPage number
  -- The other changes do not fail.
  | limit _ | paging _ | suspendLimits | restoreLimits _ | clearConditions | clearOrders
  | clearGroupings | clearFetches | clearLimit | clearPaging | clear | rowSelection =>
      exact Work.atomic_modify _

end Atomic

/-- A change that fails leads nowhere. -/
theorem after_of_error {schema : Schema ι} {c : Criteria ι} {change : Change} {e : Error}
    (h : ((change.work schema).exec c).1 = .error e) : after schema c change = c :=
  change.atomic schema c e _ (Prod.ext h rfl)

/-- Changes in two parts are the later part, after the earlier one. -/
theorem run_append (schema : Schema ι) (c : Criteria ι) (earlier later : List Change) :
    run schema c (earlier ++ later) = run schema (run schema c earlier) later :=
  List.foldl_append

/-- A change that is refused leaves the criteria as it was, with all of
its joins and their counters; the changes after it, whatever they are,
make the criteria that they would have made without it. -/
theorem run_rejected (schema : Schema ι) (c : Criteria ι) (earlier later : List Change)
    (change : Change) {e : Error}
    (h : ((change.work schema).exec (run schema c earlier)).1 = .error e) :
    after schema (run schema c earlier) change = run schema c earlier ∧
      run schema c (earlier ++ change :: later) = run schema c (earlier ++ later) := by
  have hafter := after_of_error h
  refine ⟨hafter, ?_⟩
  rw [run_append, run_append]
  show run schema (after schema (run schema c earlier) change) later = _
  rw [hafter]

/-- Five paths, of which the last one fails after three joins were made
for the ones before it, and a sixth that is fetched later. -/
theorem run_rejected_people :
    ((Change.fetches ["boss.boss", "mentor", "boss.cat"]).work people |>.exec
        (run people (new ()) [.order "mentor.mentor.id" .ascending])).1
      = .error (.invalidField "Person" "cat") ∧
    run people (new ()) [.order "mentor.mentor.id" .ascending,
        .fetches ["boss.boss", "mentor", "boss.cat"], .fetch "mentor.boss"]
      = run people (new ()) [.order "mentor.mentor.id" .ascending, .fetch "mentor.boss"] ∧
    (run people (new ()) [.order "mentor.mentor.id" .ascending,
        .fetch "mentor.boss"]).joins.joins.map (·.tableAlias.text) = ["t_1", "t_1_2", "t_1_1"] := by
  have herror : ((Change.fetches ["boss.boss", "mentor", "boss.cat"]).work people |>.exec
      (run people (new ()) [.order "mentor.mentor.id" .ascending])).1
        = .error (.invalidField "Person" "cat") := by decide +kernel
  exact ⟨herror, (run_rejected people (new ()) [.order "mentor.mentor.id" .ascending]
    [.fetch "mentor.boss"] _ herror).2, by decide +kernel⟩

end Criteria

end DataAccess
