import DataAccess.Proofs.Dao.Counting
import DataAccess.Proofs.Dao.PageRun
import DataAccess.Proofs.Dao.Program

/-!
# `DataAccess.Proofs.Dao.CachedTotal`: the total that pages share

The total of a paged criteria is counted with the first page that has rows,
and kept for the pages after it until conditions are added or cleared.

`Dao.trace_cached`: in every run of turns with one criteria, a total that is
known was counted, once, for the conditions that the criteria has; nothing
is counted while it is known, or for a page without rows; and every page
tells what is known of it.

A count that was answered positively is kept, unless its connection could
not be given back. Then finding the page fails, the total stays unknown, and
the next page counts again: `Dao.trace_counted_twice` is such a run.
-/

set_option autoImplicit false

namespace DataAccess

variable {σ ι ε : Type}

/-! ### Finding a page -/

/-- The total 0 stands for one that is not known. -/
theorem Paging.isTotalKnown_iff (p : Paging) : p.isTotalKnown = true ↔ p.totalRows ≠ 0 := by
  rw [isTotalKnown, decide_eq_true_iff]
  exact UInt64.pos_iff_ne_zero

/-- The known total of a criteria is the one of its paging. -/
theorem Criteria.knownTotal_of_paged {c : Criteria ι} {paging : Paging}
    (h : c.paging = some paging) : c.knownTotal = paging.totalRows := by
  rw [knownTotal, h]
  rfl

/-- A total that is not known reads as 0. -/
theorem Criteria.knownTotal_eq_zero {c : Criteria ι} {paging : Paging}
    (h : c.paging = some paging) (hunknown : paging.isTotalKnown = false) : c.knownTotal = 0 := by
  rw [knownTotal_of_paged h]
  by_contra hknown
  rw [(paging.isTotalKnown_iff).mpr hknown] at hunknown
  cases hunknown

/-- A find and a count, where something is counted, count once. -/
theorem Tallied.length_filter_eq {selection : Selection} {found tally : List (Act ι ε)}
    {result : Result UInt64} (htallied : Tallied selection tally result)
    (huncounted : Uncounted found) (hcount : ∃ act ∈ found ++ tally, act.isCount = true) :
    ((found ++ tally).filter Act.isCount).length = 1 := by
  refine Nat.le_antisymm ?_ ?_
  · rw [List.filter_append, huncounted.filter_eq_nil, List.nil_append]
    exact htallied.length_filter_le
  · obtain ⟨act, hact⟩ := hcount
    exact List.length_pos_of_mem (List.mem_filter.mpr hact)

/-- The page tells a total, and how many pages it fills, the last one perhaps
in part. -/
def Page.Tells (page : Page ε) (total : UInt64) : Prop :=
  page.totalRows = total ∧ page.pageCount.toNat = total.toNat ⌈/⌉ page.pageSize.toNat

namespace PageTurn

variable {schema : Schema ι} {c c' : Criteria ι} {acts : List (Act ι ε)}
  {result : Result (Page ε)}

/-- A count that was sent is a single one, for a page with rows whose total
was not known. -/
theorem asked (h : PageTurn schema c acts result c') (hcount : ∃ act ∈ acts, act.isCount = true) :
    c.knownTotal = 0 ∧ (∃ act ∈ acts, act.hasRows = true) ∧ (acts.filter Act.isCount).length = 1 ∧
      ∀ page, result = .ok page → page.items ≠ [] := by
  have hnone (huncounted : Uncounted acts) : False := by
    obtain ⟨act, hact, hcount⟩ := hcount
    rw [huncounted act hact] at hcount
    cases hcount
  -- A page without rows, or with a known total, does not count.
  cases h with
  | unfound uncounted => exact (hnone uncounted).elim
  | uncounted _ uncounted => exact (hnone uncounted).elim
  | counted paged uncounted rows nonempty unknown tallied =>
      obtain ⟨row, hrow, hrows⟩ := rows
      refine ⟨Criteria.knownTotal_eq_zero paged unknown, ⟨row, List.mem_append_left _ hrow, hrows⟩,
        tallied.length_filter_eq uncounted hcount, fun page hpage => ?_⟩
      obtain rfl := Except.ok.inj hpage
      exact nonempty
  | unsettled paged uncounted rows unknown tallied =>
      obtain ⟨row, hrow, hrows⟩ := rows
      refine ⟨Criteria.knownTotal_eq_zero paged unknown, ⟨row, List.mem_append_left _ hrow, hrows⟩,
        tallied.length_filter_eq uncounted hcount, fun page hpage => ?_⟩
      cases hpage

/-- A page tells what is known after it. -/
theorem told {page : Page ε} (h : PageTurn schema c acts (.ok page) c') :
    page.Tells c'.knownTotal := by
  cases h with
  | @uncounted _ items paging paged =>
      rw [Criteria.knownTotal_of_paged paged]
      exact ⟨rfl, paging.toNat_pageCount⟩
  | @counted found tally items paging total =>
      exact ⟨rfl, (paging.setTotal total).toNat_pageCount⟩

/-- Where a page comes back, the total and the conditions are as they were,
and nothing was counted; or what was counted is the total. -/
theorem shown {page : Page ε} (h : PageTurn schema c acts (.ok page) c') :
    (c' = c ∧ counts acts = []) ∨
      (c.knownTotal = 0 ∧ c'.conditions = c.conditions ∧
        counts acts = [(c.suspendLimits.selection schema, c'.knownTotal)]) := by
  cases h with
  | uncounted _ uncounted => exact Or.inl ⟨rfl, uncounted.counts_eq_nil⟩
  | counted paged uncounted rows nonempty unknown tallied =>
      refine Or.inr ⟨Criteria.knownTotal_eq_zero paged unknown, rfl, ?_⟩
      rw [counts_append, uncounted.counts_eq_nil, List.nil_append]
      exact tallied.told.1 _ rfl

/-- Where no page comes back, the criteria is as it was, and what was
counted is lost because of a connection that could not be given back. -/
theorem lost {e : Error} (h : PageTurn schema c acts (.error e : Result (Page ε)) c') :
    c' = c ∧ (counts acts ≠ [] → ∃ act ∈ acts, act.isUnreleased = true) := by
  cases h with
  | unfound uncounted => exact ⟨rfl, fun hsome => absurd uncounted.counts_eq_nil hsome⟩
  | unsettled paged uncounted rows unknown tallied =>
      refine ⟨rfl, fun hsome => ?_⟩
      rw [counts_append, uncounted.counts_eq_nil, List.nil_append] at hsome
      obtain ⟨act, hact, hunreleased⟩ := tallied.told.2 e rfl hsome
      exact ⟨act, List.mem_append_right _ hact, hunreleased⟩

end PageTurn

/-! ### One turn -/

/-- The positive totals that were counted in a turn. -/
def Turned.positive (t : Turned ι ε) : List UInt64 :=
  ((counts t.acts).map (·.2)).filter (· ≠ 0)

namespace Turned.Goes

variable {schema : Schema ι} {t : Turned ι ε}

/-- A turn that counts is a page's, with what holds of it: the total was
not known, there are rows, there is one count, and the page has items. -/
theorem asked (h : t.Goes schema) (hcount : ∃ act ∈ t.acts, act.isCount = true) :
    t.before.knownTotal = 0 ∧ (∃ act ∈ t.acts, act.hasRows = true) ∧
      (t.acts.filter Act.isCount).length = 1 ∧ ∀ page, t.page? = some page → page.items ≠ [] := by
  have hidle (hacts : t.acts = []) : False := by
    obtain ⟨act, hact, -⟩ := hcount
    rw [hacts] at hact
    cases hact
  -- Only `turns` sends statements; the other turns count nothing.
  cases h with
  | renews _ idle => exact (hidle idle).elim
  | rests _ idle => exact (hidle idle).elim
  | @turns result _ turn hpage =>
      obtain ⟨hunknown, hrows, hone, hitems⟩ := turn.asked hcount
      refine ⟨hunknown, hrows, hone, fun page h => hitems page ?_⟩
      cases result with
      | error e => rw [hpage] at h; cases h
      | ok page' => rw [hpage] at h; rw [Option.some.inj h]

/-- A page that a turn gives back tells the total known after it. -/
theorem told (h : t.Goes schema) {page : Page ε} (hpage : t.page? = some page) :
    page.Tells t.after.knownTotal := by
  cases h with
  | renews _ _ pageless => rw [pageless] at hpage; cases hpage
  | rests _ _ pageless => rw [pageless] at hpage; cases hpage
  | @turns result _ turn h =>
      cases result with
      | error e => rw [h] at hpage; cases hpage
      | ok page' =>
          obtain rfl := Option.some.inj (h.symm.trans hpage)
          exact turn.told

/-- A count without a page was sent on a connection that could not be given
back. -/
theorem lost (h : t.Goes schema) (hpageless : t.page? = none) (hcounts : counts t.acts ≠ []) :
    ∃ act ∈ t.acts, act.isUnreleased = true := by
  cases h with
  | renews _ idle => rw [idle] at hcounts; exact absurd rfl hcounts
  | rests _ idle => rw [idle] at hcounts; exact absurd rfl hcounts
  | @turns result _ turn h =>
      cases result with
      | error e => exact turn.lost.2 hcounts
      | ok page' => rw [h] at hpageless; cases hpageless

/-- In a turn that leaves the conditions alone, the total stays as it is
and nothing is kept of what was counted; or it was not known, and is what
was counted. -/
theorem steady (h : t.Goes schema) (hsteady : t.renewed = false) :
    t.after.conditions = t.before.conditions ∧
      ((t.after.knownTotal = t.before.knownTotal ∧ (t.page?.isSome = true → counts t.acts = [])) ∨
        (t.before.knownTotal = 0 ∧ t.page?.isSome = true ∧
          counts t.acts = [(t.before.suspendLimits.selection schema, t.after.knownTotal)])) := by
  cases h with
  | renews renewed => rw [renewed] at hsteady; cases hsteady
  -- A use may register joins, and has no page.
  | rests _ _ pageless counted =>
      refine ⟨counted.1, Or.inl ⟨counted.2, fun hpage => ?_⟩⟩
      rw [pageless] at hpage
      cases hpage
  | @turns result _ turn h =>
      cases result with
      -- A page that fails leaves the criteria as it was.
      | error e =>
          rw [turn.lost.1, h]
          exact ⟨rfl, Or.inl ⟨rfl, fun hpage => by cases hpage⟩⟩
      | ok page =>
          rw [h]
          rcases turn.shown with ⟨hsame, hcounts⟩ | ⟨hunknown, hconditions, hcounts⟩
          · rw [hsame]
            exact ⟨rfl, Or.inl ⟨rfl, fun _ => hcounts⟩⟩
          · exact ⟨hconditions, Or.inr ⟨hunknown, rfl, hcounts⟩⟩

/-- After a turn that changes the conditions no total is known. -/
theorem renewed (h : t.Goes schema) (hrenewed : t.renewed = true) : t.after.knownTotal = 0 := by
  cases h with
  | renews _ _ _ unknown => exact unknown
  | rests steady => rw [steady] at hrenewed; cases hrenewed
  | turns steady => rw [steady] at hrenewed; cases hrenewed

/-- Nothing is counted while the total is known. -/
theorem uncounted (h : t.Goes schema) (hknown : t.before.knownTotal ≠ 0) : Uncounted t.acts := by
  intro act hact
  by_contra hcount
  exact hknown (h.asked ⟨act, hact, Bool.of_not_eq_false hcount⟩).1

end Turned.Goes

/-! ### Many turns -/

/-- The total was counted for the conditions when a page came back, and
since then conditions were left alone and nothing was counted. -/
def CountedIn (ts : List (Turned ι ε)) (conditions : List Condition) (total : UInt64) : Prop :=
  ∃ earlier t later selection, ts = earlier ++ t :: later ∧ t.page?.isSome = true ∧
    counts t.acts = [(selection, total)] ∧ selection.conditions = conditions ∧
    ∀ u ∈ later, u.renewed = false ∧ Uncounted u.acts

/-- What was counted stays so over a turn that neither changes conditions
nor counts. -/
theorem CountedIn.snoc {ts : List (Turned ι ε)} {conditions : List Condition} {total : UInt64}
    (h : CountedIn ts conditions total) {u : Turned ι ε} (hsteady : u.renewed = false)
    (huncounted : Uncounted u.acts) : CountedIn (ts ++ [u]) conditions total := by
  obtain ⟨earlier, t, later, selection, rfl, hpage, hcounts, hconditions, hlater⟩ := h
  refine ⟨earlier, t, later ++ [u], selection, by simp, hpage, hcounts, hconditions, ?_⟩
  exact List.forall_mem_append.mpr ⟨hlater, List.forall_mem_singleton.mpr ⟨hsteady, huncounted⟩⟩

/-- The positive totals that were counted where a page came back. -/
def kept (ts : List (Turned ι ε)) : List UInt64 :=
  (ts.filter (·.page?.isSome)).flatMap Turned.positive

/-- The totals kept in a run are those of the first turn and of the others. -/
theorem kept_cons (t : Turned ι ε) (ts : List (Turned ι ε)) :
    kept (t :: ts) = (if t.page?.isSome then t.positive else []) ++ kept ts := by
  unfold kept
  rw [List.filter_cons]
  split <;> rfl

namespace Passes

variable {schema : Schema ι} {c d : Criteria ι} {ts : List (Turned ι ε)}

/-- A total that gets known in a run was counted in it for the conditions
that there are. -/
theorem countedIn (h : Passes schema c ts d) (hc : c.knownTotal = 0) (hd : d.knownTotal ≠ 0) :
    CountedIn ts d.conditions d.knownTotal := by
  -- The last turn is the one that counted, or the total was known before it.
  induction ts using List.reverseRecOn generalizing d with
  | nil =>
      rw [h.of_nil] at hd
      exact absurd hc hd
  | append_singleton ts t ih =>
      obtain ⟨m, hearlier, hlast⟩ := h.split
      obtain ⟨rfl, goes, rfl⟩ := hlast.of_singleton
      have hsteady : t.renewed = false := by
        by_contra hrenewed
        exact hd (goes.renewed (Bool.of_not_eq_false hrenewed))
      obtain ⟨hconditions, ⟨hsame, -⟩ | ⟨-, hpage, hcounts⟩⟩ := goes.steady hsteady
      · rw [hconditions, hsame]
        rw [hsame] at hd
        exact (ih hearlier hd).snoc hsteady (goes.uncounted hd)
      · exact ⟨ts, t, [], _, rfl, hpage, hcounts, hconditions.symm, List.forall_mem_nil _⟩

/-- While conditions are left alone, one positive total is kept at most,
and none if one is known already. -/
theorem length_kept_le (h : Passes schema c ts d) (hsteady : ∀ t ∈ ts, t.renewed = false) :
    (kept ts).length ≤ if c.knownTotal = 0 then 1 else 0 := by
  -- Over the turns, for any known total at the start.
  induction h with
  | nil => exact Nat.zero_le _
  | @cons t ts d goes rest ih =>
      obtain ⟨ht, hts⟩ := List.forall_mem_cons.mp hsteady
      have hle := ih hts
      rw [kept_cons, List.length_append]
      obtain ⟨-, ⟨hsame, hcounts⟩ | ⟨hunknown, hpage, hcounts⟩⟩ := goes.steady ht
      · -- Nothing of this turn is kept.
        have hnone : (if t.page?.isSome then t.positive else []) = [] := by
          split
          · rename_i hpage
            rw [Turned.positive, hcounts hpage]
            rfl
          · rfl
        rw [hnone, List.length_nil, Nat.zero_add, ← hsame]
        exact hle
      · -- The total of this turn is kept; if it is positive, no other one is after it.
        rw [if_pos hpage, if_pos hunknown, Turned.positive, hcounts]
        by_cases htotal : t.after.knownTotal = 0
        · rw [if_pos htotal] at hle
          simpa [htotal] using hle
        · rw [if_neg htotal] at hle
          simpa [htotal] using hle

end Passes

/-! ### The run -/

/-- In a run of turns with a criteria whose total is not known at first and
whose page is not written by hand, over any source and with any hooks:

* a total that is known was counted once, when a page came back, for the
  conditions and values that the criteria has now;
* a count is sent only while the total is not known, once, for a page that
  has rows;
* a page that comes back tells the total that is known then, or 0, and how
  many pages it fills;
* between two turns that add or clear conditions at most one positive total
  is counted and kept; one that is not kept was counted on a connection that
  could not be given back.

What is noted down changes nothing. -/
theorem Dao.trace_cached [DecidableEq ι] (dao : Dao σ ι ε) {turns : List (Turn σ)}
    (hturns : ∀ turn ∈ turns, turn.Admissible) {c : Criteria ι} (hc : c.knownTotal = 0)
    (s : Session σ) :
    (∀ c s, let noted := dao.noted.findPage.exec (c, unnoted s)
      dao.findPage.exec (c, s) = (noted.1, (noted.2.1, noted.2.2.erased))) ∧
    (∀ earlier t later, dao.trace turns (c, s) = earlier ++ t :: later →
      (t.after.knownTotal ≠ 0 →
        CountedIn (earlier ++ [t]) t.after.conditions t.after.knownTotal) ∧
      ((∃ act ∈ t.acts, act.isCount = true) →
        t.before.knownTotal = 0 ∧ (∃ act ∈ t.acts, act.hasRows = true) ∧
          (t.acts.filter Act.isCount).length = 1 ∧
          ∀ page, t.page? = some page → page.items ≠ []) ∧
      (∀ page, t.page? = some page → page.Tells t.after.knownTotal) ∧
      (t.page? = none → t.positive ≠ [] → ∃ act ∈ t.acts, act.isUnreleased = true)) ∧
    (∀ earlier segment later, dao.trace turns (c, s) = earlier ++ segment ++ later →
      (∀ t ∈ segment, t.renewed = false) → (kept segment).length ≤ 1) := by
  obtain ⟨d, hpasses⟩ := dao.passes_trace hturns (c, s)
  refine ⟨fun c s => (dao.pageTurn c s).1, fun earlier t later htrace => ?_,
    fun earlier segment later htrace hsteady => ?_⟩
  · -- The turns up to this one start with an unknown total.
    rw [htrace, List.append_cons] at hpasses
    obtain ⟨m, huntil, -⟩ := hpasses.split
    obtain ⟨m', -, hlast⟩ := huntil.split
    obtain ⟨-, goes, rfl⟩ := hlast.of_singleton
    refine ⟨huntil.countedIn hc, goes.asked, fun page => goes.told, fun hpage hpositive => ?_⟩
    refine goes.lost hpage fun hnone => hpositive ?_
    rw [Turned.positive, hnone]
    rfl
  · rw [htrace] at hpasses
    -- The bound holds of a segment from any known total at its start.
    obtain ⟨m, hearlier, -⟩ := hpasses.split
    obtain ⟨m', -, hsegment⟩ := hearlier.split
    refine (hsegment.length_kept_le hsteady).trans ?_
    split
    · exact Nat.le_refl 1
    · exact Nat.zero_le 1

/-! ### Two runs -/

/-- What was counted positively in a turn, and the total that its page
told. -/
def Turned.shown (t : Turned ι ε) : List UInt64 × Option UInt64 :=
  (t.positive, t.page?.map (·.totalRows))

namespace Dao

/-- The first page, of three. -/
def firstPage : Criteria Unit :=
  { staffDao.criteria with paging := some ⟨3, 1, 0, true⟩ }

/-- The page is found twice, and once more for the people of one boss. -/
def visits : List (Turn Store) :=
  [.page, .page, .change (.filter .and "bossId" .membership (.array [.int64 7])), .page]

/-- The four people are counted for two pages, and the three of one boss are
counted again, for the condition that there is then. -/
theorem trace_cached_people :
    let visited := staffDao.trace visits (firstPage, .start staff)
    visited.map Turned.shown = [([4], some 4), ([], some 4), ([], none), ([3], some 3)] ∧
      ∃ conditions, conditions ≠ [] ∧ CountedIn visited conditions 3 := by
  -- The last turn is the one that the theorem is applied to.
  intro visited
  have hlast : visited.getLast?.map (fun t => (t.after.knownTotal, t.after.conditions.isEmpty))
      = some (3, false) := by decide +kernel
  obtain ⟨t, ht, htold⟩ := Option.map_eq_some_iff.mp hlast
  obtain ⟨hknown, hconditions⟩ := Prod.mk.inj htold
  have hsplit := List.dropLast_append_getLast? t ht
  have hvisits : ∀ turn ∈ visits, turn.Admissible := by
    simp [visits, Turn.Admissible, Criteria.Change.writesPaging]
  obtain ⟨-, hturns, -⟩ := trace_cached staffDao hvisits (c := firstPage) rfl (.start staff)
  obtain ⟨hcounted, -⟩ := hturns _ _ [] hsplit.symm
  rw [hsplit, hknown] at hcounted
  exact ⟨by decide +kernel, _, List.isEmpty_eq_false_iff.mp hconditions, hcounted (by decide)⟩

/-- The connection of the first count cannot be given back. -/
def losingScript : Script where
  release := [.ok (), .error (.database "gone")]
  fetch := [.ok [.of ["t_main.id"] [.int64 1]], .ok [.of ["COUNT(1)"] [.int64 5]],
    .ok [.of ["t_main.id"] [.int64 1]], .ok [.of ["COUNT(1)"] [.int64 5]]]

/-- Access to people that follow a script. -/
def scriptedDao : Dao Script Unit (Option Int64) :=
  ⟨Program.scripted, Program.peopleModel, (), {}⟩

/-- Five are counted for the page, and five again for the same page. -/
theorem trace_counted_twice :
    (scriptedDao.trace [.page, .page] (firstPage, .start losingScript)).map
        (fun t => (t.renewed, t.page?.isSome, t.positive))
      = [(false, false, [5]), (false, true, [5])] := by
  decide +kernel

end Dao

end DataAccess
