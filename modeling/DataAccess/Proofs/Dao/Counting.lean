import Mathlib.Algebra.Order.Floor.Div
import DataAccess.Proofs.Dao.Answering
import DataAccess.Proofs.Dao.Program

/-!
# `DataAccess.Proofs.Dao.Counting`: counts and finds of one criteria

A count and a find of the same criteria read the same rows of the same
tables. Over a source that answers both (`Answering`), the number that is
counted is that of the entities that are found without limit and page, and
a page that counts for itself says how many rows and pages there are
(`Dao.countByCriteria_found`).

This is so without groupings. With groupings a find brings one row of each
group and a count one number for each group, of which only the first one is
read: `Dao.countByCriteria_grouped` is a store where three is counted and
two are found.
-/

set_option autoImplicit false

namespace DataAccess

variable {σ ι ε ρ κ : Type}

/-- The pages that the rows fill, as a ceiling. -/
theorem Paging.toNat_pageCount (p : Paging) :
    p.pageCount.toNat = p.totalRows.toNat ⌈/⌉ p.pageSize.toNat := by
  have hle : p.totalRows.toNat ⌈/⌉ p.pageSize.toNat ≤ p.totalRows.toNat := by
    rcases Nat.eq_zero_or_pos p.pageSize.toNat with hsize | hsize
    · rw [hsize, Nat.ceilDiv_eq_add_pred_div, Nat.div_zero]
      exact Nat.zero_le _
    · rw [ceilDiv_le_iff_le_smul hsize]
      exact Nat.le_mul_of_pos_left _ hsize
  rw [pageCount, ← Nat.ceilDiv_eq_add_pred_div,
    UInt64.toNat_ofNat_of_lt' (hle.trans_lt p.totalRows.toNat_lt)]

namespace Dao

variable {dao : Dao σ ι ε} [DecidableEq κ] {store : Answering dao.db.source ρ κ} {c : Criteria ι}
  {s t : Session σ}

/-- Without groupings a count reads how many rows there are. -/
theorem tells_ungrouped {total : UInt64} {rows : List ρ} (hgroup : c.groupings = [])
    (h : Answering.Tells (countedRows store.key c.groupings rows) total) :
    total.toNat = rows.length := by
  rw [hgroup] at h
  rcases h with h | ⟨h, -⟩
  · exact List.mem_singleton.mp h
  · cases h

/-- A page that has rows and counts them tells the total. -/
theorem findPage_total (hhooks : dao.hooks.KeepsRows store) (hgroup : c.groupings = [])
    (hsmall : (store.rowsOf c s.world).length < 2 ^ 63) {paging : Paging} {page : Page ε}
    {c' : Criteria ι} (hpaging : c.paging = some paging) (hunknown : paging.isTotalKnown = false)
    (h : dao.findPage.exec (c, s) = (.ok page, (c', t))) (hitems : page.items ≠ []) :
    page.totalRows.toNat = (store.rowsOf c s.world).length ∧
      page.pageCount.toNat = page.totalRows.toNat ⌈/⌉ page.pageSize.toNat := by
  rcases hfind : (dao.findByCriteria c).exec s with ⟨e | items, t'⟩
  · rw [findPage_unfound dao hpaging hfind] at h
    cases h
  · cases hempty : items.isEmpty with
    | true =>
        rw [findPage_uncounted dao hpaging hfind (by rw [hempty]; rfl)] at h
        obtain rfl := Except.ok.inj (congrArg Prod.fst h)
        exact absurd (List.isEmpty_iff.mp hempty) hitems
    | false =>
        -- The count is made in the state that the find left, with the same rows in it.
        obtain ⟨hsame, -⟩ := Answering.findByCriteria_ok hhooks hfind
        have hrows : store.rowsOf c t'.world = store.rowsOf c s.world := by
          rw [Answering.rowsOf, Answering.rowsOf, show store.matched t'.world = _ from hsame]
        rw [← hrows] at hsmall ⊢
        obtain ⟨total, u, hcount, -, htells⟩ := Answering.counting_ok hsmall
        rw [findPage_counted dao hpaging hfind (by rw [hempty, hunknown]; rfl) hcount] at h
        obtain rfl := Except.ok.inj (congrArg Prod.fst h)
        exact ⟨tells_ungrouped hgroup htells, (paging.setTotal total).toNat_pageCount⟩

/-- A count returns a total and leaves the criteria as it was. Without
groupings as many entities are found without limit and page; a page of the
criteria has what there is of them from its start on; and a page with rows
whose total was not known tells this total, and how many pages it fills.
With groupings as many are found as there are groups, and the total is the
number of rows in one of them, or 0 if there is none. -/
theorem countByCriteria_found (dao : Dao σ ι ε) (store : Answering dao.db.source ρ κ)
    (hhooks : dao.hooks.KeepsRows store) (c : Criteria ι) (s : Session σ)
    (hsmall : (store.rowsOf c s.world).length < 2 ^ 63) :
    ∃ total s', dao.countByCriteria.exec (c, s) = (.ok total, (c, s')) ∧
      (c.groupings = [] →
        (∀ items t, (dao.findByCriteria c.suspendLimits).exec s = (.ok items, t) →
          items.length = total.toNat) ∧
        (∀ paging items t, paging.enabled = true →
          (dao.findByCriteria (c.setPaging paging)).exec s = (.ok items, t) →
          items.length = min paging.pageSize.toNat (total.toNat - paging.startIndex.toNat)) ∧
        (∀ paging page c' t, c.paging = some paging → paging.isTotalKnown = false →
          dao.findPage.exec (c, s) = (.ok page, (c', t)) → page.items ≠ [] →
          page.totalRows = total ∧
            page.pageCount.toNat = total.toNat ⌈/⌉ page.pageSize.toNat)) ∧
      (c.groupings ≠ [] →
        (∀ items t, (dao.findByCriteria c.suspendLimits).exec s = (.ok items, t) →
          items.length
            = (groupValues store.key c.groupings (store.rowsOf c s.world)).dedup.length) ∧
        Answering.Tells (countedRows store.key c.groupings (store.rowsOf c s.world)) total) := by
  obtain ⟨total, s', hcount, -, htells⟩ := Answering.counting_ok hsmall
  -- A find shows the rows that match, one of each group if there are groupings.
  have hfound (items t) (h : (dao.findByCriteria c.suspendLimits).exec s = (.ok items, t)) :
      items.length = foundRows store.key c.groupings (store.rowsOf c s.world) := by
    rw [(Answering.findByCriteria_ok hhooks h).2, Criteria.window_suspendLimits]
    rfl
  refine ⟨total, s', ?_, fun hgroup => ?_, fun hgroup => ⟨fun items t h => ?_, htells⟩⟩
  · rw [countByCriteria_exec, hcount]
  · have htotal := tells_ungrouped hgroup htells
    refine ⟨fun items t h => ?_, fun paging items t henabled h => ?_,
      fun paging page c' t hpaging hunknown h hitems => ?_⟩
    · rw [hfound items t h, hgroup, htotal]
      rfl
    · have hwindow : (c.setPaging paging).window = .page paging := by
        rw [Criteria.window, Criteria.setPaging, Option.filter_some_pos henabled]
      -- A page shows what is left from its start on, up to its size.
      rw [(Answering.findByCriteria_ok hhooks h).2, hwindow, htotal]
      show Window.cut (foundRows store.key c.groupings (store.rowsOf c s.world)) (.page paging) = _
      rw [hgroup]
      rfl
    · obtain ⟨hrows, hpages⟩ := findPage_total hhooks hgroup hsmall hpaging hunknown h hitems
      obtain rfl : page.totalRows = total := UInt64.toNat_inj.mp (hrows.trans htotal.symm)
      exact ⟨rfl, hpages⟩
  · rw [hfound items t h, foundRows, if_neg (by rwa [List.isEmpty_iff])]

/-! ### Four people -/

/-- A person with a boss. -/
def person (id boss : Int64) : TableRow := fun column =>
  if column = "id" then .int64 id else if column = "boss_id" then .int64 boss else .null

/-- Three people have one boss, and one has another. -/
def staff : Store := fun table =>
  if table = "people" then [person 1 7, person 2 7, person 3 7, person 4 8] else []

/-- Access to them. -/
def staffDao : Dao Store Unit (Option Int64) where
  db := .of Store.reader
  model := Program.peopleModel
  kind := ()

/-- The second page, of three. -/
def secondPage : Criteria Unit :=
  { staffDao.criteria with paging := some ⟨3, 2, 0, true⟩ }

/-- Four people are counted as they are found, and one of them is on the
second page of three. -/
theorem countByCriteria_found_staff :
    (staffDao.countByCriteria.exec (secondPage, .start staff)).1.toOption = some 4 ∧
      (staffDao.findPage.exec (secondPage, .start staff)).1.toOption.map
        (fun page => (page.items.length, page.totalRows, page.pageCount)) = some (1, 4, 2) := by
  obtain ⟨total, s', hcount, hungrouped, -⟩ := countByCriteria_found staffDao Store.answering
    (Interceptor.keepsRows_of_none Store.answering) secondPage (.start staff) (by decide +kernel)
  obtain ⟨hfound, -, hpage⟩ := hungrouped rfl
  -- What is found, without and with the page.
  have hitems : ((staffDao.findByCriteria secondPage.suspendLimits).exec
      (.start staff)).1.toOption.map List.length = some 4 := by decide +kernel
  have hshown : (staffDao.findPage.exec (secondPage, .start staff)).1.toOption.map
      (fun page => (page.items.length, page.pageSize)) = some (1, 3) := by decide +kernel
  rcases hfind : (staffDao.findByCriteria secondPage.suspendLimits).exec (.start staff)
    with ⟨e | items, t⟩ <;> rw [hfind] at hitems
  · cases hitems
  rcases hrun : staffDao.findPage.exec (secondPage, .start staff)
    with ⟨e | page, c', q⟩ <;> rw [hrun] at hshown
  · cases hshown
  obtain ⟨hlength, hsize⟩ := Prod.mk.inj (Option.some.inj hshown)
  have htotal : total = 4 :=
    UInt64.toNat_inj.mp ((hfound items t hfind).symm.trans (Option.some.inj hitems))
  have hsome : page.items ≠ [] := by
    intro hnone
    rw [hnone] at hlength
    cases hlength
  obtain ⟨htold, hpages⟩ := hpage _ page c' q rfl rfl hrun hsome
  have hcounted : page.pageCount = 2 := by
    rw [htotal, hsize] at hpages
    exact UInt64.toNat_inj.mp hpages
  refine ⟨?_, ?_⟩
  · rw [hcount, htotal]
    rfl
  · show some (page.items.length, page.totalRows, page.pageCount) = _
    rw [hlength, htold, htotal, hcounted]

/-- Grouped by their bosses. -/
def byBoss : Criteria Unit :=
  ((Criteria.addGrouping Criteria.people "bossId").exec staffDao.criteria).2

/-- Two are found, one of each group, but the count is that of the first
group. -/
theorem countByCriteria_grouped :
    ((staffDao.findByCriteria byBoss.suspendLimits).exec (.start staff)).1.toOption.map List.length
        = some 2 ∧
      (staffDao.countByCriteria.exec (byBoss, .start staff)).1.toOption = some 3 := by
  decide +kernel

end Dao

end DataAccess
