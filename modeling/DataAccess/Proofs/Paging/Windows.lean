import DataAccess.Proofs.Dao.Counting
import DataAccess.Proofs.Dao.PageTurn
import DataAccess.Proofs.Value.Coercion

/-!
# `DataAccess.Proofs.Paging.Windows`: the windows of a paged query

A window is started and then moved, told its total, made to forget it, and
switched on and off, in any order and with any numbers of 64 bits
(`Paging.Reached`). The number of its first row always fits in an offset
(`Paging.Sound`): each of the moves keeps this.

From this alone all of the arithmetic is exact (`Paging.Exact`): no product
is cut off, nothing is divided by zero, the pages tile the rows that there
are, and from every page but the last one the next can be moved to. For the
last point the total has to fit in an offset, too. It does if it was
counted, since a count is read as a number of 64 bits with a sign
(`Dao.tally_le`, `Database.countOf_le`).

`Paging.reached_exact` is the principal theorem.
-/

set_option autoImplicit false

namespace DataAccess

variable {σ ι ε : Type}

/-! ### Totals that are counted -/

/-- A value holds no greater number than a 64-bit one with a sign, which
fits in an offset. -/
theorem Value.as_uint64_le {v : Value} {n : UInt64} (h : v.as UInt64 = .ok n) :
    n.toNat ≤ Paging.greatestOffset := by
  obtain ⟨i, hi⟩ := v.exists_toInt_of_whole? ((v.as_uint64_eq_ok_iff n).mp h)
  have hlt := i.toInt_lt
  rw [hi] at hlt
  rw [Paging.greatestOffset]
  omega

/-- The total of a count fits in an offset. -/
theorem Dao.tally_le {rows : List Row} {total : UInt64} (h : Dao.tally rows = .ok total) :
    total.toNat ≤ Paging.greatestOffset := by
  unfold Dao.tally at h
  split at h
  · obtain ⟨value, -, hvalue⟩ := Result.bind_eq_ok.mp h
    exact Value.as_uint64_le hvalue
  · obtain rfl := Except.ok.inj h
    exact Nat.zero_le _

/-- The total of a counted query fits in an offset; it is zero without a
number and for a negative one. -/
theorem Database.countOf_le (total : Option Int64) :
    (Database.countOf total).toNat ≤ Paging.greatestOffset := by
  unfold Database.countOf
  split
  next n =>
    split
    · exact Nat.zero_le _
    next hneg =>
      -- A number that is not negative is the same without a sign.
      have hpos : 0 ≤ n.toInt := by
        rw [Int64.lt_iff_toInt_lt] at hneg
        exact not_lt.mp hneg
      have hsame := Value.toNat_toUInt64 hpos
      have hlt := n.toInt_lt
      rw [Paging.greatestOffset]
      omega
  · exact Nat.zero_le _

namespace Dao

variable (dao : Dao σ ι ε) (c : Criteria ι)

/-- What counting returns is the tally of its rows. -/
theorem returns_counting :
    Work.Returns (fun total => total.toNat ≤ Paging.greatestOffset) (dao.counting c) := by
  have hfetch (statement : Statement) :
      Work.Returns (fun total : UInt64 => total.toNat ≤ Paging.greatestOffset)
        (dao.fetchCount statement) := by
    rw [fetchCount_eq]
    exact Work.returns_bind (R := fun _ => True) (fun _ _ _ _ => trivial) fun rows _ =>
      Work.returns_ofResult fun _ => tally_le
  exact Work.returns_enclosed (Work.returns_mapError _ (hfetch _))

/-- To find a page leaves the criteria as it is, or tells its window a total
that fits in an offset. -/
theorem findPage_criteria {paging : Paging} (s : Session σ) (h : c.paging = some paging) :
    (dao.findPage.exec (c, s)).2.1 = c ∨
      ∃ total : UInt64, total.toNat ≤ Paging.greatestOffset ∧
        (dao.findPage.exec (c, s)).2.1 = c.setPaging (paging.setTotal total) := by
  rcases hfind : (dao.findByCriteria c).exec s with ⟨e | items, t⟩
  · rw [findPage_unfound dao h hfind]
    exact .inl rfl
  cases hdone : (items.isEmpty || paging.isTotalKnown) with
  | true =>
      rw [findPage_uncounted dao h hfind hdone]
      exact .inl rfl
  | false =>
      -- Only a count that succeeds tells the window its total.
      rcases hcount : (dao.counting c).exec t with ⟨e | total, u⟩
      · rw [findPage_unsettled dao h hfind hdone hcount]
        exact .inl rfl
      · rw [findPage_counted dao h hfind hdone hcount]
        exact .inr ⟨total, returns_counting dao c t total u hcount, rfl⟩

end Dao

namespace Paging

/-! ### The moves -/

/-- What can be done to a window. -/
inductive Move where
  | page (number : UInt64)
  | total (rows : UInt64)
  | forget
  | enable (enabled : Bool)
  deriving DecidableEq, Repr

/-- The work of a move. -/
def Move.work : Move → Work Paging Unit
  | .page number => do
    let p ← get
    let moved ← Work.ofResult (p.setPage number)
    set moved
  | .total rows => modify fun p => p.setTotal rows
  | .forget => modify Paging.resetTotal
  | .enable enabled => modify fun p => p.setEnabled enabled

/-- A window that was started and then moved, whether the moves were
refused or not. -/
inductive Reached : Paging → Prop
  | start (size : UInt64) {p : Paging} (started : Paging.start size = .ok p) : Reached p
  | withPage (size page : UInt64) {p : Paging} (started : Paging.withPage size page = .ok p) :
    Reached p
  | moved {p : Paging} (reached : Reached p) (move : Move) : Reached (move.work.exec p).2

/-- The number of the first row of the page `number`, without a bound. -/
def offset (p : Paging) (number : Nat) : Nat :=
  (number - 1) * p.pageSize.toNat

/-- Pages have rows and are numbered from 1, and the number of the first
row of the page fits in an offset. -/
structure Sound (p : Paging) : Prop where
  size : 1 ≤ p.pageSize.toNat
  page : 1 ≤ p.page.toNat
  offset : p.offset p.page.toNat ≤ greatestOffset

variable {p q : Paging} {number : UInt64}

/-- A page can be moved to if it is one, and the number of its first row
fits in an offset. -/
theorem setPage_of_le (hnumber : 1 ≤ number.toNat)
    (hoffset : p.offset number.toNat ≤ greatestOffset) :
    p.setPage number = .ok { p with page := number } := by
  have hne : number ≠ 0 := by
    rintro rfl
    exact absurd hnumber (by decide)
  rw [setPage, if_neg hne]
  exact if_pos hoffset

/-- A page is moved to only if it is one, and only if the number of its
first row fits in an offset. -/
theorem setPage_eq_ok (h : p.setPage number = .ok q) :
    1 ≤ number.toNat ∧ p.offset number.toNat ≤ greatestOffset ∧ q = { p with page := number } := by
  unfold setPage at h
  -- The first check is of the number, and the second one of the offset.
  split at h
  · cases h
  next hne =>
    have hnumber : 1 ≤ number.toNat :=
      Nat.one_le_iff_ne_zero.mpr fun hzero => hne (UInt64.toNat_inj.mp hzero)
    split at h
    next hoffset =>
      obtain rfl := Except.ok.inj h
      exact ⟨hnumber, hoffset, rfl⟩
    · cases h

/-- A move to a page changes the window, or leaves it with an error. -/
theorem exec_page (p : Paging) (number : UInt64) :
    (Move.page number).work.exec p =
      match p.setPage number with
      | .ok moved => (.ok (), moved)
      | .error e => (.error e, p) := by
  rw [Move.work, Work.exec_get_bind, Work.exec_bind, Work.exec_ofResult]
  cases p.setPage number <;> rfl

/-- A window is sound after a move to a page. -/
theorem sound_setPage (hsize : 1 ≤ p.pageSize.toNat) (h : p.setPage number = .ok q) : q.Sound := by
  obtain ⟨hnumber, hoffset, rfl⟩ := setPage_eq_ok h
  exact ⟨hsize, hnumber, hoffset⟩

/-- A window is sound from the beginning. -/
theorem sound_withPage {size page : UInt64} (h : withPage size page = .ok p) : p.Sound := by
  unfold withPage at h
  split at h
  · cases h
  next hne =>
    refine sound_setPage ?_ h
    exact Nat.one_le_iff_ne_zero.mpr fun hzero => hne (UInt64.toNat_inj.mp hzero)

/-- Every move keeps a window sound, also one that is refused. -/
theorem Move.keeps_sound (move : Move) : Work.Keeps Sound move.work := by
  intro p h
  cases move with
  | page number =>
      rw [exec_page]
      cases hmoved : p.setPage number with
      | error e => exact h
      | ok moved => exact sound_setPage h.size hmoved
  -- The other moves write neither the page nor its size.
  | total | forget | enable => exact ⟨h.size, h.page, h.offset⟩

/-- So every window that is reached is sound, by induction on the moves to
it. -/
theorem Reached.sound (h : p.Reached) : p.Sound := by
  induction h with
  | start _ started => exact sound_withPage started
  | withPage _ _ started => exact sound_withPage started
  | moved _ move ih => exact move.keeps_sound _ ih

/-! ### The arithmetic -/

/-- The page `number` has the row `index`. -/
def Shows (p : Paging) (number index : Nat) : Prop :=
  (number - 1) * p.pageSize.toNat ≤ index ∧ index < number * p.pageSize.toNat

/-- A page after `n` others is one of the count if there are rows for it. -/
theorem lt_pageCount_iff (hsize : 1 ≤ p.pageSize.toNat) {n : Nat} :
    n < p.pageCount.toNat ↔ n * p.pageSize.toNat < p.totalRows.toNat := by
  rw [toNat_pageCount, ← not_le, ceilDiv_le_iff_le_mul hsize, not_le, Nat.mul_comm]

/-- There is a next page just if there are rows after this one. -/
theorem hasNext_iff (hsize : 1 ≤ p.pageSize.toNat) :
    p.hasNext = true ↔ p.page.toNat * p.pageSize.toNat < p.totalRows.toNat := by
  rw [hasNext, decide_eq_true_iff, UInt64.lt_iff_toNat_lt, lt_pageCount_iff hsize]

/-- A row is on the page that its number divided by the rows of a page
gives, and on no other. -/
theorem shows_iff (hsize : 1 ≤ p.pageSize.toNat) {n i : Nat} (hn : 1 ≤ n) :
    p.Shows n i ↔ n = i / p.pageSize.toNat + 1 := by
  obtain ⟨k, rfl⟩ := Nat.exists_eq_add_of_le' hn
  rw [Shows, Nat.add_sub_cancel, Nat.succ_inj, eq_comm, Nat.div_eq_iff hsize]
  constructor
  · rintro ⟨hle, hlt⟩
    exact ⟨hle, by rw [Nat.succ_mul] at hlt; omega⟩
  · rintro ⟨hle, hlt⟩
    exact ⟨hle, by rw [Nat.succ_mul]; omega⟩

/-- Every row is on one page and on no other. -/
theorem existsUnique_page (hsize : 1 ≤ p.pageSize.toNat) {i : Nat} (hi : i < p.totalRows.toNat) :
    ∃! n, (1 ≤ n ∧ n ≤ p.pageCount.toNat) ∧ p.Shows n i := by
  -- The page starts at or before the row, so before the end of all rows.
  have hcount : i / p.pageSize.toNat < p.pageCount.toNat :=
    (lt_pageCount_iff hsize).mpr ((Nat.div_mul_le_self i _).trans_lt hi)
  refine ⟨i / p.pageSize.toNat + 1, ⟨⟨Nat.succ_pos _, hcount⟩, ?_⟩, ?_⟩
  · exact (shows_iff hsize (Nat.succ_pos _)).mpr rfl
  · rintro n ⟨⟨hn, -⟩, hshows⟩
    exact (shows_iff hsize hn).mp hshows

/-- The number of the first row of a sound window is not cut off. -/
theorem Sound.toNat_startIndex (h : p.Sound) :
    p.startIndex.toNat = p.offset p.page.toNat := by
  have hword : p.offset p.page.toNat < UInt64.size := h.offset.trans_lt (by decide)
  show (UInt64.ofNat (min (p.offset p.page.toNat) (UInt64.size - 1))).toNat = _
  rw [min_eq_left (Nat.le_sub_one_of_lt hword), UInt64.toNat_ofNat_of_lt' hword]

/-- The arithmetic of a window in 64 bits is that of the unbounded
numbers. -/
structure Exact (p : Paging) : Prop extends Sound p where
  /-- A page is moved to if the number of its first row fits in an offset. -/
  accepted : ∀ number : UInt64, 1 ≤ number.toNat → p.offset number.toNat ≤ greatestOffset →
    (Move.page number).work.exec p = (.ok (), { p with page := number })
  /-- A move that is refused changes nothing. -/
  refused : ∀ number : UInt64, ¬(1 ≤ number.toNat ∧ p.offset number.toNat ≤ greatestOffset) →
    ∃ e, (Move.page number).work.exec p = (.error e, p)
  /-- The number of the first row is not cut off. -/
  start : p.startIndex.toNat = p.offset p.page.toNat
  /-- As many pages are counted as the rows fill. -/
  count : p.pageCount.toNat = p.totalRows.toNat ⌈/⌉ p.pageSize.toNat
  /-- The pages tile the rows. -/
  tiled : ∀ i < p.totalRows.toNat, ∃! n, (1 ≤ n ∧ n ≤ p.pageCount.toNat) ∧ p.Shows n i
  /-- There is a page after this one if there are rows after those on it. -/
  next : p.hasNext = true ↔ p.page.toNat * p.pageSize.toNat < p.totalRows.toNat
  /-- The page after this one can be moved to, and there are rows on it. -/
  turned : p.totalRows.toNat ≤ greatestOffset → p.hasNext = true →
    ∃ moved, (Move.page (p.page + 1)).work.exec p = (.ok (), moved) ∧
      moved.page.toNat = p.page.toNat + 1 ∧ moved.startIndex.toNat < p.totalRows.toNat

/-- There is a page after this one only if its number is one of 64 bits. -/
theorem toNat_page_add_one (h : p.hasNext = true) : (p.page + 1).toNat = p.page.toNat + 1 := by
  have hlt : p.page.toNat < p.pageCount.toNat :=
    UInt64.lt_iff_toNat_lt.mp (of_decide_eq_true h)
  have hword := p.pageCount.toNat_lt
  rw [UInt64.toNat_add, UInt64.toNat_one, Nat.mod_eq_of_lt (by omega)]

/-- All that a sound window computes is exact. -/
theorem Sound.exact (h : p.Sound) : p.Exact where
  toSound := h
  accepted number hnumber hoffset := by
    rw [exec_page, setPage_of_le hnumber hoffset]
  refused number hrefused := by
    rw [exec_page]
    cases hmoved : p.setPage number with
    | error e => exact ⟨e, rfl⟩
    | ok moved =>
        obtain ⟨hnumber, hoffset, -⟩ := setPage_eq_ok hmoved
        exact absurd ⟨hnumber, hoffset⟩ hrefused
  start := h.toNat_startIndex
  count := p.toNat_pageCount
  tiled i hi := existsUnique_page h.size hi
  next := hasNext_iff h.size
  turned htotal hnext := by
    have hnumber := toNat_page_add_one hnext
    -- The next page starts where this one ends, which is before the last row.
    have hstart : p.offset (p.page + 1).toNat < p.totalRows.toNat := by
      rw [hnumber, Paging.offset, Nat.add_sub_cancel]
      exact (hasNext_iff h.size).mp hnext
    have hmoved : p.setPage (p.page + 1) = .ok { p with page := p.page + 1 } :=
      setPage_of_le (by omega) (hstart.le.trans htotal)
    refine ⟨{ p with page := p.page + 1 }, ?_, hnumber, ?_⟩
    · rw [exec_page, hmoved]
    · rw [(sound_setPage h.size hmoved).toNat_startIndex]
      exact hstart

/-- In every window that is reached the arithmetic is exact. The totals
that a counted query and a page that is found store in a window fit in an
offset, and leave it one that is reached. -/
theorem reached_exact (h : p.Reached) (dao : Dao σ ι ε) :
    p.Exact ∧
      (∀ (count : Sql) (size page : UInt64) (s t : Session σ) (counted : Paging),
        (dao.db.countedPaging count size page).exec s = (.ok counted, t) →
          counted.Reached ∧ counted.totalRows.toNat ≤ greatestOffset) ∧
      ∀ (c : Criteria ι) (s : Session σ), c.paging = some p →
        (dao.findPage.exec (c, s)).2.1 = c ∨
          ∃ total : UInt64, total.toNat ≤ greatestOffset ∧ (p.setTotal total).Reached ∧
            (dao.findPage.exec (c, s)).2.1 = c.setPaging (p.setTotal total) := by
  have htold {p : Paging} (h : p.Reached) (total : UInt64) : (p.setTotal total).Reached :=
    h.moved (.total total)
  refine ⟨h.sound.exact, fun count size page s t counted hrun => ?_, fun c s hpaging => ?_⟩
  -- A counted query starts a window and tells it the total.
  · obtain ⟨started, hstarted, hrun⟩ := Work.exec_ofResult_bind_eq_ok.mp hrun
    obtain ⟨total, u, -, hcounted⟩ := Work.exec_bind_eq_ok.mp hrun
    cases hcounted
    exact ⟨htold (.withPage size page hstarted) _, Database.countOf_le total⟩
  · refine (dao.findPage_criteria c s hpaging).imp_right ?_
    rintro ⟨total, htotal, hfound⟩
    exact ⟨total, htotal, htold h total, hfound⟩

/-! ### The greatest totals -/

/-- The last page but one of the greatest total that can be counted, with
three rows on a page. -/
def beforeLast : Paging :=
  ⟨3, 3074457345618258602, 9223372036854775807, true⟩

/-- It is reached although a move is refused on the way. -/
theorem reached_beforeLast : beforeLast.Reached :=
  have started : Reached ⟨3, 1, 0, true⟩ := .withPage 3 1 rfl
  have refused : Reached ⟨3, 1, 0, true⟩ := started.moved (.page 18446744073709551615)
  (refused.moved (.total 9223372036854775807)).moved (.page 3074457345618258602)

/-- The last page can be moved to, and has one row. -/
theorem exact_beforeLast :
    ∃ moved, (Move.page (beforeLast.page + 1)).work.exec beforeLast = (.ok (), moved) ∧
      moved.page.toNat = 3074457345618258603 ∧ moved.startIndex.toNat < 9223372036854775807 := by
  obtain ⟨hexact, -, -⟩ := reached_exact reached_beforeLast Dao.staffDao
  exact hexact.turned (by decide) (by decide +kernel)

/-- With a greater total there may be a page that cannot be moved to. -/
example :
    let p : Paging := ⟨9223372036854775808, 1, 18446744073709551615, true⟩
    p.Reached ∧ p.hasNext = true ∧ (p.setPage 2).toOption = none :=
  ⟨.moved (.start 9223372036854775808 rfl) (.total 18446744073709551615),
    by decide +kernel, by decide +kernel⟩

end Paging

end DataAccess
