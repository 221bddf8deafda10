import DataAccess.Proofs.Criteria.Rejection

/-!
# `DataAccess.Proofs.Criteria.KnownTotal`: the total that a criteria knows

A paged criteria keeps the total that was counted for it inside of its
page. It is the total of its conditions: a change that adds or clears
conditions forgets it (`Change.forgets`), unless the change fails, and any
other change leaves both the conditions and the total as they are
(`Change.keeps_counted`). Only the changes that write the page itself are
free to do as they like.
-/

set_option autoImplicit false

namespace DataAccess

variable {ι : Type}

/-- A page that is moved to has the total of the one before. -/
theorem Paging.totalRows_of_setPage {p moved : Paging} {number : UInt64}
    (h : p.setPage number = .ok moved) : moved.totalRows = p.totalRows := by
  unfold setPage at h
  split at h
  · cases h
  · split at h
    · obtain rfl := Except.ok.inj h
      rfl
    · cases h

namespace Criteria

/-- The total that is known, or 0. -/
def knownTotal (c : Criteria ι) : UInt64 :=
  (c.paging.map (·.totalRows)).getD 0

/-- The change adds conditions or clears them. -/
def Change.renews : Change → Bool
  | .filter .. | .condition .. | .clearConditions | .clear => true
  | _ => false

/-- The change writes the page, or takes it away. -/
def Change.writesPaging : Change → Bool
  | .paging _ | .clearPaging | .rowSelection => true
  | _ => false

/-- The conditions are those of `c₀`, and so is the total that is known. -/
def CountedAs (c₀ c : Criteria ι) : Prop :=
  c.conditions = c₀.conditions ∧ c.knownTotal = c₀.knownTotal

section Changes
variable (schema : Schema ι) (c₀ : Criteria ι)

/-- Registering joins changes neither the conditions nor the known total. -/
theorem resolvable_countedAs : Resolvable schema (fun _ => True) (CountedAs c₀) where
  dotFree _ _ := trivial
  resolve _ _ _ _ :=
    Work.keeps_within (R := fun _ => True) (fun _ _ => trivial) (fun _ _ => trivial)
      fun _ _ h _ => h
  restore _ _ _ h := h

/-- A change of neither the conditions nor the known total. -/
theorem keeps_counted_modify {f : Criteria ι → Criteria ι}
    (h : ∀ c, (f c).conditions = c.conditions ∧ (f c).knownTotal = c.knownTotal) :
    Work.Keeps (CountedAs c₀) (modify f : Work (Criteria ι) PUnit) :=
  Work.keeps_modify fun c hc => ⟨(h c).1.trans hc.1, (h c).2.trans hc.2⟩

/-- Another page of the same rows. -/
theorem keeps_counted_setPage (number : UInt64) :
    Work.Keeps (CountedAs c₀) (setPage (ι := ι) number) := by
  intro c hc
  rw [setPage, Work.exec_get_bind]
  cases hpaging : c.paging with
  | none => exact hc
  | some paging =>
      dsimp only
      cases hmoved : paging.setPage number with
      | error e =>
          rw [Work.exec_bind_error (Work.exec_ofResult _ _)]
          exact hc
      | ok moved =>
          rw [Work.exec_bind_ok (Work.exec_ofResult _ _)]
          -- Another page has the total of the one before.
          refine ⟨hc.1, Eq.trans ?_ hc.2⟩
          show moved.totalRows = c.knownTotal
          rw [Paging.totalRows_of_setPage hmoved, knownTotal, hpaging]
          rfl

/-- A change that neither adds nor clears conditions nor writes the page
leaves conditions and total as they are, whether it fails or not. -/
theorem Change.keeps_counted {change : Change} (hrenews : change.renews = false)
    (hwrites : change.writesPaging = false) :
    Work.Keeps (CountedAs c₀) (change.work schema) := by
  have hresolve := resolvable_countedAs schema c₀
  cases change with
  | filter | condition | clearConditions | clear => cases hrenews
  | paging | clearPaging | rowSelection => cases hwrites
  | order field direction =>
      exact Work.keeps_bind (hresolve.resolveField field) fun column =>
        keeps_counted_modify c₀ fun c => ⟨rfl, rfl⟩
  | grouping field =>
      exact Work.keeps_bind (hresolve.resolveField field) fun column =>
        keeps_counted_modify c₀ fun c => ⟨rfl, rfl⟩
  | fetchPath path => exact hresolve.fetchPath trivial
  | fetch path => exact hresolve.fetchPath trivial
  | fetches paths => exact hresolve.addFetches paths
  | resolve name =>
      exact Work.keeps_bind (hresolve.resolveField name) fun column => Work.keeps_pure _
  | page number => exact keeps_counted_setPage c₀ number
  | limit _ | clearOrders | clearGroupings | clearFetches | clearLimit =>
      exact keeps_counted_modify c₀ fun c => ⟨rfl, rfl⟩
  -- The page is switched on or off, with the total in it.
  | suspendLimits =>
      refine keeps_counted_modify c₀ fun c => ⟨rfl, ?_⟩
      rw [knownTotal, knownTotal, Criteria.suspendLimits, Option.map_map]
      rfl
  | restoreLimits saved =>
      refine keeps_counted_modify c₀ fun c => ⟨rfl, ?_⟩
      cases hpaging : c.paging <;> cases henabled : saved.pagingEnabled <;>
        simp [knownTotal, Criteria.restoreLimits, hpaging, henabled, Paging.setEnabled]

/-- Conditions that are added make the total unknown. -/
theorem knownTotal_withCondition (condition : Condition) (c : Criteria ι) :
    (c.withCondition condition).knownTotal = 0 := by
  cases hpaging : c.paging <;> simp [knownTotal, withCondition, hpaging, Paging.resetTotal]

/-- Without conditions the total is not known. -/
theorem knownTotal_clearConditions (c : Criteria ι) : c.clearConditions.knownTotal = 0 := by
  cases hpaging : c.paging <;> simp [knownTotal, clearConditions, hpaging, Paging.resetTotal]

variable {schema c₀}

/-- A change that adds or clears conditions makes the total unknown, if it
does not fail. -/
theorem Change.forgets {change : Change} (hrenews : change.renews = true) {c c' : Criteria ι}
    (h : (change.work schema).exec c = (.ok (), c')) : c'.knownTotal = 0 := by
  -- Only filters, templates and clearing the conditions count as renewing.
  cases change with
  | filter connector field comparison value =>
      obtain ⟨values, -, h⟩ := Work.exec_ofResult_bind_eq_ok.mp h
      obtain ⟨column, c₁, -, h⟩ := Work.exec_bind_eq_ok.mp h
      obtain rfl := congrArg Prod.snd h
      exact knownTotal_withCondition _ c₁
  | condition connector template values =>
      rw [Change.work, addCondition_eq] at h
      split at h
      · cases h
      · split at h
        · cases h
        · obtain ⟨text, c₁, -, h⟩ := Work.exec_bind_eq_ok.mp h
          obtain rfl := congrArg Prod.snd h
          exact knownTotal_withCondition _ c₁
  | clearConditions =>
      obtain rfl := congrArg Prod.snd h
      exact knownTotal_clearConditions c
  | clear =>
      obtain rfl := congrArg Prod.snd h
      exact knownTotal_clearConditions c
  | _ => cases hrenews

end Changes

end Criteria

end DataAccess
