import DataAccess.Work

/-!
# `DataAccess.Proofs.Support.Work`: what a piece of work keeps

Lemmas on `Work` that belong to no single state. The equations
`exec_within`, `exec_attempt`, `exec_mapError`, `exec_concluding` and
`exec_enclosed_ok` run the combinators of `Work` one step, next to
`exec_bind` and its kin in `DataAccess.Work`.

Three properties of a piece of work:

* `Work.Keeps P w`: a state with `P` is followed by a state with `P`,
  whether `w` fails or not.
* `Work.Returns Q w`: if `w` succeeds, its result has `Q`, whatever the
  state was.
* `Work.Leads R w`: if `w` succeeds, `R` holds between the state before
  and the state after it.

Each comes with one lemma for every way of putting work together, so
that a proof about an operation follows the text of the operation.
`Result.bind_eq_ok` and `Result.bind_eq_error` are the two outcomes of
results that are put together without a state, and `Result.mapM_of_mapM`
and `Result.map_of_mapM` compare two ways to make something of a list;
`Result.mapM_eq_error_iff` says where one fails.

Work on each of a list is run from the first to the last:
`exec_mapM_cons_eq_ok` if all of it succeeds, `exec_mapM_eq_error` up to
what fails.
-/

set_option autoImplicit false

namespace DataAccess.Result

variable {α β δ : Type}

/-- What is put together succeeds if both parts do. -/
theorem bind_eq_ok {r : Result α} {f : α → Result β} {b : β} :
    (r >>= f) = .ok b ↔ ∃ a, r = .ok a ∧ f a = .ok b := by
  cases r <;> simp [bind, Except.bind]

/-- It fails with the error of the first part that does. -/
theorem bind_eq_error {r : Result α} {f : α → Result β} {e : Error} :
    (r >>= f) = .error e ↔ r = .error e ∨ ∃ a, r = .ok a ∧ f a = .error e := by
  cases r <;> simp [bind, Except.bind]

/-- What is made of each of a list can be made in another way. -/
theorem mapM_of_mapM {f : α → Result β} {k : α → Result δ} {g : β → δ} {as : List α}
    {bs : List β} (hf : ∀ a b, f a = .ok b → k a = .ok (g b)) (h : as.mapM f = .ok bs) :
    as.mapM k = .ok (bs.map g) := by
  induction as generalizing bs with
  | nil =>
      obtain rfl := Except.ok.inj h
      rfl
  | cons a as ih =>
      rw [List.mapM_cons] at h
      obtain ⟨first, hfirst, h⟩ := bind_eq_ok.mp h
      obtain ⟨rest, hrest, h⟩ := bind_eq_ok.mp h
      obtain rfl := Except.ok.inj h
      rw [List.mapM_cons, hf a first hfirst, ih hrest]
      rfl

/-- What is said of each result is said of what it was made of. -/
theorem map_of_mapM {f : α → Result β} {k : α → δ} {g : β → δ} {as : List α} {bs : List β}
    (hf : ∀ a b, f a = .ok b → g b = k a) (h : as.mapM f = .ok bs) : bs.map g = as.map k := by
  have hpure := mapM_of_mapM (k := fun a => .ok (k a)) (g := g)
    (fun a b hb => congrArg Except.ok (hf a b hb).symm) h
  exact (Except.ok.inj ((List.mapM_pure (f := k)).symm.trans hpure)).symm

/-- What is made of each of a list fails with the first of them that does. -/
theorem mapM_eq_error_iff {f : α → Result β} {as : List α} {e : Error} :
    as.mapM f = .error e
      ↔ ∃ before a after, as = before ++ a :: after ∧ (∀ x ∈ before, ∃ b, f x = .ok b) ∧
        f a = .error e := by
  induction as with
  | nil =>
      constructor
      · nofun
      · rintro ⟨before, a, after, hsplit, -⟩
        cases before <;> cases hsplit
  | cons a as ih =>
      rw [List.mapM_cons, bind_eq_error]
      simp only [bind_eq_error, ih]
      constructor
      -- The first element fails, or it succeeds and one of the others does.
      · rintro (herror | ⟨b, hb, ⟨before, x, after, rfl, hbefore, herror⟩ | ⟨_, -, hpure⟩⟩)
        · exact ⟨[], a, as, rfl, nofun, herror⟩
        · exact ⟨a :: before, x, after, rfl, List.forall_mem_cons.mpr ⟨⟨b, hb⟩, hbefore⟩, herror⟩
        · cases hpure
      · rintro ⟨before, x, after, hsplit, hbefore, herror⟩
        cases before with
        | nil =>
            obtain ⟨rfl, rfl⟩ := List.cons.inj hsplit
            exact .inl herror
        | cons y before =>
            obtain ⟨rfl, rfl⟩ := List.cons.inj hsplit
            obtain ⟨⟨b, hb⟩, hbefore⟩ := List.forall_mem_cons.mp hbefore
            exact .inr ⟨b, hb, .inl ⟨before, x, after, rfl, hbefore, herror⟩⟩

end DataAccess.Result

namespace DataAccess.Work

variable {σ τ α β : Type}

/-- Work is what it does to every state. -/
theorem ext {v w : Work σ α} (h : ∀ s, v.exec s = w.exec s) : v = w :=
  funext h

/-- Work on a part of the state puts the part back into the whole. -/
@[simp] theorem exec_within (read : σ → τ) (write : τ → σ → σ) (w : Work τ α) (s : σ) :
    (w.within read write).exec s = ((w.exec (read s)).1, write (w.exec (read s)).2 s) := rfl

/-- An attempt has the result of the work as its own. -/
@[simp] theorem exec_attempt (w : Work σ α) (s : σ) :
    w.attempt.exec s = (.ok (w.exec s).1, (w.exec s).2) := rfl

/-- An error is replaced, and the state is left as the work leaves it. -/
theorem exec_mapError (f : Error → Error) (w : Work σ α) (s : σ) :
    (w.mapError f).exec s = ((w.exec s).1.mapError f, (w.exec s).2) := by
  rcases h : w.exec s with ⟨r, s'⟩
  simp only [mapError, exec_of, h]
  cases r <;> rfl

/-- The conclusion runs where the work has ended, and is told how. -/
@[simp] theorem exec_concluding (conclusion : Bool → Work σ Unit) (w : Work σ α) (s : σ) :
    (w.concluding conclusion).exec s
      = (concluded (w.exec s).1 ((conclusion (w.exec s).1.isOk).exec (w.exec s).2).1,
          ((conclusion (w.exec s).1.isOk).exec (w.exec s).2).2) := rfl

/-- The state is read and stays as it is. -/
theorem exec_get_bind (f : σ → Work σ α) (s : σ) :
    ((get : Work σ σ) >>= f).exec s = (f s).exec s := rfl

/-- What follows work that succeeds runs where that work has ended. -/
theorem exec_bind_ok {w : Work σ α} {f : α → Work σ β} {s s' : σ} {a : α}
    (h : w.exec s = (.ok a, s')) : (w >>= f).exec s = (f a).exec s' := by
  rw [exec_bind, h]

/-- What follows work that fails does not run. -/
theorem exec_bind_error {w : Work σ α} {f : α → Work σ β} {s s' : σ} {e : Error}
    (h : w.exec s = (.error e, s')) : (w >>= f).exec s = (.error e, s') := by
  rw [exec_bind, h]

/-- Work succeeds or fails whatever is made of its error. -/
theorem isOk_mapError (f : Error → Error) (w : Work σ α) (s : σ) :
    ((w.mapError f).exec s).1.isOk = (w.exec s).1.isOk := by
  rw [exec_mapError]
  cases (w.exec s).1 <;> rfl

/-- Work succeeds or fails whatever is made of its result. -/
theorem isOk_bind_pure (f : α → β) (w : Work σ α) (s : σ) :
    ((w >>= fun a => pure (f a)).exec s).1.isOk = (w.exec s).1.isOk := by
  rw [exec_bind]
  rcases w.exec s with ⟨_ | a, s'⟩ <;> rfl

/-- Work that has to be opened: without an opening only the opening took
place. -/
theorem exec_enclosed_error {opening : Work σ Unit} {closing : Bool → Work σ Unit}
    {w : Work σ α} {s s' : σ} {e : Error} (h : opening.exec s = (.error e, s')) :
    (enclosed opening closing w).exec s = (.error e, s') :=
  exec_bind_error h

/-- Work that was opened is done and concluded. -/
theorem exec_enclosed_ok {opening : Work σ Unit} {closing : Bool → Work σ Unit}
    {w : Work σ α} {s s' : σ} (h : opening.exec s = (.ok (), s')) :
    (enclosed opening closing w).exec s = (w.concluding closing).exec s' :=
  exec_bind_ok h

/-- Work between an opening and a closing, whose errors count in turn. -/
theorem exec_enclosed_closed {opening : Work σ Unit} {closing : Bool → Work σ Unit}
    {w : Work σ α} {s s₁ s₂ s₃ : σ} {own : Result α} {late : Result Unit}
    (hopen : opening.exec s = (.ok (), s₁)) (hown : w.exec s₁ = (own, s₂))
    (hclose : (closing own.isOk).exec s₂ = (late, s₃)) :
    (enclosed opening closing w).exec s = (concluded own late, s₃) := by
  rw [exec_enclosed_ok hopen, exec_concluding, hown, hclose]

/-- Work that succeeds on the whole succeeds in its first part, and the
rest of it succeeds on the state reached. -/
theorem exec_bind_eq_ok {w : Work σ α} {f : α → Work σ β} {s s' : σ} {b : β} :
    (w >>= f).exec s = (.ok b, s')
      ↔ ∃ a t, w.exec s = (.ok a, t) ∧ (f a).exec t = (.ok b, s') := by
  rw [exec_bind]
  rcases h : w.exec s with ⟨r, t⟩
  cases r with
  | error e => simp
  | ok a => simp [and_assoc]

/-- Work with its error replaced succeeds as before. -/
theorem exec_mapError_eq_ok {f : Error → Error} {w : Work σ α} {s s' : σ} {a : α} :
    (w.mapError f).exec s = (.ok a, s') ↔ w.exec s = (.ok a, s') := by
  rw [exec_mapError]
  rcases w.exec s with ⟨e | b, t⟩
  · -- On neither side is there a result.
    constructor <;> intro h <;> cases h
  · exact Iff.rfl

/-- Work that begins with a result succeeds if that is one. -/
theorem exec_ofResult_bind_eq_ok {r : Result α} {f : α → Work σ β} {s s' : σ} {b : β} :
    (ofResult r >>= f).exec s = (.ok b, s') ↔ ∃ a, r = .ok a ∧ (f a).exec s = (.ok b, s') := by
  rw [exec_bind, exec_ofResult]
  cases r <;> simp

/-! ### Work on a list -/

section List
variable {f : α → Work σ β}

/-- Work on a list succeeds if that on the first element does and then that
on the others. -/
theorem exec_mapM_cons_eq_ok {x : α} {xs : List α} {s s' : σ} {bs : List β} :
    ((x :: xs).mapM f).exec s = (.ok bs, s') ↔ ∃ b t rest, (f x).exec s = (.ok b, t) ∧
      (xs.mapM f).exec t = (.ok rest, s') ∧ bs = b :: rest := by
  rw [List.mapM_cons, exec_bind_eq_ok]
  constructor
  · rintro ⟨b, t, hb, h⟩
    obtain ⟨rest, u, hrest, hbs⟩ := exec_bind_eq_ok.mp h
    simp only [exec_pure, Prod.mk.injEq, Except.ok.injEq] at hbs
    obtain ⟨rfl, rfl⟩ := hbs
    exact ⟨b, t, rest, hb, hrest, rfl⟩
  · rintro ⟨b, t, rest, hb, hrest, rfl⟩
    exact ⟨b, t, hb, exec_bind_eq_ok.mpr ⟨rest, s', hrest, rfl⟩⟩

/-- Work on a list that fails gets as far as the first element for which
it does. -/
theorem exec_mapM_eq_error {xs : List α} {s s' : σ} {e : Error}
    (h : (xs.mapM f).exec s = (.error e, s')) :
    ∃ before x after bs t, xs = before ++ x :: after ∧
      (before.mapM f).exec s = (.ok bs, t) ∧ (f x).exec t = (.error e, s') := by
  induction xs generalizing s with
  | nil => cases h
  | cons x xs ih =>
      rw [List.mapM_cons] at h
      rcases hx : (f x).exec s with ⟨e' | b, t⟩
      · rw [exec_bind_error hx] at h
        cases h
        exact ⟨[], x, xs, [], s, rfl, rfl, hx⟩
      · rw [exec_bind_ok hx] at h
        rcases hxs : (xs.mapM f).exec t with ⟨e' | bs, u⟩
        · rw [exec_bind_error hxs] at h
          cases h
          -- The elements before the failing one begin with this one, which succeeded.
          obtain ⟨before, y, after, bs, v, rfl, hbefore, hy⟩ := ih hxs
          exact ⟨x :: before, y, after, b :: bs, v, rfl,
            exec_mapM_cons_eq_ok.mpr ⟨b, t, bs, hx, hbefore, rfl⟩, hy⟩
        · rw [exec_bind_ok hxs] at h
          cases h

end List

/-! ### What work keeps, and what it returns -/

/-- If the work succeeds, its result has `Q`. -/
def Returns (Q : α → Prop) (w : Work σ α) : Prop :=
  ∀ s a s', w.exec s = (.ok a, s') → Q a

/-- A state with `P` is followed by one with `P`, whether the work fails
or not. -/
def Keeps (P : σ → Prop) (w : Work σ α) : Prop :=
  ∀ s, P s → P (w.exec s).2

section Keeps
variable {P : σ → Prop}

/-- To return something changes nothing. -/
theorem keeps_pure (a : α) : Keeps P (pure a : Work σ α) := fun _ h => h

/-- To fail changes nothing. -/
theorem keeps_fail (e : Error) : Keeps P (fail e : Work σ α) := fun _ h => h

/-- An outcome that is known beforehand changes nothing. -/
theorem keeps_ofResult (r : Result α) : Keeps P (ofResult r) := fun _ h => h

/-- A change of the state keeps what it maps to itself. -/
theorem keeps_modify {f : σ → σ} (h : ∀ s, P s → P (f s)) :
    Keeps P (modify f : Work σ PUnit) := h

/-- The rest of the work may rely on what the first part returns. -/
theorem keeps_bind_of_returns {Q : α → Prop} {w : Work σ α} {f : α → Work σ β}
    (hw : Keeps P w) (hr : Returns Q w) (hf : ∀ a, Q a → Keeps P (f a)) :
    Keeps P (w >>= f) := by
  intro s hs
  have h := hw s hs
  rw [exec_bind]
  rcases hrun : w.exec s with ⟨r, s'⟩
  rw [hrun] at h
  cases r with
  | error e => exact h
  | ok a => exact hf a (hr s a s' hrun) s' h

/-- Two pieces of work keep together what each of them keeps. -/
theorem keeps_bind {w : Work σ α} {f : α → Work σ β} (hw : Keeps P w)
    (hf : ∀ a, Keeps P (f a)) : Keeps P (w >>= f) :=
  keeps_bind_of_returns (Q := fun _ => True) hw (fun _ _ _ _ => trivial) fun a _ => hf a

/-- Work on a part of the state keeps something of the whole, if what it
keeps of the part is enough for that. -/
theorem keeps_within {R : τ → Prop} {read : σ → τ} {write : τ → σ → σ} {w : Work τ α}
    (hread : ∀ s, P s → R (read s)) (hw : Keeps R w)
    (hwrite : ∀ s t, P s → R t → P (write t s)) : Keeps P (w.within read write) :=
  fun s hs => hwrite s _ hs (hw _ (hread s hs))

/-- Putting a part of the state back as it was has to keep `P` too. -/
theorem keeps_undoing {read : σ → τ} {write : τ → σ → σ} {w : Work σ α} (hw : Keeps P w)
    (hback : ∀ s s', P s → P s' → P (write (read s) s')) : Keeps P (w.undoing read write) := by
  intro s hs
  have h := hw s hs
  simp only [undoing, exec_of]
  rcases hrun : w.exec s with ⟨r, s'⟩
  rw [hrun] at h
  cases r with
  | error e => exact hback s s' hs h
  | ok a => exact h

/-- The rest of the work may rely on `P` of the state it read. -/
theorem keeps_get_bind {f : σ → Work σ α} (hf : ∀ s, P s → Keeps P (f s)) :
    Keeps P (get >>= f) := by
  intro s hs
  rw [exec_get_bind]
  exact hf s hs s hs

/-- Work on a list keeps what the work on each element keeps, by induction
on the list. -/
theorem keeps_forM {f : α → Work σ PUnit} (xs : List α) (hf : ∀ x ∈ xs, Keeps P (f x)) :
    Keeps P (xs.forM f) := by
  induction xs with
  | nil => exact keeps_pure _
  | cons x xs ih =>
      exact keeps_bind (hf x (by simp)) fun _ => ih fun y hy => hf y (by simp [hy])

/-- So does work on a list that collects its outcomes. -/
theorem keeps_mapM {f : α → Work σ β} (xs : List α) (hf : ∀ x, Keeps P (f x)) :
    Keeps P (xs.mapM f) := by
  induction xs with
  | nil => exact keeps_pure _
  | cons x xs ih =>
      rw [List.mapM_cons]
      exact keeps_bind (hf x) fun _ => keeps_bind ih fun _ => keeps_pure _

end Keeps

section Returns
variable {Q : β → Prop}

/-- What is returned is what was given. -/
theorem returns_pure {b : β} (h : Q b) : Returns Q (pure b : Work σ β) := by
  intro s b' s' hb
  simp only [exec_pure, Prod.mk.injEq, Except.ok.injEq] at hb
  exact hb.1 ▸ h

/-- Nothing is returned. -/
theorem returns_fail (e : Error) : Returns Q (fail e : Work σ β) := by
  intro s b s' hb
  cases hb

/-- An outcome that is known beforehand is the one that is returned. -/
theorem returns_ofResult {r : Result β} (h : ∀ b, r = .ok b → Q b) :
    Returns Q (ofResult r : Work σ β) := by
  intro s b s' hb
  simp only [exec_ofResult, Prod.mk.injEq] at hb
  exact h b hb.1

/-- What the first part returns is known where the second part is
looked at. -/
theorem returns_bind {R : α → Prop} {w : Work σ α} {f : α → Work σ β}
    (hw : Returns R w) (hf : ∀ a, R a → Returns Q (f a)) : Returns Q (w >>= f) := by
  intro s b s' hb
  obtain ⟨a, t, ha, hb⟩ := exec_bind_eq_ok.mp hb
  exact hf a (hw s a t ha) t b s' hb

/-- Whatever the state is that is read first. -/
theorem returns_get_bind {f : σ → Work σ β} (hf : ∀ s, Returns Q (f s)) :
    Returns Q (get >>= f) := by
  intro s b s' hb
  rw [exec_get_bind] at hb
  exact hf s s b s' hb

/-- To undo what failed does not change what is returned. -/
theorem returns_undoing {read : σ → τ} {write : τ → σ → σ} {w : Work σ β}
    (hw : Returns Q w) : Returns Q (w.undoing read write) := by
  intro s b s' hb
  simp only [undoing, exec_of] at hb
  rcases hrun : w.exec s with ⟨_ | b', t⟩
  · simp [hrun] at hb
  · simp only [hrun, Prod.mk.injEq, Except.ok.injEq] at hb
    exact hb.1 ▸ hw s b' t hrun

end Returns

/-! ### Where work leads -/

/-- If the work succeeds, `R` holds between the state before and the state
after it. -/
def Leads (R : σ → σ → Prop) (w : Work σ α) : Prop :=
  ∀ s a s', w.exec s = (.ok a, s') → R s s'

section Leads
variable {R : σ → σ → Prop}

/-- The state stays, so that the relation has to be reflexive. -/
theorem leads_pure (hrefl : ∀ s, R s s) (a : α) : Leads R (pure a : Work σ α) := by
  intro s b s' h
  cases h
  exact hrefl s

/-- One piece of work after another, if the relation is transitive. -/
theorem leads_bind (htrans : ∀ s t u, R s t → R t u → R s u) {w : Work σ α}
    {f : α → Work σ β} (hw : Leads R w) (hf : ∀ a, Leads R (f a)) : Leads R (w >>= f) := by
  intro s b s' h
  obtain ⟨a, t, ha, hb⟩ := exec_bind_eq_ok.mp h
  exact htrans s t s' (hw s a t ha) (hf a t b s' hb)

/-- To read the state first leads nowhere else. -/
theorem leads_get_bind {f : σ → Work σ α} (hf : ∀ s, Leads R (f s)) : Leads R (get >>= f) := by
  intro s a s' h
  rw [exec_get_bind] at h
  exact hf s s a s' h

/-- Errors do not matter to where work leads that succeeds. -/
theorem leads_mapError {w : Work σ α} (f : Error → Error) (hw : Leads R w) :
    Leads R (w.mapError f) := by
  intro s a s' h
  exact hw s a s' (exec_mapError_eq_ok.mp h)

/-- Work on a part of the state leads where its effect on the part does. -/
theorem leads_within {T : τ → τ → Prop} {read : σ → τ} {write : τ → σ → σ} {w : Work τ α}
    (hw : Leads T w) (hwrite : ∀ s t, T (read s) t → R s (write t s)) :
    Leads R (w.within read write) := by
  intro s a s' h
  simp only [exec_within, Prod.mk.injEq] at h
  rw [← h.2]
  exact hwrite s _ (hw _ a _ (Prod.ext h.1 rfl))

/-- Work that is concluded succeeds only if its conclusion does, too. -/
theorem exec_concluding_eq_ok {conclusion : Bool → Work σ Unit} {w : Work σ α} {s s' : σ} {a : α}
    (h : (w.concluding conclusion).exec s = (.ok a, s')) :
    ∃ t, w.exec s = (.ok a, t) ∧ (conclusion true).exec t = (.ok (), s') := by
  rw [exec_concluding] at h
  rcases hrun : w.exec s with ⟨_ | b, t⟩ <;> rw [hrun] at h
  · cases h
  · rcases hend : (conclusion true).exec t with ⟨_ | u, t'⟩ <;>
      simp only [Except.isOk, Except.toBool, hend, concluded, Prod.mk.injEq, Except.ok.injEq,
        reduceCtorEq, false_and] at h
    obtain ⟨rfl, rfl⟩ := h
    exact ⟨t, rfl, hend⟩

/-- Errors do not matter to what is returned. -/
theorem returns_mapError {Q : α → Prop} {w : Work σ α} (f : Error → Error) (hw : Returns Q w) :
    Returns Q (w.mapError f) :=
  fun s a s' h => hw s a s' (exec_mapError_eq_ok.mp h)

/-- A conclusion does not change what is returned. -/
theorem returns_concluding {Q : α → Prop} {conclusion : Bool → Work σ Unit} {w : Work σ α}
    (hw : Returns Q w) : Returns Q (w.concluding conclusion) := by
  intro s a s' h
  obtain ⟨t, hrun, -⟩ := exec_concluding_eq_ok h
  exact hw s a t hrun

/-- What is done before and after work does not change what is returned. -/
theorem returns_enclosed {Q : α → Prop} {opening : Work σ Unit} {closing : Bool → Work σ Unit}
    {w : Work σ α} (hw : Returns Q w) : Returns Q (enclosed opening closing w) :=
  returns_bind (R := fun _ => True) (fun _ _ _ _ => trivial) fun _ _ => returns_concluding hw

/-- A conclusion leads on from where the work has ended. -/
theorem leads_concluding (htrans : ∀ s t u, R s t → R t u → R s u) {w : Work σ α}
    {conclusion : Bool → Work σ Unit} (hw : Leads R w)
    (hconclusion : ∀ success, Leads R (conclusion success)) :
    Leads R (w.concluding conclusion) := by
  intro s a s' h
  obtain ⟨t, hrun, hend⟩ := exec_concluding_eq_ok h
  exact htrans s t s' (hw s a t hrun) (hconclusion true t () s' hend)

end Leads

end DataAccess.Work
