import DataAccess.Proofs.Criteria.Change
import Mathlib.Data.List.Forall2

/-!
# `DataAccess.Proofs.Criteria.Exchange`: the same changes with other values

Two programs make the same changes, but pass other values to filters and
conditions: `Change.Exchanged` says which values may stand for each other.
Side by side, their criteria stay `Alike`: they have the same joins, orders,
groupings and windows, and condition by condition the same clause with as
many values.

`Work.Agree` is about two pieces of work that are done side by side. Names
are resolved without a look at the conditions (`agree_resolveField`,
`agree_resolveTemplate`), so that both programs resolve them alike;
`Change.agree` is the step and `Alike.run` the run. The values that the two
criteria hold are pairs of values that were passed at the same place
(`Alike.paired`).
-/

set_option autoImplicit false

namespace DataAccess

namespace Work

variable {σ τ ρ α β : Type}

/-- The two pieces of work have the same outcome on states that `R`
relates, and `S` relates the states they leave. -/
def Agree (R S : σ → τ → Prop) (w : Work σ α) (w' : Work τ α) : Prop :=
  ∀ s t, R s t → (w.exec s).1 = (w'.exec t).1 ∧ S (w.exec s).2 (w'.exec t).2

section Agree
variable {R S T : σ → τ → Prop}

/-- What returns the same agrees with itself, whatever becomes of the
states. -/
theorem agree_pure (h : ∀ s t, R s t → S s t) (a : α) :
    Agree R S (pure a : Work σ α) (pure a) :=
  fun s t hst => ⟨rfl, h s t hst⟩

/-- Two pieces that fail with one error agree. -/
theorem agree_fail (h : ∀ s t, R s t → S s t) (e : Error) :
    Agree R S (fail e : Work σ α) (fail e) :=
  fun s t hst => ⟨rfl, h s t hst⟩

/-- An outcome that is known beforehand is the same on both sides. -/
theorem agree_ofResult (h : ∀ s t, R s t → S s t) (r : Result α) :
    Agree R S (ofResult r : Work σ α) (ofResult r) :=
  fun s t hst => ⟨rfl, h s t hst⟩

/-- Changes of the states that lead from the first relation to the second
one. -/
theorem agree_modify {f : σ → σ} {f' : τ → τ} (h : ∀ s t, R s t → S (f s) (f' t)) :
    Agree R S (modify f : Work σ PUnit) (modify f') :=
  fun s t hst => ⟨rfl, h s t hst⟩

/-- What is read may differ, as long as what is done with it agrees. -/
theorem agree_get_bind {f : σ → Work σ α} {f' : τ → Work τ α}
    (h : ∀ s t, R s t → Agree R S (f s) (f' t)) : Agree R S (get >>= f) (get >>= f') := by
  intro s t hst
  rw [exec_get_bind, exec_get_bind]
  exact h s t hst s t hst

/-- If the first parts fail, the states are left as these leave them. -/
theorem agree_bind {w : Work σ α} {w' : Work τ α} {f : α → Work σ β} {f' : α → Work τ β}
    (hw : Agree R S w w') (hf : ∀ a, Agree S T (f a) (f' a)) (hfail : ∀ s t, S s t → T s t) :
    Agree R T (w >>= f) (w' >>= f') := by
  intro s t hst
  obtain ⟨hsame, hleft⟩ := hw s t hst
  -- Of the four combinations two are impossible: the outcomes are the same.
  rcases hrun : w.exec s with ⟨e | a, s'⟩ <;> rcases hrun' : w'.exec t with ⟨e' | a', t'⟩ <;>
    rw [hrun, hrun'] at hsame hleft
  · cases hsame
    rw [exec_bind_error hrun, exec_bind_error hrun']
    exact ⟨rfl, hfail s' t' hleft⟩
  · cases hsame
  · cases hsame
  · cases hsame
    rw [exec_bind_ok hrun, exec_bind_ok hrun']
    exact hf a s' t' hleft

/-- One relation holds all along. -/
theorem agree_then {w : Work σ α} {w' : Work τ α} {f : α → Work σ β} {f' : α → Work τ β}
    (hw : Agree R R w w') (hf : ∀ a, Agree R R (f a) (f' a)) :
    Agree R R (w >>= f) (w' >>= f') :=
  agree_bind hw hf fun _ _ => id

/-- What is made of an outcome does not look at the states. -/
theorem agree_map {w : Work σ α} {w' : Work τ α} (hw : Agree R R w w') (f : α → β) :
    Agree R R (w >>= fun a => pure (f a)) (w' >>= fun a => pure (f a)) :=
  agree_then hw fun a => agree_pure (fun _ _ => id) (f a)

/-- The part that is worked on is the same. -/
theorem agree_within {read : σ → ρ} {write : ρ → σ → σ} {read' : τ → ρ} {write' : ρ → τ → τ}
    (w : Work ρ α) (hread : ∀ s t, R s t → read s = read' t)
    (hwrite : ∀ r s t, R s t → S (write r s) (write' r t)) :
    Agree R S (w.within read write) (w.within read' write') := by
  intro s t hst
  rw [exec_within, exec_within, hread s t hst]
  exact ⟨rfl, hwrite _ s t hst⟩

/-- What is written back after a failure was read from the states at the
start, and is the same in both. -/
theorem agree_undoing {read : σ → ρ} {write : ρ → σ → σ} {read' : τ → ρ} {write' : ρ → τ → τ}
    {w : Work σ α} {w' : Work τ α} (hw : Agree R S w w')
    (hread : ∀ s t, R s t → read s = read' t)
    (hwrite : ∀ r s t, S s t → S (write r s) (write' r t)) :
    Agree R S (w.undoing read write) (w'.undoing read' write') := by
  intro s t hst
  obtain ⟨hsame, hleft⟩ := hw s t hst
  simp only [undoing, exec_of]
  rcases hrun : w.exec s with ⟨e | a, s'⟩ <;> rcases hrun' : w'.exec t with ⟨e' | a', t'⟩ <;>
    rw [hrun, hrun'] at hsame hleft
  · cases hsame
    -- Both have failed, and both states get back what was read.
    rw [hread s t hst]
    exact ⟨rfl, hwrite _ s' t' hleft⟩
  · cases hsame
  · cases hsame
  · cases hsame
    exact ⟨rfl, hleft⟩

/-- By induction on the list; the relation holds again after each of its
elements. -/
theorem agree_forM {f : α → Work σ PUnit} {f' : α → Work τ PUnit} (xs : List α)
    (h : ∀ x, Agree R R (f x) (f' x)) : Agree R R (xs.forM f) (xs.forM f') := by
  induction xs with
  | nil => exact agree_pure (fun _ _ => id) _
  | cons x xs ih => exact agree_then (h x) fun _ => ih

end Agree

end Work

variable {ι : Type}

/-- The conditions differ in nothing but which values they have. -/
structure Condition.Alike (d d' : Condition) : Prop where
  connector : d.connector = d'.connector
  clause : d.clause = d'.clause
  length : d.values.length = d'.values.length

/-- A scalar may stand for another one, and anything for itself. -/
def Value.Exchanged (v w : Value) : Prop :=
  v = w ∨ v.isScalar ∧ w.isScalar

namespace Criteria

/-! ### Values that stand for each other -/

/-- The changes are the same but for values that are passed along: a scalar
may stand for another one, and in a membership so many scalars for as
many. -/
inductive Change.Exchanged : Change → Change → Prop where
  | same (change : Change) : Change.Exchanged change change
  | scalar {connector : Connector} {field : String} {comparison : Comparison} {v w : Value}
      (left : v.isScalar) (right : w.isScalar) :
      Change.Exchanged (.filter connector field comparison v) (.filter connector field comparison w)
  | members {connector : Connector} {field : String} {vs ws : List Value}
      (some : vs ≠ []) (length : vs.length = ws.length) (left : vs.all Value.isScalar)
      (right : ws.all Value.isScalar) :
      Change.Exchanged (.filter connector field .membership (.array vs))
        (.filter connector field .membership (.array ws))
  | values {connector : Connector} {template : String} {vs ws : List Value}
      (each : List.Forall₂ Value.Exchanged vs ws) :
      Change.Exchanged (.condition connector template vs) (.condition connector template ws)

/-- The values that are passed along with a change. -/
def Change.passed : Change → List Value
  | .filter _ _ _ (.array items) => items
  | .filter _ _ _ value => [value]
  | .condition _ _ values => values
  | _ => []

/-- The values that are passed along with changes, in order. -/
def passed (changes : List Change) : List Value :=
  changes.flatMap Change.passed

/-- The values that a filter stores are those that were passed to it. -/
theorem filterValues_passed {connector : Connector} {field : String} {comparison : Comparison}
    {value : Value} {values : List Value} (h : filterValues field comparison value = .ok values) :
    values = (Change.filter connector field comparison value).passed := by
  unfold filterValues at h
  split at h
  · cases h
  · -- A membership in a list has the members for its values.
    split at h
    · cases h
    · split at h
      · cases h
        rfl
      · cases h
  · cases h
  · rename_i _ hlist _
    cases h
    cases value with
    | array items => exact (hlist items rfl).elim
    | _ => rfl

/-- A scalar is compared as it is, whatever the comparison. -/
theorem filterValues_scalar {field : String} {comparison : Comparison} {value : Value}
    (h : value.isScalar) : filterValues field comparison value = .ok [value] := by
  cases value with
  | null => cases h
  | array items => cases h
  | _ => cases comparison <;> rfl

/-- A membership in a list of scalars, not an empty one, has these for its
values. -/
theorem filterValues_members {field : String} {items : List Value} (hsome : items ≠ [])
    (h : items.all Value.isScalar) :
    filterValues field .membership (.array items) = .ok items := by
  have hempty : items.isEmpty = false := by simpa using hsome
  simp [filterValues, hempty, h]

/-- Filters whose values stand for each other are refused alike, or have as
many values. -/
theorem filterValues_exchanged {connector connector' : Connector} {field field' : String}
    {comparison comparison' : Comparison} {value value' : Value}
    (h : Change.Exchanged (.filter connector field comparison value)
      (.filter connector' field' comparison' value')) :
    connector = connector' ∧ field = field' ∧ comparison = comparison' ∧
      ((∃ e, filterValues field comparison value = .error e ∧
          filterValues field comparison value' = .error e) ∨
        ∃ values values', filterValues field comparison value = .ok values ∧
          filterValues field comparison value' = .ok values' ∧
          values.length = values'.length) := by
  cases h with
  | same =>
      refine ⟨rfl, rfl, rfl, ?_⟩
      cases hvalues : filterValues field comparison value with
      | error e => exact .inl ⟨e, rfl, rfl⟩
      | ok values => exact .inr ⟨values, values, rfl, rfl, rfl⟩
  | scalar left right =>
      exact ⟨rfl, rfl, rfl,
        .inr ⟨_, _, filterValues_scalar left, filterValues_scalar right, rfl⟩⟩
  | @members _ _ vs ws some length left right =>
      -- An empty list would be refused, but the lists have one length.
      have hsome : ws ≠ [] := by
        intro hnil
        rw [hnil, List.length_nil, List.length_eq_zero_iff] at length
        exact some length
      exact ⟨rfl, rfl, rfl,
        .inr ⟨_, _, filterValues_members some left, filterValues_members hsome right, length⟩⟩

/-- Values that stand for each other are both scalars, or neither is. -/
theorem all_isScalar_exchanged {vs ws : List Value} (h : List.Forall₂ Value.Exchanged vs ws) :
    vs.all Value.isScalar = ws.all Value.isScalar := by
  induction h with
  | nil => rfl
  | cons hv _ ih =>
      rw [List.all_cons, List.all_cons, ih]
      rcases hv with rfl | ⟨hleft, hright⟩
      · rfl
      · rw [hleft, hright]

/-! ### Criteria side by side -/

/-- The criteria differ in nothing but the values of their conditions; the
values of both are among the pairs that were `given`, in this order. -/
structure Alike (given : List (Value × Value)) (c c' : Criteria ι) : Prop where
  rest : c' = { c with conditions := c'.conditions }
  conditions : List.Forall₂ Condition.Alike c.conditions c'.conditions
  paired : (c.values.zip c'.values).Sublist given

section Alike
variable {given more : List (Value × Value)} {c c' : Criteria ι}

/-- Conditions that are alike have as many values, one by one and so all
together. -/
theorem length_flatMap_values {ds ds' : List Condition}
    (h : List.Forall₂ Condition.Alike ds ds') :
    (ds.flatMap (·.values)).length = (ds'.flatMap (·.values)).length := by
  induction h with
  | nil => rfl
  | cons hd _ ih =>
      rw [List.flatMap_cons, List.flatMap_cons, List.length_append, List.length_append, hd.length,
        ih]

/-- Criteria that are alike have as many values. -/
theorem Alike.length_values (h : Alike given c c') : c.values.length = c'.values.length :=
  length_flatMap_values h.conditions

/-- A new criteria is like itself, with nothing passed along yet. -/
theorem alike_refl_new (root : ι) (settings : QuerySettings) :
    Alike [] (new root settings) (new root settings) where
  rest := rfl
  conditions := .nil
  paired := .refl _

/-- More values that were passed along do no harm: those in use are among
them still. -/
theorem Alike.mono (h : Alike given c c') (hmore : given.Sublist more) : Alike more c c' where
  rest := h.rest
  conditions := h.conditions
  paired := h.paired.trans hmore

/-- The same change of all that is not a condition. -/
theorem Alike.congr (h : Alike given c c') {f : Criteria ι → Criteria ι}
    (hf : ∀ c : Criteria ι, (f c).conditions = c.conditions)
    (hrest : ∀ (c : Criteria ι) conditions,
      f { c with conditions := conditions } = { f c with conditions := conditions }) :
    Alike given (f c) (f c') where
  rest := by
    rw [hf c']
    -- All but the conditions is the same before the change, and so after it.
    conv_lhs => rw [h.rest]
    exact hrest c c'.conditions
  conditions := by
    rw [hf c, hf c']
    exact h.conditions
  paired := by
    have hvalues (c : Criteria ι) : (f c).values = c.values := by
      rw [values, values, hf c]
    rw [hvalues, hvalues]
    exact h.paired

/-- Criteria that are alike stay so when they get the same joins. -/
theorem Alike.withJoins (h : Alike given c c') (joins : JoinRegistry ι) :
    Alike given { c with joins := joins } { c' with joins := joins } :=
  h.congr (f := fun c => { c with joins := joins }) (fun _ => rfl) fun _ _ => rfl

/-- The values of a new condition come after those that were there. -/
theorem values_withCondition (c : Criteria ι) (d : Condition) :
    (c.withCondition d).values = c.values ++ d.values := by
  rw [values, withCondition, List.flatMap_append, List.flatMap_singleton]
  rfl

/-- Conditions that are alike may be added to both, with the values that
were passed for them. -/
theorem Alike.withCondition (h : Alike given c c') {d d' : Condition} (hd : d.Alike d') :
    Alike (given ++ d.values.zip d'.values) (c.withCondition d) (c'.withCondition d') where
  rest := by
    rw [h.rest]
    rfl
  conditions := List.rel_append h.conditions (.cons hd .nil)
  paired := by
    rw [values_withCondition, values_withCondition, List.zip_append h.length_values]
    exact h.paired.append (.refl _)

/-- Criteria without conditions have no values. -/
theorem Alike.cleared (h : Alike given c c') {f : Criteria ι → Criteria ι}
    (hf : ∀ c : Criteria ι, (f c).conditions = [])
    (hrest : ∀ (c : Criteria ι) conditions, f { c with conditions := conditions } = f c) :
    Alike given (f c) (f c') := by
  have hsame : f c' = f c := by
    rw [h.rest]
    exact hrest c _
  rw [hsame]
  refine ⟨rfl, ?_, ?_⟩
  · rw [hf c]
    exact .nil
  · rw [values, hf c]
    exact List.nil_sublist given

/-! ### Names are resolved alike -/

/-- Work on the joins does the same to both, as the joins are the same. -/
theorem agree_onJoins {α : Type} (w : Work (JoinRegistry ι) α) :
    Work.Agree (Alike given) (Alike given) (onJoins w) (onJoins w) := by
  refine Work.agree_within w (fun c c' h => ?_) fun joins c c' h => ?_
  · rw [h.rest]
  · exact h.withJoins joins

/-- The joins that are restored after a failure are the same in both. -/
theorem agree_keepingJoins {α : Type} {w : Work (Criteria ι) α}
    (h : Work.Agree (Alike given) (Alike given) w w) :
    Work.Agree (Alike given) (Alike given) (keepingJoins w) (keepingJoins w) := by
  refine Work.agree_undoing h (fun c c' hc => ?_) fun joins c c' hc => ?_
  · rw [hc.rest]
  · exact hc.withJoins joins

variable (schema : Schema ι)

/-- Names are resolved by the schema, the root and the joins, in which
criteria that are alike do not differ. -/
theorem agree_resolvePath (name : String) :
    Work.Agree (Alike given) (Alike given) (resolvePath schema name) (resolvePath schema name) := by
  unfold resolvePath
  refine Work.agree_get_bind fun c c' h => ?_
  -- Of the criteria, only the root and the depth are looked at.
  have hroot : c'.root = c.root := by rw [h.rest]
  have hdepth : c'.joinMaxDepth = c.joinMaxDepth := by rw [h.rest]
  rw [hroot, hdepth]
  split
  · exact Work.agree_map (Work.agree_ofResult (fun _ _ => id) _) _
  · refine Work.agree_then (agree_onJoins _) fun join => ?_
    exact Work.agree_map (Work.agree_ofResult (fun _ _ => id) _) _

/-- The names of fields are resolved alike, with the joins restored after a
failure. -/
theorem agree_resolveField (name : String) :
    Work.Agree (Alike given) (Alike given) (resolveField schema name) (resolveField schema name) :=
  agree_keepingJoins (agree_resolvePath schema name)

/-- The references of templates are resolved alike. -/
theorem agree_resolveReference (name : String) :
    Work.Agree (Alike given) (Alike given) (resolveReference schema name)
      (resolveReference schema name) := by
  unfold resolveReference
  split
  · exact Work.agree_pure (fun _ _ => id) _
  · split
    · exact Work.agree_pure (fun _ _ => id) _
    · exact Work.agree_map (agree_resolvePath schema name) _

/-- By induction on the pieces: a reference is resolved alike, and the
others are copied. -/
theorem agree_join (template : String) (pieces : List Template.Piece) :
    Work.Agree (Alike given) (Alike given)
      (Template.join template (resolveReference schema) pieces)
      (Template.join template (resolveReference schema) pieces) := by
  induction pieces with
  | nil => exact Work.agree_pure (fun _ _ => id) _
  | cons piece pieces ih =>
      cases piece with
      | char c => exact Work.agree_map ih _
      | reference name =>
          refine Work.agree_then (agree_resolveReference schema name) fun column => ?_
          exact Work.agree_map ih _
      | unfinished => exact Work.agree_fail (fun _ _ => id) _

/-- The marker is the same in both, and with it the pieces of a template. -/
theorem agree_resolveTemplate (template : String) :
    Work.Agree (Alike given) (Alike given) (resolveTemplate schema template)
      (resolveTemplate schema template) := by
  unfold resolveTemplate
  refine Work.agree_get_bind fun c c' h => ?_
  have hmarker : c'.marker = c.marker := by rw [h.rest]
  rw [hmarker]
  exact Work.agree_map (agree_join schema template _) _

/-- A path is fetched alike, or refused alike. -/
theorem agree_addFetchPath (path : List String) :
    Work.Agree (Alike given) (Alike given) (addFetchPath schema path)
      (addFetchPath schema path) := by
  refine agree_keepingJoins (Work.agree_get_bind fun c c' h => ?_)
  have hroot : c'.root = c.root := by rw [h.rest]
  have hdepth : c'.joinMaxDepth = c.joinMaxDepth := by rw [h.rest]
  rw [hroot, hdepth]
  exact Work.agree_map (agree_onJoins _) _

/-! ### Changes side by side -/

/-- What follows a name that is resolved does not look at the
conditions. -/
theorem agree_resolveField_modify (name : String) {f : ColumnRef → Criteria ι → Criteria ι}
    (hf : ∀ column (c : Criteria ι), (f column c).conditions = c.conditions)
    (hrest : ∀ column (c : Criteria ι) conditions,
      f column { c with conditions := conditions } = { f column c with conditions := conditions }) :
    Work.Agree (Alike given) (Alike given)
      (resolveField schema name >>= fun column => (modify (f column) : Work (Criteria ι) Unit))
      (resolveField schema name >>= fun column => (modify (f column) : Work (Criteria ι) Unit)) :=
  Work.agree_then (agree_resolveField schema name) fun column =>
    Work.agree_modify fun _ _ h => h.congr (hf column) (hrest column)

/-- A filter whose values are refused does nothing else. -/
theorem addFilter_of_error {connector : Connector} {field : String} {comparison : Comparison}
    {value : Value} {e : Error} (h : filterValues field comparison value = .error e) :
    addFilter schema connector field comparison value = Work.fail e := by
  rw [addFilter, h]
  rfl

/-- Any other filter resolves its field, and adds the condition. -/
theorem addFilter_of_ok {connector : Connector} {field : String} {comparison : Comparison}
    {value : Value} {values : List Value} (h : filterValues field comparison value = .ok values) :
    addFilter schema connector field comparison value
      = resolveField schema field >>= fun column =>
          modify (withCondition ⟨connector, .filter column comparison, values⟩) := by
  rw [addFilter, h]
  rfl

/-- The pairs of values that two changes pass along. -/
def Change.passedWith (change change' : Change) : List (Value × Value) :=
  change.passed.zip change'.passed

/-- Adding conditions that are alike, with the values passed along. -/
theorem agree_withCondition {d e : Condition} (hd : d.Alike e)
    {pairs : List (Value × Value)} (hpairs : pairs = d.values.zip e.values) :
    Work.Agree (Alike (ι := ι) given) (Alike (given ++ pairs)) (modify (withCondition d))
      (modify (withCondition e)) := by
  rw [hpairs]
  exact Work.agree_modify fun _ _ h => h.withCondition hd

/-- Filters whose values stand for each other agree. If the values are
refused, neither looks at the field. -/
theorem agree_addFilter {connector connector' : Connector} {field field' : String}
    {comparison comparison' : Comparison} {value value' : Value}
    (h : Change.Exchanged (.filter connector field comparison value)
      (.filter connector' field' comparison' value')) :
    Work.Agree (Alike given)
      (Alike (given ++ Change.passedWith (.filter connector field comparison value)
        (.filter connector' field' comparison' value')))
      (addFilter schema connector field comparison value)
      (addFilter schema connector' field' comparison' value') := by
  obtain ⟨rfl, rfl, rfl, ⟨e, he, he'⟩ | ⟨values, values', hv, hv', hlength⟩⟩ :=
    filterValues_exchanged h
  · rw [addFilter_of_error schema he, addFilter_of_error schema he']
    exact Work.agree_fail (fun _ _ h => h.mono (List.sublist_append_left _ _)) e
  · rw [addFilter_of_ok schema hv, addFilter_of_ok schema hv']
    refine Work.agree_bind (agree_resolveField schema field) (fun column => ?_)
      fun _ _ h => h.mono (List.sublist_append_left _ _)
    refine agree_withCondition (d := ⟨_, _, values⟩) (e := ⟨_, _, values'⟩)
      ⟨rfl, rfl, hlength⟩ ?_
    rw [Change.passedWith, ← filterValues_passed hv, ← filterValues_passed hv']

/-- A condition has its placeholders counted against its values, and both
have as many. -/
theorem agree_addCondition {connector : Connector} {template : String} {values values' : List Value}
    (h : List.Forall₂ Value.Exchanged values values') :
    Work.Agree (Alike given)
      (Alike (given ++ Change.passedWith (.condition connector template values)
        (.condition connector template values')))
      (addCondition schema connector template values)
      (addCondition schema connector template values') := by
  have hmono (c c' : Criteria ι) (hc : Alike given c c') :
      Alike (given ++ Change.passedWith (.condition connector template values)
        (.condition connector template values')) c c' := hc.mono (List.sublist_append_left _ _)
  rw [addCondition_eq, addCondition_eq, ← all_isScalar_exchanged h]
  split
  · exact Work.agree_fail hmono _
  · split
    · exact Work.agree_fail hmono _
    · refine Work.agree_bind ?_ (fun text => agree_withCondition (d := ⟨_, _, values⟩)
        (e := ⟨_, _, values'⟩) ⟨rfl, rfl, h.length_eq⟩ rfl) hmono
      -- The placeholders are counted against as many values.
      have hcounted : resolveCounted schema template values'
          = resolveCounted schema template values := by
        rw [resolveCounted, resolveCounted, h.length_eq]
      rw [hcounted]
      refine agree_keepingJoins (Work.agree_then (agree_resolveTemplate schema template)
        fun text => ?_)
      split
      · exact Work.agree_fail (fun _ _ => id) _
      · exact Work.agree_pure (fun _ _ => id) _

/-- Pages are turned alike: a page does not depend on conditions. -/
theorem agree_setPage (number : UInt64) :
    Work.Agree (Alike (ι := ι) given) (Alike given) (setPage number) (setPage number) := by
  unfold setPage
  refine Work.agree_get_bind fun c c' h => ?_
  have hpaging : c'.paging = c.paging := by rw [h.rest]
  rw [hpaging]
  split
  · exact Work.agree_fail (fun _ _ => id) _
  · exact Work.agree_then (Work.agree_ofResult (fun _ _ => id) _) fun paging =>
      Work.agree_modify fun _ _ h => h.congr (fun _ => rfl) fun _ _ => rfl

/-- A change agrees with itself. -/
theorem Change.agree_same (change : Change) :
    Work.Agree (Alike given) (Alike (given ++ change.passedWith change)) (change.work schema)
      (change.work schema) := by
  -- Changes without values of their own pass none along.
  have hmono {w : Work (Criteria ι) Unit} {pairs : List (Value × Value)}
      (h : Work.Agree (Alike given) (Alike given) w w) :
      Work.Agree (Alike given) (Alike (given ++ pairs)) w w := by
    intro c c' hc
    obtain ⟨hsame, hleft⟩ := h c c' hc
    exact ⟨hsame, hleft.mono (List.sublist_append_left _ _)⟩
  cases change with
  | filter connector field comparison value => exact agree_addFilter schema (.same _)
  | condition connector template values =>
      exact agree_addCondition schema (List.forall₂_same.mpr fun v _ => .inl rfl)
  | order field direction =>
      exact hmono (agree_resolveField_modify schema field (fun _ _ => rfl) fun _ _ _ => rfl)
  | grouping field =>
      exact hmono (agree_resolveField_modify schema field (fun _ _ => rfl) fun _ _ _ => rfl)
  | fetchPath path => exact hmono (agree_addFetchPath schema path)
  | fetch path => exact hmono (agree_addFetchPath schema (splitPath path))
  | fetches paths =>
      exact hmono (agree_keepingJoins
        (Work.agree_forM paths fun path => agree_addFetchPath schema (splitPath path)))
  | resolve name =>
      exact hmono (Work.agree_map (agree_resolveField schema name) _)
  | page number => exact hmono (agree_setPage number)
  | clearConditions | clear =>
      exact hmono (Work.agree_modify fun _ _ h => h.cleared (fun _ => rfl) fun _ _ => rfl)
  | limit _ | paging _ | suspendLimits | restoreLimits _ | clearOrders | clearGroupings
  | clearFetches | clearLimit | clearPaging | rowSelection =>
      exact hmono (Work.agree_modify fun _ _ h => h.congr (fun _ => rfl) fun _ _ => rfl)

/-- Changes whose values stand for each other are refused alike, with the
same error, and leave criteria that are alike. -/
theorem Change.agree {change change' : Change} (h : Change.Exchanged change change') :
    Work.Agree (Alike given) (Alike (given ++ change.passedWith change')) (change.work schema)
      (change'.work schema) := by
  cases h with
  | same => exact change.agree_same schema
  | scalar left right => exact agree_addFilter schema (.scalar left right)
  | members some length left right =>
      exact agree_addFilter schema (.members some length left right)
  | values each => exact agree_addCondition schema each

/-- Changes that stand for each other pass as many values along. -/
theorem Change.Exchanged.length_passed {change change' : Change}
    (h : Change.Exchanged change change') : change.passed.length = change'.passed.length := by
  cases h with
  | same => rfl
  | @scalar _ _ _ v w left right =>
      have hone {u : Value} (hu : u.isScalar) {connector : Connector} {field : String}
          {comparison : Comparison} :
          (Change.filter connector field comparison u).passed.length = 1 := by
        rw [← filterValues_passed (filterValues_scalar hu)]
        rfl
      rw [hone left, hone right]
  | members some length left right => exact length
  | values each => exact each.length_eq

/-- The outcomes of changes that are made one after another. -/
def outcomes (c : Criteria ι) : List Change → List (Result Unit)
  | [] => []
  | change :: changes =>
    ((change.work schema).exec c).1 :: outcomes (after schema c change) changes

/-- Programs whose values stand for each other have the same outcomes, and
their criteria stay alike. -/
theorem Alike.run {changes changes' : List Change}
    (h : List.Forall₂ Change.Exchanged changes changes') (hc : Alike given c c') :
    outcomes schema c changes = outcomes schema c' changes' ∧
      Alike (given ++ (passed changes).zip (passed changes')) (run schema c changes)
        (run schema c' changes') := by
  induction h generalizing given c c' with
  | nil =>
      refine ⟨rfl, ?_⟩
      rw [show (passed []).zip (passed []) = [] from rfl, List.append_nil]
      exact hc
  -- One step, and then the others, which start from criteria that are alike.
  | @cons change change' changes changes' hchange _ ih =>
      obtain ⟨hsame, hleft⟩ := Change.agree schema hchange c c' hc
      obtain ⟨houtcomes, hrun⟩ := ih hleft
      refine ⟨?_, ?_⟩
      · rw [outcomes, outcomes, hsame]
        exact congrArg _ houtcomes
      · rw [List.append_assoc] at hrun
        rw [passed, passed, List.flatMap_cons, List.flatMap_cons,
          List.zip_append hchange.length_passed]
        exact hrun

end Alike

end Criteria

end DataAccess
