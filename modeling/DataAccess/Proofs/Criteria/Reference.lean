import DataAccess.Proofs.Criteria.JoinTree
import DataAccess.Proofs.Criteria.Rejection
import DataAccess.Sql.Statement

/-!
# `DataAccess.Proofs.Criteria.Reference`: columns that a criteria refers to

Names are resolved to columns of aliased tables when they are used, and
the statement with the joins is only made later. Here it is shown that
the columns are still there then, and still the same ones.

`Origins` are the names and templates that the parts of a criteria were
made from, each with the joins at that time, so that a part can be
compared with what it was made from. `JoinRegistry.Extends` says that
joins stay, whatever is added: only their counters change. What a name
stood for it then stands for later (`Lasting.mono`), and this is kept by
every change but `clearFetches` (`Traced.after`).

The joins of a statement come in the order of their identifiers. A path
goes before all paths that it begins, whatever characters there are in
the names, so that a join comes after the one it hangs off
(`WellFormed.base_before`).
-/

set_option autoImplicit false

namespace DataAccess

variable {ι : Type}

namespace JoinRegistry

open Criteria (splitPath DotFree)

/-! ### Joins stay -/

/-- Every join of `r` is one of `r'`, the same but for its counter. -/
def Extends (r r' : JoinRegistry ι) : Prop :=
  ∀ j ∈ r.joins, ∃ k ∈ r'.joins, k = { j with children := k.children }

section Extends
variable {r r' r'' : JoinRegistry ι}

/-- The joins are there already. -/
theorem Extends.refl (r : JoinRegistry ι) : r.Extends r :=
  fun j hj => ⟨j, hj, rfl⟩

/-- Joins that stayed twice have stayed. -/
theorem Extends.trans (h : r.Extends r') (h' : r'.Extends r'') : r.Extends r'' := by
  intro j hj
  obtain ⟨k, hk, hjk⟩ := h j hj
  obtain ⟨l, hl, hkl⟩ := h' k hk
  refine ⟨l, hl, hkl.trans ?_⟩
  rw [hjk]

/-- A new join leaves the others where they are, with one counter raised. -/
theorem extends_grow (r : JoinRegistry ι) (base : Option (Join ι)) (j : Join ι) :
    r.Extends (r.grow base j) :=
  fun k hk => ⟨bump base k, mem_grow.mpr (Or.inr ⟨k, hk, rfl⟩), by rw [bump_eq]⟩

variable (schema : Schema ι) (root : ι)

/-- So does a step: it fails, finds its join or makes a new one. -/
theorem step_extends (base : Option (Join ι)) (depth : Nat) (segment : String) :
    Work.Keeps r.Extends (step schema root base depth segment) := by
  intro s hs
  rcases step_cases schema root base depth segment s with ⟨e, he⟩ | ⟨j, hj, -⟩ | ⟨j, hj, -⟩
  · rw [he]
    exact hs
  · rw [hj]
    exact hs
  · rw [hj]
    exact hs.trans (extends_grow s base j)

/-- Making the joins of a path leaves the others where they are, also if
it fails half way. -/
theorem resolve_extends (maxDepth : Nat) (path : List String) :
    Work.Keeps r.Extends (resolve schema root maxDepth path) :=
  resolve_keeps (step_extends schema root) path

end Extends

section Found
variable {schema : Schema ι} {root : ι} {r r' : JoinRegistry ι} {j : Join ι}

/-- The join that a step ends at is there afterwards, under the identifier
of the step. -/
theorem step_ok {base : Option (Join ι)} {depth : Nat} {segment : String}
    (h : (step schema root base depth segment).exec r = (.ok j, r')) :
    j ∈ r'.joins ∧ j.identifier = identifierUnder base segment := by
  rcases step_cases schema root base depth segment r with
    ⟨e, he⟩ | ⟨k, hk, hmem, hid⟩ | ⟨k, hk, hmade, -⟩
  · cases h.symm.trans he
  · obtain ⟨rfl, rfl⟩ : j = k ∧ r' = r := by simpa using h.symm.trans hk
    exact ⟨hmem, hid⟩
  · obtain ⟨rfl, rfl⟩ : j = k ∧ r' = r.grow base k := by simpa using h.symm.trans hk
    exact ⟨mem_grow.mpr (Or.inl rfl), hmade.identifier_eq⟩

/-- The join at the end of a walk is there, and its path goes on from
that of the base. -/
theorem walk_ok {path : List String} {base : Join ι} {depth : Nat} (hbase : base ∈ r.joins)
    (hdot : DotFree path) (h : (walk schema root base depth path).exec r = (.ok j, r')) :
    j ∈ r'.joins ∧ splitPath j.identifier = splitPath base.identifier ++ path := by
  induction path generalizing r base depth with
  | nil =>
      obtain ⟨rfl, rfl⟩ : base = j ∧ r = r' := by simpa [walk] using h
      exact ⟨hbase, (List.append_nil _).symm⟩
  | cons segment path ih =>
      rw [walk] at h
      -- The first step ends at `k`, and the rest of the walk starts there.
      obtain ⟨k, t, hstep, hwalk⟩ := Work.exec_bind_eq_ok.mp h
      obtain ⟨hk, hid⟩ := step_ok hstep
      have hsegments : splitPath k.identifier = splitPath base.identifier ++ [segment] := by
        rw [hid, splitPath_identifierUnder (some base) (hdot segment (by simp))]
        rfl
      obtain ⟨hj, hpath⟩ := ih hk (fun s hs => hdot s (by simp [hs])) hwalk
      refine ⟨hj, ?_⟩
      rw [hpath, hsegments, List.append_assoc, List.singleton_append]

/-- The join that a path without points is resolved to is there, and it
is that of the path. -/
theorem resolve_ok {path : List String} {maxDepth : Nat} (hdot : DotFree path)
    (h : (resolve schema root maxDepth path).exec r = (.ok j, r')) :
    j ∈ r'.joins ∧ splitPath j.identifier = path := by
  unfold resolve at h
  split at h
  · cases h
  · split at h
    · cases h
    · cases path with
      | nil => cases h
      | cons segment path =>
          -- The first step is one from the root, where the identifier is the segment alone.
          obtain ⟨k, t, hstep, hwalk⟩ := Work.exec_bind_eq_ok.mp h
          obtain ⟨hk, hid⟩ := step_ok hstep
          obtain ⟨hj, hpath⟩ := walk_ok hk (fun s hs => hdot s (by simp [hs])) hwalk
          refine ⟨hj, ?_⟩
          rw [hpath, hid, identifierUnder, Criteria.splitPath_singleton (hdot segment (by simp)),
            List.singleton_append]

end Found

end JoinRegistry

/-- The text of the pieces of a template, where a reference may stand for
any text that `R` allows. -/
inductive Template.Expands (R : String → String → Prop) :
    List Template.Piece → List Char → Prop
  | nil : Expands R [] []
  | char (c : Char) {pieces : List Template.Piece} {cs : List Char} :
      Expands R pieces cs → Expands R (.char c :: pieces) (c :: cs)
  | reference {name text : String} {pieces : List Template.Piece} {cs : List Char} :
      R name text → Expands R pieces cs →
      Expands R (.reference name :: pieces) (text.toList ++ cs)

/-- A text that was allowed for a reference still is if more texts are. -/
theorem Template.Expands.mono {R S : String → String → Prop}
    (hRS : ∀ name text, R name text → S name text) {pieces : List Template.Piece}
    {cs : List Char} (h : Expands R pieces cs) : Expands S pieces cs := by
  induction h with
  | nil => exact .nil
  | char c _ ih => exact .char c ih
  | reference hname _ ih => exact .reference (hRS _ _ hname) ih

namespace Criteria

/-! ### What a name stands for -/

/-- The column is what the name stands for, both among the joins `before`
and among the joins `now`: a column of the root, or one of the join at
the end of the relations of the name. That join is the same one both
times, with the same identifier, alias, base, target and columns. -/
def Lasting (schema : Schema ι) (root : ι) (before now : JoinRegistry ι) (name : String)
    (column : ColumnRef) : Prop :=
  match splitName name with
  | ([], _) => column.table = .main ∧ (schema root).columnName name = .ok column.column
  | (path, field) =>
    ∃ j ∈ before.joins, ∃ k ∈ now.joins, k = { j with children := k.children } ∧
      splitPath j.identifier = path ∧ column.table = j.tableAlias ∧
      (schema j.target).columnName field = .ok column.column

/-- The text is what a reference of a template stands for: the alias of
the root, a column of the root as it is written, or the column of a
field. -/
def Rendered (schema : Schema ι) (root : ι) (before now : JoinRegistry ι) (name text : String) :
    Prop :=
  (name = rootReference ∧ text = Alias.main.text) ∨
  (name.startsWith (rootReference ++ ".") = true ∧ text =
    (ColumnRef.mk .main (String.ofList (name.toList.drop (rootReference.length + 1)))).text) ∨
  ∃ column, text = column.text ∧ Lasting schema root before now name column

section Lasting
variable {schema : Schema ι} {root : ι} {before now later : JoinRegistry ι}

/-- What a name stands for it stands for as long as joins are only
added. -/
theorem Lasting.mono {name : String} {column : ColumnRef} (hext : now.Extends later)
    (h : Lasting schema root before now name column) :
    Lasting schema root before later name column := by
  unfold Lasting at h ⊢
  rcases hsplit : splitName name with ⟨_ | ⟨segment, path⟩, field⟩ <;> rw [hsplit] at h
  · exact h
  · obtain ⟨j, hj, k, hk, hjk, hrest⟩ := h
    obtain ⟨l, hl, hkl⟩ := hext k hk
    refine ⟨j, hj, l, hl, hkl.trans ?_, hrest⟩
    rw [hjk]

/-- What a reference of a template stands for it stands for as long as
joins are only added. -/
theorem Rendered.mono {name text : String} (hext : now.Extends later)
    (h : Rendered schema root before now name text) :
    Rendered schema root before later name text :=
  h.imp_right fun h => h.imp_right fun ⟨column, htext, hcolumn⟩ =>
    ⟨column, htext, hcolumn.mono hext⟩

end Lasting

/-- The criteria are the same, but for joins that were added. -/
def Grown (c₀ c : Criteria ι) : Prop :=
  SameButJoins c₀ c ∧ c₀.joins.Extends c.joins

/-- Only the joins of a criteria grow. -/
theorem Grown.eq {c₀ c : Criteria ι} (h : Grown c₀ c) : c = { c₀ with joins := c.joins } :=
  congrArg (fun d => { d with joins := c.joins }) h.1

/-- A criteria that has grown has the root that it had. -/
theorem Grown.root_eq {c₀ c : Criteria ι} (h : Grown c₀ c) : c.root = c₀.root := by
  rw [h.eq]

/-- A criteria that has grown has the marker that it had. -/
theorem Grown.marker_eq {c₀ c : Criteria ι} (h : Grown c₀ c) : c.marker = c₀.marker := by
  rw [h.eq]

/-- All that a criteria is changed by when names are resolved lets it grow. -/
theorem resolvable_grown (schema : Schema ι) (c₀ : Criteria ι) :
    Resolvable schema (fun _ => True) (Grown c₀) where
  dotFree _ _ := trivial
  resolve path _ c _ :=
    Work.keeps_within (R := c₀.joins.Extends) (fun _ h => h.2)
      (JoinRegistry.resolve_extends schema c.root c.joinMaxDepth path)
      fun _ _ h hext => ⟨h.1, hext⟩
  restore _ _ h h' := ⟨h'.1, h.2⟩

/-- Work that keeps the criteria grown has let it grow. -/
theorem grown_of_keeps {α : Type} {w : Work (Criteria ι) α} {c c' : Criteria ι} {a : Result α}
    (hw : Work.Keeps (Grown c) w) (h : w.exec c = (a, c')) : Grown c c' := by
  have hgrown := hw c ⟨rfl, .refl _⟩
  rwa [h] at hgrown

/-- Work that succeeds has nothing restored. -/
theorem keepingJoins_ok {α : Type} {w : Work (Criteria ι) α} {c c' : Criteria ι} {a : α}
    (h : (keepingJoins w).exec c = (.ok a, c')) : w.exec c = (.ok a, c') := by
  simp only [keepingJoins, Work.undoing, Work.exec_of] at h
  rcases hrun : w.exec c with ⟨_ | b, t⟩
  · rw [hrun] at h
    cases h
  · rw [hrun] at h
    exact h

section Resolved
variable {schema : Schema ι} {c c' : Criteria ι}

/-- A name is resolved to what it stands for among the joins that there
are then. -/
theorem resolvePath_lasting {name : String} {column : ColumnRef} {r : JoinRegistry ι}
    (h : (resolvePath schema name).exec c = (.ok column, c')) (hr : c'.joins.Extends r) :
    Lasting schema c.root r r name column := by
  have hdot := dotFree_splitName name
  unfold resolvePath at h
  rw [Work.exec_get_bind] at h
  unfold Lasting
  rcases hsplit : splitName name with ⟨_ | ⟨segment, path⟩, field⟩ <;> rw [hsplit] at h hdot
  · obtain ⟨text, t, htext, hcolumn⟩ := Work.exec_bind_eq_ok.mp h
    simp only [Work.exec_ofResult, Work.exec_pure, Prod.mk.injEq, Except.ok.injEq] at htext hcolumn
    rw [← hcolumn.1]
    exact ⟨rfl, htext.1⟩
  · obtain ⟨j, t, hj, hrest⟩ := Work.exec_bind_eq_ok.mp h
    obtain ⟨text, t', htext, hcolumn⟩ := Work.exec_bind_eq_ok.mp hrest
    simp only [Work.exec_ofResult, Work.exec_pure, Prod.mk.injEq, Except.ok.injEq] at htext hcolumn
    -- The join is one of those that the work on the joins ended with.
    have hresolve : (JoinRegistry.resolve schema c.root c.joinMaxDepth
        (segment :: path)).exec c.joins
        = (.ok j, t.joins) := by
      simp only [onJoins, Work.exec_within, Prod.mk.injEq] at hj
      exact Prod.ext hj.1 (congrArg Criteria.joins hj.2)
    obtain ⟨hmem, hpath⟩ := JoinRegistry.resolve_ok hdot hresolve
    rw [← hcolumn.2, ← htext.2] at hr
    obtain ⟨k, hk, hjk⟩ := hr j hmem
    rw [← hcolumn.1]
    refine ⟨k, hk, k, hk, rfl, ?_, ?_, ?_⟩
    · rw [hjk]
      exact hpath
    · rw [hjk]
    · rw [hjk]
      exact htext.1

/-- A field stands for its column among the joins that are there
afterwards. -/
theorem resolveField_ok {name : String} {column : ColumnRef}
    (h : (resolveField schema name).exec c = (.ok column, c')) :
    Grown c c' ∧ Lasting schema c.root c'.joins c'.joins name column := by
  have hpath := keepingJoins_ok h
  have hgrown := grown_of_keeps ((resolvable_grown schema c).resolvePath name) hpath
  exact ⟨hgrown, resolvePath_lasting hpath (.refl _)⟩

/-- A reference stands for its text among the joins that are there
afterwards, and among all later ones. -/
theorem resolveReference_rendered {name text : String} {r : JoinRegistry ι}
    (h : (resolveReference schema name).exec c = (.ok text, c')) (hr : c'.joins.Extends r) :
    Rendered schema c.root r r name text := by
  unfold resolveReference at h
  split at h
  -- The alias of the root.
  · rename_i hname
    simp only [Work.exec_pure, Prod.mk.injEq, Except.ok.injEq] at h
    exact Or.inl ⟨hname, h.1.symm⟩
  · split at h
    -- A column of the root as it is written.
    · rename_i hstart
      simp only [Work.exec_pure, Prod.mk.injEq, Except.ok.injEq] at h
      exact Or.inr (Or.inl ⟨hstart, h.1.symm⟩)
    -- The column of a field, which is resolved like any other.
    · obtain ⟨column, t, hcolumn, htext⟩ := Work.exec_bind_eq_ok.mp h
      simp only [Work.exec_pure, Prod.mk.injEq, Except.ok.injEq] at htext
      rw [← htext.2] at hr
      exact Or.inr (Or.inr ⟨column, htext.1.symm, resolvePath_lasting hcolumn hr⟩)

/-- The references of a template are resolved one after another, and
those that come first are still good when the last one is resolved. -/
theorem join_expands {template : String} {pieces : List Template.Piece} {cs : List Char}
    {r : JoinRegistry ι}
    (h : (Template.join template (resolveReference schema) pieces).exec c = (.ok cs, c'))
    (hr : c'.joins.Extends r) : Template.Expands (Rendered schema c.root r r) pieces cs := by
  induction pieces generalizing c cs with
  | nil =>
      simp only [Template.join, Work.exec_pure, Prod.mk.injEq, Except.ok.injEq] at h
      rw [← h.1]
      exact .nil
  | cons piece pieces ih =>
      cases piece with
      | char d =>
          obtain ⟨text, t, htext, hcs⟩ := Work.exec_bind_eq_ok.mp h
          simp only [Work.exec_pure, Prod.mk.injEq, Except.ok.injEq] at hcs
          rw [← hcs.1]
          rw [hcs.2] at htext
          exact .char d (ih htext)
      | reference name =>
          obtain ⟨text, t, htext, hrest⟩ := Work.exec_bind_eq_ok.mp h
          obtain ⟨rest, t', hrest, hcs⟩ := Work.exec_bind_eq_ok.mp hrest
          simp only [Work.exec_pure, Prod.mk.injEq, Except.ok.injEq] at hcs
          rw [hcs.2] at hrest
          -- Resolving this reference and then the others, joins were only added.
          have hfirst := grown_of_keeps ((resolvable_grown schema c).resolveReference name) htext
          have hothers := grown_of_keeps ((resolvable_grown schema t).join template pieces) hrest
          rw [← hcs.1]
          refine .reference (resolveReference_rendered htext (hothers.2.trans hr)) ?_
          rw [← hfirst.root_eq]
          exact ih hrest
      | unfinished => cases h

end Resolved

/-! ### Where the parts of a criteria come from -/

/-- What a part of a criteria was made from: the name or the template
that was given, and the joins when it had been resolved. -/
structure Origin (ι : Type) where
  text : String
  joins : JoinRegistry ι

/-- The origins of the parts of a criteria that are still there. -/
structure Origins (ι : Type) where
  conditions : List (Origin ι) := []
  orders : List (Origin ι) := []
  groupings : List (Origin ι) := []

/-- The origins after a change of the criteria `c`. A change that fails
adds nothing and takes nothing away. -/
def Origins.after (schema : Schema ι) (c : Criteria ι) (change : Change) (o : Origins ι) :
    Origins ι :=
  let origin (text : String) : Origin ι := ⟨text, (Criteria.after schema c change).joins⟩
  match ((change.work schema).exec c).1, change with
  | .error _, _ => o
  | .ok _, .filter _ field _ _ => { o with conditions := o.conditions ++ [origin field] }
  | .ok _, .condition _ template _ => { o with conditions := o.conditions ++ [origin template] }
  | .ok _, .order field _ => { o with orders := o.orders ++ [origin field] }
  | .ok _, .grouping field => { o with groupings := o.groupings ++ [origin field] }
  | .ok _, .clearConditions => { o with conditions := [] }
  | .ok _, .clearOrders => { o with orders := [] }
  | .ok _, .clearGroupings => { o with groupings := [] }
  | .ok _, .clear => {}
  | .ok _, .rowSelection => { o with orders := [], groupings := [] }
  | .ok _, _ => o

/-- The origins after many changes. -/
def origins (schema : Schema ι) (c : Criteria ι) (o : Origins ι) : List Change → Origins ι
  | [] => o
  | change :: changes =>
    origins schema (Criteria.after schema c change) (o.after schema c change) changes

/-- What a condition refers to is what was given stands for, then and
now. -/
def ConditionFrom (schema : Schema ι) (c : Criteria ι) (condition : Condition)
    (origin : Origin ι) : Prop :=
  match condition.clause with
  | .filter column _ => Lasting schema c.root origin.joins c.joins origin.text column
  | .template text =>
    Template.Expands (Rendered schema c.root origin.joins c.joins)
      (Template.pieces c.marker none origin.text.toList) text.toList

/-- Every part of a criteria refers to what its origin stands for, then
and now. -/
structure Traced (schema : Schema ι) (c : Criteria ι) (o : Origins ι) : Prop where
  conditions : List.Forall₂ (ConditionFrom schema c) c.conditions o.conditions
  orders : List.Forall₂ (fun order origin =>
    Lasting schema c.root origin.joins c.joins origin.text order.column) c.orders o.orders
  groupings : List.Forall₂ (fun column origin =>
    Lasting schema c.root origin.joins c.joins origin.text column) c.groupings o.groupings

section Traced
variable {schema : Schema ι} {c c' : Criteria ι} {o : Origins ι}

/-- A new criteria refers to nothing. -/
theorem traced_new (schema : Schema ι) (root : ι) (settings : QuerySettings) :
    Traced schema (new root settings) {} :=
  ⟨.nil, .nil, .nil⟩

/-- Parts that are there refer to the same as before when joins are added. -/
theorem Traced.grow (h : Traced schema c o) (hgrown : Grown c c') : Traced schema c' o := by
  rw [hgrown.eq]
  refine ⟨h.conditions.imp fun condition origin hfrom => ?_,
    h.orders.imp fun _ _ => Lasting.mono hgrown.2,
    h.groupings.imp fun _ _ => Lasting.mono hgrown.2⟩
  -- A condition is a filter with one name, or a template with references.
  unfold ConditionFrom at hfrom ⊢
  split
  · rename_i hclause
    rw [hclause] at hfrom
    exact hfrom.mono hgrown.2
  · rename_i hclause
    rw [hclause] at hfrom
    exact hfrom.mono fun _ _ => Rendered.mono hgrown.2

/-- A condition may be added with its origin. -/
theorem Traced.withCondition (h : Traced schema c o) {condition : Condition} {origin : Origin ι}
    (hfrom : ConditionFrom schema c condition origin) :
    Traced schema (c.withCondition condition)
      { o with conditions := o.conditions ++ [origin] } where
  conditions := List.rel_append h.conditions (.cons hfrom .nil)
  orders := h.orders
  groupings := h.groupings

/-- A change that resolves a name and then adds its column. -/
theorem resolveField_modify_ok {name : String} {f : ColumnRef → Criteria ι → Criteria ι}
    {u : PUnit}
    (h : (resolveField schema name >>= fun column =>
      (modify (f column) : Work (Criteria ι) PUnit)).exec c = (.ok u, c')) :
    ∃ column c₁, Grown c c₁ ∧ Lasting schema c₁.root c₁.joins c₁.joins name column ∧
      c' = f column c₁ := by
  obtain ⟨column, c₁, hcolumn, hmodify⟩ := Work.exec_bind_eq_ok.mp h
  obtain ⟨hgrown, hlasting⟩ := resolveField_ok hcolumn
  rw [← hgrown.root_eq] at hlasting
  exact ⟨column, c₁, hgrown, hlasting, (congrArg Prod.snd hmodify).symm⟩

/-- A template is expanded by what its references stand for, among the
joins that are there afterwards. -/
theorem resolveTemplate_ok {template text : String}
    (h : (resolveTemplate schema template).exec c = (.ok text, c')) :
    Grown c c' ∧ Template.Expands (Rendered schema c'.root c'.joins c'.joins)
      (Template.pieces c'.marker none template.toList) text.toList := by
  have hgrown := grown_of_keeps ((resolvable_grown schema c).resolveTemplate template) h
  unfold resolveTemplate at h
  rw [Work.exec_get_bind, Template.expand] at h
  obtain ⟨cs, t, hcs, htext⟩ := Work.exec_bind_eq_ok.mp h
  simp only [Work.exec_pure, Prod.mk.injEq, Except.ok.injEq] at htext
  rw [htext.2] at hcs
  -- The root and the marker are those of the start.
  have hexpands := join_expands hcs (.refl _)
  rw [← hgrown.root_eq, ← hgrown.marker_eq] at hexpands
  refine ⟨hgrown, ?_⟩
  rw [← htext.1, String.toList_ofList]
  exact hexpands

/-- A condition that is added is the text of its template, resolved. -/
theorem addCondition_resolved {connector : Connector} {template : String} {values : List Value}
    {u : Unit} (h : (addCondition schema connector template values).exec c = (.ok u, c')) :
    ∃ text c₁, (resolveTemplate schema template).exec c = (.ok text, c₁) ∧
      c' = c₁.withCondition ⟨connector, .template text, values⟩ := by
  rw [addCondition_eq] at h
  split at h
  · cases h
  · split at h
    · cases h
    · obtain ⟨text, c₁, htext, hmodify⟩ := Work.exec_bind_eq_ok.mp h
      obtain ⟨text', t, hresolved, hcounted⟩ := Work.exec_bind_eq_ok.mp (keepingJoins_ok htext)
      -- Counting the placeholders changes neither the text nor the criteria.
      obtain ⟨rfl, rfl⟩ : text' = text ∧ t = c₁ := by
        split at hcounted
        · cases hcounted
        · simpa using hcounted
      exact ⟨text', t, hresolved, (congrArg Prod.snd hmodify).symm⟩

/-- A change that resolves a template and then adds its text. -/
theorem addCondition_ok {connector : Connector} {template : String} {values : List Value}
    {u : Unit} (h : (addCondition schema connector template values).exec c = (.ok u, c')) :
    ∃ text c₁, Grown c c₁ ∧
      ConditionFrom schema c₁ ⟨connector, .template text, values⟩ ⟨template, c₁.joins⟩ ∧
      c' = c₁.withCondition ⟨connector, .template text, values⟩ := by
  obtain ⟨text, c₁, hresolved, hc'⟩ := addCondition_resolved h
  obtain ⟨hgrown, hexpands⟩ := resolveTemplate_ok hresolved
  exact ⟨text, c₁, hgrown, hexpands, hc'⟩

/-- Every change but `clearFetches` keeps what the parts of a criteria
refer to, and adds parts that refer to what was given. -/
theorem Traced.after (h : Traced schema c o) {change : Change} (hchange : change ≠ .clearFetches) :
    Traced schema (Criteria.after schema c change) (o.after schema c change) := by
  unfold Origins.after
  rcases hrun : (change.work schema).exec c with ⟨e | u, c'⟩
  · -- A change that fails has not taken place.
    rw [after_of_error (congrArg Prod.fst hrun)]
    exact h
  have hafter : Criteria.after schema c change = c' := congrArg Prod.snd hrun
  rw [hafter]
  cases change with
  | filter connector field comparison value =>
      obtain ⟨values, t, hvalues, hrest⟩ := Work.exec_bind_eq_ok.mp hrun
      simp only [Work.exec_ofResult, Prod.mk.injEq] at hvalues
      rw [← hvalues.2] at hrest
      obtain ⟨column, c₁, hgrown, hlasting, rfl⟩ := resolveField_modify_ok hrest
      exact (h.grow hgrown).withCondition hlasting
  | condition connector template values =>
      have hadded : (addCondition schema connector template values).exec c = (.ok u, c') := hrun
      obtain ⟨text, c₁, hgrown, hfrom, rfl⟩ := addCondition_ok hadded
      exact (h.grow hgrown).withCondition hfrom
  | order field direction =>
      obtain ⟨column, c₁, hgrown, hlasting, rfl⟩ := resolveField_modify_ok hrun
      have h₁ := h.grow hgrown
      exact { h₁ with orders := List.rel_append h₁.orders (.cons hlasting .nil) }
  | grouping field =>
      obtain ⟨column, c₁, hgrown, hlasting, rfl⟩ := resolveField_modify_ok hrun
      have h₁ := h.grow hgrown
      exact { h₁ with groupings := List.rel_append h₁.groupings (.cons hlasting .nil) }
  -- Joins that are added for themselves are not referred to yet.
  | fetchPath path =>
      exact h.grow (grown_of_keeps ((resolvable_grown schema c).fetchPath trivial) hrun)
  | fetch path =>
      exact h.grow (grown_of_keeps ((resolvable_grown schema c).fetchPath trivial) hrun)
  | fetches paths =>
      exact h.grow (grown_of_keeps ((resolvable_grown schema c).addFetches paths) hrun)
  | resolve name =>
      obtain ⟨column, c₁, hcolumn, hpure⟩ := Work.exec_bind_eq_ok.mp hrun
      obtain rfl : c₁ = c' := congrArg Prod.snd hpure
      exact h.grow (resolveField_ok hcolumn).1
  | page number =>
      have hkeeps : Work.Keeps (fun c => Traced schema c o) (setPage number) := by
        refine Work.keeps_get_bind fun c hc => ?_
        split
        · exact Work.keeps_fail _
        · refine Work.keeps_bind (Work.keeps_ofResult _) fun paging => ?_
          exact Work.keeps_modify fun c hc => { hc with }
      obtain rfl := congrArg Prod.snd hrun
      exact hkeeps c h
  | limit _ | paging _ | suspendLimits | restoreLimits _ | clearLimit | clearPaging =>
      obtain rfl := congrArg Prod.snd hrun
      exact { h with }
  | clearConditions =>
      obtain rfl := congrArg Prod.snd hrun
      exact { h with conditions := .nil }
  | clearOrders =>
      obtain rfl := congrArg Prod.snd hrun
      exact { h with orders := .nil }
  | clearGroupings =>
      obtain rfl := congrArg Prod.snd hrun
      exact { h with groupings := .nil }
  | clearFetches => exact absurd rfl hchange
  | clear =>
      -- The joins go, but so does all that refers to them.
      obtain rfl := congrArg Prod.snd hrun
      exact ⟨.nil, .nil, .nil⟩
  | rowSelection =>
      obtain rfl := congrArg Prod.snd hrun
      exact { h with orders := .nil, groupings := .nil }

/-- By induction on the changes, none of which clears the joins alone. -/
theorem Traced.run (h : Traced schema c o) {changes : List Change}
    (hchanges : ∀ change ∈ changes, change ≠ .clearFetches) :
    Traced schema (Criteria.run schema c changes) (origins schema c o changes) := by
  induction changes generalizing c o with
  | nil => exact h
  | cons change changes ih =>
      exact ih (h.after (hchanges change (by simp))) fun other ho => hchanges other (by simp [ho])

end Traced

end Criteria

/-! ### The order of the joins -/

/-- Every alias is introduced once, and a table is joined to the root or
to a table that was joined before. -/
structure Selection.Introduced (s : Selection) : Prop where
  once : (Alias.main.text :: s.joins.map (·.tableAlias.text)).Nodup
  before : ∀ earlier j later, s.joins = earlier ++ j :: later →
    j.baseAlias = .main ∨ ∃ b ∈ earlier, b.tableAlias = j.baseAlias

namespace JoinRegistry

variable {schema : Schema ι} {root : ι} {maxDepth : Nat} {r : JoinRegistry ι}

/-- In the order of identifiers a join comes after the one it hangs
off. -/
theorem WellFormed.base_before (h : WellFormed schema root maxDepth r) {j : Join ι}
    {earlier later : List (Join ι)} (hj : r.joins = earlier ++ j :: later) :
    j.baseAlias = .main ∨ ∃ b ∈ earlier, b.tableAlias = j.baseAlias := by
  obtain ⟨base, segment, n, hs⟩ := h.stands j (by simp [hj])
  rw [hs.baseAlias]
  cases base with
  | none => exact Or.inl rfl
  | some b => exact Or.inr ⟨b, h.mem_earlier hj (hs.base_mem b rfl) hs.base_lt, rfl⟩

end JoinRegistry

namespace Criteria

/-- The joins of a tree, in the order of their identifiers, introduce their
aliases. -/
theorem introduced_of_wellFormed {schema : Schema ι} {c : Criteria ι} {root : ι} {maxDepth : Nat}
    (h : JoinRegistry.WellFormed schema root maxDepth c.joins) :
    (c.selection schema).Introduced where
  once := by
    show (Alias.main.text :: (c.joinedTables schema).map (·.tableAlias.text)).Nodup
    -- No join has the alias of the root, and no two have the same one.
    rw [joinedTables, List.map_map]
    refine List.nodup_cons.mpr ⟨fun hmem => ?_, ?_⟩
    · obtain ⟨j, hj, hmain⟩ := List.mem_map.mp hmem
      exact h.tree.notMain j hj hmain
    · exact h.nodup.map_on fun j hj k hk => h.tree.apart j hj k hk
  before earlier j later hjoins := by
    -- What comes before a joined table is joined by what comes before its join.
    obtain ⟨before, rest, hsplit, rfl, hrest⟩ := List.map_eq_append_iff.mp hjoins
    obtain ⟨k, after, rfl, rfl, -⟩ := List.map_eq_cons_iff.mp hrest
    refine (h.base_before hsplit).imp_right fun ⟨b, hb, hbase⟩ => ?_
    exact ⟨_, List.mem_map_of_mem hb, hbase⟩

end Criteria

end DataAccess
