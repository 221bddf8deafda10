import DataAccess.Proofs.Schema.Validity
import DataAccess.Proofs.Schema.Walk
import DataAccess.Record

/-!
# `DataAccess.Proofs.Schema.Usable`: which declarations are accepted

`Declaration.validate` goes through the fields and then through the
relations, and keeps the names it has met; a relation is compared with the
names of all fields as well as with those of the relations before it. It
stops at the first thing that is wrong.

* `Declaration.Usable` says what a declaration has to be like, without an
  order. The ones that are accepted are these (`validate_eq_ok_iff`).
* `Declaration.Faulty` says of an error that it is right about a
  declaration. Every error of `validate` is (`faulty_of_validate`), and as
  none is about a usable declaration (`Usable.not_faulty`), these are
  accepted.
* In a usable declaration each name and each column leads back to what was
  declared by it (`Declaration.Resolves`, `Model.Binds`).

`Declaration.validate_usable` is all of this.
-/

set_option autoImplicit false

namespace DataAccess

variable {ι ε : Type}

namespace Declaration

/-- A declaration that can be used. -/
structure Usable (d : Declaration ι) : Prop where
  /-- One field is the identity. -/
  identified : d.fields.countP (·.identity) = 1
  /-- No name is that of two fields or relations. -/
  named : (d.fields.map (·.name) ++ d.relations.map (·.name)).Nodup
  /-- No column is that of two fields. -/
  kept : (d.fields.map (·.column)).Nodup
  /-- Every relation is joined through a field. -/
  joined : ∀ r ∈ d.relations, r.joinField ∈ d.fields.map (·.name)

/-- The error says of the declaration what is wrong with it. -/
inductive Faulty (d : Declaration ι) : Error → Prop
  | noIdentity : d.fields.countP (·.identity) = 0 →
      Faulty d (.configuration (.noIdentity d.typeName))
  | severalIdentities : 1 < d.fields.countP (·.identity) →
      Faulty d (.configuration (.severalIdentities d.typeName))
  /-- A field before this one has its name. -/
  | fieldTwice {before after : List Field} {f : Field} : d.fields = before ++ f :: after →
      f.name ∈ before.map (·.name) → Faulty d (.configuration (.fieldTwice d.typeName f.name))
  /-- A field before this one has its column. -/
  | columnTwice {before after : List Field} {f : Field} : d.fields = before ++ f :: after →
      f.column ∈ before.map (·.column) →
      Faulty d (.configuration (.columnTwice d.typeName f.column))
  /-- A field or a relation before this one has its name. -/
  | nameReused {before after : List (Relation ι)} {r : Relation ι} :
      d.relations = before ++ r :: after →
      r.name ∈ d.fields.map (·.name) ++ before.map (·.name) →
      Faulty d (.configuration (.nameReused d.typeName r.name))
  /-- The relation is joined through a field that is not there. -/
  | unjoined {r : Relation ι} : r ∈ d.relations → r.joinField ∉ d.fields.map (·.name) →
      Faulty d (.invalidField d.typeName r.joinField)

variable {d : Declaration ι} {error : Error}

/-- Every fault is one of the configuration. -/
theorem Faulty.isConfiguration (h : d.Faulty error) : error.isConfiguration = true := by
  cases h <;> rfl

/-! ### What is rejected -/

/-- Fields are rejected for a name or a column that was there before. -/
theorem checkFields_error {names columns : List String} {fields : List Field}
    (h : d.checkFields names columns fields = .error error) :
    ∃ before f after, fields = before ++ f :: after ∧
      (error = .configuration (.fieldTwice d.typeName f.name) ∧
          (f.name ∈ names ∨ f.name ∈ before.map (·.name)) ∨
        error = .configuration (.columnTwice d.typeName f.column) ∧
          (f.column ∈ columns ∨ f.column ∈ before.map (·.column))) := by
  induction fields generalizing names columns with
  | nil => cases h
  | cons f fields ih =>
      rw [checkFields] at h
      split at h
      · rename_i hname
        obtain rfl := Except.error.inj h
        exact ⟨[], f, fields, rfl, .inl ⟨rfl, .inl (by simpa using hname)⟩⟩
      split at h
      · rename_i hcolumn
        obtain rfl := Except.error.inj h
        exact ⟨[], f, fields, rfl, .inr ⟨rfl, .inl (by simpa using hcolumn)⟩⟩
      · -- What the first field added was there before, or is before the other one.
        obtain ⟨before, g, after, rfl, hfault⟩ := ih h
        refine ⟨f :: before, g, after, rfl, hfault.imp (And.imp_right ?_) (And.imp_right ?_)⟩ <;>
          simp only [List.mem_cons, List.map_cons] <;> tauto

/-- Relations are rejected for a name that was there before, or for a field
that is not there. -/
theorem checkRelations_error {names : List String} {relations : List (Relation ι)}
    (h : d.checkRelations names relations = .error error) :
    ∃ before r after, relations = before ++ r :: after ∧
      (error = .configuration (.nameReused d.typeName r.name) ∧
          (r.name ∈ names ∨ r.name ∈ before.map (·.name)) ∨
        d.field r.joinField = .error error) := by
  induction relations generalizing names with
  | nil => cases h
  | cons r relations ih =>
      rw [checkRelations] at h
      split at h
      · rename_i hname
        obtain rfl := Except.error.inj h
        exact ⟨[], r, relations, rfl, .inl ⟨rfl, .inl (by simpa using hname)⟩⟩
      -- The name is new: the field is not there, or a later relation is at fault.
      rcases Result.bind_eq_error.mp h with hfield | ⟨f, -, h⟩
      · exact ⟨[], r, relations, rfl, .inr hfield⟩
      · obtain ⟨before, s, after, rfl, hfault⟩ := ih h
        refine ⟨r :: before, s, after, rfl, hfault.imp_left (And.imp_right ?_)⟩
        simp only [List.mem_cons, List.map_cons]
        tauto

/-- A field is not found if there is none of its name. -/
theorem field_eq_error {name : String} :
    d.field name = .error error
      ↔ error = .invalidField d.typeName name ∧ name ∉ d.fields.map (·.name) := by
  have hnone : name ∉ d.fields.map (·.name) ↔ d.fields.find? (·.name == name) = none := by
    simp
  rw [hnone, field]
  cases d.fields.find? (·.name == name) with
  | none => simp [eq_comm]
  | some f => simp

/-- Without a single identity the number of identities is at fault. -/
theorem faulty_of_identityField (h : d.identityField = .error error) : d.Faulty error := by
  have hcount : d.fields.countP (·.identity) = d.identities.length := List.countP_eq_length_filter
  rw [identityField] at h
  split at h
  · cases h
  · rename_i hnone
    obtain rfl := Except.error.inj h
    exact .noIdentity (by rw [hcount, hnone, List.length_nil])
  · rename_i hseveral
    obtain rfl := Except.error.inj h
    refine .severalIdentities ?_
    rw [hcount, hseveral, List.length_cons, List.length_cons]
    omega

/-- What is rejected is at fault. -/
theorem faulty_of_validate (h : d.validate = .error error) : d.Faulty error := by
  -- The identity is looked at first, then the fields, and then the relations.
  rcases Result.bind_eq_error.mp h with h | ⟨_, -, h⟩
  · exact faulty_of_identityField h
  rcases Result.bind_eq_error.mp h with h | ⟨_, -, h⟩
  · obtain ⟨before, f, after, hfields, ⟨rfl, hname⟩ | ⟨rfl, hcolumn⟩⟩ := checkFields_error h
    · exact .fieldTwice hfields (hname.resolve_left List.not_mem_nil)
    · exact .columnTwice hfields (hcolumn.resolve_left List.not_mem_nil)
  · obtain ⟨before, r, after, hrelations, ⟨rfl, hname⟩ | hfield⟩ := checkRelations_error h
    · exact .nameReused hrelations (List.mem_append.mpr hname)
    · obtain ⟨rfl, hmissing⟩ := field_eq_error.mp hfield
      exact .unjoined (by simp [hrelations]) hmissing

/-- In a list without repetitions nothing comes again. -/
private theorem notMem_before {α : Type} {g : α → String} {before after : List α} {a : α}
    (h : ((before ++ a :: after).map g).Nodup) : g a ∉ before.map g := by
  rw [List.map_append, List.map_cons, List.nodup_append] at h
  exact fun hin => h.2.2 (g a) hin (g a) List.mem_cons_self rfl

/-- Nothing is wrong with a declaration that can be used. -/
theorem Usable.not_faulty (h : d.Usable) : ¬ d.Faulty error := by
  obtain ⟨hidentified, hnamed, hkept, hjoined⟩ := h
  obtain ⟨hfields, hrelations, hapart⟩ := List.nodup_append.mp hnamed
  intro hfaulty
  -- Each fault contradicts one part of what makes the declaration usable.
  cases hfaulty with
  | noIdentity hnone => omega
  | severalIdentities hseveral => omega
  | fieldTwice hsplit hname => exact notMem_before (hsplit ▸ hfields) hname
  | columnTwice hsplit hcolumn => exact notMem_before (hsplit ▸ hkept) hcolumn
  | @nameReused before after r hsplit hname =>
      rcases List.mem_append.mp hname with hfield | hbefore
      · exact hapart r.name hfield r.name (by simp [hsplit]) rfl
      · exact notMem_before (hsplit ▸ hrelations) hbefore
  | unjoined hr hmissing => exact hmissing (hjoined _ hr)

/-! ### What is accepted -/

/-- Relations that were checked have different names, and none that was there
before. -/
theorem nodup_of_checkRelations {names : List String} {relations : List (Relation ι)}
    (h : d.checkRelations names relations = .ok ()) :
    (relations.map (·.name)).Nodup ∧ ∀ r ∈ relations, r.name ∉ names := by
  induction relations generalizing names with
  | nil => simp
  | cons r relations ih =>
      rw [checkRelations] at h
      split at h
      · cases h
      rename_i hname
      obtain ⟨_, -, h⟩ := Result.bind_eq_ok.mp h
      -- The others were checked against the names before and this one.
      obtain ⟨hnodup, hnew⟩ := ih h
      refine ⟨?_, List.forall_mem_cons.mpr ⟨by simpa using hname, fun s hs hin => ?_⟩⟩
      · -- A later relation was compared with this one.
        rw [List.map_cons, List.nodup_cons]
        refine ⟨fun hin => ?_, hnodup⟩
        obtain ⟨s, hs, hsame⟩ := List.mem_map.mp hin
        exact hnew s hs (by simp [hsame])
      · exact hnew s hs (by simp [hin])

/-- A declaration that is accepted can be used. -/
theorem usable_of_validate (h : d.validate = .ok ()) : d.Usable where
  identified := by
    obtain ⟨f, hf, -⟩ := Result.bind_eq_ok.mp h
    rw [List.countP_eq_length_filter, identityField_eq_ok.mp hf]
    rfl
  named := by
    obtain ⟨_, -, hrest⟩ := Result.bind_eq_ok.mp h
    obtain ⟨_, -, hrelations⟩ := Result.bind_eq_ok.mp hrest
    -- Relations were checked against the names of the fields.
    obtain ⟨hnodup, hnew⟩ := nodup_of_checkRelations hrelations
    refine List.nodup_append.mpr ⟨?_, hnodup, ?_⟩
    · exact nodup_names h
    · rintro name hfield _ hrelation rfl
      obtain ⟨r, hr, rfl⟩ := List.mem_map.mp hrelation
      exact hnew r hr hfield
  kept := nodup_columns h
  joined r hr := by
    obtain ⟨column, hcolumn⟩ := columnName_joinField h hr
    obtain ⟨f, hf, -⟩ := columnName_eq_ok.mp hcolumn
    obtain ⟨f, hf, hname⟩ := exists_field_iff.mp ⟨f, hf⟩
    exact List.mem_map.mpr ⟨f, hf, hname⟩

/-- And one that can be used is accepted, as nothing is wrong with it. -/
theorem validate_eq_ok_iff : d.validate = .ok () ↔ d.Usable := by
  refine ⟨usable_of_validate, fun h => ?_⟩
  cases hvalidate : d.validate with
  | ok => rfl
  | error error => exact absurd (faulty_of_validate hvalidate) h.not_faulty

/-! ### Names that are looked up -/

/-- Every declared name leads to the one field or relation of this name, and
no other name leads anywhere. -/
structure Resolves (d : Declaration ι) : Prop where
  field : ∀ name f, d.field name = .ok f ↔ f ∈ d.fields ∧ f.name = name
  columnName : ∀ name column,
    d.columnName name = .ok column ↔ ∃ f ∈ d.fields, f.name = name ∧ f.column = column
  relation : ∀ name r, d.relation name = .ok r ↔ r ∈ d.relations ∧ r.name = name
  /-- No name is that of a field and of a relation. -/
  apart : ∀ name f r, d.field name = .ok f → d.relation name ≠ .ok r

/-- Where names are different, the first item of a name is the only one. -/
private theorem find?_eq_some_iff_of_nodup {α : Type} {name : α → String} {items : List α}
    (h : (items.map name).Nodup) {wanted : String} {a : α} :
    items.find? (name · == wanted) = some a ↔ a ∈ items ∧ name a = wanted := by
  constructor
  · intro hfound
    exact ⟨List.mem_of_find?_eq_some hfound, by simpa using List.find?_some hfound⟩
  · rintro ⟨ha, rfl⟩
    exact find?_of_nodup h ha

/-- Names are looked up as they were declared, and a name is not both that
of a field and of a relation. -/
theorem Usable.resolves (h : d.Usable) : d.Resolves := by
  obtain ⟨hfields, hrelations, hapart⟩ := List.nodup_append.mp h.named
  have hfield (name : String) (f : Field) :
      d.field name = .ok f ↔ f ∈ d.fields ∧ f.name = name :=
    field_eq_ok.trans (find?_eq_some_iff_of_nodup hfields)
  have hrelation (name : String) (r : Relation ι) :
      d.relation name = .ok r ↔ r ∈ d.relations ∧ r.name = name :=
    relation_eq_ok.trans (find?_eq_some_iff_of_nodup hrelations)
  refine ⟨hfield, fun name column => ?_, hrelation, fun name f r hf hr => ?_⟩
  · rw [columnName_eq_ok]
    simp only [find?_eq_some_iff_of_nodup hfields, and_assoc]
  -- The name of the field would be one of those of the relations.
  · obtain ⟨hin, rfl⟩ := (hfield name f).mp hf
    obtain ⟨hr, hname⟩ := (hrelation f.name r).mp hr
    exact hapart f.name (List.mem_map_of_mem hin) r.name (List.mem_map_of_mem hr) hname.symm

end Declaration

/-! ### Values that are bound -/

namespace Model

variable (m : Model ι ε) (k : ι) (e : ε)

/-- What the fields of an entity are bound to. -/
structure Binds : Prop where
  /-- All fields are bound, in order, each to its own value. -/
  bound : ∀ bound, m.bindValues k e = .ok bound
    ↔ bound.map (·.field) = (m.schema k).fields ∧
      ∀ b ∈ bound, m.valueOf e b.field.name = .ok b.value
  /-- The column of a field is there once, with the value of the field. -/
  once : ∀ bound, m.bindValues k e = .ok bound → ∀ f ∈ (m.schema k).fields,
    ∃ value, m.valueOf e f.name = .ok value ∧
      bound.filter (·.column == f.column) = [⟨f, value⟩]
  /-- It fails with the first value that cannot be read, and only then. -/
  refused : ∀ error, m.bindValues k e = .error error
    ↔ ∃ before f after, (m.schema k).fields = before ++ f :: after ∧
      (∀ g ∈ before, ∃ value, m.valueOf e g.name = .ok value) ∧
      m.valueOf e f.name = .error error

variable {m k e}

/-- The fields are bound in order, each to its value. -/
theorem bindEach_eq_ok {fields : List Field} {bound : List BoundField} :
    (fields.mapM fun f => do
        let v ← m.valueOf e f.name
        return (⟨f, v⟩ : BoundField)) = .ok bound
      ↔ bound.map (·.field) = fields ∧ ∀ b ∈ bound, m.valueOf e b.field.name = .ok b.value := by
  induction fields generalizing bound with
  | nil =>
      rw [List.map_eq_nil_iff]
      constructor
      · intro h
        obtain rfl := Except.ok.inj h
        exact ⟨rfl, nofun⟩
      · rintro ⟨rfl, -⟩
        rfl
  | cons f fields ih =>
      rw [List.mapM_cons, Result.bind_eq_ok]
      simp only [Result.bind_eq_ok, ih]
      constructor
      · rintro ⟨_, ⟨v, hv, hfirst⟩, rest, ⟨rfl, hrest⟩, hbound⟩
        obtain rfl := Except.ok.inj hfirst
        obtain rfl := Except.ok.inj hbound
        exact ⟨rfl, List.forall_mem_cons.mpr ⟨hv, hrest⟩⟩
      -- The first bound field is that of the first field, and has its value.
      · rintro ⟨hfields, hvalues⟩
        obtain ⟨b, rest, rfl, rfl, rfl⟩ := List.map_eq_cons_iff.mp hfields
        obtain ⟨hfirst, hrest⟩ := List.forall_mem_cons.mp hvalues
        exact ⟨b, ⟨b.value, hfirst, rfl⟩, rest, ⟨rfl, hrest⟩, rfl⟩

/-- Values are bound if all fields can be read, and then there is one for
each. -/
theorem bindValues_eq_ok {bound : List BoundField} :
    m.bindValues k e = .ok bound
      ↔ bound.map (·.field) = (m.schema k).fields ∧
        ∀ b ∈ bound, m.valueOf e b.field.name = .ok b.value :=
  bindEach_eq_ok

/-- They are not if some field cannot be read, and the first such field
gives the error. -/
theorem bindValues_eq_error {error : Error} :
    m.bindValues k e = .error error
      ↔ ∃ before f after, (m.schema k).fields = before ++ f :: after ∧
        (∀ g ∈ before, ∃ value, m.valueOf e g.name = .ok value) ∧
        m.valueOf e f.name = .error error := by
  have hok (f : Field) :
      (∃ b, (do let v ← m.valueOf e f.name; return (⟨f, v⟩ : BoundField) : Result _) = .ok b)
        ↔ ∃ value, m.valueOf e f.name = .ok value := by
    cases m.valueOf e f.name <;> simp [bind, Except.bind, pure, Except.pure]
  have herror (f : Field) :
      (do let v ← m.valueOf e f.name; return (⟨f, v⟩ : BoundField) : Result _) = .error error
        ↔ m.valueOf e f.name = .error error := by
    cases m.valueOf e f.name <;> simp [bind, Except.bind, pure, Except.pure]
  -- It is the read that fails; to bind what was read does not.
  rw [bindValues, Result.mapM_eq_error_iff]
  simp only [hok, herror]

/-- Where columns are different, each is bound once. -/
theorem filter_column {bound : List BoundField} (h : (bound.map (·.column)).Nodup)
    {b : BoundField} (hb : b ∈ bound) : bound.filter (·.column == b.column) = [b] := by
  induction bound with
  | nil => exact absurd hb List.not_mem_nil
  | cons first bound ih =>
      obtain ⟨hfirst, hbound⟩ := List.nodup_cons.mp h
      rcases List.mem_cons.mp hb with rfl | hb
      · -- No later field has the column of the first one.
        have hnone : bound.filter (·.column == b.column) = [] :=
          List.filter_eq_nil_iff.mpr fun c hc hsame =>
            hfirst (List.mem_map.mpr ⟨c, hc, beq_iff_eq.mp hsame⟩)
        rw [List.filter_cons_of_pos (by simp), hnone]
      -- A field after the first one has another column.
      · have hne : first.column ≠ b.column :=
          fun heq => hfirst (List.mem_map.mpr ⟨b, hb, heq.symm⟩)
        rw [List.filter_cons_of_neg (by simpa using hne), ih hbound hb]

/-- The values of an entity are bound once for each column. -/
theorem binds (h : (m.schema k).Usable) : m.Binds k e where
  bound _ := bindValues_eq_ok
  once bound hbound f hf := by
    obtain ⟨hfields, hvalues⟩ := bindValues_eq_ok.mp hbound
    rw [← hfields] at hf
    obtain ⟨b, hb, rfl⟩ := List.mem_map.mp hf
    have hcolumns : (bound.map (·.column)).Nodup := by
      have hkept := h.kept
      rwa [← hfields, List.map_map] at hkept
    exact ⟨b.value, hvalues b hb, filter_column hcolumns hb⟩
  refused _ := bindValues_eq_error

end Model

/-- A declaration is valid just if it can be used, and what is said of one
that is not is wrong with it. In a valid one every name leads to the one
field or relation of this name, and the fields of an entity are bound to
their columns, each of them once. -/
theorem Declaration.validate_usable (d : Declaration ι) :
    (d.validate = .ok () ↔ d.Usable) ∧
    (∀ error, d.validate = .error error → d.Faulty error ∧ error.isConfiguration = true) ∧
    (d.validate = .ok () → d.Resolves ∧
      ∀ (ε : Type) (m : Model ι ε) (k : ι), m.schema k = d → ∀ e, m.Binds k e) := by
  refine ⟨validate_eq_ok_iff, fun error h => ?_, fun h => ?_⟩
  · have hfaulty := faulty_of_validate h
    exact ⟨hfaulty, hfaulty.isConfiguration⟩
  · have husable := validate_eq_ok_iff.mp h
    refine ⟨husable.resolves, fun ε m k hschema e => Model.binds ?_⟩
    rwa [hschema]

namespace Declaration

/-- Tasks, which may be parts of others. -/
def task : Declaration Unit where
  typeName := "Task"
  table := "task"
  fields := [⟨"id", "id", .bigInt, true⟩, ⟨"title", "title", .text, false⟩,
    ⟨"parentId", "parent_id", .bigInt, false⟩]
  relations := [⟨"parent", "parentId", ()⟩]
  dependents := []

/-- Tasks with a relation that has the name of a field. -/
def ambiguousTask : Declaration Unit :=
  { task with relations := [⟨"title", "parentId", ()⟩] }

/-- Tasks are accepted, and their values are bound; with an ambiguous name
they are not. -/
theorem validate_usable_task :
    let m := Record.model fun _ : Unit => ⟨task, [], [some ()]⟩
    task.validate = .ok () ∧ task.Usable ∧ task.Resolves ∧ (∀ e, m.Binds () e) ∧
      ambiguousTask.validate = .error (.configuration (.nameReused "Task" "title")) ∧
      ambiguousTask.Faulty (.configuration (.nameReused "Task" "title")) := by
  intro m
  have hvalid : task.validate = .ok () := by decide
  have hrejected : ambiguousTask.validate
      = .error (.configuration (.nameReused "Task" "title")) := by decide
  -- The task is usable as it is accepted, and the other one is at fault.
  obtain ⟨husable, -, haccepted⟩ := validate_usable task
  obtain ⟨-, hfault, -⟩ := validate_usable ambiguousTask
  obtain ⟨hresolves, hbinds⟩ := haccepted hvalid
  exact ⟨hvalid, husable.mp hvalid, hresolves, hbinds _ m () rfl, hrejected,
    (hfault _ hrejected).1⟩

end Declaration

end DataAccess
