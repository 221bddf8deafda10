import DataAccess.Memory.Source
import DataAccess.Proofs.Calendar.Written
import DataAccess.Proofs.Support.Work
import DataAccess.Proofs.Value.Coercion
import DataAccess.Proofs.Value.Identifier
import Mathlib.Data.List.Forall2
import Mathlib.Tactic.FinCases

/-!
# `DataAccess.Proofs.Memory.Storage`: what is stored is given back

A store keeps five sorts of things, and a field has one of twelve kinds.
Truth values and short numbers come back as long numbers; identifiers,
days, times and moments as text. The kind of the field tells them apart
again: `FieldValue.exists_stored`.

`Memory.fields_given_back` is the principal theorem. It is about rows of
fields that are inserted one after another into a table, and about
reading the table: every row holds what its fields were given, each
field as its kind. Rows that were there before stay, and later rows
change nothing of earlier ones.

Floating point numbers and documents are left out: `FieldValue.Exact`. A
number that is none comes back as null, and what the text of a document is
read as is another matter. Days need a year of four digits at most, for
their text to be read again. Leap seconds have to end their minutes: the
text of any other one is that of the second that comes next, and comes back
as that one (`odd_leap_seconds_moved`).
-/

set_option autoImplicit false

namespace DataAccess

/-- A field of an entity, with its value. -/
structure FieldValue where
  kind : FieldKind
  /-- The value, which may be missing. -/
  carried : Option kind.Carrier

namespace FieldValue

/-- The field as a parameter of a statement. -/
def bound (f : FieldValue) : Value :=
  (f.carried.map f.kind.value).getD .null

/-- A column gives the field back: its value, in the shape of the field's
kind, is read as what the field holds. -/
def GivenBack (f : FieldValue) (v : Value) : Prop :=
  (v.coerce f.kind).as (Option f.kind.Carrier) = .ok f.carried

/-- A year of at most four digits. -/
def ShortYear (d : Date) : Prop :=
  0 ≤ d.year ∧ d.year ≤ 9999

instance (d : Date) : Decidable (ShortYear d) :=
  inferInstanceAs (Decidable (_ ∧ _))

/-- The fields that a store keeps exactly: null ones of every kind, and all
others but floating point numbers, documents, days of long years and leap
seconds within a minute. -/
def Exact : FieldValue → Prop
  | ⟨.float, some _⟩ | ⟨.double, some _⟩ | ⟨.json, some _⟩ => False
  | ⟨.date, some d⟩ => ShortYear d
  | ⟨.time, some t⟩ => t.Regular
  | ⟨.timestamp, some m⟩ => ShortYear m.date ∧ m.time.Regular
  | _ => True

/-- Null is null of every kind. -/
theorem givenBack_null (kind : FieldKind) : GivenBack ⟨kind, none⟩ .null := by
  show (Value.null.coerce kind).as (Option kind.Carrier) = .ok none
  rw [Value.coerce_null]
  rfl

/-- A value in the right shape is read as what it was made of, and as
nothing else. -/
theorem givenBack_iff_of_coerce (kind : FieldKind) {x y : kind.Carrier} {v : Value}
    (h : v.coerce kind = kind.value x) : GivenBack ⟨kind, some y⟩ v ↔ y = x := by
  have hread : (v.coerce kind).as (Option kind.Carrier) = .ok (some x) := by
    rw [h, Value.as_option (FieldKind.isNull_value x), FieldKind.as_value]
    rfl
  show (v.coerce kind).as (Option kind.Carrier) = .ok (some y) ↔ y = x
  rw [hread, Except.ok.injEq, Option.some.injEq]
  exact eq_comm

/-- What the text of a time gives back is the time that it settles to. -/
theorem givenBack_time_iff {t t' : TimeOfDay} :
    GivenBack ⟨.time, some t'⟩ (.string t.text) ↔ t' = t.settled := by
  have hcoerce : (Value.string t.text).coerce .time = .time t.settled := by
    rw [Value.coerce, TimeOfDay.read?_text, Option.map_some, Option.getD_some]
  exact givenBack_iff_of_coerce .time hcoerce

/-- The text of a moment gives back its day, and the time that its time
settles to. -/
theorem givenBack_timestamp_iff {m m' : Moment} (h : ShortYear m.date) :
    GivenBack ⟨.timestamp, some m'⟩ (.string m.text) ↔ m' = ⟨m.date, m.time.settled⟩ := by
  have hcoerce : (Value.string m.text).coerce .timestamp
      = .moment ⟨m.date, m.time.settled⟩ := by
    rw [Value.coerce, Moment.read?_text m h, Option.map_some, Option.getD_some]
  exact givenBack_iff_of_coerce .timestamp hcoerce

/-- What is stored of a value takes the value's shape again, by its
kind. -/
theorem exists_stored_value {kind : FieldKind} (x : kind.Carrier) (h : Exact ⟨kind, some x⟩) :
    ∃ stored, Stored.ofValue (kind.value x) = .ok stored ∧
      stored.toValue.coerce kind = kind.value x := by
  cases kind with
  | boolean =>
      refine ⟨.integer (if x then 1 else 0), rfl, ?_⟩
      cases x <;> rfl
  | integer =>
      -- The number has grown longer, and fits where it came from.
      have hfits : Int64.toInt32? (Int32.toInt64 x) = some x :=
        Value.toInt32?_eq_some_iff.mpr (Int32.toInt_toInt64 x)
      refine ⟨.integer (Int32.toInt64 x), rfl, ?_⟩
      show (Value.int64 (Int32.toInt64 x)).coerce .integer = .int32 x
      rw [Value.coerce, hfits, Option.map_some, Option.getD_some]
  | bigInt => exact ⟨.integer x, rfl, rfl⟩
  | text => exact ⟨.text x, rfl, rfl⟩
  | bytes => exact ⟨.blob x, rfl, rfl⟩
  | uuid =>
      refine ⟨.text (Uuid.text x), rfl, ?_⟩
      show (Value.string (Uuid.text x)).coerce .uuid = .uuid x
      rw [Value.coerce, Uuid.read?_text, Option.map_some, Option.getD_some]
  | timestamp =>
      refine ⟨.text (Moment.text x), rfl, ?_⟩
      show (Value.string (Moment.text x)).coerce .timestamp = .moment x
      rw [Value.coerce, Moment.read?_text x h.1, TimeOfDay.settled_eq_self_iff.mpr h.2,
        Option.map_some, Option.getD_some]
  | date =>
      refine ⟨.text (Date.text x), rfl, ?_⟩
      show (Value.string (Date.text x)).coerce .date = .date x
      rw [Value.coerce, Date.read?_text x h, Option.map_some, Option.getD_some]
  | time =>
      refine ⟨.text (TimeOfDay.text x), rfl, ?_⟩
      show (Value.string (TimeOfDay.text x)).coerce .time = .time x
      rw [Value.coerce, TimeOfDay.read?_text_eq_self_iff.mpr h, Option.map_some, Option.getD_some]
  | float => cases h
  | double => cases h
  | json => cases h

/-- A field can be stored, and what is stored gives it back. -/
theorem exists_stored (f : FieldValue) (h : f.Exact) :
    ∃ stored, Stored.ofValue f.bound = .ok stored ∧ f.GivenBack stored.toValue := by
  obtain ⟨kind, _ | x⟩ := f
  · exact ⟨.null, rfl, givenBack_null kind⟩
  · obtain ⟨stored, hstored, hcoerce⟩ := exists_stored_value x h
    exact ⟨stored, hstored, (givenBack_iff_of_coerce kind hcoerce).mpr rfl⟩

/-- The fields of a row can be stored together. -/
theorem exists_params (fields : List FieldValue) (h : ∀ f ∈ fields, f.Exact) :
    ∃ params, (fields.map bound).mapM Stored.ofValue = .ok params ∧
      List.Forall₂ (fun f (p : Stored) => f.GivenBack p.toValue) fields params := by
  induction fields with
  | nil => exact ⟨[], rfl, .nil⟩
  | cons f fields ih =>
      obtain ⟨stored, hstored, hback⟩ := f.exists_stored (h f List.mem_cons_self)
      obtain ⟨params, hparams, hrest⟩ := ih fun g hg => h g (List.mem_cons_of_mem f hg)
      refine ⟨stored :: params, ?_, .cons hback hrest⟩
      rw [List.map_cons, List.mapM_cons, hstored, hparams]
      rfl

end FieldValue

namespace Memory

/-! ### Tables -/

namespace Tables

variable {t : Tables} {name : String} {old new : Table}

/-- Where all items are parameters, the row is that of the parameters. -/
theorem fill_replicate (params : List Stored) :
    fill (List.replicate params.length .parameter) params = params := by
  induction params with
  | nil => rfl
  | cons p params ih => exact congrArg (p :: ·) ih

/-- A table that was changed is found in its place. -/
theorem table_replace (h : t.table name = .ok old) (hname : new.name = old.name) (n : Int) :
    Tables.table { t.replace new with lastRow := n } name = .ok new := by
  have hfound : t.tables.find? (fun table => Text.sameIgnoringCase table.name name)
      = some old := by
    rw [table] at h
    split at h
    · rename_i found hfind
      rw [hfind, Except.ok.inj h]
    · cases h
  -- Tables keep their names, so the search goes the same way.
  have hsame : ((fun table => Text.sameIgnoringCase table.name name) ∘
      fun other : Table => if other.name = new.name then new else other)
        = fun table => Text.sameIgnoringCase table.name name := by
    funext other
    show Text.sameIgnoringCase (if other.name = new.name then new else other).name name = _
    split
    · rename_i hother
      rw [hother]
    · rfl
  simp only [table, replace, List.find?_map, hsame, hfound, Option.map_some, if_pos hname.symm]

/-- A row of the right width is added to the end of its table. -/
theorem run_insertRow {table : Table} (h : t.table name = .ok table) {items : List Item}
    (hwidth : items.length = table.columns.length) (params : List Stored) :
    t.run params (.insertRow name items)
      = .ok ([], 1, { t.replace
          { table with rows := table.rows ++ [(table.nextRow, fill items params)] } with
        lastRow := table.nextRow }) := by
  have hnot : ¬ items.length ≠ table.columns.length := fun hne => hne hwidth
  rw [run, h]
  simp only [bind, Except.bind, if_neg hnot]
  rfl

end Tables

/-- A row that was read has the columns of its table, and what is stored
under each. -/
theorem values_resultRow {columns : List String} {values : List Stored}
    (h : values.length = columns.length) :
    (Tables.resultRow columns values).columns = columns ∧
      (Tables.resultRow columns values).values = values.map Stored.toValue := by
  have hlength : (values.map Stored.toValue).length = columns.length := by
    rw [List.length_map, h]
  constructor
  · exact List.map_fst_zip (by omega)
  · exact List.map_snd_zip (by omega)

/-! ### Statements -/

/-- What a statement reads and writes, once its parameters are stored. -/
theorem exec_run {m : Memory} {sql : Sql} {params : List Stored} {rows : List Row} {written : Nat}
    {tables : Tables} (hparams : sql.params.mapM Stored.ofValue = .ok params)
    (hrun : m.tables.runText sql.text params = .ok (rows, written, tables)) :
    (run sql).exec m = (.ok (rows, written), { m with tables := tables }) := by
  have hstored : (Work.ofResult (sql.params.mapM Stored.ofValue)).exec m = (.ok params, m) := by
    rw [Work.exec_ofResult, hparams]
  rw [run, Work.exec_bind_ok hstored, Work.exec_get_bind, hrun]
  rfl

/-- A row is inserted that has the given fields. -/
def insertFields (sql : String) (fields : List FieldValue) : Work Memory Unit := do
  let _ ← run ⟨sql, fields.map FieldValue.bound⟩

/-- What is stored as a row gives back some fields. -/
def StoredAs (fields : List FieldValue) (row : Int × List Stored) : Prop :=
  List.Forall₂ (fun f (p : Stored) => f.GivenBack p.toValue) fields row.2

section Statements
variable {m : Memory} {insertSql readSql name : String} {table : Table} {width : Nat}

/-- A table is read as it is. -/
theorem exec_read (hread : Request.read? readSql = some (.readTable name))
    (htable : m.tables.table name = .ok table) :
    (run ⟨readSql, []⟩).exec m
      = (.ok (table.rows.map fun row => Tables.resultRow table.columns row.2, 0), m) := by
  refine exec_run rfl ?_
  show m.tables.runText readSql [] = _
  rw [Tables.runText, hread]
  show (m.tables.table name >>= _) = _
  rw [htable]
  rfl

/-- A row of exact fields comes after the rows of its table. -/
theorem exec_insertFields
    (hinsert : Request.read? insertSql
      = some (.insertRow name (List.replicate width .parameter)))
    (htable : m.tables.table name = .ok table) (hcolumns : table.columns.length = width)
    {fields : List FieldValue} (hwidth : fields.length = width)
    (hexact : ∀ f ∈ fields, f.Exact) :
    ∃ m' row, (insertFields insertSql fields).exec m = (.ok (), m') ∧
      m'.tables.table name = .ok { table with rows := table.rows ++ [row] } ∧
      StoredAs fields row := by
  obtain ⟨params, hparams, hback⟩ := FieldValue.exists_params fields hexact
  -- There are as many parameters as columns, so that each is used and none is missing.
  let row := (table.nextRow, params)
  let grown : Table := { table with rows := table.rows ++ [row] }
  let tables : Tables := { m.tables.replace grown with lastRow := table.nextRow }
  have hrun : m.tables.runText insertSql params = .ok ([], 1, tables) := by
    rw [Tables.runText, hinsert]
    show m.tables.run params (.insertRow name _) = _
    rw [Tables.run_insertRow htable (by rw [List.length_replicate, hcolumns]), ← hwidth,
      hback.length_eq, Tables.fill_replicate]
  have hdone : (run ⟨insertSql, fields.map FieldValue.bound⟩).exec m
      = (.ok ([], 1), { m with tables := tables }) := exec_run hparams hrun
  have hname : grown.name = table.name := rfl
  have hfound : tables.table name = .ok grown := Tables.table_replace htable hname _
  refine ⟨{ m with tables := tables }, row, ?_, hfound, hback⟩
  rw [insertFields, Work.exec_bind_ok hdone]
  rfl

/-- Many rows are added one after another. -/
theorem exec_insertFields_forM
    (hinsert : Request.read? insertSql
      = some (.insertRow name (List.replicate width .parameter)))
    (htable : m.tables.table name = .ok table) (hcolumns : table.columns.length = width)
    {rows : List (List FieldValue)} (hwidth : ∀ fields ∈ rows, fields.length = width)
    (hexact : ∀ fields ∈ rows, ∀ f ∈ fields, f.Exact) :
    ∃ m' new, (rows.forM (insertFields insertSql)).exec m = (.ok (), m') ∧
      m'.tables.table name = .ok { table with rows := table.rows ++ new } ∧
      List.Forall₂ StoredAs rows new := by
  induction rows generalizing m table with
  | nil =>
      refine ⟨m, [], rfl, ?_, .nil⟩
      rw [List.append_nil]
      exact htable
  | cons fields rows ih =>
      obtain ⟨m₁, row, hfirst, htable₁, hstored⟩ := exec_insertFields hinsert htable hcolumns
        (hwidth fields List.mem_cons_self) (hexact fields List.mem_cons_self)
      -- The table has grown by a row, and has the columns it had.
      obtain ⟨m₂, new, hrest, htable₂, hnew⟩ := ih htable₁ hcolumns
        (fun other hother => hwidth other (List.mem_cons_of_mem fields hother))
        fun other hother => hexact other (List.mem_cons_of_mem fields hother)
      refine ⟨m₂, row :: new, ?_, ?_, .cons hstored hnew⟩
      · show (insertFields insertSql fields >>= fun _ => rows.forM (insertFields insertSql)).exec m
          = _
        rw [Work.exec_bind_ok hfirst, hrest]
      · rw [htable₂, List.append_assoc, List.singleton_append]

/-- What a table gives back of the fields of a row: its columns, and in each
of them the field. -/
def RowGivenBack (table : Table) (fields : List FieldValue) (row : Row) : Prop :=
  row.columns = table.columns ∧ List.Forall₂ FieldValue.GivenBack fields row.values

/-- Fields that a store keeps exactly are given back, whatever their kinds:
each of them is stored as something that is read, in the shape of the
field's kind, as what the field held; and rows of them that are inserted
into a table are read from it in this way, after the rows that were
there. -/
theorem fields_given_back {rows : List (List FieldValue)}
    (hexact : ∀ fields ∈ rows, ∀ f ∈ fields, f.Exact) :
    (∀ fields ∈ rows, ∀ f ∈ fields,
      ∃ stored, Stored.ofValue f.bound = .ok stored ∧ f.GivenBack stored.toValue) ∧
    ∀ (m : Memory) (insertSql readSql name : String) (table : Table),
      Request.read? insertSql
          = some (.insertRow name (List.replicate table.columns.length .parameter)) →
      Request.read? readSql = some (.readTable name) →
      m.tables.table name = .ok table →
      (∀ fields ∈ rows, fields.length = table.columns.length) →
      ∃ m' before after, (rows.forM (insertFields insertSql)).exec m = (.ok (), m') ∧
        (run ⟨readSql, []⟩).exec m = (.ok (before, 0), m) ∧
        (run ⟨readSql, []⟩).exec m' = (.ok (before ++ after, 0), m') ∧
        List.Forall₂ (RowGivenBack table) rows after := by
  refine ⟨fun fields hfields f hf => f.exists_stored (hexact fields hfields f hf), ?_⟩
  intro m insertSql readSql name table hinsert hread htable hwidth
  obtain ⟨m', new, hinserted, htable', hnew⟩ :=
    exec_insertFields_forM hinsert htable rfl hwidth hexact
  -- The old rows are read as they were before, and the new ones after them.
  refine ⟨m', _, new.map fun row => Tables.resultRow table.columns row.2, hinserted,
    exec_read hread htable, ?_, ?_⟩
  · rw [exec_read hread htable', List.map_append]
  · rw [List.forall₂_map_right_iff]
    refine ((List.forall₂_and_left ..).mpr ⟨hwidth, hnew⟩).imp ?_
    rintro fields row ⟨hfields, hstored⟩
    have hrow := values_resultRow (hstored.length_eq.symm.trans hfields)
    refine ⟨hrow.1, ?_⟩
    rw [hrow.2, List.forall₂_map_right_iff]
    exact hstored

end Statements

/-- A time and a moment, each one and a half seconds after a second in the
middle of a minute, are stored under the texts of half a second later, and
half a second later is what comes back. -/
theorem odd_leap_seconds_moved :
    let odd : TimeOfDay := ⟨1, 2, 3, 1500000000, by decide⟩
    let next : TimeOfDay := ⟨1, 2, 4, 500000000, by decide⟩
    let day : Date := ⟨2024, 2, 29, by decide⟩
    let time : FieldValue := ⟨.time, some odd⟩
    let moment : FieldValue := ⟨.timestamp, some ⟨day, odd⟩⟩
    (Stored.ofValue time.bound = .ok (.text "01:02:04.500") ∧
        ¬ time.GivenBack (.string "01:02:04.500") ∧
        FieldValue.GivenBack ⟨.time, some next⟩ (.string "01:02:04.500")) ∧
      Stored.ofValue moment.bound = .ok (.text "2024-02-29T01:02:04.500+00:00") ∧
        ¬ moment.GivenBack (.string "2024-02-29T01:02:04.500+00:00") ∧
        FieldValue.GivenBack ⟨.timestamp, some ⟨day, next⟩⟩
          (.string "2024-02-29T01:02:04.500+00:00") := by
  intro odd next day time moment
  have htime : TimeOfDay.text odd = "01:02:04.500" := by decide +kernel
  have hmoment : Moment.text ⟨day, odd⟩ = "2024-02-29T01:02:04.500+00:00" := by decide +kernel
  -- What is written carries the half second over into the next one.
  have hsettled : odd.settled = next := by decide +kernel
  have hyear : FieldValue.ShortYear day := by decide
  have hne : odd ≠ next := by decide
  rw [← htime, ← hmoment]
  refine ⟨⟨rfl, ?_, ?_⟩, rfl, ?_, ?_⟩
  · rw [FieldValue.givenBack_time_iff, hsettled]
    exact hne
  · exact FieldValue.givenBack_time_iff.mpr hsettled.symm
  · rw [FieldValue.givenBack_timestamp_iff hyear, hsettled]
    exact fun heq => hne (congrArg Moment.time heq)
  · rw [FieldValue.givenBack_timestamp_iff hyear, hsettled]

/-- What a request says that inserts parameters only, or reads: its table,
and of how many columns it fills a row. -/
def Request.outline? : Request → Option (String × Option Nat)
  | .insertRow name items =>
    if items.all (fun | .parameter => true | _ => false) then some (name, some items.length)
    else none
  | .readTable name => some (name, none)
  | _ => none

/-- The request that is known by its outline. -/
def Request.ofOutline : String × Option Nat → Request
  | (name, some width) => .insertRow name (List.replicate width .parameter)
  | (name, none) => .readTable name

/-- A request is known by its outline. -/
theorem Request.eq_ofOutline {request : Request} {outline : String × Option Nat}
    (h : request.outline? = some outline) : request = ofOutline outline := by
  cases request with
  | insertRow table items =>
      rw [outline?] at h
      split at h
      · rename_i hall
        obtain rfl := Option.some.inj h
        refine congrArg (Request.insertRow table) (List.eq_replicate_iff.mpr ⟨rfl, ?_⟩)
        intro item hitem
        -- All items are parameters, so that they are known by their number.
        have hparameter := List.all_eq_true.mp hall item hitem
        cases item with
        | parameter => rfl
        | literal v => cases hparameter
      · cases h
  | readTable table =>
      obtain rfl := Option.some.inj h
      rfl
  | row | createTable | clearTable => cases h

/-- A text is known to be read by the outline of what it is read as. -/
theorem Request.read?_of_outline {sql : String} {outline : String × Option Nat}
    (h : (Request.read? sql).bind Request.outline? = some outline) :
    Request.read? sql = some (ofOutline outline) := by
  obtain ⟨request, hrequest, houtline⟩ := Option.bind_eq_some_iff.mp h
  rw [hrequest, eq_ofOutline houtline]

/-- A database with a table of three columns. -/
def threeColumns : Memory where
  tables := { tables := [⟨"item", ["a", "b", "c"], []⟩] }

/-- Ends of what fields can hold: the year 0, which has a 29th of
February, leap seconds with and without a fraction, and nulls. -/
def extremes : List (List FieldValue) :=
  [[⟨.boolean, some true⟩, ⟨.integer, some (-2147483648)⟩, ⟨.bigInt, some 9223372036854775807⟩],
    [⟨.text, some "it's null?"⟩, ⟨.bytes, some [0, 255]⟩,
      ⟨.uuid, some ⟨List.replicate 16 0xa0, rfl⟩⟩],
    [⟨.date, some ⟨0, 2, 29, by decide⟩⟩, ⟨.time, some ⟨23, 59, 59, 1000000000, by decide⟩⟩,
      ⟨.timestamp, some ⟨⟨9999, 12, 31, by decide⟩, ⟨12, 0, 59, 1999999999, by decide⟩⟩⟩],
    [⟨.boolean, none⟩, ⟨.uuid, none⟩, ⟨.timestamp, none⟩]]

/-- Three rows of fields at the ends of their ranges. -/
theorem extremes_given_back :
    (∀ fields ∈ extremes, ∀ f ∈ fields, f.Exact) ∧
    ∃ m' before after,
      (extremes.forM (insertFields "INSERT INTO item VALUES (?, ?, ?)")).exec threeColumns
        = (.ok (), m') ∧
      (run ⟨"SELECT * FROM item", []⟩).exec threeColumns = (.ok (before, 0), threeColumns) ∧
      (run ⟨"SELECT * FROM item", []⟩).exec m' = (.ok (before ++ after, 0), m') ∧
      List.Forall₂ (RowGivenBack ⟨"item", ["a", "b", "c"], []⟩) extremes after := by
  have hexact : ∀ fields ∈ extremes, ∀ f ∈ fields, f.Exact := by
    intro fields hfields f hf
    -- A leap second is regular by the second that it follows.
    fin_cases hfields <;> fin_cases hf <;> first | trivial | exact .inr rfl
  have hsame : Text.sameIgnoringCase "item" "item" = true := beq_self_eq_true _
  have htable : threeColumns.tables.table "item" = .ok ⟨"item", ["a", "b", "c"], []⟩ := by
    simp only [threeColumns, Tables.table, List.find?, hsame]
  have hinserted : (Request.read? "INSERT INTO item VALUES (?, ?, ?)").bind Request.outline?
      = some ("item", some 3) := by decide +kernel
  have hreads : (Request.read? "SELECT * FROM item").bind Request.outline?
      = some ("item", none) := by decide +kernel
  have hinsert := Request.read?_of_outline hinserted
  have hread := Request.read?_of_outline hreads
  refine ⟨hexact, (fields_given_back hexact).2 _ _ _ _ _ hinsert hread htable ?_⟩
  intro fields hfields
  fin_cases hfields <;> rfl

end Memory

end DataAccess
