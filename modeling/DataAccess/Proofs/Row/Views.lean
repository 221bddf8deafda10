import DataAccess.Row
import Mathlib.Data.List.Induction
import Mathlib.Data.String.Basic

/-!
# `DataAccess.Proofs.Row.Views`: one row, read in three ways

A row is read by the name of a column, as a map, and as a document. Names
of columns may repeat, or differ in case alone. Both the map and the
document have the names of the row, each of them once, and hold the same
values (`Row.toJson_eq`); the search that ignores case is never asked for a
name that the row has (`Row.named_of_mem`).

They differ where a name comes more than once: what is read by name is the
value of the first of its columns, and the map and the document keep the
last one, which is put in the place of those before it
(`Row.lookup_toMap`). `Row.views_agree` says both, and that the three agree
on a name just if its first value is its last one. `Row.views_apart` is a
row of two joined tables that both have an `id`.
-/

set_option autoImplicit false

namespace DataAccess

/-! ### Members in the order of their names -/

namespace Json

/-- The document under a name in an object. -/
def member? (name : String) : Json → Option Json
  | .object members => members.lookup name
  | _ => none

section InsertMember
variable {α β : Type} (name : String) (value : α) (members : List (String × α))

/-- A member that is inserted is found under its name, and the others as
before. -/
theorem lookup_insertMember (c : String) :
    (insertMember name value members).lookup c
      = if c = name then some value else members.lookup c := by
  induction members with
  | nil =>
      rw [insertMember, List.lookup_cons]
      by_cases hc : c = name
      · simp [hc]
      · simp [hc, beq_eq_false_iff_ne.mpr hc]
  -- It goes before `m`, in the place of `m`, or after it.
  | cons m members ih =>
      rw [insertMember]
      split
      · rw [List.lookup_cons]
        by_cases hc : c = name
        · simp [hc]
        · simp [hc, beq_eq_false_iff_ne.mpr hc]
      · split
        · -- The member of that name is replaced, and no other one.
          rename_i hname
          rw [List.lookup_cons, List.lookup_cons, ← hname]
          by_cases hc : c = name
          · simp [hc]
          · simp [hc, beq_eq_false_iff_ne.mpr hc]
        · rename_i hname
          rw [List.lookup_cons, List.lookup_cons, ih]
          by_cases hc : c = name
          · simp [hc, beq_eq_false_iff_ne.mpr hname]
          · simp [hc]

/-- Inserting a member adds its name. -/
theorem mem_names_insertMember {c : String} :
    c ∈ (insertMember name value members).map (·.1)
      ↔ c = name ∨ c ∈ members.map (·.1) := by
  induction members with
  | nil => simp [insertMember]
  | cons m members ih =>
      rw [insertMember]
      split
      · simp
      · split
        · rename_i hname
          simp [hname]
        · rw [List.map_cons, List.mem_cons, ih, List.map_cons, List.mem_cons, or_left_comm]

/-- Inserting a member keeps the names in order. -/
theorem ordered_insertMember (h : (members.map (·.1)).Pairwise (· < ·)) :
    ((insertMember name value members).map (·.1)).Pairwise (· < ·) := by
  -- Over the members; the new name is less than, equal to or greater than the first.
  induction members with
  | nil => simp [insertMember]
  | cons m members ih =>
      obtain ⟨hfirst, hrest⟩ := List.pairwise_cons.mp h
      rw [insertMember]
      split
      · rename_i hbefore
        refine List.pairwise_cons.mpr ⟨fun c hc => ?_, h⟩
        rcases List.mem_cons.mp hc with rfl | hc
        · exact hbefore
        · exact lt_trans hbefore (hfirst c hc)
      · rename_i hbefore
        split
        · rename_i hname
          rw [hname]
          exact h
        · rename_i hname
          refine List.pairwise_cons.mpr ⟨fun c hc => ?_, ih hrest⟩
          rcases (mem_names_insertMember name value members).mp hc with rfl | hc
          · exact lt_of_le_of_ne (not_lt.mp hbefore) (Ne.symm hname)
          · exact hfirst c hc

/-- Inserting commutes with a change of the values. -/
theorem map_insertMember (f : α → β) :
    insertMember name (f value) (members.map fun m => (m.1, f m.2))
      = (insertMember name value members).map fun m => (m.1, f m.2) := by
  induction members with
  | nil => rfl
  | cons m members ih =>
      rw [List.map_cons, insertMember, insertMember]
      split
      · rfl
      · split
        · rfl
        · rw [ih]
          rfl

end InsertMember

end Json

namespace Row

variable (r : Row) {c : String}

/-! ### The values of a name -/

/-- The values of the columns of exactly this name, in order. -/
def valuesNamed (c : String) : List Value :=
  (r.cells.filter (·.1 == c)).map (·.2)

/-- A column has at least one value. -/
theorem valuesNamed_ne_nil (hc : c ∈ r.columns) : r.valuesNamed c ≠ [] := by
  obtain ⟨cell, hcell, rfl⟩ := List.mem_map.mp hc
  exact List.ne_nil_of_mem
    (List.mem_map_of_mem (List.mem_filter.mpr ⟨hcell, beq_self_eq_true cell.1⟩))

/-- A name has as many values as columns. -/
theorem length_valuesNamed : (r.valuesNamed c).length = r.columns.count c := by
  rw [valuesNamed, List.length_map, columns, List.count_eq_countP, List.countP_map,
    List.countP_eq_length_filter]
  rfl

/-- What is read by the name of a column is the first value of that
name. -/
theorem named_of_mem (hc : c ∈ r.columns) :
    r.named c = .ok ((r.valuesNamed c).head (r.valuesNamed_ne_nil hc)) := by
  have hhead : (r.cells.find? (·.1 == c)).map (·.2)
      = some ((r.valuesNamed c).head (r.valuesNamed_ne_nil hc)) := by
    rw [← List.head?_filter, ← List.head?_map]
    exact List.head?_eq_some_head _
  obtain ⟨cell, hcell, hvalue⟩ := Option.map_eq_some_iff.mp hhead
  rw [named, find?, hcell, Option.some_or, ← hvalue]

/-! ### The map and the document -/

/-- A column is put into the map of those before it. -/
theorem toMap_append (cells : List (String × Value)) (cell : String × Value) :
    toMap ⟨cells ++ [cell]⟩ = Json.insertMember cell.1 cell.2 (toMap ⟨cells⟩) := by
  rw [toMap, List.foldl_append]
  rfl

/-- The map holds the last value of a name. -/
theorem lookup_toMap (c : String) : r.toMap.lookup c = (r.valuesNamed c).getLast? := by
  obtain ⟨cells⟩ := r
  induction cells using List.reverseRecOn with
  | nil => rfl
  | append_singleton cells cell ih =>
      rw [toMap_append, Json.lookup_insertMember, ih, valuesNamed, valuesNamed,
        List.filter_append]
      by_cases hc : c = cell.1
      · simp [hc]
      · simp [hc, beq_eq_false_iff_ne.mpr (Ne.symm hc)]

/-- The map has the names of the columns. -/
theorem mem_names_toMap : c ∈ r.toMap.map (·.1) ↔ c ∈ r.columns := by
  obtain ⟨cells⟩ := r
  induction cells using List.reverseRecOn with
  | nil => rfl
  | append_singleton cells cell ih =>
      rw [toMap_append, Json.mem_names_insertMember, ih, columns, columns, List.map_append,
        List.mem_append, List.map_singleton, List.mem_singleton, or_comm]

/-- The names of the map are in order, and so each of them is there
once. -/
theorem ordered_toMap : (r.toMap.map (·.1)).Pairwise (· < ·) := by
  obtain ⟨cells⟩ := r
  induction cells using List.reverseRecOn with
  | nil => exact .nil
  | append_singleton cells cell ih =>
      rw [toMap_append]
      exact Json.ordered_insertMember _ _ _ ih

/-- The document is the map, with its values as documents. -/
theorem toJson_eq : r.toJson = .object (r.toMap.map fun m => (m.1, m.2.toJson)) := by
  rw [toJson, Json.ofMembers, List.foldl_map, toMap]
  -- Every step on documents is the step on values, with values as documents.
  exact congrArg Json.object <| @List.foldl_hom _ _ _
    (fun members : List (String × Value) => members.map fun m => (m.1, m.2.toJson)) _ _
    r.cells [] fun members cell => Json.map_insertMember cell.1 cell.2 members Value.toJson

/-- The object of a row has the last value of each name. -/
theorem member?_toJson (c : String) :
    r.toJson.member? c = (r.valuesNamed c).getLast?.map Value.toJson := by
  rw [toJson_eq, Json.member?, ← lookup_toMap]
  induction r.toMap with
  | nil => rfl
  | cons m members ih =>
      rw [List.map_cons, List.lookup_cons, List.lookup_cons, ih]
      cases c == m.1 <;> rfl

/-! ### Where they agree -/

/-- The row has one value under a name, in whichever way it is read. -/
def Agrees (c : String) : Prop :=
  ∃ v, r.named c = .ok v ∧ r.toMap.lookup c = some v ∧ r.toJson.member? c = some v.toJson

/-- The map and the document of a row have the names of its columns, each
of them once. By the name of a column its first value is read, and the map
and the document hold its last one. So the three agree on it just if these
are the same, and always if there is one column of that name. -/
theorem views_agree (r : Row) :
    (r.toMap.map (·.1)).Pairwise (· < ·) ∧ (∀ c, c ∈ r.toMap.map (·.1) ↔ c ∈ r.columns) ∧
      r.toJson = .object (r.toMap.map fun m => (m.1, m.2.toJson)) ∧
      ∀ c, ∀ hc : c ∈ r.columns,
        let first := (r.valuesNamed c).head (r.valuesNamed_ne_nil hc)
        let last := (r.valuesNamed c).getLast (r.valuesNamed_ne_nil hc)
        r.named c = .ok first ∧ r.toMap.lookup c = some last ∧
          r.toJson.member? c = some last.toJson ∧ (r.Agrees c ↔ first = last) ∧
          (r.columns.count c = 1 → r.Agrees c) := by
  refine ⟨r.ordered_toMap, fun c => r.mem_names_toMap, r.toJson_eq, fun c hc => ?_⟩
  intro first last
  have hnamed : r.named c = .ok first := r.named_of_mem hc
  have hgetLast : (r.valuesNamed c).getLast? = some last := List.getLast?_eq_some_getLast _
  have hmap : r.toMap.lookup c = some last := (r.lookup_toMap c).trans hgetLast
  have hjson : r.toJson.member? c = some last.toJson := by rw [member?_toJson, hgetLast]; rfl
  have hagrees : r.Agrees c ↔ first = last := by
    constructor
    · rintro ⟨v, hv, hv', -⟩
      exact (Except.ok.inj (hnamed.symm.trans hv)).trans
        (Option.some.inj (hmap.symm.trans hv')).symm
    · intro hsame
      exact ⟨last, hsame ▸ hnamed, hmap, hjson⟩
  refine ⟨hnamed, hmap, hjson, hagrees, fun hone => hagrees.mpr ?_⟩
  -- The only value of a name is its first and its last one.
  rw [← length_valuesNamed, List.length_eq_one_iff] at hone
  obtain ⟨v, hv⟩ := hone
  simp only [first, last, hv, List.head_cons, List.getLast_singleton]

/-- A client with an order, as they are joined. -/
def joined : Row :=
  .of ["id", "name", "id", "NAME"] [.int64 3, .string "Acme", .int64 7, .null]

/-- A name that another one differs from in case alone has a place of its
own. -/
example : joined.toMap.map (·.1) = ["NAME", "id", "name"] := by decide +kernel

/-- Of the two columns `id` the first one is read by name, and the second
one is in the map and in the document. -/
theorem views_apart :
    "id" ∈ joined.columns ∧ joined.named "id" = .ok (.int64 3) ∧
      joined.toMap.lookup "id" = some (.int64 7) ∧
      joined.toJson.member? "id" = some (.integer (.ofInt64 7)) ∧ ¬ joined.Agrees "id" := by
  have hmap : joined.toMap.lookup "id" = some (.int64 7) := joined.lookup_toMap "id"
  refine ⟨by decide, rfl, hmap, joined.member?_toJson "id", ?_⟩
  rintro ⟨v, hnamed, hlookup, -⟩
  obtain rfl : Value.int64 3 = v := Except.ok.inj hnamed
  rw [hmap] at hlookup
  cases hlookup

end Row

end DataAccess
