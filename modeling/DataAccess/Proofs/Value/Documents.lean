import DataAccess.Value.Documents

/-!
# `DataAccess.Proofs.Value.Documents`: documents as values and back

A document becomes a value, and the value a document again. Lists are
taken apart on the way and objects are kept whole, so a number is looked
at just if no object is around it. Whole numbers of values have a sign;
a document may hold one that is too large for that.

* `Json.rounded`: the document that comes back.
* `Json.Signed`: the documents that are not changed by that.

`Value.toJson_ofJson_signed` says both. `Value.toJson_ofJson_unsigned`
shows a number that is lost, and the same number in an object, which is
not.
-/

set_option autoImplicit false

namespace DataAccess

/-! ### Documents and their numbers -/

namespace Json

mutual

/-- The document with its whole numbers that are too large to have a sign
replaced by the nearest floating point numbers. What is in an object stays
as it is. -/
def rounded : Json → Json
  | .integer n => if n.val < 0x8000000000000000 then .integer n else .ofFloat n.toFloat
  | .array items => .array (roundedItems items)
  | j => j

/-- Several documents with their numbers rounded. -/
def roundedItems : List Json → List Json
  | [] => []
  | j :: js => j.rounded :: roundedItems js

end

mutual

/-- No whole number of the document is too large to have a sign, except in
objects. -/
def Signed : Json → Prop
  | .integer n => n.val < 0x8000000000000000
  | .array items => AllSigned items
  | _ => True

/-- No whole number of the documents is too large to have a sign, except in
objects. -/
def AllSigned : List Json → Prop
  | [] => True
  | j :: js => j.Signed ∧ AllSigned js

end

/-- A floating point number is not written as an integer. -/
theorem ofFloat_ne_integer (x : Float) (n : Integer) : ofFloat x ≠ .integer n := by
  unfold ofFloat
  split <;> exact nofun

/-- A number that a document holds is finite, and stays what it is. -/
theorem ofFloat_real (x : Real) : ofFloat x.val = .real x := by
  rw [ofFloat, Real.ofFloat?, dif_pos x.finite]

/-- A whole number with a sign keeps its value. -/
theorem Integer.ofInt64_ofInt {n : Integer} (h : n.val < 0x8000000000000000) :
    Integer.ofInt64 (Int64.ofInt n.val) = n := by
  obtain ⟨val, low, high⟩ := n
  simp only [Integer.ofInt64, Int64.toInt_ofInt_of_le low h]

mutual

/-- Rounding leaves just the documents alone that have nothing to round. -/
theorem rounded_eq_self_iff : ∀ j : Json, j.rounded = j ↔ j.Signed
  | .integer n => by
      unfold rounded Signed
      split
      · rename_i hsigned
        exact ⟨fun _ => hsigned, fun _ => rfl⟩
      · rename_i hlarge
        exact ⟨fun h => absurd h (ofFloat_ne_integer _ n), fun h => absurd h hlarge⟩
  | .array items => by
      rw [rounded, Signed, Json.array.injEq]
      exact roundedItems_eq_self_iff items
  | .null | .bool _ | .real _ | .string _ | .object _ => by
      simp only [rounded, Signed]

/-- The same of the items of an array. -/
theorem roundedItems_eq_self_iff : ∀ js : List Json, roundedItems js = js ↔ AllSigned js
  | [] => by simp only [roundedItems, AllSigned]
  | j :: js => by
      rw [roundedItems, AllSigned, List.cons.injEq, rounded_eq_self_iff j,
        roundedItems_eq_self_iff js]

end

end Json

/-! ### The way there and back -/

namespace Value

open Json (rounded roundedItems)

mutual

/-- What comes back of a document is the document with its numbers
rounded. -/
theorem toJson_ofJson : ∀ j : Json, (ofJson j).toJson = j.rounded
  | .integer n => by
      unfold ofJson rounded Json.Integer.toInt64?
      by_cases hsigned : n.val < 0x8000000000000000
      · rw [if_pos hsigned, if_pos hsigned]
        exact congrArg Json.integer (Json.Integer.ofInt64_ofInt hsigned)
      · rw [if_neg hsigned, if_neg hsigned]
        rfl
  | .real x => Json.ofFloat_real x
  | .array items => by
      rw [ofJson, toJson, rounded]
      exact congrArg Json.array (listToJson_listOfJson items)
  | .null | .bool _ | .string _ | .object _ => by
      simp only [ofJson, toJson, rounded]

/-- The same of the items of an array. -/
theorem listToJson_listOfJson : ∀ js : List Json, listToJson (listOfJson js) = roundedItems js
  | [] => by simp only [listOfJson, listToJson, roundedItems]
  | j :: js => by
      rw [listOfJson, listToJson, roundedItems, toJson_ofJson j, listToJson_listOfJson js]

end

/-- A document that becomes a value and a document again comes back
rounded, whatever it is nested in: as it was just if outside of objects
all whole numbers can have a sign. -/
theorem toJson_ofJson_signed (j : Json) :
    (ofJson j).toJson = j.rounded ∧ ((ofJson j).toJson = j ↔ j.Signed) := by
  refine ⟨toJson_ofJson j, ?_⟩
  rw [toJson_ofJson]
  exact j.rounded_eq_self_iff

/-- The greatest whole number a document can hold. -/
def greatest : Json :=
  .integer ⟨0xffffffffffffffff, by omega, by omega⟩

/-- The greatest number does not come back, neither by itself nor in a
list. In an object it does. -/
theorem toJson_ofJson_unsigned :
    (ofJson greatest).toJson ≠ greatest ∧
      (ofJson (.array [greatest])).toJson ≠ .array [greatest] ∧
      (ofJson (.object [("n", greatest)])).toJson = .object [("n", greatest)] := by
  have hlarge : ¬ greatest.Signed := by
    simp only [greatest, Json.Signed]
    omega
  refine ⟨fun h => hlarge ?_, fun h => hlarge ?_, rfl⟩
  · rwa [toJson_ofJson, Json.rounded_eq_self_iff] at h
  · rw [toJson_ofJson, Json.rounded_eq_self_iff] at h
    simp only [Json.Signed, Json.AllSigned] at h
    exact h.1

end Value

end DataAccess
