import DataAccess.Proofs.Support.Work
import DataAccess.Value.Extraction

/-!
# `DataAccess.Proofs.Value.Coercion`: coercion and readings agree

There are two ways from a value to the type of a field: to coerce the
value to the kind of the field and read the outcome, as mapped entities
do, and to read the value as it is. Each has a table of its own, of
values and kinds.

* `Value.coerce_cases`: coercion leaves a value alone, or gives it the
  shape of its kind.
* `Value.as_of_coerce`: what it gives the shape to is what is read from
  the value anyway.

Nothing else is used of coercion. How texts are read as identifiers,
moments or documents, and how numbers are rounded, does not matter.

* `Value.whole?`: the whole number that a value holds. Integers are read
  as this number or not at all (`Value.as_int32_eq_ok_iff` and its kin).

`Value.coerce_readings` is the principal theorem.
-/

set_option autoImplicit false

namespace DataAccess

variable {α : Type}

/-! ### Shapes -/

section Shapes
variable {kind : FieldKind} (x : kind.Carrier)

/-- What a value was made of is read from it. -/
theorem FieldKind.as_value : (kind.value x).as kind.Carrier = .ok x := by
  cases kind <;> rfl

/-- A value of the right shape stays as it is. -/
theorem FieldKind.coerce_value : (kind.value x).coerce kind = kind.value x := by
  cases kind <;> rfl

/-- A value of a kind is not null. -/
theorem FieldKind.isNull_value : (kind.value x).isNull = false := by
  cases kind <;> rfl

end Shapes

namespace Value

/-! ### What coercion does -/

/-- Null stays null. -/
theorem coerce_null (kind : FieldKind) : null.coerce kind = null := by
  cases kind <;> rfl

/-- A shape that is given if something can be read, and else not. -/
theorem getD_map_cases {β : Type} (read : Option β) (shape : β → Value) (v : Value) :
    (read.map shape).getD v = v ∨ ∃ b, (read.map shape).getD v = shape b := by
  cases read with
  | none => exact .inl rfl
  | some b => exact .inr ⟨b, rfl⟩

/-- Coercion leaves a value alone, or gives it the shape of its kind. -/
theorem coerce_cases (v : Value) (kind : FieldKind) :
    v.coerce kind = v ∨ ∃ x : kind.Carrier, v.coerce kind = kind.value x := by
  -- For each kind the shapes that it reads, and the one that it leaves alone.
  cases kind with
  | boolean =>
      cases v with
      | int32 i => exact .inr ⟨i != 0, rfl⟩
      | int64 i => exact .inr ⟨i != 0, rfl⟩
      | _ => exact .inl rfl
  | integer =>
      cases v with
      | int64 i => exact getD_map_cases (Int64.toInt32? i) Value.int32 (.int64 i)
      | _ => exact .inl rfl
  | bigInt =>
      cases v with
      | int32 i => exact .inr ⟨i.toInt64, rfl⟩
      | _ => exact .inl rfl
  | float =>
      cases v with
      | float64 x => exact .inr ⟨x.toFloat32, rfl⟩
      | _ => exact .inl rfl
  | double =>
      cases v with
      | float32 x => exact .inr ⟨x.toFloat, rfl⟩
      | int32 i => exact .inr ⟨Int64.nearestFloat i.toInt64, rfl⟩
      | int64 i => exact .inr ⟨Int64.nearestFloat i, rfl⟩
      | _ => exact .inl rfl
  | text => exact .inl rfl
  | bytes => exact .inl rfl
  | uuid =>
      cases v with
      | string s => exact getD_map_cases (Uuid.read? s) Value.uuid (.string s)
      | bytes bs => exact getD_map_cases (Uuid.ofBytes? bs) Value.uuid (.bytes bs)
      | _ => exact .inl rfl
  | timestamp =>
      cases v with
      | string s => exact getD_map_cases (Moment.read? s) Value.moment (.string s)
      | _ => exact .inl rfl
  | date =>
      cases v with
      | string s => exact getD_map_cases (Date.read? s) Value.date (.string s)
      | _ => exact .inl rfl
  | time =>
      cases v with
      | string s => exact getD_map_cases (TimeOfDay.read? s) Value.time (.string s)
      | _ => exact .inl rfl
  | json =>
      cases v with
      | string s =>
          rcases hparse : Json.parse s with e | j
          · exact .inl (by simp only [coerce, hparse])
          · exact .inr ⟨j, by simp only [coerce, hparse]; rfl⟩
      | _ => exact .inl rfl

/-- What coercion gives a shape to is what is read from the value. -/
theorem as_of_coerce {v : Value} {kind : FieldKind} {x : kind.Carrier}
    (h : v.coerce kind = kind.value x) : v.as kind.Carrier = .ok x := by
  cases kind with
  | boolean => cases v <;> cases h <;> rfl
  | integer =>
      show v.as Int32 = .ok x
      cases v with
      | int64 i =>
          change ((Int64.toInt32? i).map Value.int32).getD (.int64 i) = .int32 x at h
          cases hfits : Int64.toInt32? i with
          | none =>
              rw [hfits] at h
              cases h
          | some n =>
              rw [hfits] at h
              cases h
              simp only [as, FromValue.fromValue, hfits]
      | _ => cases h <;> rfl
  | bigInt => cases v <;> cases h <;> rfl
  | float => cases v <;> cases h <;> rfl
  | double => cases v <;> cases h <;> rfl
  | text =>
      cases v <;> cases h
      rfl
  | bytes =>
      cases v <;> cases h
      rfl
  -- These types are read by way of coercion.
  | uuid =>
      have hcoerce : v.coerce .uuid = .uuid x := h
      show v.as Uuid = .ok x
      simp only [as, FromValue.fromValue, hcoerce]
  | timestamp =>
      have hcoerce : v.coerce .timestamp = .moment x := h
      show v.as Moment = .ok x
      simp only [as, FromValue.fromValue, hcoerce]
  | date =>
      have hcoerce : v.coerce .date = .date x := h
      show v.as Date = .ok x
      simp only [as, FromValue.fromValue, hcoerce]
  | time =>
      have hcoerce : v.coerce .time = .time x := h
      show v.as TimeOfDay = .ok x
      simp only [as, FromValue.fromValue, hcoerce]
  | json =>
      have hcoerce : v.coerce .json = .json x := h
      show v.as Json = .ok x
      simp only [as, FromValue.fromValue, hcoerce]

/-- A value that is not null is read as an optional value just as it is
read. -/
theorem as_option [FromValue α] {v : Value} (h : v.isNull = false) :
    v.as (Option α) = some <$> v.as α := by
  cases v with
  | null => cases h
  | _ => rfl

/-- Coercing twice is coercing once. -/
theorem coerce_coerce (v : Value) (kind : FieldKind) :
    (v.coerce kind).coerce kind = v.coerce kind := by
  -- A value that was left alone is left alone again, and one of its kind too.
  rcases v.coerce_cases kind with hsame | ⟨x, hshape⟩
  · rw [hsame, hsame]
  · rw [hshape, FieldKind.coerce_value]

/-- The coerced value is read as the value itself is, with the same error
if it cannot be read. -/
theorem as_coerce (v : Value) (kind : FieldKind) :
    (v.coerce kind).as (Option kind.Carrier) = v.as (Option kind.Carrier) := by
  rcases v.coerce_cases kind with hsame | ⟨x, hshape⟩
  · rw [hsame]
  · have hnull : v.isNull = false := by
      cases v with
      | null =>
          -- Null has no other shape.
          have hisNull := congrArg isNull (coerce_null kind)
          rw [hshape, FieldKind.isNull_value] at hisNull
          cases hisNull
      | _ => rfl
    rw [hshape, as_option (FieldKind.isNull_value x), as_option hnull, FieldKind.as_value,
      as_of_coerce hshape]

/-! ### Whole numbers -/

/-- The whole number that a value holds. True is one, and false is zero;
floating point numbers, texts and documents are no whole numbers. -/
def whole? : Value → Option Int
  | .bool b => some (if b then 1 else 0)
  | .int32 i => some i.toInt
  | .int64 i => some i.toInt
  | _ => none

/-- Values hold no whole numbers but those of 64 bits with a sign. -/
theorem exists_toInt_of_whole? {v : Value} {n : Int} (h : v.whole? = some n) :
    ∃ i : Int64, i.toInt = n := by
  cases v with
  | bool b =>
      cases b with
      | false => exact ⟨0, Option.some.inj h⟩
      | true => exact ⟨1, Option.some.inj h⟩
  | int32 i => exact ⟨i.toInt64, i.toInt_toInt64.trans (Option.some.inj h)⟩
  | int64 i => exact ⟨i, Option.some.inj h⟩
  | _ => cases h

/-- A number that fits in 32 bits keeps its value there. -/
theorem toInt32?_eq_some_iff {i : Int64} {n : Int32} :
    Int64.toInt32? i = some n ↔ i.toInt = n.toInt := by
  have hlow := n.le_toInt
  have hhigh := n.toInt_lt
  unfold DataAccess.Int64.toInt32?
  split
  · rename_i hfits
    -- Inside the range the 32 bits hold the number itself.
    rw [Option.some.injEq, ← Int32.toInt_inj, Int64.toInt_toInt32,
      Int.bmod_eq_of_le (by omega) (by omega)]
  · constructor
    · intro h
      cases h
    · intro h
      omega

/-- A number that is not negative keeps its value without a sign. -/
theorem toNat_toUInt64 {i : Int64} (h : 0 ≤ i.toInt) : (i.toUInt64.toNat : Int) = i.toInt := by
  show (i.toBitVec.toNat : Int) = i.toBitVec.toInt
  have hbits : 0 ≤ i.toBitVec.toInt := h
  rw [BitVec.toInt_eq_toNat_cond] at hbits ⊢
  split <;> omega

/-- What is read as 64 bits is the whole number of the value. -/
theorem as_int64_eq_ok_iff (v : Value) (i : Int64) :
    v.as Int64 = .ok i ↔ v.whole? = some i.toInt := by
  cases v with
  | bool b =>
      show (Except.ok (if b then 1 else 0) : Result Int64) = .ok i ↔ _
      rw [Except.ok.injEq, whole?, Option.some.injEq, ← Int64.toInt_inj]
      cases b <;> rfl
  | int32 j =>
      show (Except.ok j.toInt64 : Result Int64) = .ok i ↔ _
      rw [Except.ok.injEq, whole?, Option.some.injEq, ← Int64.toInt_inj, Int32.toInt_toInt64]
  | int64 j =>
      show (Except.ok j : Result Int64) = .ok i ↔ _
      rw [Except.ok.injEq, whole?, Option.some.injEq, ← Int64.toInt_inj]
  | _ => exact ⟨nofun, nofun⟩

/-- What is read as 32 bits is the whole number of the value, if it fits. -/
theorem as_int32_eq_ok_iff (v : Value) (i : Int32) :
    v.as Int32 = .ok i ↔ v.whole? = some i.toInt := by
  cases v with
  | bool b =>
      show (Except.ok (if b then 1 else 0) : Result Int32) = .ok i ↔ _
      rw [Except.ok.injEq, whole?, Option.some.injEq, ← Int32.toInt_inj]
      cases b <;> rfl
  | int32 j =>
      show (Except.ok j : Result Int32) = .ok i ↔ _
      rw [Except.ok.injEq, whole?, Option.some.injEq, ← Int32.toInt_inj]
  | int64 j =>
      rw [whole?, Option.some.injEq, ← toInt32?_eq_some_iff]
      simp only [as, FromValue.fromValue]
      cases Int64.toInt32? j <;> simp
  | _ => exact ⟨nofun, nofun⟩

/-- A number without a sign is read by way of one that has a sign. -/
theorem as_uint64_eq_ok_iff (v : Value) (n : UInt64) :
    v.as UInt64 = .ok n ↔ v.whole? = some (n.toNat : Int) := by
  have hzero : ∀ i : Int64, i < 0 ↔ i.toInt < 0 := fun i => Int64.lt_iff_toInt_lt
  show (v.as Int64 >>= fun i =>
    if i < 0 then .error (.serialization (.negative i)) else .ok i.toUInt64) = .ok n ↔ _
  rw [Result.bind_eq_ok]
  constructor
  · rintro ⟨i, hread, hsigned⟩
    rw [as_int64_eq_ok_iff] at hread
    split at hsigned
    · cases hsigned
    · rename_i hnegative
      obtain rfl := Except.ok.inj hsigned
      rw [hread, toNat_toUInt64]
      rw [hzero] at hnegative
      omega
  · intro hwhole
    obtain ⟨i, hi⟩ := exists_toInt_of_whole? hwhole
    -- A number that is read without a sign is not negative.
    have hnegative : ¬ i < 0 := by
      rw [hzero]
      omega
    refine ⟨i, (as_int64_eq_ok_iff v i).mpr (by rw [hwhole, hi]), ?_⟩
    rw [if_neg hnegative]
    have hsame : i.toUInt64.toNat = n.toNat := by
      have := toNat_toUInt64 (i := i) (by omega)
      omega
    exact congrArg Except.ok (UInt64.toNat_inj.mp hsame)

/-- Coercion happens once, and changes nothing about what is read: neither
what comes of it, nor the error if nothing does. Integers are read exactly:
a value is read as an integer of a type just if it holds this very number,
so every number that fits is read as itself, and no other one is read. -/
theorem coerce_readings (v : Value) (kind : FieldKind) :
    (v.coerce kind).coerce kind = v.coerce kind ∧
      (v.coerce kind).as (Option kind.Carrier) = v.as (Option kind.Carrier) ∧
      (∀ i : Int32, v.as Int32 = .ok i ↔ v.whole? = some i.toInt) ∧
      (∀ i : Int64, v.as Int64 = .ok i ↔ v.whole? = some i.toInt) ∧
      ∀ n : UInt64, v.as UInt64 = .ok n ↔ v.whole? = some (n.toNat : Int) :=
  ⟨v.coerce_coerce kind, v.as_coerce kind, v.as_int32_eq_ok_iff, v.as_int64_eq_ok_iff,
    v.as_uint64_eq_ok_iff⟩

end Value

end DataAccess
