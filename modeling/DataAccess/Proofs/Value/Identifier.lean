import DataAccess.Uuid

/-!
# `DataAccess.Proofs.Value.Identifier`: identifiers are read as written

An identifier is written as its bytes, two hexadecimal digits each, in
five groups with hyphens between them. `Uuid.read?_text`: this text is
read as the identifier.

* `Uuid.bytesOfHex?_flatMap_hexChars`: digits give back their bytes.
* `Uuid.readGroups?_grouped`: groups are read by their lengths, whatever
  they hold.
-/

set_option autoImplicit false

namespace DataAccess.Uuid

/-! ### Digits -/

/-- A hexadecimal digit is read as itself. -/
theorem hexValue?_digitChar {d : Nat} (h : d < 16) : hexValue? (Nat.digitChar d) = some d := by
  have hall : ∀ d < 16, hexValue? (Nat.digitChar d) = some d := by decide
  exact hall d h

/-- A byte has two digits. -/
theorem length_flatMap_hexChars (bytes : List UInt8) :
    (bytes.flatMap hexChars).length = 2 * bytes.length := by
  induction bytes with
  | nil => rfl
  | cons b bytes ih =>
      rw [List.flatMap_cons, List.length_append, ih, List.length_cons]
      show 2 + 2 * bytes.length = 2 * (bytes.length + 1)
      omega

/-- Bytes are read from their digits. -/
theorem bytesOfHex?_flatMap_hexChars (bytes : List UInt8) :
    bytesOfHex? (bytes.flatMap hexChars) = some bytes := by
  induction bytes with
  | nil => rfl
  | cons b bytes ih =>
      have hbyte : b.toNat < 256 := b.toNat_lt
      have hhigh : hexValue? (Nat.digitChar (b.toNat / 16)) = some (b.toNat / 16) :=
        hexValue?_digitChar (by omega)
      have hlow : hexValue? (Nat.digitChar (b.toNat % 16)) = some (b.toNat % 16) :=
        hexValue?_digitChar (by omega)
      have hboth : 16 * (b.toNat / 16) + b.toNat % 16 = b.toNat := by omega
      show bytesOfHex? (Nat.digitChar (b.toNat / 16) :: Nat.digitChar (b.toNat % 16) ::
        bytes.flatMap hexChars) = _
      rw [bytesOfHex?, hhigh, hlow, ih]
      show some (UInt8.ofNat (16 * (b.toNat / 16) + b.toNat % 16) :: bytes) = _
      rw [hboth, UInt8.ofNat_toNat]

/-! ### Groups -/

/-- Groups are read by their lengths: the first one ends at the eighth
character, and each next one begins after a hyphen. -/
theorem readGroups?_grouped {a b c d e : List Char} (ha : a.length = 8) (hb : b.length = 4)
    (hc : c.length = 4) (hd : d.length = 4) (he : e.length = 12) :
    readGroups? (a ++ '-' :: b ++ '-' :: c ++ '-' :: d ++ '-' :: e)
      = (bytesOfHex? (a ++ b ++ c ++ d ++ e)).bind ofBytes? := by
  -- What is dropped up to a group leaves nothing of the groups before it.
  simp [readGroups?, ha, hb, hc, hd, he, List.drop_append,
    List.drop_eq_nil_of_le]

/-- Some bytes of an identifier, written. -/
theorem length_written (u : Uuid) {start count : Nat} (h : start + count ≤ 16) :
    (((u.bytes.drop start).take count).flatMap hexChars).length = 2 * count := by
  rw [length_flatMap_hexChars, List.length_take, List.length_drop, u.length_eq,
    Nat.min_eq_left (by omega)]

/-- The bytes of the groups are all bytes. -/
theorem groups_append (bytes : List UInt8) (h : bytes.length = 16) :
    (bytes.drop 0).take 4 ++ (bytes.drop 4).take 2 ++ (bytes.drop 6).take 2
      ++ (bytes.drop 8).take 2 ++ (bytes.drop 10).take 6 = bytes := by
  have hnext : ∀ n m, bytes.take n ++ (bytes.drop n).take m = bytes.take (n + m) :=
    fun n m => List.take_add.symm
  rw [List.drop_zero, hnext, hnext, hnext, hnext, List.take_of_length_le (by omega)]

/-- An identifier is read from its text. -/
theorem read?_text (u : Uuid) : read? u.text = some u := by
  -- The dashes divide 8, 4, 4, 4 and 12 digits.
  have hgroups : readGroups? u.chars = some u := by
    rw [chars, readGroups?_grouped (u.length_written (by omega)) (u.length_written (by omega))
      (u.length_written (by omega)) (u.length_written (by omega)) (u.length_written (by omega)),
      ← List.flatMap_append, ← List.flatMap_append, ← List.flatMap_append, ← List.flatMap_append,
      groups_append u.bytes u.length_eq, bytesOfHex?_flatMap_hexChars]
    exact dif_pos u.length_eq
  have hlength : u.chars.length = 36 := by
    simp only [chars, List.length_append, List.length_cons]
    rw [u.length_written (by omega), u.length_written (by omega), u.length_written (by omega),
      u.length_written (by omega), u.length_written (by omega)]
  rw [read?, text, String.toList_ofList, hlength]
  exact hgroups

end DataAccess.Uuid
