/-!
# `DataAccess.Text.Utf8`: text from bytes

Decoding of bytes as UTF-8, one byte at a time, with the place and
kind of the first flaw. A byte that can neither start a character nor
continue the one being read is a flaw at the start of that character;
its length is the number of bytes of the character read so far, so
that reading could go on after them. Bytes that end inside a
character are incomplete.

* `decode`: the text the bytes write, or the first flaw.
* `decodeLossy`: the text with U+FFFD in the place of every flaw.
* `encode`: the bytes of a text.
-/

set_option autoImplicit false

namespace DataAccess.Text.Utf8

/-- What is wrong at the place of a flaw. -/
inductive Flaw where
  /-- So many bytes are no character and begin none. -/
  | invalid (length : Nat)
  /-- The bytes end inside a character. -/
  | incomplete
  deriving DecidableEq, Repr

/-- The first place where bytes stop being UTF-8. -/
structure Error where
  /-- How many bytes before it are whole characters. -/
  index : Nat
  /-- What is wrong there. -/
  flaw : Flaw
  deriving DecidableEq, Repr

/-- The wording of an error. -/
def Error.message (e : Error) : String :=
  match e.flaw with
  | .invalid n => s!"invalid utf-8 sequence of {n} bytes from index {e.index}"
  | .incomplete => s!"incomplete utf-8 byte sequence from index {e.index}"

/-- A character of which some bytes have been read. -/
structure Pending where
  /-- Where its first byte stands. -/
  start : Nat
  /-- How many of its bytes have been read. -/
  read : Nat
  /-- The bits those bytes carry. -/
  code : Nat
  /-- How many bytes are still owed. -/
  owed : Nat
  /-- The least the next byte may be. -/
  low : UInt8
  /-- The greatest the next byte may be. -/
  high : UInt8
  deriving Repr

/-- The character that byte `b`, at `index`, begins: a whole one, or
one that owes bytes. The bounds on the second byte leave out overlong
forms, surrogates and numbers past U+10FFFF. -/
def begin? (index : Nat) (b : UInt8) : Option (Char ⊕ Pending) :=
  let owing (code owed : Nat) (low high : UInt8) : Option (Char ⊕ Pending) :=
    some (.inr ⟨index, 1, code, owed, low, high⟩)
  if b < 0x80 then some (.inl (Char.ofNat b.toNat))
  else if 0xC2 ≤ b && b ≤ 0xDF then owing (b.toNat - 0xC0) 1 0x80 0xBF
  else if b == 0xE0 then owing 0 2 0xA0 0xBF
  else if b == 0xED then owing 0xD 2 0x80 0x9F
  else if 0xE1 ≤ b && b ≤ 0xEF then owing (b.toNat - 0xE0) 2 0x80 0xBF
  else if b == 0xF0 then owing 0 3 0x90 0xBF
  else if 0xF1 ≤ b && b ≤ 0xF3 then owing (b.toNat - 0xF0) 3 0x80 0xBF
  else if b == 0xF4 then owing 4 3 0x80 0x8F
  else none

/-- The character after one more of its bytes, or `none` if the byte
cannot continue it. -/
def Pending.continue? (p : Pending) (b : UInt8) : Option (Char ⊕ Pending) :=
  if p.low ≤ b && b ≤ p.high then
    let code := 64 * p.code + (b.toNat - 0x80)
    if p.owed ≤ 1 then some (.inl (Char.ofNat code))
    else some (.inr ⟨p.start, p.read + 1, code, p.owed - 1, 0x80, 0xBF⟩)
  else none

/-- Decodes the bytes from `index` on, the character `p` being read. -/
def decodeFrom (index : Nat) (p : Option Pending) : List UInt8 → Except Error (List Char)
  | [] =>
    match p with
    | none => .ok []
    | some p => .error ⟨p.start, .incomplete⟩
  | b :: bs =>
    match p with
    | none =>
      match begin? index b with
      | none => .error ⟨index, .invalid 1⟩
      | some (.inl c) => (c :: ·) <$> decodeFrom (index + 1) none bs
      | some (.inr q) => decodeFrom (index + 1) (some q) bs
    | some p =>
      match p.continue? b with
      | none => .error ⟨p.start, .invalid p.read⟩
      | some (.inl c) => (c :: ·) <$> decodeFrom (index + 1) none bs
      | some (.inr q) => decodeFrom (index + 1) (some q) bs

/-- The text that the bytes write. -/
def decode (bytes : List UInt8) : Except Error String :=
  String.ofList <$> decodeFrom 0 none bytes

/-- Decodes the bytes, the character `p` being read, with U+FFFD for
each run of bytes that begins no character. -/
def decodeLossyFrom (p : Option Pending) : List UInt8 → List Char
  | [] => if p.isSome then ['\uFFFD'] else []
  | b :: bs =>
    let fresh (_ : Unit) : List Char :=
      match begin? 0 b with
      | none => '\uFFFD' :: decodeLossyFrom none bs
      | some (.inl c) => c :: decodeLossyFrom none bs
      | some (.inr q) => decodeLossyFrom (some q) bs
    match p with
    | none => fresh ()
    | some p =>
      match p.continue? b with
      | none => '\uFFFD' :: fresh ()
      | some (.inl c) => c :: decodeLossyFrom none bs
      | some (.inr q) => decodeLossyFrom (some q) bs

/-- The text that the bytes write, flaws replaced by U+FFFD. -/
def decodeLossy (bytes : List UInt8) : String :=
  String.ofList (decodeLossyFrom none bytes)

/-- The UTF-8 bytes of a text. -/
def encode (s : String) : List UInt8 :=
  s.toUTF8.data.toList

end DataAccess.Text.Utf8
