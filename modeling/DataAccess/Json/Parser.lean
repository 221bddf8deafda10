import DataAccess.Json.Basic
import DataAccess.Text.Utf8

/-!
# `DataAccess.Json.Parser`: documents from text

Reading of a document from its text, with the place of the first
fault. The text is read as bytes, and a place is a line and a column
counted in bytes.

A whole number without fraction and exponent that fits in 64 bits stays
whole; every other number becomes a floating point number. Its digits
are gathered in 64 bits, those that no longer fit count as zeros, and
the result is scaled by powers of ten of which each is rounded. Lists
and objects may be nested 127 deep.

* `Json.Fault`: why a text is no document, with `Fault.message`.
* `Json.parse`: the document, or the fault with its place.
-/

set_option autoImplicit false

namespace DataAccess.Json

/-- Why a text is no document. -/
inductive Fault where
  | eofInValue
  | eofInList
  | eofInObject
  | eofInString
  | expectedColon
  | expectedListEnd
  | expectedObjectEnd
  | expectedIdent
  | expectedValue
  | invalidEscape
  | invalidNumber
  | numberOutOfRange
  | controlCharacter
  | keyNotString
  | loneSurrogate
  | trailingComma
  | trailingCharacters
  | unexpectedEscapeEnd
  | nestedTooDeep
  deriving DecidableEq, Repr

/-- The wording of a fault. -/
def Fault.message : Fault → String
  | .eofInValue => "EOF while parsing a value"
  | .eofInList => "EOF while parsing a list"
  | .eofInObject => "EOF while parsing an object"
  | .eofInString => "EOF while parsing a string"
  | .expectedColon => "expected `:`"
  | .expectedListEnd => "expected `,` or `]`"
  | .expectedObjectEnd => "expected `,` or `\x7d`"
  | .expectedIdent => "expected ident"
  | .expectedValue => "expected value"
  | .invalidEscape => "invalid escape"
  | .invalidNumber => "invalid number"
  | .numberOutOfRange => "number out of range"
  | .controlCharacter => "control character (\\u0000-\\u001F) found while parsing a string"
  | .keyNotString => "key must be a string"
  | .loneSurrogate => "lone leading surrogate in hex escape"
  | .trailingComma => "trailing comma"
  | .trailingCharacters => "trailing characters"
  | .unexpectedEscapeEnd => "unexpected end of hex escape"
  | .nestedTooDeep => "recursion limit exceeded"

/-- A fault, and how many bytes of the text stand after its place. -/
structure Failure where
  /-- What is wrong. -/
  fault : Fault
  /-- The number of bytes after the place. -/
  after : Nat
  deriving DecidableEq, Repr

/-- What reads a part of a document at the start of the bytes and
leaves the bytes after it. -/
abbrev Parser (α : Type) := StateT (List UInt8) (Except Failure) α

namespace Parser

/-- Fails at the place reached. -/
def fail {α : Type} (fault : Fault) : Parser α := fun bytes =>
  .error ⟨fault, bytes.length⟩

/-- Fails at the byte that comes next. -/
def failAtNext {α : Type} (fault : Fault) : Parser α := fun bytes =>
  .error ⟨fault, bytes.length - 1⟩

/-- The byte that comes next, which is left in place. -/
def peek? : Parser (Option UInt8) := fun bytes =>
  .ok (bytes.head?, bytes)

/-- Steps over the next byte. -/
def skip : Parser Unit := fun bytes =>
  .ok ((), bytes.drop 1)

/-- The next byte, stepped over. -/
def next? : Parser (Option UInt8) := fun bytes =>
  .ok (bytes.head?, bytes.drop 1)

/-- Steps over white space; the byte that comes next. -/
def blanks : Parser (Option UInt8) := fun bytes =>
  let rest := bytes.dropWhile fun b => b == 0x20 || b == 0x0A || b == 0x09 || b == 0x0D
  .ok (rest.head?, rest)

/-- Steps over the digits that come next; their values. -/
def digits : Parser (List Nat) := fun bytes =>
  let ds := bytes.takeWhile fun b => 0x30 ≤ b && b ≤ 0x39
  .ok (ds.map fun b => b.toNat - 0x30, bytes.drop ds.length)

/-- The byte of a character of ASCII. -/
def code (c : Char) : UInt8 :=
  UInt8.ofNat c.toNat

/-- The rest of a literal name. -/
def ident : List Char → Parser Unit
  | [] => pure ()
  | c :: cs => do
    match ← next? with
    | none => fail .eofInValue
    | some b => if b = code c then ident cs else fail .expectedIdent

/-! ### Numbers -/

/-- Digits gathered into a number below `2 ^ 64`, as far as they fit:
the number, how many digits went into it, and how many were left. -/
def gather : Nat → List Nat → Nat × Nat × Nat
  | n, [] => (n, 0, 0)
  | n, d :: ds =>
    if 10 * n + d < UInt64.size then
      let (m, used, left) := gather (10 * n + d) ds
      (m, used + 1, left)
    else (n, 0, ds.length + 1)

/-- The powers of ten up to this one are scaled by in one step. -/
def greatestPower : Nat := 308

/-- `x / 10 ^ exponent`, by steps of at most `10 ^ 308`. -/
def scaleDown (x : Float) (exponent : Nat) : Float :=
  if exponent ≤ greatestPower then x / Float.ofScientific 1 false exponent
  else if x == 0 then x
  else scaleDown (x / 1e308) (exponent - greatestPower)
termination_by exponent
decreasing_by simp [greatestPower] at *; omega

/-- The number `significand * 10 ^ exponent` with its sign. -/
def scaled (negative : Bool) (significand : Nat) (exponent : Int) : Parser Json := do
  let x := (UInt64.ofNat significand).toFloat
  let magnitude ←
    if exponent < 0 then pure (scaleDown x exponent.natAbs)
    else if exponent ≤ greatestPower then
      pure (x * Float.ofScientific 1 false exponent.toNat)
    else if x == 0 then pure x
    else fail .numberOutOfRange
  match Real.ofFloat? (if negative then -magnitude else magnitude) with
  | some r => pure (.real r)
  | none => fail .numberOutOfRange

/-- The bound on the exponent that a number may write. -/
def exponentBound : Nat := 0x7fffffff

/-- The exponent of a number, after its letter. -/
def exponent (negative : Bool) (significand : Nat) (start : Int) : Parser Json := do
  skip
  let down ← match ← peek? with
    | some b =>
      if b = code '+' then do skip; pure false
      else if b = code '-' then do skip; pure true
      else pure false
    | none => pure false
  match ← peek? with
  | none => fail .eofInValue
  | some b =>
    if 0x30 ≤ b ∧ b ≤ 0x39 then do
      let bytes ← get
      let ds ← digits
      let value := ds.foldl (fun n d => 10 * n + d) 0
      if value ≤ exponentBound then
        scaled negative significand (if down then start - value else start + value)
      else if significand ≠ 0 ∧ down = false then
        -- The place is that of the digit that passes the bound.
        let fitting := (List.range (ds.length + 1)).takeWhile fun k =>
          (ds.take k).foldl (fun n d => 10 * n + d) 0 ≤ exponentBound
        set (bytes.drop fitting.length)
        fail .numberOutOfRange
      else scaled negative 0 0
    else do
      skip
      fail .invalidNumber

/-- The fraction of a number, after its point. -/
def fraction (negative : Bool) (significand : Nat) (start : Int) : Parser Json := do
  skip
  let ds ← digits
  if ds.isEmpty then
    match ← peek? with
    | some _ => failAtNext .invalidNumber
    | none => failAtNext .eofInValue
  else
    let (significand, used, _) := gather significand ds
    let place : Int := start - used
    match ← peek? with
    | some b =>
      if b = code 'e' ∨ b = code 'E' then exponent negative significand place
      else scaled negative significand place
    | none => scaled negative significand place

/-- A number whose digits before the point have been read. -/
def numberFrom (negative : Bool) (ds : List Nat) : Parser Json := do
  let (significand, _, left) := gather 0 ds
  let plain : Parser Json :=
    if left ≠ 0 then scaled negative significand left
    else if negative = false then
      match Integer.ofInt? significand with
      | some n => pure (.integer n)
      | none => fail .numberOutOfRange
    else if significand = 0 ∨ 0x8000000000000000 < significand then scaled negative significand 0
    else
      match Integer.ofInt? (-(significand : Int)) with
      | some n => pure (.integer n)
      | none => fail .numberOutOfRange
  match ← peek? with
  | some b =>
    if b = code '.' then fraction negative significand left
    else if b = code 'e' ∨ b = code 'E' then exponent negative significand left
    else plain
  | none => plain

/-- A number, after its sign. -/
def number (negative : Bool) : Parser Json := do
  match ← peek? with
  | none => fail .eofInValue
  | some b =>
    if b = code '0' then do
      skip
      match ← peek? with
      | some d =>
        if 0x30 ≤ d ∧ d ≤ 0x39 then failAtNext .invalidNumber else numberFrom negative [0]
      | none => numberFrom negative [0]
    else if 0x31 ≤ b ∧ b ≤ 0x39 then do
      let ds ← digits
      numberFrom negative ds
    else do
      skip
      fail .invalidNumber

/-! ### Texts -/

/-- The value of a hexadecimal digit. -/
def hexValue? (b : UInt8) : Option Nat :=
  if 0x30 ≤ b ∧ b ≤ 0x39 then some (b.toNat - 0x30)
  else if 0x61 ≤ b ∧ b ≤ 0x66 then some (b.toNat - 0x57)
  else if 0x41 ≤ b ∧ b ≤ 0x46 then some (b.toNat - 0x37)
  else none

/-- Four hexadecimal digits. -/
def hexEscape : Parser Nat := do
  let bytes ← get
  match bytes with
  | a :: b :: c :: d :: rest => do
    set rest
    match hexValue? a, hexValue? b, hexValue? c, hexValue? d with
    | some a, some b, some c, some d => pure (((a * 16 + b) * 16 + c) * 16 + d)
    | _, _, _, _ => fail .invalidEscape
  | _ => do
    set ([] : List UInt8)
    fail .eofInString

/-- The next byte, which has to be `b` for an escape to go on. -/
def escapeByte (b : UInt8) : Parser Unit := do
  match ← next? with
  | none => fail .eofInString
  | some c => if c = b then pure () else fail .unexpectedEscapeEnd

/-- The character of an escape by number. A number of the upper half of
a pair takes the other half from a second escape. -/
def unicodeEscape : Parser Char := do
  let n ← hexEscape
  if 0xDC00 ≤ n ∧ n ≤ 0xDFFF then fail .loneSurrogate
  else if n < 0xD800 ∨ 0xDBFF < n then pure (Char.ofNat n)
  else do
    escapeByte (code '\\')
    escapeByte (code 'u')
    let m ← hexEscape
    if m < 0xDC00 ∨ 0xDFFF < m then fail .loneSurrogate
    else pure (Char.ofNat ((n - 0xD800) * 0x400 + (m - 0xDC00) + 0x10000))

/-- The bytes that an escape stands for, after its backslash. -/
def escape : Parser (List UInt8) := do
  match ← next? with
  | none => fail .eofInString
  | some b =>
    if b = code '"' ∨ b = code '\\' ∨ b = code '/' then pure [b]
    else if b = code 'b' then pure [0x08]
    else if b = code 'f' then pure [0x0C]
    else if b = code 'n' then pure [0x0A]
    else if b = code 'r' then pure [0x0D]
    else if b = code 't' then pure [0x09]
    else if b = code 'u' then do
      let c ← unicodeEscape
      pure (Text.Utf8.encode (String.singleton c))
    else fail .invalidEscape

/-- The bytes of a text up to its closing quote. Each step takes at
least one byte, so `fuel` many steps read any text of fewer bytes. -/
def stringBytes : Nat → Parser (List UInt8)
  | 0 => fail .eofInString
  | fuel + 1 => do
    match ← next? with
    | none => fail .eofInString
    | some b =>
      if b = code '"' then pure []
      else if b = code '\\' then do
        let bytes ← escape
        let rest ← stringBytes fuel
        pure (bytes ++ rest)
      else if b < 0x20 then fail .controlCharacter
      else do
        let rest ← stringBytes fuel
        pure (b :: rest)

/-- A text, after its opening quote. -/
def string : Parser String := do
  let bytes ← get
  let content ← stringBytes (bytes.length + 1)
  pure (Text.Utf8.decodeLossy content)

/-! ### Lists and objects -/

/-- What comes before an item of a list: `true` if an item follows,
`false` at the end of the list. -/
def itemFollows (first : Bool) : Parser Bool := do
  match ← blanks with
  | none => failAtNext .eofInList
  | some b =>
    if b = code ']' then pure false
    else if first then pure true
    else if b = code ',' then do
      skip
      match ← blanks with
      | none => failAtNext .eofInValue
      | some c => if c = code ']' then failAtNext .trailingComma else pure true
    else failAtNext .expectedListEnd

/-- The items of a list up to its closing bracket; `item` reads one. -/
def items (item : Parser Json) : Nat → Bool → Parser (List Json)
  | 0, _ => fail .eofInList
  | fuel + 1, first => do
    if ← itemFollows first then
      let value ← item
      let rest ← items item fuel false
      pure (value :: rest)
    else
      skip
      pure []

/-- What comes before a member of an object: `true` if a name follows,
`false` at the end of the object. -/
def memberFollows (first : Bool) : Parser Bool := do
  match ← blanks with
  | none => failAtNext .eofInObject
  | some b =>
    if b = code '\x7d' then pure false
    else if first then
      if b = code '"' then pure true else failAtNext .keyNotString
    else if b = code ',' then do
      skip
      match ← blanks with
      | none => failAtNext .eofInValue
      | some c =>
        if c = code '"' then pure true
        else if c = code '\x7d' then failAtNext .trailingComma
        else failAtNext .keyNotString
    else failAtNext .expectedObjectEnd

/-- The colon after a name. -/
def colon : Parser Unit := do
  match ← blanks with
  | none => failAtNext .eofInObject
  | some b => if b = code ':' then skip else failAtNext .expectedColon

/-- The members of an object up to its closing brace; `item` reads a
value. -/
def members (item : Parser Json) : Nat → Bool → Parser (List (String × Json))
  | 0, _ => fail .eofInObject
  | fuel + 1, first => do
    if ← memberFollows first then
      skip
      let name ← string
      colon
      let value ← item
      let rest ← members item fuel false
      pure ((name, value) :: rest)
    else
      skip
      pure []

/-- A document in which lists and objects are nested fewer than `depth`
deep. -/
def document : Nat → Parser Json
  | 0 => failAtNext .nestedTooDeep
  | depth + 1 => do
    let bytes ← get
    match ← blanks with
    | none => failAtNext .eofInValue
    | some b =>
      if b = code 'n' then do skip; ident ['u', 'l', 'l']; pure .null
      else if b = code 't' then do skip; ident ['r', 'u', 'e']; pure (.bool true)
      else if b = code 'f' then do skip; ident ['a', 'l', 's', 'e']; pure (.bool false)
      else if b = code '-' then do skip; number true
      else if 0x30 ≤ b ∧ b ≤ 0x39 then number false
      else if b = code '"' then do
        skip
        let s ← string
        pure (.string s)
      else if b = code '[' then
        if depth = 0 then failAtNext .nestedTooDeep
        else do
          skip
          let values ← items (document depth) (bytes.length + 1) true
          pure (.array values)
      else if b = code '\x7b' then
        if depth = 0 then failAtNext .nestedTooDeep
        else do
          skip
          let values ← members (document depth) (bytes.length + 1) true
          pure (Json.ofMembers values)
      else failAtNext .expectedValue

/-- A document, and nothing after it but white space. -/
def whole : Parser Json := do
  let value ← document 128
  match ← blanks with
  | none => pure value
  | some _ => failAtNext .trailingCharacters

end Parser

/-- Why a text is no document, and where. -/
structure ParseError where
  /-- What is wrong. -/
  fault : Fault
  /-- The line of the place, from 1. -/
  line : Nat
  /-- How many bytes of the line come before the place. -/
  column : Nat
  deriving DecidableEq, Repr

/-- The wording of an error. -/
def ParseError.message (e : ParseError) : String :=
  e.fault.message ++ s!" at line {e.line} column {e.column}"

/-- The document that a text writes. -/
def parse (text : String) : Except ParseError Json :=
  let bytes := Text.Utf8.encode text
  match Parser.whole bytes with
  | .ok (value, _) => .ok value
  | .error failure =>
    let before := bytes.take (bytes.length - failure.after)
    let column := (before.reverse.takeWhile (· != 0x0A)).length
    .error ⟨failure.fault, before.count 0x0A + 1, column⟩

end DataAccess.Json
