import DataAccess.Url.Domain

/-!
# `DataAccess.Url.Host`: hosts of URLs

Which texts are hosts. A text in brackets is an IPv6 address. Any
other text is a domain name if the scheme of the URL is one of the
web, and otherwise any text without the characters that delimit the
parts of a URL.

* `isIpv6`: eight groups of up to four hexadecimal digits, of which
  one run may be left out as `::` and the last two may be written as
  an IPv4 address.
* `isIpv4`: up to four numbers. A domain name whose last label is a
  number must be such an address.
* `checkOpaque`, `checkDomain`: the two kinds of hosts.
-/

set_option autoImplicit false

namespace DataAccess.Url

/-! ## Addresses in brackets -/

/-- A character is a hexadecimal digit. -/
def isHexDigit (c : Char) : Bool :=
  c.isDigit || ('a' ≤ c && c ≤ 'f') || ('A' ≤ c && c ≤ 'F')

/-- A text is a decimal number up to 255 without zeros in front. -/
def isOctet (cs : List Char) : Bool :=
  match cs with
  | [] => false
  | ['0'] => true
  | '0' :: _ => false
  | _ => cs.length ≤ 3 && cs.all Char.isDigit
      && cs.foldl (fun n c => 10 * n + (c.toNat - '0'.toNat)) 0 ≤ 255

/-- Four numbers with points between them. -/
def isDottedQuad (cs : List Char) : Bool :=
  let parts := cs.splitOn '.'
  parts.length == 4 && parts.all isOctet

/-- The number of groups that a text without `::` writes, or `none` if
it is no list of groups. The last group may be an IPv4 address, which
counts as two, where `final` says so. -/
def groupCount? (final : Bool) (cs : List Char) : Option Nat :=
  if cs.isEmpty then some 0
  else
    let parts := cs.splitOn ':'
    let isGroup (part : List Char) : Bool :=
      !part.isEmpty && part.length ≤ 4 && part.all isHexDigit
    match parts.getLast? with
    | none => none
    | some last =>
      if final && isDottedQuad last && parts.dropLast.all isGroup then some (parts.length + 1)
      else if parts.all isGroup then some parts.length
      else none

/-- Splits a text at its first `::`. -/
def splitGap? : List Char → Option (List Char × List Char)
  | ':' :: ':' :: rest => some ([], rest)
  | c :: rest => (splitGap? rest).map fun (before, after) => (c :: before, after)
  | [] => none

/-- A text is an IPv6 address. -/
def isIpv6 (cs : List Char) : Bool :=
  match splitGap? cs with
  | none => groupCount? true cs == some 8
  | some (before, after) =>
    match groupCount? false before, groupCount? true after with
    | some m, some n => m + n ≤ 7
    | _, _ => false

/-! ## Domain names that are addresses -/

/-- The number that a label of an IPv4 address writes: decimal, octal
after `0`, or hexadecimal after `0x`. -/
def addressNumber? (label : List Char) : Option Nat :=
  let read (base : Nat) (digits : List Char) (isDigit : Char → Bool) : Option Nat :=
    if digits.all isDigit then
      some (digits.foldl (fun n c =>
        base * n + (if c.isDigit then c.toNat - '0'.toNat else c.toLower.toNat - 'a'.toNat + 10)) 0)
    else none
  match label with
  | [] => none
  | '0' :: 'x' :: rest => read 16 rest isHexDigit
  | '0' :: 'X' :: rest => read 16 rest isHexDigit
  | ['0'] => some 0
  | '0' :: rest => read 8 rest fun c => '0' ≤ c && c ≤ '7'
  | _ => read 10 label Char.isDigit

/-- The labels of a domain name, without the empty one after a point
at its end. -/
def labels (name : List Char) : List (List Char) :=
  let parts := name.splitOn '.'
  if parts.length > 1 ∧ parts.getLast? = some [] then parts.dropLast else parts

/-- The last label of a domain name is a number, so the name has to be
an IPv4 address. -/
def endsInNumber (name : List Char) : Bool :=
  match (labels name).getLast? with
  | none => false
  | some last => (!last.isEmpty && last.all Char.isDigit) || (addressNumber? last).isSome

/-- A domain name is an IPv4 address: up to four numbers, of which the
last fills the bytes that the others leave. -/
def isIpv4 (name : List Char) : Bool :=
  let parts := labels name
  match parts.mapM addressNumber? with
  | none => false
  | some numbers =>
    match numbers.getLast? with
    | none => false
    | some last =>
      parts.length ≤ 4 && numbers.dropLast.all (· ≤ 255)
        && last < Nat.pow 256 (5 - numbers.length)

/-! ## Hosts -/

/-- A text in brackets is an IPv6 address. -/
def checkBrackets (host : List Char) : Except Flaw Unit :=
  if host.getLast? = some ']' ∧ isIpv6 (host.drop 1).dropLast then .ok ()
  else .error .invalidIpv6

/-- The characters that delimit the parts of a URL, and blanks. -/
def isDelimiter (c : Char) : Bool :=
  "\x00\t\n\r #/:<>?@[\\]^|".toList.contains c

/-- A text is the host of a URL whose scheme gives it no meaning. -/
def checkOpaque (host : List Char) : Except Flaw Unit :=
  if host.head? = some '[' then checkBrackets host
  else if host.any isDelimiter then .error .invalidDomainCharacter
  else .ok ()

/-- A text is the host of a URL of the web. -/
def checkDomain (host : List Char) : Except Flaw Unit :=
  if host.head? = some '[' then checkBrackets host
  else do
    let name ← domain host
    if name.isEmpty then .error .emptyHost
    else if endsInNumber name && !isIpv4 name then .error .invalidIpv4
    else .ok ()

end DataAccess.Url
