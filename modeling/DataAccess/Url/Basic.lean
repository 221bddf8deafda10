import DataAccess.Text.Blank
import DataAccess.Url.Host

/-!
# `DataAccess.Url.Basic`: URLs

Reading of absolute URLs, so far as settings are taken from them: the
scheme, the name and password before the host, and the query. The
host and the port are checked, and so is that there is a host where a
name, a password, a port or the scheme calls for one.

Control characters and spaces around the text, and tabs and line ends
within it, are not looked at.
-/

set_option autoImplicit false

namespace DataAccess

/-- What settings are taken from in a URL. -/
structure Url where
  /-- The scheme, in small letters. -/
  scheme : String
  /-- The name before the host, percent-encoded. -/
  username : String
  /-- The password after the name, percent-encoded. -/
  password : Option String
  /-- The text after the question mark. -/
  query : Option String
  deriving DecidableEq, Repr

namespace Url

/-- How a scheme treats what follows it. -/
inductive SchemeClass where
  /-- The host is a domain name, or missing. -/
  | file
  /-- The host is a domain name. -/
  | web
  /-- The host means nothing. -/
  | other
  deriving DecidableEq, Repr

/-- The class of a scheme. -/
def schemeClass (scheme : String) : SchemeClass :=
  if scheme = "file" then .file
  else if ["http", "https", "ws", "wss", "ftp"].contains scheme then .web
  else .other

/-- The characters of a text that a URL is read from. -/
def significant (s : String) : List Char :=
  let outer (c : Char) : Bool := c.toNat ≤ 0x20
  let trimmed := ((s.toList.dropWhile outer).reverse.dropWhile outer).reverse
  trimmed.filter fun c => c != '\t' && c != '\n' && c != '\r'

/-- A character of a scheme. -/
def isSchemeChar (c : Char) : Bool :=
  c.isAlphanum || c == '+' || c == '-' || c == '.'

/-- The scheme at the start of a text, in small letters, and the text
after its colon. -/
def splitScheme? (cs : List Char) : Option (String × List Char) :=
  let scheme := cs.takeWhile isSchemeChar
  match cs.head?, cs.drop scheme.length with
  | some first, ':' :: rest =>
    if first.isAlpha then some (String.ofList (scheme.map Char.toLower), rest) else none
  | _, _ => none

/-- A character ends the part of a URL that holds host and port. -/
def endsAuthority (special : Bool) (c : Char) : Bool :=
  c == '/' || c == '?' || c == '#' || (special && c == '\\')

/-- The characters before the last `@`, if there is one, and those
after it. -/
def splitUserinfo (authority : List Char) : Option (List Char) × List Char :=
  if authority.contains '@' then
    let host := (authority.reverse.takeWhile (· != '@')).reverse
    (some (authority.take (authority.length - host.length - 1)), host)
  else (none, authority)

/-- The characters of the host, which ends at a colon outside of
brackets, and those from the colon on. -/
def splitHost (inBrackets : Bool) : List Char → List Char × List Char
  | [] => ([], [])
  | c :: cs =>
    if c = ':' ∧ inBrackets = false then ([], c :: cs)
    else
      let inside := if c = '[' then true else if c = ']' then false else inBrackets
      let (host, rest) := splitHost inside cs
      (c :: host, rest)

/-- The text from a colon on writes a port, or none, and it ends where
the digits end or before a backslash. -/
def checkPort (cs : List Char) : Except Flaw Unit :=
  let digits := cs.takeWhile Char.isDigit
  let number := digits.foldl (fun n c => 10 * n + (c.toNat - '0'.toNat)) 0
  if 65535 < number then .error .invalidPort
  else
    match cs.drop digits.length with
    | [] => .ok ()
    | '\\' :: _ => .ok ()
    | _ => .error .invalidPort

/-- The text after the first question mark and before a number sign. -/
def queryOf (cs : List Char) : Option String :=
  let body := cs.takeWhile (· != '#')
  match body.dropWhile (· != '?') with
  | _ :: query => some (String.ofList query)
  | [] => none

/-- Reads the URL from what follows two slashes: name, password, host
and port. -/
def ofAuthority (scheme : String) (special : Bool) (cs : List Char) : Except Flaw Url := do
  let authority := cs.takeWhile fun c => !endsAuthority special c
  let rest := cs.drop authority.length
  let (userinfo, hostport) := splitUserinfo authority
  if userinfo = some [] ∧ hostport = [] ∧ rest ≠ [] then .error .emptyHost
  let user := userinfo.getD []
  let username := user.takeWhile (· != ':')
  let password := (user.dropWhile (· != ':')).drop 1
  let (host, port) := splitHost false hostport
  if special then
    if host.isEmpty then .error .emptyHost
    checkDomain host
  else
    checkOpaque host
  if host.isEmpty ∧ port ≠ [] then .error .emptyHost
  match port with
  | [] => pure ()
  | _ :: digits => checkPort digits
  if host.isEmpty ∧ (username ≠ [] ∨ password ≠ []) then .error .emptyHost
  return {
    scheme := scheme
    username := String.ofList username
    password := if password.isEmpty then none else some (String.ofList password)
    query := queryOf rest }

/-- Reads the URL of a file: a host, if there is one, is checked. -/
def ofFile (scheme : String) (cs : List Char) : Except Flaw Url := do
  let isSlash (c : Char) : Bool := c == '/' || c == '\\'
  match cs with
  | a :: b :: rest =>
    if isSlash a && isSlash b then
      let host := rest.takeWhile fun c => !endsAuthority true c
      let isDrive := match host with
        | [letter, mark] => letter.isAlpha && (mark == ':' || mark == '|')
        | _ => false
      if !host.isEmpty && !isDrive then checkDomain host
  | _ => pure ()
  return ⟨scheme, "", none, queryOf cs⟩

/-- The URL that a text writes. -/
def parse (s : String) : Except Flaw Url :=
  match splitScheme? (significant s) with
  | none => .error .relativeWithoutBase
  | some (scheme, rest) =>
    match schemeClass scheme with
    | .file => ofFile scheme rest
    | .web => ofAuthority scheme true (rest.dropWhile fun c => c == '/' || c == '\\')
    | .other =>
      match rest with
      | '/' :: '/' :: rest => ofAuthority scheme false rest
      | _ => .ok ⟨scheme, "", none, queryOf rest⟩

end Url

end DataAccess
