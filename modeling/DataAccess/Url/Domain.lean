import DataAccess.Text.Direction
import DataAccess.Text.Joining
import DataAccess.Text.Percent
import DataAccess.Url.Flaw
import DataAccess.Url.Mapping
import DataAccess.Url.Punycode

/-!
# `DataAccess.Url.Domain`: domain names

Which texts are domain names. A name is brought to its plain form and
consists of labels with points between them. A label that begins with
`xn--` writes another one in ASCII.

* `isLabel`: the characters of a label are those of domain names, the
  first one stands by itself, and joiners have a meaning.
* `label?`: the label that a label writes, which must need to be
  written so, and must be in its plain form.
* `domain`: the name that a host writes. If one of its labels has
  characters that run from right to left, all labels keep to one
  direction.
-/

set_option autoImplicit false

namespace DataAccess.Url

/-- The characters of ASCII that no domain name has. -/
def isDeniedInDomain (c : Char) : Bool :=
  c.toNat ≤ 0x20 || c.toNat == 0x7F || "#%/:<>?@[\\]^|".toList.contains c

/-- The characters, in their plain form, are those of a label. -/
def isLabel (label : List Char) : Bool :=
  !label.any isDeniedInDomain && !(label.head?.map Text.isMark).getD false
    && Text.joinersFit label

/-- The label that a label in its plain form writes, if it is one. -/
def label? (label : List Char) : Option (List Char) :=
  match label with
  | 'x' :: 'n' :: '-' :: '-' :: encoded =>
    match Punycode.decode? encoded with
    | none => none
    | some decoded =>
      if decoded.any (fun c => 0x7F < c.toNat) && plain? decoded == some decoded
          && isLabel decoded then
        some decoded
      else none
  | _ => if isLabel label then some label else none

/-- The name in its plain form is one whose labels can be told from
others. -/
def isDomain (name : List Char) : Bool :=
  match (name.splitOn '.').mapM label? with
  | none => false
  | some labels => !labels.any Text.isMixed || labels.all Text.keepsDirection

/-- The domain name that a host writes, percent-decoded and in its plain
form. -/
def domain (host : List Char) : Except Flaw (List Char) :=
  match Text.Percent.decode (String.ofList host) with
  | .error _ => .error .invalidDomainName
  | .ok decoded =>
    match plain? decoded.toList with
    | none => .error .invalidDomainName
    | some name => if isDomain name then .ok name else .error .invalidDomainName

end DataAccess.Url
