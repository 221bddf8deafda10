import DataAccess.Text.Digits
import DataAccess.Text.Escaped
import DataAccess.Text.Percent
import DataAccess.Url.Basic

/-!
# `DataAccess.Source.Options`: options in URLs of databases

What a URL says about how a database is opened, beyond its backend: its
file or its user, and options in its query. Every option is checked,
and the first one that is wrong counts.

* `Sqlite.Options.read`: the options of a SQLite database.
* `Mysql.checkOptions`: the options of a MySQL database.
* `OptionFault`: what can be wrong with them.
-/

set_option autoImplicit false

namespace DataAccess

/-- What is wrong with an option. -/
inductive OptionFault where
  /-- The option cannot have this value. -/
  | unknownValue (option value : String)
  /-- No option has this name. -/
  | unknownOption (name : String)
  /-- A part of the URL is no text once it is decoded. -/
  | notText (error : Text.Utf8.Error)
  /-- A number cannot be read. -/
  | notNumber (flaw : Text.NumberFlaw)
  /-- A fault of a value that is read by itself. -/
  | within (fault : OptionFault)
  deriving DecidableEq, Repr

/-- The wording of a fault of an option. -/
def OptionFault.message : OptionFault → String
  | .unknownValue option value =>
    s!"error with configuration: unknown value {Text.escaped value} for \x60{option}\x60"
  | .unknownOption name =>
    s!"error with configuration: unknown query parameter \x60{name}\x60 while parsing connection URL"
  | .notText e => s!"error with configuration: {e.message}"
  | .notNumber flaw => s!"error with configuration: {flaw.message}"
  | .within fault => s!"error with configuration: {fault.message}"

/-- Percent-encoded text, decoded. -/
def decodedOption (s : String) : Except OptionFault String :=
  match Text.Percent.decode s with
  | .ok text => .ok text
  | .error e => .error (.notText e)

namespace Sqlite

/-- Where a SQLite database is. -/
structure Options where
  /-- The name of its file. -/
  file : String
  /-- It is kept in memory. -/
  inMemory : Bool
  /-- The name of the file system it is opened through, if one is
  named. -/
  fileSystem : Option String := none
  deriving DecidableEq, Repr

/-- The file systems that a SQLite database can be opened through. -/
def fileSystems : List String :=
  ["unix", "unix-none", "unix-dotfile", "unix-excl", "memdb"]

/-- The file system that is named and that there is none of. -/
def Options.missingFileSystem? (o : Options) : Option String :=
  o.fileSystem.filter fun name => !fileSystems.contains name

/-- The text after any number of copies of `head` at its start. -/
def dropCopies (head : List Char) : Nat → List Char → List Char
  | 0, cs => cs
  | n + 1, cs => if head.isPrefixOf cs then dropCopies head n (cs.drop head.length) else cs

/-- The text of a URL after its scheme, in either of its forms. -/
def afterScheme (url : String) : List Char :=
  let cs := url.toList
  let cs := dropCopies "sqlite://".toList cs.length cs
  dropCopies "sqlite:".toList cs.length cs

/-- The options with one more of them. -/
def Options.withOption (o : Options) (name value : String) : Except OptionFault Options :=
  let oneOf (values : List String) : Except OptionFault Options :=
    if values.contains value then .ok o else .error (.unknownValue name value)
  match name with
  | "mode" =>
    if value = "memory" then .ok { o with inMemory := true } else oneOf ["ro", "rw", "rwc"]
  | "cache" => oneOf ["private", "shared"]
  | "immutable" => oneOf ["true", "1", "false", "0"]
  | "vfs" => .ok { o with fileSystem := some value }
  | _ => .error (.unknownOption name)

/-- The options in the URL of a SQLite database. -/
def Options.read (url : String) : Except OptionFault Options := do
  let cs := afterScheme url
  let file := String.ofList (cs.takeWhile (· != '?'))
  let query := String.ofList ((cs.dropWhile (· != '?')).drop 1)
  let start : Options ←
    if file = ":memory:" then pure { file := file, inMemory := true }
    else do pure { file := ← decodedOption file, inMemory := false }
  (Text.Percent.pairs query).foldlM (fun o option => o.withOption option.1 option.2) start

end Sqlite

namespace Mysql

/-- The values of the option for encrypted connections. -/
def encryptionModes : List String :=
  ["disabled", "preferred", "required", "verify_ca", "verify_identity"]

/-- Checks an option of a MySQL database. Unknown options are allowed. -/
def checkOption (name value : String) : Except OptionFault Unit :=
  if name = "ssl-mode" ∨ name = "sslmode" then
    if encryptionModes.contains (Text.asciiLower value) then .ok ()
    else .error (.within (.unknownValue "ssl_mode" value))
  else if name = "statement-cache-capacity" then
    match Text.readNat (UInt64.size - 1) value with
    | .ok _ => .ok ()
    | .error flaw => .error (.notNumber flaw)
  else .ok ()

/-- Checks the user and the options in the URL of a MySQL database. -/
def checkOptions (url : Url) : Except OptionFault Unit := do
  let _ ← decodedOption url.username
  let _ ← decodedOption (url.password.getD "")
  (Text.Percent.pairs (url.query.getD "")).forM fun option =>
    checkOption option.1 option.2

end Mysql

end DataAccess
