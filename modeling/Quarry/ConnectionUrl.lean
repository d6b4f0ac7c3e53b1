import Quarry.ConnectionUrl.Path
import Quarry.DomainName
import Quarry.IpAddress
import Quarry.Number
import Quarry.Text.Blank
import Quarry.Text.Percent
import Quarry.Text.Quoted
import Quarry.Text.Search

/-!
# Connection URLs

The address of a database is a URL: a scheme, and usually an authority with user, host and port, a
path that names the database, and a query with further options. Which scheme it is does not matter,
except that the schemes of the web have rules of their own for hosts. Nothing is connected to here;
`ConnectionUrl.check` only finds out whether a text can be such an address, going through it from
left to right, and then through its decoded parts and the options in their order.
-/

namespace Quarry.ConnectionUrl

open Quarry.Text Quarry.IpAddress

/-! ## Faults -/

/-- Why a text is not a URL. -/
inductive UrlError where
  | relativeWithoutBase
  | emptyHost
  | invalidPort
  | invalidIpv4
  | invalidIpv6
  | invalidDomainCharacter
  | invalidDomainName
deriving DecidableEq, Repr

/-- The text of a `UrlError`. -/
def UrlError.message : UrlError → String
  | .relativeWithoutBase => "relative URL without a base"
  | .emptyHost => "empty host"
  | .invalidPort => "invalid port number"
  | .invalidIpv4 => "invalid IPv4 address"
  | .invalidIpv6 => "invalid IPv6 address"
  | .invalidDomainCharacter => "invalid domain character"
  | .invalidDomainName => "invalid international domain name"

/-- Why a text is not the address of a database. -/
inductive Error where
  | url (cause : UrlError)
  | encoding (cause : Utf8Error)
  | encryptionMode (value : String)
  | number (cause : UnsignedError)
  | ipAddress
deriving DecidableEq, Repr

/-- The text of an `Error`. -/
def Error.message (e : Error) : String :=
  let detail := match e with
    | .url cause => cause.message
    | .encoding cause => cause.message
    | .encryptionMode value =>
      "error with configuration: unknown value " ++ quote value ++ " for `ssl_mode`"
    | .number cause => cause.message
    | .ipAddress => "invalid IP address syntax"
  "error with configuration: " ++ detail

/-! ## Hosts -/

/-- A host in brackets has to be an IPv6 address; `cs` is what stands behind the first bracket. -/
def checkBracketed (cs : List Char) : Except UrlError Unit :=
  if cs.getLast? = some ']' ∧ isIpv6 cs.tail.dropLast then .ok () else .error .invalidIpv6

/-- No host can have the character `c`. -/
def isForbiddenInHost (c : Char) : Bool :=
  c = '\x00' || c = ' ' || c = '#' || c = '/' || c = ':' || c = '<' || c = '>' || c = '?' ||
    c = '@' || c = '[' || c = '\\' || c = ']' || c = '^' || c = '|'

/-- Checks the host `cs` of a scheme of the web or of a file: an address, or a domain name that is
not taken for one. -/
def checkDomain (cs : List Char) : Except UrlError Unit :=
  if cs.head? = some '[' then checkBracketed cs
  else
    match DomainName.ofChars? (percentText cs).1.toList with
    | none => .error .invalidDomainName
    | some domain =>
      if domain.isEmpty then .error .emptyHost
      else if endsInNumber domain.labels ∧ ¬ isLiberalIpv4 domain.labels then .error .invalidIpv4
      else .ok ()

/-- Checks the host `cs` of any other scheme. -/
def checkOtherHost (cs : List Char) : Except UrlError Unit :=
  if cs.head? = some '[' then checkBracketed cs
  else if cs.any isForbiddenInHost then .error .invalidDomainCharacter
  else .ok ()

/-! ## Splitting -/

/-- What kind of scheme a URL has. -/
inductive SchemeKind where
  | web
  | file
  | other
deriving DecidableEq, Repr

/-- The kind of `scheme`. -/
def schemeKind (scheme : String) : SchemeKind :=
  if ["http", "https", "ws", "wss", "ftp"].contains scheme then .web
  else if scheme = "file" then .file
  else .other

/-- A scheme can have the character `c` after its first letter. -/
def isSchemePart (c : Char) : Bool :=
  c.isAlphanum || c = '+' || c = '-' || c = '.'

/-- Splits `cs` into the scheme, in small letters, and the text after its colon. A scheme begins
with a letter. -/
def splitScheme? (cs : List Char) : Option (String × List Char) :=
  match cs with
  | c :: _ =>
    if c.isAlpha then
      match cs.dropWhile isSchemePart with
      | ':' :: rest => some (asciiLower (String.ofList (cs.takeWhile isSchemePart)), rest)
      | _ => none
    else none
  | [] => none

/-- The parts of a URL that `check` looks at. -/
structure Parts where
  host : List Char
  user : List Char
  password : List Char
  path : List Char
  query : List Char

/-- The character `c` is a slash of either kind. -/
def isSlash (c : Char) : Bool :=
  c = '/' || c = '\\'

/-- The character `c` ends the authority in schemes of the kind `kind`. -/
def endsAuthority (kind : SchemeKind) (c : Char) : Bool :=
  c = '/' || c = '?' || c = '#' || (kind != .other && c = '\\')

/-- Splits `authority` at its last `@`, if there is one, into the user information and the text
after it. -/
def splitUser? (authority : List Char) : Option (List Char × List Char) :=
  let after := (authority.reverse.takeWhile (· ≠ '@')).reverse
  if after.length = authority.length then none
  else some (authority.take (authority.length - after.length - 1), after)

/-- The host of an authority without user information, and the text after it. The flag says that the
place is within brackets, where a colon does not end the host. -/
def splitHost : Bool → List Char → List Char × List Char
  | _, [] => ([], [])
  | bracketed, c :: cs =>
    if c = ':' ∧ ¬ bracketed then ([], c :: cs)
    else
      let bracketed := if c = '[' then true else if c = ']' then false else bracketed
      let (host, rest) := splitHost bracketed cs
      (c :: host, rest)

/-- Checks a port, which is digits up to 65535 and may be missing, and gives the text behind it. A
backslash ends the port, and is the start of the path. -/
def checkPort : List Char → Except UrlError (List Char)
  | ':' :: cs =>
    match readDigits 16 0 (cs.takeWhile (· ≠ '\\')) with
    | .ok _ => .ok (cs.dropWhile (· ≠ '\\'))
    | .error _ => .error .invalidPort
  | _ => .ok []

/-- The path and the query of the text `cs` after the authority. Unless `isOpaque`, the slash at the
front is left away and dot segments are resolved; in schemes of the web and of files a backslash is
a slash. -/
def splitPath (kind : SchemeKind) (isOpaque : Bool) (cs : List Char) : List Char × List Char :=
  let cs := cs.takeWhile (· ≠ '#')
  let path := cs.takeWhile (· ≠ '?')
  let query := (cs.dropWhile (· ≠ '?')).drop 1
  if isOpaque then (path, query)
  else
    let path := if kind = .other then path else path.map fun c => if c = '\\' then '/' else c
    (resolvePath (if path.head? = some '/' then path.tail else path), query)

/-- Splits and checks the text `cs` after two slashes. -/
def splitAuthority (kind : SchemeKind) (cs : List Char) : Except UrlError Parts := do
  let authority := cs.takeWhile fun c => !endsAuthority kind c
  let rest := cs.dropWhile fun c => !endsAuthority kind c
  let info := splitUser? authority
  let hostPort := match info with
    | some (_, after) => after
    | none => authority
  if (info.any fun i => i.1 = []) ∧ hostPort = [] ∧ rest ≠ [] then throw .emptyHost
  let (host, port) := splitHost false hostPort
  if kind = .web ∧ host = [] then throw .emptyHost
  if kind = .other then checkOtherHost host else checkDomain host
  if host = [] ∧ port ≠ [] then throw .emptyHost
  let beyondPort ← checkPort port
  if host = [] ∧ (info.any fun i => i.1 ≠ [] && i.1 ≠ [':']) then throw .emptyHost
  let user := (info.map Prod.fst).getD []
  let (path, query) := splitPath kind false (beyondPort ++ rest)
  return ⟨host, user.takeWhile (· ≠ ':'), (user.dropWhile (· ≠ ':')).drop 1, path, query⟩

/-- The parts of a URL that has nothing but the path and the query in `cs`. -/
def ofPath (kind : SchemeKind) (isOpaque : Bool) (cs : List Char) : Parts :=
  let (path, query) := splitPath kind isOpaque cs
  ⟨[], [], [], path, query⟩

/-- Splits and checks the text `cs` after the scheme of files. After two slashes there is a host,
which is all of the text up to the path, unless that is a drive letter. -/
def splitFile (cs : List Char) : Except UrlError Parts :=
  match cs with
  | a :: b :: rest =>
    if isSlash a ∧ isSlash b then
      let host := rest.takeWhile fun c => !endsAuthority .file c
      if isDrive host then .ok (ofPath .file false rest)
      else if host = [] then .ok (ofPath .file false rest)
      else do
        checkDomain host
        return ofPath .file false (rest.dropWhile fun c => !endsAuthority .file c)
    else .ok (ofPath .file false cs)
  | cs => .ok (ofPath .file false cs)

/-- Splits `s` into the `Parts` that are looked at. Tabs and line ends are not part of it. -/
def split (s : String) : Except UrlError Parts :=
  let trimmed := (s.toList.dropWhile (·.toNat ≤ 0x20)).reverse.dropWhile (·.toNat ≤ 0x20)
  let cs := trimmed.reverse.filter fun c => c ≠ '\t' ∧ c ≠ '\n' ∧ c ≠ '\r'
  match splitScheme? cs with
  | none => .error .relativeWithoutBase
  | some (scheme, rest) =>
    match schemeKind scheme with
    | .web => splitAuthority .web (rest.dropWhile isSlash)
    | .file => splitFile rest
    | .other =>
      match rest with
      | '/' :: '/' :: rest => splitAuthority .other rest
      | rest => .ok (ofPath .other (rest.head? ≠ some '/') rest)

/-! ## Checking -/

/-- The encoded `part` has to be text once it is decoded. -/
def checkEncoding (part : List Char) : Except Error Unit :=
  match (percentText part).2 with
  | some fault => .error (.encoding fault)
  | none => .ok ()

/-- The text `host` is not a name but the path of a local socket, with its slashes encoded. -/
def isSocketPath (host : List Char) : Bool :=
  (percentText host).1.toList.head? = some '/'

/-- The values of the option for the mode of encryption. -/
def encryptionModes : List String :=
  ["disable", "allow", "prefer", "require", "verify-ca", "verify-full"]

/-- The `value` of an option has to be a number of `bits` bits. -/
def checkNumber (bits : Nat) (value : String) : Except Error Unit :=
  match readUnsigned bits value with
  | .ok _ => .ok ()
  | .error e => .error (.number e)

/-- The option `key` has to have a `value` that it can have. Unknown options are left alone. -/
def checkOption (key value : String) : Except Error Unit :=
  if key = "sslmode" ∨ key = "ssl-mode" then
    if encryptionModes.contains (asciiLower value) then .ok () else .error (.encryptionMode value)
  else if key = "statement-cache-capacity" then checkNumber 64 value
  else if key = "port" then checkNumber 16 value
  else if key = "hostaddr" then
    if isIpv4 value.toList ∨ isIpv6 value.toList then .ok () else .error .ipAddress
  else .ok ()

/-- The text of a key or value `cs` of a query, in which a plus sign is a space. -/
def queryText (cs : List Char) : String :=
  (percentText (cs.map fun c => if c = '+' then ' ' else c)).1

/-- The keys and values of `query`, which is split at `&` and each part at its first `=`. -/
def options (query : List Char) : List (String × String) :=
  ((splitOn '&' query).filter (· ≠ [])).map fun pair =>
    (queryText (pair.takeWhile (· ≠ '=')), queryText ((pair.dropWhile (· ≠ '=')).drop 1))

/-- Accepts the address `s` of a database, or says why it is none. -/
def check (s : String) : Except Error Unit := do
  let parts ← (split s).mapError .url
  if isSocketPath parts.host then checkEncoding parts.host
  checkEncoding parts.user
  checkEncoding parts.password
  checkEncoding (parts.path.dropWhile (· = '/'))
  (options parts.query).forM fun (key, value) => checkOption key value

end Quarry.ConnectionUrl
