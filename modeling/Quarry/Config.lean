import Quarry.ConnectionUrl
import Quarry.Page

/-!
# Configuration

The settings of the repositories, read once from named variables and checked before anything uses
them: which store to use, where the database is, how many connections to open, and how large a page
is unless a caller says so and at most. Reading reports the first setting at fault in this order.
-/

namespace Quarry

/-- The stores that aggregates can be kept in. -/
inductive Backend where
  | memory
  | document
  | postgres
deriving DecidableEq, Repr

/-- A setting that a `Config` can lack or have wrong. -/
inductive Setting where
  | backend
  | databaseUrl
  | maxConnections
  | defaultPageSize
  | maxPageSize
deriving DecidableEq, Repr

/-- The name of the variable that holds a setting. -/
def Setting.variable : Setting → String
  | .backend => "REPOKIT_BACKEND"
  | .databaseUrl => "DATABASE_URL"
  | .maxConnections => "REPOKIT_MAX_CONNECTIONS"
  | .defaultPageSize => "REPOKIT_DEFAULT_PAGE_SIZE"
  | .maxPageSize => "REPOKIT_MAX_PAGE_SIZE"

/-- What is wrong with the value of a `Setting`. -/
inductive SettingFault where
  | unknownBackend (text : String)
  | notANumber (text : String) (cause : Text.UnsignedError)
  | zero
  /-- Pages would be larger by default than they may be. -/
  | exceedsMaxPageSize (default max : UInt32)
  /-- The address of the database makes no sense. -/
  | address (cause : ConnectionUrl.Error)

/-- The text of a `SettingFault`. -/
def SettingFault.message : SettingFault → String
  | .unknownBackend text => s!"unknown backend `{text}`"
  | .notANumber text cause => s!"`{text}`: " ++ cause.message
  | .zero => "must be greater than zero"
  | .exceedsMaxPageSize default max =>
    toString default.toNat ++ " exceeds " ++ Setting.maxPageSize.variable ++ " (" ++
      toString max.toNat ++ ")"
  | .address cause => cause.message

/-- Why `Config.read` gives no configuration. -/
inductive ConfigError where
  /-- The chosen store needs a setting that is not there. -/
  | missing (setting : Setting)
  /-- A setting has a value that it cannot have. -/
  | invalid (setting : Setting) (fault : SettingFault)

/-- The text of a `ConfigError`. -/
def ConfigError.message : ConfigError → String
  | .missing setting =>
    setting.variable ++ " is required when " ++ Setting.backend.variable ++ "=postgres"
  | .invalid setting fault => "invalid " ++ setting.variable ++ ": " ++ fault.message

instance : Reported ConfigError where
  report
    | e@(.missing _) => ⟨"Missing", e.message⟩
    | e@(.invalid _ _) => ⟨"Invalid", e.message⟩

/-- Reads the name of a store from `s`, in any case and between blanks. -/
def Backend.read (s : String) : Except ConfigError Backend :=
  let word := Text.asciiLower (Text.trim s)
  if word = "memory" ∨ word = "in-memory" then .ok .memory
  else if word = "document" ∨ word = "json" then .ok .document
  else if word = "postgres" ∨ word = "postgresql" then .ok .postgres
  else .error (.invalid .backend (.unknownBackend word))

/-- The settings of the repositories. Pages have `defaultPageSize` items unless a caller asks for
another number, and no more than `maxPageSize`. -/
structure Config where
  backend : Backend
  databaseUrl : Option String
  maxConnections : UInt32
  /-- The size of a page unless a caller asks for another one. -/
  defaultPageSize : UInt32
  maxPageSize : UInt32
deriving DecidableEq

namespace Config

/-- The settings that hold where no variable says otherwise. -/
def default : Config where
  backend := .memory
  databaseUrl := none
  maxConnections := 5
  defaultPageSize := 50
  maxPageSize := 1000

/-- A way to look up variables by their names; `none` if there is no such variable. -/
abbrev Variables := String → Option String

/-- The store that `vars` choose, in memory if they choose none. -/
def readBackend (vars : Variables) : Except ConfigError Backend :=
  match vars Setting.backend.variable with
  | some text => Backend.read text
  | none => .ok default.backend

/-- The address of the database in `vars`; a blank one counts as none. -/
def readDatabaseUrl (vars : Variables) : Option String :=
  (vars Setting.databaseUrl.variable).filter fun url => !Text.isBlankText url

/-- The number from one on that `vars` have for `setting`, or `otherwise` if they have none. -/
def readPositive (vars : Variables) (setting : Setting) (otherwise : UInt32) :
    Except ConfigError UInt32 :=
  match vars setting.variable with
  | none => .ok otherwise
  | some text =>
    match Text.readUnsigned 32 (Text.trim text) with
    | .error e => .error (.invalid setting (.notANumber text e))
    | .ok 0 => .error (.invalid setting .zero)
    | .ok n => .ok (UInt32.ofNat n)

/-- The store `postgres` needs a `url`. -/
def checkDatabase (backend : Backend) (url : Option String) : Except ConfigError Unit :=
  if backend = .postgres ∧ url.isNone then .error (.missing .databaseUrl) else .ok ()

/-- The default size of a page has to be allowed: it is at most `maxPageSize`. -/
def checkPageSizes (c : Config) : Except ConfigError Unit :=
  if c.maxPageSize < c.defaultPageSize then
    .error (.invalid .defaultPageSize (.exceedsMaxPageSize c.defaultPageSize c.maxPageSize))
  else .ok ()

/-- Reads the settings from `vars`. The first fault in the order of the fields is reported, and that
of the sizes of pages at last. -/
def read (vars : Variables) : Except ConfigError Config := do
  let backend ← readBackend vars
  let databaseUrl := readDatabaseUrl vars
  checkDatabase backend databaseUrl
  let maxConnections ← readPositive vars .maxConnections default.maxConnections
  let defaultPageSize ← readPositive vars .defaultPageSize default.defaultPageSize
  let maxPageSize ← readPositive vars .maxPageSize default.maxPageSize
  let config : Config := ⟨backend, databaseUrl, maxConnections, defaultPageSize, maxPageSize⟩
  checkPageSizes config
  .ok config

/-- The page that a caller asks for. The first page is meant without an `index` and
`defaultPageSize` without a `size`, which is cut down to `maxPageSize`. -/
def page (c : Config) (index size : Option Int64) : Except ArgumentError Page :=
  let wanted := size.getD (Int64.ofNat c.defaultPageSize.toNat)
  Page.ofInts (index.getD 0) (min wanted (Int64.ofNat c.maxPageSize.toNat))

/-- How connections to the database are opened (`Config.connectionPlan`). -/
structure ConnectionPlan where
  maxConnections : UInt32
  /-- How many seconds to wait for a connection. -/
  acquireSeconds : Nat
deriving DecidableEq, Repr

/-- The connections that `c` allows. None is opened before it is needed. -/
def connectionPlan (c : Config) : Except ConfigError ConnectionPlan :=
  match c.databaseUrl with
  | none => .error (.missing .databaseUrl)
  | some url =>
    match ConnectionUrl.check url with
    | .ok () => .ok ⟨c.maxConnections, 5⟩
    | .error e => .error (.invalid .databaseUrl (.address e))

end Config

end Quarry
