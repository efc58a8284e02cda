import SchemaKit.Connection.Form
import SchemaKit.Connection.Span
import SchemaKit.Connection.SslMode
import SchemaKit.Connection.Url
import SchemaKit.Text.Quoted

/-!
# Connection settings

How to reach a database server.  `Settings.ofUrl` reads settings from a connection URL, in which any
part may be missing, `Settings.ofLookup` reads them from variables, and `Settings.url` writes a URL
with everything escaped that could be taken for a delimiter.  `Settings.debugText` shows settings
without the password.
-/

namespace SchemaKit.Connection

/-- How to reach a database server.  An empty password is none; the timeout is in nanoseconds. -/
structure Settings where
  host : String := "localhost"
  port : UInt16 := 5432
  database : String := "postgres"
  user : String := "postgres"
  password : String := ""
  sslmode : Option String := none
  maxConnections : UInt32 := 10
  acquireTimeout : Nat := 30000000000
deriving DecidableEq

/-- Why settings cannot be read or used. -/
inductive SettingsError
  | invalidUrl (why : UrlFault)
  | unsupportedScheme (scheme : String)
  | invalidPort (text : String)
  | invalidSslMode (text : String)
deriving DecidableEq

def SettingsError.message : SettingsError → String
  | .invalidUrl why => "Invalid database URL: " ++ why.message
  | .unsupportedScheme scheme => "Unsupported database URL scheme: " ++ scheme
  | .invalidPort text => "Invalid port " ++ Text.quote text ++ " in DB_PORT/PGPORT"
  | .invalidSslMode text => "Invalid sslmode: " ++ text

/-- The name of a kind of error. -/
def SettingsError.kind : SettingsError → String
  | .invalidUrl _ => "InvalidUrl"
  | .unsupportedScheme _ => "UnsupportedScheme"
  | .invalidPort _ => "InvalidPort"
  | .invalidSslMode _ => "InvalidSslMode"

namespace Settings

/-! ### From a URL -/

def schemes : List String :=
  ["postgres", "postgresql", "postgresql+asyncpg"]

/-- The scheme of a URL and what follows its slashes. -/
def splitScheme? : List Char → Option (List Char × List Char)
  | ':' :: '/' :: '/' :: rest => some ([], rest)
  | [] => none
  | c :: cs => (splitScheme? cs).map fun r => (c :: r.1, r.2)

/-- A part that is missing when it is empty. -/
def part (cs : List Char) : Option (List Char) :=
  if cs.isEmpty then none else some cs

/-- The settings that the parts of a URL name, with the usual ones for those that are missing. -/
def ofParts (u : Url) : Settings :=
  let usual : Settings := {}
  { usual with
    host := ((part u.host).map String.ofList).getD usual.host
    port := u.port.getD usual.port
    database := ((part (u.path.dropWhile (· = '/'))).map Percent.decode).getD usual.database
    user := ((part u.user).map Percent.decode).getD usual.user
    password := (u.password.map Percent.decode).getD usual.password
    sslmode := u.query.bind fun q => Form.get? q "sslmode" }

def ofUrl (url : String) : Except SettingsError Settings :=
  match splitScheme? url.toList with
  | none => .error (.invalidUrl .noBase)
  | some (scheme, rest) =>
    if schemes.contains (String.ofList scheme) then
      ((Url.parse rest).map ofParts).mapError .invalidUrl
    else .error (.unsupportedScheme (String.ofList scheme))

/-! ### From variables -/

/-- A port in decimal digits, perhaps with a plus sign in front. -/
def port? (text : String) : Option UInt16 :=
  let digits := match text.toList with
    | '+' :: rest => rest
    | cs => cs
  let n := Nat.ofDigitChars 10 digits 0
  if digits.isEmpty || !digits.all Char.isDigit || 65535 < n then none else some n.toUInt16

/-- The first of some variables that is set to anything but the empty text. -/
def setting? (lookup : String → Option String) (names : List String) : Option String :=
  names.findSome? fun name => (lookup name).filter (· ≠ "")

/-- Reads settings from variables: a whole URL if there is one, and otherwise each setting from the
first of its variables that is set. -/
def ofLookup (lookup : String → Option String) : Except SettingsError Settings :=
  let var := setting? lookup
  let usual : Settings := {}
  match var ["DATABASE_URL"] with
  | some url => ofUrl url
  | none =>
    let settings (port : UInt16) : Settings :=
      { usual with
        port
        host := (var ["DB_HOST", "PGHOST"]).getD usual.host
        database := (var ["DB_NAME", "PGDATABASE"]).getD usual.database
        user := (var ["DB_USER", "PGUSER"]).getD usual.user
        password := (var ["DB_PASSWORD", "PGPASSWORD"]).getD usual.password
        sslmode := var ["DB_SSLMODE", "PGSSLMODE"] }
    -- a port that cannot be read is refused, and the usual one is not taken for it
    match var ["DB_PORT", "PGPORT"] with
    | none => .ok (settings usual.port)
    | some text =>
      match port? text with
      | some port => .ok (settings port)
      | none => .error (.invalidPort text)

/-! ### Written out -/

/-- The user, and the password if there is one, escaped. -/
def credentials (s : Settings) : String :=
  if s.password = "" then Percent.encode s.user
  else Percent.encode s.user ++ ":" ++ Percent.encode s.password

/-- The settings as a URL.  The limits of the pool are not part of it. -/
def url (s : Settings) : String :=
  "postgres://" ++ s.credentials ++ "@" ++ s.host ++ ":" ++ toString s.port.toNat ++ "/" ++
    Percent.encode s.database ++
    match s.sslmode with
    | some mode => "?sslmode=" ++ mode
    | none => ""

/-- The settings for the eye, without the password. -/
def debugText (s : Settings) : String :=
  "PgConfig \x7b host: " ++ Text.quote s.host ++ ", port: " ++ toString s.port.toNat ++
    ", database: " ++ Text.quote s.database ++ ", user: " ++ Text.quote s.user ++
    ", password: " ++ Text.quote (if s.password = "" then "" else "<redacted>") ++
    ", sslmode: " ++
    (match s.sslmode with
      | some mode => "Some(" ++ Text.quote mode ++ ")"
      | none => "None") ++
    ", max_connections: " ++ toString s.maxConnections.toNat ++
    ", acquire_timeout: " ++ Span.text s.acquireTimeout ++ " \x7d"

/-- The TLS mode that the settings name. -/
def mode (s : Settings) : Except SettingsError SslMode :=
  match s.sslmode with
  | none => .ok .standard
  | some text =>
    match SslMode.ofName? text with
    | some mode => .ok mode
    | none => .error (.invalidSslMode text)

end Settings

end SchemaKit.Connection
