/-
  The settings of a run and where they come from.

  A setting has a name and a name in the environment. Its value is taken from
  the first of four sources that has one: an override under either name, the
  environment, the settings file (in both, in any case, under the name in the
  environment and failing that under the other), and the default. A value that
  is refused is reported under the key that it came in by; all refused values
  are reported together, in the order of the settings.

  * `Setting` holds the two names; `Setting.all` lists them;
  * `Sources.find?` is the value of a setting with its key;
  * `Settings.load` reads and checks all of them;
  * `Settings.ofCommand` and `Settings.ofFixture` are the two ways in which
    sources are put together.
-/
import RateIsolation.Identity
import RateIsolation.Settings.EnvFile
import RateIsolation.Settings.Value
import RateIsolation.Text.UpperCase

namespace RateIsolation

/-- A setting: its name, and the one in the environment. -/
structure Setting where
  name : String
  envName : String
deriving DecidableEq, Repr

namespace Setting

def apiBaseUrl : Setting := ⟨"api_base_url", "API_GW_BASE_URL"⟩
def authBaseUrl : Setting := ⟨"auth_base_url", "AUTH_GW_BASE_URL"⟩
def usersPath : Setting := ⟨"users_path", "USERS_PATH"⟩
def ordersPath : Setting := ⟨"orders_path", "ORDERS_PATH"⟩
def username : Setting := ⟨"username", "AUTH_USERNAME"⟩
def password : Setting := ⟨"password", "AUTH_PASSWORD"⟩
def usernameB : Setting := ⟨"username_b", "AUTH_USERNAME_B"⟩
def passwordB : Setting := ⟨"password_b", "AUTH_PASSWORD_B"⟩
def burstRequests : Setting := ⟨"burst_requests", "BURST_REQUESTS"⟩
def windowMs : Setting := ⟨"window_ms", "RATE_WINDOW_MS"⟩
def alignMarginMs : Setting := ⟨"align_margin_ms", "ALIGN_MARGIN_MS"⟩
def requestTimeout : Setting := ⟨"request_timeout", "REQUEST_TIMEOUT_SECONDS"⟩
def logLevel : Setting := ⟨"log_level", "LOG_LEVEL"⟩

/-- All settings in order. -/
def all : List Setting := [apiBaseUrl, authBaseUrl, usersPath, ordersPath, username, password,
  usernameB, passwordB, burstRequests, windowMs, alignMarginMs, requestTimeout, logLevel]

/-- The names, in lower case, under which a setting is looked up in the environment. -/
def envNames (s : Setting) : List String := [Text.toAsciiLower s.envName, s.name]

end Setting

/-- Where settings come from. -/
structure Sources where
  /-- Typed values under either name of a setting. -/
  overrides : Table String Json := []
  /-- The environment. -/
  environment : List (String × String) := []
  /-- The settings file; a name may be there without a value. -/
  file : List (String × Option String) := []

/-- A value and the key that it came in by. -/
structure Found where
  key : String
  value : Json

namespace Sources

/-- Values by name in lower case; the last of several counts. -/
def byLowerName {α : Type} (entries : List (String × α)) : Table String α :=
  Table.ofList (entries.map fun (k, v) => (Text.toAsciiLower k, v))

/-- The value of the first of some names that has one. -/
def lookup (names : List String) (table : Table String (Option String)) : Option String :=
  names.findSome? fun n => (Table.get? n table).join

/-- The override of a setting: under its name in the environment, else under the other. -/
def override? (s : Sources) (f : Setting) : Option Found :=
  match Table.get? f.envName s.overrides with
  | some v => some ⟨f.envName, v⟩
  | none => (Table.get? f.name s.overrides).map fun v => ⟨f.name, v⟩

/-- The text of a setting in the environment. -/
def environment? (s : Sources) (f : Setting) : Option String :=
  lookup f.envNames (byLowerName (s.environment.map fun (k, v) => (k, some v)))

/-- The text of a setting in the settings file. -/
def file? (s : Sources) (f : Setting) : Option String := lookup f.envNames (byLowerName s.file)

/-- The value of a setting and its key, unless all sources leave it to the default. -/
def find? (s : Sources) (f : Setting) : Option Found :=
  match s.override? f with
  | some found => some found
  | none =>
    match s.environment? f with
    | some text => some ⟨f.envName, .text text⟩
    | none => (s.file? f).map fun text => ⟨f.envName, .text text⟩

end Sources

/-- A value that was refused. -/
structure SettingFault where
  key : String
  value : Json
  fault : ValueFault

/-- A result, or all the faults on the way to it. -/
abbrev Checked (α : Type) := Except (List SettingFault) α

namespace Checked

/-- Apply a function to one more result; faults of both sides are kept. -/
def app {α β : Type} (f : Checked (α → β)) (x : Checked α) : Checked β :=
  match f, x with
  | .ok f, .ok a => .ok (f a)
  | .ok _, .error es => .error es
  | .error es, .ok _ => .error es
  | .error es, .error fs => .error (es ++ fs)

theorem app_eq_ok_iff {α β : Type} {f : Checked (α → β)} {x : Checked α} {b : β} :
    app f x = .ok b ↔ ∃ g a, f = .ok g ∧ x = .ok a ∧ g a = b := by
  cases f <;> cases x <;> simp [app]

end Checked

/-- The settings of a run. -/
structure Settings where
  apiBaseUrl : String
  authBaseUrl : String
  usersPath : String
  ordersPath : String
  username : String
  password : String
  usernameB : Option String
  passwordB : Option String
  burstRequests : Int
  windowMs : Int
  alignMarginMs : Int
  requestTimeout : Binary64
  logLevel : String
deriving DecidableEq, Repr

namespace Settings

/-! ## Rules of single settings -/

/-- A base address loses the slashes at its end. -/
def checkBaseUrl (s : String) : Except ValueFault String := .ok (stripSlashes s)

/-- A path starts with a slash. -/
def checkPath (s : String) : Except ValueFault String :=
  if s.toList.head? = some '/' then .ok s else .error (.rule "paths must start with '/'")

/-- A burst has room for a request below and one over the quota. -/
def checkBurst (n : Int) : Except ValueFault Int :=
  if n < 2 then .error (.rule "burst_requests must be at least 2") else .ok n

/-- A window is longer than nothing. -/
def checkWindow (n : Int) : Except ValueFault Int :=
  if n < 1 then .error (.rule "window_ms must be positive") else .ok n

/-- A margin is not negative. -/
def checkMargin (n : Int) : Except ValueFault Int :=
  if n < 0 then .error (.rule "align_margin_ms must not be negative") else .ok n

/-- A timeout is not at most zero. -/
def checkTimeout (x : Binary64) : Except ValueFault Binary64 :=
  if x.isAtMostZero then .error (.rule "request_timeout must be positive") else .ok x

/-- The names of log levels that a run may have. -/
def levelNames : List String := ["DEBUG", "INFO", "WARNING", "ERROR", "CRITICAL"]

/-- A log level is one of the known names in any case. -/
def checkLevel (s : String) : Except ValueFault String :=
  if levelNames.contains (Text.toUpper s) then .ok (Text.toAsciiLower s)
  else .error (.rule ("unknown log level: " ++ s))

/-! ## Loading -/

/-- The value of a setting, read and checked, or its default. -/
def value {α β : Type} (s : Sources) (f : Setting) (read : Json → Except ValueFault α)
    (check : α → Except ValueFault β) (default : β) : Checked β :=
  match s.find? f with
  | none => .ok default
  | some found =>
    match read found.value with
    | .error fault => .error [⟨found.key, found.value, fault⟩]
    | .ok a =>
      match check a with
      | .error fault => .error [⟨found.key, found.value, fault⟩]
      | .ok b => .ok b

/-- Read and check all settings. -/
def load (s : Sources) : Checked Settings :=
  let build : Checked (String → String → String → String → String → String → Option String →
      Option String → Int → Int → Int → Binary64 → String → Settings) := .ok Settings.mk
  let start := build
    |>.app (value s .apiBaseUrl Value.readText checkBaseUrl "http://localhost:8085")
    |>.app (value s .authBaseUrl Value.readText checkBaseUrl "http://localhost:8084")
    |>.app (value s .usersPath Value.readText checkPath "/api/v1/users")
    |>.app (value s .ordersPath Value.readText checkPath "/api/v1/orders")
  let callers := start
    |>.app (value s .username Value.readText .ok "user_all")
    |>.app (value s .password Value.readText .ok "123")
    |>.app (value s .usernameB Value.readOptionalText .ok none)
    |>.app (value s .passwordB Value.readOptionalText .ok none)
  callers
    |>.app (value s .burstRequests Value.readWhole checkBurst 8)
    |>.app (value s .windowMs Value.readWhole checkWindow 1000)
    |>.app (value s .alignMarginMs Value.readWhole checkMargin 30)
    |>.app (value s .requestTimeout Value.readNumber checkTimeout (.ofRatio false 10 1))
    |>.app (value s .logLevel Value.readText checkLevel "info")

/-- Settings of a command: an override without a value is none, and assignments of the settings
    file may refer to each other and to the environment. -/
def ofCommand (overrides : Table String Json) (environment : List (String × String))
    (assignments : List (String × Option String)) : Checked Settings :=
  load { overrides := overrides.filter fun e => !e.2.isNull, environment := environment,
         file := EnvFile.values environment assignments }

/-- Settings for an in-process gateway: its addresses unless others are given, and no file. -/
def ofFixture (overrides : Table String Json) (environment : List (String × String)) :
    Checked Settings :=
  let fixed : Table String Json := [("api_base_url", .text "http://gateway.test"),
    ("auth_base_url", .text "http://auth.test")]
  load { overrides := overrides.foldl (fun t e => Table.set e.1 e.2 t) fixed,
         environment := environment }

/-- The names that are cleared from the environment before a fixture is made. -/
def clearedNames : List String := ["API_GW_BASE_URL", "AUTH_GW_BASE_URL", "AUTH_USERNAME",
  "AUTH_PASSWORD", "AUTH_USERNAME_B", "AUTH_PASSWORD_B", "BURST_REQUESTS", "USERS_PATH",
  "ORDERS_PATH", "RATE_WINDOW_MS", "ALIGN_MARGIN_MS", "REQUEST_TIMEOUT_SECONDS", "LOG_LEVEL"]

/-! ## The second caller -/

/-- The user name of caller B: its own unless that is missing or empty. -/
def identityBUsername (s : Settings) : String :=
  match s.usernameB with
  | none => s.username
  | some name => if name.isEmpty then s.username else name

/-- The password of caller B: its own unless that is missing. -/
def identityBPassword (s : Settings) : String := s.passwordB.getD s.password

end Settings

end RateIsolation
