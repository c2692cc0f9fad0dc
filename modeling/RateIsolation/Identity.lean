/-
  Callers of the gateway, their credentials, and the routes they call.

  * `Identity` logs in, `Credential` is the bearer token that it gets; both
    go by a label if they have one, else by their user name;
  * `Target` is a protected route: a base address and a path appended to it.

  The descriptions leave out the password and the token.
-/
import RateIsolation.Describe
import RateIsolation.Outcome

namespace RateIsolation

/-- The label, or the user name where the label is empty. -/
def displayName (label username : String) : String := if label.isEmpty then username else label

/-- A caller that can log in. -/
structure Identity where
  username : String
  password : String
  label : String := ""
deriving DecidableEq, Repr

namespace Identity

/-- What the caller goes by. -/
def name (i : Identity) : String := displayName i.label i.username

/-- A description without the password. -/
def describe (i : Identity) : String :=
  Describe.fields "Identity" [("username", Text.quoted i.username), ("label", Text.quoted i.label)]

end Identity

/-- The bearer token of a caller. -/
structure Credential where
  username : String
  token : String
  label : String := ""
deriving DecidableEq, Repr

namespace Credential

/-- What the caller goes by. -/
def name (c : Credential) : String := displayName c.label c.username

/-- The value of the authorization header. -/
def authorization (c : Credential) : String := "Bearer " ++ c.token

/-- A description without the token. -/
def describe (c : Credential) : String :=
  Describe.fields "Credential" [("username", Text.quoted c.username), ("label", Text.quoted c.label)]

end Credential

/-- The characters without the slashes at the end. -/
def dropTrailingSlashes (cs : List Char) : List Char :=
  (cs.reverse.dropWhile (· == '/')).reverse

/-- A text without the slashes at its end. -/
def stripSlashes (s : String) : String := String.ofList (dropTrailingSlashes s.toList)

/-- A protected route. -/
structure Target where
  name : String
  baseUrl : String
  path : String
deriving DecidableEq, Repr

namespace Target

/-- The address of the route: the path follows the base without its trailing slashes. -/
def url (t : Target) : String := stripSlashes t.baseUrl ++ t.path

/-- A description of the route. -/
def describe (t : Target) : String :=
  Describe.fields "Target" [("name", Text.quoted t.name), ("base_url", Text.quoted t.baseUrl),
    ("path", Text.quoted t.path)]

end Target

/-- The status of one request on its own; none if no answer came. -/
structure Probe where
  target : String
  status : Option Int
deriving DecidableEq, Repr

namespace Probe

/-- The class of the answer. -/
def outcome (p : Probe) : Outcome := .ofStatus p.status

/-- A description of the probe. -/
def describe (p : Probe) : String :=
  Describe.fields "ProbeResult" [("target", Text.quoted p.target),
    ("status", Describe.option Describe.int p.status)]

end Probe

/-- A description of the counts. -/
def Tally.describe (t : Tally) : String :=
  Describe.fields "BurstResult" [("allowed", Describe.int t.allowed),
    ("throttled", Describe.int t.throttled), ("other", Describe.int t.other)]

end RateIsolation
