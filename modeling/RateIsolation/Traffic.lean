/-
  Calls of protected routes.

  * `GatewayClient.call` sends one request and gives its status, or none when
    no answer came;
  * `GatewayClient.burst` sends a number of requests one after another and
    counts their outcomes; `GatewayClient.probe` sends a single one and keeps
    its status.

  Each request gets an id of its own, ends in exactly one outcome, and that
  is counted in the metrics; nothing is sent twice.
-/
import RateIsolation.Identity
import RateIsolation.Session

namespace RateIsolation

/-- How the gateway is called. -/
structure GatewayClient where
  timeout : Seconds := .binary (.ofRatio false 10 1)
deriving Repr

namespace GatewayClient

/-- The logger of this module. -/
def logger : String := "ratecheck.gateway_client"

/-- The request for a route. -/
def request (g : GatewayClient) (c : Credential) (id : String) (url : Url) : Request where
  method := "GET"
  url := url
  authorization := authorizationFor url (some c.authorization)
  requestId := some id
  timeout := g.timeout
  body := none

variable {σ : Type}

/-- Build the request for a route, if its address and its header can be sent. -/
def build (g : GatewayClient) (t : Target) (c : Credential) (id : String) : Except Fault Request :=
  match Url.resolve t.url with
  | .error f => .error (.url f)
  | .ok url =>
    match headerFault? c.authorization with
    | some f => .error (.header f)
    | none => .ok (g.request c id url)

/-- The status of a reply, none when the transport failed. -/
def statusOf (t : Target) (id : String) : Reply → Harness σ (Option Int)
  | .ok r => pure (some r.status)
  | .error (.transport kind message) => do
    Harness.log logger .warning "Gateway request failed"
      [("target", .text t.name), ("request_id", .text id), ("error_type", .text kind.name),
        ("error", .text message)]
    return none
  | .error other => throw (.send other)

/-- Send one request. -/
def call (w : World σ) (g : GatewayClient) (t : Target) (c : Credential) :
    Harness σ (Option Int) := do
  let id ← Harness.newId w
  let request ← Harness.ofExcept (fun f => f) (g.build t c id)
  statusOf t id (← Harness.send w request)

/-- Send one request and count its outcome. -/
def counted (w : World σ) (g : GatewayClient) (t : Target) (c : Credential) :
    Harness σ (Option Int) := do
  let status ← call w g t c
  Harness.record (.request t.name c.name (Outcome.ofStatus status).name)
  return status

/-- Send a number of requests one after another. -/
def repeated (w : World σ) (g : GatewayClient) (t : Target) (c : Credential) :
    Nat → Harness σ (List Outcome)
  | 0 => pure []
  | n + 1 => do
    let status ← counted w g t c
    let rest ← repeated w g t c n
    return .ofStatus status :: rest

/-- Send a burst and count its outcomes. -/
def burst (w : World σ) (g : GatewayClient) (t : Target) (c : Credential) (count : Int) :
    Harness σ Tally := do
  if count < 1 then throw (.harness (ParameterFault.burstTooSmall count).error)
  let result := Tally.ofOutcomes (← repeated w g t c count.toNat)
  Harness.log logger .info "Burst complete"
    ([("target", .text t.name), ("identity", .text c.name), ("count", .int count)] ++ result.fields)
  return result

/-- Send a single request and keep its status. -/
def probe (w : World σ) (g : GatewayClient) (t : Target) (c : Credential) : Harness σ Probe := do
  let status ← counted w g t c
  Harness.log logger .info "Probe complete"
    [("target", .text t.name), ("identity", .text c.name), ("status_code", .ofOption .int status)]
  return { target := t.name, status := status }

end GatewayClient

end RateIsolation
