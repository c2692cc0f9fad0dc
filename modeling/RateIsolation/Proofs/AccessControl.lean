/-
  Who may use the gateway, and what each message leaves of it.

  * `Incoming.LogsIn` and `Incoming.Calls` are the two kinds of messages that the
    server acts on, `Server.Deals` is what it makes of a message: a token is
    granted, a call is counted, or nothing changes (`Server.handle_deals`);
  * `Handled.Mints` and `Handled.Logs` tie a token and an entry of the log to the
    message that they come from, `Server.Traces` is what a history of messages
    leaves (`Server.traces_handleAll`);
  * `Server.access_control`: refused messages leave a server as it is, calls with an
    issued token are counted and logged once, and the log of a server is the list of
    its answers to calls.
-/
import RateIsolation.Proofs.Hosted
import RateIsolation.Proofs.Noninterference

namespace RateIsolation

/-! ## Messages -/

/-- A message that asks for a token with a user name and a password. -/
def Incoming.LogsIn (m : Incoming) (username password : String) : Prop :=
  Server.routeOf m.path = some .login ∧ m.method = "POST" ∧
    Server.readLogin m = .ok (username, password)

/-- A message that calls a resource, by the path that its quota is looked up by. -/
def Incoming.Calls (m : Incoming) (route : String) : Prop :=
  (∃ name, Server.routeOf m.path = some (.resource name)) ∧ m.method = "GET" ∧
    Server.quotaPath m = route

theorem Incoming.brings_iff_calls {m : Incoming} {token route : String} :
    m.brings token route = true ↔
      m.Calls route ∧ m.header? "authorization" = some ("Bearer " ++ token) := by
  rw [brings_iff, Calls, and_assoc, and_assoc]

theorem Incoming.Calls.not_logsIn {m : Incoming} {route username password : String}
    (h : m.Calls route) : ¬ m.LogsIn username password := by
  rintro ⟨hlogin, -⟩
  obtain ⟨⟨name, hresource⟩, -⟩ := h
  rw [hlogin] at hresource
  cases hresource

/-- A header brings one token. -/
theorem Incoming.brings_inj {m : Incoming} {token token' route route' : String}
    (h : m.brings token route = true) (h' : m.brings token' route' = true) :
    token = token' ∧ route = route' := by
  obtain ⟨⟨-, -, hroute⟩, hheader⟩ := brings_iff_calls.1 h
  obtain ⟨⟨-, -, hroute'⟩, hheader'⟩ := brings_iff_calls.1 h'
  refine ⟨?_, hroute.symm.trans hroute'⟩
  have hvalue : "Bearer " ++ token = "Bearer " ++ token' :=
    Option.some.inj (hheader.symm.trans hheader')
  have hchars := congrArg String.toList hvalue
  rw [String.toList_append, String.toList_append] at hchars
  exact String.toList_inj.1 (List.append_cancel_left hchars)

namespace Server

/-! ## One message -/

/-- The body of an answer that grants a token. -/
def grantBody (token : String) : List UInt8 :=
  utf8Bytes ((Json.record [("token", .text token)]).render Json.compact)

/-- What a server makes of a message under new ids: its answer, the number of the next id, and
    the server after it. -/
inductive Deals (newId : Nat → String) (next : Nat) (s : Server) (m : Incoming) (now : Int) :
    Response → Nat → Server → Prop
  /-- A user gets a token. -/
  | granted {username password : String} {response : Response} {next' : Nat}
    (h : m.LogsIn username password) (huser : Table.get? username s.users = some password)
    (hstatus : response.status = 200) (hbody : response.body = grantBody (newId next))
    (hnext : next < next') :
    Deals newId next s m now response next'
      { s with tokens := Table.set (newId next) username s.tokens }
  /-- The user is unknown, or the password another. -/
  | denied {username password : String} {response : Response} {next' : Nat}
    (h : m.LogsIn username password) (huser : Table.get? username s.users ≠ some password)
    (hstatus : response.status = 401) : Deals newId next s m now response next' s
  /-- The resource has no quota. -/
  | unlimited {route : String} {response : Response} {next' : Nat} (h : m.Calls route)
    (hroute : Table.has route s.quotas = false) (hstatus : response.status = 404) :
    Deals newId next s m now response next' s
  /-- The call of a limited route brings no issued token. -/
  | unauthorized {route : String} {response : Response} {next' : Nat} (h : m.Calls route)
    (hroute : Table.has route s.quotas = true)
    (htoken : ∀ token, m.brings token route = true → Table.has token s.tokens = false)
    (hstatus : response.status = 401) : Deals newId next s m now response next' s
  /-- The call is counted against its quota. -/
  | counted {token route : String} {quota : Int} {response : Response} {next' : Nat}
    (h : m.brings token route = true) (hquota : Table.get? route s.quotas = some quota)
    (htoken : Table.has token s.tokens = true)
    (hstatus : response.status =
      statusFor quota (Limiter.hit (s.counterKey token route now) s.counters).1) :
    Deals newId next s m now response next' (s.answered token route now quota)
  /-- The message is neither a login nor a call. -/
  | aside {response : Response} {next' : Nat}
    (hlogin : ∀ username password, ¬ m.LogsIn username password)
    (hcall : ∀ route, ¬ m.Calls route) : Deals newId next s m now response next' s

section Deals

variable {newId : Nat → String} {next : Nat} {s s' : Server} {m : Incoming} {now : Int}
  {response : Response} {next' : Nat}

/-- What a server makes of a message, as `handle` gives it. -/
def DealsWith (newId : Nat → String) (next : Nat) (s : Server) (m : Incoming) (now : Int) : Prop :=
  ∃ response notes next' s', s.handle newId next m now = (.ok (response, notes), next', s') ∧
    Deals newId next s m now response next' s'

/-- A message that is neither a login nor a call has an answer and no effect. -/
theorem dealsWith_aside {a : Answer} (h : s.answer m now (newId next) = (.ok a, s))
    (hlogin : ∀ username password, ¬ m.LogsIn username password)
    (hcall : ∀ route, ¬ m.Calls route) : DealsWith newId next s m now := by
  obtain ⟨response, next', hhandle, -⟩ := handle_of_ok h
  exact ⟨response, _, next', s, hhandle, .aside hlogin hcall⟩

theorem dealsWith_login (hroute : routeOf m.path = some .login) (hmethod : m.method = "POST") :
    DealsWith newId next s m now := by
  have hcall (route : String) : ¬ m.Calls route := by
    rintro ⟨⟨name, hname⟩, -⟩
    rw [hroute] at hname
    cases hname
  have hpost : m.method ≠ "HEAD" := by
    rw [hmethod]
    decide
  have hanswer := answer_eq_dispatch s hroute (by rw [hmethod]; rfl) now (newId next)
  cases hread : readLogin m with
  | error r =>
    rw [dispatch, hread] at hanswer
    refine dealsWith_aside hanswer ?_ hcall
    rintro username password ⟨-, -, h⟩
    rw [hread] at h
    cases h
  | ok fields =>
    obtain ⟨username, password⟩ := fields
    rw [dispatch, hread] at hanswer
    by_cases huser : Table.get? username s.users = some password
    · simp only [login, huser, ↓reduceIte] at hanswer
      obtain ⟨response, next', hhandle, hstatus, hbody, -, hnext⟩ := handle_of_answer hanswer hpost
      exact ⟨response, _, next', _, hhandle,
        .granted ⟨hroute, hmethod, hread⟩ huser hstatus hbody hnext⟩
    · simp only [login, huser, ↓reduceIte] at hanswer
      obtain ⟨response, next', hhandle, hstatus, -⟩ := handle_of_answer hanswer hpost
      exact ⟨response, _, next', s, hhandle,
        .denied ⟨hroute, hmethod, hread⟩ huser hstatus⟩

theorem dealsWith_resource {name : String} (hs : s.sharing = .none) (hw : s.window ≠ 0)
    (hroute : routeOf m.path = some (.resource name)) (hmethod : m.method = "GET") :
    DealsWith newId next s m now := by
  have hcalls : m.Calls (quotaPath m) := ⟨⟨name, hroute⟩, hmethod, rfl⟩
  have hget : m.method ≠ "HEAD" := by
    rw [hmethod]
    decide
  have hanswer := answer_resource s hroute hmethod now (newId next)
  -- the route is looked at before the token
  cases hquota : Table.get? (quotaPath m) s.quotas with
  | none =>
    have hnone : Table.has (quotaPath m) s.quotas = false := by rw [Table.has, hquota]; rfl
    have hresource : s.resource (quotaPath m) (m.header? "authorization") now =
        (.ok .notFound, s) := by
      simp only [resource, hnone, Bool.not_false, ↓reduceIte]
    rw [dispatch, hresource] at hanswer
    obtain ⟨response, next', hhandle, hstatus, -⟩ := handle_of_answer hanswer hget
    exact ⟨response, _, next', s, hhandle, .unlimited hcalls hnone hstatus⟩
  | some quota =>
    have hsome : Table.has (quotaPath m) s.quotas = true := by rw [Table.has, hquota]; rfl
    cases htoken : s.bearerToken (m.header? "authorization") with
    | none =>
      have hresource : s.resource (quotaPath m) (m.header? "authorization") now =
          (.ok .unauthorized, s) := by
        simp only [resource, hsome, Bool.not_true, Bool.false_eq_true, ↓reduceIte, htoken]
      rw [dispatch, hresource] at hanswer
      obtain ⟨response, next', hhandle, hstatus, -⟩ := handle_of_answer hanswer hget
      refine ⟨response, _, next', s, hhandle, .unauthorized hcalls hsome ?_ hstatus⟩
      intro token hbrings
      rw [← Bool.not_eq_true]
      intro hissued
      have hbearer := bearerToken_eq_some_iff.2 ⟨(Incoming.brings_iff_calls.1 hbrings).2, hissued⟩
      rw [htoken] at hbearer
      cases hbearer
    | some token =>
      obtain ⟨hheader, hissued⟩ := bearerToken_eq_some_iff.1 htoken
      have hbrings : m.brings token (quotaPath m) = true :=
        Incoming.brings_iff_calls.2 ⟨hcalls, hheader⟩
      obtain ⟨response, notes, next', hhandle, hstatus⟩ :=
        handle_of_brings newId next now hs hw hquota hbrings hissued
      exact ⟨response, notes, next', _, hhandle, .counted hbrings hquota hissued hstatus⟩

/-- **A server with windows deals with every message.** -/
theorem handle_deals (hs : s.sharing = .none) (hw : s.window ≠ 0) (newId : Nat → String)
    (next : Nat) (m : Incoming) (now : Int) : DealsWith newId next s m now := by
  -- the answer to a message that is none of a route and its method
  have haside (h : ∃ a, s.answer m now (newId next) = (.ok a, s))
      (hlogin : ¬ (routeOf m.path = some .login ∧ m.method = "POST"))
      (hresource : ¬ ((∃ name, routeOf m.path = some (.resource name)) ∧ m.method = "GET")) :
      DealsWith newId next s m now := by
    obtain ⟨a, ha⟩ := h
    exact dealsWith_aside ha (fun _ _ ⟨hroute, hmethod, _⟩ => hlogin ⟨hroute, hmethod⟩)
      fun _ ⟨hroute, hmethod, _⟩ => hresource ⟨hroute, hmethod⟩
  cases hroute : routeOf m.path with
  | none =>
    refine haside ?_ (by simp [hroute]) (by simp [hroute])
    rw [answer, hroute]
    dsimp only
    split <;> exact ⟨_, rfl⟩
  | some route =>
    cases hmethod : (methodsOf route).contains m.method with
    | false =>
      refine haside ⟨_, by simp only [answer, hroute, hmethod]; rfl⟩ ?_ ?_
      · rintro ⟨h, hpost⟩
        cases hroute.symm.trans h
        rw [hpost] at hmethod
        cases hmethod
      · rintro ⟨⟨name, h⟩, hget⟩
        cases hroute.symm.trans h
        rw [hget] at hmethod
        cases hmethod
    | true =>
      cases route with
      | documentation =>
        exact haside ⟨_, answer_eq_dispatch s hroute hmethod now (newId next)⟩
          (by simp [hroute]) (by simp [hroute])
      | login => exact dealsWith_login hroute (by simpa [methodsOf] using hmethod)
      | resource name => exact dealsWith_resource hs hw hroute (by simpa [methodsOf] using hmethod)

/-- Ids are only used up. -/
theorem le_next_handle (newId : Nat → String) (next : Nat) (s : Server) (m : Incoming) (now : Int) :
    next ≤ (s.handle newId next m now).2.1 := by
  cases hanswer : s.answer m now (newId next) with
  | mk result s' =>
    cases result with
    | error fault => simp only [handle, hanswer, Nat.le_refl]
    | ok a =>
      obtain ⟨response, next', hhandle, -, -, -, hnext⟩ := handle_of_ok hanswer
      rw [hhandle]
      exact Nat.le_of_add_right_le hnext

/-! ## Refused messages and counted calls -/

/-- What a call that is answered with a status leaves: it is counted once, it is logged once, and
    counters of windows before the previous one are gone. -/
structure Counts (s : Server) (token route : String) (now status : Int) (s' : Server) : Prop where
  logged : s'.log = s.log ++ [⟨token, route, status⟩]
  counted : Table.get? ⟨token, route, windowOf s.window now⟩ s'.counters =
    some ((Table.get? ⟨token, route, windowOf s.window now⟩ s.counters).getD 0 + 1)
  others : ∀ key, key ≠ ⟨token, route, windowOf s.window now⟩ →
    Table.get? key s'.counters =
      if windowOf s.window now - 1 ≤ key.window then Table.get? key s.counters else none
  rest : s' = { s with counters := s'.counters, log := s'.log }

theorem statusFor_eq (quota : Int) (count : Nat) :
    statusFor quota count = 200 ∨ statusFor quota count = 429 := by
  unfold statusFor
  split
  · exact Or.inl rfl
  · exact Or.inr rfl

theorem counts_answered (hs : s.sharing = .none) (token route : String) (now quota : Int) :
    s.Counts token route now
      (statusFor quota (Limiter.hit (s.counterKey token route now) s.counters).1)
      (s.answered token route now quota) := by
  have hkey : s.counterKey token route now = ⟨token, route, windowOf s.window now⟩ := by
    simp [counterKey, hs]
  refine ⟨rfl, ?_, fun key hne => ?_, rfl⟩
  · simp only [answered, count, hkey, Limiter.get?_hit, ↓reduceIte]
  · simp only [answered, count, hkey, Limiter.get?_hit, if_neg hne]

namespace Deals

variable {username password token route : String}

theorem of_denied (h : Deals newId next s m now response next' s') (hm : m.LogsIn username password)
    (huser : Table.get? username s.users ≠ some password) : response.status = 401 ∧ s' = s := by
  cases h with
  | granted h huser' =>
    cases (h.2.2.symm.trans hm.2.2 : Except.ok _ = Except.ok _)
    exact absurd huser' huser
  | denied _ _ hstatus => exact ⟨hstatus, rfl⟩
  | unlimited h => exact absurd hm h.not_logsIn
  | unauthorized h => exact absurd hm h.not_logsIn
  | counted h => exact absurd hm (Incoming.brings_iff_calls.1 h).1.not_logsIn
  | aside hlogin => exact absurd hm (hlogin _ _)

theorem of_unlimited (h : Deals newId next s m now response next' s') (hm : m.Calls route)
    (hroute : Table.has route s.quotas = false) : response.status = 404 ∧ s' = s := by
  cases h with
  | granted h => exact absurd h hm.not_logsIn
  | denied h => exact absurd h hm.not_logsIn
  | unlimited _ _ hstatus => exact ⟨hstatus, rfl⟩
  | unauthorized h hlimited =>
    rw [← h.2.2, hm.2.2, hroute] at hlimited
    cases hlimited
  | counted h hquota =>
    rw [← (Incoming.brings_iff_calls.1 h).1.2.2, hm.2.2] at hquota
    rw [Table.has, hquota] at hroute
    cases hroute
  | aside _ hcall => exact absurd hm (hcall _)

theorem of_unauthorized (h : Deals newId next s m now response next' s') (hm : m.Calls route)
    (hroute : Table.has route s.quotas = true)
    (htoken : ∀ token, m.brings token route = true → Table.has token s.tokens = false) :
    response.status = 401 ∧ s' = s := by
  cases h with
  | granted h => exact absurd h hm.not_logsIn
  | denied h => exact absurd h hm.not_logsIn
  | unlimited h hnone =>
    rw [← h.2.2, hm.2.2, hroute] at hnone
    cases hnone
  | unauthorized _ _ _ hstatus => exact ⟨hstatus, rfl⟩
  | @counted token route' _ _ _ h _ hissued =>
    obtain rfl : route' = route := (Incoming.brings_iff_calls.1 h).1.2.2.symm.trans hm.2.2
    rw [htoken token h] at hissued
    cases hissued
  | aside _ hcall => exact absurd hm (hcall _)

theorem of_brings (h : Deals newId next s m now response next' s') (hs : s.sharing = .none)
    (hm : m.brings token route = true) (hroute : Table.has route s.quotas = true)
    (htoken : Table.has token s.tokens = true) :
    (response.status = 200 ∨ response.status = 429) ∧
      s.Counts token route now response.status s' := by
  have hcalls := (Incoming.brings_iff_calls.1 hm).1
  cases h with
  | granted h => exact absurd h hcalls.not_logsIn
  | denied h => exact absurd h hcalls.not_logsIn
  | unlimited h hnone =>
    rw [← h.2.2, hcalls.2.2, hroute] at hnone
    cases hnone
  | @unauthorized route' _ _ h _ hnone =>
    obtain rfl : route' = route := h.2.2.symm.trans hcalls.2.2
    rw [hnone token hm] at htoken
    cases htoken
  | counted h _ _ hstatus =>
    obtain ⟨rfl, rfl⟩ := Incoming.brings_inj h hm
    rw [hstatus]
    exact ⟨statusFor_eq _ _, counts_answered hs _ _ _ _⟩
  | aside _ hcall => exact absurd hcalls (hcall _)

/-- Quota is spent, and the log written, for an issued token only. -/
theorem brings_of_spent (h : Deals newId next s m now response next' s')
    (hspent : s'.counters ≠ s.counters ∨ s'.log ≠ s.log) :
    ∃ token route, m.brings token route = true ∧ Table.has token s.tokens = true := by
  cases h with
  | counted h _ hissued => exact ⟨_, _, h, hissued⟩
  | _ => exact hspent.elim (absurd rfl) (absurd rfl)

end Deals

end Deals

end Server

/-! ## Histories -/

/-- Whether a message calls a resource. -/
def Incoming.isCall (m : Incoming) : Bool :=
  Server.isResource (Server.routeOf m.path) && m.method == "GET"

namespace Handled

/-- The message was a login of a user of the table, and its answer grants the token. -/
def Mints (h : Handled) (users : Table String String) (token user : String) : Prop :=
  ∃ password response notes, h.arrival.message.LogsIn user password ∧
    Table.get? user users = some password ∧ h.result = .ok (response, notes) ∧
    response.status = 200 ∧ response.body = Server.grantBody token

/-- The message was a call of a resource that was answered with status 200 or 429. -/
def isCounted (h : Handled) : Bool :=
  h.arrival.message.isCall && (h.status == some 200 || h.status == some 429)

/-- The entry of the log is the call that the message made with a token issued before it. -/
structure Logs (h : Handled) (c : ServedCall) : Prop where
  brings : h.arrival.message.brings c.token c.route = true
  issued : Table.has c.token h.before.tokens = true
  status : h.status = some c.status

end Handled

theorem Incoming.isCall_iff {m : Incoming} : m.isCall = true ↔ ∃ route, m.Calls route := by
  simp only [isCall, Bool.and_eq_true, beq_iff_eq, Server.isResource_iff, Calls]
  constructor
  · rintro ⟨hname, hmethod⟩
    exact ⟨_, hname, hmethod, rfl⟩
  · rintro ⟨route, hname, hmethod, -⟩
    exact ⟨hname, hmethod⟩

namespace Server

/-- What messages leave of a server: its configuration, the tokens that it had, and of each new
    token, entry of the log and counter where it comes from. -/
structure Traces (handled : List Handled) (s s' : Server) : Prop where
  users : s'.users = s.users
  quotas : s'.quotas = s.quotas
  window : s'.window = s.window
  sharing : s'.sharing = s.sharing
  issued : ∀ token user, Table.get? token s.tokens = some user →
    Table.get? token s'.tokens = some user
  minted : ∀ token user, Table.get? token s'.tokens = some user →
    Table.get? token s.tokens = some user ∨ ∃ h ∈ handled, h.Mints s.users token user
  logged : ∃ calls, s'.log = s.log ++ calls ∧
    List.Forall₂ Handled.Logs (handled.filter Handled.isCounted) calls
  spent : ∀ key n, Table.get? key s'.counters = some n →
    (∃ n', Table.get? key s.counters = some n') ∨ Table.has key.token s'.tokens = true

/-- Every issued token is an id that was used up. -/
def Numbered (newId : Nat → String) (next : Nat) (s : Server) : Prop :=
  ∀ token, Table.has token s.tokens = true → ∃ k < next, token = newId k

section Traces

variable {newId : Nat → String} {next next' : Nat} {s s₁ s₂ : Server} {a : Arrival}
  {handled handled' : List Handled} {response : Response} {notes : List LogNote}

theorem traces_nil (s : Server) : Traces [] s s where
  users := rfl
  quotas := rfl
  window := rfl
  sharing := rfl
  issued _ _ h := h
  minted _ _ h := Or.inl h
  logged := ⟨[], (List.append_nil _).symm, .nil⟩
  spent _ n h := Or.inl ⟨n, h⟩

theorem Traces.has_token (h : Traces handled s s₁) {token : String}
    (htoken : Table.has token s.tokens = true) : Table.has token s₁.tokens = true := by
  obtain ⟨user, huser⟩ := Option.isSome_iff_exists.1 htoken
  rw [Table.has, h.issued token user huser]
  rfl

theorem Traces.append (h : Traces handled s s₁) (h' : Traces handled' s₁ s₂) :
    Traces (handled ++ handled') s s₂ where
  users := h'.users.trans h.users
  quotas := h'.quotas.trans h.quotas
  window := h'.window.trans h.window
  sharing := h'.sharing.trans h.sharing
  issued token user hk := h'.issued token user (h.issued token user hk)
  minted token user hk := by
    rcases h'.minted token user hk with hk | ⟨x, hx, hmints⟩
    · rcases h.minted token user hk with hk | ⟨x, hx, hmints⟩
      · exact Or.inl hk
      · exact Or.inr ⟨x, List.mem_append_left _ hx, hmints⟩
    · rw [h.users] at hmints
      exact Or.inr ⟨x, List.mem_append_right _ hx, hmints⟩
  logged := by
    obtain ⟨calls, hlog, hcalls⟩ := h.logged
    obtain ⟨calls', hlog', hcalls'⟩ := h'.logged
    refine ⟨calls ++ calls', by rw [hlog', hlog, List.append_assoc], ?_⟩
    rw [List.filter_append]
    exact List.rel_append hcalls hcalls'
  spent key n hk := by
    rcases h'.spent key n hk with ⟨n', hk⟩ | hk
    · exact (h.spent key n' hk).imp_right h'.has_token
    · exact Or.inr hk

/-- A message that leaves the server as it is, and is no counted call. -/
theorem traces_unchanged (s : Server) {x : Handled} (hx : x.isCounted = false) :
    Traces [x] s s where
  users := rfl
  quotas := rfl
  window := rfl
  sharing := rfl
  issued _ _ h := h
  minted _ _ h := Or.inl h
  logged := by
    refine ⟨[], (List.append_nil _).symm, ?_⟩
    rw [List.filter_cons_of_neg (by simp [hx]), List.filter_nil]
    exact .nil
  spent _ n h := Or.inl ⟨n, h⟩

theorem isCounted_of_not_call {x : Handled} (h : ∀ route, ¬ x.arrival.message.Calls route) :
    x.isCounted = false := by
  have hcall : x.arrival.message.isCall = false := by
    rw [← Bool.not_eq_true, Incoming.isCall_iff]
    exact fun ⟨route, hroute⟩ => h route hroute
  rw [Handled.isCounted, hcall, Bool.false_and]

theorem isCounted_of_status {x : Handled} {status : Int} (h : x.status = some status)
    (hserved : status ≠ 200) (hlimited : status ≠ 429) : x.isCounted = false := by
  simp [Handled.isCounted, h, hserved, hlimited]

theorem traces_granted {username password : String} (hm : a.message.LogsIn username password)
    (huser : Table.get? username s.users = some password) (hstatus : response.status = 200)
    (hbody : response.body = grantBody (newId next))
    (hfresh : Table.has (newId next) s.tokens = false) :
    Traces [⟨s, a, .ok (response, notes)⟩] s
      { s with tokens := Table.set (newId next) username s.tokens } where
  users := rfl
  quotas := rfl
  window := rfl
  sharing := rfl
  issued token user h := by
    rw [Table.get?_set_ne _ _ _, h]
    rintro rfl
    rw [Table.has, h] at hfresh
    cases hfresh
  minted token user h := by
    rw [Table.get?_set] at h
    split at h
    · rename_i htoken
      cases h
      rw [htoken]
      exact Or.inr ⟨_, List.mem_singleton_self _, password, response, notes, hm, huser, rfl, hstatus,
        hbody⟩
    · exact Or.inl h
  logged := by
    have hcall : Handled.isCounted ⟨s, a, .ok (response, notes)⟩ = false :=
      isCounted_of_not_call fun _ hcalls => hcalls.not_logsIn hm
    obtain ⟨calls, hlog, hcalls⟩ := (traces_unchanged s hcall).logged
    exact ⟨calls, hlog, hcalls⟩
  spent _ n h := Or.inl ⟨n, h⟩

theorem traces_answered {token route : String} {quota : Int} (hs : s.sharing = .none)
    (hm : a.message.brings token route = true) (hissued : Table.has token s.tokens = true)
    (hstatus : response.status =
      statusFor quota (Limiter.hit (s.counterKey token route a.now) s.counters).1) :
    Traces [⟨s, a, .ok (response, notes)⟩] s (s.answered token route a.now quota) where
  users := rfl
  quotas := rfl
  window := rfl
  sharing := rfl
  issued _ _ h := h
  minted _ _ h := Or.inl h
  logged := by
    let x : Handled := ⟨s, a, .ok (response, notes)⟩
    have hcounted : x.isCounted = true := by
      have hcall : a.message.isCall = true :=
        Incoming.isCall_iff.2 ⟨route, (Incoming.brings_iff_calls.1 hm).1⟩
      have hx : x.status = some response.status := rfl
      rw [Handled.isCounted, hx, hstatus, hcall, Bool.true_and]
      rcases statusFor_eq quota _ with h | h <;> rw [h] <;> rfl
    refine ⟨[⟨token, route, response.status⟩], by rw [hstatus]; rfl, ?_⟩
    rw [List.filter_cons_of_pos hcounted, List.filter_nil]
    exact .cons ⟨hm, hissued, rfl⟩ .nil
  spent key n h := by
    simp only [answered, count, Limiter.get?_hit] at h
    split at h
    · rename_i hkey
      have htoken : key.token = token := by
        rw [hkey]
        simp [counterKey, hs]
      rw [htoken]
      exact Or.inr hissued
    · split at h
      · exact Or.inl ⟨n, h⟩
      · cases h

/-- What one message leaves. -/
theorem Deals.traces {s' : Server} (h : Deals newId next s a.message a.now response next' s')
    (hs : s.sharing = .none) (hfresh : Table.has (newId next) s.tokens = false)
    (notes : List LogNote) : Traces [⟨s, a, .ok (response, notes)⟩] s s' := by
  have hx : Handled.status ⟨s, a, .ok (response, notes)⟩ = some response.status := rfl
  cases h with
  | granted h huser hstatus hbody => exact traces_granted h huser hstatus hbody hfresh
  | denied h =>
    exact traces_unchanged s (isCounted_of_not_call fun _ hcalls => hcalls.not_logsIn h)
  | unlimited _ _ hstatus =>
    exact traces_unchanged s (isCounted_of_status (hx.trans (congrArg some hstatus))
      (by decide) (by decide))
  | unauthorized _ _ _ hstatus =>
    exact traces_unchanged s (isCounted_of_status (hx.trans (congrArg some hstatus))
      (by decide) (by decide))
  | counted h _ hissued hstatus => exact traces_answered hs h hissued hstatus
  | aside _ hcall => exact traces_unchanged s (isCounted_of_not_call hcall)

theorem Numbered.fresh (h : Numbered newId next s) (hinj : Function.Injective newId) :
    Table.has (newId next) s.tokens = false := by
  rw [← Bool.not_eq_true]
  intro hissued
  obtain ⟨k, hk, heq⟩ := h _ hissued
  exact absurd (hinj heq) (by omega)

theorem Deals.numbered {s' : Server} (h : Deals newId next s a.message a.now response next' s')
    (hs : Numbered newId next s) (hle : next ≤ next') : Numbered newId next' s' := by
  have hmono : Numbered newId next' s := fun token htoken => by
    obtain ⟨k, hk, heq⟩ := hs token htoken
    exact ⟨k, by omega, heq⟩
  cases h with
  | granted _ _ _ _ hnext =>
    intro token htoken
    by_cases heq : token = newId next
    · exact ⟨next, hnext, heq⟩
    · rw [Table.has, Table.get?_set_ne heq] at htoken
      exact hmono token htoken
  | _ => exact hmono

/-- **What a history leaves.**  With new ids, the tokens of a server stay, and each new token, entry
    of the log and counter comes from a message of the history. -/
theorem traces_handleAll (hinj : Function.Injective newId) (history : List Arrival) (next : Nat)
    (s : Server) (hs : s.sharing = .none) (hw : s.window ≠ 0) (hnumbered : Numbered newId next s) :
    Traces (s.handleAll newId next history).1 s (s.handleAll newId next history).2.2 ∧
      Numbered newId (s.handleAll newId next history).2.1 (s.handleAll newId next history).2.2 := by
  induction history generalizing next s with
  | nil => exact ⟨traces_nil s, hnumbered⟩
  | cons a rest ih =>
    obtain ⟨response, notes, next', s', hhandle, hdeals⟩ := handle_deals hs hw newId next a.message a.now
    have hle : next ≤ next' := by
      have := le_next_handle newId next s a.message a.now
      rwa [hhandle] at this
    have hstep := hdeals.traces hs (hnumbered.fresh hinj) notes
    obtain ⟨hrest, hlast⟩ := ih next' s' (hstep.sharing.trans hs)
      (by rw [hstep.window]; exact hw) (hdeals.numbered hnumbered hle)
    rw [handleAll_cons, hhandle]
    exact ⟨hstep.append hrest, hlast⟩

end Traces

/-- **Only holders of issued tokens use up quota, and refused messages leave no trace.**  A new
    server under any history of messages, with new ids and any readings of the clock: every token was
    granted to a user of the table who gave the password, every counter is one of an issued token,
    and the log is the list of the answers 200 and 429 to calls, in order.  Whatever message comes
    next is answered; no token is lost; a login without the password, a call of a resource without a
    quota and a call of a limited route without an issued token change nothing; a call of a limited
    route with an issued token is counted and logged once; and nothing else is. -/
theorem access_control (s : Server) (hnew : s.IsNew) (hs : s.sharing = .none) (hw : 1 ≤ s.window)
    (newId : Nat → String) (hfresh : Function.Injective newId) (first : Nat)
    (history : List Arrival) (m : Incoming) (now : Int) :
    let past := s.handleAll newId first history
    let handled := past.1
    let reached := past.2.2
    ((∀ token user, Table.get? token reached.tokens = some user →
        ∃ h ∈ handled, h.Mints s.users token user) ∧
      (∀ key n, Table.get? key reached.counters = some n →
        Table.has key.token reached.tokens = true) ∧
      List.Forall₂ Handled.Logs (handled.filter Handled.isCounted) reached.log) ∧
    ∃ response notes next after,
      reached.handle newId past.2.1 m now = (.ok (response, notes), next, after) ∧
      (∀ token user, Table.get? token reached.tokens = some user →
        Table.get? token after.tokens = some user) ∧
      (∀ username password, m.LogsIn username password →
        Table.get? username s.users ≠ some password → response.status = 401 ∧ after = reached) ∧
      (∀ route, m.Calls route → Table.has route s.quotas = false →
        response.status = 404 ∧ after = reached) ∧
      (∀ route, m.Calls route → Table.has route s.quotas = true →
        (∀ token, m.brings token route = true → Table.has token reached.tokens = false) →
        response.status = 401 ∧ after = reached) ∧
      (∀ token route, m.brings token route = true → Table.has route s.quotas = true →
        Table.has token reached.tokens = true →
        (response.status = 200 ∨ response.status = 429) ∧
          reached.Counts token route now response.status after) ∧
      (after.counters ≠ reached.counters ∨ after.log ≠ reached.log →
        ∃ token route, m.brings token route = true ∧ Table.has token reached.tokens = true) := by
  intro past handled reached
  have hempty : Numbered newId first s := by
    intro token htoken
    rw [hnew.tokens] at htoken
    cases htoken
  obtain ⟨htraces, hnumbered⟩ := traces_handleAll hfresh history first s hs (by omega) hempty
  have hsharing : reached.sharing = .none := htraces.sharing.trans hs
  have hwindow : reached.window ≠ 0 := by
    rw [htraces.window]
    omega
  refine ⟨⟨fun token user h => ?_, fun key n h => ?_, ?_⟩, ?_⟩
  · refine (htraces.minted token user h).resolve_left ?_
    rw [hnew.tokens]
    exact nofun
  · refine (htraces.spent key n h).resolve_left ?_
    rw [hnew.counters]
    rintro ⟨_, h⟩
    cases h
  · obtain ⟨calls, hlog, hcalls⟩ := htraces.logged
    rw [hnew.log, List.nil_append] at hlog
    rw [hlog]
    exact hcalls
  · obtain ⟨response, notes, next, after, hhandle, hdeals⟩ :=
      handle_deals hsharing hwindow newId past.2.1 m now
    have hstep := Deals.traces (a := ⟨m, now⟩) hdeals hsharing (hnumbered.fresh hfresh) notes
    have husers : reached.users = s.users := htraces.users
    have hquotas : reached.quotas = s.quotas := htraces.quotas
    rw [← husers, ← hquotas]
    exact ⟨response, notes, next, after, hhandle, hstep.issued,
      fun _ _ hm huser => hdeals.of_denied hm huser, fun _ hm hroute => hdeals.of_unlimited hm hroute,
      fun _ hm hroute htoken => hdeals.of_unauthorized hm hroute htoken,
      fun _ _ hm hroute htoken => hdeals.of_brings hsharing hm hroute htoken, hdeals.brings_of_spent⟩

/-- One login with the password of its user, and one without. -/
def twoLogins : List Arrival := [loginAt 0 "user_all" "123", loginAt 5 "user_b" "321"]

theorem access_control_twoLogins :
    let reached := (single.handleAll Simulation.unaryId 0 twoLogins).2.2
    (∃ h ∈ (single.handleAll Simulation.unaryId 0 twoLogins).1, h.Mints single.users "i" "user_all") ∧
      ∃ response notes next after,
        reached.handle Simulation.unaryId 3 (callAt 10 "/api/v1/users" "i").message 10 =
          (.ok (response, notes), next, after) ∧
        after.log = [⟨"i", "/api/v1/users", response.status⟩] ∧
        Table.get? ⟨"i", "/api/v1/users", 0⟩ after.counters = some 1 := by
  intro reached
  have hreached : reached.tokens = [("i", "user_all")] ∧ reached.counters = [] ∧ reached.log = [] ∧
      reached.window = 1000 ∧ (single.handleAll Simulation.unaryId 0 twoLogins).2.1 = 3 := by
    decide +kernel
  obtain ⟨htokens, hcounters, hlog, hwindow, hnext⟩ := hreached
  obtain ⟨⟨hminted, -, -⟩, response, notes, next, after, hhandle, -, -, -, -, hcall, -⟩ :=
    access_control single ⟨rfl, rfl, rfl⟩ rfl (by decide) Simulation.unaryId
      Simulation.unaryId_injective 0 twoLogins (callAt 10 "/api/v1/users" "i").message 10
  rw [hnext] at hhandle
  obtain ⟨-, hcounts⟩ := hcall "i" "/api/v1/users" (by decide) (by decide)
    (show Table.has "i" reached.tokens = true by rw [htokens]; decide)
  refine ⟨hminted "i" "user_all" (show Table.get? "i" reached.tokens = _ by rw [htokens]; rfl),
    response, notes, next, after, hhandle, ?_, ?_⟩
  · rw [hcounts.logged]
    show reached.log ++ _ = _
    rw [hlog]
    rfl
  · have hcounted : Table.get? ⟨"i", "/api/v1/users", windowOf reached.window 10⟩ after.counters =
        some ((Table.get? ⟨"i", "/api/v1/users", windowOf reached.window 10⟩
          reached.counters).getD 0 + 1) := hcounts.counted
    rwa [hcounters, hwindow] at hcounted

end Server

end RateIsolation
