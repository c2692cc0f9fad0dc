/-
  What others send does not show in the statuses of a token on a route.

  * `Server.handleAll` handles messages in order, and `Handled.ofToken` picks
    those that are calls of a route with an issued token;
  * `Server.Shows` relates what a server holds of a token and a route to the
    readings of those calls alone: counters of windows that may still be asked
    for, and the log;
  * `Server.shows_handle` is one message, `Server.shows_handleAll` a history;
  * `Server.statuses_noninterference`: two histories that agree on the readings
    of those calls agree on their statuses.
-/
import RateIsolation.Proofs.Service

namespace RateIsolation

/-! ## The reference by one call more -/

theorem Reference.run_concat (length : Int) (quota : String → Int)
    (before calls : List LimiterCall) (c : LimiterCall) :
    Reference.run length quota before (calls ++ [c]) =
      Reference.run length quota before calls ++ [allows length quota (before ++ calls) c] := by
  induction calls generalizing before with
  | nil => simp [Reference.run]
  | cons d rest ih => simp [Reference.run, ih]

/-! ## Histories -/

/-- A message and the reading of the clock at which it is handled. -/
structure Arrival where
  message : Incoming
  now : Int

/-- A message that was handled: the server before it, and what came of it. -/
structure Handled where
  before : Server
  arrival : Arrival
  result : Except ServerFault (Response × List LogNote)

namespace Server

/-- Handle messages in order; the result is each with what came of it, the number of the next id,
    and the server after them. -/
def handleAll (newId : Nat → String) : Nat → Server → List Arrival → List Handled × Nat × Server
  | next, s, [] => ([], next, s)
  | next, s, a :: rest =>
    let (result, next', s') := s.handle newId next a.message a.now
    let (others, last) := handleAll newId next' s' rest
    (⟨s, a, result⟩ :: others, last)

theorem handleAll_cons (newId : Nat → String) (next : Nat) (s : Server) (a : Arrival)
    (rest : List Arrival) :
    s.handleAll newId next (a :: rest) =
      (⟨s, a, (s.handle newId next a.message a.now).1⟩ ::
        (handleAll newId (s.handle newId next a.message a.now).2.1
          (s.handle newId next a.message a.now).2.2 rest).1,
        (handleAll newId (s.handle newId next a.message a.now).2.1
          (s.handle newId next a.message a.now).2.2 rest).2) := by
  rw [handleAll]

/-- Whether a route is that of a resource. -/
def isResource : Option Route → Bool
  | some (.resource _) => true
  | _ => false

end Server

/-- Whether a message calls a route and brings a token. -/
def Incoming.brings (m : Incoming) (token route : String) : Bool :=
  Server.isResource (Server.routeOf m.path) && m.method == "GET" && Server.quotaPath m == route &&
    m.header? "authorization" == some ("Bearer " ++ token)

namespace Handled

/-- Whether a message was a call of a route with a token that had been issued before. -/
def ofToken (token route : String) (h : Handled) : Bool :=
  h.arrival.message.brings token route && Table.has token h.before.tokens

/-- The status of the answer, none where the server broke. -/
def status (h : Handled) : Option Int :=
  match h.result with
  | .ok (response, _) => some response.status
  | .error _ => none

/-- The calls of a route with a token that had been issued before, among messages. -/
def callsOf (token route : String) (hs : List Handled) : List Handled :=
  hs.filter (ofToken token route)

/-- The readings at which messages were handled. -/
def readings (hs : List Handled) : List Int := hs.map (·.arrival.now)

end Handled

namespace Server

/-! ## Authorised calls -/

/-- The header brings a token that was issued. -/
theorem bearerToken_eq_some_iff {s : Server} {authorization : Option String} {token : String} :
    s.bearerToken authorization = some token ↔
      authorization = some ("Bearer " ++ token) ∧ Table.has token s.tokens = true := by
  constructor
  · intro h
    unfold bearerToken at h
    split at h
    · cases h
    · rename_i a
      split at h
      · rename_i hprefix
        dsimp only at h
        split at h
        · rename_i hissued
          obtain rfl : String.ofList (a.toList.drop 7) = token := Option.some.inj h
          refine ⟨congrArg some (String.toList_inj.1 ?_), hissued⟩
          obtain ⟨rest, hrest⟩ := List.isPrefixOf_iff_prefix.1 hprefix
          have hdrop : a.toList.drop 7 = rest := by
            rw [← hrest]
            rfl
          have hrest' : (String.ofList rest).toList = rest := String.toList_ofList
          calc a.toList = "Bearer ".toList ++ rest := hrest.symm
            _ = ("Bearer " ++ String.ofList (a.toList.drop 7)).toList := by
              rw [String.toList_append, hdrop, hrest']
        · cases h
      · cases h
  · rintro ⟨rfl, hissued⟩
    exact bearerToken_bearer hissued

/-- What a call of a limited route with an issued token comes to, by its count. -/
def answerFor (quota : Int) (count : Nat) : ResourceAnswer :=
  if Limiter.within quota count then .served else .limited

/-- The server after such a call. -/
def answered (s : Server) (token route : String) (now quota : Int) : Server :=
  s.count token route now (s.log ++
    [⟨token, route, statusFor quota (Limiter.hit (s.counterKey token route now) s.counters).1⟩])

/-- A call of a resource changes nothing, or is one of a limited route with an issued token. -/
theorem resource_cases {s : Server} (hs : s.sharing = .none) (hw : s.window ≠ 0) (route : String)
    (authorization : Option String) (now : Int) :
    (∃ answer, s.resource route authorization now = (.ok answer, s) ∧
      ∀ token, s.bearerToken authorization = some token → Table.has route s.quotas = false) ∨
    ∃ token quota, s.bearerToken authorization = some token ∧
      Table.get? route s.quotas = some quota ∧
      s.resource route authorization now =
        (.ok (answerFor quota (Limiter.hit (s.counterKey token route now) s.counters).1),
          s.answered token route now quota) := by
  have hroute : s.quotaRoute route = route := by simp [quotaRoute, hs]
  cases hquota : Table.get? route s.quotas with
  | none =>
    refine Or.inl ⟨.notFound, ?_, fun _ _ => ?_⟩
    all_goals simp [resource, Table.has, hquota]
  | some quota =>
    cases htoken : s.bearerToken authorization with
    | none =>
      refine Or.inl ⟨.unauthorized, ?_, fun _ h => absurd h (by simp)⟩
      simp [resource, Table.has, hquota, htoken]
    | some token =>
      refine Or.inr ⟨token, quota, rfl, rfl, ?_⟩
      have hallow : s.allow token route now =
          (.ok (Limiter.within quota (Limiter.hit (s.counterKey token route now) s.counters).1),
            s.count token route now s.log) := by
        simp only [allow, hw, ↓reduceIte, hroute, hquota]
        rfl
      cases hwithin : Limiter.within quota (Limiter.hit (s.counterKey token route now) s.counters).1
      all_goals
        simp [resource, Table.has, hquota, htoken, hallow, hwithin, answerFor, answered, statusFor,
          count]

/-- A message that calls a resource is answered as the call is. -/
theorem answer_resource (s : Server) {m : Incoming} {name : String}
    (hroute : routeOf m.path = some (.resource name)) (hmethod : m.method = "GET") (now : Int)
    (token : String) :
    s.answer m now token = s.dispatch (.resource name) m now token := by
  apply answer_eq_dispatch s hroute
  rw [hmethod]
  rfl

theorem handle_server (newId : Nat → String) (next : Nat) (s : Server) (m : Incoming) (now : Int) :
    (s.handle newId next m now).2.2 = (s.answer m now (newId next)).2 := by
  unfold handle
  split
  all_goals
    rename_i h
    rw [h]

end Server

theorem Server.isResource_iff {route : Option Server.Route} :
    Server.isResource route = true ↔ ∃ name, route = some (.resource name) := by
  unfold Server.isResource
  split <;> simp_all

/-- A message brings a token to a route exactly if it is a call of it with that header. -/
theorem Incoming.brings_iff {m : Incoming} {token route : String} :
    m.brings token route = true ↔ (∃ name, Server.routeOf m.path = some (.resource name)) ∧
      m.method = "GET" ∧ Server.quotaPath m = route ∧
      m.header? "authorization" = some ("Bearer " ++ token) := by
  simp only [brings, Bool.and_eq_true, beq_iff_eq, Server.isResource_iff, and_assoc]

namespace Server

variable {s s' : Server} {token route : String} {length quota now : Int} {m : Incoming}

/-- **An authorised call is counted, logged, and answered by its count.** -/
theorem handle_of_brings (newId : Nat → String) (next : Nat) (now : Int) (hs : s.sharing = .none)
    (hw : s.window ≠ 0) (hquota : Table.get? route s.quotas = some quota)
    (hm : m.brings token route = true) (htoken : Table.has token s.tokens = true) :
    ∃ response notes next', s.handle newId next m now =
        (.ok (response, notes), next', s.answered token route now quota) ∧
      response.status =
        statusFor quota (Limiter.hit (s.counterKey token route now) s.counters).1 := by
  obtain ⟨⟨name, hroute⟩, hmethod, hpath, hheader⟩ := Incoming.brings_iff.1 hm
  have hbearer : s.bearerToken (m.header? "authorization") = some token :=
    bearerToken_eq_some_iff.2 ⟨hheader, htoken⟩
  have hresource : s.resource route (m.header? "authorization") now =
      (.ok (answerFor quota (Limiter.hit (s.counterKey token route now) s.counters).1),
        s.answered token route now quota) := by
    rcases resource_cases hs hw route (m.header? "authorization") now with
      ⟨_, _, hnot⟩ | ⟨token', quota', htoken', hquota', h⟩
    · have := hnot token hbearer
      simp [Table.has, hquota] at this
    · cases hbearer.symm.trans htoken'
      cases hquota.symm.trans hquota'
      exact h
  have hanswer := answer_resource s hroute hmethod now (newId next)
  rw [dispatch, hpath, hresource] at hanswer
  have hget : m.method ≠ "HEAD" := by
    rw [hmethod]
    decide
  obtain ⟨response, next', hhandle, hstatus, -, -⟩ := handle_of_answer hanswer hget
  refine ⟨response, _, next', hhandle, hstatus.trans ?_⟩
  by_cases hwithin :
      Limiter.within quota (Limiter.hit (s.counterKey token route now) s.counters).1
  · rw [answerFor, if_pos hwithin, statusFor, if_pos hwithin]
    rfl
  · rw [answerFor, if_neg hwithin, statusFor, if_neg hwithin]
    rfl

/-! ## Other messages -/

/-- What a message at a reading leaves of a token and a route. -/
structure Leaves (token route : String) (now : Int) (s s' : Server) : Prop where
  sharing : s'.sharing = s.sharing
  window : s'.window = s.window
  quotas : s'.quotas = s.quotas
  counters : ∀ w, windowOf s.window now ≤ w →
    Table.get? ⟨token, route, w⟩ s'.counters = Table.get? ⟨token, route, w⟩ s.counters
  statuses : s'.statuses token route = s.statuses token route

theorem leaves_self : Leaves token route now s s := ⟨rfl, rfl, rfl, fun _ _ => rfl, rfl⟩

theorem leaves_login (username password issued : String) :
    Leaves token route now s (s.login username password issued).2 := by
  unfold login
  split
  · exact ⟨rfl, rfl, rfl, fun _ _ => rfl, rfl⟩
  · exact leaves_self

theorem statuses_answered (s : Server) (caller path token route : String) (now quota : Int) :
    (s.answered caller path now quota).statuses token route = s.statuses token route ++
      if caller = token ∧ path = route then
        [statusFor quota (Limiter.hit (s.counterKey caller path now) s.counters).1]
      else [] := by
  simp only [statuses, answered, count, List.filter_append, List.map_append, List.filter_cons,
    List.filter_nil, decide_eq_true_eq]
  split <;> rfl

theorem get?_answered (hs : s.sharing = .none) (caller path : String) (now quota : Int) {w : Int}
    (hw : windowOf s.window now ≤ w) :
    Table.get? ⟨token, route, w⟩ (s.answered caller path now quota).counters =
      if (⟨token, route, w⟩ : CounterKey) = ⟨caller, path, windowOf s.window now⟩ then
        some ((Table.get? ⟨token, route, w⟩ s.counters).getD 0 + 1)
      else Table.get? ⟨token, route, w⟩ s.counters := by
  have hkey : s.counterKey caller path now = ⟨caller, path, windowOf s.window now⟩ := by
    simp [counterKey, hs]
  have hrecent : windowOf s.window now - 1 ≤ w := by omega
  simp only [answered, count, hkey, Limiter.get?_hit, hrecent, ↓reduceIte]
  split
  · rename_i h
    rw [h]
  · rfl

/-- A call with another token or of another route. -/
theorem leaves_answered (hs : s.sharing = .none) {caller path : String}
    (h : ¬ (caller = token ∧ path = route)) (quota : Int) :
    Leaves token route now s (s.answered caller path now quota) := by
  refine ⟨rfl, rfl, rfl, fun w hw => ?_, ?_⟩
  · rw [get?_answered hs caller path now quota hw, if_neg]
    intro hkey
    cases hkey
    exact h ⟨rfl, rfl⟩
  · rw [statuses_answered, if_neg h, List.append_nil]

theorem leaves_resource (hs : s.sharing = .none) (hw : s.window ≠ 0) {path : String}
    {authorization : Option String}
    (h : ¬ (s.bearerToken authorization = some token ∧ path = route)) :
    Leaves token route now s (s.resource path authorization now).2 := by
  rcases resource_cases hs hw path authorization now with ⟨_, hresource, -⟩ |
    ⟨caller, quota, hcaller, -, hresource⟩
  · rw [hresource]
    exact leaves_self
  · rw [hresource]
    refine leaves_answered hs ?_ quota
    rintro ⟨rfl, rfl⟩
    exact h ⟨hcaller, rfl⟩

/-- **A message that is no authorised call of the route with the token leaves both.** -/
theorem leaves_handle (newId : Nat → String) (next : Nat) (now : Int) (hs : s.sharing = .none)
    (hw : s.window ≠ 0)
    (h : ¬ (m.brings token route = true ∧ Table.has token s.tokens = true)) :
    Leaves token route now s (s.handle newId next m now).2.2 := by
  rw [handle_server, answer]
  split
  · rename_i r hroute
    split
    · rename_i hmethod
      -- one case for each kind of route
      match r with
      | .documentation => exact leaves_self
      | .login =>
        simp only [dispatch]
        split
        · exact leaves_self
        · rename_i username password _
          have hlogin : Leaves token route now s (s.login username password (newId next)).2 :=
            leaves_login username password (newId next)
          split
          all_goals
            rename_i heq
            rw [heq] at hlogin
            exact hlogin
      | .resource name =>
        apply leaves_resource hs hw
        rintro ⟨hbearer, hpath⟩
        obtain ⟨hheader, hissued⟩ := bearerToken_eq_some_iff.1 hbearer
        have hget : m.method = "GET" := by simpa [methodsOf] using hmethod
        exact h ⟨Incoming.brings_iff.2 ⟨⟨name, hroute⟩, hget, hpath, hheader⟩, hissued⟩
    · exact leaves_self
  · split <;> exact leaves_self

/-! ## A token on a route by itself -/

/-- The status that an answer of the limiter is given. -/
def statusOf (allowed : Bool) : Int := if allowed then 200 else 429

/-- The statuses of calls of a route with a token at these readings when nothing else is counted
    and nothing is forgotten. -/
def statusesAlone (length quota : Int) (token route : String) (nows : List Int) : List Int :=
  (Reference.run length (fun _ => quota) [] (nows.map fun now => ⟨token, route, now⟩)).map statusOf

theorem statusesAlone_concat (length quota : Int) (token route : String) (nows : List Int)
    (now : Int) :
    statusesAlone length quota token route (nows ++ [now]) =
      statusesAlone length quota token route nows ++
        [statusFor quota ((nows.map (windowOf length)).count (windowOf length now) + 1)] := by
  have hcount : Reference.count length
      ((nows.map fun now => (⟨token, route, now⟩ : LimiterCall)) ++ [⟨token, route, now⟩])
      ⟨token, route, windowOf length now⟩ =
        (nows.map (windowOf length)).count (windowOf length now) + 1 := by
    rw [Reference.count_eq, List.map_append, List.map_map, List.count_append,
      List.map_singleton, LimiterCall.key, List.count_singleton_self]
    congr 1
    rw [List.count, List.countP_map, List.count, List.countP_map]
    exact List.countP_congr fun x _ => by simp [LimiterCall.key]
  simp only [statusesAlone, List.map_append, List.map_cons, List.map_nil, Reference.run_concat,
    List.nil_append, Reference.allows, LimiterCall.key]
  rw [hcount]
  rfl

/-- What a server holds of a token and a route, when it was called at these readings, the last of
    them at most `now`: the counters that may still be asked for, and the log. -/
structure Shows (length quota : Int) (token route : String) (nows : List Int) (now : Int)
    (s : Server) : Prop where
  sharing : s.sharing = .none
  window : s.window = length
  limited : Table.get? route s.quotas = some quota
  counted : ∀ w, windowOf length now ≤ w →
    (Table.get? ⟨token, route, w⟩ s.counters).getD 0 = (nows.map (windowOf length)).count w
  logged : s.statuses token route = statusesAlone length quota token route nows

section Shows

variable {nows : List Int}

theorem IsNew.shows (hnew : s.IsNew) (hs : s.sharing = .none)
    (hquota : Table.get? route s.quotas = some quota) (now : Int) :
    Shows s.window quota token route [] now s := by
  refine ⟨hs, rfl, hquota, fun w _ => ?_, ?_⟩
  · rw [hnew.counters]
    rfl
  · rw [statuses, hnew.log]
    rfl

theorem Shows.later (h : Shows length quota token route nows now s) (hlength : 0 < length)
    {later : Int} (hle : now ≤ later) : Shows length quota token route nows later s :=
  ⟨h.sharing, h.window, h.limited,
    fun w hw => h.counted w (Int.le_trans (windowOf_mono hlength hle) hw), h.logged⟩

theorem Shows.leaves (h : Shows length quota token route nows now s)
    (hleaves : Leaves token route now s s') : Shows length quota token route nows now s' := by
  refine ⟨hleaves.sharing.trans h.sharing, hleaves.window.trans h.window, ?_, fun w hw => ?_,
    hleaves.statuses.trans h.logged⟩
  · rw [hleaves.quotas, h.limited]
  · rw [hleaves.counters w (by rw [h.window]; exact hw), h.counted w hw]

/-- The count of a call is that of the calls at these readings in its window, and itself. -/
theorem Shows.count_eq (h : Shows length quota token route nows now s) :
    (Limiter.hit (s.counterKey token route now) s.counters).1 =
      (nows.map (windowOf length)).count (windowOf length now) + 1 := by
  have hkey : s.counterKey token route now = ⟨token, route, windowOf length now⟩ := by
    simp [counterKey, h.sharing, h.window]
  rw [hkey, Limiter.hit_fst, h.counted _ (Int.le_refl _)]

theorem Shows.answered (h : Shows length quota token route nows now s) :
    Shows length quota token route (nows ++ [now]) now (s.answered token route now quota) := by
  refine ⟨h.sharing, h.window, h.limited, fun w hw => ?_, ?_⟩
  · rw [get?_answered h.sharing token route now quota (by rw [h.window]; exact hw), h.window,
      List.map_append, List.count_append, ← h.counted w hw]
    by_cases heq : w = windowOf length now
    · simp [heq]
    · have : ¬ windowOf length now = w := fun h => heq h.symm
      simp [heq, this]
  · rw [statuses_answered, if_pos ⟨rfl, rfl⟩, h.logged, h.count_eq, statusesAlone_concat]

/-- What messages after calls at these readings leave: the server shows those calls and its own
    among the messages, and these were answered as if nothing else had been sent. -/
structure AnswersAlone (length quota : Int) (token route : String) (nows : List Int)
    (handled : List Handled) (s : Server) : Prop where
  shows : ∃ later, Shows length quota token route
    (nows ++ Handled.readings (Handled.callsOf token route handled)) later s
  answers : (statusesAlone length quota token route nows).map some ++
      (Handled.callsOf token route handled).map Handled.status =
    (statusesAlone length quota token route
      (nows ++ Handled.readings (Handled.callsOf token route handled))).map some

theorem AnswersAlone.cons_other {x : Handled} {handled : List Handled}
    (hx : x.ofToken token route = false)
    (h : AnswersAlone length quota token route nows handled s) :
    AnswersAlone length quota token route nows (x :: handled) s := by
  have hcalls : Handled.callsOf token route (x :: handled) =
      Handled.callsOf token route handled := List.filter_cons_of_neg (by simp [hx])
  refine ⟨?_, ?_⟩ <;> rw [hcalls]
  · exact h.shows
  · exact h.answers

theorem AnswersAlone.cons_call {x : Handled} {handled : List Handled}
    (hx : x.ofToken token route = true)
    (hstatus : x.status = some (statusFor quota
      ((nows.map (windowOf length)).count (windowOf length x.arrival.now) + 1)))
    (h : AnswersAlone length quota token route (nows ++ [x.arrival.now]) handled s) :
    AnswersAlone length quota token route nows (x :: handled) s := by
  have hcalls : Handled.callsOf token route (x :: handled) =
      x :: Handled.callsOf token route handled := List.filter_cons_of_pos hx
  have hreadings : nows ++ Handled.readings (Handled.callsOf token route (x :: handled)) =
      nows ++ [x.arrival.now] ++ Handled.readings (Handled.callsOf token route handled) := by
    rw [hcalls, List.append_assoc]
    rfl
  constructor
  · rw [hreadings]
    exact h.shows
  · rw [hreadings, ← h.answers, statusesAlone_concat, List.map_append, List.append_assoc, hcalls,
      List.map_cons, hstatus]
    rfl

/-- **The calls of a token to a route are answered as if nothing else had been sent.** -/
theorem answersAlone_handleAll (newId : Nat → String) (hlength : 0 < length)
    (history : List Arrival) (next : Nat) (s : Server) (nows : List Int) (now : Int)
    (h : Shows length quota token route nows now s) (hstart : ∀ a ∈ history, now ≤ a.now)
    (hclock : history.Pairwise fun a b => a.now ≤ b.now) :
    AnswersAlone length quota token route nows (s.handleAll newId next history).1
      (s.handleAll newId next history).2.2 := by
  induction history generalizing next s nows now with
  | nil =>
    refine ⟨⟨now, ?_⟩, ?_⟩
    · simpa [handleAll, Handled.callsOf, Handled.readings] using h
    · simp [handleAll, Handled.callsOf, Handled.readings]
  | cons a rest ih =>
    have hnow := h.later hlength (hstart a List.mem_cons_self)
    obtain ⟨hrest, hclock⟩ := List.pairwise_cons.1 hclock
    have hw : s.window ≠ 0 := by
      rw [h.window]
      omega
    rw [handleAll_cons]
    by_cases hcall : a.message.brings token route = true ∧ Table.has token s.tokens = true
    · obtain ⟨response, notes, next', hhandle, hstatus⟩ :=
        handle_of_brings newId next a.now h.sharing hw h.limited hcall.1 hcall.2
      rw [hhandle]
      apply AnswersAlone.cons_call
      · rw [Handled.ofToken, hcall.1, hcall.2]
        rfl
      · rw [← hnow.count_eq, ← hstatus]
        rfl
      · exact ih next' _ _ a.now hnow.answered hrest hclock
    · apply AnswersAlone.cons_other
      · simpa [Handled.ofToken] using hcall
      · have hleaves := leaves_handle newId next a.now h.sharing hw hcall
        exact ih _ _ nows a.now (hnow.leaves hleaves) hrest hclock

end Shows

/-- From a new server on, calls of a limited route with an issued token are answered, and logged, as
    the reference answers their readings alone. -/
theorem IsNew.answers_eq (hnew : s.IsNew) (hs : s.sharing = .none) (hw : 1 ≤ s.window)
    (hquota : Table.get? route s.quotas = some quota) (token : String) (newId : Nat → String)
    (next : Nat) {history : List Arrival} (hclock : history.Pairwise fun a b => a.now ≤ b.now) :
    let handled := (s.handleAll newId next history).1
    let alone := statusesAlone s.window quota token route
      (Handled.readings (Handled.callsOf token route handled))
    (Handled.callsOf token route handled).map Handled.status = alone.map some ∧
      (s.handleAll newId next history).2.2.statuses token route = alone := by
  -- the clock before the history: nothing was handled yet
  obtain ⟨start, hstart⟩ : ∃ start, ∀ a ∈ history, start ≤ a.now := by
    cases history with
    | nil => exact ⟨0, fun _ h => absurd h List.not_mem_nil⟩
    | cons a rest =>
      refine ⟨a.now, fun b hb => ?_⟩
      rcases List.mem_cons.1 hb with rfl | hb
      · exact Int.le_refl _
      · exact (List.pairwise_cons.1 hclock).1 b hb
  have h : AnswersAlone s.window quota token route [] (s.handleAll newId next history).1
      (s.handleAll newId next history).2.2 :=
    answersAlone_handleAll newId hw history next s [] start
      (hnew.shows hs hquota start) hstart hclock
  obtain ⟨later, hlater⟩ := h.shows
  exact ⟨h.answers, hlater.logged⟩

/-- **Other traffic does not show.**  Two histories of a new server, each under a clock that never
    steps back and with ids of its own, in which the calls of a limited route with a token that was
    issued before them are handled at the same readings: whatever else is sent, these calls are
    answered alike, and the log of either server holds those statuses for the token and the
    route. -/
theorem statuses_noninterference (s : Server) (hnew : s.IsNew) (hs : s.sharing = .none)
    (hw : 1 ≤ s.window) (token route : String) (hroute : Table.has route s.quotas = true)
    (newId₁ newId₂ : Nat → String) (next₁ next₂ : Nat) (first second : List Arrival)
    (hfirst : first.Pairwise fun a b => a.now ≤ b.now)
    (hsecond : second.Pairwise fun a b => a.now ≤ b.now)
    (hsame : Handled.readings (Handled.callsOf token route (s.handleAll newId₁ next₁ first).1) =
      Handled.readings (Handled.callsOf token route (s.handleAll newId₂ next₂ second).1)) :
    ∃ statuses : List Int,
      (Handled.callsOf token route (s.handleAll newId₁ next₁ first).1).map Handled.status =
        statuses.map some ∧
      (Handled.callsOf token route (s.handleAll newId₂ next₂ second).1).map Handled.status =
        statuses.map some ∧
      (s.handleAll newId₁ next₁ first).2.2.statuses token route = statuses ∧
      (s.handleAll newId₂ next₂ second).2.2.statuses token route = statuses := by
  obtain ⟨quota, hquota⟩ := Option.isSome_iff_exists.1 hroute
  obtain ⟨hanswers₁, hlog₁⟩ := hnew.answers_eq hs hw hquota token newId₁ next₁ hfirst
  obtain ⟨hanswers₂, hlog₂⟩ := hnew.answers_eq hs hw hquota token newId₂ next₂ hsecond
  rw [← hsame] at hanswers₂ hlog₂
  exact ⟨_, hanswers₁, hanswers₂, hlog₁, hlog₂⟩

/-- A login of a user at a reading. -/
def loginAt (now : Int) (username password : String) : Arrival where
  message := {
    method := "POST", origin := "http://gateway.test", path := "/auth/login"
    headers := [("content-type", "application/json")]
    body := utf8Bytes ((LoginService.loginBody ⟨username, password, ""⟩).render Json.compact) }
  now := now

/-- A call of a path with a token at a reading. -/
def callAt (now : Int) (path token : String) : Arrival where
  message := { method := "GET", origin := "http://gateway.test", path := path
               headers := [("authorization", "Bearer " ++ token)] }
  now := now

/-- A gateway that serves one call of a route per window. -/
def single : Server := { quotas := [("/api/v1/users", 1), ("/api/v1/orders", 1)] }

/-- Two calls with the first token in one window. -/
def quiet : List Arrival := [loginAt 0 "user_all" "123", callAt 1010 "/api/v1/users" (idText 1),
  callAt 1020 "/api/v1/users" (idText 1)]

/-- The same two calls among one of another token and one of another route. -/
def busy : List Arrival := [loginAt 0 "user_all" "123", loginAt 900 "user_b" "123",
  callAt 1000 "/api/v1/users" (idText 3), callAt 1010 "/api/v1/users" (idText 1),
  callAt 1010 "/api/v1/orders" (idText 1), callAt 1020 "/api/v1/users" (idText 1)]

theorem statuses_noninterference_busy :
    (quiet.Pairwise fun a b => a.now ≤ b.now) ∧ (busy.Pairwise fun a b => a.now ≤ b.now) ∧
      Handled.readings (Handled.callsOf (idText 1) "/api/v1/users" (single.handleAll idText 1 busy).1) =
        [1010, 1020] ∧
      (single.handleAll idText 1 busy).2.2.statuses (idText 1) "/api/v1/users" = [200, 429] := by
  have hquiet : quiet.Pairwise fun a b => a.now ≤ b.now := by decide
  have hbusy : busy.Pairwise fun a b => a.now ≤ b.now := by decide
  have hcalls₁ : Handled.readings (Handled.callsOf (idText 1) "/api/v1/users"
        (single.handleAll idText 1 quiet).1) = [1010, 1020] ∧
      (single.handleAll idText 1 quiet).2.2.statuses (idText 1) "/api/v1/users" = [200, 429] := by
    decide +kernel
  have hreadings₂ : Handled.readings (Handled.callsOf (idText 1) "/api/v1/users"
      (single.handleAll idText 1 busy).1) = [1010, 1020] := by decide +kernel
  obtain ⟨statuses, -, -, hlog₁, hlog₂⟩ := statuses_noninterference single ⟨rfl, rfl, rfl⟩ rfl
    (by decide) (idText 1) "/api/v1/users" (by decide) idText idText 1 1 quiet busy hquiet hbusy
    (hcalls₁.1.trans hreadings₂.symm)
  exact ⟨hquiet, hbusy, hreadings₂, hlog₂.trans (hlog₁.symm.trans hcalls₁.2)⟩

end Server

end RateIsolation
