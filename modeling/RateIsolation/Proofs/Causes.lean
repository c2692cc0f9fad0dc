/-
  Why a run ends early.

  * `Reply.Usual` is an answer, a failure of the transport or an interruption;
  * `Settings.Cause` are the causes of a fault that a command lets pass: an
    address that cannot be read, a refused login of which no report is made, a
    reply that is not usual, a token outside ASCII, a wait that is too long for
    a number of seconds, a sleep that fails;
  * `Settings.Ended` are all causes: a login that gives no token, an
    interruption, and these; `Settings.Runs.ended` finds one for each fault of a
    run;
  * `Settings.Runs.results_or_cause`: where every login gives a token and every
    call is answered, a run gives results exactly if there is no such cause.
-/
import RateIsolation.Proofs.Conduct
import RateIsolation.Proofs.Sending

namespace RateIsolation

/-! ## Causes -/

/-- Whether a reply is an answer, a failure of the transport or an interruption. -/
def Reply.Usual (reply : Reply) : Prop :=
  Reply.Answered reply ∨ ∃ message, reply = .error (.interrupted message)

/-- A cause of a fault that a command lets pass, in the settings of a run or in its steps. -/
inductive Settings.Cause (settings : Settings) (steps : List Step) : Fault → Prop
  | login {f : UrlFault} (h : Url.resolve settings.scenario.auth.loginUrl = .error f) :
    Cause settings steps (.url f)
  | users {f : UrlFault} (h : Url.resolve settings.scenario.users.url = .error f) :
    Cause settings steps (.url f)
  | orders {f : UrlFault} (h : Url.resolve settings.scenario.orders.url = .error f) :
    Cause settings steps (.url f)
  | body {request : Request} {exchange : Exchange} {r : Response} {fault : Fault}
    (hsent : .sent request exchange ∈ steps) (hlogin : request.method = "POST")
    (hreply : exchange.reply = .ok r) (hescapes : r.Escapes fault) : Cause settings steps fault
  | broken {request : Request} {exchange : Exchange} {f : SendFault}
    (hsent : .sent request exchange ∈ steps) (hreply : exchange.reply = .error f)
    (h : ¬ Reply.Usual exchange.reply) : Cause settings steps (.send f)
  | token {request : Request} {exchange : Exchange} {token : String} {f : HeaderFault}
    (hsent : .sent request exchange ∈ steps) (hlogin : request.method = "POST")
    (hgives : Reply.Gives exchange.reply token) (h : headerFault? ("Bearer " ++ token) = some f) :
    Cause settings steps (.header f)
  | window {now : Int} (hread : .readClock now ∈ steps)
    (h : ¬ settings.scenario.aligner.Fits now) : Cause settings steps .secondsOverflow
  | sleep {time : Seconds} {f : SleepFault} (h : .slept time (.error f) ∈ steps) :
    Cause settings steps (.sleep f)

/-- A cause of any fault that a run can end in. -/
inductive Settings.Ended (settings : Settings) (steps : List Step) : Fault → Prop
  | refused {request : Request} {exchange : Exchange} {e : HarnessError}
    (hsent : .sent request exchange ∈ steps) (hlogin : request.method = "POST")
    (h : ∀ token, ¬ Reply.Gives exchange.reply token) : Ended settings steps (.harness e)
  | interrupted {request : Request} {exchange : Exchange} {message : String}
    (hsent : .sent request exchange ∈ steps)
    (hreply : exchange.reply = .error (.interrupted message)) :
    Ended settings steps (.send (.interrupted message))
  | caused {fault : Fault} (h : settings.Cause steps fault) : Ended settings steps fault

/-- Whether the step sends, sleeps or reads the clock. -/
def Step.isBusy : Step → Bool
  | readClock _ => true
  | slept _ _ => true
  | sent _ _ => true
  | _ => false

/-- Each login gives a token, and each call is answered. -/
def Step.Smooth : Step → Prop
  | sent request exchange => Reply.Answered exchange.reply ∧
    (request.method = "POST" → ∃ token, Reply.Gives exchange.reply token)
  | _ => True

variable {settings : Settings} {steps steps' : List Step} {fault : Fault}

/-- New ids and files bear on no cause. -/
theorem Settings.Cause.of_busy (h : settings.Cause steps fault)
    (hsub : ∀ step ∈ steps, step.isBusy = true → step ∈ steps') :
    settings.Cause steps' fault := by
  cases h with
  | login h => exact .login h
  | users h => exact .users h
  | orders h => exact .orders h
  | body hsent hlogin hreply hescapes => exact .body (hsub _ hsent rfl) hlogin hreply hescapes
  | broken hsent hreply h => exact .broken (hsub _ hsent rfl) hreply h
  | token hsent hlogin hgives h => exact .token (hsub _ hsent rfl) hlogin hgives h
  | window hread h => exact .window (hsub _ hread rfl) h
  | sleep h => exact .sleep (hsub _ h rfl)

theorem Settings.Cause.mono (h : settings.Cause steps fault) (hsub : steps ⊆ steps') :
    settings.Cause steps' fault :=
  h.of_busy fun _ hstep _ => hsub hstep

theorem Settings.Ended.mono (h : settings.Ended steps fault) (hsub : steps ⊆ steps') :
    settings.Ended steps' fault := by
  cases h with
  | refused hsent hlogin h => exact .refused (hsub hsent) hlogin h
  | interrupted hsent hreply => exact .interrupted (hsub hsent) hreply
  | caused h => exact .caused (h.mono hsub)

/-- A reply to a request that is neither an answer nor a failure of the transport ends a run. -/
theorem Settings.ended_of_not_answered {request : Request} {exchange : Exchange} {f : SendFault}
    (hsent : .sent request exchange ∈ steps) (hreply : exchange.reply = .error f)
    (h : ¬ Reply.Answered exchange.reply) : settings.Ended steps (.send f) := by
  by_cases husual : Reply.Usual exchange.reply
  · obtain ⟨message, hinterrupted⟩ := husual.resolve_left h
    cases hreply.symm.trans hinterrupted
    exact .interrupted hsent hreply
  · exact .caused (.broken hsent hreply husual)

/-! ## Logins -/

namespace LoginService

variable {l : LoginService} {i : Identity}

/-- By its reply, a login ends in a credential, in a failure that is reported, or in the fault of a
    reply that escapes. -/
theorem ending_cases (i : Identity) (reply : Reply) :
    (∃ token, Reply.Gives reply token ∧ ending i reply = .ok (i.granted token)) ∨
    (∃ e, (∀ token, ¬ Reply.Gives reply token) ∧ ending i reply = .error (.harness e) ∧
      e.isAuthentication = true) ∨
    ∃ fault, Reply.Escapes reply fault ∧ ending i reply = .error fault := by
  by_cases hescapes : ∃ fault, Reply.Escapes reply fault
  · obtain ⟨fault, hescapes⟩ := hescapes
    exact Or.inr (Or.inr ⟨fault, hescapes, ending_of_escapes i hescapes⟩)
  rcases Reply.classes reply with ⟨token, hgives⟩ | ⟨code, hrefuses⟩ | h
  · exact Or.inl ⟨token, hgives, ending_of_gives i hgives⟩
  · obtain ⟨e, he, -, hauthentication⟩ :=
      ending_of_refuses i hrefuses fun fault h => hescapes ⟨fault, h⟩
    refine Or.inr (Or.inl ⟨e, fun token hgives => ?_, he, hauthentication⟩)
    cases he.symm.trans (ending_of_gives i hgives)
  · exact absurd h hescapes

/-- A login that gives a credential was given its token. -/
theorem Attempts.granted {c : Credential} (h : l.Attempts i (.ok c) steps) :
    ∃ url exchange token, Url.resolve l.loginUrl = .ok url ∧
      steps = [.sent (l.request i url) exchange] ∧ Reply.Gives exchange.reply token ∧
        c = i.granted token := by
  generalize hr : (.ok c : Except Fault Credential) = r at h
  cases h with
  | unreadable => cases hr
  | @sent url hurl exchange =>
    replace hr : .ok c = ending i exchange.reply := hr
    rcases ending_cases i exchange.reply with ⟨token, hgives, hend⟩ | ⟨_, -, hend, -⟩ |
      ⟨_, -, hend⟩ <;> cases hr.trans hend
    exact ⟨url, exchange, token, hurl, rfl, hgives, rfl⟩

/-- A reply gives one token at most. -/
theorem gives_unique {reply : Reply} {token token' : String} (h : Reply.Gives reply token)
    (h' : Reply.Gives reply token') : token = token' := by
  obtain ⟨r, rfl, -, members, hbody, htoken, -⟩ := h
  obtain ⟨r', hr, -, members', hbody', htoken', -⟩ := h'
  cases hr
  cases hbody.symm.trans hbody'
  cases htoken.symm.trans htoken'
  rfl

/-- One that gives none was refused it, had no reply, or was not sent. -/
theorem Attempts.ended (h : settings.scenario.auth.Attempts i (.error fault) steps) :
    settings.Ended steps fault := by
  generalize hr : (.error fault : Except Fault Credential) = r at h
  cases h with
  | unreadable h =>
    cases hr
    exact .caused (.login h)
  | @sent url _ exchange =>
    have hsent : .sent (settings.scenario.auth.request i url) exchange ∈
        [Step.sent (settings.scenario.auth.request i url) exchange] := List.mem_singleton_self _
    replace hr : .error fault = ending i exchange.reply := hr
    rcases ending_cases i exchange.reply with ⟨_, -, hend⟩ | ⟨e, hnone, hend, -⟩ |
      ⟨_, hescapes, hend⟩ <;> cases hr.trans hend
    · exact .refused hsent rfl hnone
    · generalize hreply : exchange.reply = reply at hescapes
      cases hescapes with
      | answer hescapes => exact .caused (.body hsent rfl hreply hescapes)
      | broken h => exact Settings.ended_of_not_answered hsent hreply (hreply ▸ h)

end LoginService

/-! ## Tasks -/

section Tasks

variable {a : Aligner} {g : GatewayClient} {tasks : List Task} {calls : List Recording}
  {task : Task}

/-- The steps of tasks that are done. -/
inductive Task.Part (a : Aligner) : Step → Prop
  | read {now : Int} {seconds : Binary64} (h : secondsOfMillis (a.waitAt now) = some seconds) :
    Part a (.readClock now)
  | slept {time : Seconds} : Part a (.slept time (.ok ()))
  | newId {id : String} : Part a (.newId id)
  | get {request : Request} {exchange : Exchange} (h : request.method = "GET")
    (hreply : Reply.Answered exchange.reply) : Part a (.sent request exchange)

/-- No login is among them. -/
theorem Task.Part.not_login {request : Request} {exchange : Exchange}
    (h : Part a (.sent request exchange)) : request.method ≠ "POST" := by
  cases h with
  | get hget _ =>
    rw [hget]
    decide

theorem Task.Done.part (h : task.Done a g steps calls) : ∀ step ∈ steps, Part a step := by
  cases h with
  | wait hseconds =>
    refine List.forall_mem_cons.2 ⟨.read hseconds, ?_⟩
    exact List.forall_mem_singleton.2 .slept
  | call hbuild hreply =>
    refine List.forall_mem_cons.2 ⟨.newId, ?_⟩
    exact List.forall_mem_singleton.2 (.get (GatewayClient.build_method _ _ _ hbuild) hreply)

theorem Performs.part (h : Performs a g tasks (.ok ()) steps calls) :
    ∀ step ∈ steps, Task.Part a step := by
  generalize hr : (.ok () : Except Fault Unit) = r at h
  induction h with
  | done => exact fun _ h => absurd h List.not_mem_nil
  | next h _ ih => exact List.forall_mem_append.2 ⟨h.part, ih hr⟩
  | stop => cases hr

/-- Where all of some tasks were done, so was each. -/
theorem Performs.exists_done (h : Performs a g tasks (.ok ()) steps calls) (htask : task ∈ tasks) :
    ∃ steps' calls', task.Done a g steps' calls' := by
  generalize hr : (.ok () : Except Fault Unit) = r at h
  induction h with
  | done => cases htask
  | next h _ ih =>
    rcases List.mem_cons.1 htask with rfl | htask
    · exact ⟨_, _, h⟩
    · exact ih htask hr
  | stop => cases hr

/-- A call that is done could be sent. -/
theorem Task.Done.sendable {t : Target} {c : Credential} (h : Task.Done a g (.call t c) steps calls) :
    (∃ url, Url.resolve t.url = .ok url) ∧ headerFault? c.authorization = none := by
  cases h with
  | call hbuild =>
    unfold GatewayClient.build at hbuild
    split at hbuild
    · cases hbuild
    · rename_i url hurl
      split at hbuild
      · cases hbuild
      · rename_i hheader
        exact ⟨⟨url, hurl⟩, hheader⟩

/-- A call that could not be built is one of a route whose address cannot be read, or has a token
    outside ASCII. -/
theorem GatewayClient.build_error {t : Target} {c : Credential} {id : String}
    (h : g.build t c id = .error fault) :
    (∃ f, Url.resolve t.url = .error f ∧ fault = .url f) ∨
      ∃ f, headerFault? c.authorization = some f ∧ fault = .header f := by
  unfold build at h
  split at h
  · rename_i f hurl
    cases h
    exact Or.inl ⟨f, hurl, rfl⟩
  · split at h <;> cases h
    rename_i f hheader
    exact Or.inr ⟨f, hheader, rfl⟩

end Tasks

namespace Scenario

/-- Each caller calls the users route, and caller A the orders route. -/
theorem calls_mem_tasks (s : Scenario) (cA cB : Credential) :
    .call s.orders cA ∈ s.tasks cA cB ∧ .call s.users cB ∈ s.tasks cA cB := by
  simp [tasks]

/-- The calls of a run are those of a route with the credential of a caller. -/
theorem mem_tasks {s : Scenario} {cA cB : Credential} {t : Target} {c : Credential}
    (h : .call t c ∈ s.tasks cA cB) : (t = s.users ∨ t = s.orders) ∧ (c = cA ∨ c = cB) := by
  simp only [tasks, List.mem_cons, List.mem_append, List.mem_replicate, reduceCtorEq,
    Task.call.injEq, false_or, List.not_mem_nil, or_false] at h
  grind

end Scenario

/-! ## Runs -/

namespace Settings

variable {r : Except Fault RunResult} {calls : List Recording} {cA cB : Credential}

/-- Tasks of a run that fail do so for a cause, if its credentials were granted. -/
theorem ended_of_performs (hwindow : 0 < settings.windowMs) (hmargin : 0 ≤ settings.alignMarginMs)
    (hgranted : ∀ c, c = cA ∨ c = cB → ∃ request exchange, .sent request exchange ∈ steps' ∧
      request.method = "POST" ∧ Reply.Gives exchange.reply c.token)
    (hroutes : Performs settings.scenario.aligner settings.scenario.gateway
      (settings.scenario.tasks cA cB) (.error fault) steps calls) :
    settings.Ended (steps' ++ steps) fault := by
  obtain ⟨task, htask, stopped, hstopped, hsub⟩ := hroutes.exists_stopped
  have hleft : steps' ⊆ steps' ++ steps := List.subset_append_left _ _
  have hright : stopped ⊆ steps' ++ steps := List.subset_append_of_subset_right _ hsub
  cases hstopped with
  | overflow hnone =>
    refine .caused (.window (hright List.mem_cons_self) ?_)
    exact (Aligner.secondsOfMillis_waitAt hwindow hmargin).1 hnone
  | sleep => exact .caused (.sleep (hright (List.mem_cons_of_mem _ List.mem_cons_self)))
  | unbuilt hbuild =>
    obtain ⟨ht, hc⟩ := Scenario.mem_tasks htask
    rcases GatewayClient.build_error hbuild with ⟨f, hurl, rfl⟩ | ⟨f, hheader, rfl⟩
    · rcases ht with rfl | rfl
      · exact .caused (.users hurl)
      · exact .caused (.orders hurl)
    · obtain ⟨request, exchange, hsent, hlogin, hgives⟩ := hgranted _ hc
      exact .caused (.token (hleft hsent) hlogin hgives hheader)
  | broken _ hreply hf =>
    exact ended_of_not_answered (hright (List.mem_cons_of_mem _ List.mem_cons_self)) hreply hf

/-- The credentials of a run are those that its logins were given. -/
theorem granted_of_attempts {loginA loginB : List Step}
    (hA : settings.scenario.auth.Attempts settings.scenario.callerA (.ok cA) loginA)
    (hB : settings.scenario.auth.Attempts settings.scenario.callerB (.ok cB) loginB)
    (c : Credential) (hc : c = cA ∨ c = cB) :
    ∃ request exchange, .sent request exchange ∈ loginA ++ loginB ∧
      request.method = "POST" ∧ Reply.Gives exchange.reply c.token := by
  rcases hc with rfl | rfl
  · obtain ⟨url, exchange, token, -, rfl, hgives, rfl⟩ := hA.granted
    exact ⟨_, exchange, List.mem_cons_self, rfl, hgives⟩
  · obtain ⟨url, exchange, token, -, rfl, hgives, rfl⟩ := hB.granted
    exact ⟨_, exchange, List.mem_append_right _ List.mem_cons_self, rfl, hgives⟩

/-- Whatever fault a run ends in has a cause. -/
theorem Runs.ended (hwindow : 0 < settings.windowMs) (hmargin : 0 ≤ settings.alignMarginMs)
    (h : settings.Runs (.error fault) steps calls) : settings.Ended steps fault := by
  obtain ⟨begun, steps', calls', rfl, -, -, h⟩ := h.error_conducts
  refine Ended.mono ?_ (List.subset_append_right _ _)
  generalize hr : (.error fault : Except Fault Findings) = r at h
  cases h with
  | loginA hA =>
    cases hr
    exact hA.ended
  | loginB hA hB =>
    cases hr
    exact hB.ended.mono (List.subset_append_right _ _)
  | routes hA hB hroutes =>
    subst hr
    rw [← List.append_assoc]
    exact ended_of_performs hwindow hmargin (granted_of_attempts hA hB) hroutes.1

/-- A run that gives results had no cause to end early. -/
theorem Runs.not_cause (hwindow : 0 < settings.windowMs) (hmargin : 0 ≤ settings.alignMarginMs)
    {result : RunResult}
    (h : settings.Runs (.ok result) steps calls) : ¬ settings.Cause steps fault := by
  obtain ⟨id, f, begun, steps', calls', -, rfl, hbegun, -, h⟩ := h.ok_conducts
  obtain ⟨cA, cB, loginA, loginB, routes, rfl, hA, hB, hroutes, -⟩ := h.of_ok
  obtain ⟨url, exchangeA, tokenA, hurl, rfl, hgivesA, rfl⟩ := hA.granted
  obtain ⟨urlB, exchangeB, tokenB, -, rfl, hgivesB, rfl⟩ := hB.granted
  let requestA := settings.scenario.auth.request settings.scenario.callerA url
  let requestB := settings.scenario.auth.request settings.scenario.callerB urlB
  obtain ⟨hordersA, husersB⟩ := settings.scenario.calls_mem_tasks
    (settings.scenario.callerA.granted tokenA) (settings.scenario.callerB.granted tokenB)
  obtain ⟨_, _, hdone⟩ := hroutes.exists_done hordersA
  obtain ⟨⟨ordersUrl, horders⟩, hheaderA⟩ := hdone.sendable
  obtain ⟨_, _, hdone⟩ := hroutes.exists_done husersB
  obtain ⟨⟨usersUrl, husers⟩, hheaderB⟩ := hdone.sendable
  intro hcause
  -- a step is one of the logins, or no login
  have hmem : ∀ step ∈ begun ++ ([.sent requestA exchangeA] ++ ([.sent requestB exchangeB] ++
      routes)), step = .sent requestA exchangeA ∨ step = .sent requestB exchangeB ∨
        Task.Part settings.scenario.aligner step := by
    refine List.forall_mem_append.2 ⟨?_, List.forall_mem_cons.2 ⟨Or.inl rfl,
      List.forall_mem_cons.2 ⟨Or.inr (Or.inl rfl), fun step h =>
        Or.inr (Or.inr (hroutes.part step h))⟩⟩⟩
    rcases hbegun with rfl | rfl
    · exact fun _ h => absurd h List.not_mem_nil
    · exact List.forall_mem_singleton.2 (Or.inr (Or.inr .newId))
  cases hcause with
  | login h =>
    rw [hurl] at h
    cases h
  | users h =>
    rw [husers] at h
    cases h
  | orders h =>
    rw [horders] at h
    cases h
  | body hsent hlogin hreply hescapes =>
    rcases hmem _ hsent with hA | hB | hpart
    · cases hA
      exact hescapes.not_gives hreply _ hgivesA
    · cases hB
      exact hescapes.not_gives hreply _ hgivesB
    · exact absurd hlogin hpart.not_login
  | broken hsent _ hbroken =>
    refine hbroken (Or.inl ?_)
    rcases hmem _ hsent with hA | hB | hpart
    · cases hA
      exact hgivesA.answered
    · cases hB
      exact hgivesB.answered
    · cases hpart with
      | get _ hreply => exact hreply
  | token hsent hlogin hgives h =>
    rcases hmem _ hsent with hA | hB | hpart
    · cases hA
      cases LoginService.gives_unique hgives hgivesA
      exact absurd (hheaderA.symm.trans h) nofun
    · cases hB
      cases LoginService.gives_unique hgives hgivesB
      exact absurd (hheaderB.symm.trans h) nofun
    · exact absurd hlogin hpart.not_login
  | window hread h =>
    rcases hmem _ hread with hA | hB | hpart
    · cases hA
    · cases hB
    · cases hpart with
      | read hseconds =>
        rw [(Aligner.secondsOfMillis_waitAt hwindow hmargin).2 h] at hseconds
        cases hseconds
  | sleep h =>
    rcases hmem _ h with hA | hB | hpart
    · cases hA
    · cases hB
    · cases hpart

/-- Where each login gives a token and each call is answered, a run gives results if there is no
    cause to end early, and ends in a fault that has a cause otherwise. -/
theorem Runs.results_or_cause (hwindow : 0 < settings.windowMs)
    (hmargin : 0 ≤ settings.alignMarginMs) (h : settings.Runs r steps calls)
    (hsmooth : ∀ step ∈ steps, step.Smooth) :
    (∃ result, r = .ok result ∧ ∀ fault, ¬ settings.Cause steps fault) ∨
      ∃ fault, r = .error fault ∧ settings.Cause steps fault := by
  cases r with
  | ok result => exact Or.inl ⟨result, rfl, fun _ => h.not_cause hwindow hmargin⟩
  | error fault =>
    cases h.ended hwindow hmargin with
    | refused hsent hlogin hrefused =>
      obtain ⟨token, hgives⟩ := (hsmooth _ hsent).2 hlogin
      exact absurd hgives (hrefused token)
    | interrupted hsent hreply =>
      have hanswered := (hsmooth _ hsent).1
      rw [hreply] at hanswered
      exact hanswered.elim
    | caused hcause => exact Or.inr ⟨fault, rfl, hcause⟩

end Settings

end RateIsolation
