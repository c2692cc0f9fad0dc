/-
  What an action asks of the outside, and what it writes into the metrics.

  * `Step` is a question with its answer, and `World.traced` a world that keeps
    the list of them; `Step.gets`, `Step.readings`, `Step.naps` and
    `Step.files` are what such a list shows;
  * `Harness.Does x P`: whatever session the action `x` is started on, what it
    comes to, the steps that it takes and the metrics that it writes are as `P`
    says; `Does.bind`, `Does.tryCatch` and `Does.ensuring` follow an action
    step by step, `Silent` actions take no step and write no metric.
-/
import RateIsolation.Proofs.Run

namespace RateIsolation

variable {σ α β : Type}

/-! ## Steps -/

/-- A question to the outside, with its answer. -/
inductive Step where
  | readClock (now : Int)
  | slept (time : Seconds) (result : Except SleepFault Unit)
  | newId (id : String)
  | sent (request : Request) (exchange : Exchange)
  /-- A file was written in place. -/
  | wrote (path content : String) (result : Except FileFault Unit)
  /-- A file was written beside and put in place. -/
  | replaced (path content : String) (result : Except FileFault Unit)

/-- The state of an outside, with a list of all that it was asked. -/
abbrev Traced (σ : Type) := σ × List Step

/-- The same world, with a list of all that it was asked. -/
def World.traced (w : World σ) : World (Traced σ) where
  readClock := fun (s, steps) =>
    let (now, s') := w.readClock s
    (now, (s', steps ++ [.readClock now]))
  sleep := fun time (s, steps) =>
    let (result, s') := w.sleep time s
    (result, (s', steps ++ [.slept time result]))
  newId := fun (s, steps) =>
    let (id, s') := w.newId s
    (id, (s', steps ++ [.newId id]))
  send := fun request (s, steps) =>
    let (exchange, s') := w.send request s
    (exchange, (s', steps ++ [.sent request exchange]))
  writeFile := fun path content (s, steps) =>
    let (result, s') := w.writeFile path content s
    (result, (s', steps ++ [.wrote path content result]))
  replaceFile := fun path content (s, steps) =>
    let (result, s') := w.replaceFile path content s
    (result, (s', steps ++ [.replaced path content result]))

namespace Step

/-- The call of a route, if the step is one. -/
def get? : Step → Option Call
  | sent request exchange =>
    if request.method = "GET" then some ⟨request, exchange.reply⟩ else none
  | _ => none

/-- The reading, if the step is one. -/
def reading? : Step → Option Int
  | readClock now => some now
  | _ => none

/-- The time, if the step is a sleep that came to its end. -/
def nap? : Step → Option Seconds
  | slept time (.ok ()) => some time
  | _ => none

/-- Whether the step writes a file. -/
def isFile : Step → Bool
  | wrote _ _ _ => true
  | replaced _ _ _ => true
  | _ => false

/-- The calls of routes among steps, with their replies. -/
def gets (steps : List Step) : List Call := steps.filterMap get?

/-- The readings of the clock among steps. -/
def readings (steps : List Step) : List Int := steps.filterMap reading?

/-- The times of the sleeps that came to their end. -/
def naps (steps : List Step) : List Seconds := steps.filterMap nap?

/-- The steps that write files. -/
def files (steps : List Step) : List Step := steps.filter isFile

@[simp] theorem gets_append (l₁ l₂ : List Step) : gets (l₁ ++ l₂) = gets l₁ ++ gets l₂ :=
  List.filterMap_append

@[simp] theorem readings_append (l₁ l₂ : List Step) :
    readings (l₁ ++ l₂) = readings l₁ ++ readings l₂ :=
  List.filterMap_append

@[simp] theorem naps_append (l₁ l₂ : List Step) : naps (l₁ ++ l₂) = naps l₁ ++ naps l₂ :=
  List.filterMap_append

@[simp] theorem files_append (l₁ l₂ : List Step) : files (l₁ ++ l₂) = files l₁ ++ files l₂ :=
  List.filter_append _ _

end Step

/-! ## Metrics -/

theorem Metrics.recordAll_append (m : Metrics) (calls calls' : List Recording) :
    m.recordAll (calls ++ calls') = (m.recordAll calls).recordAll calls' :=
  List.foldl_append

/-! ## What an action does -/

/-- What is said of an end, the steps on the way to it, and the metrics written. -/
abbrev Account (α : Type) := Except Fault α → List Step → List Recording → Prop

namespace Harness

/-- Whatever session an action is started on: its end, its steps and its metrics are as told. -/
def Does (x : Harness (Traced σ) α) (P : Account α) : Prop :=
  ∀ s, ∃ steps calls, (x.run.run s).2.world.2 = s.world.2 ++ steps ∧
    (x.run.run s).2.metrics = s.metrics.map (Metrics.recordAll · calls) ∧
    P (x.run.run s).1 steps calls

variable {x : Harness (Traced σ) α} {f : α → Harness (Traced σ) β} {P : Account α}

theorem Does.mono {Q : Account α} (h : Does x P)
    (hPQ : ∀ r steps calls, P r steps calls → Q r steps calls) : Does x Q := by
  intro s
  obtain ⟨steps, calls, hworld, hmetrics, hP⟩ := h s
  exact ⟨steps, calls, hworld, hmetrics, hPQ _ _ _ hP⟩

theorem recordAll_nil (m : Option Metrics) : m.map (Metrics.recordAll · []) = m := by
  cases m <;> rfl

theorem does_pure {a : α} (h : P (.ok a) [] []) : Does (pure a : Harness (Traced σ) α) P :=
  fun _ => ⟨[], [], (List.append_nil _).symm, (recordAll_nil _).symm, h⟩

theorem does_throw {e : Fault} (h : P (.error e) [] []) :
    Does (throw e : Harness (Traced σ) α) P :=
  fun _ => ⟨[], [], (List.append_nil _).symm, (recordAll_nil _).symm, h⟩

/-- Two stretches of steps and metrics are one. -/
theorem account_append {s s₁ s₂ : Session (Traced σ)} {steps steps' : List Step}
    {calls calls' : List Recording} (hworld : s₁.world.2 = s.world.2 ++ steps)
    (hmetrics : s₁.metrics = s.metrics.map (Metrics.recordAll · calls))
    (hworld' : s₂.world.2 = s₁.world.2 ++ steps')
    (hmetrics' : s₂.metrics = s₁.metrics.map (Metrics.recordAll · calls')) :
    s₂.world.2 = s.world.2 ++ (steps ++ steps') ∧
      s₂.metrics = s.metrics.map (Metrics.recordAll · (calls ++ calls')) := by
  constructor
  · rw [hworld', hworld, List.append_assoc]
  · rw [hmetrics', hmetrics, Option.map_map]
    congr 1
    funext m
    exact (m.recordAll_append calls calls').symm

theorem Does.bind {Q : α → Account β} {R : Account β} (hx : Does x P)
    (hf : ∀ a, Does (f a) (Q a))
    (herror : ∀ e steps calls, P (.error e) steps calls → R (.error e) steps calls)
    (hok : ∀ a steps calls r steps' calls', P (.ok a) steps calls → Q a r steps' calls' →
      R r (steps ++ steps') (calls ++ calls')) :
    Does (x >>= f) R := by
  intro s
  obtain ⟨steps, calls, hworld, hmetrics, hP⟩ := hx s
  rw [run_bind]
  rcases hrun : x.run.run s with ⟨e | a, s₁⟩ <;> rw [hrun] at hworld hmetrics hP
  · exact ⟨steps, calls, hworld, hmetrics, herror e _ _ hP⟩
  · obtain ⟨steps', calls', hworld', hmetrics', hQ⟩ := hf a s₁
    obtain ⟨hw, hm⟩ := account_append hworld hmetrics hworld' hmetrics'
    exact ⟨_, _, hw, hm, hok a _ _ _ _ _ hP hQ⟩

theorem Does.tryCatch {g : Fault → Harness (Traced σ) α} {Q : Fault → Account α}
    {R : Account α} (hx : Does x P) (hg : ∀ e, Does (g e) (Q e))
    (hok : ∀ a steps calls, P (.ok a) steps calls → R (.ok a) steps calls)
    (herror : ∀ e steps calls r steps' calls', P (.error e) steps calls → Q e r steps' calls' →
      R r (steps ++ steps') (calls ++ calls')) :
    Does (tryCatch x g) R := by
  intro s
  obtain ⟨steps, calls, hworld, hmetrics, hP⟩ := hx s
  rw [run_tryCatch]
  rcases hrun : x.run.run s with ⟨e | a, s₁⟩ <;> rw [hrun] at hworld hmetrics hP
  · obtain ⟨steps', calls', hworld', hmetrics', hQ⟩ := hg e s₁
    obtain ⟨hw, hm⟩ := account_append hworld hmetrics hworld' hmetrics'
    exact ⟨_, _, hw, hm, herror e _ _ _ _ _ hP hQ⟩
  · exact ⟨steps, calls, hworld, hmetrics, hok a _ _ hP⟩

/-! ## Silent actions -/

/-- An action that comes to its end, takes no step and writes no metric. -/
def Silent (x : Harness (Traced σ) Unit) : Prop :=
  Does x fun r steps calls => r = .ok () ∧ steps = [] ∧ calls = []

theorem silent_pure : Silent (pure () : Harness (Traced σ) Unit) :=
  does_pure ⟨rfl, rfl, rfl⟩

theorem silent_modify {g : Session (Traced σ) → Session (Traced σ)}
    (hworld : ∀ s, (g s).world = s.world) (hmetrics : ∀ s, (g s).metrics = s.metrics) :
    Silent (modify g) := by
  intro s
  refine ⟨[], [], ?_, ?_, rfl, rfl, rfl⟩
  · rw [List.append_nil]
    exact congrArg Prod.snd (hworld s)
  · rw [recordAll_nil]
    exact hmetrics s

/-- What an action does is not changed by a silent one before it. -/
theorem Silent.bind {y : Harness (Traced σ) Unit} {f : Unit → Harness (Traced σ) β}
    {R : Account β} (hy : Silent y) (hf : Does (f ()) R) : Does (y >>= f) R := by
  refine Does.bind hy (fun _ => hf) ?_ ?_
  · rintro e steps calls ⟨h, -⟩
    cases h
  · rintro _ _ _ r steps calls ⟨-, rfl, rfl⟩ h
    exact h

/-- Nor is it by a silent one on every way out. -/
theorem Does.ensuring {after : Harness (Traced σ) Unit} (hx : Does x P)
    (hafter : Silent after) : Does (ensuring x after) P := by
  intro s
  obtain ⟨steps, calls, hworld, hmetrics, hP⟩ := hx s
  obtain ⟨steps', calls', hworld', hmetrics', hok, rfl, rfl⟩ := hafter (x.run.run s).2
  obtain ⟨hw, hm⟩ := account_append hworld hmetrics hworld' hmetrics'
  rw [run_ensuring]
  rcases hrun : after.run.run (x.run.run s).2 with ⟨_ | _, s₁⟩ <;> rw [hrun] at hok hw hm
  · cases hok
  · rw [List.append_nil] at hw hm
    exact ⟨steps, calls, hw, hm, hP⟩

theorem Silent.forM {g : β → Harness (Traced σ) Unit} (hg : ∀ b, Silent (g b))
    (l : List β) : Silent (l.forM g) := by
  induction l with
  | nil => exact silent_pure
  | cons b l ih => exact (hg b).bind ih

theorem silent_log (logger : String) (severity : Severity) (event : String)
    (fields : List (String × Json)) :
    Silent (log (σ := Traced σ) logger severity event fields) := by
  apply silent_modify <;> intro s <;> split <;> rfl

theorem silent_setPhase (phase : Option String) :
    Silent (setPhase (σ := Traced σ) phase) :=
  silent_modify (fun _ => rfl) (fun _ => rfl)

theorem silent_setRunId (runId : String) : Silent (setRunId (σ := Traced σ) runId) :=
  silent_modify (fun _ => rfl) (fun _ => rfl)

theorem silent_openConnection (timeout : Seconds) :
    Silent (openConnection (σ := Traced σ) timeout) :=
  silent_modify (fun _ => rfl) (fun _ => rfl)

/-! ## Single steps -/

theorem does_record (call : Recording) :
    Does (record (σ := Traced σ) call) fun r steps calls =>
      r = .ok () ∧ steps = [] ∧ calls = [call] :=
  fun _ => ⟨[], [call], (List.append_nil _).symm, rfl, rfl, rfl, rfl⟩

theorem does_ask {g : Traced σ → α × Traced σ} {step : α → Step}
    (hg : ∀ st, (g st).2.2 = st.2 ++ [step (g st).1]) :
    Does (ask g) fun r steps calls => ∃ a, r = .ok a ∧ steps = [step a] ∧ calls = [] :=
  fun s => ⟨[step (g s.world).1], [], hg s.world, (recordAll_nil _).symm, _, rfl, rfl, rfl⟩

variable (w : World σ)

theorem does_readClock : Does (readClock w.traced) fun r steps calls =>
    ∃ now, r = .ok now ∧ steps = [.readClock now] ∧ calls = [] :=
  does_ask fun _ => rfl

theorem does_newId : Does (newId w.traced) fun r steps calls =>
    ∃ id, r = .ok id ∧ steps = [.newId id] ∧ calls = [] :=
  does_ask fun _ => rfl

theorem does_sleep (time : Seconds) : Does (sleep w.traced time) fun r steps calls =>
    ∃ result, r = result.mapError .sleep ∧ steps = [.slept time result] ∧ calls = [] := by
  have hask : Does (ask (w.traced.sleep time)) fun r steps calls =>
      ∃ result, r = .ok result ∧ steps = [.slept time result] ∧ calls = [] :=
    does_ask fun _ => rfl
  have hresult (result : Except SleepFault Unit) :
      Does (ofExcept (σ := Traced σ) .sleep result) fun r steps calls =>
        r = result.mapError .sleep ∧ steps = [] ∧ calls = [] := by
    cases result with
    | ok _ => exact does_pure ⟨rfl, rfl, rfl⟩
    | error _ => exact does_throw ⟨rfl, rfl, rfl⟩
  refine hask.bind hresult ?_ ?_
  · rintro e steps calls ⟨result, h, -⟩
    cases h
  · rintro result steps calls r steps' calls' ⟨_, ⟨⟩, rfl, rfl⟩ ⟨rfl, rfl, rfl⟩
    exact ⟨result, rfl, rfl, rfl⟩

theorem does_send (request : Request) : Does (send w.traced request) fun r steps calls =>
    ∃ exchange, r = .ok exchange.reply ∧ steps = [.sent request exchange] ∧ calls = [] := by
  have hask : Does (ask (w.traced.send request)) fun r steps calls =>
      ∃ exchange, r = .ok exchange ∧ steps = [.sent request exchange] ∧ calls = [] :=
    does_ask fun _ => rfl
  have hnotes (exchange : Exchange) :
      Does (do exchange.notes.forM (writeNote (σ := Traced σ)); return exchange.reply)
        fun r steps calls => r = .ok exchange.reply ∧ steps = [] ∧ calls = [] :=
    (Silent.forM (fun _ => silent_log _ _ _ _) _).bind (does_pure ⟨rfl, rfl, rfl⟩)
  refine hask.bind hnotes ?_ ?_
  · rintro e steps calls ⟨exchange, h, -⟩
    cases h
  · rintro exchange steps calls r steps' calls' ⟨_, ⟨⟩, rfl, rfl⟩ ⟨rfl, rfl, rfl⟩
    exact ⟨exchange, rfl, rfl, rfl⟩

end Harness

end RateIsolation
