/-
  Two runs of an action side by side.

  Two runs have the same answers if the readings of the clock, the new ids, the
  ends of the sleeps and of the writings, and the replies are the same one by
  one, but for tokens in replies to logins.

  * `Step.Alike`: the same step, or two requests that differ at most in a
    password and in tokens; `Session.Alike` are sessions that differ in such
    steps only;
  * `SameAnswers t₁ t₂`: the answers among the steps `t₁` and `t₂` are alike,
    as far as both go;
  * `Twins t₁ t₂ P A x₁ x₂`: if `P`, then runs of the actions `x₁` and `x₂` on
    sessions that are alike, the steps of which are the first of `t₁` and of
    `t₂`, end in values that `A` relates or in the same fault, and leave
    sessions that are alike;
  * `Twins.bind`, `Twins.bind_eq`, `Twins.forM`, `Twins.tryCatch` and
    `Twins.ensuring` follow two actions step by step, `twins_log`, `twins_send`
    and the like are single steps.
-/
import RateIsolation.Proofs.FatalLogin
import RateIsolation.Proofs.Frame
import RateIsolation.Proofs.Trace

namespace RateIsolation

variable {σ τ α β γ δ : Type}

/-! ## What may differ -/

/-- A token that can be sent in a header. -/
def SentAsIs (token : String) : Prop := ∀ ch ∈ token.toList, ch.toNat < 128

/-- Callers that differ at most in the password. -/
structure Identity.Alike (i₁ i₂ : Identity) : Prop where
  username : i₁.username = i₂.username
  label : i₁.label = i₂.label

/-- The same token, or two tokens in ASCII. -/
def TokensAlike (token₁ token₂ : String) : Prop :=
  token₁ = token₂ ∨ SentAsIs token₁ ∧ SentAsIs token₂

theorem tokensAlike_refl (token : String) : TokensAlike token token := Or.inl rfl

/-- Credentials that differ at most in the token. -/
structure Credential.Alike (c₁ c₂ : Credential) : Prop where
  username : c₁.username = c₂.username
  label : c₁.label = c₂.label
  token : TokensAlike c₁.token c₂.token

/-- Requests that differ at most in the authorization, and in the password of a login. -/
structure Request.Alike (q₁ q₂ : Request) : Prop where
  method : q₁.method = q₂.method
  url : q₁.url = q₂.url
  requestId : q₁.requestId = q₂.requestId
  timeout : q₁.timeout = q₂.timeout
  body : q₁.body = q₂.body ∨ ∃ i₁ i₂ : Identity, i₁.Alike i₂ ∧
    q₁.body = some (LoginService.loginBody i₁) ∧ q₂.body = some (LoginService.loginBody i₂)

/-- The same reply, or two that give a token in ASCII. -/
def Reply.Alike (r₁ r₂ : Reply) : Prop :=
  r₁ = r₂ ∨ ∃ token₁ token₂, Reply.Gives r₁ token₁ ∧ Reply.Gives r₂ token₂ ∧
    SentAsIs token₁ ∧ SentAsIs token₂

/-- Replies that are alike, with the same notes of the gateway. -/
structure Exchange.Alike (x₁ x₂ : Exchange) : Prop where
  reply : Reply.Alike x₁.reply x₂.reply
  notes : x₁.notes = x₂.notes

/-- The same step, or two requests that differ at most in a password and in tokens. -/
inductive Step.Alike : Step → Step → Prop
  | same (e : Step) : Alike e e
  | sent {q₁ q₂ : Request} {x₁ x₂ : Exchange} (hq : q₁.Alike q₂) (hx : x₁.Alike x₂) :
    Alike (.sent q₁ x₁) (.sent q₂ x₂)

/-- Sessions that differ at most in the state of the outside and in such steps. -/
structure Session.Alike (s₁ : Session (Traced σ)) (s₂ : Session (Traced τ)) : Prop where
  steps : List.Forall₂ Step.Alike s₁.world.2 s₂.world.2
  context : s₁.context = s₂.context
  logging : s₁.logging = s₂.logging
  entries : s₁.entries = s₂.entries
  printed : s₁.printed = s₂.printed
  metrics : s₁.metrics = s₂.metrics
  opened : s₁.opened = s₂.opened

/-! ## Answers -/

namespace Step

/-- The id, if the step takes one. -/
def id? : Step → Option String
  | newId id => some id
  | _ => none

/-- How a sleep ended, if the step is one. -/
def rest? : Step → Option (Except SleepFault Unit)
  | slept _ result => some result
  | _ => none

/-- What came of writing a file, if the step does. -/
def writing? : Step → Option (Except FileFault Unit)
  | wrote _ _ result => some result
  | replaced _ _ result => some result
  | _ => none

/-- The reply with its notes, if the step is a request. -/
def exchange? : Step → Option Exchange
  | sent _ exchange => some exchange
  | _ => none

end Step

/-- The answers of one kind are related one by one, as far as both go. -/
def Answers (f : Step → Option γ) (R : γ → γ → Prop) (t₁ t₂ : List Step) : Prop :=
  ∀ p ∈ (t₁.filterMap f).zip (t₂.filterMap f), R p.1 p.2

/-- The answers are alike: the k-th reading, the k-th id, the end of the k-th sleep, that of the
    k-th writing, and the k-th reply. -/
structure SameAnswers (t₁ t₂ : List Step) : Prop where
  readings : Answers Step.reading? Eq t₁ t₂
  ids : Answers Step.id? Eq t₁ t₂
  sleeps : Answers Step.rest? Eq t₁ t₂
  writings : Answers Step.writing? Eq t₁ t₂
  replies : Answers Step.exchange? Exchange.Alike t₁ t₂

/-- All requests have an answer of a kind, or none has. -/
def Kind (f : Step → Option γ) : Prop :=
  ∀ q₁ x₁ q₂ x₂, (f (.sent q₁ x₁)).isSome = (f (.sent q₂ x₂)).isSome

theorem length_filterMap_of_alike {f : Step → Option γ} (hf : Kind f) {l₁ l₂ : List Step}
    (h : List.Forall₂ Step.Alike l₁ l₂) : (l₁.filterMap f).length = (l₂.filterMap f).length := by
  induction h with
  | nil => rfl
  | @cons e₁ e₂ l₁ l₂ he _ ih =>
    have hsome : (f e₁).isSome = (f e₂).isSome := by
      cases he with
      | same => rfl
      | sent => exact hf _ _ _ _
    rw [List.filterMap_cons, List.filterMap_cons]
    cases h₁ : f e₁ <;> cases h₂ : f e₂ <;> rw [h₁, h₂] at hsome
    · exact ih
    · cases hsome
    · cases hsome
    · exact congrArg (· + 1) ih

/-- After steps that are alike, the next answers of a kind are related. -/
theorem Answers.next {f : Step → Option γ} {R : γ → γ → Prop} {t₁ t₂ l₁ l₂ : List Step}
    (h : Answers f R t₁ t₂) (hf : Kind f) (hl : List.Forall₂ Step.Alike l₁ l₂) {e₁ e₂ : Step}
    {a b : γ} (h₁ : l₁ ++ [e₁] <+: t₁) (h₂ : l₂ ++ [e₂] <+: t₂) (ha : f e₁ = some a)
    (hb : f e₂ = some b) : R a b := by
  obtain ⟨m₁, rfl⟩ := h₁
  obtain ⟨m₂, rfl⟩ := h₂
  refine h (a, b) ?_
  have hlength := length_filterMap_of_alike hf hl
  simp only [List.append_assoc, List.filterMap_append, List.singleton_append,
    List.filterMap_cons, ha, hb]
  rw [List.zip_append hlength]
  exact List.mem_append_right _ List.mem_cons_self

/-! ## Two actions -/

/-- Results that are related, or the same failure. -/
inductive ResultsAlike {ε : Type} (A : α → β → Prop) : Except ε α → Except ε β → Prop
  | ok {a : α} {b : β} (h : A a b) : ResultsAlike A (.ok a) (.ok b)
  | error (e : ε) : ResultsAlike A (.error e) (.error e)

theorem resultsAlike_refl {ε : Type} {A : α → α → Prop} (hA : ∀ a, A a a) (r : Except ε α) :
    ResultsAlike A r r := by
  cases r with
  | ok a => exact .ok (hA a)
  | error e => exact .error e

/-- Results whose values are the same are the same. -/
theorem ResultsAlike.eq {ε : Type} {r₁ r₂ : Except ε α} (h : ResultsAlike Eq r₁ r₂) : r₁ = r₂ := by
  cases h with
  | ok h => rw [h]
  | error e => rfl

/-- The steps of a session go on. -/
def Grows (s s' : Session (Traced σ)) : Prop := s.world.2 <+: s'.world.2

theorem composes_grows : Harness.Composes (Grows (σ := σ)) :=
  ⟨fun _ => List.prefix_rfl, fun h h' => h.trans h'⟩

/-- Whatever is asked, it is one step more. -/
theorem respects_grows (w : World σ) : Harness.Respects Grows w.traced where
  toComposes := composes_grows
  entries _ _ := List.prefix_rfl
  context _ _ := List.prefix_rfl
  recorded _ _ := List.prefix_rfl
  opened _ _ := List.prefix_rfl
  readClock _ := List.prefix_append _ _
  sleep _ _ := List.prefix_append _ _
  newId _ := List.prefix_append _ _
  send _ _ := List.prefix_append _ _

open Harness

/-- The steps of a sequence go on after its first action. -/
theorem grows_bind {x : Harness (Traced σ) α} {f : α → Harness (Traced σ) β}
    (hf : ∀ a, Moves Grows (f a)) (s : Session (Traced σ)) :
    Grows (x.run.run s).2 ((x >>= f).run.run s).2 := by
  rw [run_bind]
  rcases x.run.run s with ⟨_ | a, s'⟩
  · exact List.prefix_rfl
  · exact hf a s'

theorem grows_tryCatch {x : Harness (Traced σ) α} {g : Fault → Harness (Traced σ) α}
    (hg : ∀ e, Moves Grows (g e)) (s : Session (Traced σ)) :
    Grows (x.run.run s).2 ((tryCatch x g).run.run s).2 := by
  rw [run_tryCatch]
  rcases x.run.run s with ⟨e | _, s'⟩
  · exact hg e s'
  · exact List.prefix_rfl

theorem snd_ensuring (x : Harness (Traced σ) α) (after : Harness (Traced σ) Unit)
    (s : Session (Traced σ)) :
    ((ensuring x after).run.run s).2 = (after.run.run (x.run.run s).2).2 := by
  rw [run_ensuring]
  rcases after.run.run (x.run.run s).2 with ⟨_ | _, s'⟩ <;> rfl

/-- Two actions of which the steps go on and that, if `P`, do alike on sessions that are alike, as
    long as the steps are the first of `t₁` and of `t₂`. -/
structure Twins (t₁ t₂ : List Step) (P : Prop) (A : α → β → Prop) (x₁ : Harness (Traced σ) α)
    (x₂ : Harness (Traced τ) β) : Prop where
  grows₁ : Moves Grows x₁
  grows₂ : Moves Grows x₂
  alike : P → ∀ s₁ s₂, s₁.Alike s₂ → (x₁.run.run s₁).2.world.2 <+: t₁ →
    (x₂.run.run s₂).2.world.2 <+: t₂ →
    ResultsAlike A (x₁.run.run s₁).1 (x₂.run.run s₂).1 ∧
      (x₁.run.run s₁).2.Alike (x₂.run.run s₂).2

section Twins

variable {t₁ t₂ : List Step} {P : Prop} {A : α → β → Prop} {B : γ → δ → Prop}
  {x₁ : Harness (Traced σ) α} {x₂ : Harness (Traced τ) β} {f₁ : α → Harness (Traced σ) γ}
  {f₂ : β → Harness (Traced τ) δ} {a : α} {b : β}

/-- Of actions whose steps go on, it is enough to look at the case in question. -/
theorem twins_of_imp (h₁ : Moves Grows x₁) (h₂ : Moves Grows x₂)
    (h : P → Twins t₁ t₂ True A x₁ x₂) : Twins t₁ t₂ P A x₁ x₂ :=
  ⟨h₁, h₂, fun hP => (h hP).alike trivial⟩

theorem Twins.weaken {Q : Prop} (h : Twins t₁ t₂ P A x₁ x₂) (hQ : Q → P) :
    Twins t₁ t₂ Q A x₁ x₂ :=
  ⟨h.grows₁, h.grows₂, fun hq => h.alike (hQ hq)⟩

theorem twins_pure (h : P → A a b) :
    Twins t₁ t₂ P A (pure a : Harness (Traced σ) α) (pure b : Harness (Traced τ) β) :=
  ⟨moves_pure composes_grows a, moves_pure composes_grows b,
    fun hP _ _ hs _ _ => ⟨.ok (h hP), hs⟩⟩

theorem twins_throw (e : Fault) :
    Twins t₁ t₂ P A (throw e : Harness (Traced σ) α) (throw e : Harness (Traced τ) β) :=
  ⟨moves_throw composes_grows e, moves_throw composes_grows e,
    fun _ _ _ hs _ _ => ⟨.error e, hs⟩⟩

theorem Twins.bind_of_grows (hx : Twins t₁ t₂ P A x₁ x₂) (h₁ : ∀ a, Moves Grows (f₁ a))
    (h₂ : ∀ b, Moves Grows (f₂ b)) (hf : ∀ a b, A a b → Twins t₁ t₂ P B (f₁ a) (f₂ b)) :
    Twins t₁ t₂ P B (x₁ >>= f₁) (x₂ >>= f₂) := by
  refine ⟨hx.grows₁.bind composes_grows h₁, hx.grows₂.bind composes_grows h₂, ?_⟩
  intro hP s₁ s₂ hs ht₁ ht₂
  -- what follows the first actions only adds steps, so theirs are the first ones too
  obtain ⟨hr, hs'⟩ := hx.alike hP s₁ s₂ hs ((grows_bind h₁ s₁).trans ht₁)
    ((grows_bind h₂ s₂).trans ht₂)
  rw [run_bind] at ht₁ ht₂ ⊢
  rw [run_bind]
  rcases hrun₁ : x₁.run.run s₁ with ⟨r₁, s₁'⟩
  rcases hrun₂ : x₂.run.run s₂ with ⟨r₂, s₂'⟩
  rw [hrun₁] at ht₁ hr hs'
  rw [hrun₂] at ht₂ hr hs'
  cases hr with
  | @ok a b hA => exact (hf a b hA).alike hP s₁' s₂' hs' ht₁ ht₂
  | error e => exact ⟨.error e, hs'⟩

/-- A sequence of which the second actions are alike on values that are related. -/
theorem Twins.bind [Nonempty α] [Nonempty β] (hx : Twins t₁ t₂ P A x₁ x₂)
    (hf : ∀ a b, Twins t₁ t₂ (P ∧ A a b) B (f₁ a) (f₂ b)) :
    Twins t₁ t₂ P B (x₁ >>= f₁) (x₂ >>= f₂) :=
  hx.bind_of_grows (fun a => (hf a (Classical.arbitrary β)).grows₁)
    (fun b => (hf (Classical.arbitrary α) b).grows₂)
    fun a b hA => (hf a b).weaken fun hP => ⟨hP, hA⟩

/-- A sequence of which the first actions give the same. -/
theorem Twins.bind_eq {x₂ : Harness (Traced τ) α} {f₂ : α → Harness (Traced τ) δ}
    (hx : Twins t₁ t₂ P Eq x₁ x₂) (hf : ∀ a, Twins t₁ t₂ P B (f₁ a) (f₂ a)) :
    Twins t₁ t₂ P B (x₁ >>= f₁) (x₂ >>= f₂) := by
  refine hx.bind_of_grows (fun a => (hf a).grows₁) (fun a => (hf a).grows₂) ?_
  rintro a _ rfl
  exact hf a

theorem Twins.forM {g₁ : α → Harness (Traced σ) Unit} {g₂ : α → Harness (Traced τ) Unit}
    (hg : ∀ a, Twins t₁ t₂ P Eq (g₁ a) (g₂ a)) (l : List α) :
    Twins t₁ t₂ P Eq (l.forM g₁) (l.forM g₂) := by
  induction l with
  | nil => exact twins_pure fun _ => rfl
  | cons a l ih => exact (hg a).bind_eq fun _ => ih

theorem Twins.tryCatch {g₁ : Fault → Harness (Traced σ) α} {g₂ : Fault → Harness (Traced τ) β}
    (hx : Twins t₁ t₂ P A x₁ x₂) (hg : ∀ e, Twins t₁ t₂ P A (g₁ e) (g₂ e)) :
    Twins t₁ t₂ P A (tryCatch x₁ g₁) (tryCatch x₂ g₂) := by
  refine ⟨hx.grows₁.tryCatch composes_grows fun e => (hg e).grows₁,
    hx.grows₂.tryCatch composes_grows fun e => (hg e).grows₂, ?_⟩
  intro hP s₁ s₂ hs ht₁ ht₂
  obtain ⟨hr, hs'⟩ := hx.alike hP s₁ s₂ hs
    ((grows_tryCatch (fun e => (hg e).grows₁) s₁).trans ht₁)
    ((grows_tryCatch (fun e => (hg e).grows₂) s₂).trans ht₂)
  rw [run_tryCatch] at ht₁ ht₂ ⊢
  rw [run_tryCatch]
  rcases hrun₁ : x₁.run.run s₁ with ⟨r₁, s₁'⟩
  rcases hrun₂ : x₂.run.run s₂ with ⟨r₂, s₂'⟩
  rw [hrun₁] at ht₁ hr hs'
  rw [hrun₂] at ht₂ hr hs'
  cases hr with
  | ok h => exact ⟨.ok h, hs'⟩
  | error e => exact (hg e).alike hP s₁' s₂' hs' ht₁ ht₂

theorem Twins.ensuring {after₁ : Harness (Traced σ) Unit} {after₂ : Harness (Traced τ) Unit}
    (hx : Twins t₁ t₂ P A x₁ x₂) (hafter : Twins t₁ t₂ P Eq after₁ after₂) :
    Twins t₁ t₂ P A (ensuring x₁ after₁) (ensuring x₂ after₂) := by
  refine ⟨hx.grows₁.ensuring composes_grows hafter.grows₁,
    hx.grows₂.ensuring composes_grows hafter.grows₂, ?_⟩
  intro hP s₁ s₂ hs ht₁ ht₂
  rw [snd_ensuring] at ht₁ ht₂
  obtain ⟨hr, hs'⟩ := hx.alike hP s₁ s₂ hs ((hafter.grows₁ _).trans ht₁)
    ((hafter.grows₂ _).trans ht₂)
  obtain ⟨hr', hs''⟩ := hafter.alike hP _ _ hs' ht₁ ht₂
  rw [run_ensuring, run_ensuring]
  rcases hrun₁ : after₁.run.run (x₁.run.run s₁).2 with ⟨r₁, s₁'⟩
  rcases hrun₂ : after₂.run.run (x₂.run.run s₂).2 with ⟨r₂, s₂'⟩
  rw [hrun₁, hrun₂] at hr' hs''
  cases hr' with
  | ok _ => exact ⟨hr, hs''⟩
  | error e => exact ⟨.error e, hs''⟩

theorem twins_ofExcept {ε : Type} (fault : ε → Fault) {r₁ : Except ε α} {r₂ : Except ε β}
    (h : P → ResultsAlike A r₁ r₂) :
    Twins t₁ t₂ P A (ofExcept (σ := Traced σ) fault r₁) (ofExcept (σ := Traced τ) fault r₂) := by
  refine twins_of_imp (moves_ofExcept composes_grows fault r₁)
    (moves_ofExcept composes_grows fault r₂) fun hP => ?_
  cases h hP with
  | ok hA => exact twins_pure fun _ => hA
  | error e => exact twins_throw (fault e)

/-- Where the result is the same. -/
theorem twins_ofExcept_self {ε : Type} (fault : ε → Fault) (r : Except ε α) :
    Twins t₁ t₂ P Eq (ofExcept (σ := Traced σ) fault r) (ofExcept (σ := Traced τ) fault r) :=
  twins_ofExcept fault fun _ => resultsAlike_refl (fun _ => rfl) r

/-- Changes of the session beside the steps. -/
theorem twins_modify {g₁ : Session (Traced σ) → Session (Traced σ)}
    {g₂ : Session (Traced τ) → Session (Traced τ)} (h₁ : ∀ s, (g₁ s).world = s.world)
    (h₂ : ∀ s, (g₂ s).world = s.world) (h : ∀ s₁ s₂, s₁.Alike s₂ → (g₁ s₁).Alike (g₂ s₂)) :
    Twins t₁ t₂ P Eq (modify g₁ : Harness (Traced σ) Unit)
      (modify g₂ : Harness (Traced τ) Unit) := by
  refine ⟨fun s => ?_, fun s => ?_, fun _ s₁ s₂ hs _ _ => ⟨.ok rfl, h s₁ s₂ hs⟩⟩
  · show s.world.2 <+: (g₁ s).world.2
    rw [h₁]
  · show s.world.2 <+: (g₂ s).world.2
    rw [h₂]

/-- Questions of a kind, the answers to which are related, as steps that are alike. -/
theorem twins_ask {g₁ : Traced σ → α × Traced σ} {g₂ : Traced τ → α × Traced τ}
    {k₁ k₂ : α → Step} {f : Step → Option α} {R : α → α → Prop} (hR : Answers f R t₁ t₂)
    (hf : Kind f) (hg₁ : ∀ st, (g₁ st).2.2 = st.2 ++ [k₁ (g₁ st).1])
    (hg₂ : ∀ st, (g₂ st).2.2 = st.2 ++ [k₂ (g₂ st).1]) (hk₁ : ∀ a, f (k₁ a) = some a)
    (hk₂ : ∀ a, f (k₂ a) = some a) (hstep : P → ∀ a b, R a b → (k₁ a).Alike (k₂ b)) :
    Twins t₁ t₂ P R (ask g₁) (ask g₂) := by
  refine ⟨fun s => ⟨_, (hg₁ s.world).symm⟩, fun s => ⟨_, (hg₂ s.world).symm⟩, ?_⟩
  intro hP s₁ s₂ hs ht₁ ht₂
  change (g₁ s₁.world).2.2 <+: t₁ at ht₁
  change (g₂ s₂.world).2.2 <+: t₂ at ht₂
  rw [hg₁] at ht₁
  rw [hg₂] at ht₂
  -- as many answers of the kind came before on either side
  have hanswer : R (g₁ s₁.world).1 (g₂ s₂.world).1 :=
    hR.next hf hs.steps ht₁ ht₂ (hk₁ _) (hk₂ _)
  refine ⟨.ok hanswer, ⟨?_, hs.context, hs.logging, hs.entries, hs.printed, hs.metrics,
    hs.opened⟩⟩
  change List.Forall₂ Step.Alike (g₁ s₁.world).2.2 (g₂ s₂.world).2.2
  rw [hg₁, hg₂]
  exact List.rel_append hs.steps (.cons (hstep hP _ _ hanswer) .nil)

/-- The same question, the answers to which are the same. -/
theorem twins_ask_eq {g₁ : Traced σ → α × Traced σ} {g₂ : Traced τ → α × Traced τ} {k : α → Step}
    {f : Step → Option α} (h : Answers f Eq t₁ t₂) (hf : Kind f)
    (hg₁ : ∀ st, (g₁ st).2.2 = st.2 ++ [k (g₁ st).1])
    (hg₂ : ∀ st, (g₂ st).2.2 = st.2 ++ [k (g₂ st).1]) (hk : ∀ a, f (k a) = some a) :
    Twins t₁ t₂ P Eq (ask g₁) (ask g₂) := by
  refine twins_ask h hf hg₁ hg₂ hk hk ?_
  rintro - a _ rfl
  exact .same (k a)

end Twins

/-! ## The steps of a run -/

section Steps

variable {t₁ t₂ : List Step} {P : Prop}

theorem twins_log (logger : String) (severity : Severity) (event : String)
    (fields : List (String × Json)) :
    Twins t₁ t₂ P Eq (log (σ := Traced σ) logger severity event fields)
      (log (σ := Traced τ) logger severity event fields) := by
  refine twins_modify (fun s => ?_) (fun s => ?_) fun s₁ s₂ hs => ?_
  · split <;> rfl
  · split <;> rfl
  · rw [hs.logging, hs.context, hs.entries]
    split
    · exact ⟨hs.steps, rfl, rfl, rfl, hs.printed, hs.metrics, hs.opened⟩
    · exact hs

theorem twins_notice (text : String) :
    Twins t₁ t₂ P Eq (notice (σ := Traced σ) text) (notice (σ := Traced τ) text) :=
  twins_modify (fun _ => rfl) (fun _ => rfl) fun _ _ hs =>
    ⟨hs.steps, hs.context, hs.logging, congrArg (· ++ [.notice text]) hs.entries, hs.printed,
      hs.metrics, hs.opened⟩

theorem twins_print (text : String) :
    Twins t₁ t₂ P Eq (print (σ := Traced σ) text) (print (σ := Traced τ) text) :=
  twins_modify (fun _ => rfl) (fun _ => rfl) fun _ _ hs =>
    ⟨hs.steps, hs.context, hs.logging, hs.entries, congrArg (· ++ text) hs.printed, hs.metrics,
      hs.opened⟩

theorem twins_setPhase (phase : Option String) :
    Twins t₁ t₂ P Eq (setPhase (σ := Traced σ) phase) (setPhase (σ := Traced τ) phase) :=
  twins_modify (fun _ => rfl) (fun _ => rfl) fun _ _ hs =>
    ⟨hs.steps, congrArg ({ · with phase := phase }) hs.context, hs.logging, hs.entries, hs.printed,
      hs.metrics, hs.opened⟩

theorem twins_setRunId (runId : String) :
    Twins t₁ t₂ P Eq (setRunId (σ := Traced σ) runId) (setRunId (σ := Traced τ) runId) :=
  twins_modify (fun _ => rfl) (fun _ => rfl) fun _ _ hs =>
    ⟨hs.steps, congrArg ({ · with runId := some runId }) hs.context, hs.logging, hs.entries,
      hs.printed, hs.metrics, hs.opened⟩

theorem twins_clearContext :
    Twins t₁ t₂ P Eq (clearContext (σ := Traced σ)) (clearContext (σ := Traced τ)) :=
  twins_modify (fun _ => rfl) (fun _ => rfl) fun _ _ hs =>
    ⟨hs.steps, rfl, hs.logging, hs.entries, hs.printed, hs.metrics, hs.opened⟩

theorem twins_record (call : Recording) :
    Twins t₁ t₂ P Eq (record (σ := Traced σ) call) (record (σ := Traced τ) call) :=
  twins_modify (fun _ => rfl) (fun _ => rfl) fun _ _ hs =>
    ⟨hs.steps, hs.context, hs.logging, hs.entries, hs.printed,
      congrArg (Option.map (Metrics.record · call)) hs.metrics, hs.opened⟩

theorem twins_openConnection (timeout : Seconds) :
    Twins t₁ t₂ P Eq (openConnection (σ := Traced σ) timeout)
      (openConnection (σ := Traced τ) timeout) :=
  twins_modify (fun _ => rfl) (fun _ => rfl) fun _ _ hs =>
    ⟨hs.steps, hs.context, hs.logging, hs.entries, hs.printed, hs.metrics,
      congrArg (· ++ [timeout]) hs.opened⟩

variable (h : SameAnswers t₁ t₂) (w₁ : World σ) (w₂ : World τ)

include h

theorem twins_readClock : Twins t₁ t₂ P Eq (readClock w₁.traced) (readClock w₂.traced) :=
  twins_ask_eq h.readings (fun _ _ _ _ => rfl) (fun _ => rfl) (fun _ => rfl) fun _ => rfl

theorem twins_newId : Twins t₁ t₂ P Eq (newId w₁.traced) (newId w₂.traced) :=
  twins_ask_eq h.ids (fun _ _ _ _ => rfl) (fun _ => rfl) (fun _ => rfl) fun _ => rfl

theorem twins_sleep (time : Seconds) :
    Twins t₁ t₂ P Eq (sleep w₁.traced time) (sleep w₂.traced time) :=
  Twins.bind_eq
    (twins_ask_eq h.sleeps (fun _ _ _ _ => rfl) (fun _ => rfl) (fun _ => rfl) fun _ => rfl)
    fun result => twins_ofExcept_self _ result

theorem twins_writeFile (path content : String) :
    Twins t₁ t₂ P Eq (writeFile w₁.traced path content) (writeFile w₂.traced path content) :=
  Twins.bind_eq
    (twins_ask_eq h.writings (fun _ _ _ _ => rfl) (fun _ => rfl) (fun _ => rfl) fun _ => rfl)
    fun result => twins_ofExcept_self _ result

theorem twins_replaceFile (path content : String) :
    Twins t₁ t₂ P Eq (replaceFile w₁.traced path content) (replaceFile w₂.traced path content) :=
  Twins.bind_eq
    (twins_ask_eq h.writings (fun _ _ _ _ => rfl) (fun _ => rfl) (fun _ => rfl) fun _ => rfl)
    fun result => twins_ofExcept_self _ result

theorem twins_send {q₁ q₂ : Request} (hq : P → q₁.Alike q₂) :
    Twins t₁ t₂ P Reply.Alike (send w₁.traced q₁) (send w₂.traced q₂) := by
  have : Nonempty Exchange := ⟨⟨.ok { status := 200 }, []⟩⟩
  have hask : Twins t₁ t₂ P Exchange.Alike (ask (w₁.traced.send q₁)) (ask (w₂.traced.send q₂)) :=
    twins_ask h.replies (fun _ _ _ _ => rfl) (fun _ => rfl) (fun _ => rfl) (fun _ => rfl)
      (fun _ => rfl) fun hP _ _ hx => .sent (hq hP) hx
  refine hask.bind fun x₁ x₂ => Twins.bind_eq ?_ fun _ => twins_pure fun hP => hP.2.reply
  refine twins_of_imp
    (Moves.forM composes_grows (fun _ => moves_log (respects_grows w₁).works _ _ _ _) _)
    (Moves.forM composes_grows (fun _ => moves_log (respects_grows w₂).works _ _ _ _) _) fun hP => ?_
  rw [hP.2.notes]
  exact Twins.forM (fun _ => twins_log _ _ _ _) _

theorem twins_beginRun (runId : Option String) :
    Twins t₁ t₂ P Eq (beginRun w₁.traced runId) (beginRun w₂.traced runId) := by
  have hset (id : String) : Twins t₁ t₂ P Eq
      (do setRunId (σ := Traced σ) id; return id) (do setRunId (σ := Traced τ) id; return id) :=
    (twins_setRunId id).bind_eq fun _ => twins_pure fun _ => rfl
  cases runId with
  | some id => exact hset id
  | none => exact (twins_newId h w₁ w₂).bind_eq hset

end Steps

end RateIsolation
