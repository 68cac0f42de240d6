import FatCrabTrading.Effect.Actor

/-! # Contracts of actors

An actor relies on what it receives and on the replies to its calls, and guarantees what it
observes itself doing. A program that meets its contract does not panic as long as it can
rely on its surroundings, so the actor never dies.
-/

namespace Effect

variable {σ Msg α β : Type} {I : Interface}

namespace Program

/-- From this history and store, every execution whose replies meet `rely` makes only calls
that meet `guarantee`, does not panic, and establishes `post` when it returns. -/
def Meets (rely guarantee : Entry σ Msg I → History σ Msg I → Prop)
    (post : History σ Msg I → σ → α → Prop) : Program σ I α → History σ Msg I → σ → Prop
  | .pure value, history, store => post history store value
  | .panic, _, _ => False
  | .get next, history, store => (next store).Meets rely guarantee post history store
  | .modify f next, history, store => next.Meets rely guarantee post history (f store)
  | .call c next, history, store => ∀ reply, rely (.called c reply store) history →
      guarantee (.called c reply store) history ∧
        (next reply).Meets rely guarantee post (.called c reply store :: history) store

section Meets

variable {rely guarantee : Entry σ Msg I → History σ Msg I → Prop}
  {post : History σ Msg I → σ → α → Prop} (history : History σ Msg I) (store : σ)

@[simp] theorem meets_pure (value : α) :
    (Program.pure value).Meets rely guarantee post history store ↔ post history store value :=
  Iff.rfl

@[simp] theorem not_meets_panic :
    ¬(Program.panic : Program σ I α).Meets rely guarantee post history store := id

@[simp] theorem meets_get (next : σ → Program σ I α) :
    (Program.get next).Meets rely guarantee post history store ↔
      (next store).Meets rely guarantee post history store := Iff.rfl

@[simp] theorem meets_modify (f : σ → σ) (next : Program σ I α) :
    (Program.modify f next).Meets rely guarantee post history store ↔
      next.Meets rely guarantee post history (f store) := Iff.rfl

@[simp] theorem meets_call (c : I.Call) (next : I.Reply c → Program σ I α) :
    (Program.call c next).Meets rely guarantee post history store ↔ ∀ reply,
      rely (.called c reply store) history → guarantee (.called c reply store) history ∧
        (next reply).Meets rely guarantee post (.called c reply store :: history) store := Iff.rfl

@[simp] theorem meets_ite (p : Prop) [Decidable p] (first second : Program σ I α) :
    (if p then first else second).Meets rely guarantee post history store ↔
      (p → first.Meets rely guarantee post history store) ∧
        (¬p → second.Meets rely guarantee post history store) := by
  split <;> simp_all

theorem meets_bind {post : History σ Msg I → σ → β → Prop} (program : Program σ I α)
    (next : α → Program σ I β) :
    (program >>= next).Meets rely guarantee post history store ↔
      program.Meets rely guarantee
        (fun history store value => (next value).Meets rely guarantee post history store)
        history store := by
  induction program generalizing history store with
  | pure value => rfl
  | panic => rfl
  | get rest ih => exact ih store history store
  | modify f rest ih => exact ih history (f store)
  | call c rest ih =>
      exact forall_congr' fun reply => imp_congr_right fun _ =>
        and_congr_right fun _ => ih reply _ store

variable {history store} in
/-- A weaker postcondition is met as well. -/
theorem Meets.mono {post' : History σ Msg I → σ → α → Prop} {program : Program σ I α}
    (hmeets : program.Meets rely guarantee post history store)
    (hpost : ∀ history store value, post history store value → post' history store value) :
    program.Meets rely guarantee post' history store := by
  induction program generalizing history store with
  | pure value => exact hpost history store value hmeets
  | panic => exact hmeets
  | get next ih => exact ih store hmeets
  | modify f next ih => exact ih hmeets
  | call c next ih =>
      intro reply hrely
      obtain ⟨hguarantee, hnext⟩ := hmeets reply hrely
      exact ⟨hguarantee, ih reply hnext⟩

variable {history store} in
/-- What a program establishes under another guarantee, it establishes under this one. -/
theorem Meets.and {guarantee' : Entry σ Msg I → History σ Msg I → Prop}
    {post' : History σ Msg I → σ → α → Prop} {program : Program σ I α}
    (hmeets : program.Meets rely guarantee post history store)
    (hmeets' : program.Meets rely guarantee' post' history store) :
    program.Meets rely guarantee
      (fun history store value => post history store value ∧ post' history store value)
      history store := by
  induction program generalizing history store with
  | pure value => exact ⟨hmeets, hmeets'⟩
  | panic => exact hmeets
  | get next ih => exact ih store hmeets hmeets'
  | modify f next ih => exact ih hmeets hmeets'
  | call c next ih =>
      intro reply hrely
      obtain ⟨hguarantee, hnext⟩ := hmeets reply hrely
      exact ⟨hguarantee, ih reply hnext (hmeets' reply hrely).2⟩

variable {history store} in
/-- What every answered call keeps is there at the end. -/
theorem Meets.keep {keep : History σ Msg I → Prop} {program : Program σ I α}
    (hmeets : program.Meets rely guarantee post history store)
    (hcall : ∀ c reply store past, rely (.called c reply store) past →
      guarantee (.called c reply store) past → keep past → keep (.called c reply store :: past))
    (hkeep : keep history) :
    program.Meets rely (fun _ _ => True) (fun history _ _ => keep history) history store := by
  induction program generalizing history store with
  | pure value => exact hkeep
  | panic => exact hmeets
  | get next ih => exact ih store hmeets hkeep
  | modify f next ih => exact ih hmeets hkeep
  | call c next ih =>
      intro reply hrely
      obtain ⟨hguarantee, hnext⟩ := hmeets reply hrely
      exact ⟨trivial, ih reply hnext (hcall c reply store history hrely hguarantee hkeep)⟩

variable {history store} in
/-- A program that meets its contract returns, if it can rely on each answer. -/
theorem Meets.exec {ε : Type} {answer : Program.Environment σ I ε} {seen : ε → History σ Msg I}
    (hseen : ∀ store environment c, seen (answer store environment c).2 =
      .called c (answer store environment c).1 store :: seen environment)
    (hrely : ∀ store environment c,
      rely (.called c (answer store environment c).1 store) (seen environment))
    {program : Program σ I α} {environment : ε}
    (hmeets : program.Meets rely guarantee post (seen environment) store) :
    ∃ value, (program.exec answer store environment).outcome = .done value ∧
      post (seen (program.exec answer store environment).environment)
        (program.exec answer store environment).store value := by
  induction program generalizing store environment with
  | pure value => exact ⟨value, rfl, hmeets⟩
  | panic => exact hmeets.elim
  | get next ih => exact ih store hmeets
  | modify f next ih => exact ih hmeets
  | call c next ih =>
      obtain ⟨-, hnext⟩ := hmeets _ (hrely store environment c)
      rw [← hseen] at hnext
      exact ih _ hnext

@[simp] theorem meets_unwrap (value : Option α) :
    (unwrap value).Meets rely guarantee post history store ↔
      ∃ v, value = some v ∧ post history store v := by
  cases value <;> simp

@[simp] theorem meets_unwrap_bind (value : Option β) (next : β → Program σ I α) :
    (unwrap value >>= next).Meets rely guarantee post history store ↔
      ∃ v, value = some v ∧ (next v).Meets rely guarantee post history store := by
  cases value <;> simp

@[simp] theorem meets_unwrapOk_bind {δ : Type} (value : Except δ β) (next : β → Program σ I α) :
    (unwrapOk value >>= next).Meets rely guarantee post history store ↔
      ∃ v, value = .ok v ∧ (next v).Meets rely guarantee post history store := by
  cases value <;> simp

@[simp] theorem meets_assert (sent : Bool) {post : History σ Msg I → σ → Unit → Prop} :
    (assert sent).Meets rely guarantee post history store ↔
      sent = true ∧ post history store () := by
  cases sent <;> simp

@[simp] theorem meets_assert_bind (sent : Bool) (next : Unit → Program σ I α) :
    (assert sent >>= next).Meets rely guarantee post history store ↔
      sent = true ∧ (next ()).Meets rely guarantee post history store := by
  cases sent <;> simp

end Meets

end Program

/-- As long as an actor can rely on its surroundings, it keeps its guarantee in every handler,
takes the next message after it, and `between` holds whenever it waits. -/
structure Contract (code : Behaviour σ Msg I)
    (rely guarantee : Entry σ Msg I → History σ Msg I → Prop)
    (between : History σ Msg I → σ → Prop) : Prop where
  receive : ∀ message history store, between history store →
    rely (.received message store) history →
      guarantee (.received message store) history ∧
        (code.handle message).Meets rely guarantee
          (fun history store flow => flow = .next ∧ between history store)
          (.received message store :: history) store

/-- What every handler leaves behind can be added to what holds between messages. -/
theorem Contract.and {code : Behaviour σ Msg I}
    {rely guarantee : Entry σ Msg I → History σ Msg I → Prop}
    {between extra : History σ Msg I → σ → Prop} (hcontract : Contract code rely guarantee between)
    (hextra : ∀ message history store, between history store → extra history store →
      rely (.received message store) history →
      (code.handle message).Meets rely (fun _ _ => True)
        (fun history store _ => extra history store) (.received message store :: history) store) :
    Contract code rely guarantee fun history store =>
      between history store ∧ extra history store where
  receive := by
    intro message history store hbetween hrely
    obtain ⟨hguarantee, hhandler⟩ := hcontract.receive message history store hbetween.1 hrely
    have hadded := hextra message history store hbetween.1 hbetween.2 hrely
    exact ⟨hguarantee, (hhandler.and hadded).mono fun history store flow h =>
      ⟨h.1.1, h.1.2, h.2⟩⟩

namespace Actor

/-- The contract of an actor at any point of a handler. -/
def Meets (rely guarantee : Entry σ Msg I → History σ Msg I → Prop)
    (between : History σ Msg I → σ → Prop) (actor : Actor σ Msg I) : Prop :=
  actor.history.Always guarantee ∧ match actor.task with
    | .idle => between actor.history actor.store
    | .running program => program.Meets rely guarantee
        (fun history store flow => flow = .next ∧ between history store)
        actor.history actor.store
    | .ended | .dead => False

variable {code : Behaviour σ Msg I} {rely guarantee : Entry σ Msg I → History σ Msg I → Prop}
  {between : History σ Msg I → σ → Prop} {actor next : Actor σ Msg I}

/-- What a step shows can be relied on. -/
def Reliable (rely : Entry σ Msg I → History σ Msg I → Prop) (actor : Actor σ Msg I) :
    Action Msg I → Prop
  | .receive message => rely (.received message actor.store) actor.history
  | .call c reply => rely (.called c reply actor.store) actor.history
  | .silent => True

theorem Step.meets (hcontract : Contract code rely guarantee between) {action : Action Msg I}
    (hstep : Step code actor action next) (hreliable : Reliable rely actor action)
    (hmeets : actor.Meets rely guarantee between) : next.Meets rely guarantee between := by
  obtain ⟨halways, htask⟩ := hmeets
  cases hstep with
  | receive message =>
      obtain ⟨hguarantee, hhandler⟩ := hcontract.receive message _ _ htask hreliable
      exact ⟨⟨hguarantee, halways⟩, hhandler⟩
  | get rest => exact ⟨halways, htask⟩
  | modify f rest => exact ⟨halways, htask⟩
  | call c rest reply =>
      obtain ⟨hguarantee, hrest⟩ := htask reply hreliable
      exact ⟨⟨hguarantee, halways⟩, hrest⟩
  | finish flow =>
      obtain ⟨rfl, hbetween⟩ := htask
      exact ⟨halways, hbetween⟩
  | die => exact htask.elim
  | restart => exact htask.elim

/-- What an actor does next was guaranteed. -/
theorem Meets.guaranteed {entry : Entry σ Msg I} {past : History σ Msg I}
    (hmeets : actor.Meets rely guarantee between) (hhistory : actor.history = entry :: past) :
    guarantee entry past := by
  have halways := hmeets.1
  rw [hhistory] at halways
  exact halways.1

theorem Meets.alive (hmeets : actor.Meets rely guarantee between) : actor.task ≠ .dead := by
  intro hdead
  have htask := hmeets.2
  rw [hdead] at htask
  exact htask

end Actor

/-! ## Actors that may stop -/

/-- The program keeps its guarantee and does not panic, as long as it can rely on what it
calls. -/
def Program.Bears (rely guarantee : Entry σ Msg I → History σ Msg I → Prop)
    (program : Program σ I α) (history : History σ Msg I) (store : σ) : Prop :=
  program.Meets rely guarantee (fun _ _ _ => True) history store

/-- What follows a handler does not matter if it only returns. -/
theorem Program.Bears.then_pure {rely guarantee : Entry σ Msg I → History σ Msg I → Prop}
    {handler : Program σ I β} {history : History σ Msg I} {store : σ}
    (hbears : handler.Bears rely guarantee history store) (value : α) :
    (handler >>= fun _ => .pure value).Bears rely guarantee history store := by
  rw [Program.Bears, Program.meets_bind]
  exact Program.Meets.mono hbears fun _ _ _ _ => trivial

/-- As long as an actor can rely on its surroundings it keeps its guarantee and does not
panic. -/
structure Endurance (code : Behaviour σ Msg I)
    (rely guarantee : Entry σ Msg I → History σ Msg I → Prop) : Prop where
  receive : ∀ message history store, rely (.received message store) history →
    (code.handle message).Bears rely guarantee (.received message store :: history) store
  start : ∀ history store, code.start.Bears rely guarantee history store

/-- The last message received and every answer since meet `ok`. -/
def History.Turn (ok : Entry σ Msg I → History σ Msg I → Prop) : History σ Msg I → Prop
  | [] => True
  | .received message store :: past => ok (.received message store) past
  | .called c reply store :: past => ok (.called c reply store) past ∧ Turn ok past

namespace Program

/-- From this history and store, no execution whose replies meet `rely` makes one of `calls`. -/
def Avoids (rely : Entry σ Msg I → History σ Msg I → Prop) (calls : I.Call → Prop) :
    Program σ I α → History σ Msg I → σ → Prop
  | .pure _, _, _ => True
  | .panic, _, _ => True
  | .get next, history, store => (next store).Avoids rely calls history store
  | .modify f next, history, store => next.Avoids rely calls history (f store)
  | .call c next, history, store => ¬calls c ∧ ∀ reply, rely (.called c reply store) history →
      (next reply).Avoids rely calls (.called c reply store :: history) store

/-- Without these calls, the rest of the contract is enough. -/
theorem Meets.avoid {rely rely' guarantee guarantee' : Entry σ Msg I → History σ Msg I → Prop}
    {post : History σ Msg I → σ → α → Prop} {calls : I.Call → Prop} {program : Program σ I α}
    {history : History σ Msg I} {store : σ}
    (hmeets : program.Meets rely guarantee post history store)
    (havoids : program.Avoids rely' calls history store)
    (hrely : ∀ entry past, rely' entry past → rely entry past)
    (hguarantee : ∀ c reply store past, ¬calls c → guarantee (.called c reply store) past →
      guarantee' (.called c reply store) past) :
    program.Meets rely' guarantee' post history store := by
  induction program generalizing history store with
  | pure value => exact hmeets
  | panic => exact hmeets
  | get next ih => exact ih store hmeets havoids
  | modify f next ih => exact ih hmeets havoids
  | call c next ih =>
      obtain ⟨hcall, hrest⟩ := havoids
      intro reply hreply
      obtain ⟨hguaranteed, hnext⟩ := hmeets reply (hrely _ _ hreply)
      exact ⟨hguarantee c reply store history hcall hguaranteed,
        ih reply hnext (hrest reply hreply)⟩

/-- Where nothing is asked of a program, it may do anything. -/
theorem safe_trivial (program : Program σ I α) (history : History σ Msg I) (store : σ) :
    program.Safe (fun _ _ => True) (fun _ _ => True) (fun _ _ _ => True) history store := by
  induction program generalizing history store with
  | pure value => trivial
  | panic => trivial
  | get next ih => exact ih store history store
  | modify f next ih => exact ⟨trivial, ih history (f store)⟩
  | call c next ih => exact fun reply _ => ⟨trivial, ih reply _ store⟩

/-- After such a handler the task goes on. -/
theorem safe_next (handler : Program σ I Unit) {stopped : History σ Msg I → σ → Prop}
    (history : History σ Msg I) (store : σ) :
    (handler >>= fun _ => .pure Flow.next).Safe (fun _ _ => True) (fun _ _ => True)
      (fun history store flow => flow = .stop → stopped history store) history store := by
  rw [safe_bind]
  exact (handler.safe_trivial history store).mono fun _ _ _ _ => nofun

end Program

namespace Actor

/-- An actor that has not died, at any point of a handler. -/
def Endures (rely guarantee : Entry σ Msg I → History σ Msg I → Prop) (actor : Actor σ Msg I) :
    Prop :=
  match actor.task with
  | .idle | .ended => True
  | .running program => program.Bears rely guarantee actor.history actor.store
  | .dead => False

/-- Whatever it was told and answered, an actor that has ended leaves `stopped`. -/
def Stops (stopped : History σ Msg I → σ → Prop) (actor : Actor σ Msg I) : Prop :=
  match actor.task with
  | .idle | .dead => True
  | .running program => program.Safe (fun _ _ => True) (fun _ _ => True)
      (fun history store flow => flow = .stop → stopped history store) actor.history actor.store
  | .ended => stopped actor.history actor.store

variable {code : Behaviour σ Msg I} {rely guarantee : Entry σ Msg I → History σ Msg I → Prop}
  {stopped : History σ Msg I → σ → Prop} {actor next : Actor σ Msg I} {action : Action Msg I}

/-- A step that shows only what could be relied on. -/
theorem Step.endures (hendurance : Endurance code rely guarantee)
    (hstep : Step code actor action next) (hreliable : Reliable rely actor action)
    (hendures : actor.Endures rely guarantee) : next.Endures rely guarantee := by
  cases hstep with
  | receive message => exact hendurance.receive message _ _ hreliable
  | get rest => exact hendures
  | modify f rest => exact hendures
  | call c rest reply => exact (hendures reply hreliable).2
  | finish flow => cases flow <;> trivial
  | die => exact hendures.elim
  | restart => exact hendurance.start _ _

/-- Only the turn under way counts. -/
theorem Step.endures_of_turn (hendurance : Endurance code rely guarantee)
    (hstep : Step code actor action next)
    (hendures : actor.history.Turn rely → actor.Endures rely guarantee)
    (hturn : next.history.Turn rely) : next.Endures rely guarantee := by
  cases hstep with
  | receive message => exact hendurance.receive message _ _ hturn
  | get rest => exact hendures hturn
  | modify f rest => exact hendures hturn
  | call c rest reply => exact (hendures hturn.2 reply hturn.1).2
  | finish flow => cases flow <;> trivial
  | die => exact (hendures hturn).elim
  | restart => exact hendurance.start _ _

/-- A call is guaranteed before it is answered, if some answer could be relied on. -/
theorem Step.guarantees {c : I.Call} {reply : I.Reply c}
    (hstep : Step code actor (.call c reply) next) (answer : I.Reply c)
    (hanswer : rely (.called c answer actor.store) actor.history)
    (hendures : actor.Endures rely guarantee) :
    guarantee (.called c answer actor.store) actor.history := by
  cases hstep with
  | call c rest reply => exact (hendures answer hanswer).1

theorem Endures.alive (hendures : actor.Endures rely guarantee) : actor.task ≠ .dead := by
  intro hdead
  unfold Endures at hendures
  rw [hdead] at hendures
  exact hendures

theorem Step.stops
    (hhandle : ∀ message history store, (code.handle message).Safe (fun _ _ => True)
      (fun _ _ => True) (fun history store flow => flow = .stop → stopped history store)
      (.received message store :: history) store)
    (hstart : ∀ history store, code.start.Safe (fun _ _ => True) (fun _ _ => True)
      (fun history store flow => flow = .stop → stopped history store) history store)
    (hstep : Step code actor action next) (hstops : actor.Stops stopped) : next.Stops stopped := by
  cases hstep with
  | receive message => exact hhandle message _ _
  | get rest => exact hstops
  | modify f rest => exact hstops.2
  | call c rest reply => exact (hstops reply trivial).2
  | finish flow =>
      cases flow with
      | next => trivial
      | stop => exact hstops rfl
  | die => trivial
  | restart => exact hstart _ _

end Actor

end Effect
