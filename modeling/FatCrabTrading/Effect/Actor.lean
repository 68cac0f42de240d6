import FatCrabTrading.Effect.Program
import Mathlib.Logic.Relation

/-! # Actors and their histories

An actor serves one message at a time. While a handler runs, every read, every
write and every call is a step of its own, so other actors may act in between.
The history records the messages served and the calls answered, each with the
store at that moment; it is a ghost and no handler can read it.
-/

namespace Effect

variable {σ Msg α ε : Type} {I : Interface}

/-- One observation of an actor. -/
inductive Entry (σ Msg : Type) (I : Interface) where
  | received (message : Msg) (store : σ)
  | called (c : I.Call) (reply : I.Reply c) (store : σ)

/-- The store at the moment of an observation. -/
def Entry.store : Entry σ Msg I → σ
  | .received _ store => store
  | .called _ _ store => store

@[simp] theorem Entry.store_received (message : Msg) (store : σ) :
    (Entry.received message store : Entry σ Msg I).store = store := rfl

@[simp] theorem Entry.store_called (c : I.Call) (reply : I.Reply c) (store : σ) :
    (Entry.called c reply store : Entry σ Msg I).store = store := rfl

/-- The observations of an actor, newest first. -/
abbrev History (σ Msg : Type) (I : Interface) := List (Entry σ Msg I)

namespace History

/-- Every observation satisfies `ok` relative to the observations before it. -/
def Always (ok : Entry σ Msg I → History σ Msg I → Prop) : History σ Msg I → Prop
  | [] => True
  | entry :: past => ok entry past ∧ Always ok past

@[simp] theorem always_nil (ok : Entry σ Msg I → History σ Msg I → Prop) :
    Always ok [] := trivial

@[simp] theorem always_cons (ok : Entry σ Msg I → History σ Msg I → Prop)
    (entry : Entry σ Msg I) (past : History σ Msg I) :
    Always ok (entry :: past) ↔ ok entry past ∧ Always ok past := Iff.rfl

theorem always_true (history : History σ Msg I) : Always (fun _ _ => True) history := by
  induction history with
  | nil => trivial
  | cons entry past ih => exact ⟨trivial, ih⟩

theorem Always.split {ok : Entry σ Msg I → History σ Msg I → Prop}
    {later past : History σ Msg I} {entry : Entry σ Msg I}
    (h : Always ok (later ++ entry :: past)) : ok entry past := by
  induction later with
  | nil => exact h.1
  | cons head tail ih => exact ih h.2

instance decidableAlways {ok : Entry σ Msg I → History σ Msg I → Prop}
    [∀ entry past, Decidable (ok entry past)] :
    (history : History σ Msg I) → Decidable (Always ok history)
  | [] => isTrue trivial
  | entry :: past => @instDecidableAnd (ok entry past) (Always ok past) _ (decidableAlways past)

section Climbs

variable {τ : Type} (view : σ → τ) (advances : τ → τ → Prop)

/-- Each observed view is an advance on the one before, and `last` on the newest. -/
def Climbs : History σ Msg I → τ → Prop
  | [], _ => True
  | entry :: past, last => Climbs past (view entry.store) ∧ advances (view entry.store) last

@[simp] theorem climbs_nil (last : τ) : Climbs view advances ([] : History σ Msg I) last := trivial

@[simp] theorem climbs_cons (entry : Entry σ Msg I) (past : History σ Msg I) (last : τ) :
    Climbs view advances (entry :: past) last ↔
      Climbs view advances past (view entry.store) ∧ advances (view entry.store) last := Iff.rfl

variable {view advances} {history : History σ Msg I} {before after : τ}

theorem Climbs.advance [IsTrans τ advances] (hclimbs : Climbs view advances history before)
    (hadvances : advances before after) : Climbs view advances history after := by
  cases history with
  | nil => trivial
  | cons entry past =>
      obtain ⟨hpast, hlast⟩ := hclimbs
      exact ⟨hpast, IsTrans.trans _ _ _ hlast hadvances⟩

/-- The last view is an advance on every earlier one. -/
theorem Climbs.all [IsTrans τ advances] (hclimbs : Climbs view advances history after) :
    ∀ entry ∈ history, advances (view entry.store) after := by
  induction history generalizing after with
  | nil =>
      intro entry hentry
      cases hentry
  | cons last past ih =>
      obtain ⟨hpast, hlast⟩ := hclimbs
      intro entry hentry
      rcases List.mem_cons.mp hentry with rfl | hentry
      · exact hlast
      · exact IsTrans.trans _ _ _ (ih hpast entry hentry) hlast

end Climbs

end History

/-- Whether the actor takes another message after a handler. -/
inductive Flow where
  | next
  | stop
  deriving DecidableEq

/-- What an actor's task is doing. -/
inductive Task (σ : Type) (I : Interface) where
  | idle
  | running (program : Program σ I Flow)
  | ended
  | dead

instance : (task : Task σ I) → Decidable (task = .idle)
  | .idle => isTrue rfl
  | .running _ => isFalse nofun
  | .ended => isFalse nofun
  | .dead => isFalse nofun

instance : (task : Task σ I) → Decidable (task = .dead)
  | .idle => isFalse nofun
  | .running _ => isFalse nofun
  | .ended => isFalse nofun
  | .dead => isTrue rfl

/-- The task left by a handler that returned. -/
def Flow.task : Flow → Task σ I
  | .next => .idle
  | .stop => .ended

structure Actor (σ Msg : Type) (I : Interface) where
  store : σ
  task : Task σ I
  history : History σ Msg I

/-- What one step of an actor shows to its surroundings. -/
inductive Action (Msg : Type) (I : Interface) where
  | receive (message : Msg)
  | call (c : I.Call) (reply : I.Reply c)
  | silent

/-- An actor's code: what it does first, how it serves a message, and what a restart
keeps of its store. -/
structure Behaviour (σ Msg : Type) (I : Interface) where
  start : Program σ I Flow
  handle : Msg → Program σ I Flow
  restore : σ → σ

namespace Actor

/-- A new actor, before it does anything. -/
def launch (code : Behaviour σ Msg I) (store : σ) : Actor σ Msg I :=
  ⟨store, .running code.start, []⟩

/-- One step of an actor that runs `code`. An actor that ended may be restarted; its
history goes on. -/
inductive Step (code : Behaviour σ Msg I) :
    Actor σ Msg I → Action Msg I → Actor σ Msg I → Prop where
  | receive {store history} (message : Msg) :
      Step code ⟨store, .idle, history⟩ (.receive message)
        ⟨store, .running (code.handle message), .received message store :: history⟩
  | get {store history} (next : σ → Program σ I Flow) :
      Step code ⟨store, .running (.get next), history⟩ .silent
        ⟨store, .running (next store), history⟩
  | modify {store history} (f : σ → σ) (next : Program σ I Flow) :
      Step code ⟨store, .running (.modify f next), history⟩ .silent
        ⟨f store, .running next, history⟩
  | call {store history} (c : I.Call) (next : I.Reply c → Program σ I Flow)
      (reply : I.Reply c) :
      Step code ⟨store, .running (.call c next), history⟩ (.call c reply)
        ⟨store, .running (next reply), .called c reply store :: history⟩
  | finish {store history} (flow : Flow) :
      Step code ⟨store, .running (.pure flow), history⟩ .silent
        ⟨store, flow.task, history⟩
  | die {store history} :
      Step code ⟨store, .running .panic, history⟩ .silent ⟨store, .dead, history⟩
  | restart {store history} :
      Step code ⟨store, .ended, history⟩ .silent
        ⟨code.restore store, .running code.start, history⟩

/-- Any number of steps, whatever they show. -/
def Steps (code : Behaviour σ Msg I) : Actor σ Msg I → Actor σ Msg I → Prop :=
  Relation.ReflTransGen fun first second => ∃ action, Step code first action second

end Actor

/-! ## Safety of programs -/

namespace Program

/-- From this history and store, every execution whose calls meet `assume` keeps `always`
at each write and each answered call, and establishes `post` if the program returns. The
replies are arbitrary otherwise, and a panic leaves nothing to establish. -/
def Safe (assume : Entry σ Msg I → History σ Msg I → Prop) (always : History σ Msg I → σ → Prop)
    (post : History σ Msg I → σ → α → Prop) : Program σ I α → History σ Msg I → σ → Prop
  | .pure value, history, store => post history store value
  | .panic, _, _ => True
  | .get next, history, store => (next store).Safe assume always post history store
  | .modify f next, history, store =>
      always history (f store) ∧ next.Safe assume always post history (f store)
  | .call c next, history, store => ∀ reply, assume (.called c reply store) history →
      always (.called c reply store :: history) store ∧
        (next reply).Safe assume always post (.called c reply store :: history) store

section Safe

variable {assume : Entry σ Msg I → History σ Msg I → Prop}
  {always : History σ Msg I → σ → Prop} {post : History σ Msg I → σ → α → Prop}

@[simp] theorem safe_pure (value : α) (history : History σ Msg I) (store : σ) :
    (Program.pure value).Safe assume always post history store ↔ post history store value := Iff.rfl

@[simp] theorem safe_panic (history : History σ Msg I) (store : σ) :
    (Program.panic : Program σ I α).Safe assume always post history store := trivial

@[simp] theorem safe_get (next : σ → Program σ I α) (history : History σ Msg I) (store : σ) :
    (Program.get next).Safe assume always post history store ↔
      (next store).Safe assume always post history store := Iff.rfl

@[simp] theorem safe_modify (f : σ → σ) (next : Program σ I α) (history : History σ Msg I)
    (store : σ) :
    (Program.modify f next).Safe assume always post history store ↔
      always history (f store) ∧ next.Safe assume always post history (f store) := Iff.rfl

@[simp] theorem safe_call (c : I.Call) (next : I.Reply c → Program σ I α)
    (history : History σ Msg I) (store : σ) :
    (Program.call c next).Safe assume always post history store ↔ ∀ reply,
      assume (.called c reply store) history →
      always (.called c reply store :: history) store ∧
        (next reply).Safe assume always post (.called c reply store :: history) store := Iff.rfl

@[simp] theorem safe_ite (p : Prop) [Decidable p] (first second : Program σ I α)
    (history : History σ Msg I) (store : σ) :
    (if p then first else second).Safe assume always post history store ↔
      (p → first.Safe assume always post history store) ∧
        (¬p → second.Safe assume always post history store) := by
  split <;> simp_all

theorem safe_bind {β : Type} {post : History σ Msg I → σ → β → Prop} (program : Program σ I α)
    (next : α → Program σ I β) (history : History σ Msg I) (store : σ) :
    (program >>= next).Safe assume always post history store ↔
      program.Safe assume always
        (fun history store value => (next value).Safe assume always post history store)
        history store := by
  induction program generalizing history store with
  | pure value => rfl
  | panic => rfl
  | get rest ih => exact ih store history store
  | modify f rest ih => exact and_congr_right fun _ => ih history (f store)
  | call c rest ih =>
      exact forall_congr' fun reply => imp_congr_right fun _ =>
        and_congr_right fun _ => ih reply _ store

/-- A weaker postcondition holds as well. -/
theorem Safe.mono {post' : History σ Msg I → σ → α → Prop} {program : Program σ I α}
    {history : History σ Msg I} {store : σ} (hsafe : program.Safe assume always post history store)
    (hpost : ∀ history store value, post history store value → post' history store value) :
    program.Safe assume always post' history store := by
  induction program generalizing history store with
  | pure value => exact hpost history store value hsafe
  | panic => trivial
  | get next ih => exact ih store hsafe
  | modify f next ih => exact ⟨hsafe.1, ih hsafe.2⟩
  | call c next ih =>
      intro reply hassume
      obtain ⟨halways, hnext⟩ := hsafe reply hassume
      exact ⟨halways, ih reply hnext⟩

@[simp] theorem safe_unwrap (value : Option α) (history : History σ Msg I) (store : σ) :
    (unwrap value).Safe assume always post history store ↔
      ∀ v, value = some v → post history store v := by
  cases value <;> simp

@[simp] theorem safe_unwrap_bind {β : Type} (value : Option β) (next : β → Program σ I α)
    (history : History σ Msg I) (store : σ) :
    (unwrap value >>= next).Safe assume always post history store ↔
      ∀ v, value = some v → (next v).Safe assume always post history store := by
  cases value <;> simp

@[simp] theorem safe_unwrapOk_bind {β δ : Type} (value : Except δ β) (next : β → Program σ I α)
    (history : History σ Msg I) (store : σ) :
    (unwrapOk value >>= next).Safe assume always post history store ↔
      ∀ v, value = .ok v → (next v).Safe assume always post history store := by
  cases value <;> simp

@[simp] theorem safe_assert (sent : Bool) {post : History σ Msg I → σ → Unit → Prop}
    (history : History σ Msg I) (store : σ) :
    (assert sent).Safe assume always post history store ↔
      (sent = true → post history store ()) := by
  cases sent <;> simp

@[simp] theorem safe_assert_bind (sent : Bool) (next : Unit → Program σ I α)
    (history : History σ Msg I) (store : σ) :
    (assert sent >>= next).Safe assume always post history store ↔
      (sent = true → (next ()).Safe assume always post history store) := by
  cases sent <;> simp

end Safe

end Program

/-! ## Programs of restricted effect -/

namespace Program

/-- Every write is one of `writes`, and every call one of `calls`. -/
def Only (writes : σ → σ → Prop) (calls : I.Call → Prop) : Program σ I α → Prop
  | .pure _ => True
  | .panic => True
  | .get next => ∀ store, (next store).Only writes calls
  | .modify f next => (∀ store, writes store (f store)) ∧ next.Only writes calls
  | .call c next => calls c ∧ ∀ reply, (next reply).Only writes calls

section Only

variable {writes : σ → σ → Prop} {calls : I.Call → Prop}

@[simp] theorem only_pure (value : α) :
    (Program.pure value : Program σ I α).Only writes calls := trivial

@[simp] theorem only_panic : (Program.panic : Program σ I α).Only writes calls := trivial

@[simp] theorem only_get (next : σ → Program σ I α) :
    (Program.get next).Only writes calls ↔ ∀ store, (next store).Only writes calls := Iff.rfl

@[simp] theorem only_modify (f : σ → σ) (next : Program σ I α) :
    (Program.modify f next).Only writes calls ↔
      (∀ store, writes store (f store)) ∧ next.Only writes calls := Iff.rfl

@[simp] theorem only_call (c : I.Call) (next : I.Reply c → Program σ I α) :
    (Program.call c next).Only writes calls ↔
      calls c ∧ ∀ reply, (next reply).Only writes calls := Iff.rfl

@[simp] theorem only_unwrap (value : Option α) :
    (unwrap value : Program σ I α).Only writes calls := by
  cases value <;> trivial

@[simp] theorem only_unwrapOk {δ : Type} (value : Except δ α) :
    (unwrapOk value : Program σ I α).Only writes calls := by
  cases value <;> trivial

@[simp] theorem only_assert (sent : Bool) :
    (assert sent : Program σ I Unit).Only writes calls := by
  cases sent <;> trivial

@[simp] theorem only_unwrap_bind {β : Type} (value : Option α) (next : α → Program σ I β) :
    (unwrap value >>= next).Only writes calls ↔
      ∀ v, value = some v → (next v).Only writes calls := by
  cases value <;> simp

@[simp] theorem only_unwrapOk_bind {β δ : Type} (value : Except δ α) (next : α → Program σ I β) :
    (unwrapOk value >>= next).Only writes calls ↔
      ∀ v, value = .ok v → (next v).Only writes calls := by
  cases value <;> simp

@[simp] theorem only_assert_bind (sent : Bool) (next : Unit → Program σ I α) :
    (assert sent >>= next).Only writes calls ↔ (sent = true → (next ()).Only writes calls) := by
  cases sent <;> simp

@[simp] theorem only_ite (p : Prop) [Decidable p] (first second : Program σ I α) :
    (if p then first else second).Only writes calls ↔
      (p → first.Only writes calls) ∧ (¬p → second.Only writes calls) := by
  split <;> simp_all

theorem Only.bind {β : Type} {program : Program σ I α} {next : α → Program σ I β}
    (hfirst : program.Only writes calls) (hnext : ∀ value, (next value).Only writes calls) :
    (program >>= next).Only writes calls := by
  induction program with
  | pure value => exact hnext value
  | panic => trivial
  | get rest ih => exact fun store => ih store (hfirst store)
  | modify f rest ih => exact ⟨hfirst.1, ih hfirst.2⟩
  | call c rest ih => exact ⟨hfirst.1, fun reply => ih reply (hfirst.2 reply)⟩

/-- Weaker restrictions hold as well. -/
theorem Only.mono {writes' : σ → σ → Prop} {calls' : I.Call → Prop} {program : Program σ I α}
    (honly : program.Only writes calls)
    (hwrites : ∀ before after, writes before after → writes' before after)
    (hcalls : ∀ c, calls c → calls' c) : program.Only writes' calls' := by
  induction program with
  | pure value => trivial
  | panic => trivial
  | get next ih => exact fun store => ih store (honly store)
  | modify f next ih => exact ⟨fun store => hwrites _ _ (honly.1 store), ih honly.2⟩
  | call c next ih => exact ⟨hcalls c honly.1, fun reply => ih reply (honly.2 reply)⟩

theorem only_true (program : Program σ I α) : program.Only (fun _ _ => True) fun _ => True := by
  induction program with
  | pure value => trivial
  | panic => trivial
  | get next ih => exact ih
  | modify f next ih => exact ⟨fun _ => trivial, ih⟩
  | call c next ih => exact ⟨trivial, ih⟩

theorem Only.focus {τ : Type} {view : σ → Option τ} {put : τ → σ → σ}
    {inner : τ → τ → Prop} (hrefl : ∀ store, writes store store)
    (hwrites : ∀ store part next, view store = some part → inner part next →
      writes store (put next store))
    {program : Program τ I α} (honly : program.Only inner calls) :
    (Program.focus view put program).Only writes calls := by
  induction program with
  | pure value => trivial
  | panic => trivial
  | get next ih =>
      rw [focus_get]
      intro store
      cases hview : view store with
      | none => simp only [hview, only_panic]
      | some part =>
          simp only [hview]
          exact ih part (honly part)
  | modify f next ih =>
      rw [focus_modify]
      refine ⟨fun store => ?_, ih honly.2⟩
      cases hview : view store with
      | none =>
          simp only [hview]
          exact hrefl store
      | some part =>
          simp only [hview]
          exact hwrites store part (f part) hview (honly.1 part)
  | call c next ih => exact ⟨honly.1, fun reply => ih reply (honly.2 reply)⟩

/-- What every allowed write and call keeps is there at the end. -/
theorem Only.safe {assume : Entry σ Msg I → History σ Msg I → Prop}
    {always keep : History σ Msg I → σ → Prop} {post : History σ Msg I → σ → α → Prop}
    (halways : ∀ history store, keep history store → always history store)
    (hpost : ∀ history store value, keep history store → post history store value)
    (hwrite : ∀ history before after, keep history before → writes before after →
      keep history after)
    (hcall : ∀ history store c reply, keep history store → calls c →
      keep (.called c reply store :: history) store)
    {program : Program σ I α} (honly : program.Only writes calls) {history : History σ Msg I}
    {store : σ} (hkeep : keep history store) :
    program.Safe assume always post history store := by
  induction program generalizing history store with
  | pure value => exact hpost history store value hkeep
  | panic => trivial
  | get next ih => exact ih store (honly store) hkeep
  | modify f next ih =>
      have hafter := hwrite history store (f store) hkeep (honly.1 store)
      exact ⟨halways _ _ hafter, ih honly.2 hafter⟩
  | call c next ih =>
      intro reply _
      have hafter := hcall history store c reply hkeep honly.1
      exact ⟨halways _ _ hafter, ih reply (honly.2 reply) hafter⟩

/-- Answers that agree on every allowed call make no difference. -/
theorem Only.exec_congr {ε : Type} {answer answer' : Program.Environment σ I ε}
    (hagree : ∀ c, calls c → ∀ store environment,
      answer store environment c = answer' store environment c)
    {program : Program σ I α} (honly : program.Only writes calls) (store : σ) (environment : ε) :
    program.exec answer store environment = program.exec answer' store environment := by
  induction program generalizing store environment with
  | pure value => rfl
  | panic => rfl
  | get next ih => exact ih store (honly store) store environment
  | modify f next ih => exact ih honly.2 (f store) environment
  | call c next ih =>
      rw [exec_call, exec_call, hagree c honly.1]
      exact ih _ (honly.2 _) store _

end Only

end Program

/-! ## Invariants of an actor -/

/-- As long as every observation meets `assume`, `between` holds whenever the actor waits
for a message or has ended, and `always` at every moment; handlers restore the former and
keep the latter. -/
structure ActorInvariant (code : Behaviour σ Msg I)
    (assume : Entry σ Msg I → History σ Msg I → Prop)
    (always between : History σ Msg I → σ → Prop) : Prop where
  receive : ∀ message history store, between history store →
    assume (.received message store) history →
      always (.received message store :: history) store ∧
        (code.handle message).Safe assume always (fun history store _ => between history store)
          (.received message store :: history) store
  restart : ∀ history store, between history store →
    always history (code.restore store) ∧
      code.start.Safe assume always (fun history store _ => between history store)
        history (code.restore store)

/-- What no write and no restart changes of the store stays as it is. -/
theorem ActorInvariant.of_view {τ : Type} {code : Behaviour σ Msg I} {view : σ → τ}
    (hstart : code.start.Only (fun before after => view after = view before) fun _ => True)
    (hhandle : ∀ message,
      (code.handle message).Only (fun before after => view after = view before) fun _ => True)
    (hrestore : ∀ store, view (code.restore store) = view store) (value : τ) :
    ActorInvariant code (fun _ _ => True) (fun _ store => view store = value)
      (fun _ store => view store = value) := by
  have hsafe : ∀ {program : Program σ I Flow} {history : History σ Msg I} {store : σ},
      program.Only (fun before after => view after = view before) (fun _ => True) →
        view store = value → program.Safe (fun _ _ => True) (fun _ store => view store = value)
          (fun _ store _ => view store = value) history store := by
    intro program history store honly hview
    refine honly.safe (fun _ _ h => h)
      (fun _ _ _ h => h) ?_ (fun _ _ _ _ h _ => h) hview
    intro _ before after hbefore hsame
    exact hsame.trans hbefore
  constructor
  · intro message history store hview _
    exact ⟨hview, hsafe (hhandle message) hview⟩
  · intro history store hview
    have hrestored := (hrestore store).trans hview
    exact ⟨hrestored, hsafe hstart hrestored⟩

namespace Actor

/-- The invariant of an actor at any point of a handler. -/
def Holds (assume : Entry σ Msg I → History σ Msg I → Prop)
    (always between : History σ Msg I → σ → Prop) (actor : Actor σ Msg I) : Prop :=
  always actor.history actor.store ∧ match actor.task with
    | .idle | .ended => between actor.history actor.store
    | .running program => program.Safe assume always
        (fun history store _ => between history store) actor.history actor.store
    | .dead => True

variable {code : Behaviour σ Msg I} {assume : Entry σ Msg I → History σ Msg I → Prop}
  {always between : History σ Msg I → σ → Prop}

/-- The history only grows, by what the step shows. -/
theorem Step.history {actor next : Actor σ Msg I} {action : Action Msg I}
    (hstep : Step code actor action next) :
    next.history = match action with
      | .receive message => .received message actor.store :: actor.history
      | .call c reply => .called c reply actor.store :: actor.history
      | .silent => actor.history := by
  cases hstep <;> rfl

theorem Step.always_history {actor next : Actor σ Msg I} {action : Action Msg I}
    (hstep : Step code actor action next) (hassume : next.history.Always assume) :
    actor.history.Always assume := by
  rw [hstep.history] at hassume
  cases action with
  | receive message => exact hassume.2
  | call c reply => exact hassume.2
  | silent => exact hassume

theorem Step.holds (hinv : ActorInvariant code assume always between)
    {actor next : Actor σ Msg I} {action : Action Msg I} (hstep : Step code actor action next)
    (hassume : next.history.Always assume) (hholds : actor.Holds assume always between) :
    next.Holds assume always between := by
  cases hstep with
  | receive message => exact hinv.receive message _ _ hholds.2 hassume.1
  | get rest => exact hholds
  | modify f rest => exact hholds.2
  | call c rest reply => exact hholds.2 reply hassume.1
  | finish flow => cases flow <;> exact hholds
  | die => exact ⟨hholds.1, trivial⟩
  | restart => exact hinv.restart _ _ hholds.2

theorem Steps.holds (hinv : ActorInvariant code assume always between)
    {actor next : Actor σ Msg I} (hsteps : Steps code actor next)
    (hassume : next.history.Always assume) (hholds : actor.Holds assume always between) :
    next.Holds assume always between := by
  induction hsteps with
  | refl => exact hholds
  | tail _ hstep ih =>
      obtain ⟨action, hstep⟩ := hstep
      exact hstep.holds hinv hassume (ih (hstep.always_history hassume))

/-- What the start and every handler establish is there whenever none of them runs. -/
theorem Steps.rests {always between : History σ Msg I → σ → Prop}
    (hinv : ActorInvariant code (fun _ _ => True) always between) {store : σ}
    (halways : always [] store)
    (hstart : code.start.Safe (fun _ _ => True) always
      (fun history store _ => between history store)
      [] store) {actor : Actor σ Msg I} (hrun : Steps code (launch code store) actor)
    (hrests : actor.task = .idle ∨ actor.task = .ended) : between actor.history actor.store := by
  have hholds := (hrun.holds hinv (History.always_true _) ⟨halways, hstart⟩).2
  rcases hrests with htask | htask
  · rw [htask] at hholds
    exact hholds
  · rw [htask] at hholds
    exact hholds

/-! ## Whole handlers -/

/-- Answers from a fixed table, recorded in the history. -/
def recording (answers : (c : I.Call) → I.Reply c) :
    Program.Environment σ I (History σ Msg I) :=
  fun store history c => (answers c, .called c (answers c) store :: history)

/-- What a safe program keeps at every moment is there when it ends, also by a panic. -/
theorem always_exec {always : History σ Msg I → σ → Prop} {post : History σ Msg I → σ → α → Prop}
    (answers : (c : I.Call) → I.Reply c) {program : Program σ I α} {history : History σ Msg I}
    {store : σ} (hsafe : program.Safe (fun _ _ => True) always post history store)
    (halways : always history store) :
    always (program.exec (recording answers) store history).environment
      (program.exec (recording answers) store history).store := by
  induction program generalizing history store with
  | pure value => exact halways
  | panic => exact halways
  | get next ih => exact ih store hsafe halways
  | modify f next ih => exact ih hsafe.2 hsafe.1
  | call c next ih =>
      obtain ⟨hafter, hnext⟩ := hsafe (answers c) trivial
      exact ih _ hnext hafter

/-- A safe program that returns has established its postcondition. -/
theorem post_exec {assume : Entry σ Msg I → History σ Msg I → Prop}
    {always : History σ Msg I → σ → Prop} {post : History σ Msg I → σ → α → Prop}
    {answers : (c : I.Call) → I.Reply c}
    (hassume : ∀ c store history, assume (.called c (answers c) store) history)
    {program : Program σ I α} {history : History σ Msg I} {store : σ}
    (hsafe : program.Safe assume always post history store) {value : α}
    (hdone : (program.exec (recording answers) store history).outcome = .done value) :
    post (program.exec (recording answers) store history).environment
      (program.exec (recording answers) store history).store value := by
  induction program generalizing history store with
  | pure result =>
      cases hdone
      exact hsafe
  | panic => cases hdone
  | get next ih => exact ih store hsafe hdone
  | modify f next ih => exact ih hsafe.2 hdone
  | call c next ih => exact ih _ (hsafe (answers c) (hassume c store history)).2 hdone

/-- What the actor's task has become when a program ended. -/
def settle (result : Program.Result σ (History σ Msg I) Flow) : Actor σ Msg I where
  store := result.store
  task := match result.outcome with
    | .done flow => flow.task
    | .panicked => .dead
  history := result.environment

/-- Serve one message from start to end; an actor that is not waiting stays as it is. -/
def deliver (code : Behaviour σ Msg I) (answers : (c : I.Call) → I.Reply c)
    (message : Msg) (actor : Actor σ Msg I) : Actor σ Msg I :=
  match actor.task with
  | .idle => settle ((code.handle message).exec (recording answers) actor.store
      (.received message actor.store :: actor.history))
  | _ => actor

/-- A new actor after its start. -/
def opened (code : Behaviour σ Msg I) (answers : (c : I.Call) → I.Reply c) (store : σ) :
    Actor σ Msg I :=
  settle (code.start.exec (recording answers) store [])

/-- Serve messages one after the other, each with its own answers. -/
def deliverAll (code : Behaviour σ Msg I) :
    List (((c : I.Call) → I.Reply c) × Msg) → Actor σ Msg I → Actor σ Msg I
  | [], actor => actor
  | (answers, message) :: rest, actor =>
      deliverAll code rest (actor.deliver code answers message)

theorem steps_exec (answers : (c : I.Call) → I.Reply c) (program : Program σ I Flow) (store : σ)
    (history : History σ Msg I) :
    Steps code ⟨store, .running program, history⟩
      (settle (program.exec (recording answers) store history)) := by
  induction program generalizing store history with
  | pure flow => exact .single ⟨_, .finish flow⟩
  | panic => exact .single ⟨_, .die⟩
  | get next ih => exact .head ⟨_, .get next⟩ (ih store store history)
  | modify f next ih => exact .head ⟨_, .modify f next⟩ (ih (f store) history)
  | call c next ih => exact .head ⟨_, .call c next (answers c)⟩ (ih _ store _)

theorem steps_opened (answers : (c : I.Call) → I.Reply c) (store : σ) :
    Steps code (launch code store) (opened code answers store) :=
  steps_exec answers code.start store []

/-- Serving a message in one piece is a run of single steps. -/
theorem steps_deliver (answers : (c : I.Call) → I.Reply c) (message : Msg)
    (actor : Actor σ Msg I) : Steps code actor (actor.deliver code answers message) := by
  obtain ⟨store, task, history⟩ := actor
  cases task with
  | idle => exact .head ⟨_, .receive message⟩ (steps_exec answers _ store _)
  | running program => exact .refl
  | ended => exact .refl
  | dead => exact .refl

theorem steps_deliverAll (messages : List (((c : I.Call) → I.Reply c) × Msg))
    (actor : Actor σ Msg I) : Steps code actor (actor.deliverAll code messages) := by
  induction messages generalizing actor with
  | nil => exact .refl
  | cons first rest ih =>
      obtain ⟨answers, message⟩ := first
      exact (steps_deliver answers message actor).trans (ih _)

/-- A new actor, started and served some messages, has taken a run of single steps. -/
theorem steps_opened_deliverAll (answers : (c : I.Call) → I.Reply c) (store : σ)
    (messages : List (((c : I.Call) → I.Reply c) × Msg)) :
    Steps code (launch code store) ((opened code answers store).deliverAll code messages) :=
  (steps_opened answers store).trans (steps_deliverAll messages _)

/-! ## Scripts of messages -/

/-- Every message of a script meets `ok` at the moment when it is served. -/
def Along (code : Behaviour σ Msg I)
    (ok : Actor σ Msg I → ((c : I.Call) → I.Reply c) × Msg → Prop) :
    List (((c : I.Call) → I.Reply c) × Msg) → Actor σ Msg I → Prop
  | [], _ => True
  | item :: rest, actor => ok actor item ∧ Along code ok rest (actor.deliver code item.1 item.2)

/-- Two actors with the same store and the same task, whatever they observed. -/
def Alike (first second : Actor σ Msg I) : Prop :=
  first.store = second.store ∧ first.task = second.task

section Views

variable {τ : Type}

/-- What `strip` keeps of an actor, and whether its task takes messages. -/
def view (strip : σ → τ) (actor : Actor σ Msg I) : τ × Bool :=
  (strip actor.store, decide (actor.task = .idle))

/-- Two handlers ended alike, as far as `strip` tells. -/
def Agree (strip : σ → τ) (first second : Program.Result σ (History σ Msg I) Flow) : Prop :=
  strip first.store = strip second.store ∧ first.outcome = second.outcome

/-- What was observed before does not change how a handler ends. -/
theorem agree_history (answers : (c : I.Call) → I.Reply c) (program : Program σ I Flow) (store : σ)
    (first second : History σ Msg I) :
    Agree id (program.exec (recording answers) store first)
      (program.exec (recording answers) store second) := by
  induction program generalizing store first second with
  | pure flow => exact ⟨rfl, rfl⟩
  | panic => exact ⟨rfl, rfl⟩
  | get next ih => exact ih store store first second
  | modify f next ih => exact ih (f store) first second
  | call c next ih => exact ih (answers c) store _ _

/-- The actor waits after a handler exactly if the handler returned to the loop. -/
theorem idle_settle_iff {result : Program.Result σ (History σ Msg I) Flow} :
    (settle result).task = .idle ↔ result.outcome = .done .next := by
  unfold settle
  rcases result with ⟨_ | _, store, history⟩
  next flow => cases flow <;> simp [Flow.task]
  next => simp

theorem Agree.view_settle {strip : σ → τ}
    {first second : Program.Result σ (History σ Msg I) Flow} (hagree : Agree strip first second) :
    view strip (settle first) = view strip (settle second) := by
  obtain ⟨hstore, houtcome⟩ := hagree
  unfold view settle
  rw [hstore, houtcome]

variable {strip : σ → τ} {dress : τ → σ}
    {hear : ((c : I.Call) → I.Reply c) → (c : I.Call) → I.Reply c}
  {counts : ((c : I.Call) → I.Reply c) × Msg → Bool}
  {ok : Actor σ Msg I → ((c : I.Call) → I.Reply c) × Msg → Prop}

/-- How a view goes on, if the store is dressed up and the answers are heard. -/
def follow (code : Behaviour σ Msg I) (strip : σ → τ) (dress : τ → σ)
    (hear : ((c : I.Call) → I.Reply c) → (c : I.Call) → I.Reply c) (seen : τ × Bool)
    (item : ((c : I.Call) → I.Reply c) × Msg) : τ × Bool :=
  if seen.2 then
    view strip (deliver code (hear item.1) item.2 ⟨dress seen.1, .idle, []⟩)
  else
    seen

/-- If the messages that count end alike in the store and in its dressed up view, and the
others leave the view alone, then the messages that count determine the view. -/
theorem view_deliverAll
    (hcounts : ∀ store past answers message, ok ⟨store, .idle, past⟩ (answers, message) →
      counts (answers, message) = true → ∀ history other : History σ Msg I, Agree strip
        ((code.handle message).exec (recording answers) store history)
        ((code.handle message).exec (recording (hear answers)) (dress (strip store)) other))
    (hskips : ∀ store past answers message, ok ⟨store, .idle, past⟩ (answers, message) →
      counts (answers, message) = false → ∀ history : History σ Msg I, Agree strip
        ((code.handle message).exec (recording answers) store history)
        ⟨.done .next, store, history⟩)
    {script : List (((c : I.Call) → I.Reply c) × Msg)} {actor : Actor σ Msg I}
    (halong : Along code ok script actor) :
    view strip (actor.deliverAll code script) =
      (script.filter counts).foldl (follow code strip dress hear) (view strip actor) := by
  induction script generalizing actor with
  | nil => rfl
  | cons item rest ih =>
      obtain ⟨hok, hrest⟩ := halong
      obtain ⟨answers, message⟩ := item
      obtain ⟨store, task, past⟩ := actor
      rw [deliverAll, ih hrest]
      cases hitem : counts (answers, message) with
      | true =>
          rw [List.filter_cons_of_pos hitem, List.foldl_cons]
          congr 1
          cases task with
          | idle => exact (hcounts store past answers message hok hitem _ _).view_settle
          | running program => rfl
          | ended => rfl
          | dead => rfl
      | false =>
          rw [List.filter_cons_of_neg (by rw [hitem]; exact Bool.false_ne_true)]
          congr 1
          cases task with
          | idle => exact (hskips store past answers message hok hitem _).view_settle
          | running program => rfl
          | ended => rfl
          | dead => rfl

/-- If each message of a script ends alike under its answers and under others, then the
whole script does. -/
theorem alike_deliverAll
    (hok : ∀ store past answers message, ok ⟨store, .idle, past⟩ (answers, message) →
      ∀ history : History σ Msg I, Agree id
        ((code.handle message).exec (recording answers) store history)
        ((code.handle message).exec (recording (hear answers)) store history))
    {script : List (((c : I.Call) → I.Reply c) × Msg)} {first second : Actor σ Msg I}
    (halong : Along code ok script first) (halike : Alike first second) :
    Alike (first.deliverAll code script)
      (second.deliverAll code (script.map fun item => (hear item.1, item.2))) := by
  induction script generalizing first second with
  | nil => exact halike
  | cons item rest ih =>
      obtain ⟨hitem, hrest⟩ := halong
      obtain ⟨answers, message⟩ := item
      obtain ⟨store, task, past⟩ := first
      obtain ⟨store', task', past'⟩ := second
      obtain ⟨rfl, rfl⟩ := halike
      apply ih hrest
      cases task with
      | idle =>
          have hheard := hok store past answers message hitem (.received message store :: past)
          have hpast := agree_history (hear answers) (code.handle message) store
            (.received message store :: past) (.received message store :: past')
          have hstore := hheard.1.trans hpast.1
          have houtcome := hheard.2.trans hpast.2
          refine ⟨hstore, ?_⟩
          simp only [deliver, settle, houtcome]
      | running program => exact ⟨rfl, rfl⟩
      | ended => exact ⟨rfl, rfl⟩
      | dead => exact ⟨rfl, rfl⟩

end Views

end Actor

end Effect
