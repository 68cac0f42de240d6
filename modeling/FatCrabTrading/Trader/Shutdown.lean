import FatCrabTrading.Endurance
import FatCrabTrading.Purse.Replies
import FatCrabTrading.Trader.Notices

/-! # Shutting a trader down

`FatCrabTrader::shutdown` stops the purse and joins its task, tells the makers and then the
takers to shut down, joins their tasks, and shuts n3xB's manager down last. Until a maker or
a taker has been told, it goes on serving clients and the network.
-/

namespace FatCrabTrading

open Effect Program

section Shutdown

variable [Bitcoin]

/-- `JoinError`: the task that was joined had panicked, or was cancelled. -/
inductive JoinError where
  | panic
  | cancelled

/-- The two maps of trades that a trader keeps. -/
inductive Role where
  | maker
  | taker

/-- The place that `shutdown` has come to, with the slots that it has yet to visit. It has
`failed` if it returned the error of a task that it joined. -/
inductive Phase where
  | stopPurse
  | joinPurse
  | tell (role : Role) (pending : List ℕ)
  | await (role : Role) (slot : ℕ) (pending : List ℕ)
  | join (role : Role) (pending : List ℕ)
  | stopN3xb
  | returned (result : Except JoinError Unit)
  | failed (error : JoinError)
  | panicked

/-- Makers are told before takers, and joined after all of them were told. -/
def Phase.afterTell (trades : Role → List ℕ) : Role → Phase
  | .maker => .tell .taker (trades .taker)
  | .taker => .join .maker (trades .maker)

def Phase.afterJoin (trades : Role → List ℕ) : Role → Phase
  | .maker => .join .taker (trades .taker)
  | .taker => .stopN3xb

namespace Agent

/-- The maker's or taker's task has returned. -/
def Ended : Agent → Prop
  | .maker actor => actor.task = .ended
  | .taker actor => actor.task = .ended
  | _ => False

/-- The maker's or taker's task has panicked. -/
def Dead : Agent → Prop
  | .maker actor => actor.task = .dead
  | .taker actor => actor.task = .dead
  | _ => False

/-- The maker or taker waits for a message. -/
def Waits : Agent → Prop
  | .maker actor => actor.task = .idle
  | .taker actor => actor.task = .idle
  | _ => False

/-- A step of a maker or taker that has not returned. -/
inductive Works : Agent → Move → Agent → Prop where
  | maker {before after action} (hstep : Actor.Step FatCrabMakerActor.code before action after)
      (htask : before.task ≠ .ended) : Works (.maker before) (.of action) (.maker after)
  | taker {before after action} (hstep : Actor.Step FatCrabTakerActor.code before action after)
      (htask : before.task ≠ .ended) : Works (.taker before) (.of action) (.taker after)

/-- The task takes the request to shut down. -/
inductive Told : Agent → Agent → Prop where
  | maker {before after} (hstep : Actor.Step FatCrabMakerActor.code before
      (.receive (.request .shutdown)) after) : Told (.maker before) (.maker after)
  | taker {before after} (hstep : Actor.Step FatCrabTakerActor.code before
      (.receive (.request .shutdown)) after) : Told (.taker before) (.taker after)

end Agent

/-- The purse serves the request that a step makes, if it makes one. -/
def Purse.Replies (before : Purse) (move : Move) (after : Purse) : Prop :=
  match move with
  | .call (.purse request) reply => ∃ answers, before.serve answers request = (reply, after)
  | _ => after = before

/-- A trader that is being shut down. -/
structure Closing where
  trader : Trader
  phase : Phase

namespace Closing

/-- A trader whose `shutdown` was called. -/
def start (trader : Trader) : Closing := ⟨trader, .stopPurse⟩

/-- One step of `shutdown`, or of a maker or taker meanwhile. The purse's accessor unwraps,
those of makers and takers only warn, and a task that panicked ends `shutdown` where it is
joined. An answer to `Shutdown` is taken when the task is over. -/
inductive Step (trades : Role → List ℕ) (manager : Except JoinError Unit) :
    Closing → Closing → Prop where
  | act {trader phase slot move next purse} (hworks : (trader.agents slot).Works move next)
      (hreplies : trader.purse.Replies move purse) :
      Step trades manager ⟨trader, phase⟩
        ⟨⟨purse, Function.update trader.agents slot next⟩, phase⟩
  | stopPurse {trader answers reply purse}
      (hserve : trader.purse.serve answers .shutdown = (some reply, purse)) :
      Step trades manager ⟨trader, .stopPurse⟩ ⟨⟨purse, trader.agents⟩, .joinPurse⟩
  | purseGone {trader answers purse}
      (hserve : trader.purse.serve answers .shutdown = (none, purse)) :
      Step trades manager ⟨trader, .stopPurse⟩ ⟨⟨purse, trader.agents⟩, .panicked⟩
  | joinPurse {trader} (hended : trader.purse.status = .ended) :
      Step trades manager ⟨trader, .joinPurse⟩ ⟨trader, .tell .maker (trades .maker)⟩
  | joinPurseFailed {trader} (hdead : trader.purse.status = .dead) :
      Step trades manager ⟨trader, .joinPurse⟩ ⟨trader, .failed .panic⟩
  | send {trader role slot pending next} (hpending : slot ∈ pending)
      (htold : (trader.agents slot).Told next) :
      Step trades manager ⟨trader, .tell role pending⟩
        ⟨⟨trader.purse, Function.update trader.agents slot next⟩,
          .await role slot (pending.erase slot)⟩
  | sendFailed {trader role slot pending} (hpending : slot ∈ pending)
      (hover : (trader.agents slot).Ended ∨ (trader.agents slot).Dead) :
      Step trades manager ⟨trader, .tell role pending⟩ ⟨trader, .tell role (pending.erase slot)⟩
  | answered {trader role slot pending}
      (hover : (trader.agents slot).Ended ∨ (trader.agents slot).Dead) :
      Step trades manager ⟨trader, .await role slot pending⟩ ⟨trader, .tell role pending⟩
  | allTold {trader role} :
      Step trades manager ⟨trader, .tell role []⟩ ⟨trader, .afterTell trades role⟩
  | join {trader role slot pending} (hpending : slot ∈ pending)
      (hended : (trader.agents slot).Ended) :
      Step trades manager ⟨trader, .join role pending⟩ ⟨trader, .join role (pending.erase slot)⟩
  | joinFailed {trader role slot pending} (hpending : slot ∈ pending)
      (hdead : (trader.agents slot).Dead) :
      Step trades manager ⟨trader, .join role pending⟩ ⟨trader, .failed .panic⟩
  | allJoined {trader role} :
      Step trades manager ⟨trader, .join role []⟩ ⟨trader, .afterJoin trades role⟩
  | stopN3xb {trader} :
      Step trades manager ⟨trader, .stopN3xb⟩ ⟨trader, .returned manager⟩

/-- Any number of steps. -/
def Steps (trades : Role → List ℕ) (manager : Except JoinError Unit) :
    Closing → Closing → Prop :=
  Relation.ReflTransGen (Step trades manager)

end Closing

/-! ## Tasks on their own -/

/-- A handler that can only end its task. -/
def Actor.Closes {σ Msg : Type} (actor : Actor σ Msg tradeInterface) : Prop :=
  match actor.task with
  | .idle => False
  | .running program => program.Safe (fun _ _ => True) (fun _ _ => True)
      (fun _ _ flow => flow = .stop) actor.history actor.store
  | .ended | .dead => True

theorem closes_of_step {σ Msg : Type} {code : Behaviour σ Msg tradeInterface}
    {before after : Actor σ Msg tradeInterface} {action : Action Msg tradeInterface}
    (hstep : Actor.Step code before action after) (htask : before.task ≠ .ended)
    (hcloses : Actor.Closes before) : Actor.Closes after := by
  cases hstep with
  | receive message => exact hcloses.elim
  | get next => exact hcloses
  | modify f next => exact hcloses.2
  | call c next reply => exact (hcloses reply trivial).2
  | finish flow =>
      obtain rfl : flow = .stop := hcloses
      trivial
  | die => trivial
  | restart => exact absurd rfl htask

namespace Agent

/-- A maker or a taker. -/
def IsTrade : Agent → Prop
  | .maker _ | .taker _ => True
  | _ => False

/-- In the turn under way, the maker or taker could rely on what it was told and answered. -/
def Reliable : Agent → Prop
  | .maker actor => actor.history.Turn (FatCrabMakerActor.usage.Reliable True)
  | .taker actor => actor.history.Turn (FatCrabTakerActor.usage.Reliable True)
  | _ => True

/-- The maker or taker does not panic unless it is let down. It asks the purse only if that is
`serving`. -/
def Endures (serving : Prop) : Agent → Prop
  | .maker actor =>
      actor.Endures (FatCrabMakerActor.usage.Reliable serving) (SparesPurse serving)
  | .taker actor =>
      actor.Endures (FatCrabTakerActor.usage.Reliable serving) (SparesPurse serving)
  | _ => True

/-- Once its task has returned, the store of the maker or taker is written. -/
def Stops : Agent → Prop
  | .maker actor => actor.Stops FatCrabTrading.Flushed
  | .taker actor => actor.Stops FatCrabTrading.Flushed
  | _ => True

/-- The task has returned, with the store written. -/
def Flushed : Agent → Prop
  | .maker actor => actor.task = .ended ∧ FatCrabTrading.Flushed actor.history actor.store
  | .taker actor => actor.task = .ended ∧ FatCrabTrading.Flushed actor.history actor.store
  | _ => False

/-- The handler that runs ends the task. -/
def Closes : Agent → Prop
  | .maker actor => Actor.Closes actor
  | .taker actor => Actor.Closes actor
  | _ => False

variable {before after : Agent} {move : Move}

theorem Step.endures (hstep : Step before move after)
    (hendures : before.Reliable → before.Endures True) (hreliable : after.Reliable) :
    after.Endures True := by
  cases hstep with
  | maker hstep =>
      exact hstep.endures_of_turn (FatCrabMakerActor.endurance True) hendures hreliable
  | taker hstep =>
      exact hstep.endures_of_turn (FatCrabTakerActor.endurance True) hendures hreliable
  | wallet hstep => trivial

variable {serving : Prop} {agent : Agent}

theorem Endures.not_dead (hendures : agent.Endures serving) : ¬agent.Dead := by
  intro hdead
  cases agent with
  | vacant | wallet actor => exact hdead
  | maker actor =>
      unfold Endures at hendures
      exact hendures.alive hdead
  | taker actor =>
      unfold Endures at hendures
      exact hendures.alive hdead

theorem Step.stops (hstep : Step before move after) (hstops : before.Stops) : after.Stops := by
  cases hstep with
  | maker hstep => exact FatCrabMakerActor.stops_of_step hstep hstops
  | taker hstep => exact FatCrabTakerActor.stops_of_step hstep hstops
  | wallet hstep => trivial

theorem Works.step (hworks : Works before move after) : Step before move after := by
  cases hworks with
  | maker hstep => exact .maker hstep
  | taker hstep => exact .taker hstep

theorem Told.step (htold : Told before after) : Step before .other after := by
  cases htold with
  | maker hstep => exact .maker hstep
  | taker hstep => exact .taker hstep

theorem Works.isTrade (hworks : Works before move after) : before.IsTrade ∧ after.IsTrade := by
  cases hworks <;> exact ⟨trivial, trivial⟩

theorem Told.isTrade (htold : Told before after) : before.IsTrade ∧ after.IsTrade := by
  cases htold <;> exact ⟨trivial, trivial⟩

/-- A task that is over takes no more steps. -/
theorem Works.not_over (hworks : Works before move after) : ¬(before.Ended ∨ before.Dead) := by
  rintro (hended | hdead)
  · cases hworks with
    | maker hstep htask => exact htask hended
    | taker hstep htask => exact htask hended
  · cases hworks with
    | maker hstep => cases hstep <;> cases hdead
    | taker hstep => cases hstep <;> cases hdead

theorem Told.not_over (htold : Told before after) : ¬(before.Ended ∨ before.Dead) := by
  rintro (hover | hover) <;> cases htold with
  | maker hstep =>
      cases hstep
      cases hover
  | taker hstep =>
      cases hstep
      cases hover

theorem Works.closes (hworks : Works before move after) (hcloses : before.Closes) :
    after.Closes := by
  cases hworks with
  | maker hstep htask => exact closes_of_step hstep htask hcloses
  | taker hstep htask => exact closes_of_step hstep htask hcloses

/-- Whoever was told to shut down serves nothing after that. -/
theorem Told.closes (htold : Told before after) : after.Closes := by
  cases htold with
  | maker hstep =>
      cases hstep
      simp [Closes, Actor.Closes, FatCrabMakerActor.code, FatCrabMakerActor.handle,
        FatCrabMakerActor.handleRequest, FatCrabMakerActor.shutdown, forall_except]
  | taker hstep =>
      cases hstep
      simp [Closes, Actor.Closes, FatCrabTakerActor.code, FatCrabTakerActor.handle,
        FatCrabTakerActor.handleRequest, FatCrabTakerActor.shutdown, forall_except]

theorem Waits.told {agent : Agent} (hwaits : agent.Waits) : ∃ next, agent.Told next := by
  cases agent with
  | vacant | wallet actor => exact hwaits.elim
  | maker actor =>
      obtain ⟨store, task, history⟩ := actor
      obtain rfl : task = .idle := hwaits
      exact ⟨_, .maker (.receive _)⟩
  | taker actor =>
      obtain ⟨store, task, history⟩ := actor
      obtain rfl : task = .idle := hwaits
      exact ⟨_, .taker (.receive _)⟩

end Agent

/-! ## The purse meanwhile -/

namespace Purse

variable {purse after : Purse} {answers : WalletAnswers}

/-- A request that does the purse no harm is answered. -/
theorem answered_of_harmless {σ Msg : Type} {past : History σ Msg tradeInterface}
    {request : PurseRequest} (hharmless : request.Harmless past)
    (hserving : purse.status = .serving) :
    ∃ reply, (purse.serve answers request).1 = some reply := by
  apply answered_of_not_unwraps _ hserving
  cases request with
  | getBalances | allocateFunds sats | syncBlockchain | shutdown => exact hharmless.elim
  | _ => rfl

/-- Such a request is served, and the purse goes on. -/
theorem served_of_harmless {σ Msg : Type} {past : History σ Msg tradeInterface}
    {request : PurseRequest} {reply : Option request.Reply} (hharmless : request.Harmless past)
    (hserving : purse.status = .serving)
    (hheld : ∀ fundsId, request = .freeFunds fundsId → purse.lookup fundsId ≠ none)
    (hserve : purse.serve answers request = (reply, after)) :
    (TradeCall.purse request).Served reply ∧ after.status = .serving := by
  obtain ⟨answer, hanswer⟩ := @answered_of_harmless _ purse answers σ Msg past request hharmless
    hserving
  rw [hserve] at hanswer
  obtain rfl : reply = some answer := hanswer
  refine ⟨?_, serving_of_serve hserve ?_⟩
  · cases request with
    | freeFunds fundsId =>
        rw [serve_freeFunds hserving, if_pos (Option.isSome_iff_ne_none.mpr (hheld fundsId rfl))]
          at hserve
        exact (congrArg Prod.fst hserve).symm
    | _ => exact Option.some_ne_none answer
  · rintro rfl
    exact hharmless

/-- A step that draws no id could have been taken without the shutdown. -/
theorem Replies.toAnswers {move : Move} (hreplies : purse.Replies move after)
    (hdraws : ∀ sats reply, move ≠ .call (.purse (.allocateFunds sats)) reply) :
    purse.Answers move after := by
  cases move with
  | other => exact hreplies
  | call c reply =>
      cases c with
      | purse request =>
          obtain ⟨answers, hserve⟩ := hreplies
          refine ⟨answers, ?_, hserve⟩
          rintro sats rfl
          exact absurd rfl (hdraws sats reply)
      | n3xb request | notify notifTx notif | respond rsp | terminate => exact hreplies

/-- Once the purse is gone, no step of another task changes it. -/
theorem Replies.eq_of_not_serving {move : Move} (hreplies : purse.Replies move after)
    (hstatus : purse.status ≠ .serving) : after = purse := by
  unfold Replies at hreplies
  split at hreplies
  next request reply =>
    obtain ⟨answers, hserve⟩ := hreplies
    rw [serve_of_not_serving hstatus] at hserve
    cases hserve
    rfl
  next => exact hreplies

end Purse

/-! ## Makers and takers until then -/

end Shutdown

end FatCrabTrading
