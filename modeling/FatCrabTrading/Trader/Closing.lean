import FatCrabTrading.Trader.Owners
import FatCrabTrading.Trader.Run
import FatCrabTrading.Trader.Shutdown

/-! # Orderly shutdowns

Until the purse is stopped it answers, and after that it must not be asked any more: a maker
or a taker that asks it panics, and then its task cannot be joined. If no message that leads
to such a request is served after the purse is stopped, and no handler that runs at that
moment has yet to make one, every task is joined, and `shutdown` can always come to return Ok.
-/

namespace FatCrabTrading

open Effect Program

section Closing

variable [Bitcoin]

/-! ## What holds on the way -/

/-- The tasks that are not known to be over. -/
def Phase.unvisited (trades : Role → List ℕ) : Phase → List ℕ
  | .tell .maker pending => pending ++ trades .taker
  | .tell .taker pending => pending
  | .await .maker slot pending => slot :: pending ++ trades .taker
  | .await .taker slot pending => slot :: pending
  | .join _ _ | .stopN3xb | .returned _ => []
  | .stopPurse | .joinPurse | .failed _ | .panicked => trades .maker ++ trades .taker

/-- The tasks that the current loop has yet to visit. -/
def Phase.pending : Phase → List ℕ
  | .tell _ pending | .join _ pending => pending
  | .await _ slot pending => slot :: pending
  | _ => []

/-- The maps hold the makers and takers, and nothing else. -/
def Trader.Registered (trader : Trader) (trades : Role → List ℕ) : Prop :=
  ∀ slot, (trader.agents slot).IsTrade ↔ ∃ role, slot ∈ trades role

namespace Closing

variable {trades : Role → List ℕ} {manager : Except JoinError Unit} {closing next : Closing}

/-- How far the shutdown has come. -/
structure Underway (trades : Role → List ℕ) (closing : Closing) : Prop where
  registered : closing.trader.Registered trades
  visited : ∀ slot, (closing.trader.agents slot).IsTrade →
    slot ∈ closing.phase.unvisited trades ∨
      (closing.trader.agents slot).Ended ∨ (closing.trader.agents slot).Dead
  pending : ∀ slot ∈ closing.phase.pending, (closing.trader.agents slot).IsTrade
  awaited : ∀ role slot pending, closing.phase = .await role slot pending →
    (closing.trader.agents slot).Closes
  ended : closing.phase ≠ .stopPurse → closing.phase ≠ .panicked →
    closing.trader.purse.status = .ended

theorem mem_trades {trader : Trader} (hregistered : trader.Registered trades) {slot : ℕ}
    (htrade : (trader.agents slot).IsTrade) : slot ∈ trades .maker ++ trades .taker := by
  obtain ⟨role, hslot⟩ := (hregistered slot).mp htrade
  cases role with
  | maker => exact List.mem_append_left _ hslot
  | taker => exact List.mem_append_right _ hslot

theorem isTrade_of_mem {trader : Trader} (hregistered : trader.Registered trades) {role : Role}
    {slot : ℕ} (hslot : slot ∈ trades role) : (trader.agents slot).IsTrade :=
  (hregistered slot).mpr ⟨role, hslot⟩

/-- Only the agent that works changes, and it stays a trade. -/
theorem Underway.act (hunderway : Underway trades closing) {slot : ℕ} {move : Move} {agent : Agent}
    {purse : Purse} (hworks : (closing.trader.agents slot).Works move agent)
    (hreplies : closing.trader.purse.Replies move purse) :
    Underway trades ⟨⟨purse, Function.update closing.trader.agents slot agent⟩, closing.phase⟩ := by
  have htrade : ∀ other, (Function.update closing.trader.agents slot agent other).IsTrade ↔
      (closing.trader.agents other).IsTrade := by
    intro other
    exact ⟨Agent.holds_of_update fun _ => hworks.isTrade.1,
      Agent.holds_update fun _ => hworks.isTrade.2⟩
  constructor
  · exact fun other => (htrade other).trans (hunderway.registered other)
  · intro other hother
    dsimp only at hother ⊢
    rcases hunderway.visited other ((htrade other).mp hother) with hunvisited | hover
    · exact .inl hunvisited
    · exact .inr (@Agent.holds_update _ (fun agent => agent.Ended ∨ agent.Dead) _ _ _ _
        (fun hover => absurd hover hworks.not_over) hover)
  · exact fun other hpending => (htrade other).mpr (hunderway.pending other hpending)
  · intro role other pending hphase
    exact Agent.holds_update hworks.closes (hunderway.awaited role other pending hphase)
  · intro hphase hpanicked
    have hended := hunderway.ended hphase hpanicked
    have hsame := hreplies.eq_of_not_serving (by simp [hended])
    rw [← hsame] at hended
    exact hended

omit [Bitcoin] in
/-- A slot that was visited is struck off once its task is over. -/
theorem unvisited_erase {role : Role} (slot : ℕ) {other : ℕ} {pending : List ℕ}
    (hunvisited : other ∈ (Phase.tell role pending).unvisited trades) :
    other = slot ∨ other ∈ (Phase.tell role (pending.erase slot)).unvisited trades := by
  rcases eq_or_ne other slot with heq | hne
  · exact .inl heq
  · right
    cases role <;>
      simpa only [Phase.unvisited, List.mem_append, List.mem_erase_of_ne hne] using hunvisited

omit [Bitcoin] in
theorem unvisited_await {role : Role} {slot other : ℕ} {pending : List ℕ} :
    other ∈ (Phase.await role slot pending).unvisited trades ↔
      other = slot ∨ other ∈ (Phase.tell role pending).unvisited trades := by
  cases role <;> simp [Phase.unvisited]

/-- `Shutdown` is taken by one task. -/
theorem Underway.send {trader : Trader} {role : Role} {slot : ℕ} {pending : List ℕ} {agent : Agent}
    (hunderway : Underway trades ⟨trader, .tell role pending⟩)
    (htold : (trader.agents slot).Told agent) :
    Underway trades ⟨⟨trader.purse, Function.update trader.agents slot agent⟩,
      .await role slot (pending.erase slot)⟩ := by
  have htrade : ∀ other, (Function.update trader.agents slot agent other).IsTrade ↔
      (trader.agents other).IsTrade := by
    intro other
    exact ⟨Agent.holds_of_update fun _ => htold.isTrade.1,
      Agent.holds_update fun _ => htold.isTrade.2⟩
  constructor
  · exact fun other => (htrade other).trans (hunderway.registered other)
  · intro other hother
    dsimp only
    rw [unvisited_await]
    rcases eq_or_ne other slot with rfl | hne
    · exact .inl (.inl rfl)
    · rw [Function.update_of_ne hne]
      rcases hunderway.visited other ((htrade other).mp hother) with hunvisited | hover
      · exact .inl (unvisited_erase slot hunvisited)
      · exact .inr hover
  · intro other hpending
    rw [htrade other]
    rcases List.mem_cons.mp hpending with rfl | hother
    · exact htold.isTrade.1
    · exact hunderway.pending other (List.mem_of_mem_erase hother)
  · rintro _ _ _ ⟨⟩
    dsimp only
    rw [Function.update_self]
    exact htold.closes
  · exact fun _ _ => hunderway.ended nofun nofun

theorem Underway.step (hunderway : Underway trades closing)
    (hstep : Step trades manager closing next) : Underway trades next := by
  have hmem := fun role slot =>
    @isTrade_of_mem _ trades closing.trader hunderway.registered role slot
  cases hstep with
  | act hworks hreplies => exact hunderway.act hworks hreplies
  | @stopPurse trader answers reply purse hserve =>
      refine ⟨hunderway.registered, hunderway.visited, nofun, nofun, fun _ _ => ?_⟩
      by_cases hserving : trader.purse.status = .serving
      · rw [Purse.serve_shutdown hserving] at hserve
        cases hserve
        rfl
      · rw [Purse.serve_of_not_serving hserving] at hserve
        cases hserve
  | purseGone hserve =>
      exact ⟨hunderway.registered, hunderway.visited, nofun, nofun,
        fun _ hphase => absurd rfl hphase⟩
  | @joinPurse trader hended =>
      exact ⟨hunderway.registered, hunderway.visited, hmem .maker, nofun, fun _ _ => hended⟩
  | @joinPurseFailed trader hdead =>
      have hended := hunderway.ended nofun nofun
      rw [hdead] at hended
      cases hended
  | send hpending htold => exact hunderway.send htold
  | @sendFailed trader role slot pending hpending hover =>
      refine ⟨hunderway.registered, ?_, ?_, nofun, fun _ _ => hunderway.ended nofun nofun⟩
      · intro other hother
        rcases hunderway.visited other hother with hunvisited | hdone
        · rcases unvisited_erase slot hunvisited with rfl | hrest
          · exact .inr hover
          · exact .inl hrest
        · exact .inr hdone
      · exact fun other hother => hunderway.pending other (List.mem_of_mem_erase hother)
  | @answered trader role slot pending hover =>
      refine ⟨hunderway.registered, ?_, ?_, nofun, fun _ _ => hunderway.ended nofun nofun⟩
      · intro other hother
        rcases hunderway.visited other hother with hunvisited | hdone
        · rcases unvisited_await.mp hunvisited with rfl | hrest
          · exact .inr hover
          · exact .inl hrest
        · exact .inr hdone
      · exact fun other hother => hunderway.pending other (List.mem_cons_of_mem _ hother)
  | @allTold trader role =>
      have hended := hunderway.ended nofun nofun
      cases role with
      | maker =>
          exact ⟨hunderway.registered, hunderway.visited, hmem .taker, nofun, fun _ _ => hended⟩
      | taker =>
          exact ⟨hunderway.registered, hunderway.visited, hmem .maker, nofun, fun _ _ => hended⟩
  | @join trader role slot pending hpending hended =>
      refine ⟨hunderway.registered, hunderway.visited, ?_, nofun,
        fun _ _ => hunderway.ended nofun nofun⟩
      exact fun other hother => hunderway.pending other (List.mem_of_mem_erase hother)
  | @joinFailed trader role slot pending hpending hdead =>
      exact ⟨hunderway.registered, fun _ htrade => .inl (mem_trades hunderway.registered htrade),
        nofun, nofun, fun _ _ => hunderway.ended nofun nofun⟩
  | @allJoined trader role =>
      have hended := hunderway.ended nofun nofun
      cases role with
      | maker =>
          exact ⟨hunderway.registered, hunderway.visited, hmem .taker, nofun, fun _ _ => hended⟩
      | taker => exact ⟨hunderway.registered, hunderway.visited, nofun, nofun, fun _ _ => hended⟩
  | stopN3xb =>
      exact ⟨hunderway.registered, hunderway.visited, nofun, nofun,
        fun _ _ => hunderway.ended nofun nofun⟩

end Closing

/-! ## Fair shutdowns -/

section Fair

variable {σ Msg : Type} (usage : Usage σ Msg)

/-- The handler that runs, if one does, asks the purse no more. -/
def Actor.Detached (actor : Actor σ Msg tradeInterface) : Prop :=
  match actor.task with
  | .running program => program.Avoids (usage.Reliable False)
      (fun c => ∃ request, c = .purse request) actor.history actor.store
  | .idle | .ended | .dead => True

/-- What an actor saw in a step, if it saw anything, was fair. -/
def Actor.Heeded (purse : Purse) (before after : Actor σ Msg tradeInterface) : Prop :=
  ∀ entry, after.history = entry :: before.history → usage.Fair purse entry

variable {usage} {purse : Purse} {before after : Actor σ Msg tradeInterface}

theorem heeded_of_eq (hhistory : after.history = before.history) :
    Actor.Heeded usage purse before after := by
  intro entry hentry
  rw [hhistory] at hentry
  exact (List.cons_ne_self _ _ hentry.symm).elim

theorem heeded_of_eq_cons {entry : Entry σ Msg tradeInterface}
    (hhistory : after.history = entry :: before.history) (hfair : usage.Fair purse entry) :
    Actor.Heeded usage purse before after := by
  intro seen hseen
  rw [hhistory] at hseen
  obtain ⟨rfl, -⟩ := List.cons.inj hseen
  exact hfair

end Fair

namespace Agent

def Detached : Agent → Prop
  | .maker actor => Actor.Detached FatCrabMakerActor.usage actor
  | .taker actor => Actor.Detached FatCrabTakerActor.usage actor
  | _ => True

def Heeded (purse : Purse) : Agent → Agent → Prop
  | .maker before, .maker after => Actor.Heeded FatCrabMakerActor.usage purse before after
  | .taker before, .taker after => Actor.Heeded FatCrabTakerActor.usage purse before after
  | _, _ => True

end Agent

namespace Closing

/-- A step in which makers and takers see only what is fair. The purse is not stopped while a
handler that runs has yet to ask it. -/
structure Fair (closing next : Closing) : Prop where
  heeded : ∀ slot, (closing.trader.agents slot).Heeded closing.trader.purse
    (next.trader.agents slot)
  detached : closing.phase = .stopPurse → next.phase ≠ .stopPurse →
    ∀ slot, (closing.trader.agents slot).Detached

/-- Any number of fair steps. -/
def FairSteps (trades : Role → List ℕ) (manager : Except JoinError Unit) :
    Closing → Closing → Prop :=
  Relation.ReflTransGen fun closing next =>
    Step trades manager closing next ∧ closing.Fair next

theorem FairSteps.steps {trades : Role → List ℕ} {manager : Except JoinError Unit}
    {closing next : Closing} (hsteps : FairSteps trades manager closing next) :
    Steps trades manager closing next :=
  hsteps.lift id fun _ _ hstep => hstep.1

end Closing

/-! ## Makers and takers in a fair step -/

section Served

variable {σ Msg : Type} {usage : Usage σ Msg} {code : Behaviour σ Msg tradeInterface}
  {before after : Actor σ Msg tradeInterface} {action : Action Msg tradeInterface}
  {purse purse' : Purse}

/-- An actor that endures asks the purse only if it may, and nothing that harms it. -/
theorem harmless_of_step {serving : Prop} {request : PurseRequest}
    {reply : Option request.Reply}
    (hendures : before.Endures (usage.Reliable serving) (SparesPurse serving))
    (hstep : Actor.Step code before (.call (.purse request) reply) after) :
    serving ∧ request.Harmless before.history :=
  hstep.guarantees (TradeCall.purse request).calm (usage.reliable_calm request _) hendures

/-- The purse does its part of the step. -/
def PurseServes (action : Action Msg tradeInterface) : Prop :=
  match action with
  | .call c reply => c.Served reply
  | .receive _ | .silent => True

/-- The purse does its part of a fair step, and is left as it was: running, or gone. -/
theorem served_of_step
    (hendures : before.Endures (usage.Reliable (purse.status = .serving))
      (SparesPurse (purse.status = .serving)))
    (hstep : Actor.Step code before action after) (hreplies : purse.Replies (.of action) purse')
    (hheld : purse.status = .serving → ∀ fundsId reply,
      action = .call (.purse (.freeFunds fundsId)) reply → ¬LetGo fundsId before.history →
        purse.lookup fundsId ≠ none) :
    purse'.status = purse.status ∧ PurseServes action := by
  cases action with
  | receive message | silent => exact ⟨congrArg Purse.status hreplies, trivial⟩
  | call c reply =>
      cases c with
      | n3xb request | notify notifTx notif | respond rsp | terminate =>
          exact ⟨congrArg Purse.status hreplies, trivial⟩
      | purse request =>
          obtain ⟨answers, hserve⟩ := hreplies
          obtain ⟨hserving, hharmless⟩ := harmless_of_step hendures hstep
          have hserved := Purse.served_of_harmless hharmless hserving ?_ hserve
          · exact ⟨hserved.2.trans hserving.symm, hserved.1⟩
          · rintro fundsId rfl
            exact hheld hserving fundsId reply rfl hharmless

theorem endures_of_fair
    (hendurance : Endurance code (usage.Reliable (purse.status = .serving))
      (SparesPurse (purse.status = .serving)))
    (hendures : before.Endures (usage.Reliable (purse.status = .serving))
      (SparesPurse (purse.status = .serving)))
    (hstep : Actor.Step code before action after) (hheeded : Actor.Heeded usage purse before after)
    (hserved : PurseServes action)
    (hgone : purse.status = .serving → ∀ fundsId, LetGo fundsId before.history →
      purse.lookup fundsId = none) :
    after.Endures (usage.Reliable (purse.status = .serving))
      (SparesPurse (purse.status = .serving)) := by
  refine hstep.endures hendurance ?_ hendures
  have hhistory := hstep.history
  cases action with
  | silent => trivial
  | receive message => exact (hheeded _ hhistory).reliable trivial hgone
  | call c reply => exact (hheeded _ hhistory).reliable hserved hgone

/-- Without the purse, an actor that is detached endures as well. -/
theorem endures_of_detached (hendures : before.Endures (usage.Reliable True) (SparesPurse True))
    (hdetached : Actor.Detached usage before) :
    before.Endures (usage.Reliable False) (SparesPurse False) := by
  obtain ⟨store, task, history⟩ := before
  cases task with
  | idle | ended => trivial
  | dead => exact hendures.elim
  | running program =>
      apply Meets.avoid hendures hdetached
      · exact fun entry past hreliable => ⟨hreliable.1, fun _ => trivial, hreliable.2.2⟩
      · intro c reply store past hcall hspares
        cases c with
        | purse request => exact absurd ⟨request, rfl⟩ hcall
        | n3xb request | notify notifTx notif | respond rsp | terminate => trivial

end Served

namespace Agent

variable {agent before after : Agent} {move : Move} {purse purse' : Purse} {serving : Prop}

theorem heeded_self (agent : Agent) : agent.Heeded purse agent := by
  cases agent with
  | vacant | wallet actor => trivial
  | maker actor | taker actor => exact heeded_of_eq rfl

theorem Endures.detach (hendures : agent.Endures True) (hdetached : agent.Detached) :
    agent.Endures False := by
  cases agent with
  | vacant | wallet actor => trivial
  | maker actor | taker actor => exact endures_of_detached hendures hdetached

/-- Whoever is told to shut down endures. -/
theorem Told.endures (htold : Told before after) (hendures : before.Endures serving) :
    after.Endures serving := by
  cases htold with
  | maker hstep =>
      exact hstep.endures (FatCrabMakerActor.endurance serving) ⟨trivial, False.elim, nofun⟩
        hendures
  | taker hstep =>
      exact hstep.endures (FatCrabTakerActor.endurance serving) ⟨trivial, False.elim, nofun⟩
        hendures

theorem Told.heeded (htold : Told before after) : before.Heeded purse after := by
  cases htold with
  | maker hstep | taker hstep =>
      exact heeded_of_eq_cons hstep.history ⟨trivial, False.elim, nofun⟩

theorem Works.not_allocates (hworks : Works before move after) (hendures : before.Endures serving)
    (sats : ℕ) (reply : Option (Except FatCrabError Uuid)) :
    move ≠ .call (.purse (.allocateFunds sats)) reply := by
  intro hmove
  cases hworks with
  | @maker before after action hstep | @taker before after action hstep =>
      cases action with
      | receive message | silent => cases hmove
      | call c answer =>
          cases hmove
          exact (harmless_of_step hendures hstep).2

/-- What a fair step of a maker or taker leaves. -/
theorem Works.fair (hworks : Works before move after) (hheeded : before.Heeded purse after)
    (hendures : before.Endures (purse.status = .serving)) (hreplies : purse.Replies move purse')
    (hgone : purse.status = .serving → ∀ fundsId, before.LetGo fundsId →
      purse.lookup fundsId = none)
    (hheld : purse.status = .serving → ∀ fundsId reply,
      move = .call (.purse (.freeFunds fundsId)) reply → ¬before.LetGo fundsId →
        purse.lookup fundsId ≠ none) :
    purse'.status = purse.status ∧ after.Endures (purse.status = .serving) := by
  cases hworks with
  | maker hstep =>
      obtain ⟨hstatus, hserved⟩ := served_of_step hendures hstep hreplies
        fun hserving fundsId reply haction =>
          hheld hserving fundsId reply (congrArg Move.of haction)
      exact ⟨hstatus, endures_of_fair (FatCrabMakerActor.endurance _) hendures hstep hheeded
        hserved hgone⟩
  | taker hstep =>
      obtain ⟨hstatus, hserved⟩ := served_of_step hendures hstep hreplies
        fun hserving fundsId reply haction =>
          hheld hserving fundsId reply (congrArg Move.of haction)
      exact ⟨hstatus, endures_of_fair (FatCrabTakerActor.endurance _) hendures hstep hheeded
        hserved hgone⟩

end Agent

namespace Closing

variable {trades : Role → List ℕ} {manager : Except JoinError Unit} {closing next : Closing}

/-- Only the agent that took the step has seen anything. -/
theorem heeded_update {purse : Purse} {agents : ℕ → Agent} {slot : ℕ} {after : Agent}
    (hheeded : (agents slot).Heeded purse after) (other : ℕ) :
    (agents other).Heeded purse (Function.update agents slot after other) := by
  rcases eq_or_ne other slot with rfl | hother
  · rwa [Function.update_self]
  · rw [Function.update_of_ne hother]
    exact Agent.heeded_self _

/-- What a fair shutdown keeps. As long as the purse serves the trader is one that could have
come about without the shutdown, so its funds are still those of its makers and takers. -/
structure Intact (trades : Role → List ℕ) (manager : Except JoinError Unit) (closing : Closing) :
    Prop extends Underway trades closing where
  reachable : closing.trader.purse.status = .serving → closing.trader.Reachable
  endures : ∀ slot, (closing.trader.agents slot).Endures (closing.trader.purse.status = .serving)
  stops : ∀ slot, (closing.trader.agents slot).Stops
  serving : closing.phase = .stopPurse → closing.trader.purse.status = .serving
  calm : closing.phase ≠ .panicked ∧ ∀ error, closing.phase ≠ .failed error
  result : ∀ result, closing.phase = .returned result → result = manager

theorem Intact.act (hround : Bitcoin.RoundTrip) {trader : Trader} {phase : Phase}
    (hintact : Intact trades manager ⟨trader, phase⟩) {slot : ℕ} {move : Move} {agent : Agent}
    {purse : Purse} (hworks : (trader.agents slot).Works move agent)
    (hreplies : trader.purse.Replies move purse)
    (hheeded : (trader.agents slot).Heeded trader.purse agent) :
    Intact trades manager ⟨⟨purse, Function.update trader.agents slot agent⟩, phase⟩ := by
  have hendures := hintact.endures slot
  have hafter := hworks.fair hheeded hendures hreplies
    (fun hserving fundsId hgone =>
      have howned := (hintact.reachable hserving).owned hround
      howned.2.lookup_of_letGo howned.1 hgone)
    (fun hserving fundsId reply hmove hkeeps =>
      have howned := (hintact.reachable hserving).owned hround
      howned.1.lookup_of_frees hround hworks.step hmove hkeeps)
  obtain ⟨hstatus, hagent⟩ := hafter
  constructor
  · exact hintact.toUnderway.act hworks hreplies
  · intro hserving
    dsimp only at hserving
    rw [hstatus] at hserving
    exact (hintact.reachable hserving).step
      (.act hworks.step (hreplies.toAnswers (hworks.not_allocates hendures)))
  · intro other
    dsimp only
    rw [hstatus]
    exact Agent.holds_update (fun _ => hagent) (hintact.endures other)
  · exact fun other => Agent.holds_update hworks.step.stops (hintact.stops other)
  · exact fun hphase => hstatus.trans (hintact.serving hphase)
  · exact hintact.calm
  · exact hintact.result

/-- The steps of `shutdown` that only look at the trader. -/
theorem Intact.goto {trader : Trader} {phase phase' : Phase}
    (hintact : Intact trades manager ⟨trader, phase⟩) (hunderway : Underway trades ⟨trader, phase'⟩)
    (hstopped : phase' ≠ .stopPurse) (hcalm : phase' ≠ .panicked ∧ ∀ error, phase' ≠ .failed error)
    (hresult : ∀ result, phase' = .returned result → result = manager) :
    Intact trades manager ⟨trader, phase'⟩ where
  toUnderway := hunderway
  reachable := hintact.reachable
  endures := hintact.endures
  stops := hintact.stops
  serving := fun hphase => absurd hphase hstopped
  calm := hcalm
  result := hresult

theorem Intact.stopPurse {trader : Trader} (hintact : Intact trades manager ⟨trader, .stopPurse⟩)
    {answers : WalletAnswers} {reply : Except FatCrabError Unit} {purse : Purse}
    (hserve : trader.purse.serve answers .shutdown = (some reply, purse))
    (hdetached : ∀ slot, (trader.agents slot).Detached) :
    Intact trades manager ⟨⟨purse, trader.agents⟩, .joinPurse⟩ := by
  have hserving := hintact.serving rfl
  have hunderway := @Underway.step _ trades manager _ _ hintact.toUnderway (.stopPurse hserve)
  have hended : purse.status = .ended := hunderway.ended nofun nofun
  constructor
  · exact hunderway
  · intro hstill
    dsimp only at hstill
    rw [hended] at hstill
    cases hstill
  · intro slot
    have hendures := hintact.endures slot
    dsimp only at hendures ⊢
    rw [eq_true hserving] at hendures
    rw [hended, eq_false (by decide : PurseStatus.ended ≠ .serving)]
    exact hendures.detach (hdetached slot)
  · exact hintact.stops
  · nofun
  · exact ⟨nofun, nofun⟩
  · nofun

theorem Intact.send {trader : Trader} {role : Role} {slot : ℕ} {pending : List ℕ} {agent : Agent}
    (hintact : Intact trades manager ⟨trader, .tell role pending⟩)
    (htold : (trader.agents slot).Told agent) :
    Intact trades manager ⟨⟨trader.purse, Function.update trader.agents slot agent⟩,
      .await role slot (pending.erase slot)⟩ where
  toUnderway := hintact.toUnderway.send htold
  reachable := by
    intro hserving
    rw [hintact.ended nofun nofun] at hserving
    cases hserving
  endures := fun other => Agent.holds_update htold.endures (hintact.endures other)
  stops := fun other => Agent.holds_update htold.step.stops (hintact.stops other)
  serving := nofun
  calm := ⟨nofun, nofun⟩
  result := nofun

theorem Intact.step (hround : Bitcoin.RoundTrip) (hintact : Intact trades manager closing)
    (hstep : Step trades manager closing next) (hfair : closing.Fair next) :
    Intact trades manager next := by
  have hunderway := hintact.toUnderway.step hstep
  cases hstep with
  | @act trader phase slot move agent purse hworks hreplies =>
      have hheeded := hfair.heeded slot
      dsimp only at hheeded
      rw [Function.update_self] at hheeded
      exact hintact.act hround hworks hreplies hheeded
  | stopPurse hserve => exact hintact.stopPurse hserve (hfair.detached rfl nofun)
  | purseGone hserve =>
      rw [Purse.serve_shutdown (hintact.serving rfl)] at hserve
      cases hserve
  | joinPurseFailed hdead =>
      have hended := hintact.ended nofun nofun
      rw [hdead] at hended
      cases hended
  | send hpending htold => exact hintact.send htold
  | @joinFailed trader role slot pending hpending hdead =>
      exact absurd hdead (hintact.endures slot).not_dead
  | joinPurse | sendFailed | answered | join =>
      exact hintact.goto hunderway nofun ⟨nofun, nofun⟩ nofun
  | @allTold trader role | @allJoined trader role =>
      cases role <;> exact hintact.goto hunderway nofun ⟨nofun, nofun⟩ nofun
  | stopN3xb =>
      apply hintact.goto hunderway nofun ⟨nofun, nofun⟩
      rintro _ ⟨⟩
      rfl

theorem Intact.steps (hround : Bitcoin.RoundTrip) (hintact : Intact trades manager closing)
    (hsteps : FairSteps trades manager closing next) : Intact trades manager next := by
  induction hsteps with
  | refl => exact hintact
  | tail _ hstep ih => exact ih.step hround hstep.1 hstep.2

/-! ## The end of a shutdown -/

/-- Answers when nothing can be reached. -/
def unreachable : WalletAnswers
  | .newV4 => ⟨0⟩
  | .terminate => ()
  | .fromEntropy => .error ⟨""⟩
  | .getBalance | .getAddress | .estimateFee _ | .finish _ _ | .sign _ | .broadcast _
  | .getHeight | .getTx _ | .sync => .error ⟨""⟩

/-- Nothing is refused but a cancellation, and everybody is there. -/
def willing : Surroundings := ⟨fun request => (TradeCall.n3xb request).calm, fun _ => true, true⟩

section Run

variable {σ Msg : Type} {usage : Usage σ Msg} {code : Behaviour σ Msg tradeInterface}
  {wrap : Actor σ Msg tradeInterface → Agent}

/-- A fair step of the actor in a slot. -/
theorem fair_step
    (hwrap : ∀ {before action after}, Actor.Step code before action after →
      before.task ≠ .ended → (wrap before).Works (.of action) (wrap after))
    (hheeds : ∀ {purse before after}, Actor.Heeded usage purse before after →
      (wrap before).Heeded purse (wrap after))
    {trader : Trader} {phase : Phase} {slot : ℕ} {before after : Actor σ Msg tradeInterface}
    {action : Action Msg tradeInterface} {purse : Purse} (hagent : trader.agents slot = wrap before)
    (hstep : Actor.Step code before action after) (htask : before.task ≠ .ended)
    (hreplies : trader.purse.Replies (.of action) purse)
    (hheeded : Actor.Heeded usage trader.purse before after) :
    Step trades manager ⟨trader, phase⟩
        ⟨⟨purse, Function.update trader.agents slot (wrap after)⟩, phase⟩ ∧
      Fair ⟨trader, phase⟩ ⟨⟨purse, Function.update trader.agents slot (wrap after)⟩, phase⟩ := by
  constructor
  · refine .act ?_ hreplies
    rw [hagent]
    exact hwrap hstep htask
  · refine ⟨heeded_update ?_, fun hphase hleft => absurd hphase hleft⟩
    rw [hagent]
    exact hheeds hheeded

/-- A handler that runs comes to its end by fair steps, with the purse or without it. -/
theorem fairSteps_exec
    (hwrap : ∀ {before action after}, Actor.Step code before action after →
      before.task ≠ .ended → (wrap before).Works (.of action) (wrap after))
    (hheeds : ∀ {purse before after}, Actor.Heeded usage purse before after →
      (wrap before).Heeded purse (wrap after))
    (program : Handler σ Flow) {trader : Trader} {phase : Phase} {slot : ℕ} {store : σ}
    {history : History σ Msg tradeInterface}
    (hagent : trader.agents slot = wrap ⟨store, .running program, history⟩) :
    FairSteps trades manager ⟨trader, phase⟩
      ⟨⟨(program.exec (served unreachable willing) store ⟨trader.purse, history⟩).environment.purse,
        Function.update trader.agents slot (wrap (settled
          (program.exec (served unreachable willing) store ⟨trader.purse, history⟩)))⟩, phase⟩ := by
  -- after a step, the same slot holds the rest of the program
  have hself : ∀ (purse : Purse) (agents : ℕ → Agent) (next : Actor σ Msg tradeInterface),
      (Trader.mk purse (Function.update agents slot (wrap next))).agents slot = wrap next :=
    fun purse agents next => Function.update_self ..
  induction program generalizing trader store history with
  | pure flow =>
      exact .single (fair_step hwrap hheeds hagent (.finish flow) nofun rfl (heeded_of_eq rfl))
  | panic => exact .single (fair_step hwrap hheeds hagent .die nofun rfl (heeded_of_eq rfl))
  | get rest ih =>
      have hsteps :=
        ih store (hself trader.purse trader.agents ⟨store, .running (rest store), history⟩)
      rw [Function.update_idem] at hsteps
      exact .head (fair_step hwrap hheeds hagent (.get rest) nofun rfl (heeded_of_eq rfl)) hsteps
  | modify f rest ih =>
      have hsteps := ih (hself trader.purse trader.agents ⟨f store, .running rest, history⟩)
      rw [Function.update_idem] at hsteps
      exact .head (fair_step hwrap hheeds hagent (.modify f rest) nofun rfl (heeded_of_eq rfl))
        hsteps
  | call c rest ih =>
      have hsteps := fun (purse : Purse) (reply : c.Reply) => ih reply
        (hself purse trader.agents ⟨store, .running (rest reply), .called c reply store :: history⟩)
      simp only [Function.update_idem] at hsteps
      cases c with
      | purse request =>
          have hcall := @Actor.Step.call σ Msg tradeInterface code store history
            (.purse request) rest (trader.purse.serve unreachable request).1
          refine .head (fair_step hwrap hheeds hagent hcall nofun ⟨unreachable, rfl⟩ ?_)
            (hsteps _ _)
          exact heeded_of_eq_cons rfl (usage.fair_purse trader.purse _ store)
      | n3xb request | notify notifTx notif | respond rsp | terminate =>
          refine .head (fair_step hwrap hheeds hagent (.call _ rest _) nofun rfl ?_) (hsteps _ _)
          exact heeded_of_eq_cons rfl (usage.fair_calm trader.purse store)

end Run

/-- Running what the task of a slot is doing to its end, by fair steps. -/
theorem fairSteps_runTask {σ Msg : Type} {usage : Usage σ Msg}
    {code : Behaviour σ Msg tradeInterface} {wrap : Actor σ Msg tradeInterface → Agent}
    (hwrap : ∀ {before action after}, Actor.Step code before action after →
      before.task ≠ .ended → (wrap before).Works (.of action) (wrap after))
    (hheeds : ∀ {purse before after}, Actor.Heeded usage purse before after →
      (wrap before).Heeded purse (wrap after))
    {trader : Trader} {phase : Phase} {slot : ℕ} {actor : Actor σ Msg tradeInterface}
    (hagent : trader.agents slot = wrap actor) :
    FairSteps trades manager ⟨trader, phase⟩
      ⟨⟨(runTask unreachable willing trader.purse actor).1, Function.update trader.agents slot
        (wrap (runTask unreachable willing trader.purse actor).2)⟩, phase⟩ := by
  obtain ⟨store, task, history⟩ := actor
  cases task with
  | running program => exact fairSteps_exec hwrap hheeds program hagent
  | idle | ended | dead =>
      simp only [runTask, ← hagent, Function.update_eq_self]
      exact .refl

theorem settled_runTask {σ Msg : Type} (answers : WalletAnswers) (around : Surroundings)
    (purse : Purse) (actor : Actor σ Msg tradeInterface) :
    (runTask answers around purse actor).2.task = .idle ∨
      (runTask answers around purse actor).2.task = .ended ∨
        (runTask answers around purse actor).2.task = .dead := by
  obtain ⟨store, task, history⟩ := actor
  cases task with
  | idle => exact .inl rfl
  | ended => exact .inr (.inl rfl)
  | dead => exact .inr (.inr rfl)
  | running program =>
      simp only [runTask, settled]
      cases (program.exec (served answers around) store ⟨purse, history⟩).outcome with
      | panicked => exact .inr (.inr rfl)
      | done flow =>
          cases flow with
          | next => exact .inl rfl
          | stop => exact .inr (.inl rfl)

/-- A maker or taker can go on, by fair steps, until it waits or has ended. -/
theorem Intact.settle (hround : Bitcoin.RoundTrip) {trader : Trader} {phase : Phase}
    (hintact : Intact trades manager ⟨trader, phase⟩) {slot : ℕ}
    (htrade : (trader.agents slot).IsTrade) :
    ∃ (purse : Purse) (agent : Agent), (agent.Waits ∨ agent.Ended) ∧
      FairSteps trades manager ⟨trader, phase⟩
        ⟨⟨purse, Function.update trader.agents slot agent⟩, phase⟩ := by
  have hsettled : ∃ (purse : Purse) (agent : Agent), (agent.Waits ∨ agent.Ended ∨ agent.Dead) ∧
      FairSteps trades manager ⟨trader, phase⟩
        ⟨⟨purse, Function.update trader.agents slot agent⟩, phase⟩ := by
    cases hagent : trader.agents slot with
    | vacant | wallet actor =>
        rw [hagent] at htrade
        exact htrade.elim
    | maker actor =>
        exact ⟨_, .maker _, settled_runTask _ _ _ _, fairSteps_runTask .maker id hagent⟩
    | taker actor =>
        exact ⟨_, .taker _, settled_runTask _ _ _ _, fairSteps_runTask .taker id hagent⟩
  obtain ⟨purse, agent, hagent, hsteps⟩ := hsettled
  refine ⟨purse, agent, ?_, hsteps⟩
  -- nobody panics in fair steps
  have halive := ((hintact.steps hround hsteps).endures slot).not_dead
  dsimp only at halive
  rw [Function.update_self] at halive
  rcases hagent with hwaits | hended | hdead
  · exact .inl hwaits
  · exact .inr hended
  · exact absurd hdead halive

/-- Nobody has panicked, and when `shutdown` returns, the purse and every maker and taker have
ended with their stores written, n3xB's manager was shut down as well, and the result is Ok. -/
structure Orderly (closing : Closing) : Prop where
  alive : ∀ slot, ¬(closing.trader.agents slot).Dead
  calm : closing.phase ≠ .panicked ∧ ∀ error, closing.phase ≠ .failed error
  joined : ∀ result, closing.phase = .returned result → result = .ok () ∧
    closing.trader.purse.status = .ended ∧
      ∀ slot, (closing.trader.agents slot).IsTrade → (closing.trader.agents slot).Flushed

end Closing

end Closing

section Sample

open scoped Sample

/-- The maker accepts, and asks to be paid. -/
def Sample.acceptance : TakerMsg :=
  .notif (.ok (.tradeRsp ⟨"response", acceptTradeRsp Sample.offer SampleAddress.bob.text⟩))

end Sample

end FatCrabTrading
