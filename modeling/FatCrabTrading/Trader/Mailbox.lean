import FatCrabTrading.Effect.Service
import FatCrabTrading.Purse.Replies
import FatCrabTrading.Trader.Crash
import FatCrabTrading.Trader.Payments

/-! # The purse's request channel

`PurseAccess` sends a request into a channel of five places and waits for the answer on a
channel of its own. The purse's task takes the requests in turn. What comes of it is what
comes of a trader whose purse answers each request at once.
-/

namespace FatCrabTrading

open Effect

section Channel

variable [Bitcoin]

/-- Whoever may hold a `PurseAccess`: a task, or the application while it creates a maker or
a taker. -/
inductive Caller where
  | agent (agent : Agent)
  | makerCreation (creation : Handler Unit (Except FatCrabError FatCrabMakerActor))
  | takerCreation (creation : Handler Unit (Except FatCrabError FatCrabTakerActor))

/-- What a client asks of the purse, and how it goes on with the answer. -/
abbrev Asking (Client : Type) := (request : PurseRequest) × (Option request.Reply → Client)

/-- How a client goes on when it is a part of another. -/
def Asking.map {Client Whole : Type} (whole : Client → Whole) (asking : Asking Client) :
    Asking Whole :=
  ⟨asking.1, fun reply => whole (asking.2 reply)⟩

/-- The request that a program waits at. -/
def programAsks {σ α : Type} : Handler σ α → Option (Asking (Handler σ α))
  | .call (.purse request) next => some ⟨request, next⟩
  | _ => none

/-- The request that a task waits at; the answer goes into its history. -/
def actorAsks {σ Msg : Type} (actor : Actor σ Msg tradeInterface) :
    Option (Asking (Actor σ Msg tradeInterface)) :=
  match actor.task with
  | .running (.call (.purse request) next) => some ⟨request, fun reply =>
      ⟨actor.store, .running (next reply),
        .called (.purse request) reply actor.store :: actor.history⟩⟩
  | _ => none

namespace Agent

def asks : Agent → Option (Asking Agent)
  | .vacant => none
  | .maker actor => (actorAsks actor).map (·.map .maker)
  | .taker actor => (actorAsks actor).map (·.map .taker)
  | .wallet actor => (actorAsks actor).map (·.map .wallet)

/-- A step in which the purse has no part. -/
inductive Proceeds : Agent → Agent → Prop where
  | silent {before after : Agent} (hstep : before.Step .other after) : Proceeds before after
  | call {before after : Agent} {c : TradeCall} {reply : c.Reply}
      (hstep : before.Step (.call c reply) after) (hother : ∀ request, c ≠ .purse request) :
      Proceeds before after

end Agent

/-- What a program has come to; nothing comes of one that waits. -/
def outcome {σ α : Type} : Handler σ α → Program.Outcome α
  | .pure value => .done value
  | _ => .panicked

namespace Caller

def asks : Caller → Option (Asking Caller)
  | .agent task => task.asks.map (·.map .agent)
  | .makerCreation creation => (programAsks creation).map (·.map .makerCreation)
  | .takerCreation creation => (programAsks creation).map (·.map .takerCreation)

/-- What a caller does without the purse. A creation that is over starts the task. -/
inductive Work (network : Network) : Caller → Caller → Prop where
  | act {before after : Agent} (hproceeds : before.Proceeds after) :
      Work network (.agent before) (.agent after)
  | newWallet : Work network (.agent .vacant) (.agent (.wallet ⟨(), .idle, []⟩))
  | newMaker (order : FatCrabOrder) (fatcrabRxAddr : Option String) :
      Work network (.agent .vacant)
        (.makerCreation (FatCrabMakerActor.new order fatcrabRxAddr network))
  | newTaker (orderEnvelope : FatCrabOrderEnvelope) (fatcrabRxAddr : Option String) :
      Work network (.agent .vacant)
        (.takerCreation (FatCrabTakerActor.new orderEnvelope fatcrabRxAddr network))
  | makerCreated {outcome} :
      Work network (.makerCreation (.pure outcome)) (.agent (Trader.startMaker (.done outcome)))
  | takerCreated {outcome} :
      Work network (.takerCreation (.pure outcome)) (.agent (Trader.startTaker (.done outcome)))
  | makerPanicked : Work network (.makerCreation .panic) (.agent .vacant)
  | takerPanicked : Work network (.takerCreation .panic) (.agent .vacant)

/-- The agent that a trader has in the place of a caller. A creation shows once it is over. -/
def toAgent : Caller → Agent
  | .agent task => task
  | .makerCreation creation => Trader.startMaker (outcome creation)
  | .takerCreation creation => Trader.startTaker (outcome creation)

/-- A creation that was begun, and is where it began or over. -/
def Begun (network : Network) : Caller → Prop
  | .agent _ => True
  | .makerCreation creation =>
      (∃ order fatcrabRxAddr, creation = FatCrabMakerActor.new order fatcrabRxAddr network) ∨
        (∃ outcome, creation = .pure outcome) ∨ creation = .panic
  | .takerCreation creation =>
      (∃ orderEnvelope fatcrabRxAddr,
        creation = FatCrabTakerActor.new orderEnvelope fatcrabRxAddr network) ∨
        (∃ outcome, creation = .pure outcome) ∨ creation = .panic

end Caller

namespace Mailbox

/-- The size of the channel in `Purse::new`. -/
def capacity : ℕ := 5

/-- The purse and those who have access to it. Its handlers call no one; its task ends on
`Shutdown` or in a panic, one of which is the panic on an answer that nobody waits for. -/
def service (network : Network) : Service Caller Purse where
  Query := PurseRequest
  Reply request := Option request.Reply
  asks := Caller.asks
  work := Caller.Work network
  serve purse request reply after :=
    ∃ answers, purse.Fresh answers ∧ purse.serve answers request = (reply, after)
  isOpen purse := decide (purse.status = .serving)
  gone _ := none
  fail purse := { purse with status := .dead }
  renew purse after := purse.status = .ended ∧ ∃ height, after = purse.reopen height

end Mailbox

/-- A purse, its callers, and the channel between them. -/
abbrev Mailbox := Service.Queued Caller Purse ℕ

/-- A purse whose callers are answered at once. -/
abbrev Desk := Service.Direct Caller Purse ℕ

/-! ## A request is a step of the one who asks -/

section Asks

theorem eq_call_of_asks {σ α : Type} {program : Handler σ α} {asking : Asking (Handler σ α)}
    (hasks : programAsks program = some asking) :
    program = @Program.call σ tradeInterface α (TradeCall.purse asking.1) asking.2 := by
  unfold programAsks at hasks
  split at hasks
  next =>
    cases hasks
    rfl
  next => cases hasks

/-- The answer is a step of the actor, whatever it is. -/
theorem step_of_actorAsks {σ Msg : Type} {actor : Actor σ Msg tradeInterface}
    {asking : Asking (Actor σ Msg tradeInterface)} (hasks : actorAsks actor = some asking)
    (code : Behaviour σ Msg tradeInterface) (reply : Option asking.1.Reply) :
    Actor.Step code actor (@Action.call Msg tradeInterface (TradeCall.purse asking.1) reply)
      (asking.2 reply) := by
  obtain ⟨store, task, history⟩ := actor
  unfold actorAsks at hasks
  split at hasks
  next request next htask =>
    cases hasks
    cases htask
    exact @Actor.Step.call _ _ tradeInterface _ _ _ (TradeCall.purse request) next reply
  next => cases hasks

theorem Agent.step_of_asks {agent : Agent} {asking : Asking Agent}
    (hasks : agent.asks = some asking) (reply : Option asking.1.Reply) :
    agent.Step (.call (.purse asking.1) reply) (asking.2 reply) := by
  cases agent with
  | vacant => cases hasks
  | maker actor =>
      obtain ⟨inner, hinner, rfl⟩ := Option.map_eq_some_iff.mp hasks
      exact .maker (step_of_actorAsks hinner _ reply)
  | taker actor =>
      obtain ⟨inner, hinner, rfl⟩ := Option.map_eq_some_iff.mp hasks
      exact .taker (step_of_actorAsks hinner _ reply)
  | wallet actor =>
      obtain ⟨inner, hinner, rfl⟩ := Option.map_eq_some_iff.mp hasks
      exact .wallet (step_of_actorAsks hinner _ reply)

/-- A program that has come to its end. -/
def Concluded {σ α : Type} (program : Handler σ α) : Prop :=
  (∃ outcome, program = .pure outcome) ∨ program = .panic

/-- A program that is over, or will be with the answer to one request. -/
def AsksOnce {σ α : Type} (program : Handler σ α) : Prop :=
  Concluded program ∨ ∃ request next,
    program = @Program.call σ tradeInterface α (TradeCall.purse request) next ∧
      ∀ reply, Concluded (next reply)

variable {σ α β : Type} {program : Handler σ α} {next : α → Handler σ β}

theorem concluded_pure (outcome : α) : Concluded (.pure outcome : Handler σ α) :=
  .inl ⟨outcome, rfl⟩

theorem concluded_unwrap (value : Option α) :
    Concluded (Program.unwrap value : Handler σ α) := by
  cases value with
  | none => exact .inr rfl
  | some value => exact concluded_pure value

theorem Concluded.bind (hconcluded : Concluded program) (hnext : ∀ value, Concluded (next value)) :
    Concluded (program >>= next) := by
  rcases hconcluded with ⟨value, rfl⟩ | rfl
  · exact hnext value
  · exact .inr rfl

theorem asksOnce_ask (request : PurseRequest) :
    AsksOnce (PurseAccess.ask request : Handler σ _) :=
  .inr ⟨request, Program.unwrap, rfl, concluded_unwrap⟩

theorem AsksOnce.bind (hasks : AsksOnce program) (hnext : ∀ value, Concluded (next value)) :
    AsksOnce (program >>= next) := by
  rcases hasks with hconcluded | ⟨request, rest, rfl, hrest⟩
  · exact .inl (hconcluded.bind hnext)
  · refine .inr ⟨request, fun reply => rest reply >>= next, rfl, ?_⟩
    exact fun reply => (hrest reply).bind hnext

theorem FatCrabMakerBuyActor.asksOnce_new (order : FatCrabOrder) (fatcrabRxAddr : String)
    (network : Network) :
    AsksOnce (FatCrabMakerBuyActor.new order fatcrabRxAddr network : Handler σ _) := by
  refine (asksOnce_ask _).bind fun answer => ?_
  cases answer <;> exact concluded_pure _

theorem FatCrabMakerSellActor.asksOnce_new (order : FatCrabOrder) (network : Network) :
    AsksOnce (FatCrabMakerSellActor.new order network : Handler σ _) := by
  refine (asksOnce_ask _).bind fun answer => ?_
  cases answer with
  | error error => exact .inr rfl
  | ok address => exact concluded_pure _

theorem FatCrabMakerActor.asksOnce_new (order : FatCrabOrder) (fatcrabRxAddr : Option String)
    (network : Network) :
    AsksOnce (FatCrabMakerActor.new order fatcrabRxAddr network : Handler σ _) := by
  unfold FatCrabMakerActor.new
  cases order.orderType with
  | buy =>
      cases fatcrabRxAddr with
      | none => exact .inl (.inr rfl)
      | some address =>
          refine (FatCrabMakerBuyActor.asksOnce_new order address network).bind fun created => ?_
          cases created <;> exact concluded_pure _
  | sell =>
      refine (FatCrabMakerSellActor.asksOnce_new order network).bind fun created => ?_
      exact concluded_pure _

theorem FatCrabTakerBuyActor.asksOnce_new (orderEnvelope : FatCrabOrderEnvelope)
    (network : Network) :
    AsksOnce (FatCrabTakerBuyActor.new orderEnvelope network : Handler σ _) := by
  refine (asksOnce_ask _).bind fun answer => ?_
  cases answer with
  | error error => exact .inr rfl
  | ok address => exact concluded_pure _

theorem FatCrabTakerSellActor.asksOnce_new (orderEnvelope : FatCrabOrderEnvelope)
    (fatcrabRxAddr : String) (network : Network) :
    AsksOnce (FatCrabTakerSellActor.new orderEnvelope fatcrabRxAddr network : Handler σ _) := by
  refine (asksOnce_ask _).bind fun answer => ?_
  cases answer <;> exact concluded_pure _

theorem FatCrabTakerActor.asksOnce_new (orderEnvelope : FatCrabOrderEnvelope)
    (fatcrabRxAddr : Option String) (network : Network) :
    AsksOnce (FatCrabTakerActor.new orderEnvelope fatcrabRxAddr network : Handler σ _) := by
  unfold FatCrabTakerActor.new
  cases orderEnvelope.order.orderType with
  | buy =>
      refine (FatCrabTakerBuyActor.asksOnce_new orderEnvelope network).bind fun created => ?_
      exact concluded_pure _
  | sell =>
      cases fatcrabRxAddr with
      | none => exact .inl (.inr rfl)
      | some address =>
          refine (FatCrabTakerSellActor.asksOnce_new orderEnvelope address network).bind
            fun created => ?_
          cases created <;> exact concluded_pure _

/-- Nothing comes of a creation before the purse has answered. -/
theorem FatCrabMakerActor.outcome_new (order : FatCrabOrder) (fatcrabRxAddr : Option String)
    (network : Network) :
    outcome (FatCrabMakerActor.new order fatcrabRxAddr network : Handler σ _) = .panicked := by
  unfold FatCrabMakerActor.new
  cases order.orderType with
  | buy => cases fatcrabRxAddr <;> rfl
  | sell => rfl

theorem FatCrabTakerActor.outcome_new (orderEnvelope : FatCrabOrderEnvelope)
    (fatcrabRxAddr : Option String) (network : Network) :
    outcome (FatCrabTakerActor.new orderEnvelope fatcrabRxAddr network : Handler σ _) =
      .panicked := by
  unfold FatCrabTakerActor.new
  cases orderEnvelope.order.orderType with
  | buy => rfl
  | sell => cases fatcrabRxAddr <;> rfl

/-- With the answer to its request, a program that asks once is over. -/
theorem AsksOnce.concluded (hasks : AsksOnce program) {asking : Asking (Handler σ α)}
    (hasking : programAsks program = some asking) (reply : Option asking.1.Reply) :
    Concluded (asking.2 reply) := by
  rcases hasks with (⟨value, rfl⟩ | rfl) | ⟨request, next, rfl, hconcluded⟩
  · cases hasking
  · cases hasking
  · cases hasking
    exact hconcluded reply

/-- The run of a program that asks once, against a purse that serves it. -/
theorem exec_of_asks {Msg : Type} {asking : Asking (Handler σ α)}
    (hasking : programAsks program = some asking) {answers : WalletAnswers} {purse after : Purse}
    {reply : Option asking.1.Reply} (hserve : purse.serve answers asking.1 = (reply, after))
    (hconcluded : Concluded (asking.2 reply)) (around : Surroundings) (store : σ)
    (history : History σ Msg tradeInterface) :
    let result := program.exec (served answers around) store ⟨purse, history⟩
    result.environment.purse = after ∧ result.outcome = outcome (asking.2 reply) := by
  rw [eq_call_of_asks hasking]
  simp only [Program.exec_call, served_purse_fst, served_purse_snd, hserve]
  rcases hconcluded with ⟨value, hvalue⟩ | hpanic
  · rw [hvalue]
    exact ⟨rfl, rfl⟩
  · rw [hpanic]
    exact ⟨rfl, rfl⟩

end Asks

/-! ## Ids to draw -/

namespace Purse

omit [Bitcoin] in
/-- Some number below a bound is not in a list that is shorter. -/
theorem exists_lt_not_mem {bound : ℕ} {numbers : List ℕ} (hlength : numbers.length < bound) :
    ∃ number < bound, number ∉ numbers := by
  by_contra hnone
  push Not at hnone
  have hsubset : List.range bound ⊆ numbers := fun number hnumber =>
    hnone number (List.mem_range.mp hnumber)
  have hle := (List.subperm_of_subset List.nodup_range hsubset).length_le
  rw [List.length_range] at hle
  omega

/-- As long as not every id was granted, `Uuid::new_v4` can draw a new one. -/
theorem exists_fresh {purse : Purse} (hids : purse.granted.length < 2 ^ 128) :
    ∃ fundsId, ∀ answers : WalletAnswers, answers .newV4 = fundsId → purse.Fresh answers := by
  have hlength : (purse.granted.map fun grant => grant.1.bits.toNat).length < 2 ^ 128 := by
    rw [List.length_map]
    exact hids
  obtain ⟨number, hbound, hnew⟩ := exists_lt_not_mem hlength
  refine ⟨⟨.ofNat 128 number⟩, fun answers hdraws sats hgranted => hnew ?_⟩
  rw [hdraws] at hgranted
  exact List.mem_map.mpr ⟨_, hgranted, Nat.mod_eq_of_lt hbound⟩

/-- The wallet reports this balance and the chain a height, no payment can be made, and
`Uuid::new_v4` draws this id. -/
def reporting (balance : WalletBalance) (fundsId : Uuid) : WalletAnswers
  | .newV4 => fundsId
  | .terminate => ()
  | .getBalance => .ok balance
  | .getHeight => .ok 0
  | .sync => .ok ()
  | .fromEntropy | .getAddress => .error ⟨""⟩
  | .estimateFee _ | .finish _ _ | .sign _ | .broadcast _ | .getTx _ => .error ⟨""⟩

/-- A purse that serves can be answered so that it replies. -/
theorem exists_reply {purse : Purse} (hcountable : purse.Countable)
    (hserving : purse.status = .serving) (hids : purse.granted.length < 2 ^ 128)
    (request : PurseRequest) :
    ∃ answers, purse.Fresh answers ∧ ∃ reply, (purse.serve answers request).1 = some reply := by
  obtain ⟨fundsId, hfresh⟩ := exists_fresh hids
  let balance : WalletBalance := ⟨0, 0, 0, purse.actor.data.allocated % 2 ^ 64⟩
  have hcovers : balance.confirmed + balance.trustedPending =
      purse.actor.data.allocated % 2 ^ 64 := rfl
  obtain ⟨allocatable, hallocatable⟩ := hcountable.allocatable hcovers
  exact ⟨reporting balance fundsId, hfresh _ rfl,
    answered_of_reports hserving rfl hallocatable rfl request⟩

end Purse

/-! ## Each step is one of the trader -/

namespace Desk

/-- The trader that has this purse and these callers. -/
structure Stands (network : Network) (desk : Desk) (trader : Trader) : Prop where
  purse : trader.purse = desk.server
  agents : ∀ slot, trader.agents slot = (desk.clients slot).toAgent
  begun : ∀ slot, (desk.clients slot).Begun network
  network : desk.server.actor.data.network = network

variable {network : Network} {desk next later : Desk} {trader : Trader}

/-- No step of a caller or of the purse forgets a grant or changes the network. -/
theorem grows_of_step (hstep : Service.Direct.Step (Mailbox.service network) desk next) :
    desk.server.Grows next.server ∧
      next.server.actor.data.network = desk.server.actor.data.network := by
  cases hstep with
  | work hwork => exact ⟨.refl _, rfl⟩
  | @ask slot request resume reply server hasks hserve =>
      obtain ⟨answers, hfresh, hserve⟩ := hserve
      have hgrows := Purse.grows_serve answers request desk.server
      have hnetwork := @Purse.network_serve _ answers desk.server request
      rw [hserve] at hgrows hnetwork
      exact ⟨hgrows, hnetwork⟩
  | refuse hasks hclosed => exact ⟨.refl _, rfl⟩
  | fail => exact ⟨⟨List.suffix_rfl, List.suffix_rfl, List.suffix_rfl⟩, rfl⟩
  | renew hclosed hrenew =>
      obtain ⟨hended, height, rfl⟩ := hrenew
      exact ⟨⟨List.suffix_rfl, List.suffix_rfl, List.suffix_rfl⟩, rfl⟩

/-- A caller that changes is shown by its agent, if the new agent is the one it stands for. -/
theorem Stands.update (hstands : Stands network desk trader) (slot : ℕ) {caller : Caller}
    (hbegun : caller.Begun network) {purse : Purse}
    (hnetwork : purse.actor.data.network = network) :
    Stands network ⟨purse, Function.update desk.clients slot caller⟩
      ⟨purse, Function.update trader.agents slot caller.toAgent⟩ := by
  refine ⟨rfl, fun other => ?_, fun other => ?_, hnetwork⟩
  · dsimp only
    rcases eq_or_ne other slot with rfl | hne
    · rw [Function.update_self, Function.update_self]
    · rw [Function.update_of_ne hne, Function.update_of_ne hne]
      exact hstands.agents other
  · dsimp only
    rcases eq_or_ne other slot with rfl | hne
    · rw [Function.update_self]
      exact hbegun
    · rw [Function.update_of_ne hne]
      exact hstands.begun other

/-- A caller that changes without a step of its agent. -/
theorem Stands.same (hstands : Stands network desk trader) {slot : ℕ} {caller : Caller}
    (hbegun : caller.Begun network) (hsame : caller.toAgent = (desk.clients slot).toAgent) :
    Stands network { desk with clients := Function.update desk.clients slot caller } trader := by
  have hupdated := hstands.update slot hbegun hstands.network
  rw [hsame, ← hstands.agents slot, Function.update_eq_self] at hupdated
  have htrader : trader = ⟨desk.server, trader.agents⟩ := by rw [← hstands.purse]
  rw [htrader]
  exact hupdated

/-- An answer of the purse to a caller is a step of the trader: of its agent, or the creation
of one. -/
theorem Stands.answered (hstands : Stands network desk trader) {slot : ℕ}
    {asking : Asking Caller} (hasks : (desk.clients slot).asks = some asking)
    {answers : WalletAnswers} (hfresh : desk.server.Fresh answers)
    {reply : Option asking.1.Reply} {after : Purse}
    (hserve : desk.server.serve answers asking.1 = (reply, after)) :
    ∃ next, Trader.Step trader next ∧
      Stands network ⟨after, Function.update desk.clients slot (asking.2 reply)⟩ next := by
  have hnetwork : after.actor.data.network = network := by
    have hsame := @Purse.network_serve _ answers desk.server asking.1
    rw [hserve] at hsame
    exact hsame.trans hstands.network
  have hagent := hstands.agents slot
  have hbegun := hstands.begun slot
  have hpurse : trader.purse.actor.data.network = network := by
    rw [hstands.purse]
    exact hstands.network
  rw [← hstands.purse] at hfresh hserve
  -- A creation calls nobody but the purse.
  have around : Surroundings := ⟨fun _ => .ok (), fun _ => true, true⟩
  cases hcaller : desk.clients slot with
  | agent task =>
      rw [hcaller] at hasks hagent
      obtain ⟨inner, hinner, rfl⟩ := Option.map_eq_some_iff.mp hasks
      have hstep := Agent.step_of_asks hinner reply
      rw [← show trader.agents slot = task from hagent] at hstep
      exact ⟨_, .act hstep ⟨answers, fun _ _ => hfresh, hserve⟩,
        @update _ network desk trader hstands slot (.agent (inner.2 reply)) trivial _ hnetwork⟩
  | makerCreation creation =>
      rw [hcaller] at hasks hagent hbegun
      obtain ⟨inner, hinner, rfl⟩ := Option.map_eq_some_iff.mp hasks
      rcases hbegun with ⟨order, fatcrabRxAddr, rfl⟩ | ⟨outcome, rfl⟩ | rfl
      · have hconcluded :=
          (FatCrabMakerActor.asksOnce_new order fatcrabRxAddr network).concluded hinner reply
        obtain ⟨hafter, houtcome⟩ := @exec_of_asks _ _ _ _ MakerMsg _ hinner _ _ _ _ hserve
          hconcluded around () []
        rw [← hpurse] at hafter houtcome
        rw [eq_call_of_asks hinner] at hagent
        have hstep := @Trader.Step.newMaker _ trader slot order fatcrabRxAddr answers around _
          hagent hfresh rfl
        unfold Trader.createMaker at hstep
        rw [hafter, houtcome] at hstep
        exact ⟨_, hstep, @update _ network desk trader hstands slot
          (.makerCreation (inner.2 reply)) (.inr hconcluded) _ hnetwork⟩
      · cases hinner
      · cases hinner
  | takerCreation creation =>
      rw [hcaller] at hasks hagent hbegun
      obtain ⟨inner, hinner, rfl⟩ := Option.map_eq_some_iff.mp hasks
      rcases hbegun with ⟨orderEnvelope, fatcrabRxAddr, rfl⟩ | ⟨outcome, rfl⟩ | rfl
      · have hconcluded :=
          (FatCrabTakerActor.asksOnce_new orderEnvelope fatcrabRxAddr network).concluded hinner
            reply
        obtain ⟨hafter, houtcome⟩ := @exec_of_asks _ _ _ _ TakerMsg _ hinner _ _ _ _ hserve
          hconcluded around () []
        rw [← hpurse] at hafter houtcome
        rw [eq_call_of_asks hinner] at hagent
        have hstep := @Trader.Step.newTaker _ trader slot orderEnvelope fatcrabRxAddr answers
          around _ hagent hfresh rfl
        unfold Trader.createTaker at hstep
        rw [hafter, houtcome] at hstep
        exact ⟨_, hstep, @update _ network desk trader hstands slot
          (.takerCreation (inner.2 reply)) (.inr hconcluded) _ hnetwork⟩
      · cases hinner
      · cases hinner

/-- Each step of a purse that answers at once, or of its callers, is one of the trader, or is
not seen. -/
theorem Stands.step (hstands : Stands network desk trader)
    (hids : next.server.granted.length < 2 ^ 128)
    (hstep : Service.Direct.Step (Mailbox.service network) desk next) :
    ∃ after, Trader.Steps trader after ∧ Stands network next after := by
  cases hstep with
  | @work slot caller hwork =>
      have hagent := hstands.agents slot
      generalize hcaller : desk.clients slot = before at hwork hagent
      cases hwork with
      | @act before after hproceeds =>
          have hafter := @update _ network desk trader hstands slot (.agent after) trivial _
            hstands.network
          rw [← show trader.agents slot = before from hagent] at hproceeds
          cases hproceeds with
          | silent hstep => exact ⟨_, .single (.act hstep hstands.purse.symm), hafter⟩
          | @call c reply hstep hother =>
              have hanswers : trader.purse.Answers (.call c reply) desk.server := by
                cases c with
                | purse request => exact absurd rfl (hother request)
                | _ => exact hstands.purse.symm
              exact ⟨_, .single (.act hstep hanswers), hafter⟩
      | newWallet =>
          have hstep : Trader.Step trader _ := .newWallet hagent
          rw [hstands.purse] at hstep
          exact ⟨_, .single hstep, @update _ network desk trader hstands slot
            (.agent (.wallet ⟨(), .idle, []⟩)) trivial _ hstands.network⟩
      | newMaker order fatcrabRxAddr =>
          refine ⟨trader, .refl, hstands.same (.inl ⟨order, fatcrabRxAddr, rfl⟩) ?_⟩
          rw [hcaller]
          exact congrArg Trader.startMaker (FatCrabMakerActor.outcome_new ..)
      | newTaker orderEnvelope fatcrabRxAddr =>
          refine ⟨trader, .refl, hstands.same (.inl ⟨orderEnvelope, fatcrabRxAddr, rfl⟩) ?_⟩
          rw [hcaller]
          exact congrArg Trader.startTaker (FatCrabTakerActor.outcome_new ..)
      | makerCreated => exact ⟨trader, .refl, hstands.same trivial (by rw [hcaller]; rfl)⟩
      | takerCreated => exact ⟨trader, .refl, hstands.same trivial (by rw [hcaller]; rfl)⟩
      | makerPanicked => exact ⟨trader, .refl, hstands.same trivial (by rw [hcaller]; rfl)⟩
      | takerPanicked => exact ⟨trader, .refl, hstands.same trivial (by rw [hcaller]; rfl)⟩
  | @ask slot request resume reply server hasks hserve =>
      obtain ⟨answers, hfresh, hserve⟩ := hserve
      obtain ⟨after, hstep, hafter⟩ := hstands.answered hasks hfresh hserve
      exact ⟨after, .single hstep, hafter⟩
  | @refuse slot request resume hasks hclosed =>
      obtain ⟨fundsId, hfresh⟩ := Purse.exists_fresh hids
      have hserve : desk.server.serve (Purse.reporting ⟨0, 0, 0, 0⟩ fundsId) request =
          (none, desk.server) :=
        Purse.serve_of_not_serving (of_decide_eq_false hclosed) request
      obtain ⟨after, hstep, hafter⟩ := hstands.answered hasks (hfresh _ rfl) hserve
      exact ⟨after, .single hstep, hafter⟩
  | fail =>
      have habandon : Trader.Step trader _ := .abandon
      rw [hstands.purse] at habandon
      exact ⟨_, .single habandon, rfl, hstands.agents, hstands.begun, hstands.network⟩
  | renew hclosed hrenew =>
      obtain ⟨hended, height, rfl⟩ := hrenew
      rw [← hstands.purse] at hended
      have hreopen : Trader.Step trader _ := .reopen height hended
      rw [hstands.purse] at hreopen
      exact ⟨_, .single hreopen, rfl, hstands.agents, hstands.begun, hstands.network⟩

/-- So is a whole run, as long as there are ids to draw. -/
theorem Stands.steps (hstands : Stands network desk trader)
    (hids : later.server.granted.length < 2 ^ 128)
    (hsteps : Service.Direct.Steps (Mailbox.service network) desk later) :
    ∃ after, Trader.Steps trader after ∧ Stands network later after := by
  induction hsteps with
  | refl => exact ⟨trader, .refl, hstands⟩
  | @tail middle next hbefore hstep ih =>
      have hless := (grows_of_step hstep).1.granted.length_le
      obtain ⟨between, hbetween, hmiddle⟩ := ih (hless.trans_lt hids)
      obtain ⟨after, hafter, hnext⟩ := hmiddle.step hids hstep
      exact ⟨after, hbetween.trans hafter, hnext⟩

end Desk

/-! ## The channel does not show -/

namespace Mailbox

/-- A trader on an empty directory, before anybody calls its purse. -/
def new (overflowChecks : Bool) (network : Network) (height : ℕ) : Mailbox :=
  .begin ⟨(Trader.new overflowChecks network height).purse, fun _ => .agent .vacant⟩

/-- What a trader with a request channel can come to. -/
def Reachable (network : Network) (mailbox : Mailbox) : Prop :=
  ∃ overflowChecks height,
    Service.Queued.Steps (service network) capacity (new overflowChecks network height) mailbox

/-- Where a caller stands, with its answer if it has one. One that gave up stands nowhere. -/
def standing (mailbox : Mailbox) (slot : ℕ) : Option Caller :=
  match mailbox.slips slot with
  | .none | .waiting => some (mailbox.clients slot)
  | .answered next => some next
  | .left => none

theorem stands_begin (overflowChecks : Bool) (network : Network) (height : ℕ) :
    Desk.Stands network
      ⟨(Trader.new overflowChecks network height).purse, fun _ => .agent .vacant⟩
      (Trader.new overflowChecks network height) :=
  ⟨rfl, fun _ => rfl, fun _ => trivial, rfl⟩

theorem client_of_standing {mailbox : Mailbox} {desk : Desk} {slot : ℕ} {caller : Caller}
    (hshows : mailbox.ShowsAt desk slot) (hstanding : mailbox.standing slot = some caller) :
    desk.clients slot = caller := by
  unfold standing at hstanding
  unfold Service.Queued.ShowsAt at hshows
  cases hslip : mailbox.slips slot with
  | left =>
      rw [hslip] at hstanding
      cases hstanding
  | _ =>
      rw [hslip] at hstanding hshows
      cases hstanding
      exact hshows

/-- The trader behind a mailbox. -/
theorem Reachable.trader {network : Network} {mailbox : Mailbox}
    (hreachable : mailbox.Reachable network)
    (hids : mailbox.server.granted.length < 2 ^ 128) :
    ∃ trader : Trader, trader.Reachable ∧ trader.purse = mailbox.server ∧
      ∀ slot caller, mailbox.standing slot = some caller →
        trader.agents slot = caller.toAgent := by
  obtain ⟨overflowChecks, height, hsteps⟩ := hreachable
  obtain ⟨desk, hdesk, hshows⟩ := Service.Queued.Steps.shown hsteps
    (Service.Queued.orderly_begin _) (Service.Queued.shows_begin _)
  rw [← hshows.server] at hids
  obtain ⟨trader, htrader, hstands⟩ :=
    (stands_begin overflowChecks network height).steps hids hdesk
  refine ⟨trader, ⟨overflowChecks, network, height, htrader⟩,
    hstands.purse.trans hshows.server, fun slot caller hstanding => ?_⟩
  rw [hstands.agents slot, client_of_standing (hshows.client slot) hstanding]

/-- Whatever waits in the channel, whoever gives up, and whenever the purse ends or dies with
requests in it: there is a trader that answers each request at once, with the same purse, in
which each caller has come as far as it has with its answer. -/
theorem answers_directly {network : Network} {mailbox : Mailbox}
    (hreachable : mailbox.Reachable network) (hids : mailbox.server.granted.length < 2 ^ 128) :
    ∃ trader : Trader, trader.Reachable ∧ trader.purse = mailbox.server ∧
      ∀ slot caller, mailbox.standing slot = some caller →
        trader.agents slot = caller.toAgent :=
  hreachable.trader hids

/-- A trade that pays BTC causes at most one broadcast, however its requests wait among those
of others. -/
theorem queued_pays_once (hround : Bitcoin.RoundTrip) {network : Network} {mailbox : Mailbox}
    (hreachable : mailbox.Reachable network) (hids : mailbox.server.granted.length < 2 ^ 128)
    {slot : ℕ} {caller : Caller} (hstanding : mailbox.standing slot = some caller)
    {payer : Payer} (hpayer : caller.toAgent.payer = some payer) :
    PaysOnce mailbox.server payer := by
  obtain ⟨trader, htrader, hpurse, hagents⟩ := hreachable.trader hids
  rw [← hagents slot caller hstanding] at hpayer
  rw [← hpurse]
  exact (htrader.consistent hround).paysOnce hpayer

/-! ## Every caller is answered -/

/-- There are ids for this many more allocations, and the sums that are checked fit. -/
def Ready (number : ℕ) (purse : Purse) : Prop :=
  purse.granted.length + number ≤ 2 ^ 128 ∧ purse.Countable

theorem length_granted_serve (answers : WalletAnswers) (request : PurseRequest) (purse : Purse) :
    (purse.serve answers request).2.granted.length ≤ purse.granted.length + 1 := by
  cases request with
  | allocateFunds sats =>
      rcases @Purse.serve_allocateFunds_cases _ answers purse sats with
        ⟨-, hgranted⟩ | ⟨-, hgranted⟩
      · rw [hgranted, List.length_cons]
      · rw [hgranted]
        exact Nat.le_succ _
  | _ =>
      rw [Purse.granted_serve]
      · exact Nat.le_succ _
      · rintro _ ⟨⟩

/-- Whatever the purse is asked, it can reply, and only `Shutdown` ends it then. -/
theorem provides (network : Network) : Service.Queued.Provides (service network) Ready
    (fun _ reply => ∃ answer, reply = some answer) (fun request => request = .shutdown) where
  serve := by
    rintro number purse request hopen ⟨hids, hcountable⟩
    obtain ⟨answers, hfresh, answer, hanswer⟩ :=
      Purse.exists_reply hcountable (of_decide_eq_true hopen) (by omega) request
    have hserve : purse.serve answers request =
        (some answer, (purse.serve answers request).2) := by rw [← hanswer]
    refine ⟨some answer, _, ⟨answers, hfresh, hserve⟩, ⟨answer, rfl⟩, fun hrequest => ⟨?_, ?_, ?_⟩⟩
    · exact decide_eq_true (Purse.serving_of_serve hserve hrequest)
    · have hlength := length_granted_serve answers request purse
      omega
    · exact hcountable.serve answers request

theorem Reachable.orderly {network : Network} {mailbox : Mailbox}
    (hreachable : mailbox.Reachable network) :
    Service.Queued.Orderly (service network) capacity mailbox := by
  obtain ⟨overflowChecks, height, hsteps⟩ := hreachable
  exact Service.Queued.Steps.orderly hsteps (Service.Queued.orderly_begin _)

theorem Reachable.countable {network : Network} {mailbox : Mailbox}
    (hreachable : mailbox.Reachable network) : mailbox.server.Countable := by
  obtain ⟨overflowChecks, height, hsteps⟩ := hreachable
  apply Service.Queued.Steps.server_holds hsteps
  · rintro purse request reply after ⟨answers, hfresh, hserve⟩ hcountable
    have hafter := hcountable.serve answers request
    rwa [hserve] at hafter
  · exact fun purse hcountable => hcountable
  · rintro purse after ⟨hended, height, rfl⟩ hcountable
    exact hcountable
  · exact fun _ => Nat.two_pow_pos 64

/-- Whoever has a request for the purse that is not replied to yet can come to go on with a
reply. Only the purse's task and the caller itself move for it, if those before it in the
channel have not given up and do not ask the purse to shut down. -/
theorem exists_answer {network : Network} {mailbox : Mailbox} {slot : ℕ} {asking : Asking Caller}
    (hreachable : mailbox.Reachable network)
    (hids : mailbox.server.granted.length + capacity < 2 ^ 128)
    (hserving : mailbox.server.status = .serving)
    (hasks : (mailbox.clients slot).asks = some asking)
    (hslip : mailbox.slips slot = .none ∨ mailbox.slips slot = .waiting)
    (hbefore : ∀ other ∈ mailbox.line.takeWhile (· ≠ slot), mailbox.slips other ≠ .left ∧
      ∀ asked, (mailbox.clients other).asks = some asked → asked.1 ≠ .shutdown) :
    ∃ later answer, Service.Queued.Advances (service network) capacity slot mailbox later ∧
      later.slips slot = .none ∧
        later.clients = Function.update mailbox.clients slot (asking.2 (some answer)) := by
  have horderly := hreachable.orderly
  have hready : Ready (mailbox.line.length + 1) mailbox.server := by
    have hroom := horderly.room
    exact ⟨by omega, hreachable.countable⟩
  have hmild : ∀ other ∈ mailbox.line.takeWhile (· ≠ slot),
      Service.Queued.Mild (service network) (fun request => request = .shutdown) mailbox other := by
    intro other hother
    obtain ⟨hstays, hharmless⟩ := hbefore other hother
    have hmem := List.takeWhile_subset _ hother
    exact ⟨(horderly.asking other hmem).1.resolve_right hstays,
      fun request resume hasked => hharmless ⟨request, resume⟩ hasked⟩
  obtain ⟨later, reply, hadvances, ⟨answer, rfl⟩, hgoes⟩ :=
    horderly.replies (provides network) (by decide) (decide_eq_true hserving) hready hasks hslip
      hmild
  exact ⟨later, answer, hadvances, hgoes⟩

/-- Whoever has a request for the purse can come to go on with a reply, as `exists_answer`
says. Whatever happens while it stands in the channel, at most four requests of others are
taken before its own, and when its own is taken it has a reply, unless it gave up or the purse
is gone. -/
theorem answered_of_asks {network : Network} {mailbox : Mailbox} {slot : ℕ}
    {asking : Asking Caller} (hreachable : mailbox.Reachable network)
    (hids : mailbox.server.granted.length + capacity < 2 ^ 128)
    (hserving : mailbox.server.status = .serving)
    (hasks : (mailbox.clients slot).asks = some asking)
    (hslip : mailbox.slips slot = .none ∨ mailbox.slips slot = .waiting)
    (hbefore : ∀ other ∈ mailbox.line.takeWhile (· ≠ slot), mailbox.slips other ≠ .left ∧
      ∀ asked, (mailbox.clients other).asks = some asked → asked.1 ≠ .shutdown) :
    (∃ later answer, Service.Queued.Advances (service network) capacity slot mailbox later ∧
      later.slips slot = .none ∧
        later.clients = Function.update mailbox.clients slot (asking.2 (some answer))) ∧
    ∀ turns later, Service.Queued.Waits (service network) capacity slot mailbox turns later →
      turns < capacity ∧
      ∀ next, Service.Queued.Turn (service network) later next → later.slips slot = .waiting →
        slot ∉ next.line → next.server.status = .serving →
          ∃ answer, next.slips slot = .answered (asking.2 (some answer)) := by
  have horderly := hreachable.orderly
  refine ⟨exists_answer hreachable hids hserving hasks hslip hbefore, fun turns later hwaits =>
    ⟨hwaits.turns_lt horderly, fun next hturn hwaiting hgone hserves => ?_⟩⟩
  obtain ⟨-, hmem, -⟩ := hwaits.place horderly
  obtain ⟨request, resume, reply, hasked, ⟨answers, -, hserve⟩, hanswered⟩ :=
    hturn.taken hwaiting hmem hgone (decide_eq_true hserves)
  rw [hwaits.client horderly] at hasked
  cases hasks.symm.trans hasked
  obtain ⟨answer, rfl⟩ := Purse.replied_of_serving hserve hserves
  exact ⟨answer, hanswered⟩

end Mailbox

/-! ## Playing a channel -/

/-- What a task does next if it has no request for the purse, with these answers. -/
def runsOn {σ Msg : Type} (answers : (c : TradeCall) → c.Reply)
    (actor : Actor σ Msg tradeInterface) : Actor σ Msg tradeInterface :=
  match actor.task with
  | .running (.pure flow) => ⟨actor.store, flow.task, actor.history⟩
  | .running .panic => ⟨actor.store, .dead, actor.history⟩
  | .running (.get next) => ⟨actor.store, .running (next actor.store), actor.history⟩
  | .running (.modify f next) => ⟨f actor.store, .running next, actor.history⟩
  | .running (.call (.purse _) _) | .idle | .ended | .dead => actor
  | .running (.call c next) => ⟨actor.store, .running (next (answers c)),
      .called c (answers c) actor.store :: actor.history⟩

theorem proceeds_runsOn {σ Msg : Type} {code : Behaviour σ Msg tradeInterface}
    {wrap : Actor σ Msg tradeInterface → Agent}
    (hwrap : ∀ {before action after}, Actor.Step code before action after →
      (wrap before).Step (.of action) (wrap after))
    (answers : (c : TradeCall) → c.Reply) (actor : Actor σ Msg tradeInterface) :
    runsOn answers actor = actor ∨ (wrap actor).Proceeds (wrap (runsOn answers actor)) := by
  obtain ⟨store, task, history⟩ := actor
  cases task with
  | idle | ended | dead => exact .inl rfl
  | running program =>
      cases program with
      | pure flow => exact .inr (.silent (hwrap (.finish flow)))
      | panic => exact .inr (.silent (hwrap .die))
      | get next => exact .inr (.silent (hwrap (.get next)))
      | modify f next => exact .inr (.silent (hwrap (.modify f next)))
      | call c next =>
          cases c with
          | purse request => exact .inl rfl
          | n3xb request | notify notifTx notif | respond rsp | terminate =>
              exact .inr (.call (hwrap (.call _ next _)) (by simp))

namespace Mailbox

/-- What may happen to a caller, or to the purse. -/
inductive Move where
  | newWallet (slot : ℕ)
  | newTaker (slot : ℕ) (orderEnvelope : FatCrabOrderEnvelope) (fatcrabRxAddr : Option String)
  | tellWallet (slot : ℕ) (request : WalletRequest)
  | tellTaker (slot : ℕ) (message : TakerMsg)
  | work (slot : ℕ)
  | send (slot : ℕ)
  | collect (slot : ℕ)
  | leave (slot : ℕ)
  | turn (answers : WalletAnswers)

variable (network : Network) (answers : (c : TradeCall) → c.Reply) (mailbox : Mailbox)

/-- A caller works, unless its call is under way. -/
def change (slot : ℕ) (next : Caller → Caller) : Mailbox :=
  match mailbox.slips slot with
  | .none => { mailbox with
      clients := Function.update mailbox.clients slot (next (mailbox.clients slot)) }
  | .waiting | .answered _ | .left => mailbox

def send (slot : ℕ) : Mailbox :=
  match mailbox.slips slot with
  | .none =>
      if ((mailbox.clients slot).asks).isSome ∧ mailbox.server.status = .serving ∧
          mailbox.line.length < capacity then
        { mailbox with
          line := mailbox.line ++ [slot]
          slips := Function.update mailbox.slips slot .waiting }
      else
        mailbox
  | .waiting | .answered _ | .left => mailbox

def collect (slot : ℕ) : Mailbox :=
  match mailbox.slips slot with
  | .answered next => { mailbox with
      clients := Function.update mailbox.clients slot next
      slips := Function.update mailbox.slips slot .none }
  | .none | .waiting | .left => mailbox

/-- The purse takes the first of the channel. -/
def turn (wallet : WalletAnswers) : Mailbox :=
  match mailbox.line with
  | [] => mailbox
  | slot :: rest =>
      match (mailbox.clients slot).asks with
      | none => mailbox
      | some ⟨request, resume⟩ =>
          let (reply, purse) := mailbox.server.serve wallet request
          if mailbox.server.Fresh wallet then
            match mailbox.slips slot with
            | .waiting => Service.Queued.lapse (service network) ⟨purse, mailbox.clients, rest,
                Function.update mailbox.slips slot (.answered (resume reply))⟩
            | .left => Service.Queued.lapse (service network)
                ⟨{ purse with status := .dead }, mailbox.clients, rest, mailbox.slips⟩
            | .none | .answered _ => mailbox
          else
            mailbox

/-- Make a move. What cannot happen is left out. -/
def perform : Move → Mailbox
  | .newWallet slot => mailbox.change slot fun
      | .agent .vacant => .agent (.wallet ⟨(), .idle, []⟩)
      | caller => caller
  | .newTaker slot orderEnvelope fatcrabRxAddr => mailbox.change slot fun
      | .agent .vacant => .takerCreation (FatCrabTakerActor.new orderEnvelope fatcrabRxAddr network)
      | caller => caller
  | .tellWallet slot request => mailbox.change slot fun
      | .agent (.wallet actor) => .agent (.wallet (take WalletClient.code request actor))
      | caller => caller
  | .tellTaker slot message => mailbox.change slot fun
      | .agent (.taker actor) => .agent (.taker (take FatCrabTakerActor.code message actor))
      | caller => caller
  | .work slot => mailbox.change slot fun
      | .agent (.wallet actor) => .agent (.wallet (runsOn answers actor))
      | .agent (.taker actor) => .agent (.taker (runsOn answers actor))
      | .takerCreation (.pure outcome) => .agent (Trader.startTaker (.done outcome))
      | caller => caller
  | .send slot => mailbox.send slot
  | .collect slot => mailbox.collect slot
  | .leave slot => { mailbox with slips := Function.update mailbox.slips slot .left }
  | .turn wallet => mailbox.turn network wallet

/-- Make moves, one after the other. -/
def play (moves : List Move) : Mailbox := moves.foldl (perform network answers) mailbox

variable {network answers mailbox}

theorem steps_change {slot : ℕ} {next : Caller → Caller}
    (hnext : ∀ caller, next caller = caller ∨ Caller.Work network caller (next caller)) :
    Service.Queued.Steps (service network) capacity mailbox (mailbox.change slot next) := by
  unfold change
  split
  next hfree =>
    rcases hnext (mailbox.clients slot) with hsame | hwork
    · rw [hsame, Function.update_eq_self]
      exact .refl
    · exact .single (.work hfree hwork)
  all_goals exact .refl

theorem steps_send {slot : ℕ} :
    Service.Queued.Steps (service network) capacity mailbox (mailbox.send slot) := by
  unfold send
  split
  next hfree =>
    split
    next hroom =>
      obtain ⟨hasks, hserving, hroom⟩ := hroom
      obtain ⟨⟨request, resume⟩, hasks⟩ := Option.isSome_iff_exists.mp hasks
      exact .single (.send hfree hasks (decide_eq_true hserving) hroom)
    next => exact .refl
  all_goals exact .refl

theorem steps_collect {slot : ℕ} :
    Service.Queued.Steps (service network) capacity mailbox (mailbox.collect slot) := by
  unfold collect
  split
  next next hanswered => exact .single (.collect hanswered)
  all_goals exact .refl

theorem steps_turn (wallet : WalletAnswers) :
    Service.Queued.Steps (service network) capacity mailbox (mailbox.turn network wallet) := by
  unfold turn
  split
  next => exact .refl
  next slot rest hline =>
    split
    next => exact .refl
    next request resume hasks =>
      dsimp only
      split
      next hfresh =>
        split
        next hwaiting => exact .single (.turn (.serve hline hwaiting hasks ⟨wallet, hfresh, rfl⟩))
        next hleft => exact .single (.turn (.serveLeft hline hleft hasks ⟨wallet, hfresh, rfl⟩))
        all_goals exact .refl
      next => exact .refl

theorem take_eq {σ Msg : Type} (code : Behaviour σ Msg tradeInterface) (message : Msg)
    (actor : Actor σ Msg tradeInterface) :
    take code message actor = actor ∨
      Actor.Step code actor (.receive message) (take code message actor) := by
  obtain ⟨store, task, history⟩ := actor
  cases task with
  | idle => exact .inr (.receive message)
  | running program | ended | dead => exact .inl rfl

theorem steps_perform (move : Move) :
    Service.Queued.Steps (service network) capacity mailbox
      (mailbox.perform network answers move) := by
  unfold perform
  cases move with
  | newWallet slot =>
      apply steps_change
      intro caller
      split
      next => exact .inr .newWallet
      next => exact .inl rfl
  | newTaker slot orderEnvelope fatcrabRxAddr =>
      apply steps_change
      intro caller
      split
      next => exact .inr (.newTaker orderEnvelope fatcrabRxAddr)
      next => exact .inl rfl
  | tellWallet slot request =>
      apply steps_change
      intro caller
      split
      next actor =>
        rcases take_eq WalletClient.code request actor with hsame | hstep
        · exact .inl (by rw [hsame])
        · exact .inr (.act (.silent (.wallet hstep)))
      next => exact .inl rfl
  | tellTaker slot message =>
      apply steps_change
      intro caller
      split
      next actor =>
        rcases take_eq FatCrabTakerActor.code message actor with hsame | hstep
        · exact .inl (by rw [hsame])
        · exact .inr (.act (.silent (.taker hstep)))
      next => exact .inl rfl
  | work slot =>
      apply steps_change
      intro caller
      split
      next actor =>
        rcases proceeds_runsOn .wallet answers actor with hsame | hproceeds
        · exact .inl (by rw [hsame])
        · exact .inr (.act hproceeds)
      next actor =>
        rcases proceeds_runsOn .taker answers actor with hsame | hproceeds
        · exact .inl (by rw [hsame])
        · exact .inr (.act hproceeds)
      next outcome => exact .inr .takerCreated
      next => exact .inl rfl
  | send slot => exact steps_send
  | collect slot => exact steps_collect
  | leave slot => exact .single (.leave slot)
  | turn wallet => exact steps_turn wallet

/-- Moves are a run of single steps. -/
theorem Reachable.play (hreachable : mailbox.Reachable network) (moves : List Move) :
    (mailbox.play network answers moves).Reachable network := by
  unfold Mailbox.play
  induction moves generalizing mailbox with
  | nil => exact hreachable
  | cons move moves ih =>
      obtain ⟨overflowChecks, height, hsteps⟩ := hreachable
      exact ih ⟨overflowChecks, height, hsteps.trans (steps_perform move)⟩

end Mailbox

end Channel

section Queue

open scoped Sample

namespace Sample

/-- A Sell taker was accepted and asks for its payment. Its request waits behind that of a
client of the application, and before that of another one. -/
def crowded : Mailbox :=
  (Mailbox.new true .regtest 100).play .regtest obliging (
    [.newTaker 0 (orderEnvelope .sell) (some "npub1taker"), .send 0, .turn (wallet ⟨1⟩),
      .collect 0] ++ List.replicate 3 (.work 0) ++
    .tellTaker 0 (.request .takeOrder) :: List.replicate 5 (.work 0) ++
    .tellTaker 0 (.notif (.ok (.tradeRsp
      ⟨"response", acceptTradeRsp offer SampleAddress.bob.text⟩))) ::
      List.replicate 5 (.work 0) ++
    [.newWallet 1, .tellWallet 1 .generateReceiveAddress, .send 1, .send 0,
      .newWallet 2, .tellWallet 2 .blockchainHeight, .send 2])

theorem reachable_crowded : crowded.Reachable .regtest :=
  Mailbox.Reachable.play ⟨true, 100, .refl⟩ _

theorem crowded_line : crowded.line = [1, 0, 2] := by decide +kernel

/-- Whether a caller asks for anything but a shutdown. -/
def asksMildly (caller : Caller) : Bool :=
  caller.asks.any fun asking => match asking.1 with
    | .shutdown => false
    | _ => true

theorem asks_of_asksMildly {caller : Caller} (hmildly : asksMildly caller = true) :
    ∃ asking, caller.asks = some asking ∧ asking.1 ≠ .shutdown := by
  obtain ⟨asking, hasks, hmild⟩ := (Option.any_eq_true _ _).mp hmildly
  refine ⟨asking, hasks, fun hshutdown => ?_⟩
  rw [hshutdown] at hmild
  cases hmild

theorem crowded_calls : ∀ slot ∈ crowded.line, crowded.slips slot = .waiting ∧
    ∃ asking, (crowded.clients slot).asks = some asking ∧ asking.1 ≠ .shutdown := by
  have hcalls : (crowded.line.all fun slot =>
      (crowded.slips slot).isWaiting && asksMildly (crowded.clients slot)) = true := by
    decide +kernel
  intro slot hslot
  have hcall := List.all_eq_true.mp hcalls slot hslot
  rw [Bool.and_eq_true] at hcall
  exact ⟨Service.Slip.eq_waiting hcall.1, asks_of_asksMildly hcall.2⟩

/-- The purse has taken the first two of the channel. -/
def settled : Mailbox :=
  crowded.play .regtest obliging [.turn (wallet ⟨2⟩), .turn (wallet ⟨2⟩)]

end Sample

namespace Mailbox

theorem answers_directly_crowded : ∃ trader : Trader, trader.Reachable ∧
    trader.purse = Sample.crowded.server ∧
      ∀ slot caller, Sample.crowded.standing slot = some caller →
        trader.agents slot = caller.toAgent :=
  answers_directly Sample.reachable_crowded (by decide +kernel)

/-- The payment was made while its request and two others stood in the channel. -/
theorem queued_pays_once_settled : ∃ caller payer, Sample.settled.line = [2] ∧
    Sample.settled.server.broadcasts.map Prod.fst = [⟨1⟩] ∧
      Sample.settled.standing 0 = some caller ∧ caller.toAgent.payer = some payer ∧
        payer.fundsId = ⟨1⟩ ∧ PaysOnce Sample.settled.server payer := by
  have hpayer : ((Sample.settled.standing 0).bind fun caller =>
      caller.toAgent.payer.map Payer.fundsId) = some ⟨1⟩ := by decide +kernel
  obtain ⟨caller, hstanding, hpays⟩ := Option.bind_eq_some_iff.mp hpayer
  obtain ⟨payer, hpayer, hfunds⟩ := Option.map_eq_some_iff.mp hpays
  have hreachable : Sample.settled.Reachable .regtest := Sample.reachable_crowded.play _
  exact ⟨caller, payer, by decide +kernel, by decide +kernel, hstanding, hpayer, hfunds,
    queued_pays_once Sample.roundTrip hreachable (by decide +kernel) hstanding hpayer⟩

theorem answered_of_asks_crowded : ∃ asking, (Sample.crowded.clients 0).asks = some asking ∧
    (∃ later answer,
      Service.Queued.Advances (service .regtest) capacity 0 Sample.crowded later ∧
      later.slips 0 = .none ∧
        later.clients = Function.update Sample.crowded.clients 0 (asking.2 (some answer))) ∧
    ∀ turns later,
      Service.Queued.Waits (service .regtest) capacity 0 Sample.crowded turns later →
      turns < capacity ∧
      ∀ next, Service.Queued.Turn (service .regtest) later next → later.slips 0 = .waiting →
        0 ∉ next.line → next.server.status = .serving →
          ∃ answer, next.slips 0 = .answered (asking.2 (some answer)) := by
  have hline := Sample.crowded_line
  obtain ⟨hwaiting, asking, hasks, -⟩ := Sample.crowded_calls 0 (by rw [hline]; decide)
  refine ⟨asking, hasks, answered_of_asks Sample.reachable_crowded (by decide +kernel)
    (by decide +kernel) hasks (.inr hwaiting) ?_⟩
  -- only the client in slot 1 stands before it
  rw [hline]
  intro other hother
  obtain rfl : other = 1 := List.mem_singleton.mp hother
  obtain ⟨hfirst, first, hfirstAsks, hmild⟩ := Sample.crowded_calls 1 (by rw [hline]; decide)
  rw [hfirst, hfirstAsks]
  exact ⟨nofun, fun asked hasked => Option.some.inj hasked ▸ hmild⟩

end Mailbox

end Queue

end FatCrabTrading
