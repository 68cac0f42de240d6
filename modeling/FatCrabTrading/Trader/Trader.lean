import FatCrabTrading.Maker.Maker
import FatCrabTrading.Taker.Taker
import FatCrabTrading.Trader.Surroundings
import FatCrabTrading.Trader.Wallet
import Mathlib.Logic.Function.Basic

/-! # A trader

One purse, and any number of makers, takers and clients of the application that call it.
Their tasks take turns in any order. A request is served at the moment when its answer is
taken; until then its caller waits and does nothing else.
-/

namespace FatCrabTrading

open Effect

variable [Bitcoin]

/-- A task that may call the purse, or a place where none has been started. -/
inductive Agent where
  | vacant
  | maker (actor : Actor FatCrabMakerActor MakerMsg tradeInterface)
  | taker (actor : Actor FatCrabTakerActor TakerMsg tradeInterface)
  | wallet (actor : Actor Unit WalletRequest tradeInterface)

/-- What a step of an agent shows to the purse. -/
inductive Move where
  | call (c : TradeCall) (reply : c.Reply)
  | other

/-- Messages and writes do not concern the purse. -/
def Move.of {Msg : Type} : Action Msg tradeInterface → Move
  | .call c reply => .call c reply
  | .receive _ => .other
  | .silent => .other

namespace Agent

/-- One step of the agent's task. A restart of a task that ended is the restore of its
store from the file. -/
inductive Step : Agent → Move → Agent → Prop where
  | maker {before after action} (hstep : Actor.Step FatCrabMakerActor.code before action after) :
      Step (.maker before) (.of action) (.maker after)
  | taker {before after action} (hstep : Actor.Step FatCrabTakerActor.code before action after) :
      Step (.taker before) (.of action) (.taker after)
  | wallet {before after action} (hstep : Actor.Step WalletClient.code before action after) :
      Step (.wallet before) (.of action) (.wallet after)

end Agent

/-- The purse serves the request that a step makes, if it makes one. No id is drawn twice. -/
def Purse.Answers (before : Purse) (move : Move) (after : Purse) : Prop :=
  match move with
  | .call (.purse request) reply =>
      ∃ answers, before.DrawsFresh answers request ∧
        before.serve answers request = (reply, after)
  | _ => after = before

/-- `Purse::new` once the earlier task has ended: the table is read back from its file. A
height that was set since the last write may be lost. -/
def Purse.reopen (height : ℕ) (purse : Purse) : Purse :=
  { purse with
    actor.data.height := height
    status := .serving }

structure Trader where
  purse : Purse
  agents : ℕ → Agent

section Update

variable {P : Agent → Prop} {agents : ℕ → Agent} {changed slot : ℕ} {agent : Agent}

/-- When one agent changes, what held of an agent before it holds afterwards, if the change
keeps it. -/
theorem Agent.holds_update (hchanged : P (agents changed) → P agent) (hslot : P (agents slot)) :
    P (Function.update agents changed agent slot) := by
  rcases eq_or_ne slot changed with rfl | hother
  · rw [Function.update_self]
    exact hchanged hslot
  · rw [Function.update_of_ne hother]
    exact hslot

/-- And what holds afterwards held before. -/
theorem Agent.holds_of_update (hchanged : P agent → P (agents changed))
    (hslot : P (Function.update agents changed agent slot)) : P (agents slot) := by
  rcases eq_or_ne slot changed with rfl | hother
  · rw [Function.update_self] at hslot
    exact hchanged hslot
  · rw [Function.update_of_ne hother] at hslot
    exact hslot

end Update

namespace Trader

/-- A trader on an empty directory. -/
def new (overflowChecks : Bool) (network : Network) (height : ℕ) : Trader where
  purse := ⟨⟨overflowChecks, .new network height⟩, .serving, [], [], []⟩
  agents := fun _ => .vacant

/-- `new_buy_maker` and `new_sell_maker`, until the maker's task is started. -/
def createMaker (order : FatCrabOrder) (fatcrabRxAddr : Option String) (answers : WalletAnswers)
    (around : Surroundings) (trader : Trader) :
    Program.Result Unit (Served Unit MakerMsg) (Except FatCrabError FatCrabMakerActor) :=
  (FatCrabMakerActor.new order fatcrabRxAddr trader.purse.actor.data.network).exec
    (served answers around) () ⟨trader.purse, []⟩

/-- `new_buy_taker` and `new_sell_taker`, until the taker's task is started. -/
def createTaker (orderEnvelope : FatCrabOrderEnvelope) (fatcrabRxAddr : Option String)
    (answers : WalletAnswers) (around : Surroundings) (trader : Trader) :
    Program.Result Unit (Served Unit TakerMsg) (Except FatCrabError FatCrabTakerActor) :=
  (FatCrabTakerActor.new orderEnvelope fatcrabRxAddr trader.purse.actor.data.network).exec
    (served answers around) () ⟨trader.purse, []⟩

/-- The task of a maker that was created. -/
def startMaker : Program.Outcome (Except FatCrabError FatCrabMakerActor) → Agent
  | .done (.ok maker) => .maker (.launch FatCrabMakerActor.code maker)
  | _ => .vacant

/-- The task of a taker that was created. -/
def startTaker : Program.Outcome (Except FatCrabError FatCrabTakerActor) → Agent
  | .done (.ok taker) => .taker (.launch FatCrabTakerActor.code taker)
  | _ => .vacant

/-- One step of a trader: of one of its agents, of the application, or of the operator who
starts a trader again on the directory of one that was shut down. The purse's task panics
if a caller of the application gives up waiting for its answer. -/
inductive Step : Trader → Trader → Prop where
  | act {trader slot move next purse} (hstep : (trader.agents slot).Step move next)
      (hanswers : trader.purse.Answers move purse) :
      Step trader ⟨purse, Function.update trader.agents slot next⟩
  | newMaker {trader slot order fatcrabRxAddr answers around result}
      (hvacant : trader.agents slot = .vacant) (hfresh : trader.purse.Fresh answers)
      (hresult : trader.createMaker order fatcrabRxAddr answers around = result) :
      Step trader ⟨result.environment.purse,
        Function.update trader.agents slot (startMaker result.outcome)⟩
  | newTaker {trader slot orderEnvelope fatcrabRxAddr answers around result}
      (hvacant : trader.agents slot = .vacant) (hfresh : trader.purse.Fresh answers)
      (hresult : trader.createTaker orderEnvelope fatcrabRxAddr answers around = result) :
      Step trader ⟨result.environment.purse,
        Function.update trader.agents slot (startTaker result.outcome)⟩
  | newWallet {trader slot} (hvacant : trader.agents slot = .vacant) :
      Step trader ⟨trader.purse, Function.update trader.agents slot (.wallet ⟨(), .idle, []⟩)⟩
  | abandon {trader} :
      Step trader ⟨{ trader.purse with status := .dead }, trader.agents⟩
  | reopen {trader} (height : ℕ) (hended : trader.purse.status = .ended) :
      Step trader ⟨trader.purse.reopen height, trader.agents⟩

/-- Any number of steps. -/
def Steps : Trader → Trader → Prop := Relation.ReflTransGen Step

/-- What a trader that began on an empty directory can come to, without a crash. -/
def Reachable (trader : Trader) : Prop :=
  ∃ overflowChecks network height, Steps (new overflowChecks network height) trader

/-! ## What a creation comes to -/

section Creation

variable {trader : Trader} {order : FatCrabOrder} {orderEnvelope : FatCrabOrderEnvelope}
  {fatcrabRxAddr : Option String} {answers : WalletAnswers} {around : Surroundings}

/-- A maker is created after one request to the purse that was granted. If none is, the purse
has refused, or was not asked. -/
inductive MakerCreation (order : FatCrabOrder) (answers : WalletAnswers) (purse : Purse)
    (result : Program.Result Unit (Served Unit MakerMsg)
      (Except FatCrabError FatCrabMakerActor)) : Prop where
  | unasked (hfailed : ∀ maker, result.outcome ≠ .done (.ok maker))
      (hpurse : result.environment.purse = purse)
  | refused {request : PurseRequest} {reply : Option request.Reply} {after : Purse}
      (hrequest : request = .allocateFunds order.sats ∨ request = .getRxAddress)
      (hserve : purse.serve answers request = (reply, after))
      (hfailed : ∀ maker, result.outcome ≠ .done (.ok maker))
      (hpurse : result.environment.purse = after)
  | buy (address : String) {fundsId : Uuid} {after : Purse} (htype : order.orderType = .buy)
      (hserve : purse.serve answers (.allocateFunds order.sats) = (some (.ok fundsId), after))
      (hcreated : result.outcome = .done (.ok ⟨.buy ⟨order.tradeUuid,
        .new order address fundsId, purse.actor.data.network⟩, order.tradeUuid, none⟩))
      (hpurse : result.environment.purse = after)
  | sell {address : Address} {after : Purse} (htype : order.orderType = .sell)
      (hserve : purse.serve answers .getRxAddress = (some (.ok address), after))
      (hcreated : result.outcome = .done (.ok ⟨.sell ⟨order.tradeUuid,
        .new order address, purse.actor.data.network⟩, order.tradeUuid, none⟩))
      (hpurse : result.environment.purse = after)

theorem makerCreation : MakerCreation order answers trader.purse
    (trader.createMaker order fatcrabRxAddr answers around) := by
  cases htype : order.orderType with
  | buy =>
      cases fatcrabRxAddr with
      | none => apply MakerCreation.unasked <;> simp [createMaker, FatCrabMakerActor.new, htype]
      | some address =>
          rcases hserve : trader.purse.serve answers (.allocateFunds order.sats) with
            ⟨_ | error | fundsId, after⟩
          case ok => apply MakerCreation.buy address htype hserve <;>
            simp [createMaker, FatCrabMakerActor.new, FatCrabMakerBuyActor.new, htype, hserve]
          all_goals
            apply MakerCreation.refused (.inl rfl) hserve <;>
              simp [createMaker, FatCrabMakerActor.new, FatCrabMakerBuyActor.new, htype, hserve]
  | sell =>
      rcases hserve : trader.purse.serve answers .getRxAddress with ⟨_ | error | address, after⟩
      case ok => apply MakerCreation.sell htype hserve <;>
        simp [createMaker, FatCrabMakerActor.new, FatCrabMakerSellActor.new, htype, hserve]
      all_goals
        apply MakerCreation.refused (.inr rfl) hserve <;>
          simp [createMaker, FatCrabMakerActor.new, FatCrabMakerSellActor.new, htype, hserve]

theorem startMaker_eq_vacant {outcome : Program.Outcome (Except FatCrabError FatCrabMakerActor)}
    (hfailed : ∀ maker, outcome ≠ .done (.ok maker)) : startMaker outcome = .vacant := by
  rcases outcome with (error | maker) | _
  · rfl
  · exact absurd rfl (hfailed maker)
  · rfl

/-- A taker is created in the same way, with the roles the other way around. -/
inductive TakerCreation (orderEnvelope : FatCrabOrderEnvelope) (answers : WalletAnswers)
    (purse : Purse) (result : Program.Result Unit (Served Unit TakerMsg)
      (Except FatCrabError FatCrabTakerActor)) : Prop where
  | unasked (hfailed : ∀ taker, result.outcome ≠ .done (.ok taker))
      (hpurse : result.environment.purse = purse)
  | refused {request : PurseRequest} {reply : Option request.Reply} {after : Purse}
      (hrequest : request = .allocateFunds orderEnvelope.order.sats ∨ request = .getRxAddress)
      (hserve : purse.serve answers request = (reply, after))
      (hfailed : ∀ taker, result.outcome ≠ .done (.ok taker))
      (hpurse : result.environment.purse = after)
  | buy {address : Address} {after : Purse} (htype : orderEnvelope.order.orderType = .buy)
      (hserve : purse.serve answers .getRxAddress = (some (.ok address), after))
      (hcreated : result.outcome = .done (.ok ⟨.buy ⟨orderEnvelope.order.tradeUuid,
        .new orderEnvelope address, purse.actor.data.network, none⟩,
        orderEnvelope.order.tradeUuid, none⟩))
      (hpurse : result.environment.purse = after)
  | sell (address : String) {fundsId : Uuid} {after : Purse}
      (htype : orderEnvelope.order.orderType = .sell)
      (hserve : purse.serve answers (.allocateFunds orderEnvelope.order.sats) =
        (some (.ok fundsId), after))
      (hcreated : result.outcome = .done (.ok ⟨.sell ⟨orderEnvelope.order.tradeUuid,
        .new orderEnvelope address fundsId none, purse.actor.data.network, none⟩,
        orderEnvelope.order.tradeUuid, none⟩))
      (hpurse : result.environment.purse = after)

theorem takerCreation : TakerCreation orderEnvelope answers trader.purse
    (trader.createTaker orderEnvelope fatcrabRxAddr answers around) := by
  cases htype : orderEnvelope.order.orderType with
  | sell =>
      cases fatcrabRxAddr with
      | none => apply TakerCreation.unasked <;> simp [createTaker, FatCrabTakerActor.new, htype]
      | some address =>
          rcases hserve : trader.purse.serve answers (.allocateFunds orderEnvelope.order.sats) with
            ⟨_ | error | fundsId, after⟩
          case ok => apply TakerCreation.sell address htype hserve <;>
            simp [createTaker, FatCrabTakerActor.new, FatCrabTakerSellActor.new, htype, hserve]
          all_goals
            apply TakerCreation.refused (.inl rfl) hserve <;>
              simp [createTaker, FatCrabTakerActor.new, FatCrabTakerSellActor.new, htype, hserve]
  | buy =>
      rcases hserve : trader.purse.serve answers .getRxAddress with ⟨_ | error | address, after⟩
      case ok => apply TakerCreation.buy htype hserve <;>
        simp [createTaker, FatCrabTakerActor.new, FatCrabTakerBuyActor.new, htype, hserve]
      all_goals
        apply TakerCreation.refused (.inr rfl) hserve <;>
          simp [createTaker, FatCrabTakerActor.new, FatCrabTakerBuyActor.new, htype, hserve]

theorem startTaker_eq_vacant {outcome : Program.Outcome (Except FatCrabError FatCrabTakerActor)}
    (hfailed : ∀ taker, outcome ≠ .done (.ok taker)) : startTaker outcome = .vacant := by
  rcases outcome with (error | taker) | _
  · rfl
  · exact absurd rfl (hfailed taker)
  · rfl

end Creation

end Trader

end FatCrabTrading
