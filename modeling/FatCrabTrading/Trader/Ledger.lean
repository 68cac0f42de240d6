import FatCrabTrading.Maker.Audit
import FatCrabTrading.Taker.Audit
import FatCrabTrading.Trader.Trader

/-! # Who owns which allocation

Every id that the purse granted to a trade belongs to one agent, and only that agent pays
from it. The record of the purse and the histories of the agents tell the same payments.
-/

namespace FatCrabTrading

open Effect

variable [Bitcoin]

namespace Agent

/-- The agent made this call and was answered so. -/
def Made (c : TradeCall) (reply : c.Reply) : Agent → Prop
  | .vacant => False
  | .maker actor => FatCrabTrading.Made c reply actor.history
  | .taker actor => FatCrabTrading.Made c reply actor.history
  | .wallet actor => FatCrabTrading.Made c reply actor.history

/-- The id is the agent's own, for these sats: the funds of a Buy maker or a Sell taker, or
an allocation that the application was granted for a withdrawal. A withdrawal that came back
without paying still counts, although it keeps no id by which it could pay or free. -/
def Owns (fundsId : Uuid) (sats : ℕ) : Agent → Prop
  | .vacant => False
  | .maker actor => match actor.store.inner with
    | .buy buy => buy.data.btcFundsId = fundsId ∧ buy.data.order.sats = sats
    | .sell _ => False
  | .taker actor => match actor.store.inner with
    | .buy _ => False
    | .sell sell => sell.data.btcFundsId = fundsId ∧ sell.data.orderEnvelope.order.sats = sats
  | .wallet actor =>
      FatCrabTrading.Made (.purse (.allocateFunds sats)) (some (.ok fundsId)) actor.history

/-- The agent has kept its terms and its audit so far. -/
def Kept (network : Network) : Agent → Prop
  | .vacant => True
  | .maker actor =>
      (∃ terms : FatCrabMakerBuyTerms, terms.network = network ∧
        actor.Holds (fun _ _ => True) (FatCrabMakerActor.BuyKept terms)
          (FatCrabMakerActor.BuySettled terms)) ∨
      ∃ terms : FatCrabMakerSellTerms, terms.Belongs network ∧
        actor.Holds (fun _ _ => True) (FatCrabMakerActor.SellKept terms)
          (FatCrabMakerActor.SellKept terms)
  | .taker actor =>
      (∃ terms : FatCrabTakerBuyTerms, terms.Belongs network ∧
        actor.Holds (fun _ _ => True) (FatCrabTakerActor.BuyKept terms)
          (FatCrabTakerActor.BuyKept terms)) ∨
      ∃ terms : FatCrabTakerSellTerms, terms.network = network ∧
        actor.Holds (fun _ _ => True) (FatCrabTakerActor.SellKept terms)
          (FatCrabTakerActor.SellSettled terms)
  | .wallet actor => actor.Holds (fun _ _ => True) WalletClient.Kept WalletClient.Kept

section Step

variable {network : Network} {before after : Agent} {move : Move} {fundsId : Uuid} {sats : ℕ}

theorem Step.kept (hround : Bitcoin.RoundTrip) (hstep : Step before move after)
    (hkept : before.Kept network) : after.Kept network := by
  cases hstep with
  | maker hstep =>
      rcases hkept with ⟨terms, hnetwork, hholds⟩ | ⟨terms, hnetwork, hholds⟩
      · exact .inl ⟨terms, hnetwork,
          hstep.holds (FatCrabMakerActor.buy_invariant hround terms) (History.always_true _) hholds⟩
      · exact .inr ⟨terms, hnetwork,
          hstep.holds (FatCrabMakerActor.sell_invariant terms) (History.always_true _) hholds⟩
  | taker hstep =>
      rcases hkept with ⟨terms, hnetwork, hholds⟩ | ⟨terms, hnetwork, hholds⟩
      · exact .inl ⟨terms, hnetwork,
          hstep.holds (FatCrabTakerActor.buy_invariant terms) (History.always_true _) hholds⟩
      · exact .inr ⟨terms, hnetwork,
          hstep.holds (FatCrabTakerActor.sell_invariant terms) (History.always_true _) hholds⟩
  | wallet hstep => exact hstep.holds WalletClient.invariant (History.always_true _) hkept

/-- The calls of an actor after a step are those before it and the one of the step. -/
theorem made_iff_of_step {σ Msg : Type} {code : Behaviour σ Msg tradeInterface}
    {first second : Actor σ Msg tradeInterface} {action : Action Msg tradeInterface}
    (hstep : Actor.Step code first action second) {c : TradeCall} {reply : c.Reply} :
    FatCrabTrading.Made c reply second.history ↔
      FatCrabTrading.Made c reply first.history ∨ Move.of action = .call c reply := by
  unfold FatCrabTrading.Made
  rw [hstep.history]
  cases action with
  | silent => simp [Move.of]
  | receive message => simp [Move.of]
  | call other answer =>
      simp only [List.mem_cons, Move.of]
      constructor
      · rintro ⟨store, heq | hmem⟩
        · cases heq
          exact .inr rfl
        · exact .inl ⟨store, hmem⟩
      · rintro (⟨store, hmem⟩ | heq)
        · exact ⟨store, .inr hmem⟩
        · cases heq
          exact ⟨first.store, .inl rfl⟩

theorem Step.made_iff (hstep : Step before move after) {c : TradeCall} {reply : c.Reply} :
    after.Made c reply ↔ before.Made c reply ∨ move = .call c reply := by
  cases hstep with
  | maker hstep => exact made_iff_of_step hstep
  | taker hstep => exact made_iff_of_step hstep
  | wallet hstep => exact made_iff_of_step hstep

/-! ## Owners -/

section Owners

variable {maker : Actor FatCrabMakerActor MakerMsg tradeInterface}
  {taker : Actor FatCrabTakerActor TakerMsg tradeInterface}

theorem owns_buyMaker {terms : FatCrabMakerBuyTerms}
    (hkept : FatCrabMakerActor.BuyKept terms maker.history maker.store) :
    (Agent.maker maker).Owns fundsId sats ↔
      terms.btcFundsId = fundsId ∧ terms.order.sats = sats := by
  obtain ⟨⟨inner, uuid, notifTx⟩, task, history⟩ := maker
  obtain ⟨-, hstore⟩ := hkept
  cases inner with
  | sell sell => exact hstore.elim
  | buy buy =>
      obtain ⟨rfl, -⟩ := hstore
      exact Iff.rfl

theorem not_owns_sellMaker {terms : FatCrabMakerSellTerms}
    (hkept : FatCrabMakerActor.SellKept terms maker.history maker.store) :
    ¬(Agent.maker maker).Owns fundsId sats := by
  obtain ⟨⟨inner, uuid, notifTx⟩, task, history⟩ := maker
  cases inner with
  | sell sell => exact not_false
  | buy buy => exact hkept.2.elim

theorem not_owns_buyTaker {terms : FatCrabTakerBuyTerms}
    (hkept : FatCrabTakerActor.BuyKept terms taker.history taker.store) :
    ¬(Agent.taker taker).Owns fundsId sats := by
  obtain ⟨⟨inner, uuid, notifTx⟩, task, history⟩ := taker
  cases inner with
  | buy buy => exact not_false
  | sell sell => exact hkept.2.elim

theorem owns_sellTaker {terms : FatCrabTakerSellTerms}
    (hkept : FatCrabTakerActor.SellKept terms taker.history taker.store) :
    (Agent.taker taker).Owns fundsId sats ↔
      terms.btcFundsId = fundsId ∧ terms.orderEnvelope.order.sats = sats := by
  obtain ⟨⟨inner, uuid, notifTx⟩, task, history⟩ := taker
  obtain ⟨-, hstore⟩ := hkept
  cases inner with
  | buy buy => exact hstore.elim
  | sell sell =>
      obtain rfl := hstore
      exact Iff.rfl

end Owners

/-- A trade's id is its own from its creation on. -/
theorem Step.owns_of_trade (hround : Bitcoin.RoundTrip) (hstep : Step before move after)
    (hkept : before.Kept network) (htrade : ∀ actor, after ≠ .wallet actor)
    (howns : after.Owns fundsId sats) : before.Owns fundsId sats := by
  cases hstep with
  | maker hstep =>
      rcases hkept with ⟨terms, -, hholds⟩ | ⟨terms, -, hholds⟩
      · have hafter :=
          hstep.holds (FatCrabMakerActor.buy_invariant hround terms) (History.always_true _) hholds
        exact (owns_buyMaker hholds.1).mpr ((owns_buyMaker hafter.1).mp howns)
      · have hafter := hstep.holds (FatCrabMakerActor.sell_invariant terms)
          (History.always_true _) hholds
        exact absurd howns (not_owns_sellMaker hafter.1)
  | taker hstep =>
      rcases hkept with ⟨terms, -, hholds⟩ | ⟨terms, -, hholds⟩
      · have hafter := hstep.holds (FatCrabTakerActor.buy_invariant terms)
          (History.always_true _) hholds
        exact absurd howns (not_owns_buyTaker hafter.1)
      · have hafter := hstep.holds (FatCrabTakerActor.sell_invariant terms)
          (History.always_true _) hholds
        exact (owns_sellTaker hholds.1).mpr ((owns_sellTaker hafter.1).mp howns)
  | wallet hstep => exact absurd rfl (htrade _)

/-- Only a client comes by new ids, and only by asking for them. -/
theorem Step.owns (hround : Bitcoin.RoundTrip) (hstep : Step before move after)
    (hkept : before.Kept network) (howns : after.Owns fundsId sats) :
    before.Owns fundsId sats ∨
      move = .call (.purse (.allocateFunds sats)) (some (.ok fundsId)) := by
  cases after with
  | wallet actor =>
      cases hstep with
      | wallet hstep => exact (made_iff_of_step hstep).mp howns
  | vacant => exact howns.elim
  | maker actor => exact .inl (hstep.owns_of_trade hround hkept nofun howns)
  | taker actor => exact .inl (hstep.owns_of_trade hround hkept nofun howns)

/-- What an agent owns, it keeps. -/
theorem Step.owns_of_owns (hround : Bitcoin.RoundTrip) (hstep : Step before move after)
    (hkept : before.Kept network) (howns : before.Owns fundsId sats) :
    after.Owns fundsId sats := by
  cases hstep with
  | maker hstep =>
      rcases hkept with ⟨terms, -, hholds⟩ | ⟨terms, -, hholds⟩
      · have hafter :=
          hstep.holds (FatCrabMakerActor.buy_invariant hround terms) (History.always_true _) hholds
        exact (owns_buyMaker hafter.1).mpr ((owns_buyMaker hholds.1).mp howns)
      · exact absurd howns (not_owns_sellMaker hholds.1)
  | taker hstep =>
      rcases hkept with ⟨terms, -, hholds⟩ | ⟨terms, -, hholds⟩
      · exact absurd howns (not_owns_buyTaker hholds.1)
      · have hafter := hstep.holds (FatCrabTakerActor.sell_invariant terms)
          (History.always_true _) hholds
        exact (owns_sellTaker hafter.1).mpr ((owns_sellTaker hholds.1).mp howns)
  | wallet hstep => exact (made_iff_of_step hstep).mpr (.inl howns)

/-- Whoever pays from an id owns it. -/
theorem Kept.owns_of_sent {agent : Agent} (hkept : agent.Kept network) {address : Address}
    {reply : Option (Except FatCrabError Txid)}
    (hmade : agent.Made (.purse (.sendFunds fundsId address)) reply) :
    ∃ sats, agent.Owns fundsId sats := by
  cases agent with
  | vacant => exact hmade.elim
  | maker actor =>
      obtain ⟨store, hentry⟩ := hmade
      obtain ⟨later, past, hhistory⟩ := List.append_of_mem hentry
      rcases hkept with ⟨terms, -, hkept, -⟩ | ⟨terms, -, ⟨haudited, -⟩, -⟩
      · have haudited := hkept.1
        rw [hhistory] at haudited
        exact ⟨_, (owns_buyMaker hkept).mpr ⟨haudited.split.1.symm, rfl⟩⟩
      · rw [hhistory] at haudited
        exact haudited.split.elim
  | taker actor =>
      obtain ⟨store, hentry⟩ := hmade
      obtain ⟨later, past, hhistory⟩ := List.append_of_mem hentry
      rcases hkept with ⟨terms, -, ⟨haudited, -⟩, -⟩ | ⟨terms, -, hkept, -⟩
      · rw [hhistory] at haudited
        exact haudited.split.elim
      · have haudited := hkept.1
        rw [hhistory] at haudited
        exact ⟨_, (owns_sellTaker hkept).mpr ⟨haudited.split.1.symm, rfl⟩⟩
  | wallet actor =>
      obtain ⟨store, hentry⟩ := hmade
      obtain ⟨later, past, hhistory⟩ := List.append_of_mem hentry
      have haudited := hkept.1
      rw [WalletClient.Kept, hhistory] at haudited
      obtain ⟨sats, asked, hasked⟩ := haudited.split
      refine ⟨sats, asked, ?_⟩
      rw [hhistory]
      exact List.mem_append_right later (List.mem_cons_of_mem _ hasked)

end Step

end Agent

namespace Trader

/-- What holds of a trader at every moment. -/
structure Consistent (trader : Trader) : Prop where
  sound : trader.purse.Sound
  kept : ∀ slot, (trader.agents slot).Kept trader.purse.actor.data.network
  granted : ∀ slot fundsId sats, (trader.agents slot).Owns fundsId sats →
    (fundsId, sats) ∈ trader.purse.granted
  apart : ∀ first second fundsId sats sats', (trader.agents first).Owns fundsId sats →
    (trader.agents second).Owns fundsId sats' → first = second
  sent : ∀ slot fundsId address txid,
    (trader.agents slot).Made (.purse (.sendFunds fundsId address)) (some (.ok txid)) →
      ∃ tx sats, (fundsId, tx) ∈ trader.purse.broadcasts ∧ tx.txid = txid ∧
        tx.recipients = [(Bitcoin.scriptPubkey address, sats)]
  caused : ∀ fundsId tx, (fundsId, tx) ∈ trader.purse.broadcasts → ∃ slot address sats,
    (trader.agents slot).Made (.purse (.sendFunds fundsId address)) (some (.ok tx.txid)) ∧
      tx.recipients = [(Bitcoin.scriptPubkey address, sats)]
  freed : ∀ fundsId ∈ trader.purse.freed, ∃ slot,
    (trader.agents slot).Made (.purse (.freeFunds fundsId)) (some (.ok ()))

/-- The record of a purse only grows. -/
structure Extends (before after : Purse) : Prop where
  granted : ∀ grant ∈ before.granted, grant ∈ after.granted
  broadcasts : ∀ broadcast ∈ before.broadcasts, broadcast ∈ after.broadcasts
  freed : ∀ fundsId ∈ before.freed, fundsId ∈ after.freed

theorem Extends.refl (purse : Purse) : Extends purse purse :=
  ⟨fun _ h => h, fun _ h => h, fun _ h => h⟩

theorem extends_serve {purse after : Purse} {answers : WalletAnswers} {request : PurseRequest}
    {reply : Option request.Reply} (hserve : purse.serve answers request = (reply, after)) :
    Extends purse after :=
  ⟨fun _ => Purse.mem_granted_of_serve hserve, fun _ => Purse.mem_broadcasts_of_serve hserve,
    fun _ => Purse.mem_freed_of_serve hserve⟩

/-- How the purse and one agent may change together. -/
structure Change (before after : Purse) (agent next : Agent) : Prop where
  sound : after.Sound
  network : after.actor.data.network = before.actor.data.network
  kept : next.Kept before.actor.data.network
  made : ∀ c reply, agent.Made c reply → next.Made c reply
  record : Extends before after
  keeps : ∀ fundsId sats, agent.Owns fundsId sats → next.Owns fundsId sats
  owns : ∀ fundsId sats, next.Owns fundsId sats → agent.Owns fundsId sats ∨
    (fundsId, sats) ∈ after.granted ∧ ∀ sats, (fundsId, sats) ∉ before.granted
  sent : ∀ fundsId address txid,
    next.Made (.purse (.sendFunds fundsId address)) (some (.ok txid)) →
      agent.Made (.purse (.sendFunds fundsId address)) (some (.ok txid)) ∨
        ∃ tx sats, (fundsId, tx) ∈ after.broadcasts ∧ tx.txid = txid ∧
          tx.recipients = [(Bitcoin.scriptPubkey address, sats)]
  caused : ∀ fundsId tx, (fundsId, tx) ∈ after.broadcasts →
    (fundsId, tx) ∈ before.broadcasts ∨ ∃ address sats,
      next.Made (.purse (.sendFunds fundsId address)) (some (.ok tx.txid)) ∧
        tx.recipients = [(Bitcoin.scriptPubkey address, sats)]
  freed : ∀ fundsId ∈ after.freed, fundsId ∈ before.freed ∨
    next.Made (.purse (.freeFunds fundsId)) (some (.ok ()))

variable {trader : Trader}

section Update

variable {slot : ℕ} {next : Agent} {purse : Purse}

theorem Change.made_update (hchange : Change trader.purse purse (trader.agents slot) next)
    {other : ℕ} {c : TradeCall} {reply : c.Reply}
    (hmade : (trader.agents other).Made c reply) :
    (Function.update trader.agents slot next other).Made c reply :=
  Agent.holds_update (hchange.made c reply) hmade

/-- Only the agent that changed comes to own an id, and one that was not granted before. -/
theorem Change.owns_update (hchange : Change trader.purse purse (trader.agents slot) next)
    {other : ℕ} {fundsId : Uuid} {sats : ℕ}
    (howns : (Function.update trader.agents slot next other).Owns fundsId sats) :
    (trader.agents other).Owns fundsId sats ∨ other = slot ∧
      (fundsId, sats) ∈ purse.granted ∧ ∀ sats, (fundsId, sats) ∉ trader.purse.granted := by
  rcases eq_or_ne other slot with rfl | hother
  · rw [Function.update_self] at howns
    rcases hchange.owns fundsId sats howns with hold | hnew
    · exact .inl hold
    · exact .inr ⟨rfl, hnew⟩
  · rw [Function.update_of_ne hother] at howns
    exact .inl howns

/-- No two agents come to own one id. -/
theorem Consistent.apart_update (hconsistent : trader.Consistent)
    (hchange : Change trader.purse purse (trader.agents slot) next) {first second : ℕ}
    {fundsId : Uuid} {sats sats' : ℕ}
    (hfirst : (Function.update trader.agents slot next first).Owns fundsId sats)
    (hsecond : (Function.update trader.agents slot next second).Owns fundsId sats') :
    first = second := by
  rcases hchange.owns_update hfirst with hold | ⟨hslot, -, hfresh⟩
  · rcases hchange.owns_update hsecond with hold' | ⟨-, -, hfresh⟩
    · exact hconsistent.apart first second fundsId sats sats' hold hold'
    -- what was owned before was granted before
    · exact absurd (hconsistent.granted first fundsId sats hold) (hfresh sats)
  · rcases hchange.owns_update hsecond with hold' | ⟨hslot', -, -⟩
    · exact absurd (hconsistent.granted second fundsId sats' hold') (hfresh sats')
    · rw [hslot, hslot']

/-- Every payment that an agent was told of is on the record. -/
theorem Consistent.sent_update (hconsistent : trader.Consistent)
    (hchange : Change trader.purse purse (trader.agents slot) next) {other : ℕ} {fundsId : Uuid}
    {address : Address} {txid : Txid}
    (hsent : (Function.update trader.agents slot next other).Made
      (.purse (.sendFunds fundsId address)) (some (.ok txid))) :
    ∃ tx sats, (fundsId, tx) ∈ purse.broadcasts ∧ tx.txid = txid ∧
      tx.recipients = [(Bitcoin.scriptPubkey address, sats)] := by
  have hcases : (trader.agents other).Made (.purse (.sendFunds fundsId address))
      (some (.ok txid)) ∨ ∃ tx sats, (fundsId, tx) ∈ purse.broadcasts ∧ tx.txid = txid ∧
        tx.recipients = [(Bitcoin.scriptPubkey address, sats)] := by
    rcases eq_or_ne other slot with rfl | hother
    · rw [Function.update_self] at hsent
      exact hchange.sent fundsId address txid hsent
    · rw [Function.update_of_ne hother] at hsent
      exact .inl hsent
  rcases hcases with hold | hnew
  · obtain ⟨tx, sats, hbroadcast, htx⟩ := hconsistent.sent other fundsId address txid hold
    exact ⟨tx, sats, hchange.record.broadcasts _ hbroadcast, htx⟩
  · exact hnew

theorem Consistent.change (hconsistent : trader.Consistent)
    (hchange : Change trader.purse purse (trader.agents slot) next) :
    Consistent ⟨purse, Function.update trader.agents slot next⟩ := by
  constructor
  · exact hchange.sound
  · intro other
    dsimp only
    rw [hchange.network]
    exact Agent.holds_update (fun _ => hchange.kept) (hconsistent.kept other)
  · intro other fundsId sats hother
    rcases hchange.owns_update hother with hold | ⟨-, hnew, -⟩
    · exact hchange.record.granted _ (hconsistent.granted other fundsId sats hold)
    · exact hnew
  · intro first second fundsId sats sats' hfirst hsecond
    exact hconsistent.apart_update hchange hfirst hsecond
  · intro other fundsId address txid hsent
    exact hconsistent.sent_update hchange hsent
  · intro fundsId tx hbroadcast
    rcases hchange.caused fundsId tx hbroadcast with hold | ⟨address, sats, hnew, hpaid⟩
    · obtain ⟨other, address, sats, hold, hpaid⟩ := hconsistent.caused fundsId tx hold
      exact ⟨other, address, sats, hchange.made_update hold, hpaid⟩
    · refine ⟨slot, address, sats, ?_, hpaid⟩
      dsimp only
      rw [Function.update_self]
      exact hnew
  · intro fundsId hfreed
    rcases hchange.freed fundsId hfreed with hold | hnew
    · obtain ⟨other, hold⟩ := hconsistent.freed fundsId hold
      exact ⟨other, hchange.made_update hold⟩
    · refine ⟨slot, ?_⟩
      dsimp only
      rw [Function.update_self]
      exact hnew

end Update

/-- A step that asks the purse nothing. -/
theorem Change.of_quiet_step (hround : Bitcoin.RoundTrip) {purse : Purse} (hsound : purse.Sound)
    {agent next : Agent} {move : Move} (hstep : agent.Step move next)
    (hkept : agent.Kept purse.actor.data.network)
    (hquiet : ∀ request reply, move ≠ .call (.purse request) reply) :
    Change purse purse agent next where
  sound := hsound
  network := rfl
  kept := hstep.kept hround hkept
  made _ _ hmade := hstep.made_iff.mpr (.inl hmade)
  record := .refl purse
  keeps _ _ := hstep.owns_of_owns hround hkept
  owns fundsId sats howns := by
    rcases hstep.owns hround hkept howns with hold | hnew
    · exact .inl hold
    · exact absurd hnew (hquiet _ _)
  sent fundsId address txid hsent := by
    rcases hstep.made_iff.mp hsent with hold | hnew
    · exact .inl hold
    · exact absurd hnew (hquiet _ _)
  caused _ _ hbroadcast := .inl hbroadcast
  freed _ hfreed := .inl hfreed

/-- A step that makes a request. -/
theorem Change.of_request (hround : Bitcoin.RoundTrip) {purse after : Purse}
    (hsound : purse.Sound) {agent next : Agent} {request : PurseRequest}
    {reply : Option request.Reply} {answers : WalletAnswers}
    (hstep : agent.Step (.call (.purse request) reply) next)
    (hkept : agent.Kept purse.actor.data.network) (hdraws : purse.DrawsFresh answers request)
    (hserve : purse.serve answers request = (reply, after)) : Change purse after agent next where
  sound := by
    have hafter := hsound.serve hdraws
    rw [hserve] at hafter
    exact hafter
  network := by
    have hafter := @Purse.network_serve _ answers purse request
    rw [hserve] at hafter
    exact hafter
  kept := hstep.kept hround hkept
  made _ _ hmade := hstep.made_iff.mpr (.inl hmade)
  record := extends_serve hserve
  keeps _ _ := hstep.owns_of_owns hround hkept
  owns fundsId sats howns := by
    rcases hstep.owns hround hkept howns with hold | hnew
    · exact .inl hold
    · cases hnew
      obtain ⟨rfl, hgrant⟩ := Purse.serve_allocateFunds_ok hserve
      exact .inr ⟨hgrant, hdraws sats rfl⟩
  sent fundsId address txid hsent := by
    rcases hstep.made_iff.mp hsent with hold | hnew
    · exact .inl hold
    · cases hnew
      obtain ⟨tx, sats, -, hpaid⟩ := Purse.serve_sendFunds_ok hserve
      exact .inr ⟨tx, sats, hpaid⟩
  caused fundsId tx hbroadcast := by
    rcases Purse.broadcast_of_serve hserve hbroadcast with hold | ⟨address, sats, hnew, hpaid⟩
    · exact .inl hold
    · cases hnew
      exact .inr ⟨address, sats, hstep.made_iff.mpr (.inr rfl), hpaid⟩
  freed fundsId hfreed := by
    rcases Purse.freed_of_serve hserve hfreed with hold | hnew
    · exact .inl hold
    · cases hnew
      exact .inr (hstep.made_iff.mpr (.inr rfl))

/-- Every step of an agent is such a change. -/
theorem Change.of_step (hround : Bitcoin.RoundTrip) {purse after : Purse} (hsound : purse.Sound)
    {agent next : Agent} {move : Move} (hstep : agent.Step move next)
    (hkept : agent.Kept purse.actor.data.network) (hanswers : purse.Answers move after) :
    Change purse after agent next := by
  cases move with
  | other =>
      obtain rfl := hanswers
      exact .of_quiet_step hround hsound hstep hkept nofun
  | call c reply =>
      cases c with
      | purse request =>
          obtain ⟨answers, hdraws, hserve⟩ := hanswers
          exact .of_request hround hsound hstep hkept hdraws hserve
      | n3xb request | notify notifTx notif | respond rsp | terminate =>
          obtain rfl := hanswers
          exact .of_quiet_step hround hsound hstep hkept nofun

/-! ## Creation -/

/-- An agent that has called nothing yet and owns at most what was just granted. -/
theorem Change.of_creation {purse after : Purse} (hsound : purse.Sound) {next : Agent}
    {request : PurseRequest} {reply : Option request.Reply} {answers : WalletAnswers}
    (hfresh : purse.Fresh answers) (hserve : purse.serve answers request = (reply, after))
    (hsend : ∀ fundsId address, request ≠ .sendFunds fundsId address)
    (hfree : ∀ fundsId, request ≠ .freeFunds fundsId)
    (hkept : next.Kept purse.actor.data.network) (hmade : ∀ c reply, ¬next.Made c reply)
    (howns : ∀ fundsId sats, next.Owns fundsId sats →
      (⟨request, reply⟩ : Purse.Asked) = ⟨.allocateFunds sats, some (.ok fundsId)⟩) :
    Change purse after .vacant next where
  sound := by
    have hafter := hsound.serve fun _ (_ : request = _) => hfresh
    rw [hserve] at hafter
    exact hafter
  network := by
    have hafter := @Purse.network_serve _ answers purse request
    rw [hserve] at hafter
    exact hafter
  kept := hkept
  made _ _ hvacant := hvacant.elim
  record := extends_serve hserve
  keeps _ _ := False.elim
  owns fundsId sats howned := by
    cases howns fundsId sats howned
    obtain ⟨rfl, hgrant⟩ := Purse.serve_allocateFunds_ok hserve
    exact .inr ⟨hgrant, hfresh⟩
  sent _ _ _ hsent := absurd hsent (hmade _ _)
  caused fundsId tx hbroadcast := by
    rcases Purse.broadcast_of_serve hserve hbroadcast with hold | ⟨address, sats, hnew, -⟩
    · exact .inl hold
    · cases hnew
      exact absurd rfl (hsend fundsId address)
  freed fundsId hfreed := by
    rcases Purse.freed_of_serve hserve hfreed with hold | hnew
    · exact .inl hold
    · cases hnew
      exact absurd rfl (hfree fundsId)

/-- A request for a new trade that was not granted leaves the slot as it is. -/
theorem Change.of_refused {purse after : Purse} (hsound : purse.Sound) {answers : WalletAnswers}
    (hfresh : purse.Fresh answers) {request : PurseRequest} {reply : Option request.Reply}
    (hserve : purse.serve answers request = (reply, after)) {sats : ℕ}
    (hrequest : request = .allocateFunds sats ∨ request = .getRxAddress) :
    Change purse after .vacant .vacant := by
  apply Change.of_creation hsound hfresh hserve
  · intro fundsId address hsend
    rcases hrequest with rfl | rfl <;> cases hsend
  · intro fundsId hfree
    rcases hrequest with rfl | rfl <;> cases hfree
  · trivial
  · exact fun _ _ => not_false
  · exact fun _ _ => False.elim

/-- A slot that nothing was started in. -/
theorem Change.refl {purse : Purse} (hsound : purse.Sound) :
    Change purse purse .vacant .vacant where
  sound := hsound
  network := rfl
  kept := trivial
  made _ _ hmade := hmade
  record := .refl purse
  keeps _ _ howns := howns
  owns _ _ howns := .inl howns
  sent _ _ _ hsent := .inl hsent
  caused _ _ hbroadcast := .inl hbroadcast
  freed _ hfreed := .inl hfreed

section Creation

variable {answers : WalletAnswers} {around : Surroundings} {order : FatCrabOrder}
  {orderEnvelope : FatCrabOrderEnvelope} {fatcrabRxAddr : Option String}

theorem kept_newBuyMaker (address : String) (fundsId : Uuid) (network : Network) :
    (startMaker (.done (.ok ⟨.buy ⟨order.tradeUuid, .new order address fundsId, network⟩,
      order.tradeUuid, none⟩))).Kept network := by
  have hsettled : FatCrabMakerActor.BuySettled ⟨order, address, fundsId, network⟩ []
      ⟨.buy ⟨order.tradeUuid, .new order address fundsId, network⟩, order.tradeUuid, none⟩ :=
    ⟨⟨trivial, rfl, nofun, nofun⟩, nofun⟩
  exact .inl ⟨_, rfl, hsettled.1, hsettled.start⟩

theorem kept_newSellMaker (address : Address) (network : Network) :
    (startMaker (.done (.ok ⟨.sell ⟨order.tradeUuid, .new order address, network⟩,
      order.tradeUuid, none⟩))).Kept network := by
  have hkept : FatCrabMakerActor.SellKept ⟨order, Bitcoin.addressToString address, network⟩ []
      ⟨.sell ⟨order.tradeUuid, .new order address, network⟩, order.tradeUuid, none⟩ :=
    ⟨trivial, rfl, nofun⟩
  exact .inr ⟨_, ⟨rfl, address, rfl⟩, hkept, hkept.start⟩

theorem kept_newBuyTaker (address : Address) (network : Network) :
    (startTaker (.done (.ok ⟨.buy ⟨orderEnvelope.order.tradeUuid, .new orderEnvelope address,
      network, none⟩, orderEnvelope.order.tradeUuid, none⟩))).Kept network := by
  have hkept : FatCrabTakerActor.BuyKept
      ⟨orderEnvelope, Bitcoin.addressToString address, network⟩ []
      ⟨.buy ⟨orderEnvelope.order.tradeUuid, .new orderEnvelope address, network, none⟩,
        orderEnvelope.order.tradeUuid, none⟩ :=
    ⟨trivial, rfl, nofun⟩
  exact .inl ⟨_, ⟨rfl, address, rfl⟩, hkept, hkept.start⟩

theorem kept_newSellTaker (address : String) (fundsId : Uuid) (network : Network) :
    (startTaker (.done (.ok ⟨.sell ⟨orderEnvelope.order.tradeUuid,
      .new orderEnvelope address fundsId none, network, none⟩,
      orderEnvelope.order.tradeUuid, none⟩))).Kept network := by
  have hsettled : FatCrabTakerActor.SellSettled ⟨orderEnvelope, address, fundsId, network⟩ []
      ⟨.sell ⟨orderEnvelope.order.tradeUuid, .new orderEnvelope address fundsId none, network,
        none⟩, orderEnvelope.order.tradeUuid, none⟩ :=
    ⟨⟨trivial, rfl⟩, rfl⟩
  exact .inr ⟨_, rfl, hsettled.1, hsettled.start⟩

/-- An agent that was just started has called nothing. -/
theorem not_made_startMaker (outcome : Program.Outcome (Except FatCrabError FatCrabMakerActor))
    (c : TradeCall) (reply : c.Reply) : ¬(startMaker outcome).Made c reply := by
  rcases outcome with (error | maker) | _
  · exact not_false
  · rintro ⟨store, hentry⟩
    cases hentry
  · exact not_false

theorem not_made_startTaker (outcome : Program.Outcome (Except FatCrabError FatCrabTakerActor))
    (c : TradeCall) (reply : c.Reply) : ¬(startTaker outcome).Made c reply := by
  rcases outcome with (error | taker) | _
  · exact not_false
  · rintro ⟨store, hentry⟩
    cases hentry
  · exact not_false

/-- Creating a maker makes one request, and the maker owns what it granted. -/
theorem Change.of_createMaker (hsound : trader.purse.Sound) (hfresh : trader.purse.Fresh answers) :
    Change trader.purse (trader.createMaker order fatcrabRxAddr answers around).environment.purse
      .vacant (startMaker (trader.createMaker order fatcrabRxAddr answers around).outcome) := by
  cases @makerCreation _ trader order fatcrabRxAddr answers around with
  | unasked hfailed hpurse =>
      rw [startMaker_eq_vacant hfailed, hpurse]
      exact .refl hsound
  | refused hrequest hserve hfailed hpurse =>
      rw [startMaker_eq_vacant hfailed, hpurse]
      exact .of_refused hsound hfresh hserve hrequest
  | buy address htype hserve hcreated hpurse =>
      rw [hcreated, hpurse]
      apply Change.of_creation hsound hfresh hserve nofun nofun
      · exact kept_newBuyMaker address _ _
      · exact not_made_startMaker _
      · rintro _ _ ⟨rfl, rfl⟩
        rfl
  | sell htype hserve hcreated hpurse =>
      rw [hcreated, hpurse]
      exact .of_creation hsound hfresh hserve nofun nofun (kept_newSellMaker _ _)
        (not_made_startMaker _) fun _ _ => False.elim

/-- Creating a taker makes one request, and the taker owns what it granted. -/
theorem Change.of_createTaker (hsound : trader.purse.Sound) (hfresh : trader.purse.Fresh answers) :
    Change trader.purse
      (trader.createTaker orderEnvelope fatcrabRxAddr answers around).environment.purse .vacant
      (startTaker (trader.createTaker orderEnvelope fatcrabRxAddr answers around).outcome) := by
  cases @takerCreation _ trader orderEnvelope fatcrabRxAddr answers around with
  | unasked hfailed hpurse =>
      rw [startTaker_eq_vacant hfailed, hpurse]
      exact .refl hsound
  | refused hrequest hserve hfailed hpurse =>
      rw [startTaker_eq_vacant hfailed, hpurse]
      exact .of_refused hsound hfresh hserve hrequest
  | sell address htype hserve hcreated hpurse =>
      rw [hcreated, hpurse]
      apply Change.of_creation hsound hfresh hserve nofun nofun
      · exact kept_newSellTaker address _ _
      · exact not_made_startTaker _
      · rintro _ _ ⟨rfl, rfl⟩
        rfl
  | buy htype hserve hcreated hpurse =>
      rw [hcreated, hpurse]
      exact .of_creation hsound hfresh hserve nofun nofun (kept_newBuyTaker _ _)
        (not_made_startTaker _) fun _ _ => False.elim

/-- A client that was just opened has called nothing. -/
theorem Change.of_newWallet {purse : Purse} (hsound : purse.Sound) :
    Change purse purse .vacant (.wallet ⟨(), .idle, []⟩) where
  sound := hsound
  network := rfl
  kept := ⟨trivial, trivial⟩
  made _ _ hvacant := hvacant.elim
  record := .refl purse
  keeps _ _ := False.elim
  owns fundsId sats := by
    rintro ⟨store, hentry⟩
    cases hentry
  sent fundsId address txid := by
    rintro ⟨store, hentry⟩
    cases hentry
  caused _ _ hbroadcast := .inl hbroadcast
  freed _ hfreed := .inl hfreed

end Creation

/-! ## Runs -/

/-- A step changes the purse together with one agent, or the purse's task only. -/
theorem Step.change (hround : Bitcoin.RoundTrip) (hconsistent : trader.Consistent)
    {next : Trader} (hstep : Step trader next) :
    (∃ slot agent, Change trader.purse next.purse (trader.agents slot) agent ∧
      next.agents = Function.update trader.agents slot agent) ∨
    ∃ status height, next.purse = { trader.purse with
      actor.data.height := height, status := status } ∧ next.agents = trader.agents := by
  have hsound := hconsistent.sound
  cases hstep with
  | @act slot _ agent _ hstep hanswers =>
      exact .inl ⟨slot, agent, .of_step hround hsound hstep (hconsistent.kept slot) hanswers, rfl⟩
  | @newMaker slot _ _ _ _ _ hvacant hfresh hresult =>
      subst hresult
      refine .inl ⟨slot, _, ?_, rfl⟩
      rw [hvacant]
      exact .of_createMaker hsound hfresh
  | @newTaker slot _ _ _ _ _ hvacant hfresh hresult =>
      subst hresult
      refine .inl ⟨slot, _, ?_, rfl⟩
      rw [hvacant]
      exact .of_createTaker hsound hfresh
  | @newWallet slot hvacant =>
      refine .inl ⟨slot, _, ?_, rfl⟩
      rw [hvacant]
      exact .of_newWallet hsound
  | abandon => exact .inr ⟨.dead, trader.purse.actor.data.height, rfl, rfl⟩
  | reopen height hended => exact .inr ⟨.serving, height, rfl, rfl⟩

theorem Consistent.step (hround : Bitcoin.RoundTrip) (hconsistent : trader.Consistent)
    {next : Trader} (hstep : Step trader next) : next.Consistent := by
  obtain ⟨purse, agents⟩ := next
  rcases hstep.change hround hconsistent with
    ⟨slot, agent, hchange, rfl⟩ | ⟨status, height, rfl, rfl⟩
  · exact hconsistent.change hchange
  · have hsound : { trader.purse with actor.data.height := height, status := status }.Sound :=
      hconsistent.sound.congr (fun _ => rfl) rfl rfl rfl
    exact ⟨hsound, hconsistent.kept, hconsistent.granted, hconsistent.apart, hconsistent.sent,
      hconsistent.caused, hconsistent.freed⟩

theorem Step.extends_purse (hround : Bitcoin.RoundTrip) (hconsistent : trader.Consistent)
    {next : Trader} (hstep : Step trader next) : Extends trader.purse next.purse := by
  rcases hstep.change hround hconsistent with ⟨slot, agent, hchange, -⟩ | ⟨status, height, hsame, -⟩
  · exact hchange.record
  · rw [hsame]
    exact ⟨fun _ h => h, fun _ h => h, fun _ h => h⟩

theorem consistent_new (overflowChecks : Bool) (network : Network) (height : ℕ) :
    (new overflowChecks network height).Consistent := by
  have hlookup : ∀ fundsId, (new overflowChecks network height).purse.lookup fundsId = none :=
    fun fundsId => PurseData.getAllocatedFunds_new ..
  refine ⟨⟨List.nodup_nil, ?_, nofun, List.nodup_nil, nofun, nofun⟩, fun _ => trivial,
    fun _ _ _ => False.elim, fun _ _ _ _ _ => False.elim, fun _ _ _ _ => False.elim, nofun, nofun⟩
  intro fundsId sats hfound
  rw [hlookup] at hfound
  cases hfound

/-- Every reachable trader is consistent. -/
theorem Reachable.consistent (hround : Bitcoin.RoundTrip) (hreachable : trader.Reachable) :
    trader.Consistent := by
  obtain ⟨overflowChecks, network, height, hsteps⟩ := hreachable
  induction hsteps with
  | refl => exact consistent_new overflowChecks network height
  | tail _ hstep ih => exact ih.step hround hstep

/-- What was paid from an id is what its owner was granted. -/
theorem Consistent.recipients (hconsistent : trader.Consistent) {slot : ℕ} {fundsId : Uuid}
    {sats : ℕ} (howns : (trader.agents slot).Owns fundsId sats) {tx : Tx}
    (hbroadcast : (fundsId, tx) ∈ trader.purse.broadcasts) :
    ∃ script, tx.recipients = [(script, sats)] := by
  have hgrant := hconsistent.granted slot _ _ howns
  obtain ⟨-, script, paid, hrecipients, hpaid⟩ := hconsistent.sound.paid _ tx hbroadcast
  have hsats : paid = sats := congrArg Prod.snd
    (List.inj_on_of_nodup_map hconsistent.sound.grantedOnce hpaid hgrant rfl)
  rw [hsats] at hrecipients
  exact ⟨script, hrecipients⟩

/-! ## Ids that are gone -/

/-- An id that was granted, and is in the table no more. -/
def Gone (fundsId : Uuid) (purse : Purse) : Prop :=
  (∃ sats, (fundsId, sats) ∈ purse.granted) ∧ purse.lookup fundsId = none

/-- An id that is gone was paid or freed, and both are final. -/
theorem Gone.extend {fundsId : Uuid} {before after : Purse} (hgone : Gone fundsId before)
    (hbefore : before.Sound) (hafter : after.Sound) (hextends : Extends before after) :
    Gone fundsId after := by
  obtain ⟨⟨sats, hgrant⟩, hnone⟩ := hgone
  refine ⟨⟨sats, hextends.granted _ hgrant⟩, ?_⟩
  by_cases hpaid : fundsId ∈ before.broadcasts.map Prod.fst
  · obtain ⟨⟨_, tx⟩, hbroadcast, rfl⟩ := List.mem_map.mp hpaid
    exact (hafter.paid _ tx (hextends.broadcasts _ hbroadcast)).1
  · by_cases hfreed : fundsId ∈ before.freed
    · exact (hafter.spent _ (hextends.freed _ hfreed)).1
    · have hfound := hbefore.kept fundsId sats hgrant hpaid hfreed
      rw [hnone] at hfound
      cases hfound

theorem Step.owns_of_owns (hround : Bitcoin.RoundTrip) (hconsistent : trader.Consistent)
    {next : Trader} (hstep : Step trader next) {slot : ℕ} {fundsId : Uuid} {sats : ℕ}
    (howns : (trader.agents slot).Owns fundsId sats) : (next.agents slot).Owns fundsId sats := by
  rcases hstep.change hround hconsistent with ⟨other, agent, hchange, heq⟩ | ⟨_, _, -, heq⟩
  · rw [heq]
    exact Agent.holds_update (hchange.keeps fundsId sats) howns
  · rw [heq]
    exact howns

theorem Extends.trans {first second third : Purse} (hfirst : Extends first second)
    (hsecond : Extends second third) : Extends first third :=
  ⟨fun grant h => hsecond.granted grant (hfirst.granted grant h),
    fun broadcast h => hsecond.broadcasts broadcast (hfirst.broadcasts broadcast h),
    fun fundsId h => hsecond.freed fundsId (hfirst.freed fundsId h)⟩

/-- Along a run, a trader stays consistent, its record grows, and an owner stays one. -/
theorem Consistent.steps (hround : Bitcoin.RoundTrip) (hconsistent : trader.Consistent)
    {later : Trader} (hsteps : Steps trader later) :
    later.Consistent ∧ Extends trader.purse later.purse ∧ ∀ slot fundsId sats,
      (trader.agents slot).Owns fundsId sats → (later.agents slot).Owns fundsId sats := by
  induction hsteps with
  | refl => exact ⟨hconsistent, .refl _, fun _ _ _ h => h⟩
  | tail _ hstep ih =>
      obtain ⟨hbefore, hextends, howns⟩ := ih
      refine ⟨hbefore.step hround hstep, hextends.trans (hstep.extends_purse hround hbefore), ?_⟩
      intro slot fundsId sats hown
      exact hstep.owns_of_owns hround hbefore (howns slot fundsId sats hown)

/-- An id that is gone stays gone. -/
theorem Consistent.steps_of_gone (hround : Bitcoin.RoundTrip) (hconsistent : trader.Consistent)
    {slot : ℕ} {fundsId : Uuid} {sats : ℕ} (howns : (trader.agents slot).Owns fundsId sats)
    (hgone : Gone fundsId trader.purse) {later : Trader} (hsteps : Steps trader later) :
    later.Consistent ∧ (later.agents slot).Owns fundsId sats ∧ Gone fundsId later.purse := by
  obtain ⟨hlater, hextends, hkeeps⟩ := hconsistent.steps hround hsteps
  exact ⟨hlater, hkeeps slot fundsId sats howns,
    hgone.extend hconsistent.sound hlater.sound hextends⟩

end Trader

end FatCrabTrading
