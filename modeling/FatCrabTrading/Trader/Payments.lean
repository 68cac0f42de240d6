import FatCrabTrading.Sample
import FatCrabTrading.Trader.Ledger
import FatCrabTrading.Trader.Run

/-! # Each trade pays at most once

A trade that pays BTC causes at most one broadcast, of exactly the sats that were allocated
when it was created, to the address that its counterparty supplied last. It does not matter
how often it is released, taken, accepted again or restored.
-/

namespace FatCrabTrading

open Effect

section Payments

variable [Bitcoin]

/-- A trade that pays BTC: its funds, and which address the counterparty had supplied when
a payment was answered by a transaction id. -/
structure Payer where
  fundsId : Uuid
  sats : ℕ
  supplied : Txid → Address → Prop

/-- The Buy maker or Sell taker in a slot. A Buy maker was supplied with the receive address
of the last peer message that it accepted, a Sell taker with the one of the last acceptance
that it processed. -/
def Agent.payer : Agent → Option Payer
  | .maker actor => match actor.store.inner with
    | .buy buy => some {
        fundsId := buy.data.btcFundsId
        sats := buy.data.order.sats
        supplied txid address := ∃ later store past, actor.history = later ++
          .called (.purse (.sendFunds buy.data.btcFundsId address)) (some (.ok txid)) store ::
            past ∧ FatCrabMakerActor.lastPeerAddress buy.network past = some address }
    | .sell _ => none
  | .taker actor => match actor.store.inner with
    | .buy _ => none
    | .sell sell => some {
        fundsId := sell.data.btcFundsId
        sats := sell.data.orderEnvelope.order.sats
        supplied txid address := ∃ later store past, actor.history = later ++
          .called (.purse (.sendFunds sell.data.btcFundsId address)) (some (.ok txid)) store ::
            past ∧ FatCrabTakerActor.lastAcceptAddress sell.network past = some address }
  | _ => none

/-- What a trade has done on the chain: at most one broadcast, of the sats that were
allocated to it, to a supplied address that is valid on the purse's network. -/
structure PaysOnce (purse : Purse) (payer : Payer) : Prop where
  allocated : ∀ sats, (payer.fundsId, sats) ∈ purse.granted ↔ sats = payer.sats
  once : (purse.broadcasts.filter fun broadcast => broadcast.1 = payer.fundsId).length ≤ 1
  agreed : ∀ tx, (payer.fundsId, tx) ∈ purse.broadcasts → ∃ address,
    tx.recipients = [(Bitcoin.scriptPubkey address, payer.sats)] ∧
      Bitcoin.isValidForNetwork address purse.actor.data.network = true ∧
      payer.supplied tx.txid address

theorem FatCrabMakerActor.valid_of_lastPeerAddress {network : Network} {address : Address}
    {history : History FatCrabMakerActor MakerMsg tradeInterface}
    (hlast : lastPeerAddress network history = some address) :
    Bitcoin.isValidForNetwork address network = true := by
  obtain ⟨entry, -, hentry⟩ := mem_of_lastPeerAddress hlast
  obtain ⟨envelope, message, maker, -, -, haddress⟩ := received_of_peerAddress hentry
  exact (addressOn_eq_some.mp haddress).2

theorem FatCrabTakerActor.valid_of_lastAcceptAddress {network : Network} {address : Address}
    {history : History FatCrabTakerActor TakerMsg tradeInterface}
    (hlast : lastAcceptAddress network history = some address) :
    Bitcoin.isValidForNetwork address network = true := by
  obtain ⟨text, -, hon⟩ := Option.bind_eq_some_iff.mp hlast
  exact (addressOn_eq_some.mp hon).2

omit [Bitcoin] in
/-- The entries of one id in a list without repetition. -/
theorem length_filter_le_one {α β : Type} [DecidableEq α] {entries : List (α × β)}
    (hnodup : (entries.map Prod.fst).Nodup) (key : α) :
    (entries.filter fun entry => entry.1 = key).length ≤ 1 := by
  have hcount : (entries.filter fun entry => entry.1 = key).length =
      (entries.map Prod.fst).count key := by
    rw [List.count_eq_countP, List.countP_map, List.countP_eq_length_filter]
    rfl
  rw [hcount]
  exact List.nodup_iff_count_le_one.mp hnodup key

namespace Trader

variable {trader : Trader}

/-- A payer owns its funds. -/
theorem owns_of_payer {agent : Agent} {payer : Payer} (hpayer : agent.payer = some payer) :
    agent.Owns payer.fundsId payer.sats := by
  cases agent with
  | vacant => cases hpayer
  | wallet actor => cases hpayer
  | maker actor =>
      obtain ⟨⟨inner, uuid, notifTx⟩, task, history⟩ := actor
      cases inner with
      | buy buy =>
          cases hpayer
          exact ⟨rfl, rfl⟩
      | sell sell => cases hpayer
  | taker actor =>
      obtain ⟨⟨inner, uuid, notifTx⟩, task, history⟩ := actor
      cases inner with
      | buy buy => cases hpayer
      | sell sell =>
          cases hpayer
          exact ⟨rfl, rfl⟩

/-- What a payer paid, it paid to an address supplied before. -/
theorem supplied_of_made {agent : Agent} {payer : Payer} {network : Network}
    (hkept : agent.Kept network) (hpayer : agent.payer = some payer) {address : Address}
    {txid : Txid}
    (hmade : agent.Made (.purse (.sendFunds payer.fundsId address)) (some (.ok txid))) :
    Bitcoin.isValidForNetwork address network = true ∧ payer.supplied txid address := by
  cases agent with
  | vacant => cases hpayer
  | wallet actor => cases hpayer
  | maker actor =>
      obtain ⟨⟨inner, uuid, notifTx⟩, task, history⟩ := actor
      cases inner with
      | sell sell => cases hpayer
      | buy buy =>
          cases hpayer
          obtain ⟨store, hentry⟩ := hmade
          obtain ⟨later, past, hhistory⟩ := List.append_of_mem hentry
          rcases hkept with ⟨terms, rfl, ⟨haudited, hterms, -⟩, -⟩ | ⟨terms, -, ⟨-, hterms⟩, -⟩
          · obtain rfl := hterms
            dsimp only at hhistory haudited
            rw [hhistory] at haudited
            obtain ⟨-, hlast⟩ := haudited.split
            -- at the payment, the address was the last that a peer message supplied
            exact ⟨FatCrabMakerActor.valid_of_lastPeerAddress hlast, later, store, past, hhistory,
              hlast⟩
          · exact hterms.elim
  | taker actor =>
      obtain ⟨⟨inner, uuid, notifTx⟩, task, history⟩ := actor
      cases inner with
      | buy buy => cases hpayer
      | sell sell =>
          cases hpayer
          obtain ⟨store, hentry⟩ := hmade
          obtain ⟨later, past, hhistory⟩ := List.append_of_mem hentry
          rcases hkept with ⟨terms, -, ⟨-, hterms⟩, -⟩ | ⟨terms, rfl, ⟨haudited, hterms⟩, -⟩
          · exact hterms.elim
          · obtain rfl := hterms
            dsimp only at hhistory haudited
            rw [hhistory] at haudited
            obtain ⟨-, hlast⟩ := haudited.split
            -- at the payment, the address was that of the last acceptance
            exact ⟨FatCrabTakerActor.valid_of_lastAcceptAddress hlast, later, store, past,
              hhistory, hlast⟩

theorem Consistent.paysOnce (hconsistent : trader.Consistent) {slot : ℕ} {payer : Payer}
    (hpayer : (trader.agents slot).payer = some payer) : PaysOnce trader.purse payer := by
  have howns := owns_of_payer hpayer
  have hgrant := hconsistent.granted slot _ _ howns
  have hsound := hconsistent.sound
  refine ⟨fun sats => ⟨fun hother => ?_, fun heq => heq ▸ hgrant⟩, ?_, ?_⟩
  · exact congrArg Prod.snd (List.inj_on_of_nodup_map hsound.grantedOnce hother hgrant rfl)
  · exact length_filter_le_one hsound.paidOnce payer.fundsId
  · intro tx hbroadcast
    obtain ⟨other, address, sats, hmade, hpaid⟩ := hconsistent.caused _ tx hbroadcast
    -- whoever was answered so owns the id, and it has one owner only
    obtain ⟨sats', howns'⟩ := (hconsistent.kept other).owns_of_sent hmade
    obtain rfl := hconsistent.apart other slot _ _ _ howns' howns
    obtain ⟨script, hrecipients⟩ := hconsistent.recipients howns hbroadcast
    obtain ⟨hvalid, hsupplied⟩ := supplied_of_made (hconsistent.kept other) hpayer hmade
    refine ⟨address, ?_, hvalid, hsupplied⟩
    rw [hpaid] at hrecipients
    cases hrecipients
    exact hpaid

/-- In every run without a crash, each trade that pays BTC pays at most once, the sats that
were allocated to it, to the address that its counterparty supplied. -/
theorem pays_once (hround : Bitcoin.RoundTrip) (hreachable : trader.Reachable) {slot : ℕ}
    {payer : Payer} (hpayer : (trader.agents slot).payer = some payer) :
    PaysOnce trader.purse payer :=
  (hreachable.consistent hround).paysOnce hpayer

end Trader

end Payments

section Paid

open scoped Sample

/-- Surroundings in which nothing fails. -/
def Sample.surroundings : Surroundings := ⟨fun _ => .ok (), fun _ => true, true⟩

/-- A Buy maker accepts an offer, hears of the peer's address, and is released twice. -/
def Sample.paid : Trader :=
  (Trader.new true .regtest 100).play [
    (.newMaker 0 (Sample.order .buy) (some "npub1maker"), Sample.wallet ⟨1⟩, Sample.surroundings),
    (.resume 0, Sample.wallet ⟨2⟩, Sample.surroundings),
    (.tellMaker 0 (.request (.tradeResponse .accept Sample.offer)), Sample.wallet ⟨2⟩,
      Sample.surroundings),
    (.tellMaker 0 (.notif (.ok (.peer Sample.peerEnvelope))), Sample.wallet ⟨2⟩,
      Sample.surroundings),
    (.tellMaker 0 (.request (.releaseNotifyPeer none)), Sample.wallet ⟨2⟩, Sample.surroundings),
    (.tellMaker 0 (.request (.releaseNotifyPeer none)), Sample.wallet ⟨2⟩, Sample.surroundings)]

theorem Trader.pays_once_paid :
    Sample.paid.purse.broadcasts.map Prod.fst = [⟨1⟩] ∧ ∃ payer,
      (Sample.paid.agents 0).payer = some payer ∧ payer.fundsId = ⟨1⟩ ∧ payer.sats = 50 ∧
        PaysOnce Sample.paid.purse payer := by
  have hreachable : Sample.paid.Reachable := (reachable_new true .regtest 100).play _
  obtain ⟨payer, hpayer⟩ : ∃ payer, (Sample.paid.agents 0).payer = some payer :=
    Option.isSome_iff_exists.mp (by decide +kernel)
  have hfunds : (Sample.paid.agents 0).payer.map Payer.fundsId = some ⟨1⟩ := by decide +kernel
  have hsats : (Sample.paid.agents 0).payer.map Payer.sats = some 50 := by decide +kernel
  rw [hpayer] at hfunds hsats
  exact ⟨by decide +kernel, payer, hpayer, Option.some.inj hfunds, Option.some.inj hsats,
    pays_once Sample.roundTrip hreachable hpayer⟩

end Paid

end FatCrabTrading
