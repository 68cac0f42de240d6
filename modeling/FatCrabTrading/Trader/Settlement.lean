import FatCrabTrading.Trader.Notices

/-! # The settlement of a trade

Seen from the chain, a trade between two parties that run this code comes to one payment or to
none. The payer's purse pays nobody but the other party, in full, and then holds nothing for
the trade any more. The two never disagree about which transaction it was.
-/

namespace FatCrabTrading

open Effect

section Settlement

variable [Bitcoin]

/-- What the payer's purse has done for a trade: nothing yet, or one payment in full to the
payee's address, which used the reservation up. `heard` is the transaction id the payee holds. -/
structure Purse.Remits (purse : Purse) (fundsId : Uuid) (sats : ℕ) (payee : String)
    (heard : Option Txid) : Prop where
  once : (purse.broadcasts.filter fun broadcast => broadcast.1 = fundsId).length ≤ 1
  full : ∀ tx, (fundsId, tx) ∈ purse.broadcasts → ∃ address,
    Bitcoin.addressToString address = payee ∧
      Bitcoin.isValidForNetwork address purse.actor.data.network = true ∧
      tx.recipients = [(Bitcoin.scriptPubkey address, sats)]
  usedUp : ∀ tx, (fundsId, tx) ∈ purse.broadcasts → purse.lookup fundsId = none
  agreed : ∀ txid, heard = some txid → ∃ tx, (fundsId, tx) ∈ purse.broadcasts ∧ tx.txid = txid
  only : ∀ txid tx, heard = some txid → (fundsId, tx) ∈ purse.broadcasts → tx.txid = txid

namespace Agent

variable {agent : Agent}

theorem payer_of_buyMaker {maker : FatCrabMakerBuyActor} (hmaker : agent.buyMaker = some maker) :
    ∃ payer, agent.payer = some payer ∧ payer.fundsId = maker.data.btcFundsId ∧
      payer.sats = maker.data.order.sats ∧
      ∀ txid address, payer.supplied txid address → agent.HeardAddress address := by
  unfold buyMaker at hmaker
  split at hmaker
  next found uuid notifTx task history =>
    cases hmaker
    refine ⟨_, rfl, rfl, rfl, ?_⟩
    rintro txid address ⟨later, store, past, hhistory, hlast⟩
    obtain ⟨entry, hentry, haddress⟩ := FatCrabMakerActor.mem_of_lastPeerAddress hlast
    refine heardAddress_of_mem ?_ haddress
    rw [hhistory]
    exact List.mem_append_right later (List.mem_cons_of_mem _ hentry)
  next => cases hmaker

theorem acceptedAddress_of_last {actor : Actor FatCrabTakerActor TakerMsg tradeInterface}
    {past : History FatCrabTakerActor TakerMsg tradeInterface}
    (hpast : ∀ entry ∈ past, entry ∈ actor.history) {network : Network} {address : Address}
    (hlast : FatCrabTakerActor.lastAcceptAddress network past = some address) :
    (Agent.taker actor).AcceptedAddress address := by
  obtain ⟨text, htext, hon⟩ := Option.bind_eq_some_iff.mp hlast
  obtain ⟨envelope, store, hentry, hrsp⟩ := FatCrabTakerActor.received_of_lastAcceptText htext
  obtain ⟨haccepted, hspecifics⟩ := FatCrabTradeRsp.specifics_of_accept hrsp
  refine ⟨envelope.tradeRsp, text, network,
    List.mem_filterMap.mpr ⟨_, hpast _ hentry, ?_⟩, hspecifics, hon⟩
  rw [FatCrabTakerActor.heardMessage, if_pos haccepted]

theorem payer_of_sellTaker {taker : FatCrabTakerSellActor}
    (htaker : agent.sellTaker = some taker) :
    ∃ payer, agent.payer = some payer ∧ payer.fundsId = taker.data.btcFundsId ∧
      payer.sats = taker.data.orderEnvelope.order.sats ∧
      ∀ txid address, payer.supplied txid address → agent.AcceptedAddress address := by
  unfold sellTaker at htaker
  split at htaker
  next found uuid notifTx task history =>
    cases htaker
    refine ⟨_, rfl, rfl, rfl, ?_⟩
    rintro txid address ⟨later, store, past, hhistory, hlast⟩
    refine acceptedAddress_of_last (fun entry hentry => ?_) hlast
    rw [hhistory]
    exact List.mem_append_right later (List.mem_cons_of_mem _ hentry)
  next => cases htaker

end Agent

/-- A payer all of whose supplied addresses are the payee's, and of whose payment the payee
heard if of any. -/
theorem Trader.Consistent.remits {trader : Trader} (hconsistent : trader.Consistent) {slot : ℕ}
    {payer : Payer} (hpayer : (trader.agents slot).payer = some payer) {payee : String}
    (hsupplied : ∀ txid address, payer.supplied txid address →
      Bitcoin.addressToString address = payee) {heard : Option Txid}
    (hheard : ∀ txid, heard = some txid →
      trader.purse.Pays payer.fundsId payer.sats payee txid) :
    trader.purse.Remits payer.fundsId payer.sats payee heard := by
  have hpays := hconsistent.paysOnce hpayer
  have hsound := hconsistent.sound
  refine ⟨hpays.once, fun tx hbroadcast => ?_, fun tx hbroadcast => ?_, fun txid htxid => ?_,
    fun txid tx htxid hbroadcast => ?_⟩
  · obtain ⟨address, hrecipients, hvalid, haddress⟩ := hpays.agreed tx hbroadcast
    exact ⟨address, hsupplied _ _ haddress, hvalid, hrecipients⟩
  · exact (hsound.paid _ _ hbroadcast).1
  · obtain ⟨-, address, tx, -, hbroadcast, heq, -⟩ := hheard txid htxid
    exact ⟨tx, hbroadcast, heq⟩
  · obtain ⟨-, address, other, -, hother, heq, -⟩ := hheard txid htxid
    -- an id is paid once, so the transaction heard of is the one broadcast
    cases List.inj_on_of_nodup_map hsound.paidOnce hbroadcast hother rfl
    exact heq

namespace Counterparties

variable {makerSlot takerSlot : ℕ} {parties : Counterparties}

/-- Whatever their users ask for and however their messages are delayed, reordered, lost or
repeated: the payer of a trade pays at most once, in full, and only to the other party's own
address. Then the reservation is used up, and the transaction that the payee holds is that one. -/
theorem settlement_agreed (hround : Bitcoin.RoundTrip)
    (hreachable : parties.Reachable makerSlot takerSlot) :
    (∀ maker taker, (parties.maker.agents makerSlot).buyMaker = some maker →
      (parties.taker.agents takerSlot).buyTaker = some taker →
      parties.maker.purse.Remits maker.data.btcFundsId maker.data.order.sats taker.data.btcRxAddr
        taker.data.peerBtcTxid) ∧
    ∀ maker taker, (parties.maker.agents makerSlot).sellMaker = some maker →
      (parties.taker.agents takerSlot).sellTaker = some taker →
      parties.taker.purse.Remits taker.data.btcFundsId taker.data.orderEnvelope.order.sats
        maker.data.btcRxAddr maker.data.peerBtcTxid := by
  have hhonest := hreachable.honest hround
  constructor
  · intro maker taker hmaker htaker
    obtain ⟨payer, hpayer, hfunds, hsats, hsupplied⟩ := Agent.payer_of_buyMaker hmaker
    rw [← hfunds, ← hsats]
    refine hhonest.maker.remits hpayer (fun txid address haddress => ?_) fun txid htxid => ?_
    · exact hhonest.address_of_buyTaker hround htaker (hsupplied _ _ haddress)
    · rw [hfunds, hsats]
      exact hhonest.buyTaker_paid hround hmaker htaker htxid
  · intro maker taker hmaker htaker
    obtain ⟨payer, hpayer, hfunds, hsats, hsupplied⟩ := Agent.payer_of_sellTaker htaker
    rw [← hfunds, ← hsats]
    refine hhonest.taker.remits hpayer (fun txid address haddress => ?_) fun txid htxid => ?_
    · exact hhonest.address_of_sellMaker hround hmaker (hsupplied _ _ haddress)
    · rw [hfunds, hsats]
      exact hhonest.sellMaker_paid hround hmaker htaker htxid

end Counterparties

end Settlement

section Settled

open scoped Sample

/-- The maker has paid, and the taker was told. -/
theorem Counterparties.settlement_agreed_told : ∃ maker taker,
    (Sample.paying.agents 0).buyMaker = some maker ∧
    (Sample.told.agents 0).buyTaker = some taker ∧
    taker.data.peerBtcTxid = some SampleTxid.first ∧
    Sample.paying.purse.Remits maker.data.btcFundsId maker.data.order.sats taker.data.btcRxAddr
      taker.data.peerBtcTxid := by
  obtain ⟨maker, hmaker⟩ : ∃ maker, (Sample.paying.agents 0).buyMaker = some maker :=
    Option.isSome_iff_exists.mp (by decide +kernel)
  obtain ⟨taker, htaker⟩ : ∃ taker, (Sample.told.agents 0).buyTaker = some taker :=
    Option.isSome_iff_exists.mp (by decide +kernel)
  have htxid : (Sample.told.agents 0).buyTaker.map (·.data.peerBtcTxid) =
      some (some SampleTxid.first) := by decide +kernel
  rw [htaker] at htxid
  exact ⟨maker, taker, hmaker, htaker, Option.some.inj htxid,
    (settlement_agreed Sample.roundTrip Sample.reachable_told).1 maker taker hmaker htaker⟩

end Settled

end FatCrabTrading
