import FatCrabTrading.Maker.Quiet
import FatCrabTrading.Sample

/-! # A maker's data match its state

The optional fields of a maker are read by handlers that trust its state. Nothing in the
types links the two: fields are set before the state that promises them, and are never
cleared, also when a request takes the state back.
-/

namespace FatCrabTrading

open Effect Program

section Coherence

variable [Bitcoin]

/-- What the state of a Buy maker promises of its data. -/
structure FatCrabMakerBuyData.Coherent (network : Network) (data : FatCrabMakerBuyData) : Prop where
  accepted : data.state = .acceptedOffer → data.peerPubkey ≠ none
  inbound : data.state = .inboundFcNotified ∨ data.state = .notifiedOutbound →
    data.peerPubkey ≠ none ∧ data.peerEnvelope ≠ none ∧ data.peerBtcAddr ≠ none
  address : ∀ text, data.peerBtcAddr = some text → ∃ envelope address,
    data.peerEnvelope = some envelope ∧
      Bitcoin.addressFromStr envelope.message.receiveAddress = some address ∧
      text = Bitcoin.addressToString address ∧ parseAddress text network = some address
  addressed : data.peerBtcAddr ≠ none → data.peerPubkey ≠ none
  role : data.state ≠ .inboundBtcNotified
  offers : data.state = .receivedOffer → data.offerEnvelopes ≠ []

/-- What the state of a Sell maker promises of its data. -/
structure FatCrabMakerSellData.Coherent (data : FatCrabMakerSellData) : Prop where
  accepted : data.state = .acceptedOffer → data.peerPubkey ≠ none
  inbound : data.state = .inboundBtcNotified →
    data.peerPubkey ≠ none ∧ data.peerEnvelope ≠ none ∧ data.peerBtcTxid ≠ none
  txid : ∀ txid, data.peerBtcTxid = some txid → ∃ envelope,
    data.peerEnvelope = some envelope ∧ Bitcoin.txidFromStr envelope.message.txid = some txid
  role : data.state ≠ .inboundFcNotified
  offers : data.state = .receivedOffer → data.offerEnvelopes ≠ []

namespace FatCrabMakerBuyData

variable {network : Network} {data : FatCrabMakerBuyData}

theorem coherent_new (order : FatCrabOrder) (fatcrabRxAddr : String) (btcFundsId : Uuid) :
    (new order fatcrabRxAddr btcFundsId).Coherent network := by
  constructor <;> simp [new]

/-- A state that promises nothing. -/
theorem Coherent.plain (hcoherent : data.Coherent network) (state : FatCrabMakerState)
    (hplain : state = .waitingForOffers ∨ state = .tradeCompleted ∨ state = .tradeCancelled) :
    Coherent network { data with state := state } := by
  constructor
  case address => exact hcoherent.address
  case addressed => exact hcoherent.addressed
  all_goals rcases hplain with rfl | rfl | rfl <;> simp

theorem Coherent.accept (hcoherent : data.Coherent network) (pubkey : String) :
    Coherent network { data with peerPubkey := some pubkey, state := .acceptedOffer } where
  accepted := by simp
  inbound := by simp
  address := hcoherent.address
  addressed := by simp
  role := by simp
  offers := by simp

theorem Coherent.offer (hcoherent : data.Coherent network) (envelope : FatCrabOfferEnvelope) :
    Coherent network { data with
      offerEnvelopes := data.offerEnvelopes ++ [envelope], state := .receivedOffer } where
  accepted := by simp
  inbound := by simp
  address := hcoherent.address
  addressed := hcoherent.addressed
  role := by simp
  offers := by simp

/-- A release needs the address, and with it came everything else. -/
theorem Coherent.release (hcoherent : data.Coherent network) {text : String}
    (htext : data.peerBtcAddr = some text) :
    Coherent network { data with state := .notifiedOutbound } where
  accepted := by simp
  inbound := by
    intro _
    obtain ⟨envelope, address, henvelope, -⟩ := hcoherent.address text htext
    refine ⟨hcoherent.addressed ?_, ?_, ?_⟩
    · simp [htext]
    · simp [henvelope]
    · simp [htext]
  address := hcoherent.address
  addressed := hcoherent.addressed
  role := by simp
  offers := by simp

theorem Coherent.peer (hround : Bitcoin.RoundTrip) (hcoherent : data.Coherent network)
    (hstate : data.state = .acceptedOffer) {envelope : FatCrabPeerEnvelope} {address : Address}
    (hparse : Bitcoin.addressFromStr envelope.message.receiveAddress = some address)
    (hvalid : Bitcoin.isValidForNetwork address network = true) :
    Coherent network { data with
      peerBtcAddr := some (Bitcoin.addressToString address), peerEnvelope := some envelope,
      state := .inboundFcNotified } where
  accepted := by simp
  inbound := by simpa using hcoherent.accepted hstate
  address := by
    rintro _ ⟨⟩
    refine ⟨envelope, address, rfl, hparse, rfl, ?_⟩
    rw [parseAddress_eq]
    exact addressOn_toString hround hvalid
  addressed := fun _ => hcoherent.accepted hstate
  role := by simp
  offers := by simp

end FatCrabMakerBuyData

namespace FatCrabMakerSellData

variable {data : FatCrabMakerSellData}

theorem coherent_new (order : FatCrabOrder) (btcRxAddr : Address) :
    (new order btcRxAddr).Coherent := by
  constructor <;> simp [new]

/-- A state that promises nothing; it needs nothing to tell the peer of its payment. -/
theorem Coherent.plain (hcoherent : data.Coherent) (state : FatCrabMakerState)
    (hplain : state = .waitingForOffers ∨ state = .notifiedOutbound ∨ state = .tradeCompleted ∨
      state = .tradeCancelled) :
    Coherent { data with state := state } := by
  constructor
  case txid => exact hcoherent.txid
  all_goals rcases hplain with rfl | rfl | rfl | rfl <;> simp

theorem Coherent.accept (hcoherent : data.Coherent) (pubkey : String) :
    Coherent { data with peerPubkey := some pubkey, state := .acceptedOffer } where
  accepted := by simp
  inbound := by simp
  txid := hcoherent.txid
  role := by simp
  offers := by simp

theorem Coherent.offer (hcoherent : data.Coherent) (envelope : FatCrabOfferEnvelope) :
    Coherent { data with
      offerEnvelopes := data.offerEnvelopes ++ [envelope], state := .receivedOffer } where
  accepted := by simp
  inbound := by simp
  txid := hcoherent.txid
  role := by simp
  offers := by simp

theorem Coherent.peer (hcoherent : data.Coherent) (hstate : data.state = .acceptedOffer)
    {envelope : FatCrabPeerEnvelope} {txid : Txid}
    (hparse : Bitcoin.txidFromStr envelope.message.txid = some txid) :
    Coherent { data with
      peerBtcTxid := some txid, peerEnvelope := some envelope,
      state := .inboundBtcNotified } where
  accepted := by simp
  inbound := by simpa using hcoherent.accepted hstate
  txid := by
    rintro _ ⟨⟩
    exact ⟨envelope, rfl, hparse⟩
  role := by simp
  offers := by simp

end FatCrabMakerSellData

namespace FatCrabMakerActor

/-- The data of a maker match its state. -/
def Coherent (self : FatCrabMakerActor) : Prop :=
  match self.inner with
  | .buy buy => buy.data.Coherent buy.network
  | .sell sell => sell.data.Coherent

@[simp] theorem coherent_buy (buy : FatCrabMakerBuyActor) (uuid : Uuid)
    (notifTx : Option NotifTx) :
    Coherent ⟨.buy buy, uuid, notifTx⟩ ↔ buy.data.Coherent buy.network := Iff.rfl

@[simp] theorem coherent_sell (sell : FatCrabMakerSellActor) (uuid : Uuid)
    (notifTx : Option NotifTx) :
    Coherent ⟨.sell sell, uuid, notifTx⟩ ↔ sell.data.Coherent := Iff.rfl

/-- The data are those of a maker that was just created. -/
def Created (self : FatCrabMakerActor) : Prop :=
  match self.inner with
  | .buy buy => ∃ order fatcrabRxAddr btcFundsId, buy.data = .new order fatcrabRxAddr btcFundsId
  | .sell sell => ∃ order btcRxAddr, sell.data = .new order btcRxAddr

theorem Created.coherent {self : FatCrabMakerActor} (hcreated : self.Created) :
    self.Coherent := by
  obtain ⟨inner, uuid, notifTx⟩ := self
  cases inner with
  | buy buy =>
      obtain ⟨order, fatcrabRxAddr, btcFundsId, hdata⟩ := hcreated
      rw [coherent_buy, hdata]
      exact FatCrabMakerBuyData.coherent_new order fatcrabRxAddr btcFundsId
  | sell sell =>
      obtain ⟨order, btcRxAddr, hdata⟩ := hcreated
      rw [coherent_sell, hdata]
      exact FatCrabMakerSellData.coherent_new order btcRxAddr

/-- A program that ends with data that match the state. -/
def KeepsCoherent (program : Handler FatCrabMakerActor Unit)
    (history : History FatCrabMakerActor MakerMsg tradeInterface) (self : FatCrabMakerActor) :
    Prop :=
  program.Safe (fun _ _ => True) (fun _ _ => True) (fun _ after _ => after.Coherent) history self

section Handlers

attribute [local simp] KeepsCoherent setState

variable {history : History FatCrabMakerActor MakerMsg tradeInterface}
  {buy : FatCrabMakerBuyActor} {sell : FatCrabMakerSellActor} {uuid : Uuid}
  {notifTx : Option NotifTx} {self : FatCrabMakerActor}

theorem keepsCoherent_postNewOrder (hcoherent : self.Coherent) :
    KeepsCoherent postNewOrder history self := by
  obtain ⟨inner, uuid, notifTx⟩ := self
  cases inner with
  | buy buy =>
      rw [coherent_buy] at hcoherent
      simp [postNewOrder, forall_except, hcoherent, hcoherent.plain]
  | sell sell =>
      rw [coherent_sell] at hcoherent
      simp [postNewOrder, forall_except, hcoherent, hcoherent.plain]

theorem keepsCoherent_cancelOrder_buy (hcoherent : buy.data.Coherent buy.network) :
    KeepsCoherent (focus buy? putBuy FatCrabMakerBuyActor.cancelOrder) history
      ⟨.buy buy, uuid, notifTx⟩ := by
  cases hstate : buy.data.state <;>
    simp [FatCrabMakerBuyActor.cancelOrder, hstate, forall_except, hcoherent, hcoherent.plain]

theorem keepsCoherent_cancelOrder_sell (hcoherent : sell.data.Coherent) :
    KeepsCoherent (focus sell? putSell FatCrabMakerSellActor.cancelOrder) history
      ⟨.sell sell, uuid, notifTx⟩ := by
  cases hstate : sell.data.state <;>
    simp [FatCrabMakerSellActor.cancelOrder, hstate, forall_except, hcoherent, hcoherent.plain]

theorem keepsCoherent_tradeResponse_buy (hcoherent : buy.data.Coherent buy.network)
    {tradeRspType : FatCrabTradeRspType} {envelope : FatCrabOfferEnvelope} :
    KeepsCoherent
      (focus buy? putBuy (FatCrabMakerBuyActor.tradeResponse tradeRspType envelope)) history
      ⟨.buy buy, uuid, notifTx⟩ := by
  cases tradeRspType <;>
    simp [FatCrabMakerBuyActor.tradeResponse, hcoherent, hcoherent.accept]

theorem keepsCoherent_tradeResponse_sell (hcoherent : sell.data.Coherent)
    {tradeRspType : FatCrabTradeRspType} {envelope : FatCrabOfferEnvelope} :
    KeepsCoherent
      (focus sell? putSell (FatCrabMakerSellActor.tradeResponse tradeRspType envelope)) history
      ⟨.sell sell, uuid, notifTx⟩ := by
  cases tradeRspType <;>
    simp [FatCrabMakerSellActor.tradeResponse, hcoherent, hcoherent.accept]

theorem keepsCoherent_releaseNotifyPeer (hcoherent : buy.data.Coherent buy.network) :
    KeepsCoherent (focus buy? putBuy FatCrabMakerBuyActor.releaseNotifyPeer) history
      ⟨.buy buy, uuid, notifTx⟩ := by
  cases haddr : buy.data.peerBtcAddr with
  | none => simp [FatCrabMakerBuyActor.releaseNotifyPeer, haddr, hcoherent]
  | some text =>
      have hreleased := hcoherent.release haddr
      rw [haddr] at hreleased
      simp [FatCrabMakerBuyActor.releaseNotifyPeer, haddr, forall_except, hcoherent, hreleased]

theorem keepsCoherent_notifyPeer (hcoherent : sell.data.Coherent) {txid : Option String} :
    KeepsCoherent (focus sell? putSell do
        let txid ← Program.unwrap txid
        FatCrabMakerSellActor.notifyPeer txid) history ⟨.sell sell, uuid, notifTx⟩ := by
  simp [FatCrabMakerSellActor.notifyPeer, forall_except, hcoherent, hcoherent.plain]

theorem keepsCoherent_tradeComplete_buy (hcoherent : buy.data.Coherent buy.network) :
    KeepsCoherent (focus buy? putBuy FatCrabMakerBuyActor.tradeComplete) history
      ⟨.buy buy, uuid, notifTx⟩ := by
  simp [FatCrabMakerBuyActor.tradeComplete, forall_except, hcoherent.plain]

theorem keepsCoherent_tradeComplete_sell (hcoherent : sell.data.Coherent) :
    KeepsCoherent (focus sell? putSell FatCrabMakerSellActor.tradeComplete) history
      ⟨.sell sell, uuid, notifTx⟩ := by
  simp [FatCrabMakerSellActor.tradeComplete, forall_except, hcoherent.plain]

/-- An offer is stored before the state tells of it. -/
theorem keepsCoherent_handleOfferNotif (hcoherent : self.Coherent) {envelope : OfferEnvelope} :
    KeepsCoherent (handleOfferNotif envelope) history self := by
  obtain ⟨inner, uuid, notifTx⟩ := self
  by_cases hstate : state ⟨inner, uuid, notifTx⟩ = .waitingForOffers ∨
      state ⟨inner, uuid, notifTx⟩ = .receivedOffer
  swap
  · simp [handleOfferNotif, handleOfferInUnexpectedState, hstate, hcoherent]
  cases hvalid : FatCrabOffer.validateN3xbOffer envelope.offer with
  | error error =>
      simp [handleOfferNotif, handleOfferInUnexpectedState, hstate, hvalid, hcoherent]
  | ok =>
      cases inner with
      | buy buy =>
          rw [coherent_buy] at hcoherent
          simp only [state_buy] at hstate
          cases notifTx <;>
            simp [handleOfferNotif, handleOfferInUnexpectedState, recordOffer, hstate, hvalid,
              hcoherent, hcoherent.offer]
      | sell sell =>
          rw [coherent_sell] at hcoherent
          simp only [state_sell] at hstate
          cases notifTx <;>
            simp [handleOfferNotif, handleOfferInUnexpectedState, recordOffer, hstate, hvalid,
              hcoherent, hcoherent.offer]

/-- A message that is rejected halfway has written nothing. -/
theorem keepsCoherent_handlePeerNotif_buy (hround : Bitcoin.RoundTrip)
    (hcoherent : buy.data.Coherent buy.network) {envelope : PeerEnvelope} :
    KeepsCoherent (handlePeerNotif envelope) history ⟨.buy buy, uuid, notifTx⟩ := by
  by_cases hstate : buy.data.state = .acceptedOffer
  swap
  · simp [handlePeerNotif, hstate, hcoherent]
  cases hmessage : envelope.message.asFatCrabPeerMessage with
  | none => simp [handlePeerNotif, hstate, hmessage]
  | some message =>
      cases hparse : Bitcoin.addressFromStr message.receiveAddress with
      | none =>
          simp [handlePeerNotif, FatCrabMakerBuyActor.handlePeerNotif, hstate, hmessage, hparse]
      | some address =>
          cases hvalid : Bitcoin.isValidForNetwork address buy.network with
          | false =>
              simp [handlePeerNotif, FatCrabMakerBuyActor.handlePeerNotif, hstate, hmessage,
                hparse, hvalid, hcoherent]
          | true =>
              have hafter := @FatCrabMakerBuyData.Coherent.peer _ _ _ hround hcoherent hstate
                ⟨message, envelope⟩ address hparse hvalid
              cases notifTx <;>
                simp [handlePeerNotif, FatCrabMakerBuyActor.handlePeerNotif, peerNotifState,
                  hstate, hmessage, hparse, hvalid, hafter]

theorem keepsCoherent_handlePeerNotif_sell (hcoherent : sell.data.Coherent)
    {envelope : PeerEnvelope} :
    KeepsCoherent (handlePeerNotif envelope) history ⟨.sell sell, uuid, notifTx⟩ := by
  by_cases hstate : sell.data.state = .acceptedOffer
  swap
  · simp [handlePeerNotif, hstate, hcoherent]
  cases hmessage : envelope.message.asFatCrabPeerMessage with
  | none => simp [handlePeerNotif, hstate, hmessage]
  | some message =>
      cases hparse : Bitcoin.txidFromStr message.txid with
      | none =>
          simp [handlePeerNotif, FatCrabMakerSellActor.handlePeerNotif, hstate, hmessage, hparse,
            hcoherent]
      | some txid =>
          have hafter := @FatCrabMakerSellData.Coherent.peer _ _ hcoherent hstate
            ⟨message, envelope⟩ txid hparse
          cases notifTx <;>
            simp [handlePeerNotif, FatCrabMakerSellActor.handlePeerNotif, peerNotifState,
              hstate, hmessage, hparse, hafter]

theorem keepsCoherent_quiet (hcoherent : self.Coherent) {request : FatCrabMakerRequest}
    (hquiet : request.quiet = true) : KeepsCoherent (handleRequest request) history self := by
  refine (only_quiet hquiet).safe
    (fun _ (after : FatCrabMakerActor) (_ : after.Coherent) => trivial)
    (fun _ _ _ hafter => hafter) ?_ (fun _ _ _ _ hafter _ => hafter) hcoherent
  rintro history before after hbefore ⟨hinner, -⟩
  unfold Coherent
  rw [hinner]
  exact hbefore

theorem keepsCoherent_handleRequest (hcoherent : self.Coherent) {request : FatCrabMakerRequest} :
    KeepsCoherent (handleRequest request) history self := by
  by_cases hquiet : request.quiet = true
  · exact keepsCoherent_quiet hcoherent hquiet
  obtain ⟨inner, uuid, notifTx⟩ := self
  cases inner with
  | buy buy =>
      cases request with
      | postNewOrder => exact keepsCoherent_postNewOrder hcoherent
      | cancelOrder => exact keepsCoherent_cancelOrder_buy hcoherent
      | tradeResponse tradeRspType envelope => exact keepsCoherent_tradeResponse_buy hcoherent
      | releaseNotifyPeer txid => exact keepsCoherent_releaseNotifyPeer hcoherent
      | tradeComplete => exact keepsCoherent_tradeComplete_buy hcoherent
      | _ => exact absurd rfl hquiet
  | sell sell =>
      cases request with
      | postNewOrder => exact keepsCoherent_postNewOrder hcoherent
      | cancelOrder => exact keepsCoherent_cancelOrder_sell hcoherent
      | tradeResponse tradeRspType envelope => exact keepsCoherent_tradeResponse_sell hcoherent
      | releaseNotifyPeer txid => exact keepsCoherent_notifyPeer hcoherent
      | tradeComplete => exact keepsCoherent_tradeComplete_sell hcoherent
      | _ => exact absurd rfl hquiet

theorem keepsCoherent_handleNotif (hround : Bitcoin.RoundTrip) (hcoherent : self.Coherent)
    {result : Except N3xbError MakerNotif} :
    KeepsCoherent (handleNotif result) history self := by
  cases result with
  | error error => exact hcoherent
  | ok notif =>
      cases notif with
      | offer envelope => exact keepsCoherent_handleOfferNotif hcoherent
      | peer envelope =>
          obtain ⟨inner, uuid, notifTx⟩ := self
          cases inner with
          | buy buy => exact keepsCoherent_handlePeerNotif_buy hround hcoherent
          | sell sell => exact keepsCoherent_handlePeerNotif_sell hcoherent

theorem coherent_restore (hcoherent : self.Coherent) : self.restore.Coherent := by
  obtain ⟨inner, uuid, notifTx⟩ := self
  cases inner with
  | buy buy => exact hcoherent
  | sell sell => exact hcoherent

theorem coherent_start (hcoherent : self.Coherent) :
    start.Safe (fun _ _ => True) (fun _ _ => True) (fun _ after _ => after.Coherent) history
      self := by
  simp [start, hcoherent]

/-- Every handler and every restart leaves data that match the state. -/
theorem coherent_invariant (hround : Bitcoin.RoundTrip) :
    ActorInvariant code (fun _ _ => True) (fun _ _ => True)
      (fun _ self => self.Coherent) where
  receive := by
    intro message history self hcoherent _
    refine ⟨trivial, ?_⟩
    cases message with
    | request request =>
        rw [code, safe_handle_request]
        exact keepsCoherent_handleRequest hcoherent
    | notif result =>
        rw [code, safe_handle_notif]
        exact keepsCoherent_handleNotif hround hcoherent
  restart := by
    intro history self hcoherent
    exact ⟨trivial, coherent_start (coherent_restore hcoherent)⟩

end Handlers

/-- In every run of a new maker, with any messages, answers and restarts, the data match the
state whenever no handler runs. -/
theorem data_match_state (hround : Bitcoin.RoundTrip) {maker : FatCrabMakerActor}
    (hcreated : maker.Created) {actor : Actor FatCrabMakerActor MakerMsg tradeInterface}
    (hrun : Actor.Steps code (.launch code maker) actor)
    (hbetween : actor.task = .idle ∨ actor.task = .ended) : actor.store.Coherent := by
  have hstart : (Actor.launch code maker).Holds (fun _ _ => True) (fun _ _ => True)
      (fun _ self => self.Coherent) := ⟨trivial, coherent_start hcreated.coherent⟩
  have hholds :=
    (Actor.Steps.holds (coherent_invariant hround) hrun (History.always_true _) hstart).2
  rcases hbetween with htask | htask
  · rw [htask] at hholds
    exact hholds
  · rw [htask] at hholds
    exact hholds

end FatCrabMakerActor

end Coherence

section Sample

open Sample

namespace FatCrabMakerActor

/-- Bob's offer arrives, is accepted, and he sends his address. -/
theorem data_match_state_of_paid :
    let actor := (Actor.opened code obliging buyMaker).deliverAll code
      [(obliging, .request .postNewOrder), (obliging, .request (.registerNotifTx ⟨0⟩)),
        (obliging, .notif (.ok (.offer offer.envelope))),
        (obliging, .request (.tradeResponse .accept offer)),
        (obliging, .notif (.ok (.peer peerEnvelope))),
        (obliging, .request (.releaseNotifyPeer none))]
    actor.store.state = .notifiedOutbound ∧ actor.store.Coherent := by
  intro actor
  have hrun : Actor.Steps code (.launch code buyMaker) actor :=
    Actor.steps_opened_deliverAll _ _ _
  have hcreated : buyMaker.Created := ⟨_, _, _, rfl⟩
  have hidle : actor.task = .idle := by decide +kernel
  exact ⟨by decide +kernel, data_match_state roundTrip hcreated hrun (.inl hidle)⟩

end FatCrabMakerActor

end Sample

end FatCrabTrading
