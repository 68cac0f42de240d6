import FatCrabTrading.Cooperation.Maker
import FatCrabTrading.Cooperation.Taker
import FatCrabTrading.Maker.Quiet
import FatCrabTrading.Sample
import FatCrabTrading.Taker.Quiet

/-! # What the user knows

An application sees of a trade what it is answered and what its listener is told. From these
alone it can keep a picture of the trade. What changes without its notice is crossed out until
it is told again: the state while a `TradeComplete` is under way, and whatever a message of the
peer changes when nobody listens.
-/

namespace FatCrabTrading

open Effect Program

/-- What is known is so. -/
def Agrees {α : Type} (known : Option α) (value : α) : Prop := ∀ told ∈ known, told = value

section Agrees

variable {α : Type} {known : Option α} {value : α}

@[simp] theorem agrees_none : Agrees none value := nofun

@[simp] theorem agrees_some {told : α} : Agrees (some told) value ↔ told = value := by
  simp [Agrees]

theorem agrees_append {known : Option (List α)} {values : List α} (hknown : Agrees known values)
    (added : α) : Agrees (known.map (· ++ [added])) (values ++ [added]) := by
  rintro _ htold
  obtain ⟨told, hmem, rfl⟩ := Option.map_eq_some_iff.mp htold
  rw [hknown told hmem]

end Agrees

section Picture

variable [Bitcoin]

/-! ## A maker -/

/-- What the user of a maker knows of it. -/
structure FatCrabMakerPicture where
  state : Option FatCrabMakerState
  offerEnvelopes : Option (List FatCrabOfferEnvelope)
  peerEnvelope : Option (Option FatCrabPeerEnvelope)

namespace FatCrabMakerPicture

def of (self : FatCrabMakerActor) : FatCrabMakerPicture :=
  ⟨some self.state, some self.offerEnvelopes, some self.storedPeerEnvelope⟩

/-- The picture after one more observation. -/
def seen (picture : FatCrabMakerPicture) :
    Entry FatCrabMakerActor MakerMsg tradeInterface → FatCrabMakerPicture
  | .called (.respond (.makerState (.ok state))) _ _ => { picture with state := some state }
  | .called (.respond (.offers envelopes)) _ _ => { picture with offerEnvelopes := some envelopes }
  | .called (.respond (.peerMsg envelope)) _ _ => { picture with peerEnvelope := some envelope }
  | .called (.notify _ (.maker (.offer state envelope))) _ _ =>
      { picture with
        state := some state
        offerEnvelopes := picture.offerEnvelopes.map (· ++ [envelope]) }
  | .called (.notify _ (.maker (.peer state envelope))) _ _ =>
      { picture with state := some state, peerEnvelope := some (some envelope) }
  | .received (.request .tradeComplete) _ => { picture with state := none }
  | .received (.notif (.ok (.peer _))) ⟨_, _, none⟩ =>
      { picture with state := none, peerEnvelope := none }
  | _ => picture

/-- Kept up from the first observation to the last. -/
def follow (picture : FatCrabMakerPicture) :
    History FatCrabMakerActor MakerMsg tradeInterface → FatCrabMakerPicture
  | [] => picture
  | entry :: past => (picture.follow past).seen entry

/-- All that is known is so. -/
structure Shows (picture : FatCrabMakerPicture) (maker : FatCrabMakerActor) : Prop where
  state : Agrees picture.state maker.state
  offerEnvelopes : Agrees picture.offerEnvelopes maker.offerEnvelopes
  peerEnvelope : Agrees picture.peerEnvelope maker.storedPeerEnvelope

variable {picture : FatCrabMakerPicture} {maker : FatCrabMakerActor}
  {buy : FatCrabMakerBuyActor} {sell : FatCrabMakerSellActor} {uuid : Uuid}
  {notifTx : Option NotifTx}

theorem shows_iff : picture.Shows maker ↔ Agrees picture.state maker.state ∧
    Agrees picture.offerEnvelopes maker.offerEnvelopes ∧
    Agrees picture.peerEnvelope maker.storedPeerEnvelope :=
  ⟨fun h => ⟨h.state, h.offerEnvelopes, h.peerEnvelope⟩, fun h => ⟨h.1, h.2.1, h.2.2⟩⟩

@[simp] theorem shows_notifTx : picture.Shows { maker with notifTx := notifTx } ↔
    picture.Shows maker := by
  simp only [shows_iff]
  rfl

@[simp] theorem shows_buy : picture.Shows ⟨.buy buy, uuid, notifTx⟩ ↔
    Agrees picture.state buy.data.state ∧
      Agrees picture.offerEnvelopes buy.data.offerEnvelopes ∧
      Agrees picture.peerEnvelope buy.data.peerEnvelope := shows_iff

@[simp] theorem shows_sell : picture.Shows ⟨.sell sell, uuid, notifTx⟩ ↔
    Agrees picture.state sell.data.state ∧
      Agrees picture.offerEnvelopes sell.data.offerEnvelopes ∧
      Agrees picture.peerEnvelope sell.data.peerEnvelope := shows_iff

theorem shows_of (self : FatCrabMakerActor) : (of self).Shows self :=
  ⟨agrees_some.mpr rfl, agrees_some.mpr rfl, agrees_some.mpr rfl⟩

end FatCrabMakerPicture

namespace FatCrabMakerActor

/-- A program that leaves the user with a true picture. -/
def KeepsPicture (picture : FatCrabMakerPicture) (program : Handler FatCrabMakerActor Unit)
    (history : History FatCrabMakerActor MakerMsg tradeInterface) (self : FatCrabMakerActor) :
    Prop :=
  program.Safe (fun _ _ => True) (fun _ _ => True)
    (fun history after _ => (picture.follow history).Shows after) history self

section Handlers

attribute [local simp] KeepsPicture FatCrabMakerPicture.follow FatCrabMakerPicture.seen setState
  forall_except

variable {picture : FatCrabMakerPicture}
  {history : History FatCrabMakerActor MakerMsg tradeInterface}
  {buy : FatCrabMakerBuyActor} {sell : FatCrabMakerSellActor} {uuid : Uuid}
  {notifTx : Option NotifTx} {self : FatCrabMakerActor}

theorem keepsPicture_postNewOrder (hshows : (picture.follow history).Shows self) :
    KeepsPicture picture postNewOrder history self := by
  obtain ⟨inner, uuid, notifTx⟩ := self
  cases inner with
  | buy buy =>
      obtain ⟨hstate, hoffers, hpeer⟩ := FatCrabMakerPicture.shows_buy.mp hshows
      simp [postNewOrder, hstate, hoffers, hpeer]
  | sell sell =>
      obtain ⟨hstate, hoffers, hpeer⟩ := FatCrabMakerPicture.shows_sell.mp hshows
      simp [postNewOrder, hstate, hoffers, hpeer]

theorem keepsPicture_cancelOrder (hshows : (picture.follow history).Shows self) :
    KeepsPicture picture (handleRequest .cancelOrder) history self := by
  obtain ⟨inner, uuid, notifTx⟩ := self
  cases inner with
  | buy buy =>
      obtain ⟨hstate, hoffers, hpeer⟩ := FatCrabMakerPicture.shows_buy.mp hshows
      cases hnow : buy.data.state <;> rw [hnow] at hstate <;>
        simp [handleRequest, FatCrabMakerBuyActor.cancelOrder, hnow, hstate, hoffers, hpeer]
  | sell sell =>
      obtain ⟨hstate, hoffers, hpeer⟩ := FatCrabMakerPicture.shows_sell.mp hshows
      cases hnow : sell.data.state <;> rw [hnow] at hstate <;>
        simp [handleRequest, FatCrabMakerSellActor.cancelOrder, hnow, hstate, hoffers, hpeer]

theorem keepsPicture_tradeResponse (hshows : (picture.follow history).Shows self)
    {tradeRspType : FatCrabTradeRspType} {envelope : FatCrabOfferEnvelope} :
    KeepsPicture picture (handleRequest (.tradeResponse tradeRspType envelope)) history self := by
  obtain ⟨inner, uuid, notifTx⟩ := self
  cases inner with
  | buy buy =>
      obtain ⟨-, hoffers, hpeer⟩ := FatCrabMakerPicture.shows_buy.mp hshows
      cases tradeRspType <;>
        simp [handleRequest, FatCrabMakerBuyActor.tradeResponse, hoffers, hpeer]
  | sell sell =>
      obtain ⟨-, hoffers, hpeer⟩ := FatCrabMakerPicture.shows_sell.mp hshows
      cases tradeRspType <;>
        simp [handleRequest, FatCrabMakerSellActor.tradeResponse, hoffers, hpeer]

theorem keepsPicture_releaseNotifyPeer (hshows : (picture.follow history).Shows self)
    {txid : Option String} :
    KeepsPicture picture (handleRequest (.releaseNotifyPeer txid)) history self := by
  obtain ⟨inner, uuid, notifTx⟩ := self
  cases inner with
  | buy buy =>
      obtain ⟨hstate, hoffers, hpeer⟩ := FatCrabMakerPicture.shows_buy.mp hshows
      cases haddr : buy.data.peerBtcAddr <;>
        simp [handleRequest, FatCrabMakerBuyActor.releaseNotifyPeer, haddr, hstate, hoffers, hpeer]
  | sell sell =>
      obtain ⟨hstate, hoffers, hpeer⟩ := FatCrabMakerPicture.shows_sell.mp hshows
      simp [handleRequest, FatCrabMakerSellActor.notifyPeer, hstate, hoffers, hpeer]

/-- Nothing is known of the state while the trade is completed, so a refusal is no surprise. -/
theorem keepsPicture_tradeComplete (hshows : (picture.follow history).Shows self)
    (hunknown : (picture.follow history).state = none) :
    KeepsPicture picture (handleRequest .tradeComplete) history self := by
  obtain ⟨inner, uuid, notifTx⟩ := self
  cases inner with
  | buy buy =>
      obtain ⟨-, hoffers, hpeer⟩ := FatCrabMakerPicture.shows_buy.mp hshows
      simp [handleRequest, FatCrabMakerBuyActor.tradeComplete, hunknown, hoffers, hpeer]
  | sell sell =>
      obtain ⟨-, hoffers, hpeer⟩ := FatCrabMakerPicture.shows_sell.mp hshows
      simp [handleRequest, FatCrabMakerSellActor.tradeComplete, hunknown, hoffers, hpeer]

/-- Who only asks is told what is stored. -/
theorem keepsPicture_quiet (hshows : (picture.follow history).Shows self)
    {request : FatCrabMakerRequest} (hquiet : request.quiet = true) :
    KeepsPicture picture (handleRequest request) history self := by
  obtain ⟨hstate, hoffers, hpeer⟩ := FatCrabMakerPicture.shows_iff.mp hshows
  cases request with
  | postNewOrder | cancelOrder | tradeResponse | releaseNotifyPeer | tradeComplete => cases hquiet
  | getState => simp [handleRequest, getState, FatCrabMakerPicture.shows_iff, hoffers, hpeer]
  | getOrderDetails => simp [handleRequest, getOrderDetails, hshows]
  | getPeerPubkey => simp [handleRequest, getPeerPubkey, hshows]
  | getPeerBtcTxid => simp [handleRequest, getPeerBtcTxid, hshows]
  | queryOffers =>
      simp [handleRequest, queryOffers, FatCrabMakerPicture.shows_iff, hstate, hpeer]
      rfl
  | queryPeerMsg =>
      simp [handleRequest, queryPeerMsg, FatCrabMakerPicture.shows_iff, hstate, hoffers]
      rfl
  | registerNotifTx tx => simp [handleRequest, registerNotifTx, setNotifTx, hshows]
  | unregisterNotifTx => simp [handleRequest, unregisterNotifTx, setNotifTx, hshows]
  | shutdown => simp [handleRequest, shutdown, hshows]
  | checkBtcTxConf =>
      obtain ⟨inner, uuid, notifTx⟩ := self
      cases inner with
      | buy buy => simp [handleRequest, FatCrabMakerBuyActor.checkBtcTxConfirmation, hshows]
      | sell sell =>
          cases htxid : sell.data.peerBtcTxid <;>
            simp [handleRequest, FatCrabMakerSellActor.checkBtcTxConfirmation, htxid, hshows]

theorem keepsPicture_handleRequest (hshows : (picture.follow history).Shows self)
    {request : FatCrabMakerRequest}
    (hunknown : request = .tradeComplete → (picture.follow history).state = none) :
    KeepsPicture picture (handleRequest request) history self := by
  by_cases hquiet : request.quiet = true
  · exact keepsPicture_quiet hshows hquiet
  cases request with
  | postNewOrder => exact keepsPicture_postNewOrder hshows
  | cancelOrder => exact keepsPicture_cancelOrder hshows
  | tradeResponse tradeRspType envelope => exact keepsPicture_tradeResponse hshows
  | releaseNotifyPeer txid => exact keepsPicture_releaseNotifyPeer hshows
  | tradeComplete => exact keepsPicture_tradeComplete hshows (hunknown rfl)
  | _ => exact absurd rfl hquiet

/-- An offer is stored only for a listener, and the listener is told. -/
theorem keepsPicture_handleOfferNotif (hshows : (picture.follow history).Shows self)
    (envelope : OfferEnvelope) : KeepsPicture picture (handleOfferNotif envelope) history self := by
  by_cases hexpected : self.state = .waitingForOffers ∨ self.state = .receivedOffer
  swap
  · simp [handleOfferNotif, handleOfferInUnexpectedState, hexpected, hshows]
  cases hvalid : FatCrabOffer.validateN3xbOffer envelope.offer with
  | error error =>
      simp [handleOfferNotif, handleOfferInUnexpectedState, hexpected, hvalid, hshows]
  | ok =>
      obtain ⟨inner, uuid, notifTx⟩ := self
      cases notifTx with
      | none => simp [handleOfferNotif, handleOfferInUnexpectedState, hexpected, hvalid, hshows]
      | some listener =>
          cases inner with
          | buy buy =>
              obtain ⟨-, hoffers, hpeer⟩ := FatCrabMakerPicture.shows_buy.mp hshows
              rw [state_buy] at hexpected
              simp [handleOfferNotif, handleOfferInUnexpectedState, recordOffer, hexpected, hvalid,
                agrees_append hoffers, hpeer]
          | sell sell =>
              obtain ⟨-, hoffers, hpeer⟩ := FatCrabMakerPicture.shows_sell.mp hshows
              rw [state_sell] at hexpected
              simp [handleOfferNotif, handleOfferInUnexpectedState, recordOffer, hexpected, hvalid,
                agrees_append hoffers, hpeer]

theorem keepsPicture_handlePeerNotif (hshows : (picture.follow history).Shows self)
    (hunheard : self.notifTx = none → (picture.follow history).state = none ∧
      (picture.follow history).peerEnvelope = none) (envelope : PeerEnvelope) :
    KeepsPicture picture (handlePeerNotif envelope) history self := by
  obtain ⟨inner, uuid, notifTx⟩ := self
  by_cases haccepted : state ⟨inner, uuid, notifTx⟩ = .acceptedOffer
  swap
  · simp [handlePeerNotif, haccepted, hshows]
  cases hmessage : envelope.message.asFatCrabPeerMessage with
  | none => simp [handlePeerNotif, haccepted, hmessage]
  | some message =>
      cases inner with
      | buy buy =>
          rw [state_buy] at haccepted
          obtain ⟨hstate, hoffers, hpeer⟩ := FatCrabMakerPicture.shows_buy.mp hshows
          rw [haccepted] at hstate
          cases notifTx with
          | none =>
              obtain ⟨hunknown, hmissing⟩ := hunheard rfl
              simp [handlePeerNotif, FatCrabMakerBuyActor.handlePeerNotif, peerNotifState,
                haccepted, hmessage, hunknown, hmissing, hoffers]
          | some listener =>
              simp [handlePeerNotif, FatCrabMakerBuyActor.handlePeerNotif, peerNotifState,
                haccepted, hmessage, hstate, hoffers, hpeer]
      | sell sell =>
          rw [state_sell] at haccepted
          obtain ⟨hstate, hoffers, hpeer⟩ := FatCrabMakerPicture.shows_sell.mp hshows
          rw [haccepted] at hstate
          cases hparse : Bitcoin.txidFromStr message.txid with
          | none =>
              simp [handlePeerNotif, FatCrabMakerSellActor.handlePeerNotif, haccepted, hmessage,
                hparse, hstate, hoffers, hpeer]
          | some txid =>
              cases notifTx with
              | none =>
                  obtain ⟨hunknown, hmissing⟩ := hunheard rfl
                  simp [handlePeerNotif, FatCrabMakerSellActor.handlePeerNotif, peerNotifState,
                    haccepted, hmessage, hparse, hunknown, hmissing, hoffers]
              | some listener =>
                  simp [handlePeerNotif, FatCrabMakerSellActor.handlePeerNotif, peerNotifState,
                    haccepted, hmessage, hparse, hoffers]

/-- What a message crosses out beforehand leaves the rest true. -/
theorem shows_received (hshows : (picture.follow history).Shows self) (message : MakerMsg) :
    (picture.follow (.received message self :: history)).Shows self := by
  obtain ⟨inner, uuid, notifTx⟩ := self
  obtain ⟨hstate, hoffers, hpeer⟩ := FatCrabMakerPicture.shows_iff.mp hshows
  match message with
  | .notif (.ok (.peer _)) =>
      cases notifTx <;> simp [FatCrabMakerPicture.shows_iff, hstate, hoffers, hpeer]
  | .notif (.ok (.offer _)) | .notif (.error _) => exact hshows
  | .request request =>
      cases request with
      | tradeComplete => simp [FatCrabMakerPicture.shows_iff, hoffers, hpeer]
      | _ => exact hshows

theorem shows_restore (hshows : (picture.follow history).Shows self) :
    (picture.follow history).Shows self.restore := by
  obtain ⟨inner, uuid, notifTx⟩ := self
  cases inner <;> exact ⟨hshows.state, hshows.offerEnvelopes, hshows.peerEnvelope⟩

theorem picture_start (hshows : (picture.follow history).Shows self) :
    start.Safe (fun _ _ => True) (fun _ _ => True)
      (fun history after _ => (picture.follow history).Shows after) history self := by
  simp [start, hshows]

/-- Every handler and every restart leaves the user with a true picture. -/
theorem picture_invariant (picture : FatCrabMakerPicture) :
    ActorInvariant code (fun _ _ => True) (fun _ _ => True)
      (fun history self => (picture.follow history).Shows self) where
  receive := by
    intro message history self hshows _
    refine ⟨trivial, ?_⟩
    have hreceived := shows_received hshows message
    match message with
    | .request request =>
        rw [code, safe_handle_request]
        apply keepsPicture_handleRequest hreceived
        rintro rfl
        rfl
    | .notif (.error error) => exact (safe_handle_notif).mpr hreceived
    | .notif (.ok (.offer envelope)) =>
        rw [code, safe_handle_notif]
        exact keepsPicture_handleOfferNotif hreceived envelope
    | .notif (.ok (.peer envelope)) =>
        rw [code, safe_handle_notif]
        refine keepsPicture_handlePeerNotif hreceived ?_ envelope
        obtain ⟨inner, uuid, notifTx⟩ := self
        rintro rfl
        exact ⟨rfl, rfl⟩
  restart := by
    intro history self hshows
    exact ⟨trivial, picture_start (shows_restore hshows)⟩

end Handlers

end FatCrabMakerActor

/-! ## A taker -/

/-- What the user of a taker knows of it. -/
structure FatCrabTakerPicture where
  state : Option FatCrabTakerState
  tradeRspEnvelope : Option (Option FatCrabTradeRspEnvelope)
  peerEnvelope : Option (Option FatCrabPeerEnvelope)

namespace FatCrabTakerActor

/-- A Sell taker does not store the response. -/
def KnowsTradeRsp (known : Option (Option FatCrabTradeRspEnvelope)) (self : FatCrabTakerActor) :
    Prop :=
  match self.inner with
  | .buy actor => Agrees known actor.data.tradeRspEnvelope
  | .sell _ => True

end FatCrabTakerActor

namespace FatCrabTakerPicture

def of (self : FatCrabTakerActor) : FatCrabTakerPicture :=
  ⟨some self.state, self.buy?.map (·.data.tradeRspEnvelope), some self.storedPeerEnvelope⟩

/-- The picture after one more observation. A Sell taker answers a response on its own, a Buy
taker only for a listener. -/
def seen (picture : FatCrabTakerPicture) :
    Entry FatCrabTakerActor TakerMsg tradeInterface → FatCrabTakerPicture
  | .called (.respond (.takerState (.ok state))) _ _ => { picture with state := some state }
  | .called (.respond (.tradeRsp (.ok envelope))) _ _ =>
      { picture with tradeRspEnvelope := some envelope }
  | .called (.respond (.peerMsg envelope)) _ _ => { picture with peerEnvelope := some envelope }
  | .called (.notify _ (.taker (.tradeRsp state envelope))) _ _ =>
      { picture with state := some state, tradeRspEnvelope := some (some envelope) }
  | .called (.notify _ (.taker (.peer state envelope))) _ _ =>
      { picture with state := some state, peerEnvelope := some (some envelope) }
  | .received (.request .tradeComplete) _ => { picture with state := none }
  | .received (.notif (.ok (.tradeRsp _))) ⟨.sell ⟨_, _, _, none⟩, _, _⟩ =>
      { picture with state := none }
  | .received (.notif (.ok (.peer _))) ⟨_, _, none⟩ =>
      { picture with state := none, peerEnvelope := none }
  | _ => picture

/-- Kept up from the first observation to the last. -/
def follow (picture : FatCrabTakerPicture) :
    History FatCrabTakerActor TakerMsg tradeInterface → FatCrabTakerPicture
  | [] => picture
  | entry :: past => (picture.follow past).seen entry

/-- All that is known is so. -/
structure Shows (picture : FatCrabTakerPicture) (taker : FatCrabTakerActor) : Prop where
  state : Agrees picture.state taker.state
  tradeRspEnvelope : taker.KnowsTradeRsp picture.tradeRspEnvelope
  peerEnvelope : Agrees picture.peerEnvelope taker.storedPeerEnvelope

variable {picture : FatCrabTakerPicture} {taker : FatCrabTakerActor}
  {buy : FatCrabTakerBuyActor} {sell : FatCrabTakerSellActor} {uuid : Uuid}
  {notifTx : Option NotifTx}

theorem shows_iff : picture.Shows taker ↔ Agrees picture.state taker.state ∧
    taker.KnowsTradeRsp picture.tradeRspEnvelope ∧
    Agrees picture.peerEnvelope taker.storedPeerEnvelope :=
  ⟨fun h => ⟨h.state, h.tradeRspEnvelope, h.peerEnvelope⟩, fun h => ⟨h.1, h.2.1, h.2.2⟩⟩

@[simp] theorem shows_buy : picture.Shows ⟨.buy buy, uuid, notifTx⟩ ↔
    Agrees picture.state buy.data.state ∧
      Agrees picture.tradeRspEnvelope buy.data.tradeRspEnvelope ∧
      Agrees picture.peerEnvelope buy.data.peerEnvelope := shows_iff

@[simp] theorem shows_sell : picture.Shows ⟨.sell sell, uuid, notifTx⟩ ↔
    Agrees picture.state sell.data.state ∧
      Agrees picture.peerEnvelope sell.data.peerEnvelope := by
  simp only [shows_iff, FatCrabTakerActor.KnowsTradeRsp, true_and]
  rfl

@[simp] theorem shows_withNotifTx : picture.Shows (taker.withNotifTx notifTx) ↔
    picture.Shows taker := by
  obtain ⟨inner, uuid, heard⟩ := taker
  cases inner <;> simp [FatCrabTakerActor.withNotifTx]

theorem shows_of (taker : FatCrabTakerActor) : (of taker).Shows taker := by
  obtain ⟨inner, uuid, notifTx⟩ := taker
  cases inner <;> simp [of, FatCrabTakerActor.buy?, FatCrabTakerActor.storedPeerEnvelope]

end FatCrabTakerPicture

namespace FatCrabTakerActor

/-- A program that leaves the user with a true picture. -/
def KeepsPicture (picture : FatCrabTakerPicture) (program : Handler FatCrabTakerActor Unit)
    (history : History FatCrabTakerActor TakerMsg tradeInterface) (self : FatCrabTakerActor) :
    Prop :=
  program.Safe (fun _ _ => True) (fun _ _ => True)
    (fun history after _ => (picture.follow history).Shows after) history self

section Handlers

attribute [local simp] KeepsPicture FatCrabTakerPicture.follow FatCrabTakerPicture.seen setState
  forall_except

variable {picture : FatCrabTakerPicture}
  {history : History FatCrabTakerActor TakerMsg tradeInterface}
  {buy : FatCrabTakerBuyActor} {sell : FatCrabTakerSellActor} {uuid : Uuid}
  {notifTx : Option NotifTx} {self : FatCrabTakerActor}

theorem keepsPicture_takeOrder (hshows : (picture.follow history).Shows self) :
    KeepsPicture picture (handleRequest .takeOrder) history self := by
  obtain ⟨inner, uuid, notifTx⟩ := self
  cases inner with
  | buy buy =>
      obtain ⟨hstate, hrsp, hpeer⟩ := FatCrabTakerPicture.shows_buy.mp hshows
      simp [handleRequest, takeOrder, hstate, hrsp, hpeer]
  | sell sell =>
      obtain ⟨hstate, hpeer⟩ := FatCrabTakerPicture.shows_sell.mp hshows
      simp [handleRequest, takeOrder, hstate, hpeer]

theorem keepsPicture_releaseNotifyPeer (hshows : (picture.follow history).Shows self)
    {txid : Option String} :
    KeepsPicture picture (handleRequest (.releaseNotifyPeer txid)) history self := by
  obtain ⟨inner, uuid, notifTx⟩ := self
  cases inner with
  | buy buy =>
      obtain ⟨hstate, hrsp, hpeer⟩ := FatCrabTakerPicture.shows_buy.mp hshows
      simp [handleRequest, FatCrabTakerBuyActor.notifyPeer, hstate, hrsp, hpeer]
  | sell sell =>
      obtain ⟨hstate, hpeer⟩ := FatCrabTakerPicture.shows_sell.mp hshows
      cases haddr : sell.data.peerBtcAddr <;>
        simp [handleRequest, FatCrabTakerSellActor.releaseNotifyPeer,
          FatCrabTakerSellActor.releaseBtcNotifyPeer, haddr, hstate, hpeer]

/-- Nothing is known of the state while the trade is completed, so a refusal is no surprise. -/
theorem keepsPicture_tradeComplete (hshows : (picture.follow history).Shows self)
    (hunknown : (picture.follow history).state = none) :
    KeepsPicture picture (handleRequest .tradeComplete) history self := by
  obtain ⟨inner, uuid, notifTx⟩ := self
  cases inner with
  | buy buy =>
      obtain ⟨-, hrsp, hpeer⟩ := FatCrabTakerPicture.shows_buy.mp hshows
      simp [handleRequest, FatCrabTakerBuyActor.tradeComplete, hunknown, hrsp, hpeer]
  | sell sell =>
      obtain ⟨-, hpeer⟩ := FatCrabTakerPicture.shows_sell.mp hshows
      simp [handleRequest, FatCrabTakerSellActor.tradeComplete, hunknown, hpeer]

/-- Who only asks is told what is stored. -/
theorem keepsPicture_quiet (hshows : (picture.follow history).Shows self)
    {request : FatCrabTakerRequest} (hquiet : request.quiet = true) :
    KeepsPicture picture (handleRequest request) history self := by
  obtain ⟨hstate, hrsp, hpeer⟩ := FatCrabTakerPicture.shows_iff.mp hshows
  cases request with
  | takeOrder | releaseNotifyPeer | tradeComplete => cases hquiet
  | getState => simp [handleRequest, getState, FatCrabTakerPicture.shows_iff, hrsp, hpeer]
  | getOrderDetails => simp [handleRequest, getOrderDetails, hshows]
  | getPeerBtcTxid => simp [handleRequest, getPeerBtcTxid, hshows]
  | queryPeerMsg =>
      simp [handleRequest, queryPeerMsg, FatCrabTakerPicture.shows_iff, hstate, hrsp]
      rfl
  | registerNotifTx tx => simp [handleRequest, registerNotifTx, setNotifTx, hshows]
  | unregisterNotifTx => simp [handleRequest, unregisterNotifTx, setNotifTx, hshows]
  | shutdown => simp [handleRequest, shutdown, hshows]
  | queryTradeRsp =>
      obtain ⟨inner, uuid, notifTx⟩ := self
      cases inner with
      | buy buy =>
          obtain ⟨hstate, -, hpeer⟩ := FatCrabTakerPicture.shows_buy.mp hshows
          simp [handleRequest, FatCrabTakerBuyActor.queryTradeRsp, hstate, hpeer]
      | sell sell => simp [handleRequest, FatCrabTakerSellActor.queryTradeRsp, hshows]
  | checkBtcTxConf =>
      obtain ⟨inner, uuid, notifTx⟩ := self
      cases inner with
      | sell sell => simp [handleRequest, FatCrabTakerSellActor.checkBtcTxConfirmation, hshows]
      | buy buy =>
          cases htxid : buy.data.peerBtcTxid <;>
            simp [handleRequest, FatCrabTakerBuyActor.checkBtcTxConfirmation, htxid, hshows]

theorem keepsPicture_handleRequest (hshows : (picture.follow history).Shows self)
    {request : FatCrabTakerRequest}
    (hunknown : request = .tradeComplete → (picture.follow history).state = none) :
    KeepsPicture picture (handleRequest request) history self := by
  by_cases hquiet : request.quiet = true
  · exact keepsPicture_quiet hshows hquiet
  cases request with
  | takeOrder => exact keepsPicture_takeOrder hshows
  | releaseNotifyPeer txid => exact keepsPicture_releaseNotifyPeer hshows
  | tradeComplete => exact keepsPicture_tradeComplete hshows (hunknown rfl)
  | _ => exact absurd rfl hquiet

/-- A response is stored only for a listener, and the listener is told. -/
theorem keepsPicture_handleTradeRspNotif_buy
    (hshows : (picture.follow history).Shows ⟨.buy buy, uuid, notifTx⟩)
    (envelope : TradeResponseEnvelope) :
    KeepsPicture picture (handleTradeRspNotif envelope) history ⟨.buy buy, uuid, notifTx⟩ := by
  by_cases hsubmitted : buy.data.state = .submittedOffer
  swap
  · simp [handleTradeRspNotif, hsubmitted, hshows]
  obtain ⟨-, -, hpeer⟩ := FatCrabTakerPicture.shows_buy.mp hshows
  cases hrsp : FatCrabTradeRsp.fromN3xbTradeRsp envelope.tradeRsp with
  | none => simp [handleTradeRspNotif, hsubmitted, hrsp]
  | some tradeRsp =>
      cases hlistener : buy.notifTx with
      | none =>
          simp [handleTradeRspNotif, FatCrabTakerBuyActor.handleTradeRspNotif, hsubmitted, hrsp,
            hlistener, hshows]
      | some listener =>
          simp [handleTradeRspNotif, FatCrabTakerBuyActor.handleTradeRspNotif, hsubmitted, hrsp,
            hlistener, hpeer]

/-- A Sell taker tells its listener where the payment of an acceptance left it. -/
theorem keepsPicture_handleTradeRspNotif_sell
    (hshows : (picture.follow history).Shows ⟨.sell sell, uuid, notifTx⟩)
    (hunheard : sell.notifTx = none → (picture.follow history).state = none)
    (envelope : TradeResponseEnvelope) :
    KeepsPicture picture (handleTradeRspNotif envelope) history ⟨.sell sell, uuid, notifTx⟩ := by
  by_cases hsubmitted : sell.data.state = .submittedOffer
  swap
  · simp [handleTradeRspNotif, hsubmitted, hshows]
  obtain ⟨-, hpeer⟩ := FatCrabTakerPicture.shows_sell.mp hshows
  cases hrsp : FatCrabTradeRsp.fromN3xbTradeRsp envelope.tradeRsp with
  | none => simp [handleTradeRspNotif, hsubmitted, hrsp]
  | some tradeRsp =>
      cases hlistener : sell.notifTx with
      | none =>
          have hunknown := hunheard hlistener
          cases tradeRsp <;>
            simp [handleTradeRspNotif, FatCrabTakerSellActor.handleTradeRspNotif,
              FatCrabTakerSellActor.releaseBtcNotifyPeer, FatCrabTakerSellActor.notifyTradeRsp,
              hsubmitted, hrsp, hlistener, hunknown, hpeer]
      | some listener =>
          cases tradeRsp <;>
            simp [handleTradeRspNotif, FatCrabTakerSellActor.handleTradeRspNotif,
              FatCrabTakerSellActor.releaseBtcNotifyPeer, FatCrabTakerSellActor.notifyTradeRsp,
              hsubmitted, hrsp, hlistener, hpeer]

theorem keepsPicture_handlePeerNotif (hshows : (picture.follow history).Shows self)
    (hunheard : self.notifTx = none → (picture.follow history).state = none ∧
      (picture.follow history).peerEnvelope = none) (envelope : PeerEnvelope) :
    KeepsPicture picture (handlePeerNotif envelope) history self := by
  obtain ⟨inner, uuid, notifTx⟩ := self
  by_cases hnotified : state ⟨inner, uuid, notifTx⟩ = .notifiedOutbound
  swap
  · simp [handlePeerNotif, hnotified, hshows]
  cases hmessage : envelope.message.asFatCrabPeerMessage with
  | none => simp [handlePeerNotif, hnotified, hmessage]
  | some message =>
      cases inner with
      | buy buy =>
          rw [state_buy] at hnotified
          obtain ⟨-, hrsp, -⟩ := FatCrabTakerPicture.shows_buy.mp hshows
          cases notifTx with
          | none =>
              obtain ⟨hunknown, hmissing⟩ := hunheard rfl
              cases hparse : Bitcoin.txidFromStr message.txid <;>
                simp [handlePeerNotif, FatCrabTakerBuyActor.handlePeerNotif, hnotified, hmessage,
                  hparse, hunknown, hmissing, hrsp]
          | some listener =>
              cases hparse : Bitcoin.txidFromStr message.txid <;>
                simp [handlePeerNotif, FatCrabTakerBuyActor.handlePeerNotif, hnotified, hmessage,
                  hparse, hrsp]
      | sell sell =>
          rw [state_sell] at hnotified
          cases notifTx with
          | none =>
              obtain ⟨hunknown, hmissing⟩ := hunheard rfl
              simp [handlePeerNotif, hnotified, hmessage, hunknown, hmissing]
          | some listener => simp [handlePeerNotif, hnotified, hmessage]

/-- What a message crosses out beforehand leaves the rest true. -/
theorem shows_received (hshows : (picture.follow history).Shows self) (message : TakerMsg) :
    (picture.follow (.received message self :: history)).Shows self := by
  obtain ⟨inner, uuid, notifTx⟩ := self
  obtain ⟨hstate, hrsp, hpeer⟩ := FatCrabTakerPicture.shows_iff.mp hshows
  match message with
  | .notif (.ok (.tradeRsp _)) =>
      cases inner with
      | buy buy => exact hshows
      | sell sell =>
          obtain ⟨uuid', data, network, listener⟩ := sell
          cases listener with
          | none => simp [FatCrabTakerPicture.shows_iff, hrsp, hpeer]
          | some listener => exact hshows
  | .notif (.ok (.peer _)) =>
      cases notifTx <;> simp [FatCrabTakerPicture.shows_iff, hstate, hrsp, hpeer]
  | .notif (.error _) => exact hshows
  | .request request =>
      cases request with
      | tradeComplete => simp [FatCrabTakerPicture.shows_iff, hrsp, hpeer]
      | _ => exact hshows

theorem shows_restore (hshows : (picture.follow history).Shows self) :
    (picture.follow history).Shows self.restore := by
  obtain ⟨inner, uuid, notifTx⟩ := self
  cases inner <;> exact ⟨hshows.state, hshows.tradeRspEnvelope, hshows.peerEnvelope⟩

theorem picture_start (hshows : (picture.follow history).Shows self) :
    start.Safe (fun _ _ => True) (fun _ _ => True)
      (fun history after _ => (picture.follow history).Shows after) history self := by
  simp [start, hshows]

/-- Every handler and every restart leaves the user with a true picture. -/
theorem picture_invariant (picture : FatCrabTakerPicture) :
    ActorInvariant code (fun _ _ => True) (fun _ _ => True)
      (fun history self => (picture.follow history).Shows self) where
  receive := by
    intro message history self hshows _
    refine ⟨trivial, ?_⟩
    have hreceived := shows_received hshows message
    match message with
    | .request request =>
        rw [code, safe_handle_request]
        apply keepsPicture_handleRequest hreceived
        rintro rfl
        rfl
    | .notif (.error error) => exact (safe_handle_notif).mpr hreceived
    | .notif (.ok (.tradeRsp envelope)) =>
        rw [code, safe_handle_notif]
        obtain ⟨inner, uuid, notifTx⟩ := self
        cases inner with
        | buy buy => exact keepsPicture_handleTradeRspNotif_buy hreceived envelope
        | sell sell =>
            refine keepsPicture_handleTradeRspNotif_sell hreceived ?_ envelope
            obtain ⟨uuid', data, network, listener⟩ := sell
            rintro rfl
            rfl
    | .notif (.ok (.peer envelope)) =>
        rw [code, safe_handle_notif]
        refine keepsPicture_handlePeerNotif hreceived ?_ envelope
        obtain ⟨inner, uuid, notifTx⟩ := self
        rintro rfl
        exact ⟨rfl, rfl⟩
  restart := by
    intro history self hshows
    exact ⟨trivial, picture_start (shows_restore hshows)⟩

end Handlers

end FatCrabTakerActor

/-- In every run of a maker or a taker, whatever it is asked, told and answered and however
often it is shut down and restored: whenever no handler runs, what its user knows from the
answers and notifications is what is stored. -/
theorem pictures_true :
    (∀ (maker : FatCrabMakerActor) (actor : Actor FatCrabMakerActor MakerMsg tradeInterface),
      Actor.Steps FatCrabMakerActor.code (.launch FatCrabMakerActor.code maker) actor →
        actor.task = .idle ∨ actor.task = .ended →
          ((FatCrabMakerPicture.of maker).follow actor.history).Shows actor.store) ∧
    ∀ (taker : FatCrabTakerActor) (actor : Actor FatCrabTakerActor TakerMsg tradeInterface),
      Actor.Steps FatCrabTakerActor.code (.launch FatCrabTakerActor.code taker) actor →
        actor.task = .idle ∨ actor.task = .ended →
          ((FatCrabTakerPicture.of taker).follow actor.history).Shows actor.store := by
  refine ⟨fun maker actor hrun hrests => ?_, fun taker actor hrun hrests => ?_⟩
  · have hstart := FatCrabMakerActor.picture_start
      (show ((FatCrabMakerPicture.of maker).follow []).Shows maker from
        FatCrabMakerPicture.shows_of maker)
    exact hrun.rests (FatCrabMakerActor.picture_invariant _) trivial hstart hrests
  · have hstart := FatCrabTakerActor.picture_start
      (show ((FatCrabTakerPicture.of taker).follow []).Shows taker from
        FatCrabTakerPicture.shows_of taker)
    exact hrun.rests (FatCrabTakerActor.picture_invariant _) trivial hstart hrests

end Picture

section Sample

open Sample

/-- An offer is heard and accepted, and while nobody listens the peer sends its address. Then
the user asks for the state. -/
theorem pictures_true_unheard :
    let maker := (Actor.opened FatCrabMakerActor.code obliging buyMaker).deliverAll
      FatCrabMakerActor.code
      [(obliging, .request .postNewOrder), (obliging, .request (.registerNotifTx ⟨0⟩)),
        (obliging, .notif (.ok (.offer offer.envelope))), (obliging, .request .unregisterNotifTx),
        (obliging, .request (.tradeResponse .accept offer)),
        (obliging, .notif (.ok (.peer peerEnvelope))), (obliging, .request .getState)]
    let taker := (Actor.opened FatCrabTakerActor.code obliging sellTaker).deliverAll
      FatCrabTakerActor.code [(obliging, .request .takeOrder)]
    (((FatCrabMakerPicture.of buyMaker).follow maker.history).state,
        ((FatCrabMakerPicture.of buyMaker).follow maker.history).offerEnvelopes,
        ((FatCrabMakerPicture.of buyMaker).follow maker.history).peerEnvelope) =
          (some .inboundFcNotified, some [offer], none) ∧
      ((FatCrabMakerPicture.of buyMaker).follow maker.history).Shows maker.store ∧
      ((FatCrabTakerPicture.of sellTaker).follow taker.history).state = some .submittedOffer ∧
      ((FatCrabTakerPicture.of sellTaker).follow taker.history).Shows taker.store := by
  intro maker taker
  have hmaker : maker.task = .idle := by decide +kernel
  have htaker : taker.task = .idle := by decide +kernel
  exact ⟨by decide +kernel,
    pictures_true.1 _ _ (Actor.steps_opened_deliverAll _ _ _) (.inl hmaker), by decide +kernel,
    pictures_true.2 _ _ (Actor.steps_opened_deliverAll _ _ _) (.inl htaker)⟩

end Sample

end FatCrabTrading
