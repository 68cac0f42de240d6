import FatCrabTrading.Effect.Intake
import FatCrabTrading.Maker.Quiet
import FatCrabTrading.Sample
import FatCrabTrading.Taker.Quiet

/-! # What comes in from the other side

A trade stores messages that n3xB delivers: a maker the offers and the peer's message, a taker
the trade response and the peer's message. What is stored can be told from the messages, from
where the trade stood when they came, and from whether a listener was registered: without one,
offers and a Buy taker's response are dropped. What is stored is passed on to the listener if
there is one, and an offer that comes too late is rejected, before the next message is taken.
-/

namespace FatCrabTrading

open Effect Program

section Inbox

variable [Bitcoin]

/-- The listener is there, and is told. -/
def tells {σ Msg : Type} (listener : NotifTx) (holds : TradeNotif → Bool) :
    Entry σ Msg tradeInterface → Bool
  | .called (.notify notifTx notif) heard _ => heard && decide (notifTx = listener) && holds notif
  | _ => false

/-- An offer is rejected, and n3xB accepts that. -/
def rejects {σ Msg : Type} (tradeRsp : TradeResponse) : Entry σ Msg tradeInterface → Bool
  | .called (.n3xb (.rejectOffer rsp)) reply _ => reply.isOk && decide (rsp = tradeRsp)
  | _ => false

/-! ## A maker -/

/-- What a maker stores of what comes in. -/
structure FatCrabMakerInbox where
  offerEnvelopes : List FatCrabOfferEnvelope
  peerEnvelope : Option FatCrabPeerEnvelope
  peerBtcAddr : Option String
  peerBtcTxid : Option Txid

def FatCrabMakerBuyActor.inbox (self : FatCrabMakerBuyActor) : FatCrabMakerInbox :=
  ⟨self.data.offerEnvelopes, self.data.peerEnvelope, self.data.peerBtcAddr, none⟩

def FatCrabMakerSellActor.inbox (self : FatCrabMakerSellActor) : FatCrabMakerInbox :=
  ⟨self.data.offerEnvelopes, self.data.peerEnvelope, none, self.data.peerBtcTxid⟩

namespace FatCrabMakerActor

def inbox (self : FatCrabMakerActor) : FatCrabMakerInbox :=
  match self.inner with
  | .buy buy => buy.inbox
  | .sell sell => sell.inbox

/-- The maker takes offers. -/
def AwaitsOffer (self : FatCrabMakerActor) : Prop :=
  self.state = .waitingForOffers ∨ self.state = .receivedOffer

instance (self : FatCrabMakerActor) : Decidable self.AwaitsOffer :=
  inferInstanceAs (Decidable (_ ∨ _))

/-- An offer that is stored, and the listener that is told. Without one it is not stored. -/
def takenOffer (envelope : OfferEnvelope) (self : FatCrabMakerActor) :
    Option (FatCrabOfferEnvelope × NotifTx) :=
  if self.AwaitsOffer ∧ FatCrabOffer.validateN3xbOffer envelope.offer = .ok () then
    self.notifTx.map fun listener => (⟨envelope.pubkey, envelope⟩, listener)
  else
    none

/-- What a maker reads from a message of its peer: an address or a transaction id. -/
def readPeer (message : FatCrabPeerMessage) (self : FatCrabMakerActor) :
    Option (Option String × Option Txid) :=
  match self.inner with
  | .buy buy => (addressOn buy.network message.receiveAddress).map fun address =>
      (some (Bitcoin.addressToString address), none)
  | .sell _ => (Bitcoin.txidFromStr message.txid).map fun txid => (none, some txid)

/-- A message of the peer that is stored, with what is read from it. -/
def takenPeer (envelope : PeerEnvelope) (self : FatCrabMakerActor) :
    Option (FatCrabPeerEnvelope × Option String × Option Txid) :=
  if self.state = .acceptedOffer then
    envelope.message.asFatCrabPeerMessage.bind fun message =>
      (self.readPeer message).map fun contents => (⟨message, envelope⟩, contents)
  else
    none

def intake : Intake FatCrabMakerActor MakerMsg tradeInterface FatCrabMakerInbox where
  view := inbox
  take message self inbox := match message with
    | .notif (.ok (.offer envelope)) => match self.takenOffer envelope with
        | some (offer, _) => { inbox with offerEnvelopes := inbox.offerEnvelopes ++ [offer] }
        | none => inbox
    | .notif (.ok (.peer envelope)) => match self.takenPeer envelope with
        | some (peer, address, txid) => ⟨inbox.offerEnvelopes, some peer, address, txid⟩
        | none => inbox
    | _ => inbox
  due message self := match message with
    | .notif (.ok (.offer envelope)) =>
        if self.AwaitsOffer then
          (self.takenOffer envelope).map fun (offer, listener) =>
            tells listener fun notif => notif = .maker (.offer .receivedOffer offer)
        else
          some (rejects (rejectTradeRsp envelope.eventId (unexpectedOfferReason self.state)))
    | .notif (.ok (.peer envelope)) =>
        (self.takenPeer envelope).bind fun (peer, _) => self.notifTx.map fun listener =>
          tells listener fun notif => notif = .maker (.peer self.peerNotifState peer)
    | _ => none

/-- A program that leaves alone what came in. -/
def KeepsInbox {α : Type} (program : Handler FatCrabMakerActor α) : Prop :=
  program.Only (fun before after => after.inbox = before.inbox) fun _ => True

section Requests

attribute [local simp] forall_except FatCrabMakerBuyActor.inbox FatCrabMakerSellActor.inbox

theorem keepsInbox_withInner {α : Type} {buy : Handler FatCrabMakerBuyActor α}
    {sell : Handler FatCrabMakerSellActor α}
    (hbuy : buy.Only (fun before after => after.inbox = before.inbox) fun _ => True)
    (hsell : sell.Only (fun before after => after.inbox = before.inbox) fun _ => True) :
    KeepsInbox (withInner buy sell) :=
  only_withInner_of_roles _ _ (fun _ => rfl) hbuy hsell (fun _ _ _ _ hsame => hsame)
    fun _ _ _ _ hsame => hsame

theorem keepsInbox_setState (state : FatCrabMakerState) : KeepsInbox (setState state) :=
  keepsInbox_withInner (by simp) (by simp)

/-- No request touches what came in. -/
theorem keepsInbox_handleRequest (request : FatCrabMakerRequest) :
    KeepsInbox (handleRequest request) := by
  by_cases hquiet : request.quiet = true
  · refine (only_quiet hquiet).mono (fun before after hsame => ?_) fun _ _ => trivial
    unfold inbox
    rw [hsame.1]
  cases request with
  | postNewOrder =>
      have hstate := keepsInbox_setState .waitingForOffers
      unfold KeepsInbox at hstate ⊢
      simp [handleRequest, postNewOrder, hstate]
  | cancelOrder =>
      apply keepsInbox_withInner
      · simp only [FatCrabMakerBuyActor.cancelOrder, read_eq, get_bind, Program.pure_bind, only_get]
        intro self
        cases self.data.state <;> simp
      · simp only [FatCrabMakerSellActor.cancelOrder, read_eq, get_bind, Program.pure_bind,
          only_get]
        intro self
        cases self.data.state <;> simp
  | tradeResponse tradeRspType envelope =>
      apply keepsInbox_withInner
      · cases tradeRspType <;> simp [FatCrabMakerBuyActor.tradeResponse]
      · cases tradeRspType <;> simp [FatCrabMakerSellActor.tradeResponse]
  | releaseNotifyPeer txid =>
      apply keepsInbox_withInner
      · simp only [FatCrabMakerBuyActor.releaseNotifyPeer, read_eq, get_bind, Program.pure_bind,
          only_get]
        intro self
        cases self.data.peerBtcAddr <;> simp
      · cases txid <;> simp [FatCrabMakerSellActor.notifyPeer]
  | tradeComplete =>
      exact keepsInbox_withInner (by simp [FatCrabMakerBuyActor.tradeComplete])
        (by simp [FatCrabMakerSellActor.tradeComplete])
  | _ => exact absurd rfl hquiet

end Requests

section Notifications

attribute [local simp] Intake.Serves forall_except intake takenOffer AwaitsOffer inbox
  FatCrabMakerBuyActor.inbox FatCrabMakerSellActor.inbox handleOfferNotif
  handleOfferInUnexpectedState recordOffer tells rejects setState Except.isOk Except.toBool

variable {history : History FatCrabMakerActor MakerMsg tradeInterface} {self : FatCrabMakerActor}

/-- An offer is stored and told, or rejected, or neither. -/
theorem serves_offer (envelope : OfferEnvelope) :
    intake.Serves (handleOfferNotif envelope) (.notif (.ok (.offer envelope))) history self := by
  by_cases hawaits : self.AwaitsOffer
  swap
  · unfold AwaitsOffer at hawaits
    simp [hawaits]
  unfold AwaitsOffer at hawaits
  cases hvalid : FatCrabOffer.validateN3xbOffer envelope.offer with
  | error error => simp [hawaits, hvalid]
  | ok =>
      obtain ⟨inner, uuid, notifTx⟩ := self
      cases notifTx with
      | none => simp [hawaits, hvalid]
      | some listener =>
          cases inner with
          | buy buy =>
              rw [state_buy] at hawaits
              simp [hawaits, hvalid]
          | sell sell =>
              rw [state_sell] at hawaits
              simp [hawaits, hvalid]

/-- A message of the peer is stored, and told if somebody listens, or it is of no use. -/
theorem serves_peer (envelope : PeerEnvelope) :
    intake.Serves (handlePeerNotif envelope) (.notif (.ok (.peer envelope))) history self := by
  by_cases haccepted : self.state = .acceptedOffer
  swap
  · simp [handlePeerNotif, takenPeer, haccepted]
  cases hmessage : envelope.message.asFatCrabPeerMessage with
  | none => simp [handlePeerNotif, haccepted, hmessage]
  | some message =>
      obtain ⟨inner, uuid, notifTx⟩ := self
      cases inner with
      | buy buy =>
          rw [state_buy] at haccepted
          cases hparse : Bitcoin.addressFromStr message.receiveAddress with
          | none =>
              simp [handlePeerNotif, FatCrabMakerBuyActor.handlePeerNotif, haccepted, hmessage,
                hparse]
          | some address =>
              cases notifTx <;> cases hvalid : Bitcoin.isValidForNetwork address buy.network <;>
                simp [handlePeerNotif, FatCrabMakerBuyActor.handlePeerNotif, takenPeer, readPeer,
                  addressOn, peerNotifState, haccepted, hmessage, hparse, hvalid, Option.filter]
      | sell sell =>
          rw [state_sell] at haccepted
          cases notifTx <;> cases hparse : Bitcoin.txidFromStr message.txid <;>
            simp [handlePeerNotif, FatCrabMakerSellActor.handlePeerNotif, takenPeer, readPeer,
              peerNotifState, haccepted, hmessage, hparse]

end Notifications

theorem keepsInbox_start : KeepsInbox start := by
  unfold KeepsInbox start
  simp

/-- A maker's code takes in what comes. -/
theorem fits_intake : intake.Fits code where
  start := keepsInbox_start
  handle := by
    intro message history self
    match message with
    | .request request =>
        rw [Intake.Serves, code, safe_handle_request]
        exact Intake.serves_of_only (keepsInbox_handleRequest request) rfl rfl
    | .notif (.error error) => exact safe_handle_notif.mpr ⟨rfl, rfl⟩
    | .notif (.ok (.offer envelope)) =>
        rw [Intake.Serves, code, safe_handle_notif]
        exact serves_offer envelope
    | .notif (.ok (.peer envelope)) =>
        rw [Intake.Serves, code, safe_handle_notif]
        exact serves_peer envelope
  restore := by
    intro self
    obtain ⟨inner, uuid, notifTx⟩ := self
    cases inner <;> rfl

end FatCrabMakerActor

/-! ## A taker -/

/-- What a taker stores of what comes in. -/
structure FatCrabTakerInbox where
  tradeRspEnvelope : Option FatCrabTradeRspEnvelope
  peerEnvelope : Option FatCrabPeerEnvelope
  peerBtcTxid : Option Txid
  peerBtcAddr : Option String

def FatCrabTakerBuyActor.inbox (self : FatCrabTakerBuyActor) : FatCrabTakerInbox :=
  ⟨self.data.tradeRspEnvelope, self.data.peerEnvelope, self.data.peerBtcTxid, none⟩

def FatCrabTakerSellActor.inbox (self : FatCrabTakerSellActor) : FatCrabTakerInbox :=
  ⟨none, self.data.peerEnvelope, none, self.data.peerBtcAddr⟩

namespace FatCrabTakerActor

def inbox (self : FatCrabTakerActor) : FatCrabTakerInbox :=
  match self.inner with
  | .buy buy => buy.inbox
  | .sell sell => sell.inbox

/-- A trade response that is acted on, and the listener that is told. A Buy taker needs one. -/
def takenTradeRsp (envelope : TradeResponseEnvelope) (self : FatCrabTakerActor) :
    Option (FatCrabTradeRspEnvelope × Option NotifTx) :=
  if self.state = .submittedOffer then
    (FatCrabTradeRsp.fromN3xbTradeRsp envelope.tradeRsp).bind fun tradeRsp =>
      match self.inner with
      | .buy buy => buy.notifTx.map fun listener => (⟨tradeRsp, envelope⟩, some listener)
      | .sell sell => some (⟨tradeRsp, envelope⟩, sell.notifTx)
  else
    none

/-- A message of the peer that is stored. -/
def takenPeer (envelope : PeerEnvelope) (self : FatCrabTakerActor) : Option FatCrabPeerEnvelope :=
  if self.state = .notifiedOutbound then
    envelope.message.asFatCrabPeerMessage.map fun message => ⟨message, envelope⟩
  else
    none

def intake : Intake FatCrabTakerActor TakerMsg tradeInterface FatCrabTakerInbox where
  view := inbox
  take message self inbox := match message with
    | .notif (.ok (.tradeRsp envelope)) => match self.takenTradeRsp envelope, self.inner with
        | some (taken, _), .buy _ => { inbox with tradeRspEnvelope := some taken }
        | some (⟨.accept address, _⟩, _), .sell _ => { inbox with peerBtcAddr := some address }
        | _, _ => inbox
    | .notif (.ok (.peer envelope)) => match self.takenPeer envelope, self.inner with
        | some peer, .buy _ => { inbox with
            peerEnvelope := some peer
            peerBtcTxid := (Bitcoin.txidFromStr peer.message.txid).or inbox.peerBtcTxid }
        | some peer, .sell _ => { inbox with peerEnvelope := some peer }
        | none, _ => inbox
    | _ => inbox
  due message self := match message with
    | .notif (.ok (.tradeRsp envelope)) =>
        (self.takenTradeRsp envelope).bind fun (taken, listener) => listener.map fun listener =>
          tells listener fun
            | .taker (.tradeRsp _ told) => told = taken
            | _ => false
    | .notif (.ok (.peer envelope)) =>
        (self.takenPeer envelope).bind fun peer => self.notifTx.map fun listener =>
          tells listener fun
            | .taker (.peer _ told) => told = peer
            | _ => false
    | _ => none

/-- A program that leaves alone what came in. -/
def KeepsInbox {α : Type} (program : Handler FatCrabTakerActor α) : Prop :=
  program.Only (fun before after => after.inbox = before.inbox) fun _ => True

section Requests

attribute [local simp] forall_except FatCrabTakerBuyActor.inbox FatCrabTakerSellActor.inbox

theorem keepsInbox_withInner {α : Type} {buy : Handler FatCrabTakerBuyActor α}
    {sell : Handler FatCrabTakerSellActor α}
    (hbuy : buy.Only (fun before after => after.inbox = before.inbox) fun _ => True)
    (hsell : sell.Only (fun before after => after.inbox = before.inbox) fun _ => True) :
    KeepsInbox (withInner buy sell) :=
  only_withInner_of_roles _ _ (fun _ => rfl) hbuy hsell (fun _ _ _ _ hsame => hsame)
    fun _ _ _ _ hsame => hsame

theorem keepsInbox_setState (state : FatCrabTakerState) : KeepsInbox (setState state) :=
  keepsInbox_withInner (by simp) (by simp)

theorem inbox_withNotifTx (tx : Option NotifTx) (self : FatCrabTakerActor) :
    (self.withNotifTx tx).inbox = self.inbox := by
  obtain ⟨inner, uuid, notifTx⟩ := self
  cases inner <;> rfl

/-- No request touches what came in. -/
theorem keepsInbox_handleRequest (request : FatCrabTakerRequest) :
    KeepsInbox (handleRequest request) := by
  by_cases hquiet : request.quiet = true
  · refine (only_quiet hquiet).mono (fun before after hsame => ?_) fun _ _ => trivial
    rcases hsame with rfl | ⟨tx, rfl⟩
    · rfl
    · exact inbox_withNotifTx tx before
  cases request with
  | takeOrder =>
      have hstate := keepsInbox_setState .submittedOffer
      unfold KeepsInbox at hstate ⊢
      simp [handleRequest, takeOrder, hstate]
  | releaseNotifyPeer txid =>
      apply keepsInbox_withInner
      · cases txid <;> simp [FatCrabTakerBuyActor.notifyPeer]
      · simp only [FatCrabTakerSellActor.releaseNotifyPeer,
          FatCrabTakerSellActor.releaseBtcNotifyPeer, read_eq, get_bind, Program.pure_bind,
          only_get]
        intro self
        cases self.data.peerBtcAddr <;> simp
  | tradeComplete =>
      exact keepsInbox_withInner (by simp [FatCrabTakerBuyActor.tradeComplete])
        (by simp [FatCrabTakerSellActor.tradeComplete])
  | _ => exact absurd rfl hquiet

end Requests

section Notifications

attribute [local simp] Intake.Serves forall_except intake takenTradeRsp takenPeer inbox
  FatCrabTakerBuyActor.inbox FatCrabTakerSellActor.inbox handleTradeRspNotif handlePeerNotif
  FatCrabTakerBuyActor.handleTradeRspNotif FatCrabTakerSellActor.handleTradeRspNotif
  FatCrabTakerSellActor.releaseBtcNotifyPeer FatCrabTakerSellActor.notifyTradeRsp
  FatCrabTakerBuyActor.handlePeerNotif tells

variable {history : History FatCrabTakerActor TakerMsg tradeInterface} {self : FatCrabTakerActor}

/-- A trade response is acted on and told; a Buy taker that nobody listens to passes it over. -/
theorem serves_tradeRsp (envelope : TradeResponseEnvelope) :
    intake.Serves (handleTradeRspNotif envelope) (.notif (.ok (.tradeRsp envelope))) history
      self := by
  by_cases hsubmitted : self.state = .submittedOffer
  swap
  · simp [hsubmitted]
  cases hrsp : FatCrabTradeRsp.fromN3xbTradeRsp envelope.tradeRsp with
  | none => simp [hsubmitted, hrsp]
  | some tradeRsp =>
      obtain ⟨inner, uuid, notifTx⟩ := self
      cases inner with
      | buy buy =>
          rw [state_buy] at hsubmitted
          cases hlistener : buy.notifTx <;> simp [hsubmitted, hrsp, hlistener]
      | sell sell =>
          rw [state_sell] at hsubmitted
          cases hlistener : sell.notifTx <;> cases tradeRsp <;>
            simp [hsubmitted, hrsp, hlistener]

/-- A message of the peer is stored, and told if somebody listens. -/
theorem serves_peer (envelope : PeerEnvelope) :
    intake.Serves (handlePeerNotif envelope) (.notif (.ok (.peer envelope))) history self := by
  by_cases hnotified : self.state = .notifiedOutbound
  swap
  · simp [hnotified]
  cases hmessage : envelope.message.asFatCrabPeerMessage with
  | none => simp [hnotified, hmessage]
  | some message =>
      obtain ⟨inner, uuid, notifTx⟩ := self
      cases inner with
      | buy buy =>
          rw [state_buy] at hnotified
          cases notifTx <;> cases hparse : Bitcoin.txidFromStr message.txid <;>
            simp [hnotified, hmessage, hparse]
      | sell sell =>
          rw [state_sell] at hnotified
          cases notifTx <;> simp [hnotified, hmessage]

end Notifications

theorem keepsInbox_start : KeepsInbox start := by
  unfold KeepsInbox start
  simp

/-- A taker's code takes in what comes. -/
theorem fits_intake : intake.Fits code where
  start := keepsInbox_start
  handle := by
    intro message history self
    match message with
    | .request request =>
        rw [Intake.Serves, code, safe_handle_request]
        exact Intake.serves_of_only (keepsInbox_handleRequest request) rfl rfl
    | .notif (.error error) => exact safe_handle_notif.mpr ⟨rfl, rfl⟩
    | .notif (.ok (.tradeRsp envelope)) =>
        rw [Intake.Serves, code, safe_handle_notif]
        exact serves_tradeRsp envelope
    | .notif (.ok (.peer envelope)) =>
        rw [Intake.Serves, code, safe_handle_notif]
        exact serves_peer envelope
  restore := by
    intro self
    obtain ⟨inner, uuid, notifTx⟩ := self
    cases inner <;> rfl

end FatCrabTakerActor

/-- In every run of a maker or a taker, whatever it is asked, told and answered and however
often it is shut down and restored: whenever no handler runs, what it stores of the other side
is what n3xB delivered and the trade could take when it came, in that order. An offer, or a
Buy taker's response, is taken only while a listener is registered, and is dropped otherwise.
Each message that was stored with a listener registered was passed on to it in its turn, and
each offer that came too late was rejected in its turn. -/
theorem inboxes_complete :
    (∀ (maker : FatCrabMakerActor) (actor : Actor FatCrabMakerActor MakerMsg tradeInterface),
      Actor.Steps FatCrabMakerActor.code (.launch FatCrabMakerActor.code maker) actor →
        actor.task = .idle ∨ actor.task = .ended →
          FatCrabMakerActor.intake.Complete maker.inbox actor.history actor.store) ∧
    ∀ (taker : FatCrabTakerActor) (actor : Actor FatCrabTakerActor TakerMsg tradeInterface),
      Actor.Steps FatCrabTakerActor.code (.launch FatCrabTakerActor.code taker) actor →
        actor.task = .idle ∨ actor.task = .ended →
          FatCrabTakerActor.intake.Complete taker.inbox actor.history actor.store := by
  constructor
  · intro maker actor hrun hrests
    exact FatCrabMakerActor.fits_intake.complete hrun hrests
  · intro taker actor hrun hrests
    exact FatCrabTakerActor.fits_intake.complete hrun hrests

end Inbox

section Sample

open Sample

/-- A maker accepts an offer, another one comes too late, and the peer sends its address. A
taker waits for the response. -/
theorem inboxes_complete_late :
    let maker := (Actor.opened FatCrabMakerActor.code obliging buyMaker).deliverAll
      FatCrabMakerActor.code
      [(obliging, .request .postNewOrder), (obliging, .request (.registerNotifTx ⟨0⟩)),
        (obliging, .notif (.ok (.offer offer.envelope))),
        (obliging, .request (.tradeResponse .accept offer)),
        (obliging, .notif (.ok (.offer offer.envelope))),
        (obliging, .notif (.ok (.peer peerEnvelope)))]
    let taker := (Actor.opened FatCrabTakerActor.code obliging sellTaker).deliverAll
      FatCrabTakerActor.code [(obliging, .request .takeOrder)]
    (FatCrabMakerActor.intake.total buyMaker.inbox maker.history).offerEnvelopes = [offer] ∧
      (FatCrabMakerActor.intake.total buyMaker.inbox maker.history).peerEnvelope.isSome ∧
      FatCrabMakerActor.intake.Complete buyMaker.inbox maker.history maker.store ∧
      FatCrabTakerActor.intake.Complete sellTaker.inbox taker.history taker.store := by
  intro maker taker
  have hmaker : maker.task = .idle := by decide +kernel
  have htaker : taker.task = .idle := by decide +kernel
  exact ⟨by decide +kernel, by decide +kernel,
    inboxes_complete.1 _ _ (Actor.steps_opened_deliverAll _ _ _) (.inl hmaker),
    inboxes_complete.2 _ _ (Actor.steps_opened_deliverAll _ _ _) (.inl htaker)⟩

end Sample

end FatCrabTrading
