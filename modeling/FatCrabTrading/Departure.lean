import FatCrabTrading.Maker.PeerMessage
import FatCrabTrading.Purse.Service
import FatCrabTrading.Taker.TradeResponse

/-! # Clients that go away

A client is a requester that waits for one answer, or a listener that was registered. Every
send to a client is unwrapped, so a client that is gone by then ends the task of the actor
that serves all the others. A client that is not written to any more may go unnoticed.
-/

namespace FatCrabTrading

open Effect Program

section Departure

variable [Bitcoin]

/-- The same answers, with every client there. -/
def attending (answers : (c : TradeCall) → c.Reply) : (c : TradeCall) → c.Reply
  | .notify _ _ => true
  | .respond _ => true
  | c => answers c

section Attending

variable (answers : (c : TradeCall) → c.Reply)

@[simp] theorem attending_notify (notifTx : NotifTx) (notif : TradeNotif) :
    attending answers (.notify notifTx notif) = true := rfl

@[simp] theorem attending_respond (rsp : Rsp) : attending answers (.respond rsp) = true := rfl

@[simp] theorem attending_n3xb (request : N3xbRequest) :
    attending answers (.n3xb request) = answers (.n3xb request) := rfl

@[simp] theorem attending_purse (request : PurseRequest) :
    attending answers (.purse request) = answers (.purse request) := rfl

end Attending

/-- Calls that do not write to a listener. -/
def TradeCall.Discreet : TradeCall → Prop
  | .notify _ _ => False
  | _ => True

namespace TradeCall

@[simp] theorem discreet_purse (request : PurseRequest) : (purse request).Discreet := trivial

@[simp] theorem discreet_n3xb (request : N3xbRequest) : (n3xb request).Discreet := trivial

@[simp] theorem not_discreet_notify (notifTx : NotifTx) (notif : TradeNotif) :
    ¬ (notify notifTx notif).Discreet := id

@[simp] theorem discreet_respond (rsp : Rsp) : (respond rsp).Discreet := trivial

@[simp] theorem discreet_terminate : terminate.Discreet := trivial

end TradeCall

theorem attending_eq {answers : (c : TradeCall) → c.Reply}
    (hwaiting : ∀ rsp, answers (.respond rsp) = true) {c : TradeCall} (hdiscreet : c.Discreet) :
    answers c = attending answers c := by
  cases c with
  | notify notifTx notif => exact hdiscreet.elim
  | respond rsp => exact hwaiting rsp
  | purse request => rfl
  | n3xb request => rfl
  | terminate => rfl

/-- A listener, if one is registered, is there. -/
def Listening (answers : (c : TradeCall) → c.Reply) (listener : Option NotifTx) : Prop :=
  ∀ notifTx notif, listener = some notifTx → answers (.notify notifTx notif) = true

@[simp] theorem listening_attending (answers : (c : TradeCall) → c.Reply)
    (listener : Option NotifTx) :
    Listening (attending answers) listener := fun _ _ _ => rfl

/-- An answer goes to nobody. -/
def Unanswered {σ Msg : Type} : Entry σ Msg tradeInterface → Prop
  | .called (.respond _) sent _ => sent = false
  | _ => True

section History

variable {σ Msg : Type} {store : σ}

@[simp] theorem unanswered_n3xb (request : N3xbRequest) (reply : Except N3xbError Unit) :
    Unanswered (.called (.n3xb request) reply store : Entry σ Msg tradeInterface) := trivial

@[simp] theorem unanswered_purse (request : PurseRequest) (reply : Option request.Reply) :
    Unanswered (.called (.purse request) reply store : Entry σ Msg tradeInterface) := trivial

@[simp] theorem unanswered_notify (notifTx : NotifTx) (notif : TradeNotif) (reply : Bool) :
    Unanswered (.called (.notify notifTx notif) reply store : Entry σ Msg tradeInterface) := trivial

@[simp] theorem unanswered_respond (rsp : Rsp) (sent : Bool) :
    Unanswered (.called (.respond rsp) sent store : Entry σ Msg tradeInterface) ↔ sent = false :=
  Iff.rfl

@[simp] theorem unanswered_terminate (reply : Unit) :
    Unanswered (.called .terminate reply store : Entry σ Msg tradeInterface) := trivial

end History

/-- A program that does not return if its requester is gone. -/
def Answers {σ Msg α : Type} (program : Handler σ α) (history : History σ Msg tradeInterface)
    (store : σ) : Prop :=
  program.Safe (fun entry _ => Unanswered entry) (fun _ _ => True) (fun _ _ _ => False) history
    store

/-- To a program that writes to no listener, it is all the same if the requester is there. -/
theorem recording_attending {σ Msg : Type} {answers : (c : TradeCall) → c.Reply}
    (hwaiting : ∀ rsp, answers (.respond rsp) = true) (c : TradeCall) (hdiscreet : c.Discreet)
    (store : σ) (past : History σ Msg tradeInterface) :
    Actor.recording answers store past c = Actor.recording (attending answers) store past c := by
  unfold Actor.recording
  rw [attending_eq hwaiting hdiscreet]

/-- If the requester is gone, a program that would answer it panics. -/
theorem panicked_of_answers {σ Msg α : Type} {program : Handler σ α} {store : σ}
    {history : History σ Msg tradeInterface} {answers : (c : TradeCall) → c.Reply}
    (hgone : ∀ rsp, answers (.respond rsp) = false) (hanswers : Answers program history store) :
    (program.exec (Actor.recording answers) store history).outcome = .panicked := by
  cases houtcome : (program.exec (Actor.recording answers) store history).outcome with
  | panicked => rfl
  | done flow =>
      refine (Actor.post_exec ?_ hanswers houtcome).elim
      intro c store past
      cases c with
      | respond rsp => exact hgone rsp
      | _ => trivial

namespace FatCrabMakerBuyActor

theorem discreet_cancelOrder : cancelOrder.Only (fun _ _ => True) TradeCall.Discreet := by
  simp only [cancelOrder, read_eq, get_bind, Program.pure_bind, only_get]
  intro self
  cases self.data.state <;> simp [forall_except]

theorem discreet_tradeResponse (tradeRspType : FatCrabTradeRspType)
    (offerEnvelope : FatCrabOfferEnvelope) :
    (tradeResponse tradeRspType offerEnvelope).Only (fun _ _ => True) TradeCall.Discreet := by
  cases tradeRspType <;> simp [tradeResponse]

theorem discreet_releaseNotifyPeer :
    releaseNotifyPeer.Only (fun _ _ => True) TradeCall.Discreet := by
  simp only [releaseNotifyPeer, read_eq, get_bind, Program.pure_bind, only_get]
  intro self
  cases self.data.peerBtcAddr with
  | none => simp
  | some text => simp [forall_except]

end FatCrabMakerBuyActor

namespace FatCrabMakerSellActor

theorem discreet_cancelOrder : cancelOrder.Only (fun _ _ => True) TradeCall.Discreet := by
  simp only [cancelOrder, read_eq, get_bind, Program.pure_bind, only_get]
  intro self
  cases self.data.state <;> simp [forall_except]

theorem discreet_tradeResponse (tradeRspType : FatCrabTradeRspType)
    (offerEnvelope : FatCrabOfferEnvelope) :
    (tradeResponse tradeRspType offerEnvelope).Only (fun _ _ => True) TradeCall.Discreet := by
  cases tradeRspType <;> simp [tradeResponse]

theorem discreet_checkBtcTxConfirmation :
    checkBtcTxConfirmation.Only (fun _ _ => True) TradeCall.Discreet := by
  simp only [checkBtcTxConfirmation, read_eq, get_bind, Program.pure_bind, only_get]
  intro self
  cases self.data.peerBtcTxid <;> simp

end FatCrabMakerSellActor

namespace FatCrabMakerActor

theorem discreet_withInner {α : Type} {buy : Handler FatCrabMakerBuyActor α}
    {sell : Handler FatCrabMakerSellActor α}
    (hbuy : buy.Only (fun _ _ => True) TradeCall.Discreet)
    (hsell : sell.Only (fun _ _ => True) TradeCall.Discreet) :
    (withInner buy sell).Only (fun _ _ => True) TradeCall.Discreet :=
  only_withInner_of_focus _ _ (hbuy.focus (fun _ => trivial) fun _ _ _ _ _ => trivial)
    (hsell.focus (fun _ => trivial) fun _ _ _ _ _ => trivial)

theorem discreet_setState (state : FatCrabMakerState) :
    (setState state).Only (fun _ _ => True) TradeCall.Discreet :=
  discreet_withInner (by simp) (by simp)

/-- A request is answered, and nobody else hears of it. -/
theorem discreet_handleRequest (request : FatCrabMakerRequest) :
    (handleRequest request).Only (fun _ _ => True) TradeCall.Discreet := by
  cases request with
  | postNewOrder =>
      simp [handleRequest, postNewOrder, forall_except, discreet_setState]
  | cancelOrder =>
      exact discreet_withInner FatCrabMakerBuyActor.discreet_cancelOrder
        FatCrabMakerSellActor.discreet_cancelOrder
  | tradeResponse tradeRspType offerEnvelope =>
      exact discreet_withInner (FatCrabMakerBuyActor.discreet_tradeResponse _ _)
        (FatCrabMakerSellActor.discreet_tradeResponse _ _)
  | releaseNotifyPeer fatcrabTxid =>
      apply discreet_withInner FatCrabMakerBuyActor.discreet_releaseNotifyPeer
      simp [FatCrabMakerSellActor.notifyPeer, forall_except]
  | checkBtcTxConf =>
      apply discreet_withInner
      · simp [FatCrabMakerBuyActor.checkBtcTxConfirmation]
      · exact FatCrabMakerSellActor.discreet_checkBtcTxConfirmation
  | tradeComplete =>
      apply discreet_withInner
      · simp [FatCrabMakerBuyActor.tradeComplete, forall_except]
      · simp [FatCrabMakerSellActor.tradeComplete, forall_except]
  | shutdown => simp [handleRequest, shutdown, forall_except]
  | getState => simp [handleRequest, getState]
  | getOrderDetails => simp [handleRequest, getOrderDetails]
  | getPeerPubkey => simp [handleRequest, getPeerPubkey]
  | getPeerBtcTxid => simp [handleRequest, getPeerBtcTxid]
  | queryOffers => simp [handleRequest, queryOffers]
  | queryPeerMsg => simp [handleRequest, queryPeerMsg]
  | registerNotifTx tx => simp [handleRequest, registerNotifTx, setNotifTx]
  | unregisterNotifTx => simp [handleRequest, unregisterNotifTx, setNotifTx]

theorem discreet_handle (request : FatCrabMakerRequest) :
    (handle (.request request)).Only (fun _ _ => True) TradeCall.Discreet := by
  cases request <;> exact (discreet_handleRequest _).bind fun _ => trivial

section Answers

attribute [local simp] Answers handleRequest setState

variable {history : History FatCrabMakerActor MakerMsg tradeInterface} {self : FatCrabMakerActor}

theorem answers_handleRequest (request : FatCrabMakerRequest) :
    Answers (handleRequest request) history self := by
  obtain ⟨inner, uuid, notifTx⟩ := self
  cases request with
  | cancelOrder =>
      cases inner with
      | buy buy =>
          cases hstate : buy.data.state <;>
            simp [FatCrabMakerBuyActor.cancelOrder, hstate, forall_except]
      | sell sell =>
          cases hstate : sell.data.state <;>
            simp [FatCrabMakerSellActor.cancelOrder, hstate, forall_except]
  | tradeResponse tradeRspType envelope =>
      cases tradeRspType <;> cases inner <;>
        simp [FatCrabMakerBuyActor.tradeResponse, FatCrabMakerSellActor.tradeResponse]
  | releaseNotifyPeer txid =>
      cases inner with
      | buy buy =>
          cases haddr : buy.data.peerBtcAddr <;>
            simp [FatCrabMakerBuyActor.releaseNotifyPeer, haddr, forall_except]
      | sell sell => simp [FatCrabMakerSellActor.notifyPeer, forall_except]
  | checkBtcTxConf =>
      cases inner with
      | buy buy => simp [FatCrabMakerBuyActor.checkBtcTxConfirmation]
      | sell sell =>
          cases htxid : sell.data.peerBtcTxid <;>
            simp [FatCrabMakerSellActor.checkBtcTxConfirmation, htxid]
  | tradeComplete =>
      cases inner <;>
        simp [FatCrabMakerBuyActor.tradeComplete, FatCrabMakerSellActor.tradeComplete,
          forall_except]
  | postNewOrder => cases inner <;> simp [postNewOrder, forall_except]
  | shutdown => simp [shutdown, forall_except]
  | getState => simp [getState]
  | getOrderDetails => simp [getOrderDetails]
  | getPeerPubkey => simp [getPeerPubkey]
  | getPeerBtcTxid => simp [getPeerBtcTxid]
  | queryOffers => simp [queryOffers]
  | queryPeerMsg => simp [queryPeerMsg]
  | registerNotifTx tx => simp [registerNotifTx, setNotifTx]
  | unregisterNotifTx => simp [unregisterNotifTx, setNotifTx]

theorem answers_handle (request : FatCrabMakerRequest) :
    Answers (handle (.request request)) history self := by
  have hrequest := @answers_handleRequest _ history self request
  cases request <;> exact (safe_bind _ _ _ _).mpr hrequest

end Answers

/-- A request whose requester is gone ends the task, whatever it asks for. -/
theorem dies_abandoned {answers : (c : TradeCall) → c.Reply}
    (hgone : ∀ rsp, answers (.respond rsp) = false) (request : FatCrabMakerRequest)
    (self : FatCrabMakerActor) (history : History FatCrabMakerActor MakerMsg tradeInterface) :
    ((handle (.request request)).exec (Actor.recording answers) self history).outcome =
      .panicked :=
  panicked_of_answers hgone (answers_handle request)

/-- The client that a handler writes to is there: the requester of a request, and the
listener of an offer that is recorded or of a message that the maker moves on after. -/
def Faces (actor : Actor FatCrabMakerActor MakerMsg tradeInterface)
    (item : ((c : TradeCall) → c.Reply) × MakerMsg) : Prop :=
  match item.2 with
  | .request _ => ∀ rsp, item.1 (.respond rsp) = true
  | .notif (.ok (.offer envelope)) =>
      (actor.store.state = .waitingForOffers ∨ actor.store.state = .receivedOffer) →
        FatCrabOffer.validateN3xbOffer envelope.offer = .ok () →
          Listening item.1 actor.store.notifTx
  | .notif (.ok (.peer envelope)) => actor.store.state = .acceptedOffer →
      ∀ message, envelope.message.asFatCrabPeerMessage = some message →
        actor.store.Usable message → Listening item.1 actor.store.notifTx
  | .notif (.error _) => True

section Notif

attribute [local simp] handle handleNotif handleOfferNotif handleOfferInUnexpectedState
  recordOffer handlePeerNotif setState peerNotifState Actor.recording

variable {answers : (c : TradeCall) → c.Reply} {self : FatCrabMakerActor}
  {history : History FatCrabMakerActor MakerMsg tradeInterface}

theorem agree_offer {envelope : OfferEnvelope}
    (hfaces : (self.state = .waitingForOffers ∨ self.state = .receivedOffer) →
      FatCrabOffer.validateN3xbOffer envelope.offer = .ok () → Listening answers self.notifTx) :
    Actor.Agree id
      ((handle (.notif (.ok (.offer envelope)))).exec (Actor.recording answers) self history)
      ((handle (.notif (.ok (.offer envelope)))).exec (Actor.recording (attending answers)) self
        history) := by
  unfold Actor.Agree
  by_cases hstate : self.state = .waitingForOffers ∨ self.state = .receivedOffer
  · cases hvalid : FatCrabOffer.validateN3xbOffer envelope.offer with
    | error error => simp [hstate, hvalid]
    | ok =>
        have hlistening := hfaces hstate hvalid
        obtain ⟨inner, uuid, notifTx⟩ := self
        cases notifTx with
        | none => cases inner <;> simp at hstate <;> simp [hstate, hvalid]
        | some listener =>
            have htold := fun notif => hlistening listener notif rfl
            cases inner <;> simp at hstate <;> simp [hstate, hvalid, htold]
  · cases hrejected : answers (.n3xb (.rejectOffer
        (rejectTradeRsp envelope.eventId (unexpectedOfferReason self.state)))) <;>
      simp [hstate, hrejected]

theorem agree_peer {envelope : PeerEnvelope}
    (hfaces : self.state = .acceptedOffer → ∀ message,
      envelope.message.asFatCrabPeerMessage = some message → self.Usable message →
        Listening answers self.notifTx) :
    Actor.Agree id
      ((handle (.notif (.ok (.peer envelope)))).exec (Actor.recording answers) self history)
      ((handle (.notif (.ok (.peer envelope)))).exec (Actor.recording (attending answers)) self
        history) := by
  unfold Actor.Agree
  by_cases hstate : self.state = .acceptedOffer
  swap
  · simp [hstate]
  cases hmessage : envelope.message.asFatCrabPeerMessage with
  | none => simp [hstate, hmessage]
  | some message =>
      have hlistening := hfaces hstate message hmessage
      obtain ⟨inner, uuid, notifTx⟩ := self
      cases inner with
      | buy buy =>
          simp only [state_buy] at hstate
          cases hparse : Bitcoin.addressFromStr message.receiveAddress with
          | none => simp [FatCrabMakerBuyActor.handlePeerNotif, hstate, hmessage, hparse]
          | some address =>
              cases hvalid : Bitcoin.isValidForNetwork address buy.network with
              | false =>
                  simp [FatCrabMakerBuyActor.handlePeerNotif, hstate, hmessage, hparse, hvalid]
              | true =>
                  have hhears := hlistening ⟨address, addressOn_eq_some.mpr ⟨hparse, hvalid⟩⟩
                  cases notifTx with
                  | none =>
                      simp [FatCrabMakerBuyActor.handlePeerNotif, hstate, hmessage, hparse, hvalid]
                  | some listener =>
                      have htold := fun notif => hhears listener notif rfl
                      simp [FatCrabMakerBuyActor.handlePeerNotif, hstate, hmessage, hparse, hvalid,
                        htold]
      | sell sell =>
          simp only [state_sell] at hstate
          cases hparse : Bitcoin.txidFromStr message.txid with
          | none => simp [FatCrabMakerSellActor.handlePeerNotif, hstate, hmessage, hparse]
          | some txid =>
              have hhears := hlistening ⟨txid, hparse⟩
              cases notifTx with
              | none => simp [FatCrabMakerSellActor.handlePeerNotif, hstate, hmessage, hparse]
              | some listener =>
                  have htold := fun notif => hhears listener notif rfl
                  simp [FatCrabMakerSellActor.handlePeerNotif, hstate, hmessage, hparse, htold]

end Notif

/-- Nothing changes for a maker whose clients are there when it writes to them. -/
theorem agree_of_faces {self : FatCrabMakerActor}
    {past : History FatCrabMakerActor MakerMsg tradeInterface}
    {answers : (c : TradeCall) → c.Reply} {message : MakerMsg}
    (hfaces : Faces ⟨self, .idle, past⟩ (answers, message))
    (history : History FatCrabMakerActor MakerMsg tradeInterface) :
    Actor.Agree id ((handle message).exec (Actor.recording answers) self history)
      ((handle message).exec (Actor.recording (attending answers)) self history) := by
  cases message with
  | request request =>
      have hwaiting : ∀ rsp, answers (.respond rsp) = true := hfaces
      rw [(discreet_handle request).exec_congr (recording_attending hwaiting)]
      exact ⟨rfl, rfl⟩
  | notif result =>
      cases result with
      | error error => exact ⟨rfl, rfl⟩
      | ok notif =>
          cases notif with
          | offer envelope => exact agree_offer hfaces
          | peer envelope => exact agree_peer hfaces

end FatCrabMakerActor

namespace FatCrabTakerBuyActor

theorem discreet_checkBtcTxConfirmation :
    checkBtcTxConfirmation.Only (fun _ _ => True) TradeCall.Discreet := by
  simp only [checkBtcTxConfirmation, read_eq, get_bind, Program.pure_bind, only_get]
  intro self
  cases self.data.peerBtcTxid <;> simp

end FatCrabTakerBuyActor

namespace FatCrabTakerSellActor

theorem discreet_releaseNotifyPeer :
    releaseNotifyPeer.Only (fun _ _ => True) TradeCall.Discreet := by
  simp only [releaseNotifyPeer, releaseBtcNotifyPeer, read_eq, get_bind, Program.pure_bind,
    only_get]
  intro self
  cases self.data.peerBtcAddr with
  | none => simp
  | some text => simp [forall_except]

end FatCrabTakerSellActor

namespace FatCrabTakerActor

theorem discreet_withInner {α : Type} {buy : Handler FatCrabTakerBuyActor α}
    {sell : Handler FatCrabTakerSellActor α}
    (hbuy : buy.Only (fun _ _ => True) TradeCall.Discreet)
    (hsell : sell.Only (fun _ _ => True) TradeCall.Discreet) :
    (withInner buy sell).Only (fun _ _ => True) TradeCall.Discreet :=
  only_withInner_of_focus _ _ (hbuy.focus (fun _ => trivial) fun _ _ _ _ _ => trivial)
    (hsell.focus (fun _ => trivial) fun _ _ _ _ _ => trivial)

theorem discreet_setState (state : FatCrabTakerState) :
    (setState state).Only (fun _ _ => True) TradeCall.Discreet :=
  discreet_withInner (by simp) (by simp)

theorem discreet_handleRequest (request : FatCrabTakerRequest) :
    (handleRequest request).Only (fun _ _ => True) TradeCall.Discreet := by
  cases request with
  | takeOrder =>
      simp [handleRequest, takeOrder, forall_except, discreet_setState]
  | releaseNotifyPeer txid =>
      apply discreet_withInner _ FatCrabTakerSellActor.discreet_releaseNotifyPeer
      simp [FatCrabTakerBuyActor.notifyPeer, forall_except]
  | checkBtcTxConf =>
      apply discreet_withInner FatCrabTakerBuyActor.discreet_checkBtcTxConfirmation
      simp [FatCrabTakerSellActor.checkBtcTxConfirmation]
  | tradeComplete =>
      apply discreet_withInner
      · simp [FatCrabTakerBuyActor.tradeComplete, forall_except]
      · simp [FatCrabTakerSellActor.tradeComplete, forall_except]
  | queryTradeRsp =>
      apply discreet_withInner
      · simp [FatCrabTakerBuyActor.queryTradeRsp]
      · simp [FatCrabTakerSellActor.queryTradeRsp]
  | shutdown => simp [handleRequest, shutdown, forall_except]
  | getState => simp [handleRequest, getState]
  | getOrderDetails => simp [handleRequest, getOrderDetails]
  | getPeerBtcTxid => simp [handleRequest, getPeerBtcTxid]
  | queryPeerMsg => simp [handleRequest, queryPeerMsg]
  | registerNotifTx tx => simp [handleRequest, registerNotifTx, setNotifTx]
  | unregisterNotifTx => simp [handleRequest, unregisterNotifTx, setNotifTx]

theorem discreet_handle (request : FatCrabTakerRequest) :
    (handle (.request request)).Only (fun _ _ => True) TradeCall.Discreet := by
  cases request <;> exact (discreet_handleRequest _).bind fun _ => trivial

section Answers

attribute [local simp] Answers handleRequest setState

variable {history : History FatCrabTakerActor TakerMsg tradeInterface} {self : FatCrabTakerActor}

theorem answers_handleRequest (request : FatCrabTakerRequest) :
    Answers (handleRequest request) history self := by
  obtain ⟨inner, uuid, notifTx⟩ := self
  cases request with
  | takeOrder => cases inner <;> simp [takeOrder, forall_except]
  | releaseNotifyPeer txid =>
      cases inner with
      | buy buy => simp [FatCrabTakerBuyActor.notifyPeer, forall_except]
      | sell sell =>
          cases haddr : sell.data.peerBtcAddr <;>
            simp [FatCrabTakerSellActor.releaseNotifyPeer,
              FatCrabTakerSellActor.releaseBtcNotifyPeer, haddr, forall_except]
  | checkBtcTxConf =>
      cases inner with
      | buy buy =>
          cases htxid : buy.data.peerBtcTxid <;>
            simp [FatCrabTakerBuyActor.checkBtcTxConfirmation, htxid]
      | sell sell => simp [FatCrabTakerSellActor.checkBtcTxConfirmation]
  | tradeComplete =>
      cases inner <;>
        simp [FatCrabTakerBuyActor.tradeComplete, FatCrabTakerSellActor.tradeComplete,
          forall_except]
  | queryTradeRsp =>
      cases inner <;>
        simp [FatCrabTakerBuyActor.queryTradeRsp, FatCrabTakerSellActor.queryTradeRsp]
  | shutdown => simp [shutdown, forall_except]
  | getState => simp [getState]
  | getOrderDetails => simp [getOrderDetails]
  | getPeerBtcTxid => simp [getPeerBtcTxid]
  | queryPeerMsg => simp [queryPeerMsg]
  | registerNotifTx tx => simp [registerNotifTx, setNotifTx]
  | unregisterNotifTx => simp [unregisterNotifTx, setNotifTx]

theorem answers_handle (request : FatCrabTakerRequest) :
    Answers (handle (.request request)) history self := by
  have hrequest := @answers_handleRequest _ history self request
  cases request <;> exact (safe_bind _ _ _ _).mpr hrequest

end Answers

/-- A request whose requester is gone ends the task, whatever it asks for. -/
theorem dies_abandoned {answers : (c : TradeCall) → c.Reply}
    (hgone : ∀ rsp, answers (.respond rsp) = false) (request : FatCrabTakerRequest)
    (self : FatCrabTakerActor) (history : History FatCrabTakerActor TakerMsg tradeInterface) :
    ((handle (.request request)).exec (Actor.recording answers) self history).outcome =
      .panicked :=
  panicked_of_answers hgone (answers_handle request)

/-- The taker gets as far as its listener with a trade response. A Sell taker turns to the
purse first. -/
def Tells (self : FatCrabTakerActor) (answers : (c : TradeCall) → c.Reply) :
    FatCrabTradeRsp → Prop
  | .accept text =>
      match self.inner with
      | .buy _ => True
      | .sell sell => ∃ address, Bitcoin.addressFromStr text = some address ∧
          (Bitcoin.isValidForNetwork address sell.network = true →
            answers (.purse (.sendFunds sell.data.btcFundsId address)) ≠ none)
  | .reject =>
      match self.inner with
      | .buy _ => True
      | .sell sell => answers (.purse (.freeFunds sell.data.btcFundsId)) = some (.ok ())

/-- The client that a handler writes to is there: the requester of a request, and the
listener of a trade response or a peer message that the state expects. -/
def Faces (actor : Actor FatCrabTakerActor TakerMsg tradeInterface)
    (item : ((c : TradeCall) → c.Reply) × TakerMsg) : Prop :=
  match item.2 with
  | .request _ => ∀ rsp, item.1 (.respond rsp) = true
  | .notif (.ok (.tradeRsp envelope)) => actor.store.state = .submittedOffer →
      ∀ tradeRsp, FatCrabTradeRsp.fromN3xbTradeRsp envelope.tradeRsp = some tradeRsp →
        actor.store.Tells item.1 tradeRsp → Listening item.1 actor.store.listener
  | .notif (.ok (.peer envelope)) => actor.store.state = .notifiedOutbound →
      ∀ message, envelope.message.asFatCrabPeerMessage = some message →
        Listening item.1 actor.store.notifTx
  | .notif (.error _) => True

section Notif

attribute [local simp] handle handleNotif handleTradeRspNotif handlePeerNotif setState
  Actor.recording FatCrabTakerBuyActor.handleTradeRspNotif
  FatCrabTakerSellActor.handleTradeRspNotif FatCrabTakerSellActor.releaseBtcNotifyPeer
  FatCrabTakerBuyActor.handlePeerNotif

variable {answers : (c : TradeCall) → c.Reply} {buy : FatCrabTakerBuyActor}
  {sell : FatCrabTakerSellActor} {uuid : Uuid} {notifTx : Option NotifTx}
  {self : FatCrabTakerActor} {history : History FatCrabTakerActor TakerMsg tradeInterface}

/-- A Sell taker whose listener is there ends its turn. -/
theorem done_of_listening {tradeRsp : FatCrabTradeRsp} {envelope : TradeResponseEnvelope}
    (hlistening : Listening answers sell.notifTx) :
    ((focus sell? putSell (FatCrabTakerSellActor.notifyTradeRsp tradeRsp envelope) >>=
      fun _ => Program.pure Flow.next).exec (Actor.recording answers) ⟨.sell sell, uuid, notifTx⟩
        history).outcome = .done .next :=
  done_exec_notifyTradeRsp _ _ _ _ _ hlistening _

theorem agree_tradeRsp_buy_attending {envelope : TradeResponseEnvelope}
    (hfaces : buy.data.state = .submittedOffer → ∀ tradeRsp,
      FatCrabTradeRsp.fromN3xbTradeRsp envelope.tradeRsp = some tradeRsp →
        Tells ⟨.buy buy, uuid, notifTx⟩ answers tradeRsp → Listening answers buy.notifTx) :
    Actor.Agree id
      ((handle (.notif (.ok (.tradeRsp envelope)))).exec (Actor.recording answers)
        ⟨.buy buy, uuid, notifTx⟩ history)
      ((handle (.notif (.ok (.tradeRsp envelope)))).exec (Actor.recording (attending answers))
        ⟨.buy buy, uuid, notifTx⟩ history) := by
  unfold Actor.Agree
  by_cases hstate : buy.data.state = .submittedOffer
  swap
  · simp [hstate]
  cases hrsp : FatCrabTradeRsp.fromN3xbTradeRsp envelope.tradeRsp with
  | none => simp [hstate, hrsp]
  | some tradeRsp =>
      cases hlistener : buy.notifTx with
      | none => simp [hstate, hrsp, hlistener]
      | some listener =>
          have htells : Tells ⟨.buy buy, uuid, notifTx⟩ answers tradeRsp := by
            cases tradeRsp <;> trivial
          have htold := fun notif => hfaces hstate tradeRsp hrsp htells listener notif hlistener
          simp [hstate, hrsp, hlistener, htold]

/-- An acceptance may be released or not, and is told of either way. -/
theorem agree_accept_attending {envelope : TradeResponseEnvelope} {text : String}
    {address : Address}
    (hfaces : (Bitcoin.isValidForNetwork address sell.network = true →
      answers (.purse (.sendFunds sell.data.btcFundsId address)) ≠ none) →
        Listening answers sell.notifTx)
    (hstate : sell.data.state = .submittedOffer)
    (hrsp : FatCrabTradeRsp.fromN3xbTradeRsp envelope.tradeRsp = some (.accept text))
    (hparse : Bitcoin.addressFromStr text = some address) :
    Actor.Agree id
      ((handle (.notif (.ok (.tradeRsp envelope)))).exec (Actor.recording answers)
        ⟨.sell sell, uuid, notifTx⟩ history)
      ((handle (.notif (.ok (.tradeRsp envelope)))).exec (Actor.recording (attending answers))
        ⟨.sell sell, uuid, notifTx⟩ history) := by
  unfold Actor.Agree
  cases hvalid : Bitcoin.isValidForNetwork address sell.network with
  | false =>
      have htold : Listening answers sell.notifTx :=
        hfaces fun htrue => by rw [hvalid] at htrue; cases htrue
      simp [hstate, hrsp, hparse, hvalid, done_of_listening, htold]
  | true =>
      rcases hsent : answers (.purse (.sendFunds sell.data.btcFundsId address)) with
        _ | error | txid
      · simp [hstate, hrsp, hparse, hvalid, hsent]
      · have htold : Listening answers sell.notifTx :=
          hfaces fun _ => by rw [hsent]; exact Option.some_ne_none _
        simp [hstate, hrsp, hparse, hvalid, hsent, done_of_listening, htold]
      · have htold : Listening answers sell.notifTx :=
          hfaces fun _ => by rw [hsent]; exact Option.some_ne_none _
        cases hmessage : answers (.n3xb (.sendPeerMessage
            (.fatCrabPeerMessage ⟨sell.data.fatcrabRxAddr, Bitcoin.txidToString txid⟩))) <;>
          simp [hstate, hrsp, hparse, hvalid, hsent, hmessage, done_of_listening, htold]

theorem agree_tradeRsp_sell_attending {envelope : TradeResponseEnvelope}
    (hfaces : sell.data.state = .submittedOffer → ∀ tradeRsp,
      FatCrabTradeRsp.fromN3xbTradeRsp envelope.tradeRsp = some tradeRsp →
        Tells ⟨.sell sell, uuid, notifTx⟩ answers tradeRsp → Listening answers sell.notifTx) :
    Actor.Agree id
      ((handle (.notif (.ok (.tradeRsp envelope)))).exec (Actor.recording answers)
        ⟨.sell sell, uuid, notifTx⟩ history)
      ((handle (.notif (.ok (.tradeRsp envelope)))).exec (Actor.recording (attending answers))
        ⟨.sell sell, uuid, notifTx⟩ history) := by
  by_cases hstate : sell.data.state = .submittedOffer
  swap
  · simp [Actor.Agree, hstate]
  have hlistening := hfaces hstate
  cases hrsp : FatCrabTradeRsp.fromN3xbTradeRsp envelope.tradeRsp with
  | none => simp [Actor.Agree, hstate, hrsp]
  | some tradeRsp =>
      cases tradeRsp with
      | accept text =>
          cases hparse : Bitcoin.addressFromStr text with
          | none => simp [Actor.Agree, hstate, hrsp, hparse]
          | some address =>
              exact agree_accept_attending
                (fun hsent => hlistening _ hrsp ⟨address, hparse, hsent⟩) hstate hrsp hparse
      | reject =>
          rcases hfreed : answers (.purse (.freeFunds sell.data.btcFundsId)) with _ | (_ | _)
          · simp [Actor.Agree, hstate, hrsp, hfreed]
          · simp [Actor.Agree, hstate, hrsp, hfreed]
          · have htold : Listening answers sell.notifTx := hlistening _ hrsp hfreed
            simp [Actor.Agree, hstate, hrsp, hfreed, done_of_listening, htold]

theorem agree_peer_attending {envelope : PeerEnvelope}
    (hfaces : self.state = .notifiedOutbound → ∀ message,
      envelope.message.asFatCrabPeerMessage = some message →
        Listening answers self.notifTx) :
    Actor.Agree id
      ((handle (.notif (.ok (.peer envelope)))).exec (Actor.recording answers) self history)
      ((handle (.notif (.ok (.peer envelope)))).exec (Actor.recording (attending answers)) self
        history) := by
  unfold Actor.Agree
  by_cases hstate : self.state = .notifiedOutbound
  swap
  · simp [hstate]
  cases hmessage : envelope.message.asFatCrabPeerMessage with
  | none => simp [hstate, hmessage]
  | some message =>
      have hlistening := hfaces hstate message hmessage
      obtain ⟨inner, uuid, notifTx⟩ := self
      cases inner with
      | sell sell =>
          simp only [state_sell] at hstate
          cases notifTx with
          | none => simp [hstate, hmessage]
          | some listener => simp [hstate, hmessage, hlistening listener _ rfl]
      | buy buy =>
          simp only [state_buy] at hstate
          cases hparse : Bitcoin.txidFromStr message.txid <;>
            cases notifTx with
            | none => simp [hstate, hmessage, hparse]
            | some listener => simp [hstate, hmessage, hparse, hlistening listener _ rfl]

end Notif

/-- Nothing changes for a taker whose clients are there when it writes to them. -/
theorem agree_of_faces {self : FatCrabTakerActor}
    {past : History FatCrabTakerActor TakerMsg tradeInterface}
    {answers : (c : TradeCall) → c.Reply} {message : TakerMsg}
    (hfaces : Faces ⟨self, .idle, past⟩ (answers, message))
    (history : History FatCrabTakerActor TakerMsg tradeInterface) :
    Actor.Agree id ((handle message).exec (Actor.recording answers) self history)
      ((handle message).exec (Actor.recording (attending answers)) self history) := by
  cases message with
  | request request =>
      have hwaiting : ∀ rsp, answers (.respond rsp) = true := hfaces
      rw [(discreet_handle request).exec_congr (recording_attending hwaiting)]
      exact ⟨rfl, rfl⟩
  | notif result =>
      cases result with
      | error error => exact ⟨rfl, rfl⟩
      | ok notif =>
          obtain ⟨inner, uuid, notifTx⟩ := self
          cases notif with
          | peer envelope => exact agree_peer_attending hfaces
          | tradeRsp envelope =>
              cases inner with
              | buy buy => exact agree_tradeRsp_buy_attending hfaces
              | sell sell => exact agree_tradeRsp_sell_attending hfaces

end FatCrabTakerActor

/-! ## The purse -/

/-- An arm of the purse's loop together with the send of its answer. -/
def PurseActor.turn (waiting : Bool) (request : PurseRequest) : PurseHandler request.Reply := do
  let reply ← handle request
  Program.assert waiting
  return reply

namespace Purse

/-- Serve a request whose requester may be gone when it is answered. -/
def serveFor (waiting : Bool) (answers : WalletAnswers) (request : PurseRequest) (purse : Purse) :
    Option request.Reply × Purse :=
  if purse.status = .serving then
    purse.settle request
      ((PurseActor.turn waiting request).exec (walletEnvironment answers) purse.actor [])
  else
    (none, purse)

/-- One request of a script: the answers it gets, whether its requester waits, and what it asks. -/
structure Visit where
  answers : WalletAnswers
  waiting : Bool
  request : PurseRequest

def visit (purse : Purse) (visit : Visit) : Purse :=
  (purse.serveFor visit.waiting visit.answers visit.request).2

/-- Each requester waits for its answer, as long as the purse answers. -/
def Awaited : List Visit → Purse → Prop
  | [], _ => True
  | first :: rest, purse =>
      (purse.status = .serving → first.waiting = true) ∧ Awaited rest (purse.visit first)

theorem exec_turn_false (request : PurseRequest) (answers : WalletAnswers) (self : PurseActor)
    (sent : List Tx) :
    ((PurseActor.turn false request).exec (walletEnvironment answers) self sent).outcome =
        .panicked ∧
      ((PurseActor.turn false request).exec (walletEnvironment answers) self sent).store =
        ((PurseActor.handle request).exec (walletEnvironment answers) self sent).store := by
  unfold PurseActor.turn
  generalize PurseActor.handle request = program
  induction program generalizing self sent with
  | pure reply => exact ⟨rfl, rfl⟩
  | panic => exact ⟨rfl, rfl⟩
  | get next ih => exact ih self self sent
  | modify f next ih => exact ih (f self) sent
  | call c next ih => exact ih _ self _

/-- A requester that is gone changes nothing in the data, but it ends the task. -/
theorem dies_abandoned (answers : WalletAnswers) (request : PurseRequest) {purse : Purse}
    (hserving : purse.status = .serving) :
    (purse.serveFor false answers request).2.actor = (purse.serve answers request).2.actor ∧
      (purse.serveFor false answers request).2.status = .dead := by
  obtain ⟨houtcome, hstore⟩ := exec_turn_false request answers purse.actor []
  unfold serveFor serve
  rw [if_pos hserving, if_pos hserving, settle_actor, settle_actor, hstore]
  refine ⟨rfl, ?_⟩
  unfold settle
  rw [houtcome]

theorem visit_awaited {purse : Purse} {first : Visit}
    (hwaiting : purse.status = .serving → first.waiting = true) :
    purse.visit first = purse.visit { first with waiting := true } := by
  by_cases hserving : purse.status = .serving
  · unfold visit
    rw [hwaiting hserving]
  · unfold visit serveFor
    rw [if_neg hserving, if_neg hserving]

theorem foldl_visit_awaited {script : List Visit} {purse : Purse}
    (hawaited : Awaited script purse) :
    script.foldl visit purse =
      (script.map fun visit => { visit with waiting := true }).foldl visit purse := by
  induction script generalizing purse with
  | nil => rfl
  | cons first rest ih =>
      obtain ⟨hwaiting, hrest⟩ := hawaited
      rw [List.map_cons, List.foldl_cons, List.foldl_cons, ← visit_awaited hwaiting]
      exact ih hrest

end Purse

/-- In every run of a maker, a taker or the purse whose clients are there when they are
written to, everything ends as if they had been there all the time. -/
theorem departures_unnoticed :
    (∀ script (actor : Actor FatCrabMakerActor MakerMsg tradeInterface),
      Actor.Along FatCrabMakerActor.code FatCrabMakerActor.Faces script actor →
        Actor.Alike (actor.deliverAll FatCrabMakerActor.code script)
          (actor.deliverAll FatCrabMakerActor.code
            (script.map fun item => (attending item.1, item.2)))) ∧
    (∀ script (actor : Actor FatCrabTakerActor TakerMsg tradeInterface),
      Actor.Along FatCrabTakerActor.code FatCrabTakerActor.Faces script actor →
        Actor.Alike (actor.deliverAll FatCrabTakerActor.code script)
          (actor.deliverAll FatCrabTakerActor.code
            (script.map fun item => (attending item.1, item.2)))) ∧
    ∀ script (purse : Purse), Purse.Awaited script purse →
      script.foldl Purse.visit purse =
        (script.map fun visit => { visit with waiting := true }).foldl Purse.visit purse := by
  refine ⟨?_, ?_, ?_⟩
  · intro script actor halong
    exact Actor.alike_deliverAll (fun _ _ _ _ hfaces history =>
      FatCrabMakerActor.agree_of_faces hfaces history) halong ⟨rfl, rfl⟩
  · intro script actor halong
    exact Actor.alike_deliverAll (fun _ _ _ _ hfaces history =>
      FatCrabTakerActor.agree_of_faces hfaces history) halong ⟨rfl, rfl⟩
  · intro script purse hawaited
    exact Purse.foldl_visit_awaited hawaited

end Departure

section Sample

open Sample

/-- Surroundings in which every listener is gone. -/
def deserted : (c : TradeCall) → c.Reply
  | .notify _ _ => false
  | c => obliging c

/-- An offer is heard, an offer is waited for at the relay, and the purse is asked once more
after its shutdown by a client that does not wait. -/
theorem departures_unnoticed_of_registered :
    let maker := (Actor.opened FatCrabMakerActor.code obliging buyMaker).deliver
      FatCrabMakerActor.code obliging (.request .postNewOrder)
    let purse : Purse := ⟨⟨true, .new .regtest 100⟩, .serving, [], [], []⟩
    Actor.Alike
        (maker.deliverAll FatCrabMakerActor.code [(deserted, .request (.registerNotifTx ⟨0⟩)),
          (obliging, .notif (.ok (.offer offer.envelope)))])
        (maker.deliverAll FatCrabMakerActor.code
          [(attending deserted, .request (.registerNotifTx ⟨0⟩)),
            (attending obliging, .notif (.ok (.offer offer.envelope)))]) ∧
      Actor.Alike
        ((Actor.opened FatCrabTakerActor.code obliging buyTaker).deliverAll
          FatCrabTakerActor.code [(deserted, .request .takeOrder)])
        ((Actor.opened FatCrabTakerActor.code obliging buyTaker).deliverAll
          FatCrabTakerActor.code [(attending deserted, .request .takeOrder)]) ∧
      List.foldl Purse.visit purse
          [⟨Sample.wallet ⟨1⟩, true, .shutdown⟩, ⟨Sample.wallet ⟨1⟩, false, .getBalances⟩] =
        List.foldl Purse.visit purse
          [⟨Sample.wallet ⟨1⟩, true, .shutdown⟩, ⟨Sample.wallet ⟨1⟩, true, .getBalances⟩] := by
  refine ⟨departures_unnoticed.1 _ _ ⟨fun _ => rfl, fun _ _ _ _ _ => rfl, trivial⟩,
    departures_unnoticed.2.1 _ _ ⟨fun _ => rfl, trivial⟩,
    departures_unnoticed.2.2 _ _ ⟨fun _ => rfl, fun hserving => ?_, trivial⟩⟩
  cases hserving

/-- The listener that a posted Buy maker registered is dropped, and the next offer ends the
task. With the listener there, the offer is recorded. -/
theorem killed_by_departure : ∃ actor : Actor FatCrabMakerActor MakerMsg tradeInterface,
    Actor.Steps FatCrabMakerActor.code (.launch FatCrabMakerActor.code buyMaker) actor ∧
      (actor.deliver FatCrabMakerActor.code deserted
        (.notif (.ok (.offer offer.envelope)))).task = .dead ∧
      (actor.deliver FatCrabMakerActor.code (attending deserted)
        (.notif (.ok (.offer offer.envelope)))).task = .idle ∧
      ¬ Actor.Alike
        (actor.deliver FatCrabMakerActor.code deserted (.notif (.ok (.offer offer.envelope))))
        (actor.deliver FatCrabMakerActor.code (attending deserted)
          (.notif (.ok (.offer offer.envelope)))) := by
  have hdead : ((Actor.opened FatCrabMakerActor.code obliging buyMaker).deliverAll
      FatCrabMakerActor.code [(obliging, .request .postNewOrder),
        (obliging, .request (.registerNotifTx ⟨0⟩)),
        (deserted, .notif (.ok (.offer offer.envelope)))]).task = .dead := by
    decide +kernel
  have hidle : ((Actor.opened FatCrabMakerActor.code obliging buyMaker).deliverAll
      FatCrabMakerActor.code [(obliging, .request .postNewOrder),
        (obliging, .request (.registerNotifTx ⟨0⟩)),
        (attending deserted, .notif (.ok (.offer offer.envelope)))]).task = .idle := by
    decide +kernel
  refine ⟨_, @Actor.steps_opened_deliverAll _ _ _ FatCrabMakerActor.code obliging buyMaker
    [(obliging, .request .postNewOrder), (obliging, .request (.registerNotifTx ⟨0⟩))],
    hdead, hidle, ?_⟩
  intro halike
  cases hdead.symm.trans (halike.2.trans hidle)

end Sample

end FatCrabTrading
