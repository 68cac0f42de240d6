import FatCrabTrading.ErrAnswer
import FatCrabTrading.Maker.Audit
import FatCrabTrading.Maker.Coherence
import FatCrabTrading.Maker.PeerMessage
import FatCrabTrading.Taker.Audit
import FatCrabTrading.Taker.Coherence

/-! # Refusals

n3xB and the purse may refuse any call. Most handlers report a refusal to the requester;
an offer that cannot be accepted or rejected and funds that cannot be freed are unwrapped,
so such a refusal ends the task.
-/

namespace FatCrabTrading

open Effect Program

section Refusal

variable [Bitcoin]

/-- The purse's answer to a request is an error. -/
def PurseRequest.refused : (request : PurseRequest) → request.Reply → Bool
  | .getMnemonic, reply => !reply.isOk
  | .getRxAddress, reply => !reply.isOk
  | .getBalances, reply => !reply.isOk
  | .allocateFunds _, reply => !reply.isOk
  | .freeFunds _, reply => !reply.isOk
  | .sendFunds _ _, reply => !reply.isOk
  | .getHeight, reply => !reply.isOk
  | .getTxConf _, reply => !reply.isOk
  | .syncBlockchain, reply => !reply.isOk
  | .shutdown, reply => !reply.isOk

/-- n3xB or the purse refused a call. -/
def Refusal {σ Msg : Type} : Entry σ Msg tradeInterface → Prop
  | .called (.n3xb _) reply _ => reply.isOk = false
  | .called (.purse request) reply _ => reply.any request.refused = true
  | _ => False

/-- The answers that were sent to the requester, newest first. -/
def responses {σ Msg : Type} (history : History σ Msg tradeInterface) : List Rsp :=
  history.filterMap fun
    | .called (.respond rsp) _ _ => some rsp
    | _ => none

/-- There was one answer, and it is an error if anything was refused. -/
def AnsweredOnce {σ Msg : Type} (history : History σ Msg tradeInterface) : Prop :=
  ∃ rsp, responses history = [rsp] ∧ ((∃ entry ∈ history, Refusal entry) → rsp.isErr = true)

section History

variable {σ Msg : Type} {store : σ} {history : History σ Msg tradeInterface}

@[simp] theorem refusal_n3xb (request : N3xbRequest) (reply : Except N3xbError Unit) :
    Refusal (.called (.n3xb request) reply store : Entry σ Msg tradeInterface) ↔
      reply.isOk = false := Iff.rfl

@[simp] theorem refusal_purse (request : PurseRequest) (reply : Option request.Reply) :
    Refusal (.called (.purse request) reply store : Entry σ Msg tradeInterface) ↔
      reply.any request.refused = true := Iff.rfl

@[simp] theorem refusal_notify (notifTx : NotifTx) (notif : TradeNotif) (reply : Bool) :
    ¬ Refusal (.called (.notify notifTx notif) reply store : Entry σ Msg tradeInterface) := id

@[simp] theorem refusal_respond (rsp : Rsp) (reply : Bool) :
    ¬ Refusal (.called (.respond rsp) reply store : Entry σ Msg tradeInterface) := id

@[simp] theorem refusal_terminate (reply : Unit) :
    ¬ Refusal (.called .terminate reply store : Entry σ Msg tradeInterface) := id

@[simp] theorem responses_nil : responses ([] : History σ Msg tradeInterface) = [] := rfl

@[simp] theorem responses_n3xb (request : N3xbRequest) (reply : Except N3xbError Unit) :
    responses (.called (.n3xb request) reply store :: history) = responses history := rfl

@[simp] theorem responses_purse (request : PurseRequest) (reply : Option request.Reply) :
    responses (.called (.purse request) reply store :: history) = responses history := rfl

@[simp] theorem responses_notify (notifTx : NotifTx) (notif : TradeNotif) (reply : Bool) :
    responses (.called (.notify notifTx notif) reply store :: history) = responses history := rfl

@[simp] theorem responses_respond (rsp : Rsp) (reply : Bool) :
    responses (.called (.respond rsp) reply store :: history) = rsp :: responses history := rfl

@[simp] theorem responses_terminate (reply : Unit) :
    responses (.called .terminate reply store :: history) = responses history := rfl

end History

/-- The requester, the listener and the purse are there. -/
structure Attended (answers : (c : TradeCall) → c.Reply) : Prop where
  requester : ∀ rsp, answers (.respond rsp) = true
  listener : ∀ notifTx notif, answers (.notify notifTx notif) = true
  purse : ∀ request, answers (.purse request) ≠ none

namespace FatCrabMakerActor

/-- A maker whose own texts parse, as its creation and its peer's messages left them. -/
def Ready (self : FatCrabMakerActor) : Prop :=
  match self.inner with
  | .buy buy => ∀ text, buy.data.peerBtcAddr = some text →
      ∃ address, parseAddress text buy.network = some address
  | .sell sell => ∃ address, parseAddress sell.data.btcRxAddr sell.network = some address

/-- A message as the maker's accessors and a peer with well formed messages send it: a Sell
maker is given the transaction id that it tells of. -/
def WellFormed (self : FatCrabMakerActor) : MakerMsg → Prop
  | .request (.releaseNotifyPeer txid) => self.sell?.isSome = true → txid ≠ none
  | .notif (.ok (.peer envelope)) => ∃ message,
      envelope.message.asFatCrabPeerMessage = some message ∧ self.Readable message
  | _ => True

/-- What the loop does after a message. -/
def flowAfter : MakerMsg → Flow
  | .request .shutdown => .stop
  | _ => .next

/-- A message served to its end, with what was observed meanwhile. -/
def serve (answers : (c : TradeCall) → c.Reply) (message : MakerMsg) (self : FatCrabMakerActor) :
    Result FatCrabMakerActor (History FatCrabMakerActor MakerMsg tradeInterface) Flow :=
  (handle message).exec (Actor.recording answers) self []

/-- The handler does not panic, the loop goes on unless it was told to stop, and a request
is answered once, by an error if it was refused. -/
def Survives (answers : (c : TradeCall) → c.Reply) (message : MakerMsg)
    (self : FatCrabMakerActor) : Prop :=
  (serve answers message self).outcome = .done (flowAfter message) ∧
    ∀ request, message = .request request → AnsweredOnce (serve answers message self).environment

/-- The text at which an accepting maker asks to be paid. -/
def receiveText (self : FatCrabMakerActor) : Option String :=
  match self.inner with
  | .buy buy => some buy.data.fatcrabRxAddr
  | .sell sell => (parseAddress sell.data.btcRxAddr sell.network).map Bitcoin.addressToString

/-- A refusal that is unwrapped: of an acceptance or a rejection by n3xB, or of the release
of the funds of an order that n3xB has cancelled already. -/
def Fatal (answers : (c : TradeCall) → c.Reply) (self : FatCrabMakerActor) : MakerMsg → Prop
  | .request .cancelOrder => ∃ buy, self.inner = .buy buy ∧
      (self.state = .new ∨ self.state = .waitingForOffers ∨ self.state = .receivedOffer) ∧
      answers (.n3xb .cancelOrder) = .ok () ∧
      ∃ error, answers (.purse (.freeFunds buy.data.btcFundsId)) = some (.error error)
  | .request (.tradeResponse .accept offerEnvelope) => ∃ text, self.receiveText = some text ∧
      ∃ error, answers (.n3xb (.acceptOffer (acceptTradeRsp offerEnvelope text))) = .error error
  | .request (.tradeResponse .reject offerEnvelope) => ∃ error,
      answers (.n3xb (.rejectOffer
        (rejectTradeRsp offerEnvelope.envelope.eventId .tradeEngineSpecific))) = .error error
  | .notif (.ok (.offer offerEnvelope)) =>
      ¬(self.state = .waitingForOffers ∨ self.state = .receivedOffer) ∧ ∃ error,
        answers (.n3xb (.rejectOffer
          (rejectTradeRsp offerEnvelope.eventId (unexpectedOfferReason self.state)))) = .error error
  | _ => False

section Survives

attribute [local simp] Survives serve flowAfter handle handleRequest handleNotif AnsweredOnce
  PurseRequest.refused Rsp.isErr Actor.recording setState Fatal Except.isOk
  Except.toBool

variable {answers : (c : TradeCall) → c.Reply} {self : FatCrabMakerActor}
  {buy : FatCrabMakerBuyActor} {sell : FatCrabMakerSellActor} {uuid : Uuid}
  {notifTx : Option NotifTx}

theorem survives_postNewOrder (hattended : Attended answers) :
    self.Survives answers (.request .postNewOrder) := by
  obtain ⟨inner, uuid, notifTx⟩ := self
  cases hposted : answers (.n3xb .postNewOrder) <;> cases inner <;>
    simp [postNewOrder, hposted, hattended.requester]

theorem survives_tradeComplete (hattended : Attended answers) :
    self.Survives answers (.request .tradeComplete) := by
  obtain ⟨inner, uuid, notifTx⟩ := self
  cases hcompleted : answers (.n3xb .tradeComplete) <;> cases inner <;>
    simp [FatCrabMakerBuyActor.tradeComplete, FatCrabMakerSellActor.tradeComplete, hcompleted,
      hattended.requester]

theorem survives_cancelOrder_buy (hattended : Attended answers) :
    Survives answers (.request .cancelOrder) ⟨.buy buy, uuid, notifTx⟩ ↔
      ¬ Fatal answers ⟨.buy buy, uuid, notifTx⟩ (.request .cancelOrder) := by
  by_cases hstate : buy.data.state = .new ∨ buy.data.state = .waitingForOffers ∨
      buy.data.state = .receivedOffer
  · cases hcancelled : answers (.n3xb .cancelOrder) with
    | error error =>
        rcases hstate with hstate | hstate | hstate <;>
          simp [FatCrabMakerBuyActor.cancelOrder, hstate, hcancelled, hattended.requester]
    | ok =>
        cases hfreed : answers (.purse (.freeFunds buy.data.btcFundsId)) with
        | none => exact absurd hfreed (hattended.purse _)
        | some reply =>
            cases reply <;> rcases hstate with hstate | hstate | hstate <;>
              simp [FatCrabMakerBuyActor.cancelOrder, hstate, hcancelled, hfreed,
                hattended.requester]
  · cases hcase : buy.data.state <;> simp [hcase] at hstate <;>
      simp [FatCrabMakerBuyActor.cancelOrder, hcase, hattended.requester]

theorem survives_cancelOrder_sell (hattended : Attended answers) :
    Survives answers (.request .cancelOrder) ⟨.sell sell, uuid, notifTx⟩ := by
  cases hcancelled : answers (.n3xb .cancelOrder) <;> cases hstate : sell.data.state <;>
    simp [FatCrabMakerSellActor.cancelOrder, hstate, hcancelled, hattended.requester]

theorem survives_tradeResponse_buy (hattended : Attended answers)
    (tradeRspType : FatCrabTradeRspType) (envelope : FatCrabOfferEnvelope) :
    Survives answers (.request (.tradeResponse tradeRspType envelope)) ⟨.buy buy, uuid, notifTx⟩ ↔
      ¬ Fatal answers ⟨.buy buy, uuid, notifTx⟩
        (.request (.tradeResponse tradeRspType envelope)) := by
  cases tradeRspType with
  | accept =>
      cases haccepted : answers (.n3xb (.acceptOffer
          (acceptTradeRsp envelope buy.data.fatcrabRxAddr))) <;>
        simp [FatCrabMakerBuyActor.tradeResponse, receiveText, haccepted, hattended.requester]
  | reject =>
      cases hrejected : answers (.n3xb (.rejectOffer
          (rejectTradeRsp envelope.envelope.eventId .tradeEngineSpecific))) <;>
        simp [FatCrabMakerBuyActor.tradeResponse, hrejected, hattended.requester]

theorem survives_tradeResponse_sell (hattended : Attended answers)
    (hready : Ready ⟨.sell sell, uuid, notifTx⟩) (tradeRspType : FatCrabTradeRspType)
    (envelope : FatCrabOfferEnvelope) :
    Survives answers (.request (.tradeResponse tradeRspType envelope))
        ⟨.sell sell, uuid, notifTx⟩ ↔
      ¬ Fatal answers ⟨.sell sell, uuid, notifTx⟩
        (.request (.tradeResponse tradeRspType envelope)) := by
  obtain ⟨address, haddress⟩ := hready
  cases tradeRspType with
  | accept =>
      cases haccepted : answers (.n3xb (.acceptOffer
          (acceptTradeRsp envelope (Bitcoin.addressToString address)))) <;>
        simp [FatCrabMakerSellActor.tradeResponse, receiveText, haddress, haccepted,
          hattended.requester]
  | reject =>
      cases hrejected : answers (.n3xb (.rejectOffer
          (rejectTradeRsp envelope.envelope.eventId .tradeEngineSpecific))) <;>
        simp [FatCrabMakerSellActor.tradeResponse, hrejected, hattended.requester]

theorem survives_releaseNotifyPeer (hattended : Attended answers)
    (hready : Ready ⟨.buy buy, uuid, notifTx⟩) (txid : Option String) :
    Survives answers (.request (.releaseNotifyPeer txid)) ⟨.buy buy, uuid, notifTx⟩ := by
  cases haddr : buy.data.peerBtcAddr with
  | none => simp [FatCrabMakerBuyActor.releaseNotifyPeer, haddr, hattended.requester]
  | some text =>
      obtain ⟨address, haddress⟩ := hready text haddr
      cases hsent : answers (.purse (.sendFunds buy.data.btcFundsId address)) with
      | none => exact absurd hsent (hattended.purse _)
      | some reply =>
          cases reply with
          | error error =>
              simp [FatCrabMakerBuyActor.releaseNotifyPeer, haddr, haddress, hsent,
                hattended.requester]
          | ok paid =>
              cases hmessage : answers (.n3xb (.sendPeerMessage (.fatCrabPeerMessage
                  ⟨buy.data.fatcrabRxAddr, Bitcoin.txidToString paid⟩))) <;>
                simp [FatCrabMakerBuyActor.releaseNotifyPeer, haddr, haddress, hsent, hmessage,
                  hattended.requester]

theorem survives_notifyPeer (hattended : Attended answers)
    (hready : Ready ⟨.sell sell, uuid, notifTx⟩) {txid : Option String} (htxid : txid ≠ none) :
    Survives answers (.request (.releaseNotifyPeer txid)) ⟨.sell sell, uuid, notifTx⟩ := by
  obtain ⟨address, haddress⟩ := hready
  obtain ⟨text, rfl⟩ := Option.ne_none_iff_exists'.mp htxid
  cases hmessage : answers (.n3xb (.sendPeerMessage (.fatCrabPeerMessage
      ⟨Bitcoin.addressToString address, text⟩))) <;>
    simp [FatCrabMakerSellActor.notifyPeer, haddress, hmessage, hattended.requester]

theorem survives_checkBtcTxConf (hattended : Attended answers) :
    self.Survives answers (.request .checkBtcTxConf) := by
  obtain ⟨inner, uuid, notifTx⟩ := self
  cases inner with
  | buy buy => simp [FatCrabMakerBuyActor.checkBtcTxConfirmation, hattended.requester]
  | sell sell =>
      cases htxid : sell.data.peerBtcTxid with
      | none => simp [FatCrabMakerSellActor.checkBtcTxConfirmation, htxid, hattended.requester]
      | some txid =>
          cases hconf : answers (.purse (.getTxConf txid)) with
          | none => exact absurd hconf (hattended.purse _)
          | some reply =>
              cases reply <;>
                simp [FatCrabMakerSellActor.checkBtcTxConfirmation, htxid, hconf,
                  hattended.requester]

theorem survives_shutdown (hattended : Attended answers) :
    self.Survives answers (.request .shutdown) := by
  cases hended : answers (.n3xb .shutdown) <;> simp [shutdown, hended, hattended.requester]

/-- Requests that call neither n3xB nor the purse. -/
theorem survives_query (hattended : Attended answers) {request : FatCrabMakerRequest}
    (hquiet : request.quiet = true) (hcheck : request ≠ .checkBtcTxConf)
    (hshutdown : request ≠ .shutdown) : self.Survives answers (.request request) := by
  cases request with
  | postNewOrder | cancelOrder | tradeResponse | releaseNotifyPeer | tradeComplete => cases hquiet
  | checkBtcTxConf => exact absurd rfl hcheck
  | shutdown => exact absurd rfl hshutdown
  | getState => simp [getState, hattended.requester]
  | getOrderDetails => simp [getOrderDetails, hattended.requester]
  | getPeerPubkey => simp [getPeerPubkey, hattended.requester]
  | getPeerBtcTxid => simp [getPeerBtcTxid, hattended.requester]
  | queryOffers => simp [queryOffers, hattended.requester]
  | queryPeerMsg => simp [queryPeerMsg, hattended.requester]
  | registerNotifTx tx => simp [registerNotifTx, setNotifTx, hattended.requester]
  | unregisterNotifTx => simp [unregisterNotifTx, setNotifTx, hattended.requester]

theorem survives_request_iff (hattended : Attended answers) (hready : self.Ready)
    {request : FatCrabMakerRequest} (hformed : self.WellFormed (.request request)) :
    self.Survives answers (.request request) ↔ ¬ self.Fatal answers (.request request) := by
  by_cases hcheck : request = .checkBtcTxConf
  · subst hcheck
    exact iff_of_true (survives_checkBtcTxConf hattended) id
  by_cases hshutdown : request = .shutdown
  · subst hshutdown
    exact iff_of_true (survives_shutdown hattended) id
  by_cases hquiet : request.quiet = true
  · apply iff_of_true (survives_query hattended hquiet hcheck hshutdown)
    cases request with
    | postNewOrder | cancelOrder | tradeResponse | releaseNotifyPeer | tradeComplete =>
        cases hquiet
    | _ => exact id
  obtain ⟨inner, uuid, notifTx⟩ := self
  cases request with
  | postNewOrder => exact iff_of_true (survives_postNewOrder hattended) id
  | tradeComplete => exact iff_of_true (survives_tradeComplete hattended) id
  | cancelOrder =>
      cases inner with
      | buy buy => exact survives_cancelOrder_buy hattended
      | sell sell =>
          apply iff_of_true (survives_cancelOrder_sell hattended)
          intro hfatal
          obtain ⟨buy, hbuy, -⟩ := hfatal
          cases hbuy
  | tradeResponse tradeRspType envelope =>
      cases inner with
      | buy buy => exact survives_tradeResponse_buy hattended tradeRspType envelope
      | sell sell => exact survives_tradeResponse_sell hattended hready tradeRspType envelope
  | releaseNotifyPeer txid =>
      cases inner with
      | buy buy => exact iff_of_true (survives_releaseNotifyPeer hattended hready txid) id
      | sell sell => exact iff_of_true (survives_notifyPeer hattended hready (hformed rfl)) id
  | _ => exact absurd rfl hquiet

/-- An offer that is not expected must be rejected. -/
theorem survives_offer_iff (hattended : Attended answers) (envelope : OfferEnvelope) :
    self.Survives answers (.notif (.ok (.offer envelope))) ↔
      ¬ self.Fatal answers (.notif (.ok (.offer envelope))) := by
  by_cases hstate : self.state = .waitingForOffers ∨ self.state = .receivedOffer
  · have hsafe : ¬ self.Fatal answers (.notif (.ok (.offer envelope))) := fun hfatal =>
      hfatal.1 hstate
    apply iff_of_true _ hsafe
    cases hvalid : FatCrabOffer.validateN3xbOffer envelope.offer with
    | error error =>
        simp [handleOfferNotif, handleOfferInUnexpectedState, hstate, hvalid]
    | ok =>
        obtain ⟨inner, uuid, notifTx⟩ := self
        cases inner with
        | buy buy =>
            simp only [state_buy] at hstate
            cases notifTx <;>
              simp [handleOfferNotif, handleOfferInUnexpectedState, recordOffer, hstate, hvalid,
                hattended.listener]
        | sell sell =>
            simp only [state_sell] at hstate
            cases notifTx <;>
              simp [handleOfferNotif, handleOfferInUnexpectedState, recordOffer, hstate, hvalid,
                hattended.listener]
  · cases hrejected : answers (.n3xb (.rejectOffer
        (rejectTradeRsp envelope.eventId (unexpectedOfferReason self.state)))) <;>
      simp [handleOfferNotif, handleOfferInUnexpectedState, hstate, hrejected]

end Survives

/-- A peer message that can be read does no harm while its listener is there. -/
theorem survives_peer {answers : (c : TradeCall) → c.Reply} (hattended : Attended answers)
    {self : FatCrabMakerActor} {envelope : PeerEnvelope}
    (hformed : self.WellFormed (.notif (.ok (.peer envelope)))) :
    self.Survives answers (.notif (.ok (.peer envelope))) := by
  obtain ⟨message, hmessage, hreadable⟩ := hformed
  have hendures : self.Endures answers envelope := by
    intro _
    refine ⟨message, hmessage, hreadable, ?_⟩
    intro _ notifTx _
    exact hattended.listener notifTx _
  have hidle := ((peer_harmless_iff answers self [] envelope).mpr hendures).1
  have houtcome := Actor.idle_settle_iff.mp hidle
  have hagree := Actor.agree_history answers (handle (.notif (.ok (.peer envelope)))) self []
    [.received (MakerMsg.notif (.ok (.peer envelope))) self]
  constructor
  · exact hagree.2.trans houtcome
  · intro request hrequest
    cases hrequest

/-- A maker survives a message exactly if no refusal is unwrapped. -/
theorem survives_iff {answers : (c : TradeCall) → c.Reply} (hattended : Attended answers)
    {self : FatCrabMakerActor} (hready : self.Ready) {message : MakerMsg}
    (hformed : self.WellFormed message) :
    self.Survives answers message ↔ ¬ self.Fatal answers message := by
  cases message with
  | request request => exact survives_request_iff hattended hready hformed
  | notif result =>
      cases result with
      | error error =>
          refine iff_of_true ⟨rfl, ?_⟩ id
          intro request hrequest
          cases hrequest
      | ok notif =>
          cases notif with
          | offer envelope => exact survives_offer_iff hattended envelope
          | peer envelope => exact iff_of_true (survives_peer hattended hformed) id

/-! ## Reachable makers -/

/-- The address that a new Sell maker got from its purse is one of the purse's network. -/
def OwnAddress (self : FatCrabMakerActor) : Prop :=
  ∀ sell, self.inner = .sell sell → ∃ address,
    sell.data.btcRxAddr = Bitcoin.addressToString address ∧
    Bitcoin.isValidForNetwork address sell.network = true

/-- Whatever happened to a new maker, its own texts parse. -/
theorem ready_of_run (hround : Bitcoin.RoundTrip) {maker : FatCrabMakerActor}
    (hcreated : maker.Created) (hown : maker.OwnAddress)
    {actor : Actor FatCrabMakerActor MakerMsg tradeInterface}
    (hrun : Actor.Steps code (.launch code maker) actor) (hidle : actor.task = .idle) :
    actor.store.Ready := by
  obtain ⟨inner, uuid, notifTx⟩ := maker
  obtain ⟨⟨role, uuid', notifTx'⟩, task, history⟩ := actor
  cases hidle
  cases inner with
  | buy buy =>
      obtain ⟨order, fatcrabRxAddr, btcFundsId, hdata⟩ := hcreated
      have hsettled : BuySettled buy.terms [] ⟨.buy buy, uuid, notifTx⟩ := by
        simp [BuySettled, BuyKept, hdata, FatCrabMakerBuyData.new, FromPeer, Addressed,
          FromLastPeer]
      have hholds := (Actor.Steps.holds (buy_invariant hround buy.terms) hrun
        (History.always_true _) ⟨hsettled.1, hsettled.start⟩).2
      obtain ⟨⟨-, hkept⟩, hlast⟩ := hholds
      cases role with
      | sell sell => exact hkept.elim
      | buy after =>
          intro text htext
          obtain ⟨address, rfl, hvalid, -⟩ := hlast text htext
          have hnetwork : after.network = buy.terms.network := congrArg (·.network) hkept.1
          refine ⟨address, ?_⟩
          rw [parseAddress_eq, hnetwork]
          exact addressOn_toString hround hvalid
  | sell sell =>
      obtain ⟨order, btcRxAddr, hdata⟩ := hcreated
      obtain ⟨address, hprinted, hvalid⟩ := hown sell rfl
      have hkept : SellKept sell.terms [] ⟨.sell sell, uuid, notifTx⟩ := by
        simp [SellKept, hdata, FatCrabMakerSellData.new]
      have hholds := (Actor.Steps.holds (sell_invariant sell.terms) hrun
        (History.always_true _) ⟨hkept, hkept.start⟩).2
      obtain ⟨-, hafter⟩ := hholds
      cases role with
      | buy buy => exact hafter.elim
      | sell after =>
          have hnetwork : after.network = sell.network := congrArg (·.network) hafter.1
          have haddr : after.data.btcRxAddr = sell.data.btcRxAddr :=
            congrArg (·.btcRxAddr) hafter.1
          refine ⟨address, ?_⟩
          rw [parseAddress_eq, hnetwork, haddr, hprinted]
          exact addressOn_toString hround hvalid

end FatCrabMakerActor

namespace FatCrabTakerActor

/-- A taker whose texts parse: a Buy taker's own address, and the address that the maker of
a Sell taker gave. -/
def Ready (self : FatCrabTakerActor) : Prop :=
  match self.inner with
  | .buy buy => ∃ address, parseAddress buy.data.btcRxAddr buy.network = some address
  | .sell sell => ∀ text, sell.data.peerBtcAddr = some text →
      ∃ address, Bitcoin.addressFromStr text = some address

/-- A trade response that the role can read. -/
def Understands (self : FatCrabTakerActor) : FatCrabTradeRsp → Prop
  | .accept text => self.sell?.isSome = true →
      ∃ address, Bitcoin.addressFromStr text = some address
  | .reject => True

/-- A message as the taker's accessors and a maker with well formed messages send it: a Buy
taker is given the transaction id that it tells of. -/
def WellFormed (self : FatCrabTakerActor) : TakerMsg → Prop
  | .request (.releaseNotifyPeer txid) => self.buy?.isSome = true → txid ≠ none
  | .notif (.ok (.tradeRsp envelope)) => ∃ tradeRsp,
      FatCrabTradeRsp.fromN3xbTradeRsp envelope.tradeRsp = some tradeRsp ∧
        self.Understands tradeRsp
  | .notif (.ok (.peer envelope)) => envelope.message.asFatCrabPeerMessage ≠ none
  | _ => True

/-- What the loop does after a message. -/
def flowAfter : TakerMsg → Flow
  | .request .shutdown => .stop
  | _ => .next

/-- A message served to its end, with what was observed meanwhile. -/
def serve (answers : (c : TradeCall) → c.Reply) (message : TakerMsg) (self : FatCrabTakerActor) :
    Result FatCrabTakerActor (History FatCrabTakerActor TakerMsg tradeInterface) Flow :=
  (handle message).exec (Actor.recording answers) self []

/-- As for a maker. -/
def Survives (answers : (c : TradeCall) → c.Reply) (message : TakerMsg)
    (self : FatCrabTakerActor) : Prop :=
  (serve answers message self).outcome = .done (flowAfter message) ∧
    ∀ request, message = .request request → AnsweredOnce (serve answers message self).environment

/-- A refusal that is unwrapped: the purse does not free the funds of a rejected offer. -/
def Fatal (answers : (c : TradeCall) → c.Reply) (self : FatCrabTakerActor) : TakerMsg → Prop
  | .notif (.ok (.tradeRsp envelope)) => ∃ sell, self.inner = .sell sell ∧
      sell.data.state = .submittedOffer ∧
      FatCrabTradeRsp.fromN3xbTradeRsp envelope.tradeRsp = some .reject ∧
      ∃ error, answers (.purse (.freeFunds sell.data.btcFundsId)) = some (.error error)
  | _ => False

section Survives

attribute [local simp] Survives serve flowAfter handle handleRequest handleNotif AnsweredOnce
  PurseRequest.refused Rsp.isErr Actor.recording setState Fatal Except.isOk
  Except.toBool

variable {answers : (c : TradeCall) → c.Reply} {self : FatCrabTakerActor}
  {buy : FatCrabTakerBuyActor} {sell : FatCrabTakerSellActor} {uuid : Uuid}
  {notifTx : Option NotifTx}

theorem survives_takeOrder (hattended : Attended answers) :
    self.Survives answers (.request .takeOrder) := by
  obtain ⟨inner, uuid, notifTx⟩ := self
  cases htaken : answers (.n3xb .takeOrder) <;> cases inner <;>
    simp [takeOrder, htaken, hattended.requester]

theorem survives_tradeComplete (hattended : Attended answers) :
    self.Survives answers (.request .tradeComplete) := by
  obtain ⟨inner, uuid, notifTx⟩ := self
  cases hcompleted : answers (.n3xb .tradeComplete) <;> cases inner <;>
    simp [FatCrabTakerBuyActor.tradeComplete, FatCrabTakerSellActor.tradeComplete, hcompleted,
      hattended.requester]

theorem survives_notifyPeer (hattended : Attended answers)
    (hready : Ready ⟨.buy buy, uuid, notifTx⟩) {txid : Option String} (htxid : txid ≠ none) :
    Survives answers (.request (.releaseNotifyPeer txid)) ⟨.buy buy, uuid, notifTx⟩ := by
  obtain ⟨address, haddress⟩ := hready
  obtain ⟨text, rfl⟩ := Option.ne_none_iff_exists'.mp htxid
  cases hmessage : answers (.n3xb (.sendPeerMessage (.fatCrabPeerMessage
      ⟨Bitcoin.addressToString address, text⟩))) <;>
    simp [FatCrabTakerBuyActor.notifyPeer, haddress, hmessage, hattended.requester]

/-- The release can fail at four places, and is answered at each of them. -/
theorem survives_releaseNotifyPeer (hattended : Attended answers)
    (hready : Ready ⟨.sell sell, uuid, notifTx⟩) (txid : Option String) :
    Survives answers (.request (.releaseNotifyPeer txid)) ⟨.sell sell, uuid, notifTx⟩ := by
  cases haddr : sell.data.peerBtcAddr with
  | none =>
      simp [FatCrabTakerSellActor.releaseNotifyPeer, FatCrabTakerSellActor.releaseBtcNotifyPeer,
        haddr, hattended.requester]
  | some text =>
      obtain ⟨address, haddress⟩ := hready text haddr
      cases hvalid : Bitcoin.isValidForNetwork address sell.network with
      | false =>
          simp [FatCrabTakerSellActor.releaseNotifyPeer,
            FatCrabTakerSellActor.releaseBtcNotifyPeer, haddr, haddress, hvalid,
            hattended.requester]
      | true =>
          cases hsent : answers (.purse (.sendFunds sell.data.btcFundsId address)) with
          | none => exact absurd hsent (hattended.purse _)
          | some reply =>
              cases reply with
              | error error =>
                  simp [FatCrabTakerSellActor.releaseNotifyPeer,
                    FatCrabTakerSellActor.releaseBtcNotifyPeer, haddr, haddress, hvalid, hsent,
                    hattended.requester]
              | ok paid =>
                  cases hmessage : answers (.n3xb (.sendPeerMessage (.fatCrabPeerMessage
                      ⟨sell.data.fatcrabRxAddr, Bitcoin.txidToString paid⟩))) <;>
                    simp [FatCrabTakerSellActor.releaseNotifyPeer,
                      FatCrabTakerSellActor.releaseBtcNotifyPeer, haddr, haddress, hvalid, hsent,
                      hmessage, hattended.requester]

theorem survives_checkBtcTxConf (hattended : Attended answers) :
    self.Survives answers (.request .checkBtcTxConf) := by
  obtain ⟨inner, uuid, notifTx⟩ := self
  cases inner with
  | sell sell => simp [FatCrabTakerSellActor.checkBtcTxConfirmation, hattended.requester]
  | buy buy =>
      cases htxid : buy.data.peerBtcTxid with
      | none => simp [FatCrabTakerBuyActor.checkBtcTxConfirmation, htxid, hattended.requester]
      | some txid =>
          cases hconf : answers (.purse (.getTxConf txid)) with
          | none => exact absurd hconf (hattended.purse _)
          | some reply =>
              cases reply <;>
                simp [FatCrabTakerBuyActor.checkBtcTxConfirmation, htxid, hconf,
                  hattended.requester]

theorem survives_shutdown (hattended : Attended answers) :
    self.Survives answers (.request .shutdown) := by
  cases hended : answers (.n3xb .shutdown) <;> simp [shutdown, hended, hattended.requester]

/-- Requests that call neither n3xB nor the purse. -/
theorem survives_query (hattended : Attended answers) {request : FatCrabTakerRequest}
    (hquiet : request.quiet = true) (hcheck : request ≠ .checkBtcTxConf)
    (hshutdown : request ≠ .shutdown) : self.Survives answers (.request request) := by
  obtain ⟨inner, uuid, notifTx⟩ := self
  cases request with
  | takeOrder | releaseNotifyPeer | tradeComplete => cases hquiet
  | checkBtcTxConf => exact absurd rfl hcheck
  | shutdown => exact absurd rfl hshutdown
  | getState => simp [getState, hattended.requester]
  | getOrderDetails => simp [getOrderDetails, hattended.requester]
  | getPeerBtcTxid => simp [getPeerBtcTxid, hattended.requester]
  | queryPeerMsg => simp [queryPeerMsg, hattended.requester]
  | queryTradeRsp =>
      cases inner <;>
        simp [FatCrabTakerBuyActor.queryTradeRsp, FatCrabTakerSellActor.queryTradeRsp,
          hattended.requester]
  | registerNotifTx tx => simp [registerNotifTx, setNotifTx, hattended.requester]
  | unregisterNotifTx => simp [unregisterNotifTx, setNotifTx, hattended.requester]

theorem survives_request (hattended : Attended answers) (hready : self.Ready)
    {request : FatCrabTakerRequest} (hformed : self.WellFormed (.request request)) :
    self.Survives answers (.request request) := by
  by_cases hcheck : request = .checkBtcTxConf
  · subst hcheck
    exact survives_checkBtcTxConf hattended
  by_cases hshutdown : request = .shutdown
  · subst hshutdown
    exact survives_shutdown hattended
  by_cases hquiet : request.quiet = true
  · exact survives_query hattended hquiet hcheck hshutdown
  obtain ⟨inner, uuid, notifTx⟩ := self
  cases request with
  | takeOrder => exact survives_takeOrder hattended
  | tradeComplete => exact survives_tradeComplete hattended
  | releaseNotifyPeer txid =>
      cases inner with
      | buy buy => exact survives_notifyPeer hattended hready (hformed rfl)
      | sell sell => exact survives_releaseNotifyPeer hattended hready txid
  | _ => exact absurd rfl hquiet

theorem survives_tradeRsp_buy (hattended : Attended answers) {envelope : TradeResponseEnvelope}
    (hformed : WellFormed ⟨.buy buy, uuid, notifTx⟩ (.notif (.ok (.tradeRsp envelope)))) :
    Survives answers (.notif (.ok (.tradeRsp envelope))) ⟨.buy buy, uuid, notifTx⟩ := by
  obtain ⟨tradeRsp, hrsp, -⟩ := hformed
  by_cases hstate : buy.data.state = .submittedOffer
  · cases hlistener : buy.notifTx <;>
      simp [handleTradeRspNotif, FatCrabTakerBuyActor.handleTradeRspNotif, hstate, hrsp, hlistener,
        hattended.listener]
  · simp [handleTradeRspNotif, hstate]

/-- A Sell taker that goes on to the notice of a response goes on after it. -/
theorem done_of_attended {history : History FatCrabTakerActor TakerMsg tradeInterface}
    {tradeRsp : FatCrabTradeRsp} {envelope : TradeResponseEnvelope}
    (hattended : Attended answers) :
    ((focus sell? putSell (FatCrabTakerSellActor.notifyTradeRsp tradeRsp envelope) >>=
      fun _ => Program.pure Flow.next).exec (Actor.recording answers) ⟨.sell sell, uuid, notifTx⟩
        history).outcome = .done .next :=
  done_exec_notifyTradeRsp _ _ _ _ _ (fun _ _ _ => hattended.listener _ _) _

theorem survives_reject_iff (hattended : Attended answers) {envelope : TradeResponseEnvelope}
    (hrsp : FatCrabTradeRsp.fromN3xbTradeRsp envelope.tradeRsp = some .reject) :
    Survives answers (.notif (.ok (.tradeRsp envelope))) ⟨.sell sell, uuid, notifTx⟩ ↔
      ¬ Fatal answers ⟨.sell sell, uuid, notifTx⟩ (.notif (.ok (.tradeRsp envelope))) := by
  by_cases hstate : sell.data.state = .submittedOffer
  swap
  · simp [handleTradeRspNotif, hstate]
  cases hfreed : answers (.purse (.freeFunds sell.data.btcFundsId)) with
  | none => exact absurd hfreed (hattended.purse _)
  | some reply =>
      cases reply with
      | error error =>
          simp [handleTradeRspNotif, FatCrabTakerSellActor.handleTradeRspNotif, hstate, hrsp,
            hfreed]
      | ok =>
          simp [handleTradeRspNotif, FatCrabTakerSellActor.handleTradeRspNotif, hstate, hrsp,
            hfreed, done_of_attended hattended]

/-- A release that fails after an acceptance is only logged. -/
theorem survives_accept (hattended : Attended answers) {envelope : TradeResponseEnvelope}
    {text : String} {address : Address}
    (hrsp : FatCrabTradeRsp.fromN3xbTradeRsp envelope.tradeRsp = some (.accept text))
    (haddress : Bitcoin.addressFromStr text = some address) :
    Survives answers (.notif (.ok (.tradeRsp envelope))) ⟨.sell sell, uuid, notifTx⟩ := by
  by_cases hstate : sell.data.state = .submittedOffer
  swap
  · simp [handleTradeRspNotif, hstate]
  cases hvalid : Bitcoin.isValidForNetwork address sell.network with
  | false =>
      simp [handleTradeRspNotif, FatCrabTakerSellActor.handleTradeRspNotif,
        FatCrabTakerSellActor.releaseBtcNotifyPeer, hstate, hrsp, haddress, hvalid,
        done_of_attended hattended]
  | true =>
      cases hsent : answers (.purse (.sendFunds sell.data.btcFundsId address)) with
      | none => exact absurd hsent (hattended.purse _)
      | some reply =>
          cases reply with
          | error error =>
              simp [handleTradeRspNotif, FatCrabTakerSellActor.handleTradeRspNotif,
                FatCrabTakerSellActor.releaseBtcNotifyPeer, hstate, hrsp, haddress, hvalid, hsent,
                done_of_attended hattended]
          | ok paid =>
              cases hmessage : answers (.n3xb (.sendPeerMessage (.fatCrabPeerMessage
                  ⟨sell.data.fatcrabRxAddr, Bitcoin.txidToString paid⟩))) <;>
                simp [handleTradeRspNotif, FatCrabTakerSellActor.handleTradeRspNotif,
                  FatCrabTakerSellActor.releaseBtcNotifyPeer, hstate, hrsp, haddress, hvalid, hsent,
                  hmessage, done_of_attended hattended]

theorem survives_peer (hattended : Attended answers) {envelope : PeerEnvelope}
    (hformed : self.WellFormed (.notif (.ok (.peer envelope)))) :
    self.Survives answers (.notif (.ok (.peer envelope))) := by
  obtain ⟨message, hmessage⟩ := Option.ne_none_iff_exists'.mp hformed
  obtain ⟨inner, uuid, notifTx⟩ := self
  by_cases hstate : state ⟨inner, uuid, notifTx⟩ = .notifiedOutbound
  swap
  · simp [handlePeerNotif, hstate]
  cases inner with
  | sell sell =>
      simp only [state_sell] at hstate
      cases notifTx <;> simp [handlePeerNotif, hstate, hmessage, hattended.listener]
  | buy buy =>
      simp only [state_buy] at hstate
      cases hparse : Bitcoin.txidFromStr message.txid <;> cases notifTx <;>
        simp [handlePeerNotif, FatCrabTakerBuyActor.handlePeerNotif, hstate, hmessage, hparse,
          hattended.listener]

end Survives

/-- A taker survives a message exactly if no refusal is unwrapped. -/
theorem survives_iff {answers : (c : TradeCall) → c.Reply} (hattended : Attended answers)
    {self : FatCrabTakerActor} (hready : self.Ready) {message : TakerMsg}
    (hformed : self.WellFormed message) :
    self.Survives answers message ↔ ¬ self.Fatal answers message := by
  cases message with
  | request request =>
      apply iff_of_true (survives_request hattended hready hformed)
      cases request <;> exact id
  | notif result =>
      cases result with
      | error error =>
          refine iff_of_true ⟨rfl, ?_⟩ id
          intro request hrequest
          cases hrequest
      | ok notif =>
          cases notif with
          | peer envelope => exact iff_of_true (survives_peer hattended hformed) id
          | tradeRsp envelope =>
              obtain ⟨inner, uuid, notifTx⟩ := self
              cases inner with
              | buy buy =>
                  apply iff_of_true (survives_tradeRsp_buy hattended hformed)
                  intro hfatal
                  obtain ⟨sell, hsell, -⟩ := hfatal
                  cases hsell
              | sell sell =>
                  obtain ⟨tradeRsp, hrsp, hunderstands⟩ := hformed
                  cases tradeRsp with
                  | reject => exact survives_reject_iff hattended hrsp
                  | accept text =>
                      obtain ⟨address, haddress⟩ := hunderstands rfl
                      apply iff_of_true (survives_accept hattended hrsp haddress)
                      intro hfatal
                      obtain ⟨_, _, _, hreject, -⟩ := hfatal
                      rw [hrsp] at hreject
                      cases hreject

/-! ## Reachable takers -/

/-- The address that a new Buy taker got from its purse is one of the purse's network. -/
def OwnAddress (self : FatCrabTakerActor) : Prop :=
  ∀ buy, self.inner = .buy buy → ∃ address, buy.data.btcRxAddr = Bitcoin.addressToString address ∧
    Bitcoin.isValidForNetwork address buy.network = true

/-- Whatever happened to a new taker, its texts parse, as long as the trade responses that
it received could be read. -/
theorem ready_of_run (hround : Bitcoin.RoundTrip) {taker : FatCrabTakerActor}
    (hcreated : taker.Created) (hown : taker.OwnAddress)
    {actor : Actor FatCrabTakerActor TakerMsg tradeInterface}
    (hrun : Actor.Steps code (.launch code taker) actor)
    (hformed : ∀ message store, Entry.received message store ∈ actor.history →
      taker.WellFormed message) (hidle : actor.task = .idle) :
    actor.store.Ready := by
  obtain ⟨inner, uuid, notifTx⟩ := taker
  obtain ⟨⟨role, uuid', notifTx'⟩, task, history⟩ := actor
  cases hidle
  cases inner with
  | buy buy =>
      obtain ⟨orderEnvelope, btcRxAddr, hdata⟩ := hcreated
      obtain ⟨address, hprinted, hvalid⟩ := hown buy rfl
      have hkept : BuyKept buy.terms [] ⟨.buy buy, uuid, notifTx⟩ := by
        simp [BuyKept, hdata, FatCrabTakerBuyData.new]
      have hholds := (Actor.Steps.holds (buy_invariant buy.terms) hrun
        (History.always_true _) ⟨hkept, hkept.start⟩).2
      obtain ⟨-, hafter⟩ := hholds
      cases role with
      | sell sell => exact hafter.elim
      | buy after =>
          have hnetwork : after.network = buy.network := congrArg (·.network) hafter.1
          have haddr : after.data.btcRxAddr = buy.data.btcRxAddr :=
            congrArg (·.btcRxAddr) hafter.1
          refine ⟨address, ?_⟩
          rw [parseAddress_eq, hnetwork, haddr, hprinted]
          exact addressOn_toString hround hvalid
  | sell sell =>
      obtain ⟨orderEnvelope, fatcrabRxAddr, btcFundsId, hdata⟩ := hcreated
      have hsettled : SellSettled sell.terms [] ⟨.sell sell, uuid, notifTx⟩ := by
        simp [SellSettled, SellKept, hdata, FatCrabTakerSellData.new, lastAcceptText]
      have hholds := (Actor.Steps.holds (sell_invariant sell.terms) hrun
        (History.always_true _) ⟨hsettled.1, hsettled.start⟩).2
      obtain ⟨-, hstored⟩ := hholds
      cases role with
      | buy buy => exact hstored.elim
      | sell after =>
          intro text htext
          obtain ⟨envelope, store, hmem, hrsp⟩ :=
            received_of_lastAcceptText (hstored.symm.trans htext)
          obtain ⟨tradeRsp, hread, hunderstands⟩ := hformed _ store hmem
          rw [hrsp] at hread
          cases hread
          exact hunderstands rfl

end FatCrabTakerActor

/-- For makers and takers that were reached by any run from their creation, with the
requester, the listener and the purse there and with well formed messages: a message is
survived exactly if no refusal of it is unwrapped. -/
theorem refusal_survived_iff (hround : Bitcoin.RoundTrip) :
    (∀ (maker : FatCrabMakerActor) actor answers message, maker.Created → maker.OwnAddress →
      Actor.Steps FatCrabMakerActor.code (.launch FatCrabMakerActor.code maker) actor →
      actor.task = .idle → Attended answers → actor.store.WellFormed message →
        (actor.store.Survives answers message ↔ ¬ actor.store.Fatal answers message)) ∧
    ∀ (taker : FatCrabTakerActor) actor answers message, taker.Created → taker.OwnAddress →
      Actor.Steps FatCrabTakerActor.code (.launch FatCrabTakerActor.code taker) actor →
      (∀ message store, Entry.received message store ∈ actor.history → taker.WellFormed message) →
      actor.task = .idle → Attended answers → actor.store.WellFormed message →
        (actor.store.Survives answers message ↔ ¬ actor.store.Fatal answers message) := by
  constructor
  · intro maker actor answers message hcreated hown hrun hidle hattended hformed
    have hready := FatCrabMakerActor.ready_of_run hround hcreated hown hrun hidle
    exact FatCrabMakerActor.survives_iff hattended hready hformed
  · intro taker actor answers message hcreated hown hrun hpast hidle hattended hformed
    have hready := FatCrabTakerActor.ready_of_run hround hcreated hown hrun hpast hidle
    exact FatCrabTakerActor.survives_iff hattended hready hformed

end Refusal

section Sample

open Sample

theorem attended_obliging : Attended obliging := by
  constructor
  · exact fun _ => rfl
  · exact fun _ _ => rfl
  · intro request hnone
    cases hnone

/-- Surroundings in which only the purse refuses to free funds. -/
def unfreeable : (c : TradeCall) → c.Reply
  | .purse (.freeFunds _) => some (.error (.simple "Could not find allocated funds"))
  | c => obliging c

theorem attended_unfreeable : Attended unfreeable := by
  constructor
  · exact fun _ => rfl
  · exact fun _ _ => rfl
  · intro request
    cases request <;> exact Option.some_ne_none _

/-- A posted order is cancelled, and a taken order is completed. -/
theorem refusal_survived_iff_of_posted :
    (((Actor.opened FatCrabMakerActor.code obliging buyMaker).deliver FatCrabMakerActor.code
        obliging (.request .postNewOrder)).store.Survives obliging (.request .cancelOrder) ↔
      ¬ ((Actor.opened FatCrabMakerActor.code obliging buyMaker).deliver FatCrabMakerActor.code
        obliging (.request .postNewOrder)).store.Fatal obliging (.request .cancelOrder)) ∧
    ((Actor.opened FatCrabTakerActor.code obliging sellTaker).store.Survives obliging
        (.request .takeOrder) ↔
      ¬ (Actor.opened FatCrabTakerActor.code obliging sellTaker).store.Fatal obliging
        (.request .takeOrder)) := by
  constructor
  · apply (refusal_survived_iff roundTrip).1 buyMaker _ obliging (.request .cancelOrder)
      ⟨_, _, _, rfl⟩ ?_ ((Actor.steps_opened _ _).trans (Actor.steps_deliver _ _ _)) rfl
      attended_obliging trivial
    intro sell hsell
    cases hsell
  · apply (refusal_survived_iff roundTrip).2 sellTaker _ obliging (.request .takeOrder)
      ⟨_, _, _, rfl⟩ ?_ (Actor.steps_opened _ _) ?_ rfl attended_obliging trivial
    · intro buy hbuy
      cases hbuy
    · intro message store hmem
      rcases List.mem_singleton.mp hmem with ⟨⟩

/-- The order is cancelled at n3xB, the purse does not free its funds, and the maker dies. -/
theorem killed_by_refusal : ∃ actor : Actor FatCrabMakerActor MakerMsg tradeInterface,
    Actor.Steps FatCrabMakerActor.code (.launch FatCrabMakerActor.code buyMaker) actor ∧
      actor.task = .idle ∧ Attended unfreeable ∧
      actor.store.WellFormed (.request .cancelOrder) ∧
      ¬ actor.store.Survives unfreeable (.request .cancelOrder) ∧
      (actor.deliver FatCrabMakerActor.code unfreeable (.request .cancelOrder)).task = .dead := by
  refine ⟨_, Actor.steps_opened_deliverAll obliging buyMaker [(obliging, .request .postNewOrder)],
    rfl, attended_unfreeable, trivial, ?_, by decide +kernel⟩
  intro hsurvives
  have hflow := hsurvives.1
  revert hflow
  decide +kernel

end Sample

end FatCrabTrading
