import FatCrabTrading.Sample
import FatCrabTrading.Taker.TradeResponse

/-! # Listening as an observation

A listener is told what a notification changed. Where the handler records before it
looks for a listener, the data do not depend on there being one. An offer at a maker and
a trade response at a Buy taker are recorded only for a listener, so they are lost
without one.
-/

namespace FatCrabTrading

open Effect Program

section Listening

variable [Bitcoin]

/-- The same answers, with every listener there. -/
def hearing (answers : (c : TradeCall) → c.Reply) : (c : TradeCall) → c.Reply
  | .notify _ _ => true
  | c => answers c

@[simp] theorem hearing_notify (answers : (c : TradeCall) → c.Reply) (notifTx : NotifTx)
    (notif : TradeNotif) : hearing answers (.notify notifTx notif) = true := rfl

@[simp] theorem hearing_n3xb (answers : (c : TradeCall) → c.Reply) (request : N3xbRequest) :
    hearing answers (.n3xb request) = answers (.n3xb request) := rfl

@[simp] theorem hearing_purse (answers : (c : TradeCall) → c.Reply) (request : PurseRequest) :
    hearing answers (.purse request) = answers (.purse request) := rfl

namespace FatCrabMakerActor

/-- The maker without its listener. -/
def deaf (self : FatCrabMakerActor) : FatCrabMakerActor := { self with notifTx := none }

/-- The same maker with a listener. -/
def attended (self : FatCrabMakerActor) : FatCrabMakerActor := { self with notifTx := some ⟨0⟩ }

/-- A script of notifications and registrations. Registered listeners and requesters are
there, and no valid offer arrives for recording without a listener. -/
def Listens (actor : Actor FatCrabMakerActor MakerMsg tradeInterface)
    (item : ((c : TradeCall) → c.Reply) × MakerMsg) : Prop :=
  (∀ notifTx notif, actor.store.notifTx = some notifTx →
    item.1 (.notify notifTx notif) = true) ∧
  match item.2 with
  | .request (.registerNotifTx _) | .request .unregisterNotifTx =>
      ∀ rsp, item.1 (.respond rsp) = true
  | .request _ => False
  | .notif (.ok (.offer envelope)) =>
      FatCrabOffer.validateN3xbOffer envelope.offer = .ok () →
        actor.store.state = .waitingForOffers ∨ actor.store.state = .receivedOffer →
          actor.store.notifTx ≠ none
  | .notif _ => True

/-- The items that the view depends on. -/
def isNotif (item : ((c : TradeCall) → c.Reply) × MakerMsg) : Bool :=
  match item.2 with
  | .notif _ => true
  | .request _ => false

section Agree

attribute [local simp] handle handleNotif handleOfferNotif handleOfferInUnexpectedState
  recordOffer handlePeerNotif setState peerNotifState deaf attended Actor.recording

variable {answers : (c : TradeCall) → c.Reply} {buy : FatCrabMakerBuyActor}
  {sell : FatCrabMakerSellActor} {uuid : Uuid} {notifTx : Option NotifTx}
  {history other : History FatCrabMakerActor MakerMsg tradeInterface}

theorem agree_offer_attended {envelope : OfferEnvelope} {inner : FatCrabMakerInnerActor}
    (hthere : ∀ listener notif, notifTx = some listener →
      answers (.notify listener notif) = true)
    (hlistens : FatCrabOffer.validateN3xbOffer envelope.offer = .ok () →
      state ⟨inner, uuid, notifTx⟩ = .waitingForOffers ∨
        state ⟨inner, uuid, notifTx⟩ = .receivedOffer → notifTx ≠ none) :
    Actor.Agree deaf
      ((handle (.notif (.ok (.offer envelope)))).exec (Actor.recording answers)
        ⟨inner, uuid, notifTx⟩ history)
      ((handle (.notif (.ok (.offer envelope)))).exec (Actor.recording (hearing answers))
        (attended ⟨inner, uuid, notifTx⟩) other) := by
  unfold Actor.Agree
  by_cases hstate : state ⟨inner, uuid, notifTx⟩ = .waitingForOffers ∨
      state ⟨inner, uuid, notifTx⟩ = .receivedOffer
  · cases hvalid : FatCrabOffer.validateN3xbOffer envelope.offer with
    | error error => cases inner <;> simp at hstate <;> simp [hstate, hvalid]
    | ok =>
        cases notifTx with
        | none => exact absurd rfl (hlistens hvalid hstate)
        | some listener =>
            have htold := fun notif => hthere listener notif rfl
            cases inner <;> simp at hstate <;> simp [hstate, hvalid, htold]
  · cases hrejected : answers (.n3xb (.rejectOffer (rejectTradeRsp envelope.eventId
        (unexpectedOfferReason (state ⟨inner, uuid, notifTx⟩))))) <;>
      cases inner <;> simp at hstate hrejected <;> simp [hstate, hrejected]

theorem agree_peer_buy {envelope : PeerEnvelope}
    (hthere : ∀ listener notif, notifTx = some listener →
      answers (.notify listener notif) = true) :
    Actor.Agree deaf
      ((handle (.notif (.ok (.peer envelope)))).exec (Actor.recording answers)
        ⟨.buy buy, uuid, notifTx⟩ history)
      ((handle (.notif (.ok (.peer envelope)))).exec (Actor.recording (hearing answers))
        (attended ⟨.buy buy, uuid, notifTx⟩) other) := by
  unfold Actor.Agree
  by_cases hstate : buy.data.state = .acceptedOffer
  swap
  · simp [hstate]
  cases hmessage : envelope.message.asFatCrabPeerMessage with
  | none => simp [hstate, hmessage]
  | some message =>
      cases hparse : Bitcoin.addressFromStr message.receiveAddress with
      | none => simp [FatCrabMakerBuyActor.handlePeerNotif, hstate, hmessage, hparse]
      | some address =>
          cases hvalid : Bitcoin.isValidForNetwork address buy.network with
          | false => simp [FatCrabMakerBuyActor.handlePeerNotif, hstate, hmessage, hparse, hvalid]
          | true =>
              cases notifTx with
              | none =>
                  simp [FatCrabMakerBuyActor.handlePeerNotif, hstate, hmessage, hparse, hvalid]
              | some listener =>
                  have htold := fun notif => hthere listener notif rfl
                  simp [FatCrabMakerBuyActor.handlePeerNotif, hstate, hmessage, hparse, hvalid,
                    htold]

theorem agree_peer_sell {envelope : PeerEnvelope}
    (hthere : ∀ listener notif, notifTx = some listener →
      answers (.notify listener notif) = true) :
    Actor.Agree deaf
      ((handle (.notif (.ok (.peer envelope)))).exec (Actor.recording answers)
        ⟨.sell sell, uuid, notifTx⟩ history)
      ((handle (.notif (.ok (.peer envelope)))).exec (Actor.recording (hearing answers))
        (attended ⟨.sell sell, uuid, notifTx⟩) other) := by
  unfold Actor.Agree
  by_cases hstate : sell.data.state = .acceptedOffer
  swap
  · simp [hstate]
  cases hmessage : envelope.message.asFatCrabPeerMessage with
  | none => simp [hstate, hmessage]
  | some message =>
      cases hparse : Bitcoin.txidFromStr message.txid with
      | none => simp [FatCrabMakerSellActor.handlePeerNotif, hstate, hmessage, hparse]
      | some txid =>
          cases notifTx with
          | none => simp [FatCrabMakerSellActor.handlePeerNotif, hstate, hmessage, hparse]
          | some listener =>
              have htold := fun notif => hthere listener notif rfl
              simp [FatCrabMakerSellActor.handlePeerNotif, hstate, hmessage, hparse, htold]

theorem agree_notif {result : Except N3xbError MakerNotif} {self : FatCrabMakerActor}
    {past : History FatCrabMakerActor MakerMsg tradeInterface}
    (hlistens : Listens ⟨self, .idle, past⟩ (answers, .notif result)) :
    Actor.Agree deaf ((handle (.notif result)).exec (Actor.recording answers) self history)
      ((handle (.notif result)).exec (Actor.recording (hearing answers)) (attended self)
        other) := by
  obtain ⟨inner, uuid, notifTx⟩ := self
  obtain ⟨hthere, hlistens⟩ := hlistens
  cases result with
  | error error => exact ⟨rfl, rfl⟩
  | ok notif =>
      cases notif with
      | offer envelope =>
          exact agree_offer_attended (fun listener notif => hthere listener notif) hlistens
      | peer envelope =>
          cases inner with
          | buy buy => exact agree_peer_buy (fun listener notif => hthere listener notif)
          | sell sell => exact agree_peer_sell (fun listener notif => hthere listener notif)

theorem agree_registration {request : FatCrabMakerRequest} {self : FatCrabMakerActor}
    {past : History FatCrabMakerActor MakerMsg tradeInterface}
    (hlistens : Listens ⟨self, .idle, past⟩ (answers, .request request)) :
    Actor.Agree deaf ((handle (.request request)).exec (Actor.recording answers) self history)
      ⟨.done .next, self, history⟩ := by
  obtain ⟨-, hwaiting⟩ := hlistens
  cases request with
  | registerNotifTx tx =>
      have hresponds : ∀ rsp, answers (.respond rsp) = true := hwaiting
      simp [Actor.Agree, handleRequest, registerNotifTx, setNotifTx, hresponds]
  | unregisterNotifTx =>
      have hresponds : ∀ rsp, answers (.respond rsp) = true := hwaiting
      simp [Actor.Agree, handleRequest, unregisterNotifTx, setNotifTx, hresponds]
  | _ => exact hwaiting.elim

end Agree

/-- The view of a maker depends on the notifications only. -/
theorem view_script {script : List (((c : TradeCall) → c.Reply) × MakerMsg)}
    {actor : Actor FatCrabMakerActor MakerMsg tradeInterface}
    (halong : Actor.Along code Listens script actor) :
    Actor.view deaf (actor.deliverAll code script) =
      (script.filter isNotif).foldl (Actor.follow code deaf attended hearing)
        (Actor.view deaf actor) := by
  refine Actor.view_deliverAll ?_ ?_ halong
  · intro self past answers message hlistens hnotif history other
    cases message with
    | request request => cases hnotif
    | notif result => exact agree_notif hlistens
  · intro self past answers message hlistens hnotif history
    cases message with
    | request request => exact agree_registration hlistens
    | notif result => cases hnotif

end FatCrabMakerActor

namespace FatCrabTakerActor

/-- The taker without its listener. -/
def deaf (self : FatCrabTakerActor) : FatCrabTakerActor := withNotifTx none self

/-- The same taker with a listener. -/
def attended (self : FatCrabTakerActor) : FatCrabTakerActor := withNotifTx (some ⟨0⟩) self

/-- A script of notifications and registrations. Registered listeners and requesters are
there, and no trade response arrives at a Buy taker for recording without a listener. -/
def Listens (actor : Actor FatCrabTakerActor TakerMsg tradeInterface)
    (item : ((c : TradeCall) → c.Reply) × TakerMsg) : Prop :=
  (∀ notifTx notif, actor.store.notifTx = some notifTx ∨ actor.store.listener = some notifTx →
    item.1 (.notify notifTx notif) = true) ∧
  match item.2 with
  | .request (.registerNotifTx _) | .request .unregisterNotifTx =>
      ∀ rsp, item.1 (.respond rsp) = true
  | .request _ => False
  | .notif (.ok (.tradeRsp envelope)) => ∀ buy tradeRsp, actor.store.inner = .buy buy →
      FatCrabTradeRsp.fromN3xbTradeRsp envelope.tradeRsp = some tradeRsp →
        buy.data.state = .submittedOffer → buy.notifTx ≠ none
  | .notif _ => True

/-- The items that the view depends on. -/
def isNotif (item : ((c : TradeCall) → c.Reply) × TakerMsg) : Bool :=
  match item.2 with
  | .notif _ => true
  | .request _ => false

section Agree

attribute [local simp] handle handleNotif handleTradeRspNotif handlePeerNotif deaf attended
  withNotifTx Actor.recording FatCrabTakerBuyActor.handleTradeRspNotif
  FatCrabTakerSellActor.handleTradeRspNotif FatCrabTakerSellActor.releaseBtcNotifyPeer
  FatCrabTakerBuyActor.handlePeerNotif

variable {answers : (c : TradeCall) → c.Reply} {buy : FatCrabTakerBuyActor}
  {sell : FatCrabTakerSellActor} {uuid : Uuid} {notifTx : Option NotifTx}
  {history other : History FatCrabTakerActor TakerMsg tradeInterface}

theorem agree_tradeRsp_buy {envelope : TradeResponseEnvelope}
    (hthere : ∀ listener notif, buy.notifTx = some listener →
      answers (.notify listener notif) = true)
    (hlistens : ∀ tradeRsp, FatCrabTradeRsp.fromN3xbTradeRsp envelope.tradeRsp = some tradeRsp →
      buy.data.state = .submittedOffer → buy.notifTx ≠ none) :
    Actor.Agree deaf
      ((handle (.notif (.ok (.tradeRsp envelope)))).exec (Actor.recording answers)
        ⟨.buy buy, uuid, notifTx⟩ history)
      ((handle (.notif (.ok (.tradeRsp envelope)))).exec (Actor.recording (hearing answers))
        (attended ⟨.buy buy, uuid, notifTx⟩) other) := by
  unfold Actor.Agree
  by_cases hstate : buy.data.state = .submittedOffer
  swap
  · simp [hstate]
  cases hrsp : FatCrabTradeRsp.fromN3xbTradeRsp envelope.tradeRsp with
  | none => simp [hstate, hrsp]
  | some tradeRsp =>
      cases hlistener : buy.notifTx with
      | none => exact absurd hlistener (hlistens tradeRsp hrsp hstate)
      | some listener =>
          have htold := fun notif => hthere listener notif hlistener
          simp [hstate, hrsp, hlistener, htold]

/-- An acceptance with an address that parses: the release may fail at three places. -/
theorem agree_accept {envelope : TradeResponseEnvelope} {text : String} {address : Address}
    (hthere : ∀ listener notif, sell.notifTx = some listener →
      answers (.notify listener notif) = true)
    (hstate : sell.data.state = .submittedOffer)
    (hrsp : FatCrabTradeRsp.fromN3xbTradeRsp envelope.tradeRsp = some (.accept text))
    (hparse : Bitcoin.addressFromStr text = some address) :
    Actor.Agree deaf
      ((handle (.notif (.ok (.tradeRsp envelope)))).exec (Actor.recording answers)
        ⟨.sell sell, uuid, notifTx⟩ history)
      ((handle (.notif (.ok (.tradeRsp envelope)))).exec (Actor.recording (hearing answers))
        (attended ⟨.sell sell, uuid, notifTx⟩) other) := by
  unfold Actor.Agree
  have hhears : ∀ listener notif, some ⟨0⟩ = some listener →
      hearing answers (.notify listener notif) = true := fun _ _ _ => rfl
  cases hvalid : Bitcoin.isValidForNetwork address sell.network with
  | false => simp (disch := assumption) [hstate, hrsp, hparse, hvalid, done_exec_notifyTradeRsp]
  | true =>
      rcases hsent : answers (.purse (.sendFunds sell.data.btcFundsId address)) with
        _ | error | txid
      · simp [hstate, hrsp, hparse, hvalid, hsent]
      · simp (disch := assumption) [hstate, hrsp, hparse, hvalid, hsent, done_exec_notifyTradeRsp]
      · -- the funds are gone already, whatever n3xB says now
        cases hmessage : answers (.n3xb (.sendPeerMessage
            (.fatCrabPeerMessage ⟨sell.data.fatcrabRxAddr, Bitcoin.txidToString txid⟩))) <;>
          simp (disch := assumption) [hstate, hrsp, hparse, hvalid, hsent, hmessage,
            done_exec_notifyTradeRsp]

theorem agree_tradeRsp_sell {envelope : TradeResponseEnvelope}
    (hthere : ∀ listener notif, sell.notifTx = some listener →
      answers (.notify listener notif) = true) :
    Actor.Agree deaf
      ((handle (.notif (.ok (.tradeRsp envelope)))).exec (Actor.recording answers)
        ⟨.sell sell, uuid, notifTx⟩ history)
      ((handle (.notif (.ok (.tradeRsp envelope)))).exec (Actor.recording (hearing answers))
        (attended ⟨.sell sell, uuid, notifTx⟩) other) := by
  unfold Actor.Agree
  have hhears : ∀ listener notif, some ⟨0⟩ = some listener →
      hearing answers (.notify listener notif) = true := fun _ _ _ => rfl
  by_cases hstate : sell.data.state = .submittedOffer
  swap
  · simp [hstate]
  cases hrsp : FatCrabTradeRsp.fromN3xbTradeRsp envelope.tradeRsp with
  | none => simp [hstate, hrsp]
  | some tradeRsp =>
      cases tradeRsp with
      | reject =>
          cases hfreed : answers (.purse (.freeFunds sell.data.btcFundsId)) with
          | none => simp [hstate, hrsp, hfreed]
          | some reply =>
              cases reply with
              | error error => simp [hstate, hrsp, hfreed]
              | ok =>
                  simp (disch := assumption) [hstate, hrsp, hfreed, done_exec_notifyTradeRsp]
      | accept text =>
          cases hparse : Bitcoin.addressFromStr text with
          | none => simp [hstate, hrsp, hparse]
          | some address => exact agree_accept hthere hstate hrsp hparse

theorem agree_peer_buy {envelope : PeerEnvelope}
    (hthere : ∀ listener notif, notifTx = some listener →
      answers (.notify listener notif) = true) :
    Actor.Agree deaf
      ((handle (.notif (.ok (.peer envelope)))).exec (Actor.recording answers)
        ⟨.buy buy, uuid, notifTx⟩ history)
      ((handle (.notif (.ok (.peer envelope)))).exec (Actor.recording (hearing answers))
        (attended ⟨.buy buy, uuid, notifTx⟩) other) := by
  unfold Actor.Agree
  by_cases hstate : buy.data.state = .notifiedOutbound
  swap
  · simp [hstate]
  cases hmessage : envelope.message.asFatCrabPeerMessage with
  | none => simp [hstate, hmessage]
  | some message =>
      cases hparse : Bitcoin.txidFromStr message.txid <;>
        cases notifTx with
        | none => simp [hstate, hmessage, hparse]
        | some listener =>
            have htold := fun notif => hthere listener notif rfl
            simp [hstate, hmessage, hparse, htold]

theorem agree_peer_sell {envelope : PeerEnvelope}
    (hthere : ∀ listener notif, notifTx = some listener →
      answers (.notify listener notif) = true) :
    Actor.Agree deaf
      ((handle (.notif (.ok (.peer envelope)))).exec (Actor.recording answers)
        ⟨.sell sell, uuid, notifTx⟩ history)
      ((handle (.notif (.ok (.peer envelope)))).exec (Actor.recording (hearing answers))
        (attended ⟨.sell sell, uuid, notifTx⟩) other) := by
  unfold Actor.Agree
  by_cases hstate : sell.data.state = .notifiedOutbound
  swap
  · simp [hstate]
  cases hmessage : envelope.message.asFatCrabPeerMessage with
  | none => simp [hstate, hmessage]
  | some message =>
      cases notifTx with
      | none => simp [hstate, hmessage]
      | some listener =>
          have htold := fun notif => hthere listener notif rfl
          simp [hstate, hmessage, htold]

theorem agree_notif {result : Except N3xbError TakerNotif} {self : FatCrabTakerActor}
    {past : History FatCrabTakerActor TakerMsg tradeInterface}
    (hlistens : Listens ⟨self, .idle, past⟩ (answers, .notif result)) :
    Actor.Agree deaf ((handle (.notif result)).exec (Actor.recording answers) self history)
      ((handle (.notif result)).exec (Actor.recording (hearing answers)) (attended (deaf self))
        other) := by
  obtain ⟨inner, uuid, notifTx⟩ := self
  obtain ⟨hthere, hlistens⟩ := hlistens
  have houter := fun listener notif (h : notifTx = some listener) => hthere listener notif (.inl h)
  have hinner := fun listener notif h => hthere listener notif (.inr h)
  cases result with
  | error error => cases inner <;> exact ⟨rfl, rfl⟩
  | ok notif =>
      cases notif with
      | tradeRsp envelope =>
          cases inner with
          | buy buy =>
              exact agree_tradeRsp_buy hinner fun tradeRsp => hlistens buy tradeRsp rfl
          | sell sell => exact agree_tradeRsp_sell hinner
      | peer envelope =>
          cases inner with
          | buy buy => exact agree_peer_buy houter
          | sell sell => exact agree_peer_sell houter

theorem agree_registration {request : FatCrabTakerRequest} {self : FatCrabTakerActor}
    {past : History FatCrabTakerActor TakerMsg tradeInterface}
    (hlistens : Listens ⟨self, .idle, past⟩ (answers, .request request)) :
    Actor.Agree deaf ((handle (.request request)).exec (Actor.recording answers) self history)
      ⟨.done .next, self, history⟩ := by
  obtain ⟨inner, uuid, notifTx⟩ := self
  obtain ⟨-, hwaiting⟩ := hlistens
  cases request with
  | registerNotifTx tx =>
      have hresponds : ∀ rsp, answers (.respond rsp) = true := hwaiting
      cases inner <;> simp [Actor.Agree, handleRequest, registerNotifTx, setNotifTx, hresponds]
  | unregisterNotifTx =>
      have hresponds : ∀ rsp, answers (.respond rsp) = true := hwaiting
      cases inner <;> simp [Actor.Agree, handleRequest, unregisterNotifTx, setNotifTx, hresponds]
  | _ => exact hwaiting.elim

end Agree

/-- The view of a taker depends on the notifications only. -/
theorem view_script {script : List (((c : TradeCall) → c.Reply) × TakerMsg)}
    {actor : Actor FatCrabTakerActor TakerMsg tradeInterface}
    (halong : Actor.Along code Listens script actor) :
    Actor.view deaf (actor.deliverAll code script) =
      (script.filter isNotif).foldl (Actor.follow code deaf attended hearing)
        (Actor.view deaf actor) := by
  refine Actor.view_deliverAll ?_ ?_ halong
  · intro self past answers message hlistens hnotif history other
    cases message with
    | request request => cases hnotif
    | notif result => exact agree_notif hlistens
  · intro self past answers message hlistens hnotif history
    cases message with
    | request request => exact agree_registration hlistens
    | notif result => cases hnotif

end FatCrabTakerActor

/-- Two scripts with the same notifications, and any registrations between them, lead two
makers, or two takers, of one trade to the same trade, as long as nothing that is recorded
only for a listener arrives without one. -/
theorem listening :
    (∀ actor other first second,
      Actor.view FatCrabMakerActor.deaf actor = Actor.view FatCrabMakerActor.deaf other →
      Actor.Along FatCrabMakerActor.code FatCrabMakerActor.Listens first actor →
      Actor.Along FatCrabMakerActor.code FatCrabMakerActor.Listens second other →
      first.filter FatCrabMakerActor.isNotif = second.filter FatCrabMakerActor.isNotif →
        Actor.view FatCrabMakerActor.deaf (actor.deliverAll FatCrabMakerActor.code first) =
          Actor.view FatCrabMakerActor.deaf (other.deliverAll FatCrabMakerActor.code second)) ∧
    (∀ actor other first second,
      Actor.view FatCrabTakerActor.deaf actor = Actor.view FatCrabTakerActor.deaf other →
      Actor.Along FatCrabTakerActor.code FatCrabTakerActor.Listens first actor →
      Actor.Along FatCrabTakerActor.code FatCrabTakerActor.Listens second other →
      first.filter FatCrabTakerActor.isNotif = second.filter FatCrabTakerActor.isNotif →
        Actor.view FatCrabTakerActor.deaf (actor.deliverAll FatCrabTakerActor.code first) =
          Actor.view FatCrabTakerActor.deaf (other.deliverAll FatCrabTakerActor.code second)) := by
  constructor
  · intro actor other first second hview hfirst hsecond hnotifs
    rw [FatCrabMakerActor.view_script hfirst, FatCrabMakerActor.view_script hsecond, hnotifs,
      hview]
  · intro actor other first second hview hfirst hsecond hnotifs
    rw [FatCrabTakerActor.view_script hfirst, FatCrabTakerActor.view_script hsecond, hnotifs,
      hview]

end Listening

section Sample

open Sample FatCrabMakerActor

/-- A maker that posted its order and one that also registered a listener, withdrew it and
registered another record the same offer. -/
theorem listening_of_registered :
    let posted := (Actor.opened code obliging buyMaker).deliver code obliging
      (.request .postNewOrder)
    Actor.view deaf (posted.deliverAll code
        [(obliging, .request (.registerNotifTx ⟨0⟩)),
          (obliging, .notif (.ok (.offer offer.envelope)))]) =
      Actor.view deaf (posted.deliverAll code
        [(obliging, .request (.registerNotifTx ⟨0⟩)), (obliging, .request .unregisterNotifTx),
          (obliging, .request (.registerNotifTx ⟨1⟩)),
          (obliging, .notif (.ok (.offer offer.envelope)))]) := by
  refine listening.1 _ _ _ _ rfl ?_ ?_ rfl
  · refine ⟨⟨fun _ _ _ => rfl, fun _ => rfl⟩, ⟨fun _ _ _ => rfl, fun _ _ => ?_⟩, trivial⟩
    decide +kernel
  · refine ⟨⟨fun _ _ _ => rfl, fun _ => rfl⟩, ⟨fun _ _ _ => rfl, fun _ => rfl⟩,
      ⟨fun _ _ _ => rfl, fun _ => rfl⟩, ⟨fun _ _ _ => rfl, fun _ _ => ?_⟩, trivial⟩
    decide +kernel

/-- An offer is recorded for a listener and lost without one. -/
theorem unheard_offer : ∃ actor : Actor FatCrabMakerActor MakerMsg tradeInterface,
    Actor.Steps code (.launch code buyMaker) actor ∧ actor.task = .idle ∧
      (actor.deliverAll code [(obliging, .request (.registerNotifTx ⟨0⟩)),
        (obliging, .notif (.ok (.offer offer.envelope)))]).store.state = .receivedOffer ∧
      (actor.deliverAll code
        [(obliging, .notif (.ok (.offer offer.envelope)))]).store.state = .waitingForOffers := by
  refine ⟨_, Actor.steps_opened_deliverAll obliging buyMaker
    [(obliging, .request .postNewOrder)], ?_, ?_, ?_⟩ <;> decide +kernel

end Sample

end FatCrabTrading
