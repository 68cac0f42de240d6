import FatCrabTrading.Purse.Conservation
import FatCrabTrading.Refusal

/-! # Tasks that can rely on their surroundings

A maker or a taker panics if a client or the purse is gone, if a refusal is unwrapped, or if
it is told something that it cannot read. If none of this happens it goes on until it is told
to shut down, and then it ends with its store written.
-/

namespace FatCrabTrading

open Effect Program

section Endurance

variable [Bitcoin]

/-- n3xB, the listeners and the requesters do what the caller unwraps. -/
def TradeCall.Granted : (c : TradeCall) → c.Reply → Prop
  | .notify _ _, sent => sent = true
  | .respond _, sent => sent = true
  | .n3xb .registerNotifTx, reply => reply = .ok ()
  | .n3xb (.acceptOffer _), reply => reply = .ok ()
  | .n3xb (.rejectOffer _), reply => reply = .ok ()
  | .n3xb _, _ | .purse _, _ | .terminate, _ => True

/-- The purse answers, and frees what it is asked to free. -/
def TradeCall.Served : (c : TradeCall) → c.Reply → Prop
  | .purse (.freeFunds _), reply => reply = some (.ok ())
  | .purse _, reply => reply ≠ none
  | _, _ => True

/-- An answer that does no harm: nothing is cancelled, and the purse pays nothing. -/
def TradeCall.calm : (c : TradeCall) → c.Reply
  | .purse (.freeFunds _) => some (.ok ())
  | .purse request => some (request.refusal (.simple ""))
  | .n3xb .cancelOrder => .error ⟨""⟩
  | .n3xb _ => .ok ()
  | .notify _ _ | .respond _ => true
  | .terminate => ()

theorem TradeCall.granted_calm (c : TradeCall) : c.Granted c.calm := by
  cases c with
  | n3xb request => cases request <;> simp [Granted, calm]
  | purse request | terminate => trivial
  | notify notifTx notif | respond rsp => rfl

theorem TradeCall.served_calm (c : TradeCall) : c.Served c.calm := by
  cases c with
  | purse request => cases request <;> simp [Served, calm]
  | n3xb request | notify notifTx notif | respond rsp | terminate => trivial

section LetGo

variable {σ Msg : Type} {fundsId : Uuid} {history : History σ Msg tradeInterface}

/-- The purse has told that the funds of this id are paid, or that they are free. -/
def LetGo (fundsId : Uuid) (history : History σ Msg tradeInterface) : Prop :=
  (∃ address txid, Made (.purse (.sendFunds fundsId address)) (some (.ok txid)) history) ∨
    Made (.purse (.freeFunds fundsId)) (some (.ok ())) history

@[simp] theorem letGo_received (message : Msg) (store : σ) :
    LetGo fundsId (.received message store :: history) ↔ LetGo fundsId history := by
  simp [LetGo, Made]

@[simp] theorem letGo_n3xb (request : N3xbRequest) (reply : Except N3xbError Unit) (store : σ) :
    LetGo fundsId (.called (.n3xb request) reply store :: history) ↔ LetGo fundsId history := by
  simp [LetGo, Made]

end LetGo

/-- The requests of makers and takers: the purse survives them, and frees only what was not let
go before. -/
def PurseRequest.Harmless {σ Msg : Type} (past : History σ Msg tradeInterface) :
    PurseRequest → Prop
  | .freeFunds fundsId => ¬LetGo fundsId past
  | .getMnemonic | .getRxAddress | .sendFunds _ _ | .getHeight | .getTxConf _ => True
  | .getBalances | .allocateFunds _ | .syncBlockchain | .shutdown => False

/-- The purse is asked only while it may be, and nothing that harms it. -/
def SparesPurse {σ Msg : Type} (serving : Prop) :
    Entry σ Msg tradeInterface → History σ Msg tradeInterface → Prop
  | .called (.purse request) _ _, past => serving ∧ request.Harmless past
  | _, _ => True

/-- What decides whether a handler goes well: the messages that can be read as far as the
handler unwraps them, what leads to a request of the purse, and what to one that frees funds. -/
structure Usage (σ Msg : Type) where
  answerable : σ → Msg → Prop
  asks : Entry σ Msg tradeInterface → Prop
  frees : Uuid → Entry σ Msg tradeInterface → Prop
  asks_of_frees : ∀ fundsId entry, frees fundsId entry → asks entry
  not_asks_purse : ∀ request reply store, ¬asks (.called (.purse request) reply store)
  not_asks_calm : ∀ c store, ¬asks (.called c c.calm store)

namespace Usage

variable {σ Msg : Type} (usage : Usage σ Msg)

/-- What comes in, apart from the answers of the purse, gives no cause to panic: a message can
be read and a call is granted, the purse is there if it is going to be asked, and it still has
the funds that are going to be freed. -/
def Fair (purse : Purse) (entry : Entry σ Msg tradeInterface) : Prop :=
  (match entry with
    | .received message self => usage.answerable self message
    | .called c reply _ => c.Granted reply) ∧
  (usage.asks entry → purse.status = .serving) ∧
  ∀ fundsId, usage.frees fundsId entry → purse.lookup fundsId ≠ none

/-- What an actor relies on, the answers of the purse included; `serving` if the purse may be
asked. -/
def Reliable (serving : Prop) (entry : Entry σ Msg tradeInterface)
    (past : History σ Msg tradeInterface) : Prop :=
  (match entry with
    | .received message self => usage.answerable self message
    | .called c reply _ => c.Granted reply ∧ c.Served reply) ∧
  (usage.asks entry → serving) ∧ ∀ fundsId, usage.frees fundsId entry → ¬LetGo fundsId past

variable {usage} {serving : Prop} {past : History σ Msg tradeInterface}

theorem reliable_calm (request : PurseRequest) (store : σ) : usage.Reliable serving
    (.called (.purse request) (TradeCall.purse request).calm store) past := by
  have hquiet := usage.not_asks_purse request (TradeCall.purse request).calm store
  refine ⟨⟨TradeCall.granted_calm _, TradeCall.served_calm _⟩, fun hasks => absurd hasks hquiet, ?_⟩
  exact fun fundsId hfrees => absurd (usage.asks_of_frees fundsId _ hfrees) hquiet

/-- Whatever the purse answers is fair. -/
theorem fair_purse (purse : Purse) {request : PurseRequest} (reply : Option request.Reply)
    (store : σ) : usage.Fair purse (.called (.purse request) reply store) := by
  have hquiet := usage.not_asks_purse request reply store
  refine ⟨trivial, fun hasks => absurd hasks hquiet, fun fundsId hfrees => ?_⟩
  exact absurd (usage.asks_of_frees fundsId _ hfrees) hquiet

theorem fair_calm (purse : Purse) {c : TradeCall} (store : σ) :
    usage.Fair purse (.called c c.calm store) := by
  have hquiet := usage.not_asks_calm c store
  refine ⟨c.granted_calm, fun hasks => absurd hasks hquiet, fun fundsId hfrees => ?_⟩
  exact absurd (usage.asks_of_frees fundsId _ hfrees) hquiet

/-- The funds that are still in the purse's table were not let go. -/
theorem Fair.reliable {purse : Purse} {entry : Entry σ Msg tradeInterface}
    (hfair : usage.Fair purse entry)
    (hserved : match entry with
      | .received _ _ => True
      | .called c reply _ => c.Served reply)
    (hgone : purse.status = .serving → ∀ fundsId, LetGo fundsId past →
      purse.lookup fundsId = none) :
    usage.Reliable (purse.status = .serving) entry past := by
  obtain ⟨hexpected, hasks, hheld⟩ := hfair
  refine ⟨?_, hasks, fun fundsId hfrees hletGo => ?_⟩
  · cases entry with
    | received message self => exact hexpected
    | called c reply self => exact ⟨hexpected, hserved⟩
  · have hserving := hasks (usage.asks_of_frees fundsId entry hfrees)
    exact hheld fundsId hfrees (hgone hserving fundsId hletGo)

end Usage

/-- The store was written as it is by `terminate`, and nothing was received since. -/
def Flushed {σ Msg : Type} (history : History σ Msg tradeInterface) (store : σ) : Prop :=
  ∃ recent past, history = recent ++ .called .terminate () store :: past ∧
    ∀ message self, .received message self ∉ recent

theorem flushed_shutdown {σ Msg : Type} (past : History σ Msg tradeInterface) (store : σ)
    (rsp : Rsp) (sent : Bool) (reply : Except N3xbError Unit) :
    Flushed (.called (.respond rsp) sent store :: .called (.n3xb .shutdown) reply store ::
      .called .terminate () store :: past) store := by
  refine ⟨[.called (.respond rsp) sent store, .called (.n3xb .shutdown) reply store], past, rfl, ?_⟩
  simp

namespace FatCrabMakerActor

/-- What the handler unwraps of the maker's own texts and of the message is there. -/
def Answerable (self : FatCrabMakerActor) : MakerMsg → Prop
  | .request (.tradeResponse .accept _) => self.sell?.isSome = true → self.Ready
  | .request (.releaseNotifyPeer txid) => self.Ready ∧ (self.sell?.isSome = true → txid ≠ none)
  | .notif (.ok (.peer envelope)) => self.state = .acceptedOffer → ∃ message,
      envelope.message.asFatCrabPeerMessage = some message ∧ self.Readable message
  | _ => True

/-- The n3xB order of a Buy maker was cancelled: its funds are freed next. -/
def Frees (fundsId : Uuid) : Entry FatCrabMakerActor MakerMsg tradeInterface → Prop
  | .called (.n3xb .cancelOrder) reply self =>
      reply = .ok () ∧ ∃ buy, self.buy? = some buy ∧ buy.data.btcFundsId = fundsId
  | _ => False

/-- The purse is asked next: to pay, to look for the peer's payment, or to free the funds. -/
def AsksPurse : Entry FatCrabMakerActor MakerMsg tradeInterface → Prop
  | .received (.request (.releaseNotifyPeer _)) self =>
      ∃ buy, self.buy? = some buy ∧ buy.data.peerBtcAddr ≠ none
  | .received (.request .checkBtcTxConf) self =>
      ∃ sell, self.sell? = some sell ∧ sell.data.peerBtcTxid ≠ none
  | .called (.n3xb .cancelOrder) reply self => reply = .ok () ∧ self.buy? ≠ none
  | _ => False

/-- How a maker uses what surrounds it. -/
def usage : Usage FatCrabMakerActor MakerMsg where
  answerable := Answerable
  asks := AsksPurse
  frees := Frees
  asks_of_frees := by
    intro fundsId entry hfrees
    unfold Frees at hfrees
    split at hfrees
    next reply self =>
      obtain ⟨hreply, buy, hbuy, -⟩ := hfrees
      exact ⟨hreply, by simp [hbuy]⟩
    next => exact hfrees.elim
  not_asks_purse := fun _ _ _ => not_false
  not_asks_calm := by
    intro c store hasks
    cases c with
    | n3xb request =>
        cases request with
        | cancelOrder => cases hasks.1
        | _ => exact hasks
    | purse request | notify notifTx notif | respond rsp | terminate => exact hasks

/-- The handler does not panic as long as it can rely on what it calls, and it spares the
purse. -/
def Bears (serving : Prop) (handler : Handler FatCrabMakerActor Unit)
    (history : History FatCrabMakerActor MakerMsg tradeInterface) (self : FatCrabMakerActor) :
    Prop :=
  Program.Bears (usage.Reliable serving) (SparesPurse serving) handler history self

section Handlers

attribute [local simp] Bears Program.Bears Usage.Reliable usage AsksPurse Frees SparesPurse
  PurseRequest.Harmless TradeCall.Granted TradeCall.Served handleRequest setState forall_except
  Option.forall_ne_none

variable {serving : Prop} {history : History FatCrabMakerActor MakerMsg tradeInterface}
  {self : FatCrabMakerActor}

theorem bears_postNewOrder : Bears serving (handleRequest .postNewOrder) history self := by
  obtain ⟨inner, uuid, notifTx⟩ := self
  cases inner <;> simp [postNewOrder]

theorem bears_tradeComplete : Bears serving (handleRequest .tradeComplete) history self := by
  obtain ⟨inner, uuid, notifTx⟩ := self
  cases inner <;> simp [FatCrabMakerBuyActor.tradeComplete, FatCrabMakerSellActor.tradeComplete]

theorem bears_cancelOrder : Bears serving (handleRequest .cancelOrder) history self := by
  obtain ⟨inner, uuid, notifTx⟩ := self
  cases inner with
  | buy buy =>
      cases hstate : buy.data.state <;>
        simp +contextual [FatCrabMakerBuyActor.cancelOrder, hstate]
  | sell sell =>
      cases hstate : sell.data.state <;> simp [FatCrabMakerSellActor.cancelOrder, hstate]

theorem bears_tradeResponse {tradeRspType : FatCrabTradeRspType} {envelope : FatCrabOfferEnvelope}
    (hanswerable : self.Answerable (.request (.tradeResponse tradeRspType envelope))) :
    Bears serving (handleRequest (.tradeResponse tradeRspType envelope)) history self := by
  obtain ⟨inner, uuid, notifTx⟩ := self
  cases inner with
  | buy buy => cases tradeRspType <;> simp [FatCrabMakerBuyActor.tradeResponse]
  | sell sell =>
      cases tradeRspType with
      | accept =>
          obtain ⟨address, haddress⟩ := hanswerable rfl
          simp [FatCrabMakerSellActor.tradeResponse, haddress]
      | reject => simp [FatCrabMakerSellActor.tradeResponse]

theorem bears_releaseNotifyPeer {txid : Option String}
    (hanswerable : self.Answerable (.request (.releaseNotifyPeer txid)))
    (hasks : AsksPurse (.received (.request (.releaseNotifyPeer txid)) self) → serving) :
    Bears serving (handleRequest (.releaseNotifyPeer txid)) history self := by
  obtain ⟨inner, uuid, notifTx⟩ := self
  obtain ⟨hready, htxid⟩ := hanswerable
  cases inner with
  | buy buy =>
      cases haddr : buy.data.peerBtcAddr with
      | none => simp [FatCrabMakerBuyActor.releaseNotifyPeer, haddr]
      | some text =>
          obtain ⟨address, haddress⟩ := hready text haddr
          have hserving : serving := hasks ⟨buy, rfl, by simp [haddr]⟩
          simp [FatCrabMakerBuyActor.releaseNotifyPeer, haddr, haddress, hserving]
  | sell sell =>
      obtain ⟨address, haddress⟩ := hready
      obtain ⟨text, rfl⟩ := Option.ne_none_iff_exists'.mp (htxid rfl)
      simp [FatCrabMakerSellActor.notifyPeer, haddress]

theorem bears_checkBtcTxConf
    (hasks : AsksPurse (.received (.request .checkBtcTxConf) self) → serving) :
    Bears serving (handleRequest .checkBtcTxConf) history self := by
  obtain ⟨inner, uuid, notifTx⟩ := self
  cases inner with
  | buy buy => simp [FatCrabMakerBuyActor.checkBtcTxConfirmation]
  | sell sell =>
      cases htxid : sell.data.peerBtcTxid with
      | none => simp [FatCrabMakerSellActor.checkBtcTxConfirmation, htxid]
      | some txid =>
          have hserving : serving := hasks ⟨sell, rfl, by simp [htxid]⟩
          simp [FatCrabMakerSellActor.checkBtcTxConfirmation, htxid, hserving]

theorem bears_request {request : FatCrabMakerRequest}
    (hanswerable : self.Answerable (.request request))
    (hasks : AsksPurse (.received (.request request) self) → serving) :
    Bears serving (handleRequest request) history self := by
  cases request with
  | postNewOrder => exact bears_postNewOrder
  | cancelOrder => exact bears_cancelOrder
  | tradeResponse tradeRspType envelope => exact bears_tradeResponse hanswerable
  | releaseNotifyPeer txid => exact bears_releaseNotifyPeer hanswerable hasks
  | checkBtcTxConf => exact bears_checkBtcTxConf hasks
  | tradeComplete => exact bears_tradeComplete
  | getState => simp [getState]
  | getOrderDetails => simp [getOrderDetails]
  | getPeerPubkey => simp [getPeerPubkey]
  | getPeerBtcTxid => simp [getPeerBtcTxid]
  | queryOffers => simp [queryOffers]
  | queryPeerMsg => simp [queryPeerMsg]
  | registerNotifTx tx => simp [registerNotifTx, setNotifTx]
  | unregisterNotifTx => simp [unregisterNotifTx, setNotifTx]
  | shutdown => simp [shutdown]

theorem bears_offer {envelope : OfferEnvelope} :
    Bears serving (handleOfferNotif envelope) history self := by
  obtain ⟨inner, uuid, notifTx⟩ := self
  by_cases hstate : state ⟨inner, uuid, notifTx⟩ = .waitingForOffers ∨
      state ⟨inner, uuid, notifTx⟩ = .receivedOffer
  · cases hvalid : FatCrabOffer.validateN3xbOffer envelope.offer <;> cases notifTx <;>
      cases inner <;>
      simp_all [handleOfferNotif, handleOfferInUnexpectedState, recordOffer]
  · simp [handleOfferNotif, handleOfferInUnexpectedState, hstate]

theorem bears_peer {envelope : PeerEnvelope}
    (hanswerable : self.Answerable (.notif (.ok (.peer envelope)))) :
    Bears serving (handlePeerNotif envelope) history self := by
  obtain ⟨inner, uuid, notifTx⟩ := self
  by_cases hstate : state ⟨inner, uuid, notifTx⟩ = .acceptedOffer
  swap
  · simp [handlePeerNotif, hstate]
  obtain ⟨message, hmessage, hreadable⟩ := hanswerable hstate
  cases inner with
  | buy buy =>
      obtain ⟨address, haddress⟩ := hreadable
      simp only [state_buy] at hstate
      cases hvalid : Bitcoin.isValidForNetwork address buy.network <;> cases notifTx <;>
        simp [handlePeerNotif, FatCrabMakerBuyActor.handlePeerNotif, hstate, hmessage, haddress,
          hvalid]
  | sell sell =>
      simp only [state_sell] at hstate
      cases hparse : Bitcoin.txidFromStr message.txid <;> cases notifTx <;>
        simp [handlePeerNotif, FatCrabMakerSellActor.handlePeerNotif, hstate, hmessage, hparse]

theorem bears_notif {result : Except N3xbError MakerNotif}
    (hanswerable : self.Answerable (.notif result)) :
    Bears serving (handleNotif result) history self := by
  cases result with
  | error error => simp [handleNotif]
  | ok notif =>
      cases notif with
      | offer envelope => exact bears_offer
      | peer envelope => exact bears_peer hanswerable

end Handlers

/-- Whether the purse may be asked or not, a maker endures. -/
theorem endurance (serving : Prop) :
    Endurance code (usage.Reliable serving) (SparesPurse serving) := by
  constructor
  · intro message history self hreliable
    cases message with
    | notif result => exact (bears_notif hreliable.1).then_pure _
    | request request =>
        have hbears := @bears_request _ serving (.received (.request request) self :: history)
          self request hreliable.1 hreliable.2.1
        cases request <;> exact hbears.then_pure _
  · intro history self
    simp [code, start, Program.Bears, Usage.Reliable, SparesPurse, TradeCall.Granted,
      TradeCall.Served]

/-- A maker that has ended has written its store, whatever it was told. -/
theorem stops_of_step {before after : Actor FatCrabMakerActor MakerMsg tradeInterface}
    {action : Action MakerMsg tradeInterface} (hstep : Actor.Step code before action after)
    (hstops : before.Stops Flushed) : after.Stops Flushed := by
  refine hstep.stops ?_ ?_ hstops
  · intro message history self
    cases message with
    | notif result => exact Program.safe_next _ _ _
    | request request =>
        cases request with
        | shutdown =>
            simp [code, handle, handleRequest, shutdown, forall_except]
            intro written
            exact ⟨fun error => flushed_shutdown (_ :: history) self _ true _,
              fun value => flushed_shutdown (_ :: history) self _ true _⟩
        | _ => exact Program.safe_next _ _ _
  · intro history self
    simp [code, start]

end FatCrabMakerActor

namespace FatCrabTakerActor

/-- As for a maker. -/
def Answerable (self : FatCrabTakerActor) : TakerMsg → Prop
  | .request (.releaseNotifyPeer txid) => self.Ready ∧ (self.buy?.isSome = true → txid ≠ none)
  | .notif (.ok (.tradeRsp envelope)) => self.state = .submittedOffer → ∃ tradeRsp,
      FatCrabTradeRsp.fromN3xbTradeRsp envelope.tradeRsp = some tradeRsp ∧ self.Understands tradeRsp
  | .notif (.ok (.peer envelope)) => self.state = .notifiedOutbound → ∃ message,
      envelope.message.asFatCrabPeerMessage = some message
  | _ => True

/-- A Sell taker's offer was rejected: its funds are freed. -/
def Frees (fundsId : Uuid) : Entry FatCrabTakerActor TakerMsg tradeInterface → Prop
  | .received (.notif (.ok (.tradeRsp envelope))) self => self.state = .submittedOffer ∧
      FatCrabTradeRsp.fromN3xbTradeRsp envelope.tradeRsp = some .reject ∧
        ∃ sell, self.sell? = some sell ∧ sell.data.btcFundsId = fundsId
  | _ => False

/-- The purse is asked next. A Sell taker pays an address only if it is one of its network. -/
def AsksPurse : Entry FatCrabTakerActor TakerMsg tradeInterface → Prop
  | .received (.request (.releaseNotifyPeer _)) self => ∃ sell text, self.sell? = some sell ∧
      sell.data.peerBtcAddr = some text ∧ parseAddress text sell.network ≠ none
  | .received (.request .checkBtcTxConf) self =>
      ∃ buy, self.buy? = some buy ∧ buy.data.peerBtcTxid ≠ none
  | .received (.notif (.ok (.tradeRsp envelope))) self => self.state = .submittedOffer ∧
      ∃ sell tradeRsp, self.sell? = some sell ∧
        FatCrabTradeRsp.fromN3xbTradeRsp envelope.tradeRsp = some tradeRsp ∧
          ∀ text, tradeRsp = .accept text → parseAddress text sell.network ≠ none
  | _ => False

/-- How a taker uses what surrounds it. -/
def usage : Usage FatCrabTakerActor TakerMsg where
  answerable := Answerable
  asks := AsksPurse
  frees := Frees
  asks_of_frees := by
    intro fundsId entry hfrees
    unfold Frees at hfrees
    split at hfrees
    next envelope self =>
      obtain ⟨hstate, hreject, sell, hsell, -⟩ := hfrees
      exact ⟨hstate, sell, .reject, hsell, hreject, nofun⟩
    next => exact hfrees.elim
  not_asks_purse := fun _ _ _ => not_false
  not_asks_calm := fun _ _ => not_false

/-- As for a maker. -/
def Bears (serving : Prop) (handler : Handler FatCrabTakerActor Unit)
    (history : History FatCrabTakerActor TakerMsg tradeInterface) (self : FatCrabTakerActor) :
    Prop :=
  Program.Bears (usage.Reliable serving) (SparesPurse serving) handler history self

section Handlers

attribute [local simp] Bears Program.Bears Usage.Reliable usage AsksPurse Frees SparesPurse
  PurseRequest.Harmless TradeCall.Granted TradeCall.Served handleRequest setState forall_except
  Option.forall_ne_none

variable {serving : Prop} {history : History FatCrabTakerActor TakerMsg tradeInterface}
  {self : FatCrabTakerActor}
  {buy : FatCrabTakerBuyActor} {sell : FatCrabTakerSellActor} {uuid : Uuid}
  {notifTx : Option NotifTx}

theorem bears_takeOrder : Bears serving (handleRequest .takeOrder) history self := by
  obtain ⟨inner, uuid, notifTx⟩ := self
  cases inner <;> simp [takeOrder]

theorem bears_tradeComplete : Bears serving (handleRequest .tradeComplete) history self := by
  obtain ⟨inner, uuid, notifTx⟩ := self
  cases inner <;> simp [FatCrabTakerBuyActor.tradeComplete, FatCrabTakerSellActor.tradeComplete]

theorem bears_releaseNotifyPeer {txid : Option String}
    (hanswerable : self.Answerable (.request (.releaseNotifyPeer txid)))
    (hasks : AsksPurse (.received (.request (.releaseNotifyPeer txid)) self) → serving) :
    Bears serving (handleRequest (.releaseNotifyPeer txid)) history self := by
  obtain ⟨inner, uuid, notifTx⟩ := self
  obtain ⟨hready, htxid⟩ := hanswerable
  cases inner with
  | buy buy =>
      obtain ⟨address, haddress⟩ := hready
      obtain ⟨text, rfl⟩ := Option.ne_none_iff_exists'.mp (htxid rfl)
      simp [FatCrabTakerBuyActor.notifyPeer, haddress]
  | sell sell =>
      cases haddr : sell.data.peerBtcAddr with
      | none =>
          simp [FatCrabTakerSellActor.releaseNotifyPeer,
            FatCrabTakerSellActor.releaseBtcNotifyPeer, haddr]
      | some text =>
          obtain ⟨address, haddress⟩ := hready text haddr
          cases hvalid : Bitcoin.isValidForNetwork address sell.network with
          | false =>
              simp [FatCrabTakerSellActor.releaseNotifyPeer,
                FatCrabTakerSellActor.releaseBtcNotifyPeer, haddr, haddress, hvalid]
          | true =>
              have hserving : serving :=
                hasks ⟨sell, text, rfl, haddr, by simp [parseAddress, haddress, hvalid]⟩
              simp [FatCrabTakerSellActor.releaseNotifyPeer,
                FatCrabTakerSellActor.releaseBtcNotifyPeer, haddr, haddress, hvalid, hserving]

theorem bears_checkBtcTxConf
    (hasks : AsksPurse (.received (.request .checkBtcTxConf) self) → serving) :
    Bears serving (handleRequest .checkBtcTxConf) history self := by
  obtain ⟨inner, uuid, notifTx⟩ := self
  cases inner with
  | sell sell => simp [FatCrabTakerSellActor.checkBtcTxConfirmation]
  | buy buy =>
      cases htxid : buy.data.peerBtcTxid with
      | none => simp [FatCrabTakerBuyActor.checkBtcTxConfirmation, htxid]
      | some txid =>
          have hserving : serving := hasks ⟨buy, rfl, by simp [htxid]⟩
          simp [FatCrabTakerBuyActor.checkBtcTxConfirmation, htxid, hserving]

theorem bears_queryTradeRsp : Bears serving (handleRequest .queryTradeRsp) history self := by
  obtain ⟨inner, uuid, notifTx⟩ := self
  cases inner <;> simp [FatCrabTakerBuyActor.queryTradeRsp, FatCrabTakerSellActor.queryTradeRsp]

theorem bears_request {request : FatCrabTakerRequest}
    (hanswerable : self.Answerable (.request request))
    (hasks : AsksPurse (.received (.request request) self) → serving) :
    Bears serving (handleRequest request) history self := by
  cases request with
  | takeOrder => exact bears_takeOrder
  | releaseNotifyPeer txid => exact bears_releaseNotifyPeer hanswerable hasks
  | checkBtcTxConf => exact bears_checkBtcTxConf hasks
  | tradeComplete => exact bears_tradeComplete
  | queryTradeRsp => exact bears_queryTradeRsp
  | getState => simp [getState]
  | getOrderDetails => simp [getOrderDetails]
  | getPeerBtcTxid => simp [getPeerBtcTxid]
  | queryPeerMsg => simp [queryPeerMsg]
  | registerNotifTx tx => simp [registerNotifTx, setNotifTx]
  | unregisterNotifTx => simp [unregisterNotifTx, setNotifTx]
  | shutdown => simp [shutdown]

theorem bears_tradeRsp_buy {envelope : TradeResponseEnvelope}
    (hanswerable : Answerable ⟨.buy buy, uuid, notifTx⟩ (.notif (.ok (.tradeRsp envelope)))) :
    Bears serving (handleTradeRspNotif envelope) history ⟨.buy buy, uuid, notifTx⟩ := by
  by_cases hstate : buy.data.state = .submittedOffer
  swap
  · simp [handleTradeRspNotif, hstate]
  obtain ⟨tradeRsp, hrsp, -⟩ := hanswerable hstate
  cases hlistener : buy.notifTx <;>
    simp [handleTradeRspNotif, FatCrabTakerBuyActor.handleTradeRspNotif, hstate, hrsp, hlistener]

/-- An acceptance calls the purse without being asked to. -/
theorem bears_tradeRsp_sell {envelope : TradeResponseEnvelope}
    (hreliable : usage.Reliable serving
      (.received (.notif (.ok (.tradeRsp envelope))) ⟨.sell sell, uuid, notifTx⟩) history) :
    Bears serving (handleTradeRspNotif envelope)
      (.received (.notif (.ok (.tradeRsp envelope))) ⟨.sell sell, uuid, notifTx⟩ :: history)
      ⟨.sell sell, uuid, notifTx⟩ := by
  obtain ⟨hanswerable, hasks, hfrees⟩ := hreliable
  by_cases hstate : sell.data.state = .submittedOffer
  swap
  · simp [handleTradeRspNotif, hstate]
  obtain ⟨tradeRsp, hrsp, hunderstands⟩ := hanswerable hstate
  cases tradeRsp with
  | reject =>
      have hserving : serving := hasks ⟨hstate, sell, .reject, rfl, hrsp, nofun⟩
      have hkept := hfrees sell.data.btcFundsId ⟨hstate, hrsp, sell, rfl, rfl⟩
      cases hlistener : sell.notifTx <;>
        simp [handleTradeRspNotif, FatCrabTakerSellActor.handleTradeRspNotif,
          FatCrabTakerSellActor.notifyTradeRsp, hstate, hrsp, hlistener, hserving, hkept]
  | accept text =>
      obtain ⟨address, haddress⟩ := hunderstands rfl
      cases hvalid : Bitcoin.isValidForNetwork address sell.network with
      | false =>
          cases hlistener : sell.notifTx <;>
            simp [handleTradeRspNotif, FatCrabTakerSellActor.handleTradeRspNotif,
              FatCrabTakerSellActor.releaseBtcNotifyPeer, FatCrabTakerSellActor.notifyTradeRsp,
              hstate, hrsp, haddress, hvalid, hlistener]
      | true =>
          have hserving : serving := by
            refine hasks ⟨hstate, sell, .accept text, rfl, hrsp, ?_⟩
            rintro _ ⟨⟩
            simp [parseAddress, haddress, hvalid]
          cases hlistener : sell.notifTx <;>
            simp [handleTradeRspNotif, FatCrabTakerSellActor.handleTradeRspNotif,
              FatCrabTakerSellActor.releaseBtcNotifyPeer, FatCrabTakerSellActor.notifyTradeRsp,
              hstate, hrsp, haddress, hvalid, hlistener, hserving]

theorem bears_peer {envelope : PeerEnvelope}
    (hanswerable : self.Answerable (.notif (.ok (.peer envelope)))) :
    Bears serving (handlePeerNotif envelope) history self := by
  obtain ⟨inner, uuid, notifTx⟩ := self
  by_cases hstate : state ⟨inner, uuid, notifTx⟩ = .notifiedOutbound
  swap
  · simp [handlePeerNotif, hstate]
  obtain ⟨message, hmessage⟩ := hanswerable hstate
  cases inner with
  | sell sell =>
      simp only [state_sell] at hstate
      cases notifTx <;> simp [handlePeerNotif, hstate, hmessage]
  | buy buy =>
      simp only [state_buy] at hstate
      cases hparse : Bitcoin.txidFromStr message.txid <;> cases notifTx <;>
        simp [handlePeerNotif, FatCrabTakerBuyActor.handlePeerNotif, hstate, hmessage, hparse]

theorem bears_notif {result : Except N3xbError TakerNotif}
    (hreliable : usage.Reliable serving (.received (.notif result) self) history) :
    Bears serving (handleNotif result) (.received (.notif result) self :: history) self := by
  cases result with
  | error error => simp [handleNotif]
  | ok notif =>
      cases notif with
      | peer envelope => exact bears_peer hreliable.1
      | tradeRsp envelope =>
          obtain ⟨inner, uuid, notifTx⟩ := self
          cases inner with
          | buy buy => exact bears_tradeRsp_buy hreliable.1
          | sell sell => exact bears_tradeRsp_sell hreliable

end Handlers

theorem endurance (serving : Prop) :
    Endurance code (usage.Reliable serving) (SparesPurse serving) := by
  constructor
  · intro message history self hreliable
    cases message with
    | notif result => exact (bears_notif hreliable).then_pure _
    | request request =>
        have hbears := @bears_request _ serving (.received (.request request) self :: history)
          self request hreliable.1 hreliable.2.1
        cases request <;> exact hbears.then_pure _
  · intro history self
    simp [code, start, Program.Bears, Usage.Reliable, SparesPurse, TradeCall.Granted,
      TradeCall.Served]

/-- A taker that has ended has written its store, whatever it was told. -/
theorem stops_of_step {before after : Actor FatCrabTakerActor TakerMsg tradeInterface}
    {action : Action TakerMsg tradeInterface} (hstep : Actor.Step code before action after)
    (hstops : before.Stops Flushed) : after.Stops Flushed := by
  refine hstep.stops ?_ ?_ hstops
  · intro message history self
    cases message with
    | notif result => exact Program.safe_next _ _ _
    | request request =>
        cases request with
        | shutdown =>
            simp [code, handle, handleRequest, shutdown, forall_except]
            intro written
            exact ⟨fun error => flushed_shutdown (_ :: history) self _ true _,
              fun value => flushed_shutdown (_ :: history) self _ true _⟩
        | _ => exact Program.safe_next _ _ _
  · intro history self
    simp [code, start]

end FatCrabTakerActor

end Endurance

end FatCrabTrading
