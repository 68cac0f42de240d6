import FatCrabTrading.Persist.Keeper
import FatCrabTrading.Persist.Sessions

/-! # A trade and its file

Makers and takers of either role write their store with its setters and close its file when
they are told to shut down. So a maker or taker with its persister does what one would do whose
store outlives it, and whatever ends its task, the file shows its store in the end.
-/

namespace FatCrabTrading

open Effect Program

section TradeFile

variable [Bitcoin]

/-- The store of a trade, of one of the four kinds. -/
abbrev StoredTrade : Type := Σ kind : TradeStore, kind.Data

/-- A setter writes a store of its own kind only. -/
def StoredTrade.set : (Σ kind : TradeStore, kind.Setter) → StoredTrade → StoredTrade
  | ⟨.makerBuy, setter⟩, ⟨.makerBuy, data⟩ => ⟨.makerBuy, FatCrabMakerBuyData.set setter data⟩
  | ⟨.makerSell, setter⟩, ⟨.makerSell, data⟩ => ⟨.makerSell, FatCrabMakerSellData.set setter data⟩
  | ⟨.takerBuy, setter⟩, ⟨.takerBuy, data⟩ => ⟨.takerBuy, FatCrabTakerBuyData.set setter data⟩
  | ⟨.takerSell, setter⟩, ⟨.takerSell, data⟩ => ⟨.takerSell, FatCrabTakerSellData.set setter data⟩
  | _, stored => stored

/-- A file of a trade, by the directory that it lies in. -/
def Formats.ofTrades {Json : Type} (formats : Formats Json) :
    FileFormat StoredTrade (TradeStore × Json) where
  toJson stored := (stored.1, formats.toJson stored.1 stored.2)
  fromJson file := (formats.fromJson file.1 file.2).map (Sigma.mk file.1)
  from_to stored := by
    rw [formats.from_to]
    rfl

/-- `data.terminate()` closes the file. -/
def TradeCall.closesFile : TradeCall → Bool
  | .terminate => true
  | .purse _ | .n3xb _ | .notify _ _ | .respond _ => false

@[simp] theorem TradeCall.closesFile_purse (request : PurseRequest) :
    (TradeCall.purse request).closesFile = false := rfl

@[simp] theorem TradeCall.closesFile_n3xb (request : N3xbRequest) :
    (TradeCall.n3xb request).closesFile = false := rfl

@[simp] theorem TradeCall.closesFile_notify (notifTx : NotifTx) (notif : TradeNotif) :
    (TradeCall.notify notifTx notif).closesFile = false := rfl

@[simp] theorem TradeCall.closesFile_respond (rsp : Rsp) :
    (TradeCall.respond rsp).closesFile = false := rfl

/-- A program that writes in one way only, and leaves the file open. -/
abbrev LeavesOpen {σ α : Type} (writes : σ → σ → Prop) (program : Handler σ α) : Prop :=
  program.Only writes fun c : TradeCall => c.closesFile = false

/-! ## Makers -/

namespace FatCrabMakerBuyActor

/-- One call of a setter. -/
def Sets (before after : FatCrabMakerBuyActor) : Prop :=
  ∃ setter, after = { before with data := before.data.set setter }

section Sets

variable (self : FatCrabMakerBuyActor)

@[simp] theorem sets_state (state : FatCrabMakerState) :
    self.Sets { self with data.state := state } :=
  ⟨.setState state, rfl⟩

@[simp] theorem sets_peerPubkey (pubkey : String) :
    self.Sets { self with data.peerPubkey := some pubkey } :=
  ⟨.setPeerPubkey pubkey, rfl⟩

@[simp] theorem sets_peerBtcAddr (address : Address) :
    self.Sets { self with data.peerBtcAddr := some (Bitcoin.addressToString address) } :=
  ⟨.setPeerBtcAddr address, rfl⟩

@[simp] theorem sets_offerEnvelopes (envelope : FatCrabOfferEnvelope) :
    self.Sets { self with data.offerEnvelopes := self.data.offerEnvelopes ++ [envelope] } :=
  ⟨.insertOfferEnvelope envelope, rfl⟩

@[simp] theorem sets_peerEnvelope (envelope : FatCrabPeerEnvelope) :
    self.Sets { self with data.peerEnvelope := some envelope } :=
  ⟨.setPeerEnvelope envelope, rfl⟩

end Sets

theorem sets_cancelOrder : LeavesOpen Sets cancelOrder := by
  simp only [cancelOrder, read_eq, get_bind, Program.pure_bind, only_get]
  intro self
  cases self.data.state <;> simp [forall_except]

theorem sets_tradeResponse (tradeRspType : FatCrabTradeRspType)
    (offerEnvelope : FatCrabOfferEnvelope) :
    LeavesOpen Sets (tradeResponse tradeRspType offerEnvelope) := by
  cases tradeRspType <;> simp [tradeResponse]

theorem sets_handlePeerNotif (message : FatCrabPeerMessage) :
    LeavesOpen Sets (handlePeerNotif message) := by
  simp [handlePeerNotif]

theorem sets_releaseNotifyPeer : LeavesOpen Sets releaseNotifyPeer := by
  simp only [releaseNotifyPeer, read_eq, get_bind, Program.pure_bind, only_get]
  intro self
  cases self.data.peerBtcAddr with
  | none => simp
  | some text => simp [forall_except]

theorem sets_tradeComplete : LeavesOpen Sets tradeComplete := by
  simp [tradeComplete, forall_except]

end FatCrabMakerBuyActor

namespace FatCrabMakerSellActor

/-- One call of a setter. -/
def Sets (before after : FatCrabMakerSellActor) : Prop :=
  ∃ setter, after = { before with data := before.data.set setter }

section Sets

variable (self : FatCrabMakerSellActor)

@[simp] theorem sets_state (state : FatCrabMakerState) :
    self.Sets { self with data.state := state } :=
  ⟨.setState state, rfl⟩

@[simp] theorem sets_peerPubkey (pubkey : String) :
    self.Sets { self with data.peerPubkey := some pubkey } :=
  ⟨.setPeerPubkey pubkey, rfl⟩

@[simp] theorem sets_peerBtcTxid (txid : Txid) :
    self.Sets { self with data.peerBtcTxid := some txid } :=
  ⟨.setPeerBtcTxid txid, rfl⟩

@[simp] theorem sets_offerEnvelopes (envelope : FatCrabOfferEnvelope) :
    self.Sets { self with data.offerEnvelopes := self.data.offerEnvelopes ++ [envelope] } :=
  ⟨.insertOfferEnvelope envelope, rfl⟩

@[simp] theorem sets_peerEnvelope (envelope : FatCrabPeerEnvelope) :
    self.Sets { self with data.peerEnvelope := some envelope } :=
  ⟨.setPeerEnvelope envelope, rfl⟩

end Sets

theorem sets_cancelOrder : LeavesOpen Sets cancelOrder := by
  simp only [cancelOrder, read_eq, get_bind, Program.pure_bind, only_get]
  intro self
  cases self.data.state <;> simp [forall_except]

theorem sets_tradeResponse (tradeRspType : FatCrabTradeRspType)
    (offerEnvelope : FatCrabOfferEnvelope) :
    LeavesOpen Sets (tradeResponse tradeRspType offerEnvelope) := by
  cases tradeRspType <;> simp [tradeResponse]

theorem sets_handlePeerNotif (message : FatCrabPeerMessage) :
    LeavesOpen Sets (handlePeerNotif message) := by
  unfold handlePeerNotif
  cases Bitcoin.txidFromStr message.txid <;> simp

theorem sets_notifyPeer (txid : String) : LeavesOpen Sets (notifyPeer txid) := by
  simp [notifyPeer, forall_except]

theorem sets_checkBtcTxConfirmation : LeavesOpen Sets checkBtcTxConfirmation := by
  simp only [checkBtcTxConfirmation, read_eq, get_bind, Program.pure_bind, only_get]
  intro self
  cases self.data.peerBtcTxid <;> simp

theorem sets_tradeComplete : LeavesOpen Sets tradeComplete := by
  simp [tradeComplete, forall_except]

end FatCrabMakerSellActor

namespace FatCrabMakerActor

/-- The store of a maker, with its kind. -/
def storedTrade (self : FatCrabMakerActor) : StoredTrade :=
  match self.inner with
  | .buy actor => ⟨.makerBuy, actor.data⟩
  | .sell actor => ⟨.makerSell, actor.data⟩

/-- The purse's network, which a restored maker is given again. -/
def network (self : FatCrabMakerActor) : Network :=
  match self.inner with
  | .buy actor => actor.network
  | .sell actor => actor.network

/-- `restore_buy_actor` and `restore_sell_actor`, from the file of the maker's directory. -/
def revive (stored : StoredTrade) (self : FatCrabMakerActor) : FatCrabMakerActor :=
  match stored with
  | ⟨.makerBuy, data⟩ =>
      let actor := FatCrabMakerBuyActor.restore data self.network
      ⟨.buy actor, actor.tradeUuid, none⟩
  | ⟨.makerSell, data⟩ =>
      let actor := FatCrabMakerSellActor.restore data self.network
      ⟨.sell actor, actor.tradeUuid, none⟩
  | _ => self

/-- What a maker keeps in its file. -/
def keeping : Keeping FatCrabMakerActor tradeInterface StoredTrade
    (Σ kind : TradeStore, kind.Setter) :=
  ⟨storedTrade, StoredTrade.set, TradeCall.closesFile, revive⟩

/-- Setters of either role write the file's store. -/
theorem sets_withInner {α : Type} {buy : Handler FatCrabMakerBuyActor α}
    {sell : Handler FatCrabMakerSellActor α} (hbuy : LeavesOpen FatCrabMakerBuyActor.Sets buy)
    (hsell : LeavesOpen FatCrabMakerSellActor.Sets sell) :
    LeavesOpen keeping.Writes (withInner buy sell) := by
  refine only_withInner_of_roles _ _ (fun self => .inl rfl) hbuy hsell ?_ ?_
  · rintro before after uuid notifTx ⟨setter, rfl⟩
    exact .inr ⟨⟨.makerBuy, setter⟩, rfl⟩
  · rintro before after uuid notifTx ⟨setter, rfl⟩
    exact .inr ⟨⟨.makerSell, setter⟩, rfl⟩

theorem sets_setState (state : FatCrabMakerState) :
    LeavesOpen keeping.Writes (setState state) :=
  sets_withInner (by simp) (by simp)

/-- The listener is not kept. -/
@[simp] theorem writes_notifTx (self : FatCrabMakerActor) (tx : Option NotifTx) :
    keeping.Writes self { self with notifTx := tx } := .inl rfl

theorem sets_handleRequest {request : FatCrabMakerRequest} (hstays : request ≠ .shutdown) :
    LeavesOpen keeping.Writes (handleRequest request) := by
  cases request with
  | postNewOrder => simp [handleRequest, postNewOrder, forall_except, sets_setState]
  | getState => simp [handleRequest, getState]
  | getOrderDetails => simp [handleRequest, getOrderDetails]
  | getPeerPubkey => simp [handleRequest, getPeerPubkey]
  | getPeerBtcTxid => simp [handleRequest, getPeerBtcTxid]
  | queryOffers => simp [handleRequest, queryOffers]
  | queryPeerMsg => simp [handleRequest, queryPeerMsg]
  | cancelOrder =>
      exact sets_withInner FatCrabMakerBuyActor.sets_cancelOrder
        FatCrabMakerSellActor.sets_cancelOrder
  | tradeResponse tradeRspType offerEnvelope =>
      exact sets_withInner (FatCrabMakerBuyActor.sets_tradeResponse _ _)
        (FatCrabMakerSellActor.sets_tradeResponse _ _)
  | releaseNotifyPeer fatcrabTxid =>
      apply sets_withInner FatCrabMakerBuyActor.sets_releaseNotifyPeer
      simp [FatCrabMakerSellActor.sets_notifyPeer]
  | checkBtcTxConf =>
      refine sets_withInner ?_ FatCrabMakerSellActor.sets_checkBtcTxConfirmation
      simp [FatCrabMakerBuyActor.checkBtcTxConfirmation]
  | tradeComplete =>
      exact sets_withInner FatCrabMakerBuyActor.sets_tradeComplete
        FatCrabMakerSellActor.sets_tradeComplete
  | registerNotifTx tx => simp [handleRequest, registerNotifTx, setNotifTx]
  | unregisterNotifTx => simp [handleRequest, unregisterNotifTx, setNotifTx]
  | shutdown => exact absurd rfl hstays

theorem sets_recordOffer (envelope : FatCrabOfferEnvelope) :
    LeavesOpen keeping.Writes (recordOffer envelope) :=
  sets_withInner (by simp) (by simp)

theorem sets_handleOfferNotif (offerEnvelope : OfferEnvelope) :
    LeavesOpen keeping.Writes (handleOfferNotif offerEnvelope) := by
  refine Only.bind ?_ fun unexpected => ?_
  · simp [handleOfferInUnexpectedState]
  · cases unexpected with
    | true => trivial
    | false =>
        cases FatCrabOffer.validateN3xbOffer offerEnvelope.offer with
        | error error => trivial
        | ok _ =>
            simp only [Bool.false_eq_true, if_false, read_eq, get_bind, Program.pure_bind,
              only_get]
            intro self
            cases self.notifTx with
            | none => trivial
            | some notifTx => exact (sets_recordOffer _).bind fun _ => by simp

theorem sets_handlePeerNotif (peerEnvelope : PeerEnvelope) :
    LeavesOpen keeping.Writes (handlePeerNotif peerEnvelope) := by
  simp only [handlePeerNotif, read_eq, get_bind, Program.pure_bind, only_get, only_ite]
  refine fun self => ⟨fun _ => trivial, fun _ => ?_⟩
  simp only [only_unwrap_bind]
  intro message _
  refine (sets_withInner (FatCrabMakerBuyActor.sets_handlePeerNotif message)
    (FatCrabMakerSellActor.sets_handlePeerNotif message)).bind fun rejected => ?_
  cases rejected with
  | true => trivial
  | false =>
      have henvelope : LeavesOpen keeping.Writes
          (withInner (FatCrabMakerBuyActor.setPeerEnvelope ⟨message, peerEnvelope⟩)
            (FatCrabMakerSellActor.setPeerEnvelope ⟨message, peerEnvelope⟩)) :=
        sets_withInner (by simp) (by simp)
      refine henvelope.bind fun _ => (sets_setState _).bind fun _ => ?_
      simp only [only_get]
      intro self
      cases self.notifTx <;> simp

/-- `Shutdown` closes the file, writes nothing after that, and ends the task. -/
theorem open_shutdown : keeping.Open (handle (.request .shutdown)) := by
  intro reply
  exact ⟨rfl, fun answer => by cases answer <;> exact ⟨rfl, fun sent => by cases sent <;> trivial⟩⟩

theorem open_handle (message : MakerMsg) : keeping.Open (handle message) := by
  cases message with
  | request request =>
      by_cases hshutdown : request = .shutdown
      · subst hshutdown
        exact open_shutdown
      · have hopen : keeping.Open _ := keeping.open_of_only (sets_handleRequest hshutdown)
        cases request with
        | shutdown => exact absurd rfl hshutdown
        | _ => exact hopen
  | notif result =>
      apply keeping.open_of_only
      rcases result with error | offerEnvelope | peerEnvelope
      · trivial
      · exact sets_handleOfferNotif offerEnvelope
      · exact sets_handlePeerNotif peerEnvelope

/-- A maker's code keeps to its file. -/
theorem fits_code : keeping.Fits code where
  start := by
    intro reply
    cases reply <;> trivial
  handle := open_handle
  revive self := by
    obtain ⟨inner, uuid, notifTx⟩ := self
    cases inner <;> rfl
  view_restore self := by
    obtain ⟨inner, uuid, notifTx⟩ := self
    cases inner <;> rfl

end FatCrabMakerActor

/-! ## Takers -/

namespace FatCrabTakerBuyActor

/-- One call of a setter. -/
def Sets (before after : FatCrabTakerBuyActor) : Prop :=
  ∃ setter, after = { before with data := before.data.set setter }

section Sets

variable (self : FatCrabTakerBuyActor)

@[simp] theorem sets_state (state : FatCrabTakerState) :
    self.Sets { self with data.state := state } :=
  ⟨.setState state, rfl⟩

@[simp] theorem sets_peerBtcTxid (txid : Txid) :
    self.Sets { self with data.peerBtcTxid := some txid } :=
  ⟨.setPeerBtcTxid txid, rfl⟩

@[simp] theorem sets_tradeRspEnvelope (envelope : FatCrabTradeRspEnvelope) :
    self.Sets { self with data.tradeRspEnvelope := some envelope } :=
  ⟨.setTradeRspEnvelope envelope, rfl⟩

@[simp] theorem sets_peerEnvelope (envelope : FatCrabPeerEnvelope) :
    self.Sets { self with data.peerEnvelope := some envelope } :=
  ⟨.setPeerEnvelope envelope, rfl⟩

end Sets

theorem sets_handleTradeRspNotif (tradeRsp : FatCrabTradeRsp)
    (n3xbTradeRspEnvelope : TradeResponseEnvelope) :
    LeavesOpen Sets (handleTradeRspNotif tradeRsp n3xbTradeRspEnvelope) := by
  simp only [handleTradeRspNotif, read_eq, get_bind, Program.pure_bind, only_get]
  intro self
  cases self.notifTx <;> simp

theorem sets_notifyPeer (txid : String) : LeavesOpen Sets (notifyPeer txid) := by
  simp [notifyPeer, forall_except]

theorem sets_handlePeerNotif (message : FatCrabPeerMessage) :
    LeavesOpen Sets (handlePeerNotif message) := by
  unfold handlePeerNotif
  cases Bitcoin.txidFromStr message.txid <;> simp

theorem sets_checkBtcTxConfirmation : LeavesOpen Sets checkBtcTxConfirmation := by
  simp only [checkBtcTxConfirmation, read_eq, get_bind, Program.pure_bind, only_get]
  intro self
  cases self.data.peerBtcTxid <;> simp

theorem sets_tradeComplete : LeavesOpen Sets tradeComplete := by
  simp [tradeComplete, forall_except]

end FatCrabTakerBuyActor

namespace FatCrabTakerSellActor

/-- One call of a setter. -/
def Sets (before after : FatCrabTakerSellActor) : Prop :=
  ∃ setter, after = { before with data := before.data.set setter }

section Sets

variable (self : FatCrabTakerSellActor)

omit [Bitcoin] in
@[simp] theorem sets_state (state : FatCrabTakerState) :
    self.Sets { self with data.state := state } :=
  ⟨.setState state, rfl⟩

omit [Bitcoin] in
@[simp] theorem sets_peerBtcAddr (address : String) :
    self.Sets { self with data.peerBtcAddr := some address } :=
  ⟨.setPeerBtcAddr address, rfl⟩

omit [Bitcoin] in
@[simp] theorem sets_peerEnvelope (envelope : FatCrabPeerEnvelope) :
    self.Sets { self with data.peerEnvelope := some envelope } :=
  ⟨.setPeerEnvelope envelope, rfl⟩

end Sets

theorem sets_releaseBtcNotifyPeer : LeavesOpen Sets releaseBtcNotifyPeer := by
  simp only [releaseBtcNotifyPeer, read_eq, get_bind, Program.pure_bind, only_get]
  intro self
  cases self.data.peerBtcAddr with
  | none => simp
  | some peerBtcAddr => simp [forall_except]

theorem sets_notifyTradeRsp (tradeRsp : FatCrabTradeRsp)
    (n3xbTradeRspEnvelope : TradeResponseEnvelope) :
    LeavesOpen Sets (notifyTradeRsp tradeRsp n3xbTradeRspEnvelope) := by
  simp only [notifyTradeRsp, read_eq, get_bind, Program.pure_bind, only_get]
  intro self
  cases self.notifTx <;> simp

theorem sets_setState (state : FatCrabTakerState) : LeavesOpen Sets (setState state) := by
  simp

theorem sets_handleTradeRspNotif (tradeRsp : FatCrabTradeRsp)
    (n3xbTradeRspEnvelope : TradeResponseEnvelope) :
    LeavesOpen Sets (handleTradeRspNotif tradeRsp n3xbTradeRspEnvelope) := by
  cases tradeRsp with
  | accept receiveAddress =>
      have haddress : LeavesOpen Sets (setPeerBtcAddr receiveAddress) := by simp
      refine haddress.bind fun _ => (sets_setState _).bind fun _ =>
        sets_releaseBtcNotifyPeer.bind fun released => ?_
      cases released with
      | error error => exact sets_notifyTradeRsp _ _
      | ok done => exact (sets_setState _).bind fun _ => sets_notifyTradeRsp _ _
  | reject => simp [handleTradeRspNotif, sets_notifyTradeRsp]

theorem sets_releaseNotifyPeer : LeavesOpen Sets releaseNotifyPeer := by
  refine sets_releaseBtcNotifyPeer.bind fun released => ?_
  cases released <;> simp

theorem sets_tradeComplete : LeavesOpen Sets tradeComplete := by
  simp [tradeComplete, forall_except]

end FatCrabTakerSellActor

namespace FatCrabTakerActor

/-- The store of a taker, with its kind. -/
def storedTrade (self : FatCrabTakerActor) : StoredTrade :=
  match self.inner with
  | .buy actor => ⟨.takerBuy, actor.data⟩
  | .sell actor => ⟨.takerSell, actor.data⟩

/-- The purse's network, which a restored taker is given again. -/
def network (self : FatCrabTakerActor) : Network :=
  match self.inner with
  | .buy actor => actor.network
  | .sell actor => actor.network

/-- `restore_buy_actor` and `restore_sell_actor`, from the file of the taker's directory. -/
def revive (stored : StoredTrade) (self : FatCrabTakerActor) : FatCrabTakerActor :=
  match stored with
  | ⟨.takerBuy, data⟩ =>
      let actor := FatCrabTakerBuyActor.restore data self.network
      ⟨.buy actor, actor.tradeUuid, none⟩
  | ⟨.takerSell, data⟩ =>
      let actor := FatCrabTakerSellActor.restore data self.network
      ⟨.sell actor, actor.tradeUuid, none⟩
  | _ => self

/-- What a taker keeps in its file. -/
def keeping : Keeping FatCrabTakerActor tradeInterface StoredTrade
    (Σ kind : TradeStore, kind.Setter) :=
  ⟨storedTrade, StoredTrade.set, TradeCall.closesFile, revive⟩

theorem sets_withInner {α : Type} {buy : Handler FatCrabTakerBuyActor α}
    {sell : Handler FatCrabTakerSellActor α} (hbuy : LeavesOpen FatCrabTakerBuyActor.Sets buy)
    (hsell : LeavesOpen FatCrabTakerSellActor.Sets sell) :
    LeavesOpen keeping.Writes (withInner buy sell) := by
  refine only_withInner_of_roles _ _ (fun self => .inl rfl) hbuy hsell ?_ ?_
  · rintro before after uuid notifTx ⟨setter, rfl⟩
    exact .inr ⟨⟨.takerBuy, setter⟩, rfl⟩
  · rintro before after uuid notifTx ⟨setter, rfl⟩
    exact .inr ⟨⟨.takerSell, setter⟩, rfl⟩

theorem sets_setState (state : FatCrabTakerState) :
    LeavesOpen keeping.Writes (setState state) :=
  sets_withInner (by simp) (by simp)

/-- The listener is not kept, in neither of its places. -/
@[simp] theorem writes_withNotifTx (self : FatCrabTakerActor) (tx : Option NotifTx) :
    keeping.Writes self (self.withNotifTx tx) := by
  obtain ⟨inner, uuid, notifTx⟩ := self
  left
  cases inner <;> rfl

theorem sets_handleRequest {request : FatCrabTakerRequest} (hstays : request ≠ .shutdown) :
    LeavesOpen keeping.Writes (handleRequest request) := by
  cases request with
  | takeOrder => simp [handleRequest, takeOrder, forall_except, sets_setState]
  | getOrderDetails => simp [handleRequest, getOrderDetails]
  | getState => simp [handleRequest, getState]
  | getPeerBtcTxid => simp [handleRequest, getPeerBtcTxid]
  | queryPeerMsg => simp [handleRequest, queryPeerMsg]
  | queryTradeRsp =>
      exact sets_withInner (by simp [FatCrabTakerBuyActor.queryTradeRsp])
        (by simp [FatCrabTakerSellActor.queryTradeRsp])
  | releaseNotifyPeer txid =>
      refine sets_withInner ?_ FatCrabTakerSellActor.sets_releaseNotifyPeer
      simp [FatCrabTakerBuyActor.sets_notifyPeer]
  | checkBtcTxConf =>
      apply sets_withInner FatCrabTakerBuyActor.sets_checkBtcTxConfirmation
      simp [FatCrabTakerSellActor.checkBtcTxConfirmation]
  | tradeComplete =>
      exact sets_withInner FatCrabTakerBuyActor.sets_tradeComplete
        FatCrabTakerSellActor.sets_tradeComplete
  | registerNotifTx tx => simp [handleRequest, registerNotifTx, setNotifTx]
  | unregisterNotifTx => simp [handleRequest, unregisterNotifTx, setNotifTx]
  | shutdown => exact absurd rfl hstays

theorem sets_handleTradeRspNotif (tradeRspEnvelope : TradeResponseEnvelope) :
    LeavesOpen keeping.Writes (handleTradeRspNotif tradeRspEnvelope) := by
  simp only [handleTradeRspNotif, read_eq, get_bind, Program.pure_bind, only_get, only_ite]
  refine fun self => ⟨fun _ => trivial, fun _ => ?_⟩
  simp only [only_unwrap_bind]
  intro tradeRsp _
  exact sets_withInner (FatCrabTakerBuyActor.sets_handleTradeRspNotif _ _)
    (FatCrabTakerSellActor.sets_handleTradeRspNotif _ _)

theorem sets_handlePeerNotif (peerEnvelope : PeerEnvelope) :
    LeavesOpen keeping.Writes (handlePeerNotif peerEnvelope) := by
  simp only [handlePeerNotif, read_eq, get_bind, Program.pure_bind, only_get, only_ite]
  refine fun self => ⟨fun _ => trivial, fun _ => ?_⟩
  simp only [only_unwrap_bind]
  intro message _
  refine (sets_withInner ?_ ?_).bind fun _ => ?_
  · exact (FatCrabTakerBuyActor.sets_handlePeerNotif message).bind fun _ => by simp
  · simp
  · simp only [only_get]
    intro self
    cases self.notifTx <;> simp

theorem open_shutdown : keeping.Open (handle (.request .shutdown)) := by
  intro reply
  exact ⟨rfl, fun answer => by cases answer <;> exact ⟨rfl, fun sent => by cases sent <;> trivial⟩⟩

theorem open_handle (message : TakerMsg) : keeping.Open (handle message) := by
  cases message with
  | request request =>
      by_cases hshutdown : request = .shutdown
      · subst hshutdown
        exact open_shutdown
      · have hopen : keeping.Open _ := keeping.open_of_only (sets_handleRequest hshutdown)
        cases request with
        | shutdown => exact absurd rfl hshutdown
        | _ => exact hopen
  | notif result =>
      apply keeping.open_of_only
      rcases result with error | tradeRspEnvelope | peerEnvelope
      · trivial
      · exact sets_handleTradeRspNotif tradeRspEnvelope
      · exact sets_handlePeerNotif peerEnvelope

/-- A taker's code keeps to its file. -/
theorem fits_code : keeping.Fits code where
  start := by
    intro reply
    cases reply <;> trivial
  handle := open_handle
  revive self := by
    obtain ⟨inner, uuid, notifTx⟩ := self
    cases inner <;> rfl
  view_restore self := by
    obtain ⟨inner, uuid, notifTx⟩ := self
    cases inner <;> rfl

end FatCrabTakerActor

/-- Whatever a maker or a taker is told and answered, and however its tasks end and begin again:
it does what one does whose store is never lost, its persister holds it up at no step, and after
a shutdown or a panic its file shows its store. -/
theorem trades_outlive_tasks {Json : Type} (formats : Formats Json) :
    Kept.Transparent FatCrabMakerActor.code FatCrabMakerActor.keeping formats.ofTrades ∧
      Kept.Transparent FatCrabTakerActor.code FatCrabTakerActor.keeping formats.ofTrades :=
  ⟨FatCrabMakerActor.fits_code.transparent, FatCrabTakerActor.fits_code.transparent⟩

end TradeFile

section Sample

open Sample FatCrabMakerActor

/-- A maker in its first life: it posts its order and is shut down. -/
def firstLife : Actor FatCrabMakerActor MakerMsg tradeInterface :=
  (Actor.opened code obliging buyMaker).deliverAll code
    [(obliging, .request .postNewOrder), (obliging, .request .shutdown)]

/-- It is opened again and waits, and is shut down for the second time. -/
def secondLife : Actor FatCrabMakerActor MakerMsg tradeInterface :=
  (Actor.settle (code.start.exec (Actor.recording obliging) (code.restore firstLife.store)
    firstLife.history)).deliver code obliging (.request .shutdown)

theorem lives_posted : Life.Steps code (.launch code buyMaker) secondLife := by
  have hfirst : Actor.Steps code (.launch code buyMaker) firstLife :=
    Actor.steps_opened_deliverAll _ _ _
  have hended : firstLife = ⟨firstLife.store, .ended, firstLife.history⟩ := rfl
  have hagain : Actor.Step code firstLife .silent
      ⟨code.restore firstLife.store, .running code.start, firstLife.history⟩ := by
    rw [hended]
    exact .restart
  have hsteps : Actor.Steps code (.launch code buyMaker) secondLife :=
    ((hfirst.tail ⟨_, hagain⟩).trans (Actor.steps_exec _ _ _ _)).trans
      (Actor.steps_deliver _ _ _)
  exact hsteps.lift id fun _ _ hstep => Life.Step.act hstep.choose_spec

/-- A maker whose file shows, after its second life, the order that it posted in its first. -/
theorem trades_outlive_tasks_posted : ∃ upkeep,
    Kept.Steps code keeping formats.ofTrades (.launch code keeping buyMaker none)
      ⟨secondLife, upkeep⟩ ∧
    upkeep.Over ∧ secondLife.store.state = .waitingForOffers ∧
    upkeep.persister.file = some (formats.ofTrades.toJson (keeping.view secondLife.store)) := by
  obtain ⟨⟨hreaches, hends, hshows⟩, -⟩ := trades_outlive_tasks formats
  obtain ⟨upkeep, hsteps⟩ := (hreaches buyMaker none secondLife).mpr lives_posted
  have hended : Life.Over secondLife.task := trivial
  obtain ⟨⟨_, last⟩, hlast, rfl, hover⟩ := hends buyMaker none _ hsteps hended
  exact ⟨last, hsteps.trans hlast, hover, rfl, hshows _ _ _ (hsteps.trans hlast) hover⟩

end Sample

end FatCrabTrading
