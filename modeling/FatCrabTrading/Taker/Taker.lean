import FatCrabTrading.Taker.Data

/-! # The taker actor

Handlers of a taker, as its task runs them. Logging is left out. A request's
handler answers through `respond`, at the place where the source sends.
-/

namespace FatCrabTrading

open Effect

variable [Bitcoin]

inductive FatCrabTakerRequest where
  | takeOrder
  | getOrderDetails
  | getState
  | getPeerBtcTxid
  | queryTradeRsp
  | queryPeerMsg
  | releaseNotifyPeer (txid : Option String)
  | checkBtcTxConf
  | tradeComplete
  | shutdown
  | registerNotifTx (tx : NotifTx)
  | unregisterNotifTx
  deriving DecidableEq

/-- `TakerNotif`. -/
inductive TakerNotif where
  | tradeRsp (tradeRspEnvelope : TradeResponseEnvelope)
  | peer (peerEnvelope : PeerEnvelope)
  deriving DecidableEq

/-- What a taker's task selects on: its requests and n3xB's notifications. -/
inductive TakerMsg where
  | request (request : FatCrabTakerRequest)
  | notif (result : Except N3xbError TakerNotif)
  deriving DecidableEq

namespace FatCrabTakerBuyActor

/-- The state that a trade response leads to. -/
def tradeRspState : FatCrabTradeRsp → FatCrabTakerState
  | .accept _ => .offerAccepted
  | .reject => .offerRejected

def handleTradeRspNotif (tradeRsp : FatCrabTradeRsp)
    (n3xbTradeRspEnvelope : TradeResponseEnvelope) : Handler FatCrabTakerBuyActor Unit := do
  let self ← Program.read
  match self.notifTx with
  | none => return ()
  | some notifTx =>
      let envelope : FatCrabTradeRspEnvelope := ⟨tradeRsp, n3xbTradeRspEnvelope⟩
      setTradeRspEnvelope envelope
      setState (tradeRspState tradeRsp)
      let self ← Program.read
      notify notifTx (.taker (.tradeRsp self.data.state envelope))

def queryTradeRsp : Handler FatCrabTakerBuyActor Unit := do
  let self ← Program.read
  respond (.tradeRsp (.ok self.data.tradeRspEnvelope))

def notifyPeer (txid : String) : Handler FatCrabTakerBuyActor Unit := do
  let self ← Program.read
  let btcRxAddr ← Program.unwrap (parseAddress self.data.btcRxAddr self.network)
  let message : FatCrabPeerMessage := ⟨Bitcoin.addressToString btcRxAddr, txid⟩
  match ← n3xb (.sendPeerMessage (.fatCrabPeerMessage message)) with
  | .ok _ =>
      setState .notifiedOutbound
      respond (.takerState (.ok .notifiedOutbound))
  | .error error => respond (.takerState (.error (.n3xb error)))

/-- Retain the peer's transaction id if it parses. -/
def handlePeerNotif (message : FatCrabPeerMessage) : Handler FatCrabTakerBuyActor Unit :=
  match Bitcoin.txidFromStr message.txid with
  | some txid => setPeerBtcTxid txid
  | none => return ()

def checkBtcTxConfirmation : Handler FatCrabTakerBuyActor Unit := do
  let self ← Program.read
  match self.data.peerBtcTxid with
  | none =>
      let uuid := self.tradeUuid.display
      respond (.confirmations (.error (.simple
        s!"Taker w/ TradeUUID {uuid} should have received BTC Txid from peer")))
  | some txid =>
      let confirmations ← PurseAccess.getTxConf txid
      respond (.confirmations confirmations)

def tradeComplete : Handler FatCrabTakerBuyActor Unit := do
  setState .tradeCompleted
  match ← n3xb .tradeComplete with
  | .ok _ => respond (.takerState (.ok .tradeCompleted))
  | .error error => respond (.takerState (.error (.n3xb error)))

end FatCrabTakerBuyActor

namespace FatCrabTakerSellActor

/-- The errors of a release, in the order in which it can fail. -/
def noPeerAddress (tradeUuid : Uuid) : FatCrabError :=
  let uuid := tradeUuid.display
  .simple s!"Taker w/ TradeUUID {uuid} should have received BTC Address from peer"

def wrongNetwork (tradeUuid : Uuid) (peerBtcAddr : String) (network : Network)
    (address : Address) : FatCrabError :=
  let uuid := tradeUuid.display
  let text := peerBtcAddr.quote
  let expected := network.display
  let error := Bitcoin.networkError address network
  .simple s!"Taker w/ TradeUUID {uuid} Address received from Peer {text} is not {expected} - {error}"

def unableToSendFunds (tradeUuid : Uuid) (error : FatCrabError) : FatCrabError :=
  let uuid := tradeUuid.display
  let error := error.display
  .simple s!"Taker w/ TradeUUID {uuid} unable to send funds - {error}"

def unableToSendMessage (tradeUuid : Uuid) (error : N3xbError) : FatCrabError :=
  let uuid := tradeUuid.display
  let error := error.text
  .simple s!"Taker w/ TradeUUID {uuid} unable to send Peer Message - {error}"

def releaseBtcNotifyPeer : Handler FatCrabTakerSellActor (Except FatCrabError Unit) := do
  let self ← Program.read
  match self.data.peerBtcAddr with
  | none => return .error (noPeerAddress self.tradeUuid)
  | some peerBtcAddr =>
      let address ← Program.unwrap (Bitcoin.addressFromStr peerBtcAddr)
      if Bitcoin.isValidForNetwork address self.network then
        match ← PurseAccess.sendFunds self.data.btcFundsId address with
        | .error error => return .error (unableToSendFunds self.tradeUuid error)
        | .ok txid =>
            let message : FatCrabPeerMessage :=
              ⟨self.data.fatcrabRxAddr, Bitcoin.txidToString txid⟩
            match ← n3xb (.sendPeerMessage (.fatCrabPeerMessage message)) with
            | .error error => return .error (unableToSendMessage self.tradeUuid error)
            | .ok _ => return .ok ()
      else
        return .error (wrongNetwork self.tradeUuid peerBtcAddr self.network address)

def notifyTradeRsp (tradeRsp : FatCrabTradeRsp) (n3xbTradeRspEnvelope : TradeResponseEnvelope) :
    Handler FatCrabTakerSellActor Unit := do
  let self ← Program.read
  match self.notifTx with
  | none => return ()
  | some notifTx =>
      notify notifTx (.taker (.tradeRsp self.data.state ⟨tradeRsp, n3xbTradeRspEnvelope⟩))

def handleTradeRspNotif (tradeRsp : FatCrabTradeRsp)
    (n3xbTradeRspEnvelope : TradeResponseEnvelope) : Handler FatCrabTakerSellActor Unit := do
  match tradeRsp with
  | .accept receiveAddress =>
      setPeerBtcAddr receiveAddress
      setState .offerAccepted
      match ← releaseBtcNotifyPeer with
      | .ok _ =>
          setState .notifiedOutbound
          notifyTradeRsp tradeRsp n3xbTradeRspEnvelope
      | .error _ => notifyTradeRsp tradeRsp n3xbTradeRspEnvelope
  | .reject =>
      let self ← Program.read
      let freed ← PurseAccess.freeFunds self.data.btcFundsId
      Program.unwrapOk freed
      setState .offerRejected
      notifyTradeRsp tradeRsp n3xbTradeRspEnvelope

def queryTradeRsp : Handler FatCrabTakerSellActor Unit := do
  let self ← Program.read
  let uuid := self.tradeUuid.display
  respond (.tradeRsp (.error (.simple
    s!"Taker w/ TradeUUID {uuid} is a Seller, does not retain Trade Response for query")))

def releaseNotifyPeer : Handler FatCrabTakerSellActor Unit := do
  match ← releaseBtcNotifyPeer with
  | .ok _ =>
      setState .notifiedOutbound
      respond (.takerState (.ok .notifiedOutbound))
  | .error error => respond (.takerState (.error error))

def checkBtcTxConfirmation : Handler FatCrabTakerSellActor Unit := do
  let self ← Program.read
  let uuid := self.tradeUuid.display
  respond (.confirmations (.error (.simple
    s!"Taker w/ TradeUUID {uuid} is a Buyer, will not have a Peer BTC Txid to check on")))

def tradeComplete : Handler FatCrabTakerSellActor Unit := do
  setState .tradeCompleted
  match ← n3xb .tradeComplete with
  | .ok _ => respond (.takerState (.ok .tradeCompleted))
  | .error error => respond (.takerState (.error (.n3xb error)))

end FatCrabTakerSellActor

namespace FatCrabTakerActor

/-- `FatCrabTakerActor::new`; `none` for the address is a panic for a Sell order. -/
def new {σ : Type} (orderEnvelope : FatCrabOrderEnvelope) (fatcrabRxAddr : Option String)
    (network : Network) : Handler σ (Except FatCrabError FatCrabTakerActor) :=
  match orderEnvelope.order.orderType with
  | .buy => do
      let actor ← FatCrabTakerBuyActor.new orderEnvelope network
      return .ok ⟨.buy actor, orderEnvelope.order.tradeUuid, none⟩
  | .sell => do
      let fatcrabRxAddr ← Program.unwrap fatcrabRxAddr
      match ← FatCrabTakerSellActor.new orderEnvelope fatcrabRxAddr network with
      | .ok actor => return .ok ⟨.sell actor, orderEnvelope.order.tradeUuid, none⟩
      | .error error => return .error error

/-- `restore_buy_actor` and `restore_sell_actor`: only the stored data survive. -/
def restore (self : FatCrabTakerActor) : FatCrabTakerActor :=
  match self.inner with
  | .buy actor =>
      let actor := FatCrabTakerBuyActor.restore actor.data actor.network
      ⟨.buy actor, actor.tradeUuid, none⟩
  | .sell actor =>
      let actor := FatCrabTakerSellActor.restore actor.data actor.network
      ⟨.sell actor, actor.tradeUuid, none⟩

def setState (state : FatCrabTakerState) : Handler FatCrabTakerActor Unit :=
  withInner (FatCrabTakerBuyActor.setState state) (FatCrabTakerSellActor.setState state)

def takeOrder : Handler FatCrabTakerActor Unit := do
  match ← n3xb .takeOrder with
  | .error error => respond (.takerState (.error (.n3xb error)))
  | .ok _ =>
      respond (.takerState (.ok .submittedOffer))
      setState .submittedOffer

def getOrderDetails : Handler FatCrabTakerActor Unit := do
  let self ← Program.read
  respond (.orderEnvelope (match self.inner with
    | .buy actor => actor.data.orderEnvelope
    | .sell actor => actor.data.orderEnvelope))

def getState : Handler FatCrabTakerActor Unit := do
  let self ← Program.read
  respond (.takerState (.ok self.state))

def getPeerBtcTxid : Handler FatCrabTakerActor Unit := do
  let self ← Program.read
  respond (.peerBtcTxid (match self.inner with
    | .buy actor => .ok (actor.data.peerBtcTxid.map Bitcoin.txidToString)
    | .sell _ => .error (.simple "Sell Taker does not have peer_btc_txid")))

def queryPeerMsg : Handler FatCrabTakerActor Unit := do
  let self ← Program.read
  respond (.peerMsg (match self.inner with
    | .buy actor => actor.data.peerEnvelope
    | .sell actor => actor.data.peerEnvelope))

def shutdown : Handler FatCrabTakerActor Unit := do
  terminate
  match ← n3xb .shutdown with
  | .ok _ => respond (.unit (.ok ()))
  | .error error => respond (.unit (.error (.n3xb error)))

/-- The listener is set in both actors. -/
def withNotifTx (tx : Option NotifTx) (self : FatCrabTakerActor) : FatCrabTakerActor :=
  { self with
    notifTx := tx
    inner := match self.inner with
      | .buy actor => .buy { actor with notifTx := tx }
      | .sell actor => .sell { actor with notifTx := tx } }

def setNotifTx (tx : Option NotifTx) : Handler FatCrabTakerActor Unit :=
  Program.update (withNotifTx tx)

/-- A second registration replaces the first, although it is answered by an error. -/
def registerNotifTx (tx : NotifTx) : Handler FatCrabTakerActor Unit := do
  let self ← Program.read
  let uuid := self.tradeUuid.display
  setNotifTx (some tx)
  respond (.unit (if self.notifTx.isSome
    then .error (.simple s!"Taker w/ TradeUUID {uuid} already have notif_tx registered")
    else .ok ()))

def unregisterNotifTx : Handler FatCrabTakerActor Unit := do
  let self ← Program.read
  let uuid := self.tradeUuid.display
  setNotifTx none
  respond (.unit (if self.notifTx.isNone
    then .error (.simple
      s!"Taker w/ TradeUUID {uuid} expected to already have notif_tx registered")
    else .ok ()))

def handleTradeRspNotif (tradeRspEnvelope : TradeResponseEnvelope) :
    Handler FatCrabTakerActor Unit := do
  let self ← Program.read
  if self.state ≠ .submittedOffer then
    return ()
  else
    let tradeRsp ← Program.unwrap (FatCrabTradeRsp.fromN3xbTradeRsp tradeRspEnvelope.tradeRsp)
    withInner (FatCrabTakerBuyActor.handleTradeRspNotif tradeRsp tradeRspEnvelope)
      (FatCrabTakerSellActor.handleTradeRspNotif tradeRsp tradeRspEnvelope)

def handlePeerNotif (peerEnvelope : PeerEnvelope) : Handler FatCrabTakerActor Unit := do
  let self ← Program.read
  if self.state ≠ .notifiedOutbound then
    return ()
  else
    let message ← Program.unwrap peerEnvelope.message.asFatCrabPeerMessage
    let envelope : FatCrabPeerEnvelope := ⟨message, peerEnvelope⟩
    withInner
      (do FatCrabTakerBuyActor.handlePeerNotif message
          FatCrabTakerBuyActor.setPeerEnvelope envelope
          FatCrabTakerBuyActor.setState .inboundBtcNotified)
      (do FatCrabTakerSellActor.setPeerEnvelope envelope
          FatCrabTakerSellActor.setState .inboundFcNotified)
    let self ← Program.read
    match self.notifTx with
    | some notifTx => notify notifTx (.taker (.peer self.state envelope))
    | none => return ()

/-- The arm of the task's loop that serves a request. -/
def handleRequest : FatCrabTakerRequest → Handler FatCrabTakerActor Unit
  | .takeOrder => takeOrder
  | .getOrderDetails => getOrderDetails
  | .getState => getState
  | .getPeerBtcTxid => getPeerBtcTxid
  | .queryTradeRsp =>
      withInner FatCrabTakerBuyActor.queryTradeRsp FatCrabTakerSellActor.queryTradeRsp
  | .queryPeerMsg => queryPeerMsg
  | .releaseNotifyPeer txid =>
      withInner
        (do let txid ← Program.unwrap txid
            FatCrabTakerBuyActor.notifyPeer txid)
        FatCrabTakerSellActor.releaseNotifyPeer
  | .checkBtcTxConf =>
      withInner FatCrabTakerBuyActor.checkBtcTxConfirmation
        FatCrabTakerSellActor.checkBtcTxConfirmation
  | .tradeComplete =>
      withInner FatCrabTakerBuyActor.tradeComplete FatCrabTakerSellActor.tradeComplete
  | .shutdown => shutdown
  | .registerNotifTx tx => registerNotifTx tx
  | .unregisterNotifTx => unregisterNotifTx

/-- The arm of the task's loop that serves a notification. -/
def handleNotif : Except N3xbError TakerNotif → Handler FatCrabTakerActor Unit
  | .ok (.tradeRsp tradeRspEnvelope) => handleTradeRspNotif tradeRspEnvelope
  | .ok (.peer peerEnvelope) => handlePeerNotif peerEnvelope
  | .error _ => return ()

/-- One turn of the loop of `run`. -/
def handle : TakerMsg → Handler FatCrabTakerActor Flow
  | .request .shutdown => do
      handleRequest .shutdown
      return .stop
  | .request request => do
      handleRequest request
      return .next
  | .notif result => do
      handleNotif result
      return .next

/-- What `run` does before its loop. -/
def start : Handler FatCrabTakerActor Flow := do
  let registered ← n3xb .registerNotifTx
  Program.unwrapOk registered
  return .next

/-- The code of a taker's task. -/
def code : Behaviour FatCrabTakerActor TakerMsg tradeInterface := ⟨start, handle, restore⟩

/-! ## The notice of a response

A Sell taker's turn ends with it, whatever the response was.
-/

section Notice

variable {ε : Type} (answer : Program.Environment FatCrabTakerActor tradeInterface ε)
  (tradeRsp : FatCrabTradeRsp) (envelope : TradeResponseEnvelope) (sell : FatCrabTakerSellActor)
  (uuid : Uuid) (notifTx : Option NotifTx) (flow : Flow) (environment : ε)

@[simp] theorem store_exec_notifyTradeRsp :
    ((Program.focus sell? putSell (FatCrabTakerSellActor.notifyTradeRsp tradeRsp envelope) >>=
      fun _ => Program.pure flow).exec answer ⟨.sell sell, uuid, notifTx⟩ environment).store =
        ⟨.sell sell, uuid, notifTx⟩ := by
  cases hlistener : sell.notifTx with
  | none => simp [FatCrabTakerSellActor.notifyTradeRsp, hlistener]
  | some listener => simp [FatCrabTakerSellActor.notifyTradeRsp, hlistener]

/-- The turn is finished if the listener hears it. -/
theorem outcome_exec_notifyTradeRsp :
    ((Program.focus sell? putSell (FatCrabTakerSellActor.notifyTradeRsp tradeRsp envelope) >>=
      fun _ => Program.pure flow).exec answer ⟨.sell sell, uuid, notifTx⟩ environment).outcome =
        .done flow ↔
      ∀ listener, sell.notifTx = some listener →
        (answer ⟨.sell sell, uuid, notifTx⟩ environment (.notify listener
          (.taker (.tradeRsp sell.data.state ⟨tradeRsp, envelope⟩)))).1 = true := by
  cases hlistener : sell.notifTx with
  | none => simp [FatCrabTakerSellActor.notifyTradeRsp, hlistener]
  | some listener => simp [FatCrabTakerSellActor.notifyTradeRsp, hlistener]

/-- The same of a task that is observed on its own. -/
theorem done_exec_notifyTradeRsp {Msg : Type} {answers : (c : TradeCall) → c.Reply}
    {sell : FatCrabTakerSellActor} (hthere : ∀ listener notif, sell.notifTx = some listener →
      answers (.notify listener notif) = true)
    (history : History FatCrabTakerActor Msg tradeInterface) :
    ((Program.focus sell? putSell (FatCrabTakerSellActor.notifyTradeRsp tradeRsp envelope) >>=
      fun _ => Program.pure flow).exec (Actor.recording answers) ⟨.sell sell, uuid, notifTx⟩
        history).outcome = .done flow :=
  (outcome_exec_notifyTradeRsp ..).mpr fun listener hlistener => hthere listener _ hlistener

end Notice

end FatCrabTakerActor

end FatCrabTrading
