import FatCrabTrading.Maker.Data

/-! # The maker actor

Handlers of a maker, as its task runs them. Logging is left out. A request's
handler answers through `respond`, at the place where the source sends.
-/

namespace FatCrabTrading

open Effect

variable [Bitcoin]

inductive FatCrabMakerRequest where
  | postNewOrder
  | getState
  | getOrderDetails
  | getPeerPubkey
  | getPeerBtcTxid
  | queryOffers
  | queryPeerMsg
  | cancelOrder
  | tradeResponse (tradeRspType : FatCrabTradeRspType) (offerEnvelope : FatCrabOfferEnvelope)
  | releaseNotifyPeer (fatcrabTxid : Option String)
  | checkBtcTxConf
  | tradeComplete
  | registerNotifTx (tx : NotifTx)
  | unregisterNotifTx
  | shutdown
  deriving DecidableEq

/-- `MakerNotif`. -/
inductive MakerNotif where
  | offer (offerEnvelope : OfferEnvelope)
  | peer (peerEnvelope : PeerEnvelope)
  deriving DecidableEq

/-- What a maker's task selects on: its requests and n3xB's notifications. -/
inductive MakerMsg where
  | request (request : FatCrabMakerRequest)
  | notif (result : Except N3xbError MakerNotif)
  deriving DecidableEq

/-- The acceptance of an offer, with the address at which the maker receives. -/
def acceptTradeRsp (offerEnvelope : FatCrabOfferEnvelope) (receiveAddress : String) :
    TradeResponse where
  offerEventId := offerEnvelope.envelope.eventId
  tradeResponse := .accepted
  rejectReason := none
  tradeEngineSpecifics := some (.fatCrabMakeTradeRspSpecifics ⟨receiveAddress⟩)

/-- The rejection of an offer. -/
def rejectTradeRsp (offerEventId : String) (reason : OfferInvalidReason) : TradeResponse where
  offerEventId := offerEventId
  tradeResponse := .rejected
  rejectReason := some reason
  tradeEngineSpecifics := none

/-- The error of `cancel_order` in a state that it does not allow. -/
def cannotCancel (tradeUuid : Uuid) (state : FatCrabMakerState) : FatCrabError :=
  let uuid := tradeUuid.display
  let state := state.debug
  .simple s!"Maker w/ TradeUUID {uuid} cannot cancel order in state {state}"

namespace FatCrabMakerBuyActor

def cancelOrder : Handler FatCrabMakerBuyActor Unit := do
  let self ← Program.read
  match self.data.state with
  | .new | .waitingForOffers | .receivedOffer =>
      match ← n3xb .cancelOrder with
      | .ok _ =>
          let freed ← PurseAccess.freeFunds self.data.btcFundsId
          Program.unwrapOk freed
          setState .tradeCancelled
          respond (.makerState (.ok .tradeCancelled))
      | .error error => respond (.makerState (.error (.n3xb error)))
  | state => respond (.makerState (.error (cannotCancel self.tradeUuid state)))

def tradeResponse (tradeRspType : FatCrabTradeRspType) (offerEnvelope : FatCrabOfferEnvelope) :
    Handler FatCrabMakerBuyActor Unit := do
  let self ← Program.read
  match tradeRspType with
  | .accept =>
      let accepted ← n3xb (.acceptOffer (acceptTradeRsp offerEnvelope self.data.fatcrabRxAddr))
      Program.unwrapOk accepted
      setPeerPubkey offerEnvelope.pubkey
      setState .acceptedOffer
      respond (.makerState (.ok .acceptedOffer))
  | .reject =>
      let rejected ← n3xb (.rejectOffer
        (rejectTradeRsp offerEnvelope.envelope.eventId .tradeEngineSpecific))
      Program.unwrapOk rejected
      let self ← Program.read
      respond (.makerState (.ok self.data.state))

/-- Retain the address at which the peer receives; `true` rejects the message. -/
def handlePeerNotif (message : FatCrabPeerMessage) : Handler FatCrabMakerBuyActor Bool := do
  let self ← Program.read
  let address ← Program.unwrap (Bitcoin.addressFromStr message.receiveAddress)
  if Bitcoin.isValidForNetwork address self.network then
    setPeerBtcAddr address
    return false
  else
    return true

def checkBtcTxConfirmation : Handler FatCrabMakerBuyActor Unit := do
  let self ← Program.read
  let uuid := self.tradeUuid.display
  respond (.confirmations (.error (.simple
    s!"Maker w/ TradeUUID {uuid} is a Buyer, will not have a Peer BTC Txid to check on")))

/-- The error of a release before the peer's address is known. -/
def noPeerAddress (tradeUuid : Uuid) : FatCrabError :=
  let uuid := tradeUuid.display
  .simple s!"Maker w/ TradeUUID {uuid} should have received BTC address from peer"

def releaseNotifyPeer : Handler FatCrabMakerBuyActor Unit := do
  let self ← Program.read
  match self.data.peerBtcAddr with
  | none => respond (.makerState (.error (noPeerAddress self.tradeUuid)))
  | some text =>
      let btcAddr ← Program.unwrap (parseAddress text self.network)
      match ← PurseAccess.sendFunds self.data.btcFundsId btcAddr with
      | .error error => respond (.makerState (.error error))
      | .ok txid =>
          let message : FatCrabPeerMessage :=
            ⟨self.data.fatcrabRxAddr, Bitcoin.txidToString txid⟩
          match ← n3xb (.sendPeerMessage (.fatCrabPeerMessage message)) with
          | .ok _ =>
              respond (.makerState (.ok .notifiedOutbound))
              setState .notifiedOutbound
          | .error error => respond (.makerState (.error (.n3xb error)))

def tradeComplete : Handler FatCrabMakerBuyActor Unit := do
  setState .tradeCompleted
  match ← n3xb .tradeComplete with
  | .ok _ => respond (.makerState (.ok .tradeCompleted))
  | .error error => respond (.makerState (.error (.n3xb error)))

end FatCrabMakerBuyActor

namespace FatCrabMakerSellActor

def cancelOrder : Handler FatCrabMakerSellActor Unit := do
  let self ← Program.read
  match self.data.state with
  | .new | .waitingForOffers | .receivedOffer =>
      match ← n3xb .cancelOrder with
      | .ok _ =>
          setState .tradeCancelled
          respond (.makerState (.ok .tradeCancelled))
      | .error error => respond (.makerState (.error (.n3xb error)))
  | state => respond (.makerState (.error (cannotCancel self.tradeUuid state)))

def tradeResponse (tradeRspType : FatCrabTradeRspType) (offerEnvelope : FatCrabOfferEnvelope) :
    Handler FatCrabMakerSellActor Unit := do
  let self ← Program.read
  match tradeRspType with
  | .accept =>
      let btcRxAddr ← Program.unwrap (parseAddress self.data.btcRxAddr self.network)
      let accepted ← n3xb (.acceptOffer
        (acceptTradeRsp offerEnvelope (Bitcoin.addressToString btcRxAddr)))
      Program.unwrapOk accepted
      setPeerPubkey offerEnvelope.pubkey
      setState .acceptedOffer
      respond (.makerState (.ok .acceptedOffer))
  | .reject =>
      let rejected ← n3xb (.rejectOffer
        (rejectTradeRsp offerEnvelope.envelope.eventId .tradeEngineSpecific))
      Program.unwrapOk rejected
      let self ← Program.read
      respond (.makerState (.ok self.data.state))

/-- Retain the peer's transaction id; `true` rejects the message. -/
def handlePeerNotif (message : FatCrabPeerMessage) : Handler FatCrabMakerSellActor Bool :=
  match Bitcoin.txidFromStr message.txid with
  | some txid => do
      setPeerBtcTxid txid
      return false
  | none => return true

def checkBtcTxConfirmation : Handler FatCrabMakerSellActor Unit := do
  let self ← Program.read
  match self.data.peerBtcTxid with
  | none =>
      let uuid := self.tradeUuid.display
      respond (.confirmations (.error (.simple
        s!"Maker w/ TradeUUID {uuid} should have received BTC Txid from peer")))
  | some txid =>
      let confirmations ← PurseAccess.getTxConf txid
      respond (.confirmations confirmations)

def notifyPeer (txid : String) : Handler FatCrabMakerSellActor Unit := do
  let self ← Program.read
  let btcRxAddr ← Program.unwrap (parseAddress self.data.btcRxAddr self.network)
  let message : FatCrabPeerMessage := ⟨Bitcoin.addressToString btcRxAddr, txid⟩
  match ← n3xb (.sendPeerMessage (.fatCrabPeerMessage message)) with
  | .ok _ =>
      respond (.makerState (.ok .notifiedOutbound))
      setState .notifiedOutbound
  | .error error => respond (.makerState (.error (.n3xb error)))

def tradeComplete : Handler FatCrabMakerSellActor Unit := do
  setState .tradeCompleted
  match ← n3xb .tradeComplete with
  | .ok _ => respond (.makerState (.ok .tradeCompleted))
  | .error error => respond (.makerState (.error (.n3xb error)))

end FatCrabMakerSellActor

namespace FatCrabMakerActor

/-- `FatCrabMakerActor::new`; `none` for the address is a panic for a Buy order. -/
def new {σ : Type} (order : FatCrabOrder) (fatcrabRxAddr : Option String) (network : Network) :
    Handler σ (Except FatCrabError FatCrabMakerActor) :=
  match order.orderType with
  | .buy => do
      let fatcrabRxAddr ← Program.unwrap fatcrabRxAddr
      match ← FatCrabMakerBuyActor.new order fatcrabRxAddr network with
      | .ok actor => return .ok ⟨.buy actor, order.tradeUuid, none⟩
      | .error error => return .error error
  | .sell => do
      let actor ← FatCrabMakerSellActor.new order network
      return .ok ⟨.sell actor, order.tradeUuid, none⟩

/-- `restore_buy_actor` and `restore_sell_actor`: only the stored data survive. -/
def restore (self : FatCrabMakerActor) : FatCrabMakerActor :=
  match self.inner with
  | .buy actor =>
      let actor := FatCrabMakerBuyActor.restore actor.data actor.network
      ⟨.buy actor, actor.tradeUuid, none⟩
  | .sell actor =>
      let actor := FatCrabMakerSellActor.restore actor.data actor.network
      ⟨.sell actor, actor.tradeUuid, none⟩

def setState (state : FatCrabMakerState) : Handler FatCrabMakerActor Unit :=
  withInner (FatCrabMakerBuyActor.setState state) (FatCrabMakerSellActor.setState state)

def postNewOrder : Handler FatCrabMakerActor Unit := do
  match ← n3xb .postNewOrder with
  | .error error => respond (.makerState (.error (.n3xb error)))
  | .ok _ =>
      respond (.makerState (.ok .waitingForOffers))
      setState .waitingForOffers

def getOrderDetails : Handler FatCrabMakerActor Unit := do
  let self ← Program.read
  respond (.order (match self.inner with
    | .buy actor => actor.data.order
    | .sell actor => actor.data.order))

def getState : Handler FatCrabMakerActor Unit := do
  let self ← Program.read
  respond (.makerState (.ok self.state))

def getPeerPubkey : Handler FatCrabMakerActor Unit := do
  let self ← Program.read
  respond (.peerPubkey (match self.inner with
    | .buy actor => actor.data.peerPubkey
    | .sell actor => actor.data.peerPubkey))

def getPeerBtcTxid : Handler FatCrabMakerActor Unit := do
  let self ← Program.read
  respond (.peerBtcTxid (match self.inner with
    | .buy _ => .error (.simple "Buy Maker does not have peer_btc_txid")
    | .sell actor => .ok (actor.data.peerBtcTxid.map Bitcoin.txidToString)))

def queryOffers : Handler FatCrabMakerActor Unit := do
  let self ← Program.read
  respond (.offers (match self.inner with
    | .buy actor => actor.data.offerEnvelopes
    | .sell actor => actor.data.offerEnvelopes))

def queryPeerMsg : Handler FatCrabMakerActor Unit := do
  let self ← Program.read
  respond (.peerMsg (match self.inner with
    | .buy actor => actor.data.peerEnvelope
    | .sell actor => actor.data.peerEnvelope))

def setNotifTx (tx : Option NotifTx) : Handler FatCrabMakerActor Unit :=
  Program.update fun self => { self with notifTx := tx }

/-- A second registration replaces the first, although it is answered by an error. -/
def registerNotifTx (tx : NotifTx) : Handler FatCrabMakerActor Unit := do
  let self ← Program.read
  let uuid := self.tradeUuid.display
  setNotifTx (some tx)
  respond (.unit (if self.notifTx.isSome
    then .error (.simple s!"Maker w/ TradeUUID {uuid} already have notif_tx registered")
    else .ok ()))

def unregisterNotifTx : Handler FatCrabMakerActor Unit := do
  let self ← Program.read
  let uuid := self.tradeUuid.display
  setNotifTx none
  respond (.unit (if self.notifTx.isNone
    then .error (.simple
      s!"Maker w/ TradeUUID {uuid} expected to already have notif_tx registered")
    else .ok ()))

def shutdown : Handler FatCrabMakerActor Unit := do
  terminate
  match ← n3xb .shutdown with
  | .ok _ => respond (.unit (.ok ()))
  | .error error => respond (.unit (.error (.n3xb error)))

/-- The reason given for an offer that arrives too late. -/
def unexpectedOfferReason : FatCrabMakerState → OfferInvalidReason
  | .tradeCancelled => .cancelled
  | _ => .pendingAnother

/-- Reject an offer that the state does not expect; `true` if it did. -/
def handleOfferInUnexpectedState (offerEnvelope : OfferEnvelope) :
    Handler FatCrabMakerActor Bool := do
  let self ← Program.read
  if self.state = .waitingForOffers ∨ self.state = .receivedOffer then
    return false
  else
    let rejected ← n3xb (.rejectOffer
      (rejectTradeRsp offerEnvelope.eventId (unexpectedOfferReason self.state)))
    Program.unwrapOk rejected
    return true

/-- Store an offer and move to `ReceivedOffer`. -/
def recordOffer (envelope : FatCrabOfferEnvelope) : Handler FatCrabMakerActor Unit :=
  withInner
    (do FatCrabMakerBuyActor.insertOfferEnvelope envelope
        FatCrabMakerBuyActor.setState .receivedOffer)
    (do FatCrabMakerSellActor.insertOfferEnvelope envelope
        FatCrabMakerSellActor.setState .receivedOffer)

def handleOfferNotif (offerEnvelope : OfferEnvelope) : Handler FatCrabMakerActor Unit := do
  let unexpected ← handleOfferInUnexpectedState offerEnvelope
  if unexpected then
    return ()
  else
    match FatCrabOffer.validateN3xbOffer offerEnvelope.offer with
    | .error _ => return ()
    | .ok _ =>
        let self ← Program.read
        match self.notifTx with
        | none => return ()
        | some notifTx =>
            let envelope : FatCrabOfferEnvelope := ⟨offerEnvelope.pubkey, offerEnvelope⟩
            recordOffer envelope
            notify notifTx (.maker (.offer .receivedOffer envelope))

/-- The state that an accepted peer message leads to. -/
def peerNotifState (self : FatCrabMakerActor) : FatCrabMakerState :=
  match self.inner with
  | .buy _ => .inboundFcNotified
  | .sell _ => .inboundBtcNotified

def handlePeerNotif (peerEnvelope : PeerEnvelope) : Handler FatCrabMakerActor Unit := do
  let self ← Program.read
  if self.state ≠ .acceptedOffer then
    return ()
  else
    let message ← Program.unwrap peerEnvelope.message.asFatCrabPeerMessage
    let envelope : FatCrabPeerEnvelope := ⟨message, peerEnvelope⟩
    let rejected ← withInner (FatCrabMakerBuyActor.handlePeerNotif message)
      (FatCrabMakerSellActor.handlePeerNotif message)
    if rejected then
      return ()
    else
      withInner (FatCrabMakerBuyActor.setPeerEnvelope envelope)
        (FatCrabMakerSellActor.setPeerEnvelope envelope)
      let newState := self.peerNotifState
      setState newState
      let self ← Program.read
      match self.notifTx with
      | some notifTx => notify notifTx (.maker (.peer newState envelope))
      | none => return ()

/-- The arm of the task's loop that serves a request. -/
def handleRequest : FatCrabMakerRequest → Handler FatCrabMakerActor Unit
  | .postNewOrder => postNewOrder
  | .getState => getState
  | .getOrderDetails => getOrderDetails
  | .getPeerPubkey => getPeerPubkey
  | .getPeerBtcTxid => getPeerBtcTxid
  | .queryOffers => queryOffers
  | .queryPeerMsg => queryPeerMsg
  | .cancelOrder =>
      withInner FatCrabMakerBuyActor.cancelOrder FatCrabMakerSellActor.cancelOrder
  | .tradeResponse tradeRspType offerEnvelope =>
      withInner (FatCrabMakerBuyActor.tradeResponse tradeRspType offerEnvelope)
        (FatCrabMakerSellActor.tradeResponse tradeRspType offerEnvelope)
  | .releaseNotifyPeer fatcrabTxid =>
      withInner FatCrabMakerBuyActor.releaseNotifyPeer do
        let fatcrabTxid ← Program.unwrap fatcrabTxid
        FatCrabMakerSellActor.notifyPeer fatcrabTxid
  | .checkBtcTxConf =>
      withInner FatCrabMakerBuyActor.checkBtcTxConfirmation
        FatCrabMakerSellActor.checkBtcTxConfirmation
  | .tradeComplete =>
      withInner FatCrabMakerBuyActor.tradeComplete FatCrabMakerSellActor.tradeComplete
  | .registerNotifTx tx => registerNotifTx tx
  | .unregisterNotifTx => unregisterNotifTx
  | .shutdown => shutdown

/-- The arm of the task's loop that serves a notification. -/
def handleNotif : Except N3xbError MakerNotif → Handler FatCrabMakerActor Unit
  | .ok (.offer offerEnvelope) => handleOfferNotif offerEnvelope
  | .ok (.peer peerEnvelope) => handlePeerNotif peerEnvelope
  | .error _ => return ()

/-- One turn of the loop of `run`. -/
def handle : MakerMsg → Handler FatCrabMakerActor Flow
  | .request .shutdown => do
      handleRequest .shutdown
      return .stop
  | .request request => do
      handleRequest request
      return .next
  | .notif result => do
      handleNotif result
      return .next

/-- What `run` does before its loop. -/
def start : Handler FatCrabMakerActor Flow := do
  let registered ← n3xb .registerNotifTx
  Program.unwrapOk registered
  return .next

/-- The code of a maker's task. -/
def code : Behaviour FatCrabMakerActor MakerMsg tradeInterface := ⟨start, handle, restore⟩

end FatCrabMakerActor

end FatCrabTrading
