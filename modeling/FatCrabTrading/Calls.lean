import FatCrabTrading.Effect.Actor
import FatCrabTrading.Order

/-! # What makers and takers call

Makers and takers reach the purse, n3xB, the application's listener and the
requester of the current request only through channels. A closed channel is a
reply like any other: the callers unwrap it, so it ends their task.
-/

namespace FatCrabTrading

open Effect

/-- `FatCrabMakerState`. -/
inductive FatCrabMakerState where
  | new
  | waitingForOffers
  | receivedOffer
  | acceptedOffer
  | inboundBtcNotified
  | inboundFcNotified
  | notifiedOutbound
  | tradeCompleted
  | tradeCancelled
  deriving DecidableEq

/-- `Debug` of a maker state. -/
def FatCrabMakerState.debug : FatCrabMakerState → String
  | .new => "New"
  | .waitingForOffers => "WaitingForOffers"
  | .receivedOffer => "ReceivedOffer"
  | .acceptedOffer => "AcceptedOffer"
  | .inboundBtcNotified => "InboundBtcNotified"
  | .inboundFcNotified => "InboundFcNotified"
  | .notifiedOutbound => "NotifiedOutbound"
  | .tradeCompleted => "TradeCompleted"
  | .tradeCancelled => "TradeCancelled"

/-- `FatCrabTakerState`. -/
inductive FatCrabTakerState where
  | new
  | submittedOffer
  | offerAccepted
  | offerRejected
  | notifiedOutbound
  | inboundBtcNotified
  | inboundFcNotified
  | tradeCompleted
  deriving DecidableEq

/-- A registered sender of notifications, told apart by its channel. -/
structure NotifTx where
  channel : ℕ
  deriving DecidableEq

inductive FatCrabMakerNotif where
  | offer (state : FatCrabMakerState) (offerEnvelope : FatCrabOfferEnvelope)
  | peer (state : FatCrabMakerState) (peerEnvelope : FatCrabPeerEnvelope)
  deriving DecidableEq

inductive FatCrabTakerNotif where
  | tradeRsp (state : FatCrabTakerState) (tradeRspEnvelope : FatCrabTradeRspEnvelope)
  | peer (state : FatCrabTakerState) (peerEnvelope : FatCrabPeerEnvelope)
  deriving DecidableEq

/-- What goes to the application's listener. -/
inductive TradeNotif where
  | maker (notif : FatCrabMakerNotif)
  | taker (notif : FatCrabTakerNotif)
  deriving DecidableEq

/-- What goes back through the `rsp_tx` of a request. -/
inductive Rsp where
  | makerState (result : Except FatCrabError FatCrabMakerState)
  | takerState (result : Except FatCrabError FatCrabTakerState)
  | order (order : FatCrabOrder)
  | orderEnvelope (orderEnvelope : FatCrabOrderEnvelope)
  | peerPubkey (pubkey : Option String)
  | peerBtcTxid (result : Except FatCrabError (Option String))
  | offers (offerEnvelopes : List FatCrabOfferEnvelope)
  | peerMsg (peerEnvelope : Option FatCrabPeerEnvelope)
  | tradeRsp (result : Except FatCrabError (Option FatCrabTradeRspEnvelope))
  | confirmations (result : Except FatCrabError ℕ)
  | unit (result : Except FatCrabError Unit)
  deriving DecidableEq

/-- `bip39::Mnemonic`, by its words. -/
structure Mnemonic where
  words : String
  deriving DecidableEq

section Calls

variable [Bitcoin]

/-- `PurseRequest`. -/
inductive PurseRequest where
  | getMnemonic
  | getRxAddress
  | getBalances
  | allocateFunds (sats : ℕ)
  | freeFunds (fundsId : Uuid)
  | sendFunds (fundsId : Uuid) (address : Address)
  | getHeight
  | getTxConf (txid : Txid)
  | syncBlockchain
  | shutdown

/-- `Balances`. -/
structure Balances where
  immature : ℕ
  trustedPending : ℕ
  untrustedPending : ℕ
  confirmed : ℕ
  allocated : ℕ
  deriving DecidableEq

/-- What the purse answers to a request. -/
@[reducible] def PurseRequest.Reply : PurseRequest → Type
  | .getMnemonic => Except FatCrabError Mnemonic
  | .getRxAddress => Except FatCrabError Address
  | .getBalances => Except FatCrabError Balances
  | .allocateFunds _ => Except FatCrabError Uuid
  | .freeFunds _ => Except FatCrabError Unit
  | .sendFunds _ _ => Except FatCrabError Txid
  | .getHeight => Except FatCrabError ℕ
  | .getTxConf _ => Except FatCrabError ℕ
  | .syncBlockchain => Except FatCrabError Unit
  | .shutdown => Except FatCrabError Unit

/-- The calls of makers and takers. `terminate` writes the store to its file a last
time and joins the persister thread. -/
inductive TradeCall where
  | purse (request : PurseRequest)
  | n3xb (request : N3xbRequest)
  | notify (notifTx : NotifTx) (notif : TradeNotif)
  | respond (rsp : Rsp)
  | terminate

/-- The replies: the purse's is absent once its task is gone, and a send reports
whether the receiver is still there. -/
@[reducible] def TradeCall.Reply : TradeCall → Type
  | .purse request => Option request.Reply
  | .n3xb _ => Except N3xbError Unit
  | .notify _ _ => Bool
  | .respond _ => Bool
  | .terminate => Unit

/-- Calls that touch neither funds nor the trade at the peer. -/
def TradeCall.Quiet : TradeCall → Prop
  | .respond _ | .notify _ _ | .terminate => True
  | .n3xb .registerNotifTx | .n3xb .shutdown => True
  | .purse (.getTxConf _) => True
  | _ => False

@[reducible] def tradeInterface : Interface := ⟨TradeCall, TradeCall.Reply⟩

/-- A call was made and answered so. -/
def Made {σ Msg : Type} (c : TradeCall) (reply : c.Reply) (history : History σ Msg tradeInterface) :
    Prop :=
  ∃ store, @Entry.called σ Msg tradeInterface c reply store ∈ history

theorem Made.cons {σ Msg : Type} {c : TradeCall} {reply : c.Reply}
    {history : History σ Msg tradeInterface} (hmade : Made c reply history)
    (entry : Entry σ Msg tradeInterface) : Made c reply (entry :: history) := by
  obtain ⟨store, hentry⟩ := hmade
  exact ⟨store, List.mem_cons_of_mem entry hentry⟩

/-- The listener took the notification. -/
def Told {σ Msg : Type} (notifTx : NotifTx) (notif : TradeNotif)
    (history : History σ Msg tradeInterface) : Prop :=
  ∃ store, @Entry.called σ Msg tradeInterface (.notify notifTx notif) true store ∈ history

/-- A payment of an id was answered by a transaction id. -/
def Paid {σ Msg : Type} (fundsId : Uuid) (txid : Txid) (history : History σ Msg tradeInterface) :
    Prop :=
  ∃ address store, @Entry.called σ Msg tradeInterface (.purse (.sendFunds fundsId address))
    (some (.ok txid)) store ∈ history

/-- The transaction id that a peer message tells of. -/
def messageTxid (envelope : PeerEnvelope) : Option Txid :=
  envelope.message.asFatCrabPeerMessage.bind fun message => Bitcoin.txidFromStr message.txid

/-- A stored transaction id was told by the peer, in messages that arrive as `peer`. -/
def HeardTxid {σ Msg : Type} (peer : PeerEnvelope → Msg) (history : History σ Msg tradeInterface)
    (stored : Option Txid) : Prop :=
  ∀ txid, stored = some txid → ∃ envelope store,
    Entry.received (peer envelope) store ∈ history ∧ messageTxid envelope = some txid

section HeardTxid

variable {σ Msg : Type} {peer : PeerEnvelope → Msg} {history : History σ Msg tradeInterface}
  {stored : Option Txid}

@[simp] theorem heardTxid_none : HeardTxid peer history none := by
  intro txid htxid
  cases htxid

theorem HeardTxid.cons (hheard : HeardTxid peer history stored)
    (entry : Entry σ Msg tradeInterface) : HeardTxid peer (entry :: history) stored := by
  intro txid htxid
  obtain ⟨envelope, store, hentry, htells⟩ := hheard txid htxid
  exact ⟨envelope, store, List.mem_cons_of_mem entry hentry, htells⟩

theorem heardTxid_received {envelope : PeerEnvelope} {store : σ} {txid : Txid}
    (htells : messageTxid envelope = some txid) :
    HeardTxid peer (.received (peer envelope) store :: history) (some txid) := by
  rintro _ ⟨⟩
  exact ⟨envelope, store, List.mem_cons_self, htells⟩

end HeardTxid

/-- The address that an observed call of `send_funds` pays to. -/
def paidAddress {σ Msg : Type} : Entry σ Msg tradeInterface → Option Address
  | .called (.purse (.sendFunds _ address)) _ _ => some address
  | _ => none

/-- A handler of a maker or taker. -/
abbrev Handler (σ : Type) : Type → Type := Program σ tradeInterface

section Access

variable {σ : Type}

namespace PurseAccess

/-- Send a request to the purse and wait for the answer; both steps are unwrapped. -/
def ask (request : PurseRequest) : Handler σ request.Reply := do
  let reply ← @Program.request σ tradeInterface (.purse request)
  Program.unwrap reply

def getRxAddress : Handler σ (Except FatCrabError Address) := ask .getRxAddress

def allocateFunds (sats : ℕ) : Handler σ (Except FatCrabError Uuid) := ask (.allocateFunds sats)

def freeFunds (fundsId : Uuid) : Handler σ (Except FatCrabError Unit) := ask (.freeFunds fundsId)

def sendFunds (fundsId : Uuid) (address : Address) : Handler σ (Except FatCrabError Txid) :=
  ask (.sendFunds fundsId address)

def getTxConf (txid : Txid) : Handler σ (Except FatCrabError ℕ) := ask (.getTxConf txid)

@[simp] theorem getRxAddress_eq :
    (getRxAddress : Handler σ _) = .call (.purse .getRxAddress) Program.unwrap := rfl

@[simp] theorem allocateFunds_eq (sats : ℕ) :
    (allocateFunds sats : Handler σ _) = .call (.purse (.allocateFunds sats)) Program.unwrap :=
  rfl

@[simp] theorem freeFunds_eq (fundsId : Uuid) :
    (freeFunds fundsId : Handler σ _) = .call (.purse (.freeFunds fundsId)) Program.unwrap := rfl

@[simp] theorem sendFunds_eq (fundsId : Uuid) (address : Address) :
    (sendFunds fundsId address : Handler σ _) =
      .call (.purse (.sendFunds fundsId address)) Program.unwrap := rfl

@[simp] theorem getTxConf_eq (txid : Txid) :
    (getTxConf txid : Handler σ _) = .call (.purse (.getTxConf txid)) Program.unwrap := rfl

end PurseAccess

/-- A request to n3xB through a `MakerAccess` or `TakerAccess`. -/
def n3xb (request : N3xbRequest) : Handler σ (Except N3xbError Unit) :=
  @Program.request σ tradeInterface (.n3xb request)

/-- `rsp_tx.send(..).unwrap()`. -/
def respond (rsp : Rsp) : Handler σ Unit := do
  let sent ← @Program.request σ tradeInterface (.respond rsp)
  Program.assert sent

/-- `notif_tx.send(..).await.unwrap()`. -/
def notify (notifTx : NotifTx) (notif : TradeNotif) : Handler σ Unit := do
  let sent ← @Program.request σ tradeInterface (.notify notifTx notif)
  Program.assert sent

/-- `data.terminate()`. -/
def terminate : Handler σ Unit := @Program.request σ tradeInterface .terminate

@[simp] theorem n3xb_eq (request : N3xbRequest) :
    (n3xb request : Handler σ _) = .call (.n3xb request) Program.pure := rfl

@[simp] theorem respond_eq (rsp : Rsp) :
    (respond rsp : Handler σ Unit) = .call (.respond rsp) Program.assert := rfl

@[simp] theorem notify_eq (notifTx : NotifTx) (notif : TradeNotif) :
    (notify notifTx notif : Handler σ Unit) = .call (.notify notifTx notif) Program.assert := rfl

@[simp] theorem terminate_eq :
    (terminate : Handler σ Unit) = .call .terminate Program.pure := rfl

end Access

end Calls

end FatCrabTrading
