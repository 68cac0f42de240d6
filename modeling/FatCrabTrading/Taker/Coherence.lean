import FatCrabTrading.Sample
import FatCrabTrading.Taker.Quiet

/-! # A taker's data match its state

As for a maker, the state promises fields that later handlers read. A Buy taker moves on
after any message of its peer, also after one without a transaction id, so the promise
holds in the runs in which its peer names one.
-/

namespace FatCrabTrading

open Effect Program

/-- What the state of a Sell taker promises of its data. -/
structure FatCrabTakerSellData.Coherent (data : FatCrabTakerSellData) : Prop where
  accepted : data.state = .offerAccepted → data.peerBtcAddr ≠ none
  inbound : data.state = .inboundFcNotified → data.peerEnvelope ≠ none

namespace FatCrabTakerSellData

theorem coherent_new (orderEnvelope : FatCrabOrderEnvelope) (fatcrabRxAddr : String)
    (btcFundsId : Uuid) (peerBtcAddr : Option String) :
    (new orderEnvelope fatcrabRxAddr btcFundsId peerBtcAddr).Coherent := by
  constructor <;> simp [new]

/-- A state that promises nothing. -/
theorem coherent_plain (data : FatCrabTakerSellData) (state : FatCrabTakerState)
    (hplain : state = .submittedOffer ∨ state = .offerRejected ∨ state = .notifiedOutbound ∨
      state = .tradeCompleted) : Coherent { data with state := state } := by
  constructor <;> rcases hplain with rfl | rfl | rfl | rfl <;> simp

theorem coherent_accept (data : FatCrabTakerSellData) (receiveAddress : String) :
    Coherent { data with peerBtcAddr := some receiveAddress, state := .offerAccepted } := by
  constructor <;> simp

theorem coherent_peer (data : FatCrabTakerSellData) (envelope : FatCrabPeerEnvelope) :
    Coherent { data with peerEnvelope := some envelope, state := .inboundFcNotified } := by
  constructor <;> simp

end FatCrabTakerSellData

section Coherence

variable [Bitcoin]

/-- What the state of a Buy taker promises of its data. -/
structure FatCrabTakerBuyData.Coherent (data : FatCrabTakerBuyData) : Prop where
  accepted : data.state = .offerAccepted → ∃ envelope receiveAddress,
    data.tradeRspEnvelope = some envelope ∧ envelope.tradeRsp = .accept receiveAddress
  rejected : data.state = .offerRejected → ∃ envelope,
    data.tradeRspEnvelope = some envelope ∧ envelope.tradeRsp = .reject
  inbound : data.state = .inboundBtcNotified → ∃ envelope txid,
    data.peerEnvelope = some envelope ∧
      Bitcoin.txidFromStr envelope.message.txid = some txid ∧ data.peerBtcTxid = some txid

namespace FatCrabTakerBuyData

theorem coherent_new (orderEnvelope : FatCrabOrderEnvelope) (btcRxAddr : Address) :
    (new orderEnvelope btcRxAddr).Coherent := by
  constructor <;> simp [new]

/-- A state that promises nothing. -/
theorem coherent_plain (data : FatCrabTakerBuyData) (state : FatCrabTakerState)
    (hplain : state = .submittedOffer ∨ state = .notifiedOutbound ∨ state = .tradeCompleted) :
    Coherent { data with state := state } := by
  constructor <;> rcases hplain with rfl | rfl | rfl <;> simp

theorem coherent_tradeRsp (data : FatCrabTakerBuyData) (tradeRsp : FatCrabTradeRsp)
    (envelope : TradeResponseEnvelope) :
    Coherent { data with
      tradeRspEnvelope := some ⟨tradeRsp, envelope⟩,
      state := FatCrabTakerBuyActor.tradeRspState tradeRsp } := by
  cases tradeRsp <;> constructor <;> simp [FatCrabTakerBuyActor.tradeRspState]

theorem coherent_peer (data : FatCrabTakerBuyData) {envelope : FatCrabPeerEnvelope} {txid : Txid}
    (hparse : Bitcoin.txidFromStr envelope.message.txid = some txid) :
    Coherent { data with
      peerBtcTxid := some txid, peerEnvelope := some envelope,
      state := .inboundBtcNotified } := by
  constructor <;> simp [hparse]

end FatCrabTakerBuyData

namespace FatCrabTakerActor

/-- The data of a taker match its state. -/
def Coherent (self : FatCrabTakerActor) : Prop :=
  match self.inner with
  | .buy buy => buy.data.Coherent
  | .sell sell => sell.data.Coherent

@[simp] theorem coherent_buy (buy : FatCrabTakerBuyActor) (uuid : Uuid)
    (notifTx : Option NotifTx) :
    Coherent ⟨.buy buy, uuid, notifTx⟩ ↔ buy.data.Coherent := Iff.rfl

@[simp] theorem coherent_sell (sell : FatCrabTakerSellActor) (uuid : Uuid)
    (notifTx : Option NotifTx) :
    Coherent ⟨.sell sell, uuid, notifTx⟩ ↔ sell.data.Coherent := Iff.rfl

/-- The data are those of a taker that was just created. -/
def Created (self : FatCrabTakerActor) : Prop :=
  match self.inner with
  | .buy buy => ∃ orderEnvelope btcRxAddr, buy.data = .new orderEnvelope btcRxAddr
  | .sell sell => ∃ orderEnvelope fatcrabRxAddr btcFundsId,
      sell.data = .new orderEnvelope fatcrabRxAddr btcFundsId none

theorem Coherent.of_buy {self : FatCrabTakerActor} (hcoherent : self.Coherent)
    {buy : FatCrabTakerBuyActor} (hbuy : self.buy? = some buy) : buy.data.Coherent := by
  obtain ⟨inner, uuid, notifTx⟩ := self
  cases inner with
  | buy actor =>
      cases hbuy
      exact hcoherent
  | sell actor => cases hbuy

theorem Created.coherent {self : FatCrabTakerActor} (hcreated : self.Created) :
    self.Coherent := by
  obtain ⟨inner, uuid, notifTx⟩ := self
  cases inner with
  | buy buy =>
      obtain ⟨orderEnvelope, btcRxAddr, hdata⟩ := hcreated
      rw [coherent_buy, hdata]
      exact FatCrabTakerBuyData.coherent_new orderEnvelope btcRxAddr
  | sell sell =>
      obtain ⟨orderEnvelope, fatcrabRxAddr, btcFundsId, hdata⟩ := hcreated
      rw [coherent_sell, hdata]
      exact FatCrabTakerSellData.coherent_new orderEnvelope fatcrabRxAddr btcFundsId none

/-- The message passes the validation of the role: a Buy taker needs a transaction id, a
Sell taker only a message of the library. -/
def Validates (self : FatCrabTakerActor) (message : SerdeGeneric) : Prop :=
  ∃ content ∈ message.asFatCrabPeerMessage, match self.inner with
    | .buy _ => (Bitcoin.txidFromStr content.txid).isSome = true
    | .sell _ => True

instance (self : FatCrabTakerActor) (message : SerdeGeneric) :
    Decidable (self.Validates message) := by
  unfold Validates
  cases self.inner <;> infer_instance

/-- A Buy taker in `NotifiedOutbound` that moves on without a transaction id. -/
def MovesOnWithout (self : FatCrabTakerActor) (message : SerdeGeneric) : Prop :=
  match self.inner with
  | .buy buy => buy.data.state = .notifiedOutbound ∧
      ∃ content ∈ message.asFatCrabPeerMessage, (Bitcoin.txidFromStr content.txid).isNone = true
  | .sell _ => False

instance (self : FatCrabTakerActor) (message : SerdeGeneric) :
    Decidable (self.MovesOnWithout message) := by
  unfold MovesOnWithout
  split <;> infer_instance

/-- No peer message is served that the taker moves on after without a transaction id. -/
def TellsTxid (entry : Entry FatCrabTakerActor TakerMsg tradeInterface)
    (_ : History FatCrabTakerActor TakerMsg tradeInterface) : Prop :=
  match entry with
  | .received (.notif (.ok (.peer envelope))) taker => ¬ taker.MovesOnWithout envelope.message
  | _ => True

instance (entry : Entry FatCrabTakerActor TakerMsg tradeInterface)
    (past : History FatCrabTakerActor TakerMsg tradeInterface) :
    Decidable (TellsTxid entry past) :=
  match entry with
  | .received (.notif (.ok (.peer envelope))) taker =>
      inferInstanceAs (Decidable (¬ taker.MovesOnWithout envelope.message))
  | .received (.notif (.ok (.tradeRsp _))) _ | .received (.notif (.error _)) _
  | .received (.request _) _ | .called _ _ _ => inferInstanceAs (Decidable True)

/-- A program that ends with data that match the state. -/
def KeepsCoherent (program : Handler FatCrabTakerActor Unit)
    (history : History FatCrabTakerActor TakerMsg tradeInterface) (self : FatCrabTakerActor) :
    Prop :=
  program.Safe TellsTxid (fun _ _ => True) (fun _ after _ => after.Coherent) history self

section Handlers

attribute [local simp] KeepsCoherent TellsTxid setState

variable {history : History FatCrabTakerActor TakerMsg tradeInterface}
  {buy : FatCrabTakerBuyActor} {sell : FatCrabTakerSellActor} {uuid : Uuid}
  {notifTx : Option NotifTx} {self : FatCrabTakerActor}

theorem keepsCoherent_takeOrder (hcoherent : self.Coherent) :
    KeepsCoherent takeOrder history self := by
  obtain ⟨inner, uuid, notifTx⟩ := self
  cases inner with
  | buy buy =>
      rw [coherent_buy] at hcoherent
      simp [takeOrder, forall_except, hcoherent, FatCrabTakerBuyData.coherent_plain]
  | sell sell =>
      rw [coherent_sell] at hcoherent
      simp [takeOrder, forall_except, hcoherent, FatCrabTakerSellData.coherent_plain]

theorem keepsCoherent_notifyPeer (hcoherent : buy.data.Coherent) {txid : Option String} :
    KeepsCoherent (focus buy? putBuy do
        let txid ← Program.unwrap txid
        FatCrabTakerBuyActor.notifyPeer txid) history ⟨.buy buy, uuid, notifTx⟩ := by
  simp [FatCrabTakerBuyActor.notifyPeer, forall_except, hcoherent,
    FatCrabTakerBuyData.coherent_plain]

theorem keepsCoherent_releaseNotifyPeer (hcoherent : sell.data.Coherent) :
    KeepsCoherent (focus sell? putSell FatCrabTakerSellActor.releaseNotifyPeer) history
      ⟨.sell sell, uuid, notifTx⟩ := by
  cases haddr : sell.data.peerBtcAddr with
  | none =>
      simp [FatCrabTakerSellActor.releaseNotifyPeer, FatCrabTakerSellActor.releaseBtcNotifyPeer,
        haddr, hcoherent]
  | some text =>
      have hreleased := FatCrabTakerSellData.coherent_plain sell.data .notifiedOutbound (by simp)
      rw [haddr] at hreleased
      simp [FatCrabTakerSellActor.releaseNotifyPeer, FatCrabTakerSellActor.releaseBtcNotifyPeer,
        haddr, forall_except, hcoherent, hreleased]

theorem keepsCoherent_tradeComplete_buy :
    KeepsCoherent (focus buy? putBuy FatCrabTakerBuyActor.tradeComplete) history
      ⟨.buy buy, uuid, notifTx⟩ := by
  simp [FatCrabTakerBuyActor.tradeComplete, forall_except, FatCrabTakerBuyData.coherent_plain]

theorem keepsCoherent_tradeComplete_sell :
    KeepsCoherent (focus sell? putSell FatCrabTakerSellActor.tradeComplete) history
      ⟨.sell sell, uuid, notifTx⟩ := by
  simp [FatCrabTakerSellActor.tradeComplete, forall_except, FatCrabTakerSellData.coherent_plain]

/-- A response is stored before the state tells of it. -/
theorem keepsCoherent_handleTradeRspNotif_buy (hcoherent : buy.data.Coherent)
    {envelope : TradeResponseEnvelope} :
    KeepsCoherent (handleTradeRspNotif envelope) history ⟨.buy buy, uuid, notifTx⟩ := by
  by_cases hstate : buy.data.state = .submittedOffer
  swap
  · simp [handleTradeRspNotif, hstate, hcoherent]
  cases hrsp : FatCrabTradeRsp.fromN3xbTradeRsp envelope.tradeRsp with
  | none => simp [handleTradeRspNotif, hstate, hrsp]
  | some tradeRsp =>
      have hafter := FatCrabTakerBuyData.coherent_tradeRsp buy.data tradeRsp envelope
      cases hlistener : buy.notifTx <;>
        simp [handleTradeRspNotif, FatCrabTakerBuyActor.handleTradeRspNotif, hstate, hrsp,
          hlistener, hcoherent, hafter]

/-- The address is stored before the release is tried, so it is there if the release fails. -/
theorem keepsCoherent_handleTradeRspNotif_sell (hcoherent : sell.data.Coherent)
    {envelope : TradeResponseEnvelope} :
    KeepsCoherent (handleTradeRspNotif envelope) history ⟨.sell sell, uuid, notifTx⟩ := by
  by_cases hstate : sell.data.state = .submittedOffer
  swap
  · simp [handleTradeRspNotif, hstate, hcoherent]
  cases hrsp : FatCrabTradeRsp.fromN3xbTradeRsp envelope.tradeRsp with
  | none => simp [handleTradeRspNotif, hstate, hrsp]
  | some tradeRsp =>
      cases tradeRsp with
      | reject =>
          cases hlistener : sell.notifTx <;>
            simp [handleTradeRspNotif, FatCrabTakerSellActor.handleTradeRspNotif,
              FatCrabTakerSellActor.notifyTradeRsp, hstate, hrsp, hlistener,
              FatCrabTakerSellData.coherent_plain]
      | accept text =>
          have hreleased := FatCrabTakerSellData.coherent_plain
            { sell.data with peerBtcAddr := some text } .notifiedOutbound (by simp)
          cases hlistener : sell.notifTx <;>
            simp [handleTradeRspNotif, FatCrabTakerSellActor.handleTradeRspNotif,
              FatCrabTakerSellActor.releaseBtcNotifyPeer, FatCrabTakerSellActor.notifyTradeRsp,
              hstate, hrsp, hlistener, forall_except, FatCrabTakerSellData.coherent_accept,
              hreleased]

/-- The message names a transaction id if the taker moves on after it. -/
theorem keepsCoherent_handlePeerNotif_buy (hcoherent : buy.data.Coherent)
    {envelope : PeerEnvelope}
    (htells : ¬ MovesOnWithout ⟨.buy buy, uuid, notifTx⟩ envelope.message) :
    KeepsCoherent (handlePeerNotif envelope) history ⟨.buy buy, uuid, notifTx⟩ := by
  by_cases hstate : buy.data.state = .notifiedOutbound
  swap
  · simp [handlePeerNotif, hstate, hcoherent]
  cases hmessage : envelope.message.asFatCrabPeerMessage with
  | none => simp [handlePeerNotif, hstate, hmessage]
  | some message =>
      cases hparse : Bitcoin.txidFromStr message.txid with
      | none => exact absurd ⟨hstate, message, hmessage, by rw [hparse]; rfl⟩ htells
      | some txid =>
          have hafter :=
            @FatCrabTakerBuyData.coherent_peer _ buy.data ⟨message, envelope⟩ txid hparse
          cases notifTx <;>
            simp [handlePeerNotif, FatCrabTakerBuyActor.handlePeerNotif, hstate, hmessage, hparse,
              hafter]

theorem keepsCoherent_handlePeerNotif_sell (hcoherent : sell.data.Coherent)
    {envelope : PeerEnvelope} :
    KeepsCoherent (handlePeerNotif envelope) history ⟨.sell sell, uuid, notifTx⟩ := by
  by_cases hstate : sell.data.state = .notifiedOutbound
  swap
  · simp [handlePeerNotif, hstate, hcoherent]
  cases hmessage : envelope.message.asFatCrabPeerMessage with
  | none => simp [handlePeerNotif, hstate, hmessage]
  | some message =>
      cases notifTx <;>
        simp [handlePeerNotif, hstate, hmessage, FatCrabTakerSellData.coherent_peer]

theorem keepsCoherent_quiet (hcoherent : self.Coherent) {request : FatCrabTakerRequest}
    (hquiet : request.quiet = true) : KeepsCoherent (handleRequest request) history self := by
  refine (only_quiet hquiet).safe
    (fun _ (after : FatCrabTakerActor) (_ : after.Coherent) => trivial)
    (fun _ _ _ hafter => hafter) ?_ (fun _ _ _ _ hafter _ => hafter) hcoherent
  intro history before after hbefore hsame
  rcases hsame with rfl | ⟨tx, rfl⟩
  · exact hbefore
  · obtain ⟨inner, uuid, notifTx⟩ := before
    cases inner with
    | buy buy => exact hbefore
    | sell sell => exact hbefore

theorem keepsCoherent_handleRequest (hcoherent : self.Coherent) {request : FatCrabTakerRequest} :
    KeepsCoherent (handleRequest request) history self := by
  by_cases hquiet : request.quiet = true
  · exact keepsCoherent_quiet hcoherent hquiet
  obtain ⟨inner, uuid, notifTx⟩ := self
  cases inner with
  | buy buy =>
      cases request with
      | takeOrder => exact keepsCoherent_takeOrder hcoherent
      | releaseNotifyPeer txid => exact keepsCoherent_notifyPeer hcoherent
      | tradeComplete => exact keepsCoherent_tradeComplete_buy
      | _ => exact absurd rfl hquiet
  | sell sell =>
      cases request with
      | takeOrder => exact keepsCoherent_takeOrder hcoherent
      | releaseNotifyPeer txid => exact keepsCoherent_releaseNotifyPeer hcoherent
      | tradeComplete => exact keepsCoherent_tradeComplete_sell
      | _ => exact absurd rfl hquiet

theorem keepsCoherent_handleNotif (hcoherent : self.Coherent)
    {result : Except N3xbError TakerNotif}
    (htells : ∀ envelope, result = .ok (.peer envelope) → ¬ self.MovesOnWithout envelope.message) :
    KeepsCoherent (handleNotif result) history self := by
  obtain ⟨inner, uuid, notifTx⟩ := self
  cases result with
  | error error => exact hcoherent
  | ok notif =>
      cases inner with
      | buy buy =>
          cases notif with
          | tradeRsp envelope => exact keepsCoherent_handleTradeRspNotif_buy hcoherent
          | peer envelope => exact keepsCoherent_handlePeerNotif_buy hcoherent (htells envelope rfl)
      | sell sell =>
          cases notif with
          | tradeRsp envelope => exact keepsCoherent_handleTradeRspNotif_sell hcoherent
          | peer envelope => exact keepsCoherent_handlePeerNotif_sell hcoherent

theorem coherent_restore (hcoherent : self.Coherent) : self.restore.Coherent := by
  obtain ⟨inner, uuid, notifTx⟩ := self
  cases inner with
  | buy buy => exact hcoherent
  | sell sell => exact hcoherent

theorem coherent_start (hcoherent : self.Coherent) :
    start.Safe TellsTxid (fun _ _ => True) (fun _ after _ => after.Coherent) history self := by
  simp [start, hcoherent]

/-- As long as transaction ids are named, every handler and every restart leaves data that
match the state. -/
theorem coherent_invariant :
    ActorInvariant code TellsTxid (fun _ _ => True) (fun _ self => self.Coherent) where
  receive := by
    intro message history self hcoherent htells
    refine ⟨trivial, ?_⟩
    cases message with
    | request request =>
        rw [code, safe_handle_request]
        exact keepsCoherent_handleRequest hcoherent
    | notif result =>
        rw [code, safe_handle_notif]
        apply keepsCoherent_handleNotif hcoherent
        intro envelope hresult
        rw [hresult] at htells
        exact htells
  restart := by
    intro history self hcoherent
    exact ⟨trivial, coherent_start (coherent_restore hcoherent)⟩

end Handlers

section Deliver

attribute [local simp] Actor.deliver code handle handleNotif handlePeerNotif Actor.settle
  Actor.recording Flow.task

/-- A message that is not validated leaves the store alone, except where a Buy taker moves on
without a transaction id. -/
theorem peer_unvalidated_iff (answers : (c : TradeCall) → c.Reply) (envelope : PeerEnvelope)
    (self : FatCrabTakerActor) (history : History FatCrabTakerActor TakerMsg tradeInterface)
    (hinvalid : ¬ self.Validates envelope.message) :
    (Actor.deliver code answers (.notif (.ok (.peer envelope))) ⟨self, .idle, history⟩).store =
      self ↔ ¬ self.MovesOnWithout envelope.message := by
  obtain ⟨inner, uuid, notifTx⟩ := self
  cases hmessage : envelope.message.asFatCrabPeerMessage with
  | none =>
      apply iff_of_true
      · by_cases hstate : state ⟨inner, uuid, notifTx⟩ = .notifiedOutbound <;>
          simp [hstate, hmessage]
      · cases inner <;> simp [MovesOnWithout, hmessage]
  | some message =>
      cases inner with
      | sell sell => exact absurd ⟨message, hmessage, trivial⟩ hinvalid
      | buy buy =>
          have hparse : Bitcoin.txidFromStr message.txid = none := by
            by_contra hparse
            exact hinvalid ⟨message, hmessage, Option.isSome_iff_ne_none.mpr hparse⟩
          by_cases hstate : buy.data.state = .notifiedOutbound
          swap
          · simp [MovesOnWithout, hstate]
          apply iff_of_false
          · intro hsame
            have hmoved := congrArg state hsame
            rw [state_buy, hstate] at hmoved
            cases notifTx with
            | none =>
                simp [FatCrabTakerBuyActor.handlePeerNotif, hstate, hmessage, hparse] at hmoved
            | some listener =>
                cases htold : answers (.notify listener
                    (.taker (.peer .inboundBtcNotified ⟨message, envelope⟩))) <;>
                  simp [FatCrabTakerBuyActor.handlePeerNotif, hstate, hmessage, hparse, htold]
                    at hmoved
          · simp [MovesOnWithout, hstate, hmessage, hparse]

end Deliver

/-- In every run of a new taker, with any other messages, answers and restarts, in which no
Buy taker is moved on without a transaction id, the data match the state whenever no handler
runs, and a message that is not validated leaves the store as it is. -/
theorem data_match_state_when_told {taker : FatCrabTakerActor} (hcreated : taker.Created)
    {actor : Actor FatCrabTakerActor TakerMsg tradeInterface}
    (hrun : Actor.Steps code (.launch code taker) actor)
    (htells : actor.history.Always TellsTxid)
    (hbetween : actor.task = .idle ∨ actor.task = .ended) :
    actor.store.Coherent ∧ ∀ answers envelope,
      TellsTxid (.received (.notif (.ok (.peer envelope))) actor.store) actor.history →
        ¬ actor.store.Validates envelope.message →
          (actor.deliver code answers (.notif (.ok (.peer envelope)))).store = actor.store := by
  have hstart : (Actor.launch code taker).Holds TellsTxid (fun _ _ => True)
      (fun _ self => self.Coherent) := ⟨trivial, coherent_start hcreated.coherent⟩
  have hholds := (Actor.Steps.holds coherent_invariant hrun htells hstart).2
  obtain ⟨store, task, history⟩ := actor
  rcases hbetween with rfl | rfl
  · refine ⟨hholds, ?_⟩
    intro answers envelope hnext hinvalid
    exact (peer_unvalidated_iff answers envelope store history hinvalid).mpr hnext
  · exact ⟨hholds, fun answers envelope _ _ => rfl⟩

end FatCrabTakerActor

end Coherence

section Sample

open Sample

namespace FatCrabTakerActor

/-- The maker accepts, and Bob tells it of his fatcrabs. -/
def notified : List (((c : TradeCall) → c.Reply) × TakerMsg) :=
  [(obliging, .request .takeOrder), (obliging, .request (.registerNotifTx ⟨0⟩)),
    (obliging, .notif (.ok (.tradeRsp ⟨"response", ⟨"offer", .accepted, none,
      some (.fatCrabMakeTradeRspSpecifics ⟨"npub1maker"⟩)⟩⟩))),
    (obliging, .request (.releaseNotifyPeer (some "fatcrab txid")))]

/-- The maker's message, with the text of a transaction id. -/
def paidBy (txid : String) : PeerEnvelope := ⟨"peer", .fatCrabPeerMessage ⟨"npub1maker", txid⟩⟩

theorem data_match_state_when_told_notified :
    let actor := (Actor.opened code obliging buyTaker).deliverAll code
      (notified ++ [(obliging, .notif (.ok (.peer (paidBy SampleTxid.first.text))))])
    actor.store.state = .inboundBtcNotified ∧ actor.store.Coherent := by
  intro actor
  have hrun : Actor.Steps code (.launch code buyTaker) actor :=
    Actor.steps_opened_deliverAll _ _ _
  have hcreated : buyTaker.Created := ⟨_, _, rfl⟩
  have hidle : actor.task = .idle := by decide +kernel
  have htells : actor.history.Always TellsTxid := by decide +kernel
  exact ⟨by decide +kernel, (data_match_state_when_told hcreated hrun htells (.inl hidle)).1⟩

/-- The maker's message names no transaction: the one transition is used up, and nothing
can be looked up. -/
theorem moved_on_without : ∃ actor : Actor FatCrabTakerActor TakerMsg tradeInterface,
    Actor.Steps code (.launch code buyTaker) actor ∧ actor.task = .idle ∧
      ¬ actor.store.Validates (paidBy "unknown").message ∧
      (actor.deliver code obliging (.notif (.ok (.peer (paidBy "unknown"))))).task = .idle ∧
      (actor.deliver code obliging (.notif (.ok (.peer (paidBy "unknown"))))).store.state =
        .inboundBtcNotified ∧
      ¬ (actor.deliver code obliging (.notif (.ok (.peer (paidBy "unknown"))))).store.Coherent := by
  refine ⟨_, Actor.steps_opened_deliverAll obliging buyTaker notified, by decide +kernel,
    by decide +kernel, by decide +kernel, by decide +kernel, ?_⟩
  intro hcoherent
  -- the state promises a transaction id, and there is none
  have hunknown : (Actor.deliver code obliging (.notif (.ok (.peer (paidBy "unknown"))))
      ((Actor.opened code obliging buyTaker).deliverAll code notified)).store.buy?.map
        (fun buy => (buy.data.state, buy.data.peerBtcTxid)) = some (.inboundBtcNotified, none) := by
    decide +kernel
  obtain ⟨buy, hbuy, hdata⟩ := Option.map_eq_some_iff.mp hunknown
  obtain ⟨hstate, htxid⟩ := Prod.mk.inj hdata
  obtain ⟨envelope, txid, -, -, hstored⟩ := (hcoherent.of_buy hbuy).inbound hstate
  rw [htxid] at hstored
  cases hstored

end FatCrabTakerActor

end Sample

end FatCrabTrading
