import FatCrabTrading.Maker.Maker

/-! # What leaves a maker's trade alone

Most requests only answer. One statement about them serves every invariant.
-/

namespace FatCrabTrading

open Effect Program

variable [Bitcoin]

/-- Requests that only answer, or only change the listener. -/
def FatCrabMakerRequest.quiet : FatCrabMakerRequest → Bool
  | .postNewOrder | .cancelOrder | .tradeResponse _ _ | .releaseNotifyPeer _
  | .tradeComplete => false
  | _ => true

namespace FatCrabMakerActor

/-- Writes that leave the trade alone. -/
def SameTrade (before after : FatCrabMakerActor) : Prop :=
  after.inner = before.inner ∧ after.tradeUuid = before.tradeUuid

theorem SameTrade.refl (self : FatCrabMakerActor) : self.SameTrade self := ⟨rfl, rfl⟩

/-- Inner handlers that write nothing. -/
theorem only_withInner {α : Type} {buy : Handler FatCrabMakerBuyActor α}
    {sell : Handler FatCrabMakerSellActor α} {calls : TradeCall → Prop}
    (hbuy : buy.Only (fun _ _ => False) calls) (hsell : sell.Only (fun _ _ => False) calls) :
    (withInner buy sell).Only SameTrade calls :=
  only_withInner_of_focus _ _ (hbuy.focus SameTrade.refl fun _ _ _ _ => False.elim)
    (hsell.focus SameTrade.refl fun _ _ _ _ => False.elim)

theorem only_checkBtcTxConfirmation :
    FatCrabMakerSellActor.checkBtcTxConfirmation.Only (fun _ _ => False) TradeCall.Quiet := by
  simp only [FatCrabMakerSellActor.checkBtcTxConfirmation, read_eq, get_bind, pure_bind,
    only_get]
  intro store
  cases store.data.peerBtcTxid with
  | none => simp [TradeCall.Quiet]
  | some txid =>
      simp only [PurseAccess.getTxConf_eq, call_bind, only_call]
      refine ⟨trivial, fun reply => ?_⟩
      cases reply <;> simp [TradeCall.Quiet]

theorem only_shutdown : shutdown.Only SameTrade TradeCall.Quiet := by
  simp only [shutdown, terminate_eq, n3xb_eq, call_bind, pure_bind, only_call]
  refine ⟨trivial, fun _ => ⟨trivial, fun reply => ?_⟩⟩
  cases reply <;> simp [TradeCall.Quiet]

theorem only_quiet {request : FatCrabMakerRequest} (hquiet : request.quiet = true) :
    (handleRequest request).Only SameTrade TradeCall.Quiet := by
  cases request with
  | postNewOrder | cancelOrder | tradeResponse | releaseNotifyPeer | tradeComplete =>
      cases hquiet
  | checkBtcTxConf =>
      refine only_withInner ?_ only_checkBtcTxConfirmation
      simp [FatCrabMakerBuyActor.checkBtcTxConfirmation, TradeCall.Quiet]
  | shutdown => exact only_shutdown
  | getState => simp [handleRequest, getState, TradeCall.Quiet]
  | getOrderDetails => simp [handleRequest, getOrderDetails, TradeCall.Quiet]
  | getPeerPubkey => simp [handleRequest, getPeerPubkey, TradeCall.Quiet]
  | getPeerBtcTxid => simp [handleRequest, getPeerBtcTxid, TradeCall.Quiet]
  | queryOffers => simp [handleRequest, queryOffers, TradeCall.Quiet]
  | queryPeerMsg => simp [handleRequest, queryPeerMsg, TradeCall.Quiet]
  | registerNotifTx tx =>
      simp [handleRequest, registerNotifTx, setNotifTx, SameTrade, TradeCall.Quiet]
  | unregisterNotifTx =>
      simp [handleRequest, unregisterNotifTx, setNotifTx, SameTrade, TradeCall.Quiet]

section Handle

variable {assume : Entry FatCrabMakerActor MakerMsg tradeInterface →
    History FatCrabMakerActor MakerMsg tradeInterface → Prop}
  {always between : History FatCrabMakerActor MakerMsg tradeInterface → FatCrabMakerActor → Prop}
  {history : History FatCrabMakerActor MakerMsg tradeInterface} {self : FatCrabMakerActor}

/-- After a request the loop goes on or ends; its work is done either way. -/
theorem safe_handle_request {request : FatCrabMakerRequest} :
    (handle (.request request)).Safe assume always (fun history self _ => between history self)
        history self ↔
      (handleRequest request).Safe assume always (fun history self _ => between history self)
        history self := by
  cases request <;> exact safe_bind _ _ _ _

theorem safe_handle_notif {result : Except N3xbError MakerNotif} :
    (handle (.notif result)).Safe assume always (fun history self _ => between history self)
        history self ↔
      (handleNotif result).Safe assume always (fun history self _ => between history self)
        history self :=
  safe_bind _ _ _ _

end Handle

end FatCrabMakerActor

end FatCrabTrading
