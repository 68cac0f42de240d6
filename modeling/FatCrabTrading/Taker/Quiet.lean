import FatCrabTrading.Taker.Taker

/-! # What leaves a taker's trade alone

As for a maker, except that a change of the listener reaches the inner actor as well.
-/

namespace FatCrabTrading

open Effect Program

variable [Bitcoin]

/-- Requests that only answer, or only change the listener. -/
def FatCrabTakerRequest.quiet : FatCrabTakerRequest → Bool
  | .takeOrder | .releaseNotifyPeer _ | .tradeComplete => false
  | _ => true

namespace FatCrabTakerActor

/-- Writes that leave the trade alone. -/
def SameTrade (before after : FatCrabTakerActor) : Prop :=
  after = before ∨ ∃ tx, after = before.withNotifTx tx

theorem SameTrade.refl (taker : FatCrabTakerActor) : taker.SameTrade taker := .inl rfl

/-- Inner handlers that write nothing. -/
theorem only_withInner {α : Type} {buy : Handler FatCrabTakerBuyActor α}
    {sell : Handler FatCrabTakerSellActor α} {calls : TradeCall → Prop}
    (hbuy : buy.Only (fun _ _ => False) calls) (hsell : sell.Only (fun _ _ => False) calls) :
    (withInner buy sell).Only SameTrade calls :=
  only_withInner_of_focus _ _ (hbuy.focus SameTrade.refl fun _ _ _ _ => False.elim)
    (hsell.focus SameTrade.refl fun _ _ _ _ => False.elim)

theorem only_checkBtcTxConfirmation :
    FatCrabTakerBuyActor.checkBtcTxConfirmation.Only (fun _ _ => False) TradeCall.Quiet := by
  simp only [FatCrabTakerBuyActor.checkBtcTxConfirmation, read_eq, get_bind, pure_bind,
    only_get]
  intro store
  cases store.data.peerBtcTxid with
  | none => simp [TradeCall.Quiet]
  | some txid =>
      simp only [PurseAccess.getTxConf_eq, call_bind, only_call]
      refine ⟨trivial, fun reply => ?_⟩
      cases reply <;> simp [TradeCall.Quiet]

theorem only_shutdown : shutdown.Only SameTrade TradeCall.Quiet := by
  simp only [shutdown, terminate_eq, n3xb_eq, call_bind, pure_bind, only_call]
  refine ⟨trivial, fun _ => ⟨trivial, fun reply => ?_⟩⟩
  cases reply <;> simp [TradeCall.Quiet]

/-- Both actors learn of the listener. -/
theorem sameTrade_withNotifTx (tx : Option NotifTx) (taker : FatCrabTakerActor) :
    taker.SameTrade (taker.withNotifTx tx) := .inr ⟨tx, rfl⟩

theorem only_quiet {request : FatCrabTakerRequest} (hquiet : request.quiet = true) :
    (handleRequest request).Only SameTrade TradeCall.Quiet := by
  cases request with
  | takeOrder | releaseNotifyPeer | tradeComplete => cases hquiet
  | queryTradeRsp =>
      apply only_withInner
      · simp [FatCrabTakerBuyActor.queryTradeRsp, TradeCall.Quiet]
      · simp [FatCrabTakerSellActor.queryTradeRsp, TradeCall.Quiet]
  | checkBtcTxConf =>
      apply only_withInner only_checkBtcTxConfirmation
      simp [FatCrabTakerSellActor.checkBtcTxConfirmation, TradeCall.Quiet]
  | shutdown => exact only_shutdown
  | getState => simp [handleRequest, getState, TradeCall.Quiet]
  | getOrderDetails => simp [handleRequest, getOrderDetails, TradeCall.Quiet]
  | getPeerBtcTxid => simp [handleRequest, getPeerBtcTxid, TradeCall.Quiet]
  | queryPeerMsg => simp [handleRequest, queryPeerMsg, TradeCall.Quiet]
  | registerNotifTx tx =>
      simp [handleRequest, registerNotifTx, setNotifTx, sameTrade_withNotifTx, TradeCall.Quiet]
  | unregisterNotifTx =>
      simp [handleRequest, unregisterNotifTx, setNotifTx, sameTrade_withNotifTx, TradeCall.Quiet]

section Handle

variable {assume : Entry FatCrabTakerActor TakerMsg tradeInterface →
    History FatCrabTakerActor TakerMsg tradeInterface → Prop}
  {always between : History FatCrabTakerActor TakerMsg tradeInterface → FatCrabTakerActor → Prop}
  {history : History FatCrabTakerActor TakerMsg tradeInterface} {taker : FatCrabTakerActor}

/-- After a request the loop goes on or ends; its work is done either way. -/
theorem safe_handle_request {request : FatCrabTakerRequest} :
    (handle (.request request)).Safe assume always (fun history taker _ => between history taker)
        history taker ↔
      (handleRequest request).Safe assume always (fun history taker _ => between history taker)
        history taker := by
  cases request <;> exact safe_bind _ _ _ _

theorem safe_handle_notif {result : Except N3xbError TakerNotif} :
    (handle (.notif result)).Safe assume always (fun history taker _ => between history taker)
        history taker ↔
      (handleNotif result).Safe assume always (fun history taker _ => between history taker)
        history taker :=
  safe_bind _ _ _ _

end Handle

end FatCrabTakerActor

end FatCrabTrading
