import FatCrabTrading.Trader.Ledger

/-! # The funds of a trade never change

A Buy maker or Sell taker keeps the id that it was created with and the order that it was
granted for. No history is asked for, so this holds of a store read from a file as well.
-/

namespace FatCrabTrading

open Effect Program

variable [Bitcoin]

/-! ## Makers -/

namespace FatCrabMakerBuyActor

/-- The id that the maker pays from, with the sats of its order. -/
def funds (self : FatCrabMakerBuyActor) : Uuid × ℕ :=
  (self.data.btcFundsId, self.data.order.sats)

/-- Writes that leave the funds alone. -/
def KeepsFunds (before after : FatCrabMakerBuyActor) : Prop := after.funds = before.funds

theorem only_cancelOrder : cancelOrder.Only KeepsFunds fun _ => True := by
  simp only [cancelOrder, read_eq, get_bind, Program.pure_bind, only_get]
  intro self
  cases self.data.state <;> simp [forall_except, KeepsFunds, funds]

theorem only_tradeResponse (tradeRspType : FatCrabTradeRspType)
    (offerEnvelope : FatCrabOfferEnvelope) :
    (tradeResponse tradeRspType offerEnvelope).Only KeepsFunds fun _ => True := by
  cases tradeRspType <;> simp [tradeResponse, KeepsFunds, funds]

theorem only_handlePeerNotif (message : FatCrabPeerMessage) :
    (handlePeerNotif message).Only KeepsFunds fun _ => True := by
  simp [handlePeerNotif, KeepsFunds, funds]

theorem only_releaseNotifyPeer : releaseNotifyPeer.Only KeepsFunds fun _ => True := by
  simp only [releaseNotifyPeer, read_eq, get_bind, Program.pure_bind, only_get]
  intro self
  cases self.data.peerBtcAddr with
  | none => simp
  | some text => simp [forall_except, KeepsFunds, funds]

theorem only_tradeComplete : tradeComplete.Only KeepsFunds fun _ => True := by
  simp [tradeComplete, forall_except, KeepsFunds, funds]

end FatCrabMakerBuyActor

namespace FatCrabMakerActor

/-- The funds of a Buy maker; a Sell maker has none. -/
def funds (self : FatCrabMakerActor) : Option (Uuid × ℕ) := self.buy?.map (·.funds)

/-- Writes that leave the funds alone. -/
def KeepsFunds (before after : FatCrabMakerActor) : Prop := after.funds = before.funds

theorem KeepsFunds.refl (self : FatCrabMakerActor) : self.KeepsFunds self := rfl

/-- Only what a Buy maker does to its data matters. -/
theorem only_withInner_of_buy {α : Type} {buy : Handler FatCrabMakerBuyActor α}
    {sell : Handler FatCrabMakerSellActor α}
    (hbuy : buy.Only FatCrabMakerBuyActor.KeepsFunds fun _ => True) :
    (withInner buy sell).Only KeepsFunds fun _ => True := by
  refine only_withInner_of_focus _ _ (hbuy.focus KeepsFunds.refl ?_)
    (sell.only_true.focus KeepsFunds.refl ?_)
  · intro store part next hview hkeeps
    unfold KeepsFunds funds
    rw [hview]
    exact congrArg some hkeeps
  · intro store part next hview _
    obtain ⟨inner, uuid, notifTx⟩ := store
    cases inner with
    | buy buy => cases hview
    | sell sell => exact KeepsFunds.refl ⟨.sell next, uuid, notifTx⟩

theorem only_setState (state : FatCrabMakerState) :
    (setState state).Only KeepsFunds fun _ => True :=
  only_withInner_of_buy (by simp [FatCrabMakerBuyActor.KeepsFunds, FatCrabMakerBuyActor.funds])

theorem only_handleRequest (request : FatCrabMakerRequest) :
    (handleRequest request).Only KeepsFunds fun _ => True := by
  cases request with
  | postNewOrder => simp [handleRequest, postNewOrder, forall_except, only_setState]
  | cancelOrder => exact only_withInner_of_buy FatCrabMakerBuyActor.only_cancelOrder
  | tradeResponse tradeRspType offerEnvelope =>
      exact only_withInner_of_buy (FatCrabMakerBuyActor.only_tradeResponse _ _)
  | releaseNotifyPeer fatcrabTxid =>
      exact only_withInner_of_buy FatCrabMakerBuyActor.only_releaseNotifyPeer
  | tradeComplete => exact only_withInner_of_buy FatCrabMakerBuyActor.only_tradeComplete
  | _ =>
      refine (only_quiet rfl).mono ?_ fun _ _ => trivial
      intro before after hsame
      unfold KeepsFunds funds buy?
      rw [hsame.1]

theorem only_recordOffer (envelope : FatCrabOfferEnvelope) :
    (recordOffer envelope).Only KeepsFunds fun _ => True :=
  only_withInner_of_buy (by simp [FatCrabMakerBuyActor.KeepsFunds, FatCrabMakerBuyActor.funds])

theorem only_handleOfferNotif (offerEnvelope : OfferEnvelope) :
    (handleOfferNotif offerEnvelope).Only KeepsFunds fun _ => True := by
  refine Only.bind ?_ fun unexpected => ?_
  · simp [handleOfferInUnexpectedState]
  · cases unexpected with
    | true => trivial
    | false =>
        cases FatCrabOffer.validateN3xbOffer offerEnvelope.offer with
        | error error => trivial
        | ok _ =>
            simp only [Bool.false_eq_true, if_false, read_eq, get_bind, Program.pure_bind,
              only_get]
            intro self
            cases self.notifTx with
            | none => trivial
            | some notifTx => exact (only_recordOffer _).bind fun _ => by simp

theorem only_handlePeerNotif (peerEnvelope : PeerEnvelope) :
    (handlePeerNotif peerEnvelope).Only KeepsFunds fun _ => True := by
  simp only [handlePeerNotif, read_eq, get_bind, Program.pure_bind, only_get, only_ite]
  refine fun self => ⟨fun _ => trivial, fun _ => ?_⟩
  simp only [only_unwrap_bind]
  intro message _
  refine (only_withInner_of_buy (FatCrabMakerBuyActor.only_handlePeerNotif message)).bind
    fun rejected => ?_
  cases rejected with
  | true => trivial
  | false =>
      have henvelope : (FatCrabMakerBuyActor.setPeerEnvelope ⟨message, peerEnvelope⟩).Only
          FatCrabMakerBuyActor.KeepsFunds fun _ => True := by
        simp [FatCrabMakerBuyActor.KeepsFunds, FatCrabMakerBuyActor.funds]
      refine (only_withInner_of_buy henvelope).bind fun _ => (only_setState _).bind fun _ => ?_
      simp only [only_get]
      intro self
      cases self.notifTx <;> simp

/-- No message changes the funds. -/
theorem only_handle (message : MakerMsg) : (handle message).Only KeepsFunds fun _ => True := by
  cases message with
  | request request =>
      have hrequest := only_handleRequest request
      cases request <;> exact hrequest.bind fun _ => trivial
  | notif result =>
      refine Only.bind ?_ fun _ => trivial
      rcases result with error | offerEnvelope | peerEnvelope
      · trivial
      · exact only_handleOfferNotif offerEnvelope
      · exact only_handlePeerNotif peerEnvelope

theorem only_start : start.Only KeepsFunds fun _ => True := by
  simp [start]

theorem funds_restore (self : FatCrabMakerActor) : self.restore.funds = self.funds := by
  obtain ⟨inner, uuid, notifTx⟩ := self
  cases inner <;> rfl

end FatCrabMakerActor

/-! ## Takers -/

namespace FatCrabTakerSellActor

/-- The id that the taker pays from, with the sats of its order. -/
def funds (self : FatCrabTakerSellActor) : Uuid × ℕ :=
  (self.data.btcFundsId, self.data.orderEnvelope.order.sats)

/-- Writes that leave the funds alone. -/
def KeepsFunds (before after : FatCrabTakerSellActor) : Prop := after.funds = before.funds

theorem only_releaseBtcNotifyPeer : releaseBtcNotifyPeer.Only KeepsFunds fun _ => True := by
  simp only [releaseBtcNotifyPeer, read_eq, get_bind, Program.pure_bind, only_get]
  intro self
  cases self.data.peerBtcAddr with
  | none => simp
  | some peerBtcAddr => simp [forall_except]

theorem only_notifyTradeRsp (tradeRsp : FatCrabTradeRsp)
    (n3xbTradeRspEnvelope : TradeResponseEnvelope) :
    (notifyTradeRsp tradeRsp n3xbTradeRspEnvelope).Only KeepsFunds fun _ => True := by
  simp only [notifyTradeRsp, read_eq, get_bind, Program.pure_bind, only_get]
  intro self
  cases self.notifTx <;> simp

theorem only_setState (state : FatCrabTakerState) :
    (setState state).Only KeepsFunds fun _ => True := by
  simp [KeepsFunds, funds]

theorem only_handleTradeRspNotif (tradeRsp : FatCrabTradeRsp)
    (n3xbTradeRspEnvelope : TradeResponseEnvelope) :
    (handleTradeRspNotif tradeRsp n3xbTradeRspEnvelope).Only KeepsFunds fun _ => True := by
  cases tradeRsp with
  | accept receiveAddress =>
      have haddress : (setPeerBtcAddr receiveAddress).Only KeepsFunds fun _ => True := by
        simp [KeepsFunds, funds]
      refine haddress.bind fun _ => (only_setState _).bind fun _ =>
        only_releaseBtcNotifyPeer.bind fun released => ?_
      cases released with
      | error error => exact only_notifyTradeRsp _ _
      | ok done => exact (only_setState _).bind fun _ => only_notifyTradeRsp _ _
  | reject =>
      simp [handleTradeRspNotif, KeepsFunds, funds, only_notifyTradeRsp]

theorem only_releaseNotifyPeer : releaseNotifyPeer.Only KeepsFunds fun _ => True := by
  refine only_releaseBtcNotifyPeer.bind fun released => ?_
  cases released <;> simp [KeepsFunds, funds]

theorem only_tradeComplete : tradeComplete.Only KeepsFunds fun _ => True := by
  simp [tradeComplete, forall_except, KeepsFunds, funds]

end FatCrabTakerSellActor

namespace FatCrabTakerActor

/-- The funds of a Sell taker; a Buy taker has none. -/
def funds (self : FatCrabTakerActor) : Option (Uuid × ℕ) := self.sell?.map (·.funds)

/-- Writes that leave the funds alone. -/
def KeepsFunds (before after : FatCrabTakerActor) : Prop := after.funds = before.funds

theorem KeepsFunds.refl (self : FatCrabTakerActor) : self.KeepsFunds self := rfl

/-- Only what a Sell taker does to its data matters. -/
theorem only_withInner_of_sell {α : Type} {buy : Handler FatCrabTakerBuyActor α}
    {sell : Handler FatCrabTakerSellActor α}
    (hsell : sell.Only FatCrabTakerSellActor.KeepsFunds fun _ => True) :
    (withInner buy sell).Only KeepsFunds fun _ => True := by
  refine only_withInner_of_focus _ _ (buy.only_true.focus KeepsFunds.refl ?_)
    (hsell.focus KeepsFunds.refl ?_)
  · intro store part next hview _
    obtain ⟨inner, uuid, notifTx⟩ := store
    cases inner with
    | buy buy => exact KeepsFunds.refl ⟨.buy next, uuid, notifTx⟩
    | sell sell => cases hview
  · intro store part next hview hkeeps
    unfold KeepsFunds funds
    rw [hview]
    exact congrArg some hkeeps

theorem only_setState (state : FatCrabTakerState) :
    (setState state).Only KeepsFunds fun _ => True :=
  only_withInner_of_sell (FatCrabTakerSellActor.only_setState state)

theorem funds_withNotifTx (tx : Option NotifTx) (self : FatCrabTakerActor) :
    (self.withNotifTx tx).funds = self.funds := by
  obtain ⟨inner, uuid, notifTx⟩ := self
  cases inner <;> rfl

theorem only_handleRequest (request : FatCrabTakerRequest) :
    (handleRequest request).Only KeepsFunds fun _ => True := by
  cases request with
  | takeOrder => simp [handleRequest, takeOrder, forall_except, only_setState]
  | releaseNotifyPeer txid =>
      exact only_withInner_of_sell FatCrabTakerSellActor.only_releaseNotifyPeer
  | tradeComplete => exact only_withInner_of_sell FatCrabTakerSellActor.only_tradeComplete
  | _ =>
      refine (only_quiet rfl).mono ?_ fun _ _ => trivial
      intro before after hsame
      rcases hsame with rfl | ⟨tx, rfl⟩
      · exact KeepsFunds.refl after
      · exact funds_withNotifTx tx before

theorem only_handleTradeRspNotif (tradeRspEnvelope : TradeResponseEnvelope) :
    (handleTradeRspNotif tradeRspEnvelope).Only KeepsFunds fun _ => True := by
  simp only [handleTradeRspNotif, read_eq, get_bind, Program.pure_bind, only_get, only_ite]
  refine fun self => ⟨fun _ => trivial, fun _ => ?_⟩
  simp only [only_unwrap_bind]
  intro tradeRsp _
  exact only_withInner_of_sell (FatCrabTakerSellActor.only_handleTradeRspNotif _ _)

theorem only_handlePeerNotif (peerEnvelope : PeerEnvelope) :
    (handlePeerNotif peerEnvelope).Only KeepsFunds fun _ => True := by
  simp only [handlePeerNotif, read_eq, get_bind, Program.pure_bind, only_get, only_ite]
  refine fun self => ⟨fun _ => trivial, fun _ => ?_⟩
  simp only [only_unwrap_bind]
  intro message _
  refine (only_withInner_of_sell ?_).bind fun _ => ?_
  · simp [FatCrabTakerSellActor.KeepsFunds, FatCrabTakerSellActor.funds]
  · simp only [only_get]
    intro self
    cases self.notifTx <;> simp

/-- No message changes the funds. -/
theorem only_handle (message : TakerMsg) : (handle message).Only KeepsFunds fun _ => True := by
  cases message with
  | request request =>
      have hrequest := only_handleRequest request
      cases request <;> exact hrequest.bind fun _ => trivial
  | notif result =>
      refine Only.bind ?_ fun _ => trivial
      rcases result with error | tradeRspEnvelope | peerEnvelope
      · trivial
      · exact only_handleTradeRspNotif tradeRspEnvelope
      · exact only_handlePeerNotif peerEnvelope

theorem only_start : start.Only KeepsFunds fun _ => True := by
  simp [start]

theorem funds_restore (self : FatCrabTakerActor) : self.restore.funds = self.funds := by
  obtain ⟨inner, uuid, notifTx⟩ := self
  cases inner <;> rfl

end FatCrabTakerActor

/-! ## Agents -/

namespace Agent

/-- The funds of a Buy maker or Sell taker. -/
def funds : Agent → Option (Uuid × ℕ)
  | .maker actor => actor.store.funds
  | .taker actor => actor.store.funds
  | .vacant | .wallet _ => none

theorem owns_of_funds {agent : Agent} {fundsId : Uuid} {sats : ℕ}
    (hfunds : agent.funds = some (fundsId, sats)) : agent.Owns fundsId sats := by
  cases agent with
  | vacant => cases hfunds
  | wallet actor => cases hfunds
  | maker actor =>
      obtain ⟨⟨inner, uuid, notifTx⟩, task, history⟩ := actor
      cases inner with
      | buy buy =>
          cases hfunds
          exact ⟨rfl, rfl⟩
      | sell sell => cases hfunds
  | taker actor =>
      obtain ⟨⟨inner, uuid, notifTx⟩, task, history⟩ := actor
      cases inner with
      | buy buy => cases hfunds
      | sell sell =>
          cases hfunds
          exact ⟨rfl, rfl⟩

/-- The agent has these funds, and no handler that it is in will change them. -/
def Holds (expected : Option (Uuid × ℕ)) : Agent → Prop
  | .vacant | .wallet _ => expected = none
  | .maker actor => actor.Holds (fun _ _ => True) (fun _ maker => maker.funds = expected)
      (fun _ maker => maker.funds = expected)
  | .taker actor => actor.Holds (fun _ _ => True) (fun _ taker => taker.funds = expected)
      (fun _ taker => taker.funds = expected)

theorem Holds.funds {agent : Agent} {expected : Option (Uuid × ℕ)} (hholds : agent.Holds expected) :
    agent.funds = expected := by
  cases agent with
  | vacant => exact hholds.symm
  | wallet actor => exact hholds.symm
  | maker actor => exact hholds.1
  | taker actor => exact hholds.1

/-- No step of an agent changes its funds. -/
theorem Step.holds {before after : Agent} {move : Move} (hstep : Step before move after)
    {expected : Option (Uuid × ℕ)} (hholds : before.Holds expected) : after.Holds expected := by
  cases hstep with
  | maker hstep =>
      exact hstep.holds (.of_view FatCrabMakerActor.only_start FatCrabMakerActor.only_handle
        FatCrabMakerActor.funds_restore expected) (History.always_true _) hholds
  | taker hstep =>
      exact hstep.holds (.of_view FatCrabTakerActor.only_start FatCrabTakerActor.only_handle
        FatCrabTakerActor.funds_restore expected) (History.always_true _) hholds
  | wallet hstep => exact hholds

theorem holds_launch_maker (maker : FatCrabMakerActor) :
    (Agent.maker (.launch FatCrabMakerActor.code maker)).Holds maker.funds := by
  refine ⟨rfl, ?_⟩
  simp [Actor.launch, FatCrabMakerActor.code, FatCrabMakerActor.start]

theorem holds_launch_taker (taker : FatCrabTakerActor) :
    (Agent.taker (.launch FatCrabTakerActor.code taker)).Holds taker.funds := by
  refine ⟨rfl, ?_⟩
  simp [Actor.launch, FatCrabTakerActor.code, FatCrabTakerActor.start]

end Agent

end FatCrabTrading
