import FatCrabTrading.Maker.Quiet
import FatCrabTrading.Taker.Quiet
import FatCrabTrading.Trader.Payments
import FatCrabTrading.Trader.Release

/-! # Reservations and the end of a trade

A trade that is cancelled or rejected frees its funds before it says so. A trade that is
completed frees nothing: if its funds were not paid or freed before, they stay allocated,
and nobody asks for them again.
-/

namespace FatCrabTrading

open Effect Program

section Reservations

variable [Bitcoin]

/-- How a trade that pays has ended. -/
inductive Ending where
  | completed
  | withdrawn
  deriving DecidableEq

/-! ## Endings of one actor -/

section Actor

variable {σ τ Msg α : Type}

/-- Writes that end nothing. -/
def Opens (ending : σ → Option (Uuid × Ending)) (before after : σ) : Prop :=
  ending after = none ∨ ending after = ending before

/-- Who has completed was told to, and who has withdrawn has freed its funds. -/
def Ends (ending : σ → Option (Uuid × Ending)) (complete : Msg)
    (history : History σ Msg tradeInterface) (store : σ) : Prop :=
  match ending store with
  | none => True
  | some (_, .completed) => ∃ past, .received complete past ∈ history
  | some (fundsId, .withdrawn) => Made (.purse (.freeFunds fundsId)) (some (.ok ())) history

variable {ending : σ → Option (Uuid × Ending)} {complete : Msg}
  {history : History σ Msg tradeInterface} {before after store : σ}

omit [Bitcoin] in
theorem Opens.refl (store : σ) : Opens ending store store := .inr rfl

theorem Ends.cons (hends : Ends ending complete history store)
    (entry : Entry σ Msg tradeInterface) : Ends ending complete (entry :: history) store := by
  unfold Ends at hends ⊢
  split at hends
  next => trivial
  next =>
    obtain ⟨past, hreceived⟩ := hends
    exact ⟨past, List.mem_cons_of_mem entry hreceived⟩
  next => exact hends.cons entry

theorem Ends.write (hends : Ends ending complete history before)
    (hopens : Opens ending before after) : Ends ending complete history after := by
  unfold Ends at hends ⊢
  rcases hopens with hnone | hsame
  · rw [hnone]
    trivial
  · rw [hsame]
    exact hends

theorem Ends.of_none (hnone : ending store = none) : Ends ending complete history store := by
  unfold Ends
  rw [hnone]
  trivial

/-- A program that ends nothing. -/
theorem Ends.safe {program : Handler σ α} (honly : program.Only (Opens ending) fun _ => True)
    (hends : Ends ending complete history store) :
    program.Safe (fun _ _ => True) (Ends ending complete)
      (fun history store _ => Ends ending complete history store) history store :=
  honly.safe (fun _ _ h => h) (fun _ _ _ h => h) (fun _ _ _ h hopens => h.write hopens)
    (fun _ _ _ _ h _ => h.cons _) hends

end Actor

/-! ## Makers -/

/-- A Buy maker's ending, with its funds. -/
def FatCrabMakerBuyActor.ending (buy : FatCrabMakerBuyActor) : Option (Uuid × Ending) :=
  match buy.data.state with
  | .tradeCompleted => some (buy.data.btcFundsId, .completed)
  | .tradeCancelled => some (buy.data.btcFundsId, .withdrawn)
  | _ => none

namespace FatCrabMakerActor

/-- A Sell maker has no funds. -/
def ending (self : FatCrabMakerActor) : Option (Uuid × Ending) :=
  self.buy?.bind FatCrabMakerBuyActor.ending

/-- Whatever a Sell maker does, it ends no trade that pays. -/
theorem sell_opens {α : Type} (sell : Handler FatCrabMakerSellActor α) :
    (focus sell? putSell sell).Only (Opens ending) fun _ => True :=
  sell.only_true.focus Opens.refl fun _ _ _ _ _ => .inl rfl

theorem only_opens {α : Type} {buy : Handler FatCrabMakerBuyActor α}
    {sell : Handler FatCrabMakerSellActor α}
    (hbuy : buy.Only (Opens FatCrabMakerBuyActor.ending) fun _ => True) :
    (withInner buy sell).Only (Opens ending) fun _ => True := by
  refine only_withInner_of_focus _ _ (hbuy.focus Opens.refl ?_) (sell_opens sell)
  intro self part next hview hopens
  unfold Opens ending
  rw [hview]
  exact hopens

theorem only_opens_quiet {request : FatCrabMakerRequest} (hquiet : request.quiet = true) :
    (handleRequest request).Only (Opens ending) fun _ => True := by
  refine (only_quiet hquiet).mono (fun before after hsame => ?_) fun _ _ => trivial
  right
  unfold ending buy?
  rw [hsame.1]

theorem only_opens_postNewOrder : postNewOrder.Only (Opens ending) fun _ => True := by
  simp only [postNewOrder, n3xb_eq, call_bind, pure_bind, only_call]
  refine ⟨trivial, fun reply => ?_⟩
  cases reply with
  | error error => simp
  | ok done =>
      have hstate : (setState .waitingForOffers).Only (Opens ending) fun _ => True :=
        only_opens (by simp [Opens, FatCrabMakerBuyActor.ending])
      simp only [respond_eq, call_bind, only_call]
      exact ⟨trivial, fun sent => (only_assert sent).bind fun _ => hstate⟩

theorem only_opens_tradeResponse (tradeRspType : FatCrabTradeRspType)
    (offerEnvelope : FatCrabOfferEnvelope) :
    (FatCrabMakerBuyActor.tradeResponse tradeRspType offerEnvelope).Only
      (Opens FatCrabMakerBuyActor.ending) fun _ => True := by
  simp only [FatCrabMakerBuyActor.tradeResponse, read_eq, get_bind, pure_bind, only_get]
  intro self
  cases tradeRspType <;>
    simp [Only.bind, Opens, FatCrabMakerBuyActor.ending]

theorem only_opens_releaseNotifyPeer :
    FatCrabMakerBuyActor.releaseNotifyPeer.Only (Opens FatCrabMakerBuyActor.ending)
      fun _ => True := by
  simp only [FatCrabMakerBuyActor.releaseNotifyPeer, read_eq, get_bind, pure_bind, only_get]
  intro self
  cases self.data.peerBtcAddr with
  | none => simp
  | some text =>
      refine (only_unwrap _).bind fun address => ?_
      simp only [PurseAccess.sendFunds_eq, call_bind, only_call]
      refine ⟨trivial, fun reply => (only_unwrap _).bind fun answer => ?_⟩
      cases answer with
      | error error => simp
      | ok txid =>
          simp only [n3xb_eq, call_bind, pure_bind, only_call]
          refine ⟨trivial, fun reply => ?_⟩
          cases reply <;> simp [Only.bind, Opens, FatCrabMakerBuyActor.ending]

theorem only_opens_handleOfferNotif (offerEnvelope : OfferEnvelope) :
    (handleOfferNotif offerEnvelope).Only (Opens ending) fun _ => True := by
  refine Only.bind ?_ fun unexpected => ?_
  · simp only [handleOfferInUnexpectedState, read_eq, get_bind, pure_bind, only_get]
    intro self
    split <;> simp [Only.bind]
  · cases unexpected with
    | true => trivial
    | false =>
        cases FatCrabOffer.validateN3xbOffer offerEnvelope.offer with
        | error error => trivial
        | ok _ =>
            simp only [Bool.false_eq_true, if_false, read_eq, get_bind, pure_bind, only_get]
            intro self
            cases self.notifTx with
            | none => trivial
            | some notifTx =>
                have hrecord : (recordOffer ⟨offerEnvelope.pubkey, offerEnvelope⟩).Only
                    (Opens ending) fun _ => True :=
                  only_opens (by simp [Opens, FatCrabMakerBuyActor.ending])
                exact hrecord.bind fun _ => by simp

theorem only_opens_handlePeerNotif (peerEnvelope : PeerEnvelope) :
    (handlePeerNotif peerEnvelope).Only (Opens ending) fun _ => True := by
  simp only [handlePeerNotif, read_eq, get_bind, pure_bind, only_get]
  intro self
  split
  next => trivial
  next =>
    refine (only_unwrap _).bind fun message => ?_
    have haddress : (FatCrabMakerBuyActor.handlePeerNotif message).Only
        (Opens FatCrabMakerBuyActor.ending) fun _ => True := by
      simp only [FatCrabMakerBuyActor.handlePeerNotif, read_eq, get_bind, pure_bind, only_get]
      intro self
      refine (only_unwrap _).bind fun address => ?_
      split <;> simp [Opens, FatCrabMakerBuyActor.ending]
    refine (only_opens haddress).bind fun rejected => ?_
    cases rejected with
    | true => trivial
    | false =>
        have henvelope : (FatCrabMakerBuyActor.setPeerEnvelope ⟨message, peerEnvelope⟩).Only
            (Opens FatCrabMakerBuyActor.ending) fun _ => True := by
          simp [Opens, FatCrabMakerBuyActor.ending]
        have hstate : (FatCrabMakerBuyActor.setState self.peerNotifState).Only
            (Opens FatCrabMakerBuyActor.ending) fun _ => True := by
          unfold peerNotifState
          cases self.inner <;> simp [Opens, FatCrabMakerBuyActor.ending]
        refine (only_opens henvelope).bind fun _ => (only_opens hstate).bind fun _ => ?_
        simp only [only_get]
        intro self
        cases self.notifTx <;> simp

section Handlers

attribute [local simp] Ends Made ending FatCrabMakerBuyActor.ending

variable {history : History FatCrabMakerActor MakerMsg tradeInterface}
  {self : FatCrabMakerActor} {buy : FatCrabMakerBuyActor} {uuid : Uuid}
  {notifTx : Option NotifTx}

/-- A maker keeps to its ending. -/
abbrev KeepsEnds (program : Handler FatCrabMakerActor Unit)
    (history : History FatCrabMakerActor MakerMsg tradeInterface) (self : FatCrabMakerActor) :
    Prop :=
  Ends ending (.request .tradeComplete) history self →
    program.Safe (fun _ _ => True) (Ends ending (.request .tradeComplete))
      (fun history self _ => Ends ending (.request .tradeComplete) history self) history self

theorem keepsEnds_sell {sell : FatCrabMakerSellActor}
    (program : Handler FatCrabMakerSellActor Unit) :
    KeepsEnds (focus sell? putSell program) history ⟨.sell sell, uuid, notifTx⟩ :=
  Ends.safe (sell_opens program)

/-- The funds are free before the state says that the order is cancelled. -/
theorem keepsEnds_cancelOrder :
    KeepsEnds (focus buy? putBuy FatCrabMakerBuyActor.cancelOrder) history
      ⟨.buy buy, uuid, notifTx⟩ := by
  intro hends
  cases hstate : buy.data.state with
  | new | waitingForOffers | receivedOffer =>
      simp [FatCrabMakerBuyActor.cancelOrder, hstate, forall_except]
  | tradeCompleted | tradeCancelled =>
      simp [hstate] at hends
      simp [FatCrabMakerBuyActor.cancelOrder, hstate, hends]
  | _ => simp [FatCrabMakerBuyActor.cancelOrder, hstate]

/-- The state says that the trade is completed, whatever became of the funds. -/
theorem keepsEnds_tradeComplete
    (hreceived : ∃ past, .received (.request .tradeComplete) past ∈ history) :
    KeepsEnds (focus buy? putBuy FatCrabMakerBuyActor.tradeComplete) history
      ⟨.buy buy, uuid, notifTx⟩ := by
  intro _
  simp [FatCrabMakerBuyActor.tradeComplete, forall_except, hreceived]

theorem keepsEnds_handleRequest {request : FatCrabMakerRequest}
    (hreceived : .received (.request request) self ∈ history) :
    KeepsEnds (handleRequest request) history self := by
  by_cases hquiet : request.quiet = true
  · exact Ends.safe (only_opens_quiet hquiet)
  obtain ⟨inner, uuid, notifTx⟩ := self
  cases request with
  | postNewOrder => exact Ends.safe only_opens_postNewOrder
  | cancelOrder =>
      cases inner with
      | buy buy => exact keepsEnds_cancelOrder
      | sell sell => exact keepsEnds_sell FatCrabMakerSellActor.cancelOrder
  | tradeResponse tradeRspType offerEnvelope =>
      exact Ends.safe (only_opens (only_opens_tradeResponse tradeRspType offerEnvelope))
  | releaseNotifyPeer txid => exact Ends.safe (only_opens only_opens_releaseNotifyPeer)
  | tradeComplete =>
      cases inner with
      | buy buy => exact keepsEnds_tradeComplete ⟨_, hreceived⟩
      | sell sell => exact keepsEnds_sell FatCrabMakerSellActor.tradeComplete
  | _ => exact absurd rfl hquiet

theorem keepsEnds_handleNotif (result : Except N3xbError MakerNotif) :
    KeepsEnds (handleNotif result) history self := by
  cases result with
  | error error => exact Ends.safe (only_pure ())
  | ok notif =>
      cases notif with
      | offer offerEnvelope => exact Ends.safe (only_opens_handleOfferNotif offerEnvelope)
      | peer peerEnvelope => exact Ends.safe (only_opens_handlePeerNotif peerEnvelope)

theorem ends_restore (hends : Ends ending (.request .tradeComplete) history self) :
    Ends ending (.request .tradeComplete) history self.restore := by
  have hsame : self.restore.ending = self.ending := by
    unfold restore ending buy?
    cases self.inner <;> rfl
  unfold Ends at hends ⊢
  rw [hsame]
  exact hends

theorem ends_start (hends : Ends ending (.request .tradeComplete) history self) :
    start.Safe (fun _ _ => True) (Ends ending (.request .tradeComplete))
      (fun history self _ => Ends ending (.request .tradeComplete) history self) history self := by
  refine Ends.safe ?_ hends
  simp [start, Only.bind]

/-- In every run, a Buy maker that has ended was told to complete, or has freed its funds. -/
theorem ends_invariant : ActorInvariant code (fun _ _ => True)
    (Ends ending (.request .tradeComplete)) (Ends ending (.request .tradeComplete)) where
  receive := by
    intro message history self hends _
    have hends := hends.cons (.received message self)
    refine ⟨hends, ?_⟩
    cases message with
    | request request =>
        rw [code, safe_handle_request]
        exact keepsEnds_handleRequest List.mem_cons_self hends
    | notif result =>
        rw [code, safe_handle_notif]
        exact keepsEnds_handleNotif result hends
  restart := by
    intro history self hends
    exact ⟨ends_restore hends, ends_start (ends_restore hends)⟩

end Handlers

end FatCrabMakerActor

/-! ## Takers -/

/-- A Sell taker's ending, with its funds. -/
def FatCrabTakerSellActor.ending (sell : FatCrabTakerSellActor) : Option (Uuid × Ending) :=
  match sell.data.state with
  | .tradeCompleted => some (sell.data.btcFundsId, .completed)
  | .offerRejected => some (sell.data.btcFundsId, .withdrawn)
  | _ => none

namespace FatCrabTakerActor

/-- A Buy taker has no funds. -/
def ending (taker : FatCrabTakerActor) : Option (Uuid × Ending) :=
  taker.sell?.bind FatCrabTakerSellActor.ending

/-- Whatever a Buy taker does, it ends no trade that pays. -/
theorem buy_opens {α : Type} (buy : Handler FatCrabTakerBuyActor α) :
    (focus buy? putBuy buy).Only (Opens ending) fun _ => True :=
  buy.only_true.focus Opens.refl fun _ _ _ _ _ => .inl rfl

theorem sell_opens {α : Type} {sell : Handler FatCrabTakerSellActor α}
    (hsell : sell.Only (Opens FatCrabTakerSellActor.ending) fun _ => True) :
    (focus sell? putSell sell).Only (Opens ending) fun _ => True := by
  refine hsell.focus Opens.refl fun taker part next hview hopens => ?_
  unfold Opens ending
  rw [hview]
  exact hopens

theorem only_opens {α : Type} {buy : Handler FatCrabTakerBuyActor α}
    {sell : Handler FatCrabTakerSellActor α}
    (hsell : sell.Only (Opens FatCrabTakerSellActor.ending) fun _ => True) :
    (withInner buy sell).Only (Opens ending) fun _ => True :=
  only_withInner_of_focus _ _ (buy_opens buy) (sell_opens hsell)

theorem only_opens_quiet {request : FatCrabTakerRequest} (hquiet : request.quiet = true) :
    (handleRequest request).Only (Opens ending) fun _ => True := by
  refine (only_quiet hquiet).mono (fun before after hsame => ?_) fun _ _ => trivial
  right
  rcases hsame with rfl | ⟨tx, rfl⟩
  · rfl
  · obtain ⟨inner, uuid, notifTx⟩ := before
    cases inner <;> rfl

theorem only_opens_takeOrder : takeOrder.Only (Opens ending) fun _ => True := by
  simp only [takeOrder, n3xb_eq, call_bind, pure_bind, only_call]
  refine ⟨trivial, fun reply => ?_⟩
  cases reply with
  | error error => simp
  | ok done =>
      have hstate : (setState .submittedOffer).Only (Opens ending) fun _ => True :=
        only_opens (by simp [Opens, FatCrabTakerSellActor.ending])
      simp only [respond_eq, call_bind, only_call]
      exact ⟨trivial, fun sent => (only_assert sent).bind fun _ => hstate⟩

theorem only_opens_releaseBtcNotifyPeer :
    FatCrabTakerSellActor.releaseBtcNotifyPeer.Only (Opens FatCrabTakerSellActor.ending)
      fun _ => True := by
  simp only [FatCrabTakerSellActor.releaseBtcNotifyPeer, read_eq, get_bind, pure_bind, only_get]
  intro sell
  cases sell.data.peerBtcAddr with
  | none => trivial
  | some text =>
      refine (only_unwrap _).bind fun address => ?_
      split
      next =>
        simp only [PurseAccess.sendFunds_eq, call_bind, only_call]
        refine ⟨trivial, fun reply => (only_unwrap _).bind fun answer => ?_⟩
        cases answer with
        | error error => trivial
        | ok txid =>
            simp only [n3xb_eq, call_bind, pure_bind, only_call]
            refine ⟨trivial, fun reply => ?_⟩
            cases reply <;> trivial
      next => trivial

theorem only_opens_releaseNotifyPeer :
    FatCrabTakerSellActor.releaseNotifyPeer.Only (Opens FatCrabTakerSellActor.ending)
      fun _ => True := by
  refine only_opens_releaseBtcNotifyPeer.bind fun result => ?_
  cases result <;> simp [Opens, FatCrabTakerSellActor.ending]

theorem only_opens_notifyTradeRsp (tradeRsp : FatCrabTradeRsp)
    (tradeRspEnvelope : TradeResponseEnvelope) :
    (FatCrabTakerSellActor.notifyTradeRsp tradeRsp tradeRspEnvelope).Only
      (Opens FatCrabTakerSellActor.ending) fun _ => True := by
  simp only [FatCrabTakerSellActor.notifyTradeRsp, read_eq, get_bind, pure_bind, only_get]
  intro sell
  cases sell.notifTx <;> simp

theorem only_opens_accept (receiveAddress : String) (tradeRspEnvelope : TradeResponseEnvelope) :
    (FatCrabTakerSellActor.handleTradeRspNotif (.accept receiveAddress) tradeRspEnvelope).Only
      (Opens FatCrabTakerSellActor.ending) fun _ => True := by
  have haddress : (FatCrabTakerSellActor.setPeerBtcAddr receiveAddress).Only
      (Opens FatCrabTakerSellActor.ending) fun _ => True := by
    simp [Opens, FatCrabTakerSellActor.ending]
  have hstate : ∀ state, state = .offerAccepted ∨ state = .notifiedOutbound →
      (FatCrabTakerSellActor.setState state).Only (Opens FatCrabTakerSellActor.ending)
        fun _ => True := by
    rintro _ (rfl | rfl) <;> simp [Opens, FatCrabTakerSellActor.ending]
  refine haddress.bind fun _ => (hstate _ (.inl rfl)).bind fun _ => ?_
  refine only_opens_releaseBtcNotifyPeer.bind fun result => ?_
  cases result with
  | error error => exact only_opens_notifyTradeRsp _ _
  | ok done => exact (hstate _ (.inr rfl)).bind fun _ => only_opens_notifyTradeRsp _ _

theorem only_opens_handlePeerNotif (peerEnvelope : PeerEnvelope) :
    (handlePeerNotif peerEnvelope).Only (Opens ending) fun _ => True := by
  simp only [handlePeerNotif, read_eq, get_bind, pure_bind, only_get]
  intro taker
  split
  next => trivial
  next =>
    refine (only_unwrap _).bind fun message => (only_opens ?_).bind fun _ => ?_
    · simp [Opens, FatCrabTakerSellActor.ending]
    · simp only [only_get]
      intro taker
      cases taker.notifTx <;> simp

section Handlers

attribute [local simp] Ends Made ending FatCrabTakerSellActor.ending

variable {history : History FatCrabTakerActor TakerMsg tradeInterface}
  {taker : FatCrabTakerActor} {sell : FatCrabTakerSellActor} {uuid : Uuid}
  {notifTx : Option NotifTx}

/-- A taker keeps to its ending. -/
abbrev KeepsEnds (program : Handler FatCrabTakerActor Unit)
    (history : History FatCrabTakerActor TakerMsg tradeInterface) (taker : FatCrabTakerActor) :
    Prop :=
  Ends ending (.request .tradeComplete) history taker →
    program.Safe (fun _ _ => True) (Ends ending (.request .tradeComplete))
      (fun history taker _ => Ends ending (.request .tradeComplete) history taker) history taker

theorem keepsEnds_tradeComplete
    (hreceived : ∃ past, .received (.request .tradeComplete) past ∈ history) :
    KeepsEnds (focus sell? putSell FatCrabTakerSellActor.tradeComplete) history
      ⟨.sell sell, uuid, notifTx⟩ := by
  intro _
  simp [FatCrabTakerSellActor.tradeComplete, forall_except, hreceived]

/-- The funds are free before the state says that the offer was rejected. -/
theorem keepsEnds_reject (hstate : sell.data.state = .submittedOffer)
    (tradeRspEnvelope : TradeResponseEnvelope) :
    KeepsEnds (focus sell? putSell
      (FatCrabTakerSellActor.handleTradeRspNotif .reject tradeRspEnvelope)) history
      ⟨.sell sell, uuid, notifTx⟩ := by
  intro _
  cases hlistener : sell.notifTx <;>
    simp [FatCrabTakerSellActor.handleTradeRspNotif, FatCrabTakerSellActor.notifyTradeRsp,
      hstate, hlistener, forall_except]

theorem keepsEnds_buy {buy : FatCrabTakerBuyActor} (program : Handler FatCrabTakerBuyActor Unit) :
    KeepsEnds (focus buy? putBuy program) history ⟨.buy buy, uuid, notifTx⟩ :=
  Ends.safe (buy_opens program)

theorem keepsEnds_handleRequest {request : FatCrabTakerRequest}
    (hreceived : .received (.request request) taker ∈ history) :
    KeepsEnds (handleRequest request) history taker := by
  by_cases hquiet : request.quiet = true
  · exact Ends.safe (only_opens_quiet hquiet)
  obtain ⟨inner, uuid, notifTx⟩ := taker
  cases request with
  | takeOrder => exact Ends.safe only_opens_takeOrder
  | releaseNotifyPeer txid => exact Ends.safe (only_opens only_opens_releaseNotifyPeer)
  | tradeComplete =>
      cases inner with
      | buy buy => exact keepsEnds_buy FatCrabTakerBuyActor.tradeComplete
      | sell sell => exact keepsEnds_tradeComplete ⟨_, hreceived⟩
  | _ => exact absurd rfl hquiet

theorem keepsEnds_handleTradeRspNotif (tradeRspEnvelope : TradeResponseEnvelope) :
    KeepsEnds (handleTradeRspNotif tradeRspEnvelope) history taker := by
  intro hends
  simp only [handleTradeRspNotif, read_eq, get_bind, pure_bind, safe_get, safe_ite,
    safe_unwrap_bind]
  refine ⟨fun _ => hends, fun hsubmitted tradeRsp _ => ?_⟩
  obtain ⟨inner, uuid, notifTx⟩ := taker
  cases inner with
  | buy buy => exact keepsEnds_buy _ hends
  | sell sell =>
      cases tradeRsp with
      | accept receiveAddress =>
          have hkeeps : KeepsEnds (focus sell? putSell (FatCrabTakerSellActor.handleTradeRspNotif
              (.accept receiveAddress) tradeRspEnvelope)) history ⟨.sell sell, uuid, notifTx⟩ :=
            Ends.safe (sell_opens (only_opens_accept receiveAddress tradeRspEnvelope))
          exact hkeeps hends
      | reject => exact keepsEnds_reject (not_not.mp hsubmitted) tradeRspEnvelope hends

theorem keepsEnds_handleNotif (result : Except N3xbError TakerNotif) :
    KeepsEnds (handleNotif result) history taker := by
  cases result with
  | error error => exact Ends.safe (only_pure ())
  | ok notif =>
      cases notif with
      | tradeRsp tradeRspEnvelope => exact keepsEnds_handleTradeRspNotif tradeRspEnvelope
      | peer peerEnvelope => exact Ends.safe (only_opens_handlePeerNotif peerEnvelope)

theorem ends_restore (hends : Ends ending (.request .tradeComplete) history taker) :
    Ends ending (.request .tradeComplete) history taker.restore := by
  have hsame : taker.restore.ending = taker.ending := by
    unfold restore ending sell?
    cases taker.inner <;> rfl
  unfold Ends at hends ⊢
  rw [hsame]
  exact hends

theorem ends_start (hends : Ends ending (.request .tradeComplete) history taker) :
    start.Safe (fun _ _ => True) (Ends ending (.request .tradeComplete))
      (fun history taker _ => Ends ending (.request .tradeComplete) history taker) history
      taker := by
  refine Ends.safe ?_ hends
  simp [start, Only.bind]

/-- In every run, a Sell taker that has ended was told to complete, or has freed its funds. -/
theorem ends_invariant : ActorInvariant code (fun _ _ => True)
    (Ends ending (.request .tradeComplete)) (Ends ending (.request .tradeComplete)) where
  receive := by
    intro message history taker hends _
    have hends := hends.cons (.received message taker)
    refine ⟨hends, ?_⟩
    cases message with
    | request request =>
        rw [code, safe_handle_request]
        exact keepsEnds_handleRequest List.mem_cons_self hends
    | notif result =>
        rw [code, safe_handle_notif]
        exact keepsEnds_handleNotif result hends
  restart := by
    intro history taker hends
    exact ⟨ends_restore hends, ends_start (ends_restore hends)⟩

end Handlers

end FatCrabTakerActor

/-! ## The funds of every trade -/

namespace Agent

/-- The ending of an agent's trade, with its funds. -/
def ending : Agent → Option (Uuid × Ending)
  | .maker actor => actor.store.ending
  | .taker actor => actor.store.ending
  | _ => none

/-- The agent was told that its trade is complete. -/
def ToldComplete : Agent → Prop
  | .maker actor => ∃ past, .received (.request .tradeComplete) past ∈ actor.history
  | .taker actor => ∃ past, .received (.request .tradeComplete) past ∈ actor.history
  | _ => False

/-- The agent takes `TradeComplete`. -/
def TakesComplete : Agent → Agent → Prop
  | .maker before, .maker after =>
      after.history = .received (.request .tradeComplete) before.store :: before.history
  | .taker before, .taker after =>
      after.history = .received (.request .tradeComplete) before.store :: before.history
  | _, _ => False

/-- The agent has kept to its ending so far. -/
def KeepsEnding : Agent → Prop
  | .maker actor => actor.Holds (fun _ _ => True)
      (Ends FatCrabMakerActor.ending (.request .tradeComplete))
      (Ends FatCrabMakerActor.ending (.request .tradeComplete))
  | .taker actor => actor.Holds (fun _ _ => True)
      (Ends FatCrabTakerActor.ending (.request .tradeComplete))
      (Ends FatCrabTakerActor.ending (.request .tradeComplete))
  | _ => True

section Step

variable {before after agent : Agent} {move : Move} {fundsId : Uuid} {how : Ending}

theorem Step.keepsEnding (hstep : Step before move after) (hkeeps : before.KeepsEnding) :
    after.KeepsEnding := by
  cases hstep with
  | maker hstep => exact hstep.holds FatCrabMakerActor.ends_invariant (History.always_true _) hkeeps
  | taker hstep => exact hstep.holds FatCrabTakerActor.ends_invariant (History.always_true _) hkeeps
  | wallet hstep => trivial

/-- A message in the history has just been taken, or was taken before. -/
theorem received_of_step {σ Msg : Type} {code : Behaviour σ Msg tradeInterface}
    {first second : Actor σ Msg tradeInterface} {action : Action Msg tradeInterface}
    (hstep : Actor.Step code first action second) {message : Msg}
    (hreceived : ∃ past, .received message past ∈ second.history) :
    (∃ past, .received message past ∈ first.history) ∨
      second.history = .received message first.store :: first.history := by
  obtain ⟨past, hreceived⟩ := hreceived
  have hhistory := hstep.history
  rw [hhistory] at hreceived
  cases action with
  | silent => exact .inl ⟨past, hreceived⟩
  | call c reply =>
      rcases List.mem_cons.mp hreceived with heq | hold
      · cases heq
      · exact .inl ⟨past, hold⟩
  | receive message =>
      rcases List.mem_cons.mp hreceived with heq | hold
      · cases heq
        exact .inr hhistory
      · exact .inl ⟨past, hold⟩

theorem Step.toldComplete (hstep : Step before move after) (htold : after.ToldComplete) :
    before.ToldComplete ∨ before.TakesComplete after := by
  cases hstep with
  | maker hstep => exact received_of_step hstep htold
  | taker hstep => exact received_of_step hstep htold
  | wallet hstep => exact htold.elim

theorem ToldComplete.ne_wallet (htold : agent.ToldComplete)
    (actor : Actor Unit WalletRequest tradeInterface) : agent ≠ .wallet actor := by
  rintro rfl
  exact htold

/-- A trade that has ended was told to complete, or has freed its funds. -/
theorem KeepsEnding.of_ending (hkeeps : agent.KeepsEnding)
    (hending : agent.ending = some (fundsId, how)) :
    agent.ToldComplete ∨ agent.Made (.purse (.freeFunds fundsId)) (some (.ok ())) := by
  cases agent with
  | vacant => cases hending
  | wallet actor => cases hending
  | maker actor =>
      have hends := hkeeps.1
      unfold Ends at hends
      rw [show actor.store.ending = some (fundsId, how) from hending] at hends
      cases how with
      | completed => exact .inl hends
      | withdrawn => exact .inr hends
  | taker actor =>
      have hends := hkeeps.1
      unfold Ends at hends
      rw [show actor.store.ending = some (fundsId, how) from hending] at hends
      cases how with
      | completed => exact .inl hends
      | withdrawn => exact .inr hends

/-- An ending names the trade's own funds. -/
theorem owns_of_ending (hending : agent.ending = some (fundsId, how)) :
    ∃ sats, agent.Owns fundsId sats := by
  cases agent with
  | vacant => cases hending
  | wallet actor => cases hending
  | maker actor =>
      obtain ⟨⟨inner, uuid, notifTx⟩, task, history⟩ := actor
      cases inner with
      | sell sell => cases hending
      | buy buy =>
          have hid : buy.data.btcFundsId = fundsId := by
            have hbuy : buy.ending = some (fundsId, how) := hending
            unfold FatCrabMakerBuyActor.ending at hbuy
            split at hbuy <;> cases hbuy <;> rfl
          exact ⟨_, hid, rfl⟩
  | taker actor =>
      obtain ⟨⟨inner, uuid, notifTx⟩, task, history⟩ := actor
      cases inner with
      | buy buy => cases hending
      | sell sell =>
          have hid : sell.data.btcFundsId = fundsId := by
            have hsell : sell.ending = some (fundsId, how) := hending
            unfold FatCrabTakerSellActor.ending at hsell
            split at hsell <;> cases hsell <;> rfl
          exact ⟨_, hid, rfl⟩

end Step

end Agent

namespace Trader

/-- If the trade of the slot is completed in this step, its funds are not allocated any
more. -/
def PaidUp (slot : ℕ) (before after : Trader) : Prop :=
  ∀ fundsId sats, (before.agents slot).Owns fundsId sats →
    (before.agents slot).TakesComplete (after.agents slot) → before.purse.lookup fundsId = none

/-- Any number of such steps. -/
def PaidUpSteps (slot : ℕ) : Trader → Trader → Prop :=
  Relation.ReflTransGen fun before after => Step before after ∧ PaidUp slot before after

/-- The trade of the slot keeps to its ending, and whatever ends it has freed its funds. -/
structure Released (slot : ℕ) (trader : Trader) : Prop where
  ending : (trader.agents slot).KeepsEnding
  completed : ∀ fundsId sats, (trader.agents slot).Owns fundsId sats →
    (trader.agents slot).ToldComplete → trader.purse.lookup fundsId = none
  freed : ∀ fundsId, (trader.agents slot).Made (.purse (.freeFunds fundsId)) (some (.ok ())) →
    fundsId ∈ trader.purse.freed

variable {trader : Trader} {slot : ℕ}

section Start

variable {answers : WalletAnswers} {around : Surroundings} {order : FatCrabOrder}
  {orderEnvelope : FatCrabOrderEnvelope} {fatcrabRxAddr : Option String}

/-- A trade begins in `New`, which is no ending. -/
theorem ending_createMaker {maker : FatCrabMakerActor}
    (hcreated : (trader.createMaker order fatcrabRxAddr answers around).outcome =
      .done (.ok maker)) : maker.ending = none := by
  cases @makerCreation _ trader order fatcrabRxAddr answers around with
  | unasked hfailed _ | refused _ _ hfailed _ => exact absurd hcreated (hfailed maker)
  | buy _ _ _ hmaker _ | sell _ _ hmaker _ =>
      cases hmaker.symm.trans hcreated
      rfl

theorem ending_createTaker {taker : FatCrabTakerActor}
    (hcreated : (trader.createTaker orderEnvelope fatcrabRxAddr answers around).outcome =
      .done (.ok taker)) : taker.ending = none := by
  cases @takerCreation _ trader orderEnvelope fatcrabRxAddr answers around with
  | unasked hfailed _ | refused _ _ hfailed _ => exact absurd hcreated (hfailed taker)
  | sell _ _ _ htaker _ | buy _ _ htaker _ =>
      cases htaker.symm.trans hcreated
      rfl

theorem keepsEnding_createMaker :
    (startMaker (trader.createMaker order fatcrabRxAddr answers around).outcome).KeepsEnding := by
  rcases hcreated : (trader.createMaker order fatcrabRxAddr answers around).outcome with
    (error | maker) | _
  · trivial
  · have hends : Ends FatCrabMakerActor.ending (MakerMsg.request .tradeComplete) [] maker :=
      .of_none (ending_createMaker hcreated)
    exact ⟨hends, FatCrabMakerActor.ends_start hends⟩
  · trivial

theorem keepsEnding_createTaker :
    (startTaker (trader.createTaker orderEnvelope fatcrabRxAddr answers around).outcome).KeepsEnding
      := by
  rcases hcreated : (trader.createTaker orderEnvelope fatcrabRxAddr answers around).outcome with
    (error | taker) | _
  · trivial
  · have hends : Ends FatCrabTakerActor.ending (TakerMsg.request .tradeComplete) [] taker :=
      .of_none (ending_createTaker hcreated)
    exact ⟨hends, FatCrabTakerActor.ends_start hends⟩
  · trivial

theorem not_told_startMaker (outcome : Outcome (Except FatCrabError FatCrabMakerActor)) :
    ¬(startMaker outcome).ToldComplete := by
  rcases outcome with (error | maker) | _
  · exact not_false
  · rintro ⟨past, hreceived⟩
    cases hreceived
  · exact not_false

theorem not_told_startTaker (outcome : Outcome (Except FatCrabError FatCrabTakerActor)) :
    ¬(startTaker outcome).ToldComplete := by
  rcases outcome with (error | taker) | _
  · exact not_false
  · rintro ⟨past, hreceived⟩
    cases hreceived
  · exact not_false

/-- An agent that has ended nothing, was told nothing and has called nothing. -/
def Unused (agent : Agent) : Prop :=
  agent.KeepsEnding ∧ ¬agent.ToldComplete ∧ ∀ c reply, ¬agent.Made c reply

theorem unused_startMaker :
    Unused (startMaker (trader.createMaker order fatcrabRxAddr answers around).outcome) :=
  ⟨keepsEnding_createMaker, not_told_startMaker _, not_made_startMaker _⟩

theorem unused_startTaker :
    Unused (startTaker (trader.createTaker orderEnvelope fatcrabRxAddr answers around).outcome) :=
  ⟨keepsEnding_createTaker, not_told_startTaker _, not_made_startTaker _⟩

theorem unused_newWallet : Unused (.wallet ⟨(), .idle, []⟩) := by
  refine ⟨trivial, not_false, fun c reply hmade => ?_⟩
  obtain ⟨store, hentry⟩ := hmade
  cases hentry

theorem unused_update {other : ℕ} {agent : Agent} (hvacant : trader.agents other = .vacant)
    (hunused : Unused agent) :
    Function.update trader.agents other agent slot = trader.agents slot ∨
      trader.agents slot = .vacant ∧ Unused (Function.update trader.agents other agent slot) := by
  rcases eq_or_ne slot other with rfl | hother
  · rw [Function.update_self]
    exact .inr ⟨hvacant, hunused⟩
  · exact .inl (Function.update_of_ne hother ..)

end Start

/-- What a step does to the agent of one slot: nothing, a step of its own, or its start. -/
theorem Step.at_slot {next : Trader} (hstep : Step trader next) (slot : ℕ) :
    next.agents slot = trader.agents slot ∨
    (∃ move, (trader.agents slot).Step move (next.agents slot) ∧
      trader.purse.Answers move next.purse) ∨
    trader.agents slot = .vacant ∧ Unused (next.agents slot) := by
  cases hstep with
  | @act other move agent purse hstep hanswers =>
      rcases eq_or_ne slot other with rfl | hother
      · right
        left
        refine ⟨move, ?_, hanswers⟩
        dsimp only
        rw [Function.update_self]
        exact hstep
      · exact .inl (Function.update_of_ne hother ..)
  | newMaker hvacant hfresh hresult =>
      subst hresult
      exact (unused_update hvacant unused_startMaker).imp_right .inr
  | newTaker hvacant hfresh hresult =>
      subst hresult
      exact (unused_update hvacant unused_startTaker).imp_right .inr
  | newWallet hvacant => exact (unused_update hvacant unused_newWallet).imp_right .inr
  | abandon => exact .inl rfl
  -- the purse may end and be opened again, the agents stay
  | reopen height hended => exact .inl rfl

/-- What is released stays released. -/
theorem Released.step (hround : Bitcoin.RoundTrip) (hconsistent : trader.Consistent)
    (hreleased : trader.Released slot) {next : Trader} (hstep : Step trader next)
    (hpaid : trader.PaidUp slot next) : next.Released slot := by
  have hafter := hconsistent.step hround hstep
  have hextends := hstep.extends_purse hround hconsistent
  -- funds that were gone before the step are still gone after it
  have hgone : ∀ fundsId sats, (trader.agents slot).Owns fundsId sats →
      trader.purse.lookup fundsId = none → next.purse.lookup fundsId = none := by
    intro fundsId sats howns hnone
    have hgone : Gone fundsId trader.purse :=
      ⟨⟨sats, hconsistent.granted slot fundsId sats howns⟩, hnone⟩
    exact (hgone.extend hconsistent.sound hafter.sound hextends).2
  rcases hstep.at_slot slot with hsame | ⟨move, hmove, hanswers⟩ |
    ⟨-, hkeeps, htold, hmade⟩
  · refine ⟨?_, fun fundsId sats howns htold => ?_, fun fundsId hmade => ?_⟩
    · rw [hsame]
      exact hreleased.ending
    · rw [hsame] at howns htold
      exact hgone fundsId sats howns (hreleased.completed fundsId sats howns htold)
    · rw [hsame] at hmade
      exact hextends.freed fundsId (hreleased.freed fundsId hmade)
  · refine ⟨hmove.keepsEnding hreleased.ending, fun fundsId sats howns htold => ?_,
      fun fundsId hmade => ?_⟩
    · have hbefore := hmove.owns_of_trade hround (hconsistent.kept slot) htold.ne_wallet howns
      apply hgone fundsId sats hbefore
      rcases hmove.toldComplete htold with hold | htakes
      · exact hreleased.completed fundsId sats hbefore hold
      · exact hpaid fundsId sats hbefore htakes
    · rcases hmove.made_iff.mp hmade with hold | rfl
      · exact hextends.freed fundsId (hreleased.freed fundsId hold)
      · obtain ⟨answers, -, hserve⟩ := hanswers
        exact Purse.serve_freeFunds_ok hserve
  · exact ⟨hkeeps, fun _ _ _ h => absurd h htold, fun _ h => absurd h (hmade _ _)⟩

theorem released_new (slot : ℕ) (overflowChecks : Bool) (network : Network) (height : ℕ) :
    (new overflowChecks network height).Released slot :=
  ⟨trivial, fun _ _ => False.elim, fun _ => False.elim⟩

/-- What has ended has no funds left. -/
theorem Released.lookup (hreleased : trader.Released slot) (hsound : trader.purse.Sound)
    {fundsId : Uuid} {how : Ending}
    (hending : (trader.agents slot).ending = some (fundsId, how)) :
    trader.purse.lookup fundsId = none := by
  obtain ⟨sats, howns⟩ := Agent.owns_of_ending hending
  rcases hreleased.ending.of_ending hending with htold | hfreed
  · exact hreleased.completed fundsId sats howns htold
  · exact (hsound.spent fundsId (hreleased.freed fundsId hfreed)).1

/-- If a trade is only completed once its funds are not allocated any more, its reservation
ends with it: in every state that such a run reaches, a trade that has ended has none. -/
theorem no_reservation_outlives (hround : Bitcoin.RoundTrip) {overflowChecks : Bool}
    {network : Network} {height : ℕ}
    (hrun : PaidUpSteps slot (new overflowChecks network height) trader) :
    ∀ fundsId how, (trader.agents slot).ending = some (fundsId, how) →
      trader.purse.lookup fundsId = none := by
  have hkept : trader.Consistent ∧ trader.Released slot := by
    induction hrun with
    | refl => exact ⟨consistent_new _ _ _, released_new slot _ _ _⟩
    | tail _ hlast ih =>
        obtain ⟨hstep, hpaid⟩ := hlast
        exact ⟨ih.1.step hround hstep, ih.2.step hround ih.1 hstep hpaid⟩
  intro fundsId how hending
  exact hkept.2.lookup hkept.1.sound hending

/-! ## Runs that complete nothing -/

/-- How often a message was taken. -/
def taken {σ Msg : Type} [DecidableEq Msg] (message : Msg)
    (history : History σ Msg tradeInterface) : ℕ :=
  history.countP fun
    | .received other _ => decide (other = message)
    | .called _ _ _ => false

/-- How often the agent took `TradeComplete`. -/
def completions : Agent → ℕ
  | .maker actor => taken (.request .tradeComplete) actor.history
  | .taker actor => taken (.request .tradeComplete) actor.history
  | _ => 0

theorem taken_le_of_step {σ Msg : Type} [DecidableEq Msg] {code : Behaviour σ Msg tradeInterface}
    {first second : Actor σ Msg tradeInterface} {action : Action Msg tradeInterface}
    (hstep : Actor.Step code first action second) (message : Msg) :
    taken message first.history ≤ taken message second.history := by
  rw [hstep.history]
  cases action with
  | silent => exact Nat.le_refl _
  | receive other => exact (List.sublist_cons_self _ _).countP_le
  | call c reply => exact (List.sublist_cons_self _ _).countP_le

theorem completions_le_of_step {before after : Agent} {move : Move}
    (hstep : before.Step move after) : completions before ≤ completions after := by
  cases hstep with
  | maker hstep => exact taken_le_of_step hstep _
  | taker hstep => exact taken_le_of_step hstep _
  | wallet hstep => exact Nat.le_refl _

theorem completions_of_takes {before after : Agent} (htakes : before.TakesComplete after) :
    completions before < completions after := by
  cases before with
  | vacant => exact htakes.elim
  | wallet actor => exact htakes.elim
  | maker actor =>
      cases after with
      | maker next => simp [completions, taken, show next.history = _ from htakes]
      | _ => exact htakes.elim
  | taker actor =>
      cases after with
      | taker next => simp [completions, taken, show next.history = _ from htakes]
      | _ => exact htakes.elim

theorem Step.completions_le {next : Trader} (hstep : Step trader next) (slot : ℕ) :
    completions (trader.agents slot) ≤ completions (next.agents slot) := by
  rcases hstep.at_slot slot with hsame | ⟨move, hmove, -⟩ | ⟨hvacant, -⟩
  · rw [hsame]
  · exact completions_le_of_step hmove
  · rw [hvacant]
    exact Nat.zero_le _

/-- A run in which the slot takes no `TradeComplete` is paid up. -/
theorem Steps.paidUp {later : Trader} (hsteps : Steps trader later)
    (hsame : completions (later.agents slot) ≤ completions (trader.agents slot)) :
    PaidUpSteps slot trader later := by
  have hgrows : ∀ {last}, Steps trader last →
      completions (trader.agents slot) ≤ completions (last.agents slot) := by
    intro last hlast
    induction hlast with
    | refl => exact Nat.le_refl _
    | tail _ hstep ih => exact ih.trans (hstep.completions_le slot)
  induction hsteps with
  | refl => exact .refl
  | tail hrest hstep ih =>
      have hlast := hstep.completions_le slot
      refine .tail (ih (hlast.trans hsame)) ⟨hstep, fun fundsId sats _ htakes => ?_⟩
      have htaken := completions_of_takes htakes
      have hbefore := hgrows hrest
      omega

end Trader

end Reservations

section Outlived

open scoped Sample

/-- A Buy maker whose trade is completed before anything was paid. -/
def Sample.unpaid : Trader :=
  (Trader.new true .regtest 100).play [
    (.newMaker 0 (Sample.order .buy) (some "npub1maker"), Sample.wallet ⟨1⟩, Sample.surroundings),
    (.resume 0, Sample.wallet ⟨2⟩, Sample.surroundings),
    (.tellMaker 0 (.request .tradeComplete), Sample.wallet ⟨2⟩, Sample.surroundings)]

/-- The trade has ended, its task waits for a message, and its funds are still allocated. -/
theorem Trader.reservation_outlives : Sample.unpaid.Reachable ∧ (Sample.unpaid.agents 0).Idle ∧
    (Sample.unpaid.agents 0).ending = some (⟨1⟩, .completed) ∧
    Sample.unpaid.purse.lookup ⟨1⟩ = some 50 := by
  refine ⟨(reachable_new true .regtest 100).play _, ?_, by decide +kernel, by decide +kernel⟩
  obtain ⟨buy, hbuy⟩ : ∃ buy, (Sample.unpaid.agents 0).idleBuyMaker = some buy :=
    Option.isSome_iff_exists.mp (by decide +kernel)
  obtain ⟨uuid, notifTx, history, hagent⟩ := Agent.eq_of_idleBuyMaker hbuy
  rw [hagent]
  rfl

/-- The Buy maker of `Sample.paid`, told that its trade is complete. -/
def Sample.closed : Trader :=
  (Sample.paid.tellMaker 0 (.request .tradeComplete)).resume 0 (Sample.wallet ⟨2⟩)
    Sample.surroundings

/-- A trade that was paid before it was completed. -/
theorem Trader.no_reservation_outlives_closed :
    (Sample.closed.agents 0).ending = some (⟨1⟩, .completed) ∧
      Sample.closed.purse.lookup ⟨1⟩ = none := by
  have hending : (Sample.closed.agents 0).ending = some (⟨1⟩, .completed) := by decide +kernel
  have hpaid : Steps (Trader.new true .regtest 100) Sample.paid := steps_play _
  have hbefore : PaidUpSteps 0 (Trader.new true .regtest 100) Sample.paid :=
    hpaid.paidUp (by decide +kernel)
  -- the message is taken when the funds are gone
  have htold : PaidUpSteps 0 Sample.paid (Sample.paid.tellMaker 0 (.request .tradeComplete)) := by
    obtain ⟨buy, hbuy⟩ : ∃ buy, (Sample.paid.agents 0).idleBuyMaker = some buy :=
      Option.isSome_iff_exists.mp (by decide +kernel)
    have hid : (Sample.paid.agents 0).idleBuyMaker.map (·.data.btcFundsId) = some ⟨1⟩ := by
      decide +kernel
    rw [hbuy] at hid
    obtain ⟨uuid, notifTx, history, hagent⟩ := Agent.eq_of_idleBuyMaker hbuy
    have htell : Sample.paid.tellMaker 0 (.request .tradeComplete) = ⟨Sample.paid.purse,
        Function.update Sample.paid.agents 0 (.maker (take FatCrabMakerActor.code
          (.request .tradeComplete) ⟨⟨.buy buy, uuid, notifTx⟩, .idle, history⟩))⟩ := by
      rw [tellMaker, hagent]
    rw [htell]
    refine .single ⟨step_actor .maker hagent (.receive _) rfl, ?_⟩
    intro fundsId sats howns _
    rw [hagent] at howns
    have hfunds : fundsId = ⟨1⟩ := howns.1.symm.trans (Option.some.inj hid)
    rw [hfunds]
    decide +kernel
  have hserved : Steps (Sample.paid.tellMaker 0 (.request .tradeComplete)) Sample.closed :=
    steps_resume (by decide +kernel)
  have hafter : PaidUpSteps 0 (Sample.paid.tellMaker 0 (.request .tradeComplete)) Sample.closed :=
    hserved.paidUp (by decide +kernel)
  exact ⟨hending, no_reservation_outlives Sample.roundTrip
    ((hbefore.trans htold).trans hafter) _ _ hending⟩

end Outlived

end FatCrabTrading
