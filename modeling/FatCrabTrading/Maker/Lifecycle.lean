import FatCrabTrading.Maker.Quiet
import FatCrabTrading.Sample

/-! # The lifecycle of a maker

The states are ordered from `New` to `TradeCompleted`, with `TradeCancelled` beside the
first three. Only a cancellation looks at the state, so the order holds in the runs whose
requests keep to it.
-/

namespace FatCrabTrading

open Effect Program

namespace FatCrabMakerState

/-- The place of a state in the lifecycle. -/
def rank : FatCrabMakerState → ℕ
  | .new => 0
  | .waitingForOffers => 1
  | .receivedOffer => 2
  | .acceptedOffer => 3
  | .inboundBtcNotified => 4
  | .inboundFcNotified => 4
  | .notifiedOutbound => 5
  | .tradeCompleted => 6
  | .tradeCancelled => 7

/-- The states in which no offer was accepted yet and an order may be cancelled. -/
def Early (state : FatCrabMakerState) : Prop :=
  state = .new ∨ state = .waitingForOffers ∨ state = .receivedOffer

/-- The states in which a trade ends. -/
def Terminal (state : FatCrabMakerState) : Prop :=
  state = .tradeCompleted ∨ state = .tradeCancelled

/-- The moves of the lifecycle: to stay, to cancel early, or to go up. -/
def Advances (before after : FatCrabMakerState) : Prop :=
  before = after ∨ ¬ before.Terminal ∧
    (after = .tradeCancelled ∧ before.Early ∨ after ≠ .tradeCancelled ∧ before.rank < after.rank)

instance (state : FatCrabMakerState) : Decidable state.Early :=
  inferInstanceAs (Decidable (_ ∨ _ ∨ _))

instance (state : FatCrabMakerState) : Decidable state.Terminal :=
  inferInstanceAs (Decidable (_ ∨ _))

instance (before after : FatCrabMakerState) : Decidable (before.Advances after) :=
  inferInstanceAs (Decidable (_ ∨ _ ∧ (_ ∧ _ ∨ _ ∧ _)))

theorem early_iff_rank (state : FatCrabMakerState) : state.Early ↔ state.rank ≤ 2 := by
  cases state <;> decide

@[simp] theorem Advances.refl (state : FatCrabMakerState) : state.Advances state := .inl rfl

theorem Advances.trans {first second third : FatCrabMakerState} (hfirst : first.Advances second)
    (hsecond : second.Advances third) : first.Advances third := by
  rcases hfirst with rfl | ⟨hopen, hfirst⟩
  · exact hsecond
  rcases hsecond with rfl | ⟨hopenSecond, hsecond⟩
  · exact .inr ⟨hopen, hfirst⟩
  rcases hfirst with ⟨hcancelled, _⟩ | ⟨_, hrank⟩
  · exact absurd (.inr hcancelled) hopenSecond
  refine .inr ⟨hopen, ?_⟩
  rcases hsecond with ⟨hcancelled, hearly⟩ | ⟨hnot, hrankSecond⟩
  · rw [early_iff_rank] at hearly ⊢
    exact .inl ⟨hcancelled, by omega⟩
  · exact .inr ⟨hnot, hrank.trans hrankSecond⟩

instance : IsTrans FatCrabMakerState Advances := ⟨fun _ _ _ => Advances.trans⟩

section Moves

variable {state : FatCrabMakerState}

theorem advances_waitingForOffers (h : state = .new ∨ state = .waitingForOffers) :
    state.Advances .waitingForOffers := by
  rcases h with rfl | rfl <;> decide

theorem advances_receivedOffer (h : state = .waitingForOffers ∨ state = .receivedOffer) :
    state.Advances .receivedOffer := by
  rcases h with rfl | rfl <;> decide

theorem Early.advances_acceptedOffer (h : state.Early) : state.Advances .acceptedOffer := by
  rcases h with rfl | rfl | rfl <;> decide

theorem Early.advances_tradeCancelled (h : state.Early) : state.Advances .tradeCancelled := by
  rcases h with rfl | rfl | rfl <;> decide

theorem advances_notifiedOutbound (h : ¬ state.Terminal) : state.Advances .notifiedOutbound := by
  revert h
  cases state <;> decide

theorem advances_tradeCompleted (h : state ≠ .tradeCancelled) :
    state.Advances .tradeCompleted := by
  revert h
  cases state <;> decide

end Moves

end FatCrabMakerState

section Lifecycle

variable [Bitcoin]

namespace FatCrabMakerActor

/-- Whether an observation asks n3xB to accept an offer. -/
def asksAccept : Entry FatCrabMakerActor MakerMsg tradeInterface → Bool
  | .called (.n3xb (.acceptOffer _)) _ _ => true
  | _ => false

/-- The requests keep to the order of the lifecycle, as far as they have an effect. -/
def Orderly (entry : Entry FatCrabMakerActor MakerMsg tradeInterface)
    (_ : History FatCrabMakerActor MakerMsg tradeInterface) : Prop :=
  match entry with
  | .received (.request .tradeComplete) self => self.state ≠ .tradeCancelled
  | .called (.n3xb .postNewOrder) (.ok _) self =>
      self.state = .new ∨ self.state = .waitingForOffers
  | .called (.n3xb (.acceptOffer _)) _ self => self.state.Early
  | .called (.n3xb (.sendPeerMessage _)) (.ok _) self => ¬ self.state.Terminal
  | _ => True

instance (entry : Entry FatCrabMakerActor MakerMsg tradeInterface)
    (past : History FatCrabMakerActor MakerMsg tradeInterface) :
    Decidable (Orderly entry past) := by
  unfold Orderly
  split <;> infer_instance

/-- Each observation is an advance on the one before, and the state on the last one. -/
def Chain : History FatCrabMakerActor MakerMsg tradeInterface → FatCrabMakerState → Prop
  | [], _ => True
  | entry :: past, state => Chain past entry.store.state ∧ entry.store.state.Advances state

@[simp] theorem chain_cons (entry : Entry FatCrabMakerActor MakerMsg tradeInterface)
    (past : History FatCrabMakerActor MakerMsg tradeInterface) (state : FatCrabMakerState) :
    Chain (entry :: past) state ↔ Chain past entry.store.state ∧ entry.store.state.Advances state :=
  Iff.rfl

theorem chain_iff_climbs {history : History FatCrabMakerActor MakerMsg tradeInterface}
    {after : FatCrabMakerState} :
    Chain history after ↔ history.Climbs state FatCrabMakerState.Advances after := by
  induction history generalizing after with
  | nil => exact Iff.rfl
  | cons entry past ih => exact and_congr_left' ih

/-- The state is an advance on every earlier one. -/
theorem Chain.advances {history : History FatCrabMakerActor MakerMsg tradeInterface}
    {state : FatCrabMakerState} (hchain : Chain history state) :
    ∀ entry ∈ history, entry.store.state.Advances state :=
  (chain_iff_climbs.mp hchain).all

/-- How often an acceptance was asked for. -/
def asked (history : History FatCrabMakerActor MakerMsg tradeInterface) : ℕ :=
  history.countP asksAccept

@[simp] theorem asked_cons (entry : Entry FatCrabMakerActor MakerMsg tradeInterface)
    (past : History FatCrabMakerActor MakerMsg tradeInterface) :
    asked (entry :: past) = asked past + if asksAccept entry then 1 else 0 :=
  List.countP_cons

/-- The states so far form a chain, with at most one acceptance. -/
def Tidy (history : History FatCrabMakerActor MakerMsg tradeInterface)
    (self : FatCrabMakerActor) : Prop :=
  Chain history self.state ∧ asked history ≤ 1

/-- Between messages, an early state means that no acceptance was asked for. -/
def Settled (history : History FatCrabMakerActor MakerMsg tradeInterface)
    (self : FatCrabMakerActor) : Prop :=
  Tidy history self ∧ (self.state.Early → asked history = 0)

/-- Serving a message from a settled maker keeps the history tidy and settles it again. -/
def KeepsOrder (message : MakerMsg) (program : Handler FatCrabMakerActor Unit)
    (history : History FatCrabMakerActor MakerMsg tradeInterface) (self : FatCrabMakerActor) :
    Prop :=
  Settled history self → program.Safe Orderly Tidy (fun history self _ => Settled history self)
    (.received message self :: history) self

section Handlers

attribute [local simp] Tidy Settled asksAccept Orderly

variable {history : History FatCrabMakerActor MakerMsg tradeInterface}
  {buy : FatCrabMakerBuyActor} {sell : FatCrabMakerSellActor} {uuid : Uuid}
  {notifTx : Option NotifTx} {message : MakerMsg}

/-- Programs that leave the trade alone and make quiet calls. -/
theorem keepsOrder_quiet {program : Handler FatCrabMakerActor Unit} {self : FatCrabMakerActor}
    (honly : program.Only SameTrade TradeCall.Quiet) :
    KeepsOrder message program history self := by
  intro hsettled
  refine honly.safe (fun _ _ h => h.1) (fun _ _ _ h => h) ?_ ?_ ?_
  · rintro history before after hbefore ⟨hinner, -⟩
    have hstate : after.state = before.state := by
      unfold state
      rw [hinner]
    simpa only [Settled, Tidy, hstate] using hbefore
  · rintro history self c reply ⟨⟨hchain, hasked⟩, hzero⟩ hquiet
    have hask : asksAccept (.called c reply self) = false := by
      unfold asksAccept
      split
      next heq =>
        cases heq
        exact hquiet.elim
      next => rfl
    simp only [Settled, Tidy, chain_cons, asked_cons, hask]
    exact ⟨⟨⟨hchain, .refl _⟩, hasked⟩, hzero⟩
  · obtain ⟨⟨hchain, hasked⟩, hzero⟩ := hsettled
    simp only [Settled, Tidy, chain_cons, asked_cons, asksAccept]
    exact ⟨⟨⟨hchain, .refl _⟩, hasked⟩, hzero⟩

theorem keepsOrder_postNewOrder_buy :
    KeepsOrder message postNewOrder history ⟨.buy buy, uuid, notifTx⟩ := by
  rintro ⟨⟨hchain, hasked⟩, hzero⟩
  simp only [state_buy] at hchain hzero
  simp [postNewOrder, setState, forall_except, hchain, hasked]
  refine ⟨fun _ => hzero, fun hstate => ⟨FatCrabMakerState.advances_waitingForOffers hstate, ?_⟩⟩
  intro _
  exact hzero (hstate.imp_right .inl)

theorem keepsOrder_postNewOrder_sell :
    KeepsOrder message postNewOrder history ⟨.sell sell, uuid, notifTx⟩ := by
  rintro ⟨⟨hchain, hasked⟩, hzero⟩
  simp only [state_sell] at hchain hzero
  simp [postNewOrder, setState, forall_except, hchain, hasked]
  refine ⟨fun _ => hzero, fun hstate => ⟨FatCrabMakerState.advances_waitingForOffers hstate, ?_⟩⟩
  intro _
  exact hzero (hstate.imp_right .inl)

theorem keepsOrder_cancelOrder_buy :
    KeepsOrder message (focus buy? putBuy FatCrabMakerBuyActor.cancelOrder) history
      ⟨.buy buy, uuid, notifTx⟩ := by
  rintro ⟨⟨hchain, hasked⟩, hzero⟩
  simp only [state_buy] at hchain hzero
  cases hstate : buy.data.state with
  | new | waitingForOffers | receivedOffer =>
      rw [hstate] at hchain hzero
      have hearly : buy.data.state.Early := by
        rw [hstate]
        decide
      have hadvances := hearly.advances_tradeCancelled
      rw [hstate] at hearly hadvances
      simp [FatCrabMakerBuyActor.cancelOrder, hstate, forall_except, hchain,
        hzero hearly, hadvances]
  | _ =>
      rw [hstate] at hchain hzero
      simp [FatCrabMakerBuyActor.cancelOrder, hstate, hchain, hasked]
      exact hzero

theorem keepsOrder_cancelOrder_sell :
    KeepsOrder message (focus sell? putSell FatCrabMakerSellActor.cancelOrder) history
      ⟨.sell sell, uuid, notifTx⟩ := by
  rintro ⟨⟨hchain, hasked⟩, hzero⟩
  simp only [state_sell] at hchain hzero
  cases hstate : sell.data.state with
  | new | waitingForOffers | receivedOffer =>
      rw [hstate] at hchain hzero
      have hearly : sell.data.state.Early := by
        rw [hstate]
        decide
      have hadvances := hearly.advances_tradeCancelled
      rw [hstate] at hearly hadvances
      simp [FatCrabMakerSellActor.cancelOrder, hstate, forall_except, hchain,
        hzero hearly, hadvances]
  | _ =>
      rw [hstate] at hchain hzero
      simp [FatCrabMakerSellActor.cancelOrder, hstate, hchain, hasked]
      exact hzero

theorem keepsOrder_tradeResponse_buy {tradeRspType : FatCrabTradeRspType}
    {envelope : FatCrabOfferEnvelope} :
    KeepsOrder message
      (focus buy? putBuy (FatCrabMakerBuyActor.tradeResponse tradeRspType envelope)) history
      ⟨.buy buy, uuid, notifTx⟩ := by
  rintro ⟨⟨hchain, hasked⟩, hzero⟩
  simp only [state_buy] at hchain hzero
  cases tradeRspType with
  | accept =>
      simp [FatCrabMakerBuyActor.tradeResponse]
      intro reply hearly
      simp +decide [hchain, hzero hearly, hearly.advances_acceptedOffer]
  | reject =>
      simp [FatCrabMakerBuyActor.tradeResponse, hchain, hasked]
      exact hzero

theorem keepsOrder_tradeResponse_sell {tradeRspType : FatCrabTradeRspType}
    {envelope : FatCrabOfferEnvelope} :
    KeepsOrder message
      (focus sell? putSell (FatCrabMakerSellActor.tradeResponse tradeRspType envelope)) history
      ⟨.sell sell, uuid, notifTx⟩ := by
  rintro ⟨⟨hchain, hasked⟩, hzero⟩
  simp only [state_sell] at hchain hzero
  cases tradeRspType with
  | accept =>
      simp [FatCrabMakerSellActor.tradeResponse]
      intro address haddress reply hearly
      simp +decide [hchain, hzero hearly, hearly.advances_acceptedOffer]
  | reject =>
      simp [FatCrabMakerSellActor.tradeResponse, hchain, hasked]
      exact hzero

theorem keepsOrder_releaseNotifyPeer :
    KeepsOrder message (focus buy? putBuy FatCrabMakerBuyActor.releaseNotifyPeer) history
      ⟨.buy buy, uuid, notifTx⟩ := by
  rintro ⟨⟨hchain, hasked⟩, hzero⟩
  simp only [state_buy] at hchain hzero
  cases haddress : buy.data.peerBtcAddr with
  | none =>
      simp [FatCrabMakerBuyActor.releaseNotifyPeer, haddress, hchain, hasked]
      exact hzero
  | some text =>
      simp [FatCrabMakerBuyActor.releaseNotifyPeer, haddress, hchain, hasked, forall_except]
      intro address _ reply
      refine ⟨fun _ _ => hzero, fun _ _ => ⟨fun _ => hzero, fun hopen => ?_⟩⟩
      exact ⟨FatCrabMakerState.advances_notifiedOutbound hopen, by simp +decide⟩

theorem keepsOrder_notifyPeer {txid : String} :
    KeepsOrder message (focus sell? putSell (FatCrabMakerSellActor.notifyPeer txid)) history
      ⟨.sell sell, uuid, notifTx⟩ := by
  rintro ⟨⟨hchain, hasked⟩, hzero⟩
  simp only [state_sell] at hchain hzero
  simp [FatCrabMakerSellActor.notifyPeer, hchain, hasked, forall_except]
  intro address _
  refine ⟨fun _ => hzero, fun hopen => ?_⟩
  exact ⟨FatCrabMakerState.advances_notifiedOutbound hopen, by simp +decide⟩

theorem keepsOrder_tradeComplete_buy (hopen : buy.data.state ≠ .tradeCancelled) :
    KeepsOrder message (focus buy? putBuy FatCrabMakerBuyActor.tradeComplete) history
      ⟨.buy buy, uuid, notifTx⟩ := by
  rintro ⟨⟨hchain, hasked⟩, -⟩
  simp only [state_buy] at hchain
  have hadvances := FatCrabMakerState.advances_tradeCompleted hopen
  simp +decide [FatCrabMakerBuyActor.tradeComplete, hchain, hasked, forall_except, hadvances]

theorem keepsOrder_tradeComplete_sell (hopen : sell.data.state ≠ .tradeCancelled) :
    KeepsOrder message (focus sell? putSell FatCrabMakerSellActor.tradeComplete) history
      ⟨.sell sell, uuid, notifTx⟩ := by
  rintro ⟨⟨hchain, hasked⟩, -⟩
  simp only [state_sell] at hchain
  have hadvances := FatCrabMakerState.advances_tradeCompleted hopen
  simp +decide [FatCrabMakerSellActor.tradeComplete, hchain, hasked, forall_except, hadvances]

theorem keepsOrder_handleOfferNotif_buy {envelope : OfferEnvelope} :
    KeepsOrder message (handleOfferNotif envelope) history ⟨.buy buy, uuid, notifTx⟩ := by
  rintro ⟨⟨hchain, hasked⟩, hzero⟩
  simp only [state_buy] at hchain hzero
  by_cases hstate : buy.data.state = .waitingForOffers ∨ buy.data.state = .receivedOffer
  · have hadvances := FatCrabMakerState.advances_receivedOffer hstate
    have hnone := hzero (.inr hstate)
    cases hvalid : FatCrabOffer.validateN3xbOffer envelope.offer with
    | error error =>
        simp [handleOfferNotif, handleOfferInUnexpectedState, hstate, hvalid, hchain, hnone]
    | ok =>
        cases notifTx with
        | none =>
            simp [handleOfferNotif, handleOfferInUnexpectedState, hstate, hvalid, hchain, hnone]
        | some listener =>
            simp [handleOfferNotif, handleOfferInUnexpectedState, hstate, hvalid, recordOffer,
              hchain, hnone, hadvances]
  · simp [handleOfferNotif, handleOfferInUnexpectedState, hstate, hchain, hasked]
    exact hzero

theorem keepsOrder_handleOfferNotif_sell {envelope : OfferEnvelope} :
    KeepsOrder message (handleOfferNotif envelope) history ⟨.sell sell, uuid, notifTx⟩ := by
  rintro ⟨⟨hchain, hasked⟩, hzero⟩
  simp only [state_sell] at hchain hzero
  by_cases hstate : sell.data.state = .waitingForOffers ∨ sell.data.state = .receivedOffer
  · have hadvances := FatCrabMakerState.advances_receivedOffer hstate
    have hnone := hzero (.inr hstate)
    cases hvalid : FatCrabOffer.validateN3xbOffer envelope.offer with
    | error error =>
        simp [handleOfferNotif, handleOfferInUnexpectedState, hstate, hvalid, hchain, hnone]
    | ok =>
        cases notifTx with
        | none =>
            simp [handleOfferNotif, handleOfferInUnexpectedState, hstate, hvalid, hchain, hnone]
        | some listener =>
            simp [handleOfferNotif, handleOfferInUnexpectedState, hstate, hvalid, recordOffer,
              hchain, hnone, hadvances]
  · simp [handleOfferNotif, handleOfferInUnexpectedState, hstate, hchain, hasked]
    exact hzero

theorem keepsOrder_handlePeerNotif_buy {envelope : PeerEnvelope} :
    KeepsOrder message (handlePeerNotif envelope) history ⟨.buy buy, uuid, notifTx⟩ := by
  rintro ⟨⟨hchain, hasked⟩, hzero⟩
  simp only [state_buy] at hchain hzero
  by_cases hstate : buy.data.state = .acceptedOffer
  · rw [hstate] at hchain
    cases notifTx <;>
      simp +decide [handlePeerNotif, FatCrabMakerBuyActor.handlePeerNotif, setState,
        peerNotifState, hstate, hchain, hasked]
  · simp [handlePeerNotif, hstate, hchain, hasked]
    exact hzero

theorem keepsOrder_handlePeerNotif_sell {envelope : PeerEnvelope} :
    KeepsOrder message (handlePeerNotif envelope) history ⟨.sell sell, uuid, notifTx⟩ := by
  rintro ⟨⟨hchain, hasked⟩, hzero⟩
  simp only [state_sell] at hchain hzero
  by_cases hstate : sell.data.state = .acceptedOffer
  · rw [hstate] at hchain
    simp +decide [handlePeerNotif, FatCrabMakerSellActor.handlePeerNotif, setState,
      peerNotifState, hstate]
    intro content _
    cases Bitcoin.txidFromStr content.txid with
    | none => simp +decide [hstate, hchain, hasked]
    | some txid => cases notifTx <;> simp +decide [hstate, hchain, hasked]
  · simp [handlePeerNotif, hstate, hchain, hasked]
    exact hzero

theorem keepsOrder_handleRequest_buy {request : FatCrabMakerRequest}
    (horderly : Orderly (.received (.request request) ⟨.buy buy, uuid, notifTx⟩) history) :
    KeepsOrder message (handleRequest request) history ⟨.buy buy, uuid, notifTx⟩ := by
  by_cases hquiet : request.quiet = true
  · exact keepsOrder_quiet (only_quiet hquiet)
  cases request with
  | postNewOrder => exact keepsOrder_postNewOrder_buy
  | cancelOrder => exact keepsOrder_cancelOrder_buy
  | tradeResponse tradeRspType envelope => exact keepsOrder_tradeResponse_buy
  | releaseNotifyPeer txid => exact keepsOrder_releaseNotifyPeer
  | tradeComplete => exact keepsOrder_tradeComplete_buy horderly
  | _ => exact absurd rfl hquiet

theorem keepsOrder_handleRequest_sell {request : FatCrabMakerRequest}
    (horderly : Orderly (.received (.request request) ⟨.sell sell, uuid, notifTx⟩) history) :
    KeepsOrder message (handleRequest request) history ⟨.sell sell, uuid, notifTx⟩ := by
  by_cases hquiet : request.quiet = true
  · exact keepsOrder_quiet (only_quiet hquiet)
  cases request with
  | postNewOrder => exact keepsOrder_postNewOrder_sell
  | cancelOrder => exact keepsOrder_cancelOrder_sell
  | tradeResponse tradeRspType envelope => exact keepsOrder_tradeResponse_sell
  | releaseNotifyPeer txid =>
      cases txid with
      | none =>
          intro _
          simp [handleRequest]
      | some txid => exact keepsOrder_notifyPeer
  | tradeComplete => exact keepsOrder_tradeComplete_sell horderly
  | _ => exact absurd rfl hquiet

theorem keepsOrder_handleNotif {result : Except N3xbError MakerNotif}
    {self : FatCrabMakerActor} : KeepsOrder message (handleNotif result) history self := by
  obtain ⟨inner, uuid, notifTx⟩ := self
  cases result with
  | error error => exact keepsOrder_quiet trivial
  | ok notif =>
      cases notif with
      | offer envelope =>
          cases inner with
          | buy buy => exact keepsOrder_handleOfferNotif_buy
          | sell sell => exact keepsOrder_handleOfferNotif_sell
      | peer envelope =>
          cases inner with
          | buy buy => exact keepsOrder_handlePeerNotif_buy
          | sell sell => exact keepsOrder_handlePeerNotif_sell

end Handlers

theorem settled_restore {history : History FatCrabMakerActor MakerMsg tradeInterface}
    {self : FatCrabMakerActor} (hsettled : Settled history self) :
    Settled history self.restore := by
  have hstate : self.restore.state = self.state := by
    unfold restore state
    cases self.inner <;> rfl
  simpa only [Settled, Tidy, hstate] using hsettled

theorem settled_start {history : History FatCrabMakerActor MakerMsg tradeInterface}
    {self : FatCrabMakerActor} (hsettled : Settled history self) :
    start.Safe Orderly Tidy (fun history self _ => Settled history self) history self := by
  obtain ⟨⟨hchain, hasked⟩, hzero⟩ := hsettled
  simp [start, Tidy, Settled, asksAccept, hchain, hasked]
  exact fun _ _ _ _ => hzero

/-- The order of the lifecycle is an invariant of the maker's code, as far as the
requests keep to it. -/
theorem settled_invariant : ActorInvariant code Orderly Tidy Settled where
  receive := by
    rintro message history ⟨inner, uuid, notifTx⟩ hsettled horderly
    constructor
    · obtain ⟨⟨hchain, hasked⟩, -⟩ := hsettled
      simp only [Tidy, chain_cons, asked_cons, asksAccept]
      exact ⟨⟨hchain, .refl _⟩, hasked⟩
    cases message with
    | request request =>
        rw [code, safe_handle_request]
        cases inner with
        | buy buy => exact keepsOrder_handleRequest_buy horderly hsettled
        | sell sell => exact keepsOrder_handleRequest_sell horderly hsettled
    | notif result =>
        rw [code, safe_handle_notif]
        exact keepsOrder_handleNotif hsettled
  restart := by
    intro history self hsettled
    have hrestored := settled_restore hsettled
    exact ⟨hrestored.1, settled_start hrestored⟩

/-- In every run of a new maker whose requests keep to the order, each state is an advance
on every earlier one, and at most one acceptance is asked for. -/
theorem lifecycle {self : FatCrabMakerActor}
    {actor : Actor FatCrabMakerActor MakerMsg tradeInterface}
    (hrun : Actor.Steps code (.launch code self) actor)
    (horderly : actor.history.Always Orderly) :
    (∀ entry ∈ actor.history, entry.store.state.Advances actor.store.state) ∧
      asked actor.history ≤ 1 := by
  have hsettled : Settled [] self := ⟨⟨trivial, Nat.zero_le 1⟩, fun _ => rfl⟩
  have hstart : (Actor.launch code self).Holds Orderly Tidy Settled :=
    ⟨hsettled.1, settled_start hsettled⟩
  obtain ⟨⟨hchain, hasked⟩, -⟩ := Actor.Steps.holds settled_invariant hrun horderly hstart
  exact ⟨hchain.advances, hasked⟩

end FatCrabMakerActor

end Lifecycle

section Sample

open Sample

namespace FatCrabMakerActor

/-- The order is posted, withdrawn and nothing else. -/
theorem lifecycle_of_cancelled :
    let actor := (Actor.opened code obliging buyMaker).deliverAll code
      [(obliging, .request .postNewOrder), (obliging, .request .cancelOrder)]
    (∀ entry ∈ actor.history, entry.store.state.Advances actor.store.state) ∧
      asked actor.history ≤ 1 := by
  intro actor
  have hrun : Actor.Steps code (.launch code buyMaker) actor :=
    Actor.steps_opened_deliverAll _ _ _
  exact lifecycle hrun (by decide +kernel)

/-- A completed trade is opened again. -/
theorem reopened : ∃ actor : Actor FatCrabMakerActor MakerMsg tradeInterface,
    Actor.Steps code (.launch code buyMaker) actor ∧
      ∃ entry ∈ actor.history, entry.store.state = .tradeCompleted ∧
        actor.store.state = .waitingForOffers := by
  refine ⟨_, Actor.steps_opened_deliverAll obliging buyMaker
    [(obliging, .request .tradeComplete), (obliging, .request .postNewOrder)], ?_⟩
  decide

end FatCrabMakerActor

end Sample

end FatCrabTrading
