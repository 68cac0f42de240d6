import FatCrabTrading.Sample
import FatCrabTrading.Taker.Quiet

/-! # The lifecycle of a taker

The states are ordered from `New` to `TradeCompleted`; a rejected offer and a completed
trade are the ends. The notifications are served in their state only, the requests in any,
so the order holds in the runs whose requests keep to it.
-/

namespace FatCrabTrading

open Effect Program

namespace FatCrabTakerState

/-- The place of a state in the lifecycle. -/
def rank : FatCrabTakerState → ℕ
  | .new => 0
  | .submittedOffer => 1
  | .offerAccepted => 2
  | .offerRejected => 2
  | .notifiedOutbound => 3
  | .inboundBtcNotified => 4
  | .inboundFcNotified => 4
  | .tradeCompleted => 5

/-- The states in which a trade ends. -/
def Terminal (state : FatCrabTakerState) : Prop :=
  state = .offerRejected ∨ state = .tradeCompleted

/-- The moves of the lifecycle: to stay, or to go up. -/
def Advances (before after : FatCrabTakerState) : Prop :=
  before = after ∨ ¬ before.Terminal ∧ before.rank < after.rank

/-- The states that only an accepted offer leads to. -/
def Engaged (state : FatCrabTakerState) : Prop :=
  state = .offerAccepted ∨ state = .notifiedOutbound ∨ state = .inboundBtcNotified ∨
    state = .inboundFcNotified

instance (state : FatCrabTakerState) : Decidable state.Terminal :=
  inferInstanceAs (Decidable (_ ∨ _))

instance (before after : FatCrabTakerState) : Decidable (before.Advances after) :=
  inferInstanceAs (Decidable (_ ∨ _ ∧ _))

instance (state : FatCrabTakerState) : Decidable state.Engaged :=
  inferInstanceAs (Decidable (_ ∨ _ ∨ _ ∨ _))

@[simp] theorem Advances.refl (state : FatCrabTakerState) : state.Advances state := .inl rfl

theorem Advances.trans {first second third : FatCrabTakerState} (hfirst : first.Advances second)
    (hsecond : second.Advances third) : first.Advances third := by
  rcases hfirst with rfl | ⟨hopen, hfirst⟩
  · exact hsecond
  rcases hsecond with rfl | ⟨-, hsecond⟩
  · exact .inr ⟨hopen, hfirst⟩
  · exact .inr ⟨hopen, hfirst.trans hsecond⟩

instance : IsTrans FatCrabTakerState Advances := ⟨fun _ _ _ => Advances.trans⟩

theorem advances_submittedOffer {state : FatCrabTakerState}
    (h : state = .new ∨ state = .submittedOffer) : state.Advances .submittedOffer := by
  rcases h with rfl | rfl <;> decide

theorem advances_notifiedOutbound {state : FatCrabTakerState}
    (h : state = .offerAccepted ∨ state = .notifiedOutbound) :
    state.Advances .notifiedOutbound := by
  rcases h with rfl | rfl <;> decide

theorem engaged_of_accepted {state : FatCrabTakerState}
    (h : state = .offerAccepted ∨ state = .notifiedOutbound) : state.Engaged := by
  rcases h with rfl | rfl <;> decide

theorem advances_tradeCompleted {state : FatCrabTakerState} (h : state ≠ .offerRejected) :
    state.Advances .tradeCompleted := by
  revert h
  cases state <;> decide

end FatCrabTakerState

section Lifecycle

variable [Bitcoin]

namespace FatCrabTakerActor

/-- A taker that processes trade responses: a Buy taker drops them without a listener. -/
def processesTradeRsp (taker : FatCrabTakerActor) : Bool :=
  decide (taker.state = .submittedOffer) &&
    match taker.inner with
    | .buy actor => actor.notifTx.isSome
    | .sell _ => true

/-- Whether an observation is an acceptance of the submitted offer that is processed. -/
def accepts : Entry FatCrabTakerActor TakerMsg tradeInterface → Bool
  | .received (.notif (.ok (.tradeRsp envelope))) taker =>
      taker.processesTradeRsp &&
        match FatCrabTradeRsp.fromN3xbTradeRsp envelope.tradeRsp with
        | some (.accept _) => true
        | _ => false
  | _ => false

/-- An acceptance of the submitted offer was processed. -/
def Accepted (history : History FatCrabTakerActor TakerMsg tradeInterface) : Prop :=
  history.any accepts = true

@[simp] theorem accepted_cons (entry : Entry FatCrabTakerActor TakerMsg tradeInterface)
    (past : History FatCrabTakerActor TakerMsg tradeInterface) :
    Accepted (entry :: past) ↔ accepts entry = true ∨ Accepted past := by
  unfold Accepted
  rw [List.any_cons, Bool.or_eq_true]

/-- The requests keep to the order of the lifecycle, as far as they have an effect. -/
def Orderly (entry : Entry FatCrabTakerActor TakerMsg tradeInterface)
    (_ : History FatCrabTakerActor TakerMsg tradeInterface) : Prop :=
  match entry with
  | .received (.request .tradeComplete) taker => taker.state ≠ .offerRejected
  | .called (.n3xb .takeOrder) (.ok _) taker =>
      taker.state = .new ∨ taker.state = .submittedOffer
  | .called (.n3xb (.sendPeerMessage _)) (.ok _) taker =>
      taker.state = .offerAccepted ∨ taker.state = .notifiedOutbound
  | _ => True

instance (entry : Entry FatCrabTakerActor TakerMsg tradeInterface)
    (past : History FatCrabTakerActor TakerMsg tradeInterface) :
    Decidable (Orderly entry past) := by
  unfold Orderly
  split <;> infer_instance

/-- The states so far climb, and the taker is engaged only by an acceptance. -/
def Climbing (history : History FatCrabTakerActor TakerMsg tradeInterface)
    (taker : FatCrabTakerActor) : Prop :=
  history.Climbs state FatCrabTakerState.Advances taker.state ∧
    (taker.state.Engaged → Accepted history)

/-- An observation leaves the taker where it is. -/
theorem Climbing.observe {history : History FatCrabTakerActor TakerMsg tradeInterface}
    {entry : Entry FatCrabTakerActor TakerMsg tradeInterface}
    (hclimbing : Climbing history entry.store) : Climbing (entry :: history) entry.store := by
  obtain ⟨hclimbs, hengaged⟩ := hclimbing
  refine ⟨⟨hclimbs, .refl _⟩, fun h => ?_⟩
  rw [accepted_cons]
  exact .inr (hengaged h)

theorem Climbing.stay {history : History FatCrabTakerActor TakerMsg tradeInterface}
    {before after : FatCrabTakerActor} (hclimbing : Climbing history before)
    (hstate : after.state = before.state) : Climbing history after := by
  unfold Climbing at hclimbing ⊢
  rw [hstate]
  exact hclimbing

/-- A program keeps a climbing taker climbing. -/
def KeepsClimbing (program : Handler FatCrabTakerActor Unit)
    (history : History FatCrabTakerActor TakerMsg tradeInterface) (taker : FatCrabTakerActor) :
    Prop :=
  Climbing history taker →
    program.Safe Orderly Climbing (fun history taker _ => Climbing history taker) history taker

section Handlers

attribute [local simp] Climbing accepts Orderly

variable {history : History FatCrabTakerActor TakerMsg tradeInterface}
  {buy : FatCrabTakerBuyActor} {sell : FatCrabTakerSellActor} {uuid : Uuid}
  {notifTx : Option NotifTx}

/-- Programs that leave the trade alone. -/
theorem keepsClimbing_quiet {program : Handler FatCrabTakerActor Unit}
    {taker : FatCrabTakerActor} (honly : program.Only SameTrade TradeCall.Quiet) :
    KeepsClimbing program history taker := by
  intro hclimbing
  refine honly.safe (fun _ _ h => h) (fun _ _ _ h => h) ?_ ?_ hclimbing
  · intro history before after hbefore hsame
    apply hbefore.stay
    rcases hsame with rfl | ⟨tx, rfl⟩
    · rfl
    · obtain ⟨inner, uuid, notifTx⟩ := before
      cases inner <;> rfl
  · intro history taker c reply hbefore _
    exact hbefore.observe

theorem keepsClimbing_takeOrder {inner : FatCrabTakerInnerActor} :
    KeepsClimbing takeOrder history ⟨inner, uuid, notifTx⟩ := by
  intro ⟨hclimbs, hengaged⟩
  cases inner with
  | buy buy =>
      simp only [state_buy] at hclimbs hengaged
      simp +decide [takeOrder, setState, forall_except, hclimbs]
      exact ⟨fun _ => hengaged, fun hstate =>
        ⟨hengaged, FatCrabTakerState.advances_submittedOffer hstate⟩⟩
  | sell sell =>
      simp only [state_sell] at hclimbs hengaged
      simp +decide [takeOrder, setState, forall_except, hclimbs]
      exact ⟨fun _ => hengaged, fun hstate =>
        ⟨hengaged, FatCrabTakerState.advances_submittedOffer hstate⟩⟩

theorem keepsClimbing_notifyPeer {txid : String} :
    KeepsClimbing (focus buy? putBuy (FatCrabTakerBuyActor.notifyPeer txid)) history
      ⟨.buy buy, uuid, notifTx⟩ := by
  intro ⟨hclimbs, hengaged⟩
  simp only [state_buy] at hclimbs hengaged
  simp [FatCrabTakerBuyActor.notifyPeer, forall_except, hclimbs]
  intro address _
  refine ⟨fun _ => hengaged, fun hstate => ⟨hengaged, ?_, fun _ => ?_⟩⟩
  · exact FatCrabTakerState.advances_notifiedOutbound hstate
  · exact hengaged (FatCrabTakerState.engaged_of_accepted hstate)

/-- A release leaves the taker as it is; where it succeeds, n3xB took the peer message. -/
theorem safe_releaseBtcNotifyPeer
    (hclimbing : Climbing history ⟨.sell sell, uuid, notifTx⟩) :
    (focus sell? putSell FatCrabTakerSellActor.releaseBtcNotifyPeer).Safe Orderly Climbing
      (fun history taker result => taker = ⟨.sell sell, uuid, notifTx⟩ ∧
        Climbing history taker ∧ (result = .ok () →
          sell.data.state = .offerAccepted ∨ sell.data.state = .notifiedOutbound))
      history ⟨.sell sell, uuid, notifTx⟩ := by
  obtain ⟨hclimbs, hengaged⟩ := hclimbing
  simp only [state_sell] at hclimbs hengaged
  cases haddress : sell.data.peerBtcAddr with
  | none =>
      simp [FatCrabTakerSellActor.releaseBtcNotifyPeer, haddress, hclimbs]
      exact hengaged
  | some text =>
      simp [FatCrabTakerSellActor.releaseBtcNotifyPeer, haddress]
      intro address _
      by_cases hvalid : Bitcoin.isValidForNetwork address sell.network
      · simp [hvalid, forall_except, hclimbs]
        intro reply
        exact ⟨hengaged, fun _ _ => hengaged, fun _ _ => ⟨fun _ => hengaged,
          fun hstate => ⟨hengaged, hstate⟩⟩⟩
      · simp [hvalid, hclimbs]
        exact hengaged

theorem keepsClimbing_releaseNotifyPeer :
    KeepsClimbing (focus sell? putSell FatCrabTakerSellActor.releaseNotifyPeer) history
      ⟨.sell sell, uuid, notifTx⟩ := by
  intro hclimbing
  simp only [FatCrabTakerSellActor.releaseNotifyPeer, focus_bind, safe_bind]
  apply (safe_releaseBtcNotifyPeer hclimbing).mono
  intro history taker result ⟨hsame, ⟨hclimbs, hengaged⟩, haccepted⟩
  subst hsame
  simp only [state_sell] at hclimbs hengaged
  cases result with
  | error error =>
      simp [hclimbs]
      exact hengaged
  | ok done =>
      have hstate := haccepted rfl
      have hadvances := FatCrabTakerState.advances_notifiedOutbound hstate
      have hengaged := hengaged (FatCrabTakerState.engaged_of_accepted hstate)
      have hnotified := hclimbs.advance hadvances
      simp [hnotified, hengaged]

theorem keepsClimbing_tradeComplete_buy (hopen : buy.data.state ≠ .offerRejected) :
    KeepsClimbing (focus buy? putBuy FatCrabTakerBuyActor.tradeComplete) history
      ⟨.buy buy, uuid, notifTx⟩ := by
  intro hclimbing
  have hcompleted := hclimbing.1.advance (FatCrabTakerState.advances_tradeCompleted hopen)
  simp +decide [FatCrabTakerBuyActor.tradeComplete, forall_except, hcompleted]

theorem keepsClimbing_tradeComplete_sell (hopen : sell.data.state ≠ .offerRejected) :
    KeepsClimbing (focus sell? putSell FatCrabTakerSellActor.tradeComplete) history
      ⟨.sell sell, uuid, notifTx⟩ := by
  intro hclimbing
  have hcompleted := hclimbing.1.advance (FatCrabTakerState.advances_tradeCompleted hopen)
  simp +decide [FatCrabTakerSellActor.tradeComplete, forall_except, hcompleted]

/-- The accepted offer, as it is served. -/
theorem accepted_of_received {envelope : TradeResponseEnvelope} {taker : FatCrabTakerActor}
    {address : String}
    (hreceived : .received (.notif (.ok (.tradeRsp envelope))) taker ∈ history)
    (hprocesses : taker.processesTradeRsp = true)
    (haccept : FatCrabTradeRsp.fromN3xbTradeRsp envelope.tradeRsp = some (.accept address)) :
    Accepted history := by
  refine List.any_eq_true.mpr ⟨_, hreceived, ?_⟩
  simp [hprocesses, haccept]

theorem keepsClimbing_handleTradeRspNotif_buy {envelope : TradeResponseEnvelope}
    (hreceived :
      .received (.notif (.ok (.tradeRsp envelope))) ⟨.buy buy, uuid, notifTx⟩ ∈ history) :
    KeepsClimbing (handleTradeRspNotif envelope) history ⟨.buy buy, uuid, notifTx⟩ := by
  intro ⟨hclimbs, hengaged⟩
  by_cases hstate : buy.data.state = .submittedOffer
  swap
  · simp only [state_buy] at hclimbs hengaged
    simp [handleTradeRspNotif, hstate, hclimbs]
    exact hengaged
  simp only [state_buy, hstate] at hclimbs
  simp [handleTradeRspNotif, hstate]
  intro tradeRsp hrsp
  cases htx : buy.notifTx with
  | none =>
      simp +decide [FatCrabTakerBuyActor.handleTradeRspNotif, htx, hclimbs, hstate]
  | some listener =>
      cases tradeRsp with
      | accept address =>
          have haccepted := accepted_of_received hreceived
            (by simp [processesTradeRsp, hstate, htx])
            hrsp
          have hmoved : history.Climbs state FatCrabTakerState.Advances .offerAccepted :=
            hclimbs.advance (by decide)
          simp +decide [FatCrabTakerBuyActor.handleTradeRspNotif, htx, hclimbs, hstate, hmoved,
            haccepted, FatCrabTakerBuyActor.tradeRspState]
      | reject =>
          have hmoved : history.Climbs state FatCrabTakerState.Advances .offerRejected :=
            hclimbs.advance (by decide)
          simp +decide [FatCrabTakerBuyActor.handleTradeRspNotif, htx, hclimbs, hstate, hmoved,
            FatCrabTakerBuyActor.tradeRspState]

theorem safe_notifyTradeRsp {tradeRsp : FatCrabTradeRsp} {envelope : TradeResponseEnvelope}
    (hclimbing : Climbing history ⟨.sell sell, uuid, notifTx⟩) :
    (focus sell? putSell (FatCrabTakerSellActor.notifyTradeRsp tradeRsp envelope)).Safe Orderly
      Climbing (fun history taker _ => Climbing history taker) history
      ⟨.sell sell, uuid, notifTx⟩ := by
  obtain ⟨hclimbs, hengaged⟩ := hclimbing
  simp only [state_sell] at hclimbs hengaged
  cases htx : sell.notifTx with
  | none =>
      simp [FatCrabTakerSellActor.notifyTradeRsp, htx, hclimbs]
      exact hengaged
  | some listener =>
      simp [FatCrabTakerSellActor.notifyTradeRsp, htx, hclimbs]
      exact hengaged

theorem keepsClimbing_handleTradeRspNotif_sell {envelope : TradeResponseEnvelope}
    (hreceived :
      .received (.notif (.ok (.tradeRsp envelope))) ⟨.sell sell, uuid, notifTx⟩ ∈ history) :
    KeepsClimbing (handleTradeRspNotif envelope) history ⟨.sell sell, uuid, notifTx⟩ := by
  intro ⟨hclimbs, hengaged⟩
  by_cases hstate : sell.data.state = .submittedOffer
  swap
  · simp only [state_sell] at hclimbs hengaged
    simp [handleTradeRspNotif, hstate, hclimbs]
    exact hengaged
  simp only [state_sell, hstate] at hclimbs
  simp [handleTradeRspNotif, hstate]
  intro tradeRsp hrsp
  cases tradeRsp with
  | accept address =>
      have haccepted := accepted_of_received hreceived (by simp [processesTradeRsp, hstate]) hrsp
      have hmoved : history.Climbs state FatCrabTakerState.Advances .offerAccepted :=
        hclimbs.advance (by decide)
      simp +decide [FatCrabTakerSellActor.handleTradeRspNotif, hstate, hclimbs, hmoved,
        haccepted]
      rw [safe_bind]
      -- `OfferAccepted` is set before the payment, so a failed payment leaves it there
      refine (safe_releaseBtcNotifyPeer ⟨hmoved, fun _ => haccepted⟩).mono ?_
      intro later taker result ⟨hsame, hclimbing, _⟩
      subst hsame
      cases result with
      | error error => exact safe_notifyTradeRsp hclimbing
      | ok done =>
          have hadvances : FatCrabTakerState.offerAccepted.Advances .notifiedOutbound := by decide
          have hnotified := hclimbing.1.advance hadvances
          have haccepted := hclimbing.2 (.inl rfl)
          exact ⟨⟨hnotified, fun _ => haccepted⟩,
            safe_notifyTradeRsp ⟨hnotified, fun _ => haccepted⟩⟩
  | reject =>
      have hadvances : FatCrabTakerState.submittedOffer.Advances .offerRejected := by decide
      simp +decide [FatCrabTakerSellActor.handleTradeRspNotif, hstate, hclimbs]
      intro reply _ _ _ _
      refine safe_notifyTradeRsp ⟨⟨?_, ?_⟩, fun hengaged => ?_⟩
      · rw [← hstate] at hclimbs
        exact hclimbs
      · rw [← hstate] at hadvances
        exact hadvances
      · have hnot : ¬ FatCrabTakerState.offerRejected.Engaged := by decide
        exact absurd hengaged hnot

theorem keepsClimbing_handlePeerNotif_buy {envelope : PeerEnvelope} :
    KeepsClimbing (handlePeerNotif envelope) history ⟨.buy buy, uuid, notifTx⟩ := by
  intro ⟨hclimbs, hengaged⟩
  by_cases hstate : buy.data.state = .notifiedOutbound
  swap
  · simp only [state_buy] at hclimbs hengaged
    simp [handlePeerNotif, hstate, hclimbs]
    exact hengaged
  simp only [state_buy, hstate] at hclimbs hengaged
  have haccepted := hengaged (by decide)
  have hmoved : history.Climbs state FatCrabTakerState.Advances .inboundBtcNotified :=
    hclimbs.advance (by decide)
  simp [handlePeerNotif, hstate, FatCrabTakerBuyActor.handlePeerNotif]
  intro content _
  cases Bitcoin.txidFromStr content.txid with
  | none => cases notifTx <;> simp [hstate, hclimbs, hmoved, haccepted]
  | some txid => cases notifTx <;> simp [hstate, hclimbs, hmoved, haccepted]

theorem keepsClimbing_handlePeerNotif_sell {envelope : PeerEnvelope} :
    KeepsClimbing (handlePeerNotif envelope) history ⟨.sell sell, uuid, notifTx⟩ := by
  intro ⟨hclimbs, hengaged⟩
  by_cases hstate : sell.data.state = .notifiedOutbound
  swap
  · simp only [state_sell] at hclimbs hengaged
    simp [handlePeerNotif, hstate, hclimbs]
    exact hengaged
  simp only [state_sell, hstate] at hclimbs hengaged
  have haccepted := hengaged (by decide)
  have hmoved : history.Climbs state FatCrabTakerState.Advances .inboundFcNotified :=
    hclimbs.advance (by decide)
  simp [handlePeerNotif, hstate]
  intro content _
  cases notifTx <;> simp [hclimbs, hmoved, haccepted]

theorem keepsClimbing_handleRequest {request : FatCrabTakerRequest} {taker : FatCrabTakerActor}
    (horderly : Orderly (.received (.request request) taker) []) :
    KeepsClimbing (handleRequest request) history taker := by
  obtain ⟨inner, uuid, notifTx⟩ := taker
  by_cases hquiet : request.quiet = true
  · exact keepsClimbing_quiet (only_quiet hquiet)
  cases request with
  | takeOrder => exact keepsClimbing_takeOrder
  | releaseNotifyPeer txid =>
      cases inner with
      | buy buy =>
          cases txid with
          | none =>
              intro _
              simp [handleRequest]
          | some txid => exact keepsClimbing_notifyPeer
      | sell sell => exact keepsClimbing_releaseNotifyPeer
  | tradeComplete =>
      cases inner with
      | buy buy => exact keepsClimbing_tradeComplete_buy horderly
      | sell sell => exact keepsClimbing_tradeComplete_sell horderly
  | _ => exact absurd rfl hquiet

theorem keepsClimbing_handleNotif {result : Except N3xbError TakerNotif}
    {taker : FatCrabTakerActor} (hreceived : .received (.notif result) taker ∈ history) :
    KeepsClimbing (handleNotif result) history taker := by
  obtain ⟨inner, uuid, notifTx⟩ := taker
  cases result with
  | error error => exact keepsClimbing_quiet trivial
  | ok notif =>
      cases notif with
      | tradeRsp envelope =>
          cases inner with
          | buy buy => exact keepsClimbing_handleTradeRspNotif_buy hreceived
          | sell sell => exact keepsClimbing_handleTradeRspNotif_sell hreceived
      | peer envelope =>
          cases inner with
          | buy buy => exact keepsClimbing_handlePeerNotif_buy
          | sell sell => exact keepsClimbing_handlePeerNotif_sell

end Handlers

theorem climbing_restore {history : History FatCrabTakerActor TakerMsg tradeInterface}
    {taker : FatCrabTakerActor} (hclimbing : Climbing history taker) :
    Climbing history taker.restore := by
  apply hclimbing.stay
  unfold restore state
  cases taker.inner <;> rfl

theorem climbing_start {history : History FatCrabTakerActor TakerMsg tradeInterface}
    {taker : FatCrabTakerActor} (hclimbing : Climbing history taker) :
    start.Safe Orderly Climbing (fun history taker _ => Climbing history taker) history taker := by
  simp only [start, n3xb_eq, call_bind, pure_bind, safe_call]
  intro reply _
  refine ⟨hclimbing.observe, ?_⟩
  rw [safe_unwrapOk_bind]
  exact fun _ _ => hclimbing.observe

/-- The order of the lifecycle is an invariant of the taker's code, as far as the requests
keep to it. -/
theorem climbing_invariant : ActorInvariant code Orderly Climbing Climbing where
  receive := by
    intro message history taker hclimbing horderly
    refine ⟨hclimbing.observe, ?_⟩
    cases message with
    | request request =>
        rw [code, safe_handle_request]
        exact keepsClimbing_handleRequest horderly hclimbing.observe
    | notif result =>
        rw [code, safe_handle_notif]
        exact keepsClimbing_handleNotif List.mem_cons_self hclimbing.observe
  restart := by
    intro history taker hclimbing
    have hrestored := climbing_restore hclimbing
    exact ⟨hrestored, climbing_start hrestored⟩

/-- In every run of a new taker whose requests keep to the order, each state is an advance
on every earlier one, and it notifies its peer only after an acceptance of its offer. -/
theorem climbs {taker : FatCrabTakerActor} {actor : Actor FatCrabTakerActor TakerMsg tradeInterface}
    (hnew : taker.state = .new) (hrun : Actor.Steps code (.launch code taker) actor)
    (horderly : actor.history.Always Orderly) :
    (∀ entry ∈ actor.history, entry.store.state.Advances actor.store.state) ∧
      (actor.store.state = .notifiedOutbound → Accepted actor.history) := by
  have hclimbing : Climbing [] taker := by
    refine ⟨trivial, fun hengaged => ?_⟩
    rw [hnew] at hengaged
    exact absurd hengaged (by decide)
  have hstart : (Actor.launch code taker).Holds Orderly Climbing Climbing :=
    ⟨hclimbing, climbing_start hclimbing⟩
  obtain ⟨⟨hclimbs, hengaged⟩, -⟩ := Actor.Steps.holds climbing_invariant hrun horderly hstart
  exact ⟨hclimbs.all, fun hstate => hengaged (.inr (.inl hstate))⟩

end FatCrabTakerActor

end Lifecycle

section Sample

open Sample

namespace FatCrabTakerActor

/-- Bob takes an order to sell, Alice accepts, and he pays at once. -/
def paying : List (((c : TradeCall) → c.Reply) × TakerMsg) :=
  let specifics : SerdeGeneric := .fatCrabMakeTradeRspSpecifics ⟨SampleAddress.alice.text⟩
  [(obliging, .request .takeOrder),
    (obliging, .notif (.ok (.tradeRsp ⟨"response", ⟨"offer", .accepted, none, some specifics⟩⟩)))]

theorem climbs_paying :
    let actor := (Actor.opened code obliging sellTaker).deliverAll code paying
    actor.store.state = .notifiedOutbound ∧
      (∀ entry ∈ actor.history, entry.store.state.Advances actor.store.state) ∧
      (actor.store.state = .notifiedOutbound → Accepted actor.history) := by
  intro actor
  have hrun : Actor.Steps code (.launch code sellTaker) actor :=
    Actor.steps_opened_deliverAll _ _ _
  exact ⟨by decide +kernel, climbs rfl hrun (by decide +kernel)⟩

/-- A completed trade is taken again. -/
theorem taken_again : ∃ actor : Actor FatCrabTakerActor TakerMsg tradeInterface,
    Actor.Steps code (.launch code buyTaker) actor ∧
      ∃ entry ∈ actor.history, entry.store.state = .tradeCompleted ∧
        actor.store.state = .submittedOffer := by
  refine ⟨_, Actor.steps_opened_deliverAll obliging buyTaker
    [(obliging, .request .tradeComplete), (obliging, .request .takeOrder)], ?_⟩
  decide

end FatCrabTakerActor

end Sample

end FatCrabTrading
