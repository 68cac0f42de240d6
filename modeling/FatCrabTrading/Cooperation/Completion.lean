import FatCrabTrading.Cooperation.Progress
import FatCrabTrading.Cooperation.Trade
import FatCrabTrading.Maker.Coherence

/-! # A cooperative trade is never stuck

Whatever has happened so far, the two sides can go on, by what their users may still ask and
by the messages that are on their way, until both have completed the trade or the offer was
rejected. The phases of the two sides together never go back, and while the trade is not
settled some step takes one of them forward.
-/

namespace FatCrabTrading

open Effect

section Completion

variable [Bitcoin]

namespace FatCrabMakerActor

/-- A maker whose last step was to post its order has posted it. -/
theorem posted_of_phase {history : History FatCrabMakerActor MakerMsg tradeInterface}
    (hphase : phase history = .posted) : posted history = true := by
  induction history with
  | nil => cases hphase
  | cons entry past ih =>
      rw [phase_cons] at hphase
      rw [posted, List.any_cons, Bool.or_eq_true]
      unfold milestone at hphase
      split at hphase
      next => exact .inl rfl
      all_goals first
        | exact .inr (ih hphase)
        | cases hphase

/-- A maker that received an offer has one to respond to. -/
theorem exists_offer {self : FatCrabMakerActor} (hcoherent : self.Coherent)
    (hstate : self.state = .receivedOffer) :
    ∃ offerEnvelope, offerEnvelope ∈ self.offerEnvelopes := by
  obtain ⟨inner, uuid, notifTx⟩ := self
  cases inner with
  | buy buy => exact List.exists_mem_of_ne_nil _ (hcoherent.offers hstate)
  | sell sell => exact List.exists_mem_of_ne_nil _ (hcoherent.offers hstate)

/-- A maker that was notified may be asked to release. -/
theorem mayAsk_releaseNotifyPeer {orderType : FatCrabOrderType} {network : Network}
    {history : History FatCrabMakerActor MakerMsg tradeInterface} {self : FatCrabMakerActor}
    (hcooperates : Cooperates orderType network history self) (hphase : phase history = .notified)
    (fatcrabTxid : String) : MayAsk (.releaseNotifyPeer (some fatcrabTxid)) self history := by
  obtain ⟨inner, uuid, notifTx⟩ := self
  obtain ⟨hplays, hshows, -, -⟩ := hcooperates
  rw [hphase] at hshows
  cases inner with
  | buy buy =>
      cases orderType with
      | sell => exact hplays.elim
      | buy => exact hshows
  | sell sell =>
      cases orderType with
      | buy => exact hplays.elim
      | sell => exact ⟨hshows, rfl⟩

end FatCrabMakerActor

namespace FatCrabTakerActor

/-- A Buy taker that was accepted may be asked to release. -/
theorem mayAsk_releaseNotifyPeer {network : Network}
    {history : History FatCrabTakerActor TakerMsg tradeInterface} {self : FatCrabTakerActor}
    (hcooperates : Cooperates .buy network history self) (hphase : phase history = .accepted)
    (txid : String) : MayAsk (.releaseNotifyPeer (some txid)) self := by
  obtain ⟨inner, uuid, notifTx⟩ := self
  obtain ⟨hplays, hshows, -⟩ := hcooperates
  rw [hphase] at hshows
  cases inner with
  | buy buy => exact ⟨hshows, rfl⟩
  | sell sell => exact hplays.elim

end FatCrabTakerActor

namespace Trade

variable {order : FatCrabOrder} {network : Network} {orderType : FatCrabOrderType}
  {trade next later : Trade} {stage : Stage}

/-! ## What each side relies on -/

theorem At.reliable_toMaker (hat : trade.At orderType network stage) {notif : MakerNotif}
    {before after : List MakerNotif} (hcarried : trade.toMaker = before ++ notif :: after) :
    FatCrabMakerActor.Relies orderType network (.received (.notif (.ok notif)) trade.maker.store)
      trade.maker.history := by
  have hmaker := hat.makerPhase
  have htoMaker := hat.toMaker
  cases stage with
  | taken =>
      obtain ⟨envelope, honly, hvalid⟩ := htoMaker
      obtain ⟨rfl, -⟩ := eq_of_carried honly hcarried
      exact ⟨hmaker, hvalid⟩
  | paid =>
      obtain ⟨envelope, honly, hinforms⟩ := htoMaker
      obtain ⟨rfl, -⟩ := eq_of_carried honly hcarried
      exact ⟨hmaker, hinforms⟩
  | _ =>
      have hnone : trade.toMaker = [] := htoMaker
      rw [hnone] at hcarried
      simp at hcarried

theorem At.reliable_toTaker (hat : trade.At orderType network stage) {notif : TakerNotif}
    {before after : List TakerNotif} (hcarried : trade.toTaker = before ++ notif :: after) :
    FatCrabTakerActor.Relies orderType network (.received (.notif (.ok notif)) trade.taker.store)
      trade.taker.history := by
  have htaker := hat.takerPhase
  have htoTaker := hat.toTaker
  cases stage with
  | accepted =>
      obtain ⟨envelope, honly, haccepts⟩ := htoTaker
      obtain ⟨rfl, -⟩ := eq_of_carried honly hcarried
      exact ⟨htaker, .inl haccepts⟩
  | rejected =>
      obtain ⟨envelope, honly, hrejects⟩ := htoTaker
      obtain ⟨rfl, -⟩ := eq_of_carried honly hcarried
      exact ⟨htaker, .inr hrejects⟩
  | released =>
      obtain ⟨envelope, honly, hinforms⟩ := htoTaker
      obtain ⟨rfl, -⟩ := eq_of_carried honly hcarried
      exact ⟨htaker, hinforms⟩
  | _ =>
      have hnone : trade.toTaker = [] := htoTaker
      rw [hnone] at hcarried
      simp at hcarried

/-- What one step of the trade is to one of its sides. -/
def Moves {σ Msg : Type} (code : Behaviour σ Msg tradeInterface)
    (rely : Entry σ Msg tradeInterface → History σ Msg tradeInterface → Prop)
    (before after : Actor σ Msg tradeInterface) : Prop :=
  after = before ∨ ∃ action, Actor.Step code before action after ∧ before.Reliable rely action

theorem Step.maker (hstep : Step order trade next) (hat : trade.At orderType network stage) :
    Moves FatCrabMakerActor.code (FatCrabMakerActor.Relies orderType network) trade.maker
      next.maker := by
  cases hstep with
  | askMaker hstep hmay => exact .inr ⟨_, hstep, hmay⟩
  | tellMaker hstep hcarried => exact .inr ⟨_, hstep, hat.reliable_toMaker hcarried⟩
  | warnMaker hstep => exact .inr ⟨_, hstep, trivial⟩
  | makerCalls eventId hstep hsucceeds => exact .inr ⟨_, hstep, hsucceeds⟩
  | makerThinks hstep => exact .inr ⟨_, hstep, trivial⟩
  | _ => exact .inl rfl

theorem Step.taker (hstep : Step order trade next) (hat : trade.At orderType network stage) :
    Moves FatCrabTakerActor.code (FatCrabTakerActor.Relies orderType network) trade.taker
      next.taker := by
  cases hstep with
  | askTaker hstep hmay hposted => exact .inr ⟨_, hstep, hmay⟩
  | tellTaker hstep hcarried => exact .inr ⟨_, hstep, hat.reliable_toTaker hcarried⟩
  | warnTaker hstep => exact .inr ⟨_, hstep, trivial⟩
  | takerCalls pubkey eventId hstep hsucceeds => exact .inr ⟨_, hstep, hsucceeds⟩
  | takerThinks hstep => exact .inr ⟨_, hstep, trivial⟩
  | _ => exact .inl rfl

/-- Each step of a side that keeps its contract keeps it, and what it observes is relied on
and guaranteed. -/
theorem Moves.meets {σ Msg : Type} {code : Behaviour σ Msg tradeInterface}
    {rely guarantee : Entry σ Msg tradeInterface → History σ Msg tradeInterface → Prop}
    {between : History σ Msg tradeInterface → σ → Prop} {before after : Actor σ Msg tradeInterface}
    (hmoves : Moves code rely before after) (hcontract : Contract code rely guarantee between)
    (hmeets : before.Meets rely guarantee between) : after.Meets rely guarantee between := by
  rcases hmoves with heq | ⟨action, hstep, hreliable⟩
  · rw [heq]
    exact hmeets
  · exact hstep.meets hcontract hreliable hmeets

/-- A measure of the history that no observation lowers is not lowered by a step. -/
theorem Moves.measure_le {σ Msg : Type} {code : Behaviour σ Msg tradeInterface}
    {rely guarantee : Entry σ Msg tradeInterface → History σ Msg tradeInterface → Prop}
    {between : History σ Msg tradeInterface → σ → Prop} {before after : Actor σ Msg tradeInterface}
    (hmoves : Moves code rely before after) (hafter : after.Meets rely guarantee between)
    (measure : History σ Msg tradeInterface → ℕ)
    (hmeasure : ∀ entry past, rely entry past → guarantee entry past →
      measure past ≤ measure (entry :: past)) :
    measure before.history ≤ measure after.history := by
  rcases hmoves with heq | ⟨action, hstep, hreliable⟩
  · rw [heq]
  · have hhistory := hstep.history
    cases action with
    | receive message | call c reply =>
        rw [hhistory]
        exact hmeasure _ _ hreliable (hafter.guaranteed hhistory)
    | silent => rw [hhistory]

/-! ## Trades that go on -/

/-- What holds of a cooperative trade at every moment. -/
structure Going (order : FatCrabOrder) (network : Network) (trade : Trade) : Prop where
  stage : ∃ stage, trade.At order.orderType network stage
  maker : trade.maker.Meets (FatCrabMakerActor.Relies order.orderType network)
    (FatCrabMakerActor.Guarantees order.orderType network)
    (fun history self => FatCrabMakerActor.Cooperates order.orderType network history self ∧
      FatCrabMakerActor.Unanswered history)
  taker : trade.taker.Meets (FatCrabTakerActor.Relies order.orderType network)
    (FatCrabTakerActor.Guarantees order.orderType network)
    (fun history self => FatCrabTakerActor.Cooperates order.orderType network history self ∧
      FatCrabTakerActor.Remits order.orderType history)
  offers : trade.maker.Holds (fun _ _ => True) (fun _ _ => True)
    (fun _ self => FatCrabMakerActor.Coherent self)

/-- How far the two sides have come together. -/
def rank (trade : Trade) : ℕ :=
  (FatCrabMakerActor.phase trade.maker.history).rank +
    (FatCrabTakerActor.phase trade.taker.history).rank

theorem rank_le (trade : Trade) : trade.rank ≤ 9 := by
  have hmaker : ∀ reached : MakerPhase, reached.rank ≤ 5 := by
    intro reached
    cases reached <;> decide
  have htaker : ∀ reached : TakerPhase, reached.rank ≤ 4 := by
    intro reached
    cases reached <;> decide
  exact Nat.add_le_add (hmaker _) (htaker _)

/-- A step keeps the trade going, and takes neither side back. -/
theorem Going.step (hround : Bitcoin.RoundTrip) (hgoing : Going order network trade)
    (hstep : Step order trade next) : Going order network next ∧ trade.rank ≤ next.rank := by
  obtain ⟨⟨stage, hat⟩, hmaker, htaker, hoffers⟩ := hgoing
  have hmakerMoves := hstep.maker hat
  have htakerMoves := hstep.taker hat
  have hmakerNext := hmakerMoves.meets (FatCrabMakerActor.contract_unanswered hround) hmaker
  have htakerNext := htakerMoves.meets (FatCrabTakerActor.contract_remits hround) htaker
  refine ⟨⟨hstep.at hround hat, hmakerNext, htakerNext, ?_⟩, Nat.add_le_add ?_ ?_⟩
  · rcases hmakerMoves with heq | ⟨action, hmoved, -⟩
    · rw [heq]
      exact hoffers
    · exact hmoved.holds (FatCrabMakerActor.coherent_invariant hround) (History.always_true _)
        hoffers
  · exact hmakerMoves.measure_le hmakerNext
      (fun history => (FatCrabMakerActor.phase history).rank)
      fun _ _ => FatCrabMakerActor.rank_le_cons
  · exact htakerMoves.measure_le htakerNext
      (fun history => (FatCrabTakerActor.phase history).rank)
      fun _ _ => FatCrabTakerActor.rank_le_cons

theorem Going.steps (hround : Bitcoin.RoundTrip) (hgoing : Going order network trade)
    (hsteps : Relation.ReflTransGen (Step order) trade later) :
    Going order network later ∧ trade.rank ≤ later.rank := by
  induction hsteps with
  | refl => exact ⟨hgoing, Nat.le_refl _⟩
  | tail _ hstep ih =>
      obtain ⟨hgoing, hrank⟩ := ih
      obtain ⟨hnext, hstep⟩ := hgoing.step hround hstep
      exact ⟨hnext, hrank.trans hstep⟩

theorem Opens.going {maker : FatCrabMakerActor}
    {taker : FatCrabTakerActor} (hopens : Opens order network maker taker) :
    Going order network
      ⟨Actor.launch FatCrabMakerActor.code maker, Actor.launch FatCrabTakerActor.code taker, [],
        []⟩ := by
  have hat := hopens.at
  have hmaker : FatCrabMakerActor.start.Meets (FatCrabMakerActor.Relies order.orderType network)
      (FatCrabMakerActor.Guarantees order.orderType network) _ [] maker := hat.maker.2
  have htaker : FatCrabTakerActor.start.Meets (FatCrabTakerActor.Relies order.orderType network)
      (FatCrabTakerActor.Guarantees order.orderType network) _ [] taker := hat.taker.2
  have hcreated : maker.Created := by
    cases hopens with
    | buy => exact ⟨_, _, _, rfl⟩
    | sell => exact ⟨_, _, rfl⟩
  refine ⟨⟨.fresh, hat⟩, ⟨trivial, ?_⟩, ⟨trivial, ?_⟩, trivial,
    FatCrabMakerActor.coherent_start hcreated.coherent⟩
  · have hkeep := hmaker.keep
      (fun c reply store past hrelies hguarantees hpast =>
        FatCrabMakerActor.Unanswered.cons hpast rfl hrelies hguarantees) fun _ => rfl
    exact (hmaker.and hkeep).mono fun history self flow h => ⟨h.1.1, h.1.2, h.2⟩
  · have hkeep : FatCrabTakerActor.start.Meets (FatCrabTakerActor.Relies order.orderType network)
        (fun _ _ => True) (fun history _ _ => FatCrabTakerActor.Remits order.orderType history) []
        taker :=
      htaker.keep (fun c reply store past _ _ hpast =>
        hpast.cons (FatCrabTakerActor.milestone_called_ne c reply store)) fun _ => nofun
    exact (htaker.and hkeep).mono fun history self flow h => ⟨h.1.1, h.1.2, h.2⟩

theorem Reachable.going (hround : Bitcoin.RoundTrip) (hreachable : Reachable order network trade) :
    Going order network trade := by
  obtain ⟨maker, taker, hopens, hrun⟩ := hreachable
  exact (hopens.going.steps hround hrun).1

/-! ## Handlers are finished -/

section Handlers

variable {answers : (c : TradeCall) → c.Reply}

/-- A side that has finished its handler waits for the next message. -/
theorem idle_of_meets {σ Msg : Type}
    {rely guarantee : Entry σ Msg tradeInterface → History σ Msg tradeInterface → Prop}
    {between : History σ Msg tradeInterface → σ → Prop} {τ : Type}
    {result : Program.Result σ (History σ Msg tradeInterface × τ) Flow}
    (hmeets : (settle result).Meets rely guarantee between) : (settle result).task = .idle := by
  obtain ⟨-, htask⟩ := hmeets
  rcases result with ⟨(_ | _) | _, store, environment⟩
  · rfl
  · exact htask.elim
  · exact htask.elim

theorem idle_of_done {σ Msg τ : Type}
    {result : Program.Result σ (History σ Msg tradeInterface × τ) Flow}
    (hdone : result.outcome = .done .next) : (settle result).task = .idle := by
  unfold settle
  rw [hdone]
  rfl

theorem Going.restMaker (hround : Bitcoin.RoundTrip)
    (hsucceeds : ∀ c : TradeCall, c.Succeeds (answers c)) (hgoing : Going order network trade) :
    ∃ later, Relation.ReflTransGen (Step order) trade later ∧ later.maker.task = .idle ∧
      later.taker = trade.taker := by
  obtain ⟨⟨store, task, history⟩, taker, toMaker, toTaker⟩ := trade
  cases task with
  | idle => exact ⟨_, .refl, rfl, rfl⟩
  | running program =>
      have hrun := @steps_runMaker _ order answers hsucceeds program store history
        ⟨⟨store, .running program, history⟩, taker, toMaker, toTaker⟩
      exact ⟨_, hrun, idle_of_meets (hgoing.steps hround hrun).1.maker, rfl⟩
  | ended => exact hgoing.maker.2.elim
  | dead => exact hgoing.maker.2.elim

theorem Going.restTaker (hround : Bitcoin.RoundTrip)
    (hsucceeds : ∀ c : TradeCall, c.Succeeds (answers c)) (hgoing : Going order network trade) :
    ∃ later, Relation.ReflTransGen (Step order) trade later ∧ later.taker.task = .idle ∧
      later.maker = trade.maker := by
  obtain ⟨maker, ⟨store, task, history⟩, toMaker, toTaker⟩ := trade
  cases task with
  | idle => exact ⟨_, .refl, rfl, rfl⟩
  | running program =>
      have hrun := @steps_runTaker _ order answers hsucceeds program store history
        ⟨maker, ⟨store, .running program, history⟩, toMaker, toTaker⟩
      exact ⟨_, hrun, idle_of_meets (hgoing.steps hround hrun).1.taker, rfl⟩
  | ended => exact hgoing.taker.2.elim
  | dead => exact hgoing.taker.2.elim

/-- Both sides wait. -/
def Rests (trade : Trade) : Prop := trade.maker.task = .idle ∧ trade.taker.task = .idle

theorem Going.rest (hround : Bitcoin.RoundTrip)
    (hsucceeds : ∀ c : TradeCall, c.Succeeds (answers c)) (hgoing : Going order network trade) :
    ∃ later, Relation.ReflTransGen (Step order) trade later ∧ later.Rests := by
  obtain ⟨middle, hfirst, hmaker, -⟩ := hgoing.restMaker hround hsucceeds
  obtain ⟨later, hsecond, htaker, hsame⟩ :=
    (hgoing.steps hround hfirst).1.restTaker hround hsucceeds
  refine ⟨later, hfirst.trans hsecond, ?_, htaker⟩
  rw [hsame]
  exact hmaker

/-- The maker's user asks, and the maker serves the request. -/
theorem ask_maker (hsucceeds : ∀ c : TradeCall, c.Succeeds (answers c)) (hrests : trade.Rests)
    {request : FatCrabMakerRequest}
    (hmay : FatCrabMakerActor.MayAsk request trade.maker.store trade.maker.history)
    {post : History FatCrabMakerActor MakerMsg tradeInterface → FatCrabMakerActor → Prop}
    (hreaches : FatCrabMakerActor.Reaches orderType network
      (FatCrabMakerActor.handleRequest request)
      (.received (.request request) trade.maker.store :: trade.maker.history) trade.maker.store
      post) :
    ∃ later, Relation.ReflTransGen (Step order) trade later ∧ later.Rests ∧
      later.taker = trade.taker ∧ post later.maker.history later.maker.store := by
  obtain ⟨⟨store, task, history⟩, taker, toMaker, toTaker⟩ := trade
  obtain ⟨rfl, htaker⟩ := hrests
  have hhandle : FatCrabMakerActor.handle (.request request) = do
      FatCrabMakerActor.handleRequest request
      return .next := by
    cases request with
    | shutdown => exact hmay.elim
    | _ => rfl
  have hmeets : (FatCrabMakerActor.handle (.request request)).Meets
      (FatCrabMakerActor.Relies orderType network) (fun _ _ => True)
      (fun history self flow => flow = .next ∧ post history self)
      (.received (.request request) store :: history) store := by
    rw [hhandle]
    exact (Program.meets_bind ..).mpr (hreaches.mono fun history self _ hpost => ⟨rfl, hpost⟩)
  obtain ⟨_, hdone, rfl, hpost⟩ := @Program.Meets.exec _ _ _ _ _ _ _ _ _
    (makerSurroundings answers) Prod.fst (fun _ _ _ => rfl) (fun _ _ c => hsucceeds c) _
    (.received (.request request) store :: history, toTaker) hmeets
  refine ⟨_, .head (.askMaker (.receive (MakerMsg.request request)) hmay)
    (steps_runMaker hsucceeds _ _ _ _), ⟨?_, htaker⟩, rfl, hpost⟩
  exact idle_of_done hdone

/-- The taker's user asks, and the taker serves the request. -/
theorem ask_taker (hsucceeds : ∀ c : TradeCall, c.Succeeds (answers c)) (hrests : trade.Rests)
    {request : FatCrabTakerRequest}
    (hmay : FatCrabTakerActor.MayAsk request trade.taker.store)
    (hposted : request = .takeOrder → FatCrabMakerActor.posted trade.maker.history = true)
    {post : History FatCrabTakerActor TakerMsg tradeInterface → FatCrabTakerActor → Prop}
    (hreaches : FatCrabTakerActor.Reaches orderType network
      (FatCrabTakerActor.handleRequest request)
      (.received (.request request) trade.taker.store :: trade.taker.history) trade.taker.store
      post) :
    ∃ later, Relation.ReflTransGen (Step order) trade later ∧ later.Rests ∧
      later.maker = trade.maker ∧ post later.taker.history later.taker.store := by
  obtain ⟨maker, ⟨store, task, history⟩, toMaker, toTaker⟩ := trade
  obtain ⟨hmaker, rfl⟩ := hrests
  have hhandle : FatCrabTakerActor.handle (.request request) = do
      FatCrabTakerActor.handleRequest request
      return .next := by
    cases request with
    | shutdown => exact hmay.elim
    | _ => rfl
  have hmeets : (FatCrabTakerActor.handle (.request request)).Meets
      (FatCrabTakerActor.Relies orderType network) (fun _ _ => True)
      (fun history self flow => flow = .next ∧ post history self)
      (.received (.request request) store :: history) store := by
    rw [hhandle]
    exact (Program.meets_bind ..).mpr (hreaches.mono fun history self _ hpost => ⟨rfl, hpost⟩)
  obtain ⟨_, hdone, rfl, hpost⟩ := @Program.Meets.exec _ _ _ _ _ _ _ _ _
    (takerSurroundings order answers) Prod.fst (fun _ _ _ => rfl) (fun _ _ c => hsucceeds c) _
    (.received (.request request) store :: history, toMaker) hmeets
  refine ⟨_, .head (.askTaker (.receive (TakerMsg.request request)) hmay hposted)
    (steps_runTaker hsucceeds _ _ _ _), ⟨hmaker, ?_⟩, rfl, hpost⟩
  exact idle_of_done hdone

/-! ## The next phase -/

/-- A stage after which no message is sent and no phase begins. -/
def Stage.Final : Stage → Prop
  | .finished => True
  | .refused => True
  | _ => False

/-- A message to the maker that is on its way arrives. -/
theorem advance_of_toMaker (hrests : trade.Rests) (hat : trade.At orderType network stage)
    {notif : MakerNotif} {carried : List MakerNotif} (htoMaker : trade.toMaker = notif :: carried)
    {reached : MakerPhase}
    (hreached : FatCrabMakerActor.milestone (.received (.notif (.ok notif)) trade.maker.store) =
      some reached) (hfurther : stage.maker.rank < reached.rank) :
    ∃ later, Step order trade later ∧ trade.rank < later.rank := by
  obtain ⟨⟨store, task, history⟩, taker, toMaker, toTaker⟩ := trade
  obtain ⟨rfl, -⟩ := hrests
  have hphase : FatCrabMakerActor.phase history = stage.maker := hat.makerPhase
  refine ⟨_, @Step.tellMaker _ _ _ _ notif [] carried (.receive (MakerMsg.notif (.ok notif)))
    htoMaker, ?_⟩
  unfold rank
  dsimp only at hreached ⊢
  rw [FatCrabMakerActor.phase_cons, hreached, hphase]
  exact Nat.add_lt_add_right hfurther _

theorem advance_of_toTaker (hrests : trade.Rests) (hat : trade.At orderType network stage)
    {notif : TakerNotif} {carried : List TakerNotif} (htoTaker : trade.toTaker = notif :: carried)
    {reached : TakerPhase}
    (hreached : FatCrabTakerActor.milestone (.received (.notif (.ok notif)) trade.taker.store) =
      some reached) (hfurther : stage.taker.rank < reached.rank) :
    ∃ later, Step order trade later ∧ trade.rank < later.rank := by
  obtain ⟨maker, ⟨store, task, history⟩, toMaker, toTaker⟩ := trade
  obtain ⟨-, rfl⟩ := hrests
  have hphase : FatCrabTakerActor.phase history = stage.taker := hat.takerPhase
  refine ⟨_, @Step.tellTaker _ _ _ _ notif [] carried (.receive (TakerMsg.notif (.ok notif)))
    htoTaker, ?_⟩
  unfold rank
  dsimp only at hreached ⊢
  rw [FatCrabTakerActor.phase_cons, hreached, hphase]
  exact Nat.add_lt_add_left hfurther _

/-- A request of the maker's user begins a later phase. -/
theorem advance_of_maker (hat : trade.At orderType network stage)
    (htaker : later.taker = trade.taker)
    (hfurther : stage.maker.rank < (FatCrabMakerActor.phase later.maker.history).rank) :
    trade.rank < later.rank := by
  unfold rank
  rw [htaker, hat.makerPhase]
  exact Nat.add_lt_add_right hfurther _

theorem advance_of_taker (hat : trade.At orderType network stage)
    (hmaker : later.maker = trade.maker)
    (hfurther : stage.taker.rank < (FatCrabTakerActor.phase later.taker.history).rank) :
    trade.rank < later.rank := by
  unfold rank
  rw [hmaker, hat.takerPhase]
  exact Nat.add_lt_add_left hfurther _

theorem Going.cooperates_maker (hgoing : Going order network trade) (hrests : trade.Rests) :
    FatCrabMakerActor.Cooperates order.orderType network trade.maker.history trade.maker.store ∧
      FatCrabMakerActor.Unanswered trade.maker.history ∧ trade.maker.store.Coherent := by
  obtain ⟨-, ⟨-, hmaker⟩, -, ⟨-, hoffers⟩⟩ := hgoing
  rw [hrests.1] at hmaker hoffers
  exact ⟨hmaker.1, hmaker.2, hoffers⟩

theorem Going.cooperates_taker (hgoing : Going order network trade) (hrests : trade.Rests) :
    FatCrabTakerActor.Cooperates order.orderType network trade.taker.history trade.taker.store ∧
      FatCrabTakerActor.Remits order.orderType trade.taker.history := by
  obtain ⟨-, -, ⟨-, htaker⟩, -⟩ := hgoing
  rw [hrests.2] at htaker
  exact htaker

/-- The maker's user registers a listener and posts the order. -/
theorem Going.post (hround : Bitcoin.RoundTrip)
    (hsucceeds : ∀ c : TradeCall, c.Succeeds (answers c)) (hgoing : Going order network trade)
    (hrests : trade.Rests) (hphase : FatCrabMakerActor.phase trade.maker.history = .fresh) :
    ∃ later, Relation.ReflTransGen (Step order) trade later ∧ later.taker = trade.taker ∧
      FatCrabMakerActor.phase later.maker.history = .posted := by
  obtain ⟨middle, hfirst, hrests, hsame, hmiddle, hlistening⟩ :=
    @ask_maker _ order network order.orderType trade _ hsucceeds hrests
      (.registerNotifTx ⟨0⟩) trivial _ (FatCrabMakerActor.reaches_registerNotifTx ⟨0⟩)
  have hfresh : FatCrabMakerActor.phase middle.maker.history = .fresh := hmiddle.trans hphase
  obtain ⟨⟨-, hshows, -, -⟩, -, -⟩ := (hgoing.steps hround hfirst).1.cooperates_maker hrests
  rw [hfresh] at hshows
  obtain ⟨later, hsecond, -, hsame', hposted⟩ :=
    @ask_maker _ order network order.orderType middle _ hsucceeds hrests .postNewOrder
      ⟨hshows, hlistening⟩ _ FatCrabMakerActor.reaches_postNewOrder
  exact ⟨later, hfirst.trans hsecond, hsame'.trans hsame, hposted⟩

/-- The taker's user registers a listener and takes the order. -/
theorem Going.take (hround : Bitcoin.RoundTrip)
    (hsucceeds : ∀ c : TradeCall, c.Succeeds (answers c)) (hgoing : Going order network trade)
    (hrests : trade.Rests) (hphase : FatCrabTakerActor.phase trade.taker.history = .fresh)
    (hposted : FatCrabMakerActor.posted trade.maker.history = true) :
    ∃ later, Relation.ReflTransGen (Step order) trade later ∧ later.maker = trade.maker ∧
      FatCrabTakerActor.phase later.taker.history = .taken := by
  obtain ⟨middle, hfirst, hrests, hsame, hmiddle, hlistening⟩ :=
    @ask_taker _ order network order.orderType trade _ hsucceeds hrests
      (.registerNotifTx ⟨0⟩) trivial nofun _ (FatCrabTakerActor.reaches_registerNotifTx ⟨0⟩)
  have hfresh : FatCrabTakerActor.phase middle.taker.history = .fresh := hmiddle.trans hphase
  obtain ⟨⟨-, hshows, -⟩, -⟩ := (hgoing.steps hround hfirst).1.cooperates_taker hrests
  rw [hfresh] at hshows
  rw [← hsame] at hposted
  obtain ⟨later, hsecond, -, hsame', htaken⟩ :=
    @ask_taker _ order network order.orderType middle _ hsucceeds hrests .takeOrder
      ⟨hshows, hlistening⟩ (fun _ => hposted) _ FatCrabTakerActor.reaches_takeOrder
  exact ⟨later, hfirst.trans hsecond, hsame'.trans hsame, htaken⟩

/-- The maker's user accepts an offer that is stored. -/
theorem Going.accept (hround : Bitcoin.RoundTrip)
    (hsucceeds : ∀ c : TradeCall, c.Succeeds (answers c)) (hgoing : Going order network trade)
    (hrests : trade.Rests) (hphase : FatCrabMakerActor.phase trade.maker.history = .offered) :
    ∃ later, Relation.ReflTransGen (Step order) trade later ∧ later.taker = trade.taker ∧
      FatCrabMakerActor.phase later.maker.history = .accepted := by
  obtain ⟨hcooperates, hunanswered, hcoherent⟩ := hgoing.cooperates_maker hrests
  have hshows := hcooperates.shows
  rw [hphase] at hshows
  have hopen : FatCrabMakerActor.responded trade.maker.history = false :=
    hunanswered (by rw [hphase])
  obtain ⟨offerEnvelope, hoffer⟩ := FatCrabMakerActor.exists_offer hcoherent hshows
  obtain ⟨later, hsteps, -, hsame, haccepted⟩ :=
    @ask_maker _ order network order.orderType trade _ hsucceeds hrests
      (.tradeResponse .accept offerEnvelope) ⟨hshows, hoffer, hopen⟩ _
      (FatCrabMakerActor.reaches_tradeResponse hround (hcooperates.observe rfl) .accept
        offerEnvelope)
  exact ⟨later, hsteps, hsame, haccepted⟩

/-- The maker's user releases. -/
theorem Going.releaseMaker (hsucceeds : ∀ c : TradeCall, c.Succeeds (answers c))
    (hround : Bitcoin.RoundTrip) (hgoing : Going order network trade) (hrests : trade.Rests)
    (hphase : FatCrabMakerActor.phase trade.maker.history = .notified) :
    ∃ later, Relation.ReflTransGen (Step order) trade later ∧ later.taker = trade.taker ∧
      FatCrabMakerActor.phase later.maker.history = .released := by
  obtain ⟨hcooperates, -, -⟩ := hgoing.cooperates_maker hrests
  let request : FatCrabMakerRequest := .releaseNotifyPeer (some "txid")
  have hobserved : FatCrabMakerActor.phase
      (.received (.request request) trade.maker.store :: trade.maker.history) = .notified := hphase
  obtain ⟨later, hsteps, -, hsame, hreleased⟩ :=
    @ask_maker _ order network order.orderType trade _ hsucceeds hrests request
      (FatCrabMakerActor.mayAsk_releaseNotifyPeer hcooperates hphase "txid") _
      (FatCrabMakerActor.reaches_releaseNotifyPeer hround (hcooperates.observe rfl) hobserved
        "txid")
  exact ⟨later, hsteps, hsame, hreleased⟩

/-- The user of a Buy taker releases. A Sell taker has done so before it waits. -/
theorem Going.releaseTaker (hsucceeds : ∀ c : TradeCall, c.Succeeds (answers c))
    (hround : Bitcoin.RoundTrip) (hgoing : Going order network trade) (hrests : trade.Rests)
    (hphase : FatCrabTakerActor.phase trade.taker.history = .accepted) :
    ∃ later, Relation.ReflTransGen (Step order) trade later ∧ later.maker = trade.maker ∧
      FatCrabTakerActor.phase later.taker.history = .sent := by
  obtain ⟨hcooperates, hremits⟩ := hgoing.cooperates_taker hrests
  cases htype : order.orderType with
  | sell => exact absurd hphase (hremits htype)
  | buy =>
      rw [htype] at hcooperates
      obtain ⟨later, hsteps, -, hsame, hsent⟩ :=
        @ask_taker _ order network .buy trade _ hsucceeds hrests
          (.releaseNotifyPeer (some "txid"))
          (FatCrabTakerActor.mayAsk_releaseNotifyPeer hcooperates hphase "txid") nofun _
          (FatCrabTakerActor.reaches_releaseNotifyPeer hround (hcooperates.observe rfl) "txid")
      exact ⟨later, hsteps, hsame, hsent⟩

theorem Going.advance (hround : Bitcoin.RoundTrip)
    (hsucceeds : ∀ c : TradeCall, c.Succeeds (answers c)) (hgoing : Going order network trade)
    (hrests : trade.Rests) (hat : trade.At order.orderType network stage) (hopen : ¬stage.Final) :
    ∃ later, Relation.ReflTransGen (Step order) trade later ∧ trade.rank < later.rank := by
  have hmaker := hat.makerPhase
  have htaker := hat.takerPhase
  cases stage with
  | fresh =>
      obtain ⟨later, hsteps, hsame, hphase⟩ := hgoing.post hround hsucceeds hrests hmaker
      exact ⟨later, hsteps, advance_of_maker hat hsame (by rw [hphase]; decide)⟩
  | posted =>
      obtain ⟨later, hsteps, hsame, hphase⟩ := hgoing.take hround hsucceeds hrests htaker
        (FatCrabMakerActor.posted_of_phase hmaker)
      exact ⟨later, hsteps, advance_of_taker hat hsame (by rw [hphase]; decide)⟩
  | taken =>
      obtain ⟨envelope, honly, -⟩ := hat.toMaker
      obtain ⟨later, hstep, hrank⟩ := @advance_of_toMaker _ order _ _ _ _ hrests hat _ _ honly
        .offered rfl (by decide)
      exact ⟨later, .single hstep, hrank⟩
  | offered =>
      obtain ⟨later, hsteps, hsame, hphase⟩ := hgoing.accept hround hsucceeds hrests hmaker
      exact ⟨later, hsteps, advance_of_maker hat hsame (by rw [hphase]; decide)⟩
  | accepted =>
      obtain ⟨envelope, honly, receiveAddress, hread, -⟩ := hat.toTaker
      obtain ⟨later, hstep, hrank⟩ := @advance_of_toTaker _ order _ _ _ _ hrests hat _ _ honly
        .accepted (by rw [FatCrabTakerActor.milestone, hread]) (by decide)
      exact ⟨later, .single hstep, hrank⟩
  | rejected =>
      obtain ⟨envelope, honly, hrejects⟩ := hat.toTaker
      have hread : FatCrabTradeRsp.fromN3xbTradeRsp envelope.tradeRsp = some .reject := hrejects
      obtain ⟨later, hstep, hrank⟩ := @advance_of_toTaker _ order _ _ _ _ hrests hat _ _ honly
        .rejected (by rw [FatCrabTakerActor.milestone, hread]) (by decide)
      exact ⟨later, .single hstep, hrank⟩
  | agreed =>
      obtain ⟨later, hsteps, hsame, hphase⟩ := hgoing.releaseTaker hsucceeds hround hrests htaker
      exact ⟨later, hsteps, advance_of_taker hat hsame (by rw [hphase]; decide)⟩
  | paid =>
      obtain ⟨envelope, honly, -⟩ := hat.toMaker
      obtain ⟨later, hstep, hrank⟩ := @advance_of_toMaker _ order _ _ _ _ hrests hat _ _ honly
        .notified rfl (by decide)
      exact ⟨later, .single hstep, hrank⟩
  | informed =>
      obtain ⟨later, hsteps, hsame, hphase⟩ := hgoing.releaseMaker hsucceeds hround hrests hmaker
      exact ⟨later, hsteps, advance_of_maker hat hsame (by rw [hphase]; decide)⟩
  | released =>
      obtain ⟨envelope, honly, -⟩ := hat.toTaker
      obtain ⟨later, hstep, hrank⟩ := @advance_of_toTaker _ order _ _ _ _ hrests hat _ _ honly
        .notified rfl (by decide)
      exact ⟨later, .single hstep, hrank⟩
  | refused | finished => exact absurd trivial hopen

/-- The users of both sides complete the trade, if they have not yet. -/
theorem Going.completeMaker (hsucceeds : ∀ c : TradeCall, c.Succeeds (answers c))
    (hgoing : Going order network trade) (hrests : trade.Rests)
    (hphase : FatCrabMakerActor.phase trade.maker.history = .released) :
    ∃ later, Relation.ReflTransGen (Step order) trade later ∧ later.Rests ∧
      later.taker = trade.taker ∧ FatCrabMakerActor.phase later.maker.history = .released ∧
      later.maker.store.state = .tradeCompleted := by
  have hshows := (hgoing.cooperates_maker hrests).1.shows
  rw [hphase] at hshows
  rcases hshows with hnotified | hcompleted
  · obtain ⟨later, hsteps, hlater, hsame, hreleased, hstate⟩ :=
      @ask_maker _ order network order.orderType trade _ hsucceeds hrests .tradeComplete
        hnotified _ FatCrabMakerActor.reaches_tradeComplete
    exact ⟨later, hsteps, hlater, hsame, hreleased.trans hphase, hstate⟩
  · exact ⟨trade, .refl, hrests, rfl, hphase, hcompleted⟩

theorem Going.completeTaker (hsucceeds : ∀ c : TradeCall, c.Succeeds (answers c))
    (hgoing : Going order network trade) (hrests : trade.Rests)
    (hphase : FatCrabTakerActor.phase trade.taker.history = .notified) :
    ∃ later, Relation.ReflTransGen (Step order) trade later ∧ later.Rests ∧
      later.maker = trade.maker ∧ FatCrabTakerActor.phase later.taker.history = .notified ∧
      later.taker.store.state = .tradeCompleted := by
  have hshows := (hgoing.cooperates_taker hrests).1.shows
  rw [hphase] at hshows
  rcases hshows with hcompleted | hinbound
  · exact ⟨trade, .refl, hrests, rfl, hphase, hcompleted⟩
  · have hmay : FatCrabTakerActor.MayAsk .tradeComplete trade.taker.store := by
      cases htype : order.orderType with
      | buy =>
          rw [htype] at hinbound
          exact .inl hinbound
      | sell =>
          rw [htype] at hinbound
          exact .inr hinbound
    obtain ⟨later, hsteps, hlater, hsame, hnotified, hstate⟩ :=
      @ask_taker _ order network order.orderType trade _ hsucceeds hrests .tradeComplete hmay
        nofun _ FatCrabTakerActor.reaches_tradeComplete
    exact ⟨later, hsteps, hlater, hsame, hnotified.trans hphase, hstate⟩

/-- The end of a trade: both sides wait, nothing is on its way, and both have completed the
trade or the taker knows that its offer was rejected. -/
structure Settled (trade : Trade) : Prop where
  rests : trade.Rests
  toMaker : trade.toMaker = []
  toTaker : trade.toTaker = []
  states : trade.maker.store.state = .tradeCompleted ∧ trade.taker.store.state = .tradeCompleted ∨
    trade.maker.store.state = .receivedOffer ∧ trade.taker.store.state = .offerRejected

/-- A trade at its last stage is settled once its users have completed it. -/
theorem Going.settle (hround : Bitcoin.RoundTrip)
    (hsucceeds : ∀ c : TradeCall, c.Succeeds (answers c)) (hgoing : Going order network trade)
    (hrests : trade.Rests) (hat : trade.At order.orderType network stage) (hfinal : stage.Final) :
    ∃ settled, Relation.ReflTransGen (Step order) trade settled ∧ settled.Settled := by
  have hmaker := hat.makerPhase
  have htaker := hat.takerPhase
  cases stage with
  | refused =>
      have hmakerShows := (hgoing.cooperates_maker hrests).1.shows
      have htakerShows := (hgoing.cooperates_taker hrests).1.shows
      rw [hmaker] at hmakerShows
      rw [htaker] at htakerShows
      exact ⟨trade, .refl, hrests, hat.toMaker, hat.toTaker, .inr ⟨hmakerShows, htakerShows⟩⟩
  | finished =>
      obtain ⟨middle, hfirst, hmiddle, hsame, hreleased, hcompleted⟩ :=
        hgoing.completeMaker hsucceeds hrests hmaker
      rw [← hsame] at htaker
      obtain ⟨later, hsecond, hlater, hsame', hnotified, hcompleted'⟩ :=
        (hgoing.steps hround hfirst).1.completeTaker hsucceeds hmiddle htaker
      have hsteps := hfirst.trans hsecond
      rw [← hsame'] at hreleased hcompleted
      obtain ⟨reached, hreached⟩ := (hgoing.steps hround hsteps).1.stage
      have hmakerReached := hreached.makerPhase.symm.trans hreleased
      have htakerReached := hreached.takerPhase.symm.trans hnotified
      -- no other stage has both phases
      cases reached with
      | finished =>
          exact ⟨later, hsteps, hlater, hreached.toMaker, hreached.toTaker,
            .inl ⟨hcompleted, hcompleted'⟩⟩
      | released => cases htakerReached
      | _ => cases hmakerReached
  | _ => exact hfinal.elim

/-- A trade that goes on can be brought to its end. The induction is on what is left of the
phases. -/
theorem Going.settles (hround : Bitcoin.RoundTrip)
    (hsucceeds : ∀ c : TradeCall, c.Succeeds (answers c)) (hgoing : Going order network trade) :
    ∃ settled, Relation.ReflTransGen (Step order) trade settled ∧ settled.Settled := by
  induction hleft : 9 - trade.rank using Nat.strong_induction_on generalizing trade with
  | _ left ih =>
      obtain ⟨rested, hrest, hrests⟩ := hgoing.rest hround hsucceeds
      obtain ⟨hgoing, hrank⟩ := hgoing.steps hround hrest
      obtain ⟨stage, hat⟩ := hgoing.stage
      by_cases hfinal : stage.Final
      · obtain ⟨settled, hend, hsettled⟩ := hgoing.settle hround hsucceeds hrests hat hfinal
        exact ⟨settled, hrest.trans hend, hsettled⟩
      · obtain ⟨later, hsteps, hfurther⟩ := hgoing.advance hround hsucceeds hrests hat hfinal
        have hbound := rank_le later
        obtain ⟨settled, hend, hsettled⟩ :=
          ih (9 - later.rank) (by omega) (hgoing.steps hround hsteps).1 rfl
        exact ⟨settled, (hrest.trans hsteps).trans hend, hsettled⟩

end Handlers

/-- Whatever has happened in a cooperative trade, it can still be brought to its end, as long
as the purses and n3xB go on answering. -/
theorem never_stuck (hround : Bitcoin.RoundTrip) {answers : (c : TradeCall) → c.Reply}
    (hsucceeds : ∀ c : TradeCall, c.Succeeds (answers c))
    (hreachable : Reachable order network trade) :
    ∃ settled, Relation.ReflTransGen (Step order) trade settled ∧ settled.Settled :=
  (hreachable.going hround).settles hround hsucceeds

/-! ## Where the two sides stand -/

/-- The states in which both sides can wait, with the numbers of messages on their way to the
maker and to the taker. -/
inductive Stands (orderType : FatCrabOrderType) :
    FatCrabMakerState → FatCrabTakerState → ℕ → ℕ → Prop where
  | fresh : Stands orderType .new .new 0 0
  | posted : Stands orderType .waitingForOffers .new 0 0
  | taken : Stands orderType .waitingForOffers .submittedOffer 1 0
  | offered : Stands orderType .receivedOffer .submittedOffer 0 0
  | accepted : Stands orderType .acceptedOffer .submittedOffer 0 1
  | rejected : Stands orderType .receivedOffer .submittedOffer 0 1
  | agreed (hbuy : orderType = .buy) : Stands orderType .acceptedOffer .offerAccepted 0 0
  | refused : Stands orderType .receivedOffer .offerRejected 0 0
  | paid : Stands orderType .acceptedOffer .notifiedOutbound 1 0
  | informedBuy (hbuy : orderType = .buy) :
      Stands orderType .inboundFcNotified .notifiedOutbound 0 0
  | informedSell (hsell : orderType = .sell) :
      Stands orderType .inboundBtcNotified .notifiedOutbound 0 0
  | released {maker : FatCrabMakerState}
      (hmaker : maker = .notifiedOutbound ∨ maker = .tradeCompleted) :
      Stands orderType maker .notifiedOutbound 0 1
  | finishedBuy {maker : FatCrabMakerState} {taker : FatCrabTakerState} (hbuy : orderType = .buy)
      (hmaker : maker = .notifiedOutbound ∨ maker = .tradeCompleted)
      (htaker : taker = .inboundBtcNotified ∨ taker = .tradeCompleted) :
      Stands orderType maker taker 0 0
  | finishedSell {maker : FatCrabMakerState} {taker : FatCrabTakerState}
      (hsell : orderType = .sell) (hmaker : maker = .notifiedOutbound ∨ maker = .tradeCompleted)
      (htaker : taker = .inboundFcNotified ∨ taker = .tradeCompleted) :
      Stands orderType maker taker 0 0

omit [Bitcoin] in
theorem Stands.congr {maker maker' : FatCrabMakerState} {taker taker' : FatCrabTakerState}
    {toMaker toMaker' : List MakerNotif} {toTaker toTaker' : List TakerNotif}
    (hstands : Stands orderType maker taker toMaker.length toTaker.length)
    (hmaker : maker' = maker) (htaker : taker' = taker) (htoMaker : toMaker' = toMaker)
    (htoTaker : toTaker' = toTaker) :
    Stands orderType maker' taker' toMaker'.length toTaker'.length := by
  rw [hmaker, htaker, htoMaker, htoTaker]
  exact hstands

/-- Whenever both sides wait, their states fit together and to what is on its way: neither has
gone on without the message of the other that it needs. -/
theorem stands_of_reachable (hround : Bitcoin.RoundTrip)
    (hreachable : Reachable order network trade) (hrests : trade.Rests) :
    Stands order.orderType trade.maker.store.state trade.taker.store.state trade.toMaker.length
      trade.toTaker.length := by
  have hgoing := hreachable.going hround
  obtain ⟨stage, hat⟩ := hgoing.stage
  obtain ⟨⟨-, hmaker, -, -⟩, -, -⟩ := hgoing.cooperates_maker hrests
  obtain ⟨⟨-, htaker, -⟩, hremits⟩ := hgoing.cooperates_taker hrests
  rw [hat.makerPhase] at hmaker
  rw [hat.takerPhase] at htaker
  rw [FatCrabTakerActor.Remits, hat.takerPhase] at hremits
  have htoMaker := hat.toMaker
  have htoTaker := hat.toTaker
  cases stage with
  | fresh => exact Stands.fresh.congr hmaker htaker htoMaker htoTaker
  | posted => exact Stands.posted.congr hmaker htaker htoMaker htoTaker
  | taken =>
      obtain ⟨envelope, honly, -⟩ := htoMaker
      exact Stands.taken.congr hmaker htaker honly htoTaker
  | offered => exact Stands.offered.congr hmaker htaker htoMaker htoTaker
  | accepted =>
      obtain ⟨envelope, honly, -⟩ := htoTaker
      exact Stands.accepted.congr hmaker htaker htoMaker honly
  | rejected =>
      obtain ⟨envelope, honly, -⟩ := htoTaker
      exact Stands.rejected.congr hmaker htaker htoMaker honly
  | agreed =>
      have hbuy : order.orderType = .buy := by
        cases htype : order.orderType with
        | buy => rfl
        | sell => exact absurd rfl (hremits htype)
      exact (Stands.agreed hbuy).congr hmaker htaker htoMaker htoTaker
  | refused => exact Stands.refused.congr hmaker htaker htoMaker htoTaker
  | paid =>
      obtain ⟨envelope, honly, -⟩ := htoMaker
      exact Stands.paid.congr hmaker htaker honly htoTaker
  | informed =>
      cases htype : order.orderType with
      | buy =>
          rw [htype] at hmaker
          exact (Stands.informedBuy rfl).congr hmaker htaker htoMaker htoTaker
      | sell =>
          rw [htype] at hmaker
          exact (Stands.informedSell rfl).congr hmaker htaker htoMaker htoTaker
  | released =>
      obtain ⟨envelope, honly, -⟩ := htoTaker
      exact (Stands.released hmaker).congr rfl htaker htoMaker honly
  | finished =>
      cases htype : order.orderType with
      | buy =>
          rw [htype] at htaker
          exact (Stands.finishedBuy rfl hmaker htaker.symm).congr rfl rfl htoMaker htoTaker
      | sell =>
          rw [htype] at htaker
          exact (Stands.finishedSell rfl hmaker htaker.symm).congr rfl rfl htoMaker htoTaker

end Trade

end Completion

section Sample

open Sample

namespace Trade

/-- Bob has just been told that Alice accepts, and is about to pay. -/
theorem never_stuck_accepting : ∃ trade notif settled,
    trade.taker.task = .running (FatCrabTakerActor.handle (.notif (.ok notif))) ∧
      trade.taker.store.state = .submittedOffer ∧
      Relation.ReflTransGen (Step (order .sell)) trade settled ∧ settled.Settled := by
  let played := (script.take 6).foldlM (play (order .sell) obliging) begun
  obtain ⟨trade, htrade⟩ : ∃ trade, played = some trade :=
    Option.isSome_iff_exists.mp (by decide +kernel)
  have hstate : played.map (fun trade => trade.taker.store.state) = some .submittedOffer := by
    decide +kernel
  have hrests : played.map (fun trade => decide (trade.taker.task = .idle)) = some true := by
    decide +kernel
  have hcarried : played.map (fun trade => trade.toTaker.length) = some 1 := by
    decide +kernel
  rw [htrade] at hstate hrests hcarried
  obtain ⟨alice, bob, hopens, hrun⟩ := reachable_script htrade
  obtain ⟨maker, ⟨store, task, history⟩, toMaker, toTaker⟩ := trade
  obtain rfl : task = .idle := of_decide_eq_true (Option.some.inj hrests)
  obtain ⟨notif, rfl⟩ := List.length_eq_one_iff.mp (Option.some.inj hcarried)
  let told : Trade :=
    ⟨maker, ⟨store, .running (FatCrabTakerActor.handle (.notif (.ok notif))),
      .received (.notif (.ok notif)) store :: history⟩, toMaker, []⟩
  have htold : Step (order .sell) ⟨maker, ⟨store, .idle, history⟩, toMaker, [notif]⟩ told :=
    @Step.tellTaker _ _ _ _ notif [] [] (.receive (TakerMsg.notif (.ok notif))) rfl
  obtain ⟨settled, hsteps, hsettled⟩ :=
    never_stuck roundTrip obliging_succeeds ⟨alice, bob, hopens, hrun.tail htold⟩
  exact ⟨told, notif, settled, rfl, Option.some.inj hstate, hsteps, hsettled⟩

/-- Alice's sale, up to her acceptance of Bob's offer: he pays at once. -/
def untilPaid : List Event := script.take 7

theorem stands_of_reachable_paid : ∃ trade, untilPaid.foldlM (play (order .sell) obliging) begun =
    some trade ∧ trade.taker.store.state = .notifiedOutbound ∧
      Stands .sell trade.maker.store.state trade.taker.store.state trade.toMaker.length
        trade.toTaker.length := by
  let played := untilPaid.foldlM (play (order .sell) obliging) begun
  obtain ⟨trade, htrade⟩ : ∃ trade, played = some trade :=
    Option.isSome_iff_exists.mp (by decide +kernel)
  have hstate : played.map (fun trade => trade.taker.store.state) = some .notifiedOutbound := by
    decide +kernel
  have hrests : played.map (fun trade => decide (trade.maker.task = .idle) &&
      decide (trade.taker.task = .idle)) = some true := by
    decide +kernel
  rw [htrade] at hstate hrests
  have hidle := Option.some.inj hrests
  rw [Bool.and_eq_true, decide_eq_true_eq, decide_eq_true_eq] at hidle
  exact ⟨trade, htrade, Option.some.inj hstate,
    stands_of_reachable roundTrip (reachable_script htrade) hidle⟩

end Trade

end Sample

end FatCrabTrading
