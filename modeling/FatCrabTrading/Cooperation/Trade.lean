import FatCrabTrading.Cooperation.Maker
import FatCrabTrading.Cooperation.Taker
import FatCrabTrading.Sample

/-! # No message of a cooperative trade is dropped

One maker and one taker of an order run beside each other. A message travels from the moment
when its sender calls n3xB, while the sender's handler is still running, and arrives once, in
any order and after any delay. At any moment at most one message is on its way, and whoever
is to get it will be waiting in the state for it.
-/

namespace FatCrabTrading

open Effect

section Trade

variable [Bitcoin]

/-- What a maker's call sends to the taker. -/
def TradeCall.toTaker (eventId : String) : TradeCall → List TakerNotif
  | .n3xb (.acceptOffer tradeRsp) => [.tradeRsp ⟨eventId, tradeRsp⟩]
  | .n3xb (.rejectOffer tradeRsp) => [.tradeRsp ⟨eventId, tradeRsp⟩]
  | .n3xb (.sendPeerMessage message) => [.peer ⟨eventId, message⟩]
  | _ => []

/-- What a taker's call sends to the maker; the offer is the one made for the order. -/
def TradeCall.toMaker (order : FatCrabOrder) (pubkey eventId : String) :
    TradeCall → List MakerNotif
  | .n3xb .takeOrder => [.offer ⟨pubkey, eventId, createN3xbOffer order⟩]
  | .n3xb (.sendPeerMessage message) => [.peer ⟨eventId, message⟩]
  | _ => []

/-- The two sides of a trade, and the messages on their way. -/
structure Trade where
  maker : Actor FatCrabMakerActor MakerMsg tradeInterface
  taker : Actor FatCrabTakerActor TakerMsg tradeInterface
  toMaker : List MakerNotif
  toTaker : List TakerNotif

namespace Trade

/-- One step of either side. Users ask as they may, and for an order only once it is posted;
every call succeeds. -/
inductive Step (order : FatCrabOrder) : Trade → Trade → Prop where
  | askMaker {trade next} {request : FatCrabMakerRequest}
      (hstep : Actor.Step FatCrabMakerActor.code trade.maker (.receive (.request request)) next)
      (hmay : FatCrabMakerActor.MayAsk request trade.maker.store trade.maker.history) :
      Step order trade { trade with maker := next }
  | tellMaker {trade next notif before after}
      (hstep : Actor.Step FatCrabMakerActor.code trade.maker (.receive (.notif (.ok notif))) next)
      (hcarried : trade.toMaker = before ++ notif :: after) :
      Step order trade { trade with maker := next, toMaker := before ++ after }
  | warnMaker {trade next error}
      (hstep : Actor.Step FatCrabMakerActor.code trade.maker (.receive (.notif (.error error)))
        next) :
      Step order trade { trade with maker := next }
  | makerCalls {trade next} {c : TradeCall} {reply : c.Reply} (eventId : String)
      (hstep : Actor.Step FatCrabMakerActor.code trade.maker (.call c reply) next)
      (hsucceeds : c.Succeeds reply) :
      Step order trade { trade with maker := next, toTaker := c.toTaker eventId ++ trade.toTaker }
  | makerThinks {trade next}
      (hstep : Actor.Step FatCrabMakerActor.code trade.maker .silent next) :
      Step order trade { trade with maker := next }
  | askTaker {trade next} {request : FatCrabTakerRequest}
      (hstep : Actor.Step FatCrabTakerActor.code trade.taker (.receive (.request request)) next)
      (hmay : FatCrabTakerActor.MayAsk request trade.taker.store)
      (hposted : request = .takeOrder → FatCrabMakerActor.posted trade.maker.history = true) :
      Step order trade { trade with taker := next }
  | tellTaker {trade next notif before after}
      (hstep : Actor.Step FatCrabTakerActor.code trade.taker (.receive (.notif (.ok notif))) next)
      (hcarried : trade.toTaker = before ++ notif :: after) :
      Step order trade { trade with taker := next, toTaker := before ++ after }
  | warnTaker {trade next error}
      (hstep : Actor.Step FatCrabTakerActor.code trade.taker (.receive (.notif (.error error)))
        next) :
      Step order trade { trade with taker := next }
  | takerCalls {trade next} {c : TradeCall} {reply : c.Reply} (pubkey eventId : String)
      (hstep : Actor.Step FatCrabTakerActor.code trade.taker (.call c reply) next)
      (hsucceeds : c.Succeeds reply) :
      Step order trade
        { trade with taker := next, toMaker := c.toMaker order pubkey eventId ++ trade.toMaker }
  | takerThinks {trade next}
      (hstep : Actor.Step FatCrabTakerActor.code trade.taker .silent next) :
      Step order trade { trade with taker := next }

/-- A new maker and a new taker of the order, on one network. The address of the one that is
paid came from its purse. -/
inductive Opens (order : FatCrabOrder) (network : Network) :
    FatCrabMakerActor → FatCrabTakerActor → Prop where
  | buy {orderEnvelope : FatCrabOrderEnvelope} {fatcrabRxAddr : String} {btcFundsId : Uuid}
      {btcRxAddr : Address} (htype : order.orderType = .buy) (horder : orderEnvelope.order = order)
      (hvalid : Bitcoin.isValidForNetwork btcRxAddr network = true) :
      Opens order network
        ⟨.buy ⟨order.tradeUuid, .new order fatcrabRxAddr btcFundsId, network⟩, order.tradeUuid,
          none⟩
        ⟨.buy ⟨order.tradeUuid, .new orderEnvelope btcRxAddr, network, none⟩, order.tradeUuid,
          none⟩
  | sell {orderEnvelope : FatCrabOrderEnvelope} {fatcrabRxAddr : String} {btcFundsId : Uuid}
      {btcRxAddr : Address} (htype : order.orderType = .sell)
      (horder : orderEnvelope.order = order)
      (hvalid : Bitcoin.isValidForNetwork btcRxAddr network = true) :
      Opens order network
        ⟨.sell ⟨order.tradeUuid, .new order btcRxAddr, network⟩, order.tradeUuid, none⟩
        ⟨.sell ⟨order.tradeUuid, .new orderEnvelope fatcrabRxAddr btcFundsId none, network, none⟩,
          order.tradeUuid, none⟩

/-- What a cooperative trade can come to. -/
def Reachable (order : FatCrabOrder) (network : Network) (trade : Trade) : Prop :=
  ∃ maker taker, Opens order network maker taker ∧
    Relation.ReflTransGen (Step order)
      ⟨Actor.launch FatCrabMakerActor.code maker, Actor.launch FatCrabTakerActor.code taker, [], []⟩
      trade

/-! ## The stages of a trade -/

/-- Where a trade stands, by what was sent and received last. -/
inductive Stage where
  | fresh
  | posted
  | taken
  | offered
  | accepted
  | rejected
  | agreed
  | refused
  | paid
  | informed
  | released
  | finished

namespace Stage

/-- How far the maker has come. -/
def maker : Stage → MakerPhase
  | .fresh => .fresh
  | .posted => .posted
  | .taken => .posted
  | .offered => .offered
  | .accepted => .accepted
  | .rejected => .rejected
  | .agreed => .accepted
  | .refused => .rejected
  | .paid => .accepted
  | .informed => .notified
  | .released => .released
  | .finished => .released

/-- How far the taker has come. -/
def taker : Stage → TakerPhase
  | .fresh => .fresh
  | .posted => .fresh
  | .taken => .taken
  | .offered => .taken
  | .accepted => .taken
  | .rejected => .taken
  | .agreed => .accepted
  | .refused => .rejected
  | .paid => .sent
  | .informed => .sent
  | .released => .sent
  | .finished => .notified

/-- What is on its way to the maker. -/
def CarriesToMaker (orderType : FatCrabOrderType) (network : Network) :
    Stage → List MakerNotif → Prop
  | .taken, carried => ∃ envelope, carried = [.offer envelope] ∧
      FatCrabOffer.validateN3xbOffer envelope.offer = .ok ()
  | .paid, carried => ∃ envelope, carried = [.peer envelope] ∧
      envelope.message.InformsMaker orderType network
  | _, carried => carried = []

/-- What is on its way to the taker. -/
def CarriesToTaker (orderType : FatCrabOrderType) (network : Network) :
    Stage → List TakerNotif → Prop
  | .accepted, carried => ∃ envelope, carried = [.tradeRsp envelope] ∧
      envelope.tradeRsp.Accepts orderType network
  | .rejected, carried => ∃ envelope, carried = [.tradeRsp envelope] ∧ envelope.tradeRsp.Rejects
  | .released, carried => ∃ envelope, carried = [.peer envelope] ∧
      envelope.message.InformsTaker orderType
  | _, carried => carried = []

end Stage

/-- The trade is at a stage: both sides keep their contracts, and have come as far as the
stage says. -/
structure At (orderType : FatCrabOrderType) (network : Network) (trade : Trade) (stage : Stage) :
    Prop where
  maker : trade.maker.Meets (FatCrabMakerActor.Relies orderType network)
    (FatCrabMakerActor.Guarantees orderType network)
    (FatCrabMakerActor.Cooperates orderType network)
  taker : trade.taker.Meets (FatCrabTakerActor.Relies orderType network)
    (FatCrabTakerActor.Guarantees orderType network)
    (FatCrabTakerActor.Cooperates orderType network)
  makerPhase : FatCrabMakerActor.phase trade.maker.history = stage.maker
  takerPhase : FatCrabTakerActor.phase trade.taker.history = stage.taker
  toMaker : stage.CarriesToMaker orderType network trade.toMaker
  toTaker : stage.CarriesToTaker orderType network trade.toTaker
  asked : FatCrabTakerActor.asked trade.taker.history = true → stage.maker ≠ .fresh

variable {order : FatCrabOrder} {network : Network} {trade next : Trade} {stage : Stage}

omit [Bitcoin] in
/-- One message that is alone on its way is the one that arrives. -/
theorem eq_of_carried {τ : Type} {carried before after : List τ} {notif only : τ}
    (honly : carried = [only]) (hcarried : carried = before ++ notif :: after) :
    notif = only ∧ before ++ after = [] := by
  rw [honly] at hcarried
  cases before with
  | nil =>
      obtain ⟨rfl, rfl⟩ := List.cons.inj hcarried
      exact ⟨rfl, rfl⟩
  | cons first rest =>
      obtain ⟨-, hrest⟩ := List.cons.inj hcarried
      simp at hrest

variable {orderType : FatCrabOrderType}

/-- A step of the maker that begins no phase leaves the trade at its stage. -/
theorem At.stay_maker (hat : trade.At orderType network stage)
    {maker : Actor FatCrabMakerActor MakerMsg tradeInterface}
    (hmeets : maker.Meets (FatCrabMakerActor.Relies orderType network)
      (FatCrabMakerActor.Guarantees orderType network)
      (FatCrabMakerActor.Cooperates orderType network))
    (hphase : FatCrabMakerActor.phase maker.history = FatCrabMakerActor.phase trade.maker.history) :
    At orderType network { trade with maker := maker } stage :=
  ⟨hmeets, hat.taker, hphase.trans hat.makerPhase, hat.takerPhase, hat.toMaker, hat.toTaker,
    hat.asked⟩

theorem At.tellMaker (hround : Bitcoin.RoundTrip) (hat : trade.At orderType network stage)
    {maker : Actor FatCrabMakerActor MakerMsg tradeInterface} {notif : MakerNotif}
    {before after : List MakerNotif}
    (hstep : Actor.Step FatCrabMakerActor.code trade.maker (.receive (.notif (.ok notif))) maker)
    (hcarried : trade.toMaker = before ++ notif :: after) :
    ∃ reached, At orderType network { trade with maker := maker, toMaker := before ++ after }
      reached := by
  obtain ⟨hmaker, htaker, hmakerPhase, htakerPhase, htoMaker, htoTaker, hasked⟩ := hat
  cases stage with
  | taken =>
      obtain ⟨envelope, honly, hvalid⟩ := htoMaker
      obtain ⟨rfl, hempty⟩ := eq_of_carried honly hcarried
      refine ⟨.offered, ?_⟩
      have hmeets := hstep.meets (FatCrabMakerActor.contract hround) ⟨hmakerPhase, hvalid⟩ hmaker
      refine ⟨hmeets, htaker, ?_, htakerPhase, hempty, htoTaker, nofun⟩
      dsimp only
      rw [hstep.history]
      rfl
  | paid =>
      obtain ⟨envelope, honly, hinforms⟩ := htoMaker
      obtain ⟨rfl, hempty⟩ := eq_of_carried honly hcarried
      refine ⟨.informed, ?_⟩
      have hmeets := hstep.meets (FatCrabMakerActor.contract hround) ⟨hmakerPhase, hinforms⟩ hmaker
      refine ⟨hmeets, htaker, ?_, htakerPhase, hempty, htoTaker, nofun⟩
      dsimp only
      rw [hstep.history]
      rfl
  | _ =>
      have hnone : trade.toMaker = [] := htoMaker
      rw [hnone] at hcarried
      simp at hcarried

theorem At.tellTaker (hround : Bitcoin.RoundTrip) (hat : trade.At orderType network stage)
    {taker : Actor FatCrabTakerActor TakerMsg tradeInterface} {notif : TakerNotif}
    {before after : List TakerNotif}
    (hstep : Actor.Step FatCrabTakerActor.code trade.taker (.receive (.notif (.ok notif))) taker)
    (hcarried : trade.toTaker = before ++ notif :: after) :
    ∃ reached, At orderType network { trade with taker := taker, toTaker := before ++ after }
      reached := by
  obtain ⟨hmaker, htaker, hmakerPhase, htakerPhase, htoMaker, htoTaker, hasked⟩ := hat
  cases stage with
  | accepted =>
      obtain ⟨envelope, honly, haccepts⟩ := htoTaker
      obtain ⟨rfl, hempty⟩ := eq_of_carried honly hcarried
      refine ⟨.agreed, ?_⟩
      have hmeets := hstep.meets (FatCrabTakerActor.contract hround)
        ⟨htakerPhase, .inl haccepts⟩ htaker
      refine ⟨hmaker, hmeets, hmakerPhase, ?_, htoMaker, hempty, nofun⟩
      obtain ⟨receiveAddress, hread, -⟩ := haccepts
      dsimp only
      rw [hstep.history, FatCrabTakerActor.phase_cons, FatCrabTakerActor.milestone, hread]
      rfl
  | rejected =>
      obtain ⟨envelope, honly, hrejects⟩ := htoTaker
      obtain ⟨rfl, hempty⟩ := eq_of_carried honly hcarried
      refine ⟨.refused, ?_⟩
      have hmeets := hstep.meets (FatCrabTakerActor.contract hround)
        ⟨htakerPhase, .inr hrejects⟩ htaker
      refine ⟨hmaker, hmeets, hmakerPhase, ?_, htoMaker, hempty, nofun⟩
      have hread : FatCrabTradeRsp.fromN3xbTradeRsp envelope.tradeRsp = some .reject := hrejects
      dsimp only
      rw [hstep.history, FatCrabTakerActor.phase_cons, FatCrabTakerActor.milestone, hread]
      rfl
  | released =>
      obtain ⟨envelope, honly, hinforms⟩ := htoTaker
      obtain ⟨rfl, hempty⟩ := eq_of_carried honly hcarried
      refine ⟨.finished, ?_⟩
      have hmeets := hstep.meets (FatCrabTakerActor.contract hround) ⟨htakerPhase, hinforms⟩ htaker
      refine ⟨hmaker, hmeets, hmakerPhase, ?_, htoMaker, hempty, nofun⟩
      dsimp only
      rw [hstep.history]
      rfl
  | _ =>
      have hnone : trade.toTaker = [] := htoTaker
      rw [hnone] at hcarried
      simp at hcarried

/-- A step of the taker that begins no phase leaves the trade at its stage. -/
theorem At.stay_taker (hat : trade.At orderType network stage)
    {taker : Actor FatCrabTakerActor TakerMsg tradeInterface}
    (hmeets : taker.Meets (FatCrabTakerActor.Relies orderType network)
      (FatCrabTakerActor.Guarantees orderType network)
      (FatCrabTakerActor.Cooperates orderType network))
    (hphase : FatCrabTakerActor.phase taker.history = FatCrabTakerActor.phase trade.taker.history)
    (hasked : FatCrabTakerActor.asked taker.history = true → stage.maker ≠ .fresh) :
    At orderType network { trade with taker := taker } stage :=
  ⟨hat.maker, hmeets, hat.makerPhase, hphase.trans hat.takerPhase, hat.toMaker, hat.toTaker,
    hasked⟩

/-- What the maker calls moves the trade on, or leaves it where it is. -/
theorem At.makerCalls (hround : Bitcoin.RoundTrip) (hat : trade.At orderType network stage)
    {maker : Actor FatCrabMakerActor MakerMsg tradeInterface} {c : TradeCall} {reply : c.Reply}
    (eventId : String)
    (hstep : Actor.Step FatCrabMakerActor.code trade.maker (.call c reply) maker)
    (hsucceeds : c.Succeeds reply) :
    ∃ reached, At orderType network
      { trade with maker := maker, toTaker := c.toTaker eventId ++ trade.toTaker } reached := by
  have hmeets := hstep.meets (FatCrabMakerActor.contract hround) hsucceeds hat.maker
  have hhistory := hstep.history
  obtain ⟨-, hguarantee⟩ := hmeets.guaranteed hhistory
  -- a call that sends nothing and begins no phase
  have hstay : FatCrabMakerActor.milestone (.called c reply trade.maker.store) = none →
      At orderType network { trade with maker := maker } stage := by
    intro hmilestone
    apply hat.stay_maker hmeets
    rw [hhistory, FatCrabMakerActor.phase_cons, hmilestone]
    rfl
  obtain ⟨-, htaker, hmakerPhase, htakerPhase, htoMaker, htoTaker, hasked⟩ := hat
  cases c with
  | n3xb request =>
      cases request with
      | postNewOrder =>
          -- the guarantee says in which phase the maker posts, answers or tells
          have hfresh : stage.maker = .fresh := hmakerPhase.symm.trans hguarantee
          cases stage with
          | fresh =>
              refine ⟨.posted, hmeets, htaker, ?_, htakerPhase, htoMaker, htoTaker, nofun⟩
              dsimp only
              rw [hhistory]
              rfl
          | _ => cases hfresh
      | acceptOffer response =>
          have hoffered : stage.maker = .offered := hmakerPhase.symm.trans hguarantee.1
          cases stage with
          | offered =>
              have hempty : trade.toTaker = [] := htoTaker
              refine ⟨.accepted, hmeets, htaker, ?_, htakerPhase, htoMaker, ?_, nofun⟩
              · dsimp only
                rw [hhistory]
                rfl
              · dsimp only
                rw [hempty]
                exact ⟨⟨eventId, response⟩, rfl, hguarantee.2⟩
          | _ => cases hoffered
      | rejectOffer response =>
          have hoffered : stage.maker = .offered := hmakerPhase.symm.trans hguarantee.1
          cases stage with
          | offered =>
              have hempty : trade.toTaker = [] := htoTaker
              refine ⟨.rejected, hmeets, htaker, ?_, htakerPhase, htoMaker, ?_, nofun⟩
              · dsimp only
                rw [hhistory]
                rfl
              · dsimp only
                rw [hempty]
                exact ⟨⟨eventId, response⟩, rfl, hguarantee.2⟩
          | _ => cases hoffered
      | sendPeerMessage message =>
          have hnotified : stage.maker = .notified := hmakerPhase.symm.trans hguarantee.1
          cases stage with
          | informed =>
              have hempty : trade.toTaker = [] := htoTaker
              refine ⟨.released, hmeets, htaker, ?_, htakerPhase, htoMaker, ?_, nofun⟩
              · dsimp only
                rw [hhistory]
                rfl
              · dsimp only
                rw [hempty]
                exact ⟨⟨eventId, message⟩, rfl, hguarantee.2⟩
          | _ => cases hnotified
      | registerNotifTx | cancelOrder | takeOrder | tradeComplete | shutdown =>
          exact ⟨stage, hstay rfl⟩
  | purse request => exact ⟨stage, hstay rfl⟩
  | notify notifTx notif => exact ⟨stage, hstay rfl⟩
  | respond rsp => exact ⟨stage, hstay rfl⟩
  | terminate => exact ⟨stage, hstay rfl⟩

/-- What the taker calls moves the trade on, or leaves it where it is. -/
theorem At.takerCalls (hround : Bitcoin.RoundTrip) (hat : trade.At orderType network stage)
    {taker : Actor FatCrabTakerActor TakerMsg tradeInterface} {c : TradeCall} {reply : c.Reply}
    (pubkey eventId : String)
    (hstep : Actor.Step FatCrabTakerActor.code trade.taker (.call c reply) taker)
    (hsucceeds : c.Succeeds reply) :
    ∃ reached, At orderType network
      { trade with taker := taker, toMaker := c.toMaker order pubkey eventId ++ trade.toMaker }
      reached := by
  have hmeets := hstep.meets (FatCrabTakerActor.contract hround) hsucceeds hat.taker
  have hhistory := hstep.history
  obtain ⟨-, hguarantee⟩ := hmeets.guaranteed hhistory
  have hasked : FatCrabTakerActor.asked taker.history =
      FatCrabTakerActor.asked trade.taker.history := by
    rw [hhistory]
    rfl
  -- a call that sends nothing and begins no phase
  have hstay : FatCrabTakerActor.milestone (.called c reply trade.taker.store) = none →
      At orderType network { trade with taker := taker } stage := by
    intro hmilestone
    apply hat.stay_taker hmeets
    · rw [hhistory, FatCrabTakerActor.phase_cons, hmilestone]
      rfl
    · rw [hasked]
      exact hat.asked
  obtain ⟨hmaker, -, hmakerPhase, htakerPhase, htoMaker, htoTaker, hopen⟩ := hat
  cases c with
  | n3xb request =>
      cases request with
      | takeOrder =>
          have hfresh : stage.taker = .fresh := htakerPhase.symm.trans hguarantee.1
          -- the order was posted before it was asked for
          have hposted := hopen hguarantee.2
          cases stage with
          | fresh => exact absurd rfl hposted
          | posted =>
              have hempty : trade.toMaker = [] := htoMaker
              refine ⟨.taken, hmaker, hmeets, hmakerPhase, ?_, ?_, htoTaker, nofun⟩
              · dsimp only
                rw [hhistory]
                rfl
              · dsimp only
                rw [hempty]
                exact ⟨⟨pubkey, eventId, _⟩, rfl, FatCrabOffer.validate_createN3xbOffer order⟩
          | _ => cases hfresh
      | sendPeerMessage message =>
          have haccepted : stage.taker = .accepted := htakerPhase.symm.trans hguarantee.1
          cases stage with
          | agreed =>
              have hempty : trade.toMaker = [] := htoMaker
              refine ⟨.paid, hmaker, hmeets, hmakerPhase, ?_, ?_, htoTaker, nofun⟩
              · dsimp only
                rw [hhistory]
                rfl
              · dsimp only
                rw [hempty]
                exact ⟨⟨eventId, message⟩, rfl, hguarantee.2⟩
          | _ => cases haccepted
      | registerNotifTx | postNewOrder | cancelOrder | acceptOffer _ | rejectOffer _
      | tradeComplete | shutdown => exact ⟨stage, hstay rfl⟩
  | purse request => exact ⟨stage, hstay rfl⟩
  | notify notifTx notif => exact ⟨stage, hstay rfl⟩
  | respond rsp => exact ⟨stage, hstay rfl⟩
  | terminate => exact ⟨stage, hstay rfl⟩

theorem Step.at (hround : Bitcoin.RoundTrip) (hstep : Step order trade next)
    (hat : trade.At orderType network stage) : ∃ reached, next.At orderType network reached := by
  cases hstep with
  | askMaker hstep hmay =>
      have hmeets := hstep.meets (FatCrabMakerActor.contract hround) hmay hat.maker
      refine ⟨stage, hat.stay_maker hmeets ?_⟩
      rw [hstep.history]
      rfl
  | tellMaker hstep hcarried => exact hat.tellMaker hround hstep hcarried
  | warnMaker hstep =>
      have hmeets := hstep.meets (FatCrabMakerActor.contract hround) trivial hat.maker
      refine ⟨stage, hat.stay_maker hmeets ?_⟩
      rw [hstep.history]
      rfl
  | makerCalls eventId hstep hsucceeds => exact hat.makerCalls hround eventId hstep hsucceeds
  | makerThinks hstep =>
      have hmeets := hstep.meets (FatCrabMakerActor.contract hround) trivial hat.maker
      refine ⟨stage, hat.stay_maker hmeets ?_⟩
      rw [hstep.history]
  | @askTaker _ request hstep hmay hposted =>
      have hmeets := hstep.meets (FatCrabTakerActor.contract hround) hmay hat.taker
      refine ⟨stage, hat.stay_taker hmeets ?_ ?_⟩
      · rw [hstep.history]
        rfl
      · rw [hstep.history]
        intro hasked
        rcases (Bool.or_eq_true _ _).mp hasked with hnow | hbefore
        · rw [← hat.makerPhase]
          refine FatCrabMakerActor.phase_ne_fresh_of_posted (hposted ?_)
          -- only `takeOrder` asks for an order
          cases request <;> first | rfl | cases hnow
        · exact hat.asked hbefore
  | tellTaker hstep hcarried => exact hat.tellTaker hround hstep hcarried
  | warnTaker hstep =>
      have hmeets := hstep.meets (FatCrabTakerActor.contract hround) trivial hat.taker
      refine ⟨stage, hat.stay_taker hmeets ?_ ?_⟩
      · rw [hstep.history]
        rfl
      · rw [hstep.history]
        exact hat.asked
  | takerCalls pubkey eventId hstep hsucceeds =>
      exact hat.takerCalls hround pubkey eventId hstep hsucceeds
  | takerThinks hstep =>
      have hmeets := hstep.meets (FatCrabTakerActor.contract hround) trivial hat.taker
      refine ⟨stage, hat.stay_taker hmeets ?_ ?_⟩
      · rw [hstep.history]
      · rw [hstep.history]
        exact hat.asked

theorem Opens.at {maker : FatCrabMakerActor} {taker : FatCrabTakerActor}
    (hopens : Opens order network maker taker) :
    At order.orderType network
      ⟨Actor.launch FatCrabMakerActor.code maker, Actor.launch FatCrabTakerActor.code taker, [], []⟩
      .fresh := by
  have hmaker : FatCrabMakerActor.Cooperates order.orderType network [] maker := by
    cases hopens with
    | buy htype _ _ =>
        rw [htype]
        exact ⟨⟨rfl, nofun⟩, rfl, fun hne => absurd rfl hne, nofun⟩
    | sell htype _ hvalid =>
        rw [htype]
        exact ⟨⟨rfl, _, rfl, hvalid⟩, rfl, fun hne => absurd rfl hne, nofun⟩
  have htaker : FatCrabTakerActor.Cooperates order.orderType network [] taker := by
    cases hopens with
    | buy htype _ hvalid =>
        rw [htype]
        exact ⟨⟨rfl, ⟨_, rfl, hvalid⟩, rfl⟩, rfl, fun hne => absurd rfl hne⟩
    | sell htype _ _ =>
        rw [htype]
        exact ⟨⟨rfl, rfl⟩, rfl, fun hne => absurd rfl hne⟩
  exact ⟨FatCrabMakerActor.meets_launch hmaker, FatCrabTakerActor.meets_launch htaker, rfl, rfl,
    rfl, rfl, nofun⟩

theorem Reachable.at (hround : Bitcoin.RoundTrip) (hreachable : Reachable order network trade) :
    ∃ stage, trade.At order.orderType network stage := by
  obtain ⟨maker, taker, hopens, hrun⟩ := hreachable
  induction hrun with
  | refl => exact ⟨.fresh, hopens.at⟩
  | tail _ hstep ih =>
      obtain ⟨stage, hat⟩ := ih
      exact hstep.at hround hat

/-- Whatever the order of handlers, requests and deliveries, either side serves every offer,
trade response and peer message in the state for it and leaves none unheeded: its handler
stores it and goes on. Neither task dies. -/
theorem no_message_dropped (hround : Bitcoin.RoundTrip)
    (hreachable : Reachable order network trade) :
    (∀ entry ∈ trade.maker.history,
      FatCrabMakerActor.Heeds entry ∧ FatCrabMakerActor.Stores entry) ∧
    (∀ entry ∈ trade.taker.history,
      FatCrabTakerActor.Heeds entry ∧ FatCrabTakerActor.Stores entry) ∧
    trade.maker.task ≠ .dead ∧ trade.taker.task ≠ .dead := by
  obtain ⟨stage, hat⟩ := hreachable.at hround
  refine ⟨?_, ?_, hat.maker.alive, hat.taker.alive⟩
  · intro entry hentry
    obtain ⟨later, past, hhistory⟩ := List.append_of_mem hentry
    have halways := hat.maker.1
    rw [hhistory] at halways
    have hheeds := halways.split.1
    exact ⟨hheeds, FatCrabMakerActor.stores_of_heeds hheeds⟩
  · intro entry hentry
    obtain ⟨later, past, hhistory⟩ := List.append_of_mem hentry
    have halways := hat.taker.1
    rw [hhistory] at halways
    have hheeds := halways.split.1
    exact ⟨hheeds, FatCrabTakerActor.stores_of_heeds hheeds⟩

/-! ## Whole handlers -/

/-- The actor's task after a handler. -/
def settle {σ Msg τ : Type} (result : Program.Result σ (History σ Msg tradeInterface × τ) Flow) :
    Actor σ Msg tradeInterface where
  store := result.store
  task := match result.outcome with
    | .done flow => flow.task
    | .panicked => .dead
  history := result.environment.1

/-- Answers from a table; what is sent goes on its way. -/
def makerSurroundings (answers : (c : TradeCall) → c.Reply) : Program.Environment
    FatCrabMakerActor tradeInterface
    (History FatCrabMakerActor MakerMsg tradeInterface × List TakerNotif) :=
  fun store environment c =>
    (answers c, (.called c (answers c) store :: environment.1, c.toTaker "maker" ++ environment.2))

def takerSurroundings (order : FatCrabOrder) (answers : (c : TradeCall) → c.Reply) :
    Program.Environment FatCrabTakerActor tradeInterface
      (History FatCrabTakerActor TakerMsg tradeInterface × List MakerNotif) :=
  fun store environment c => (answers c,
    (.called c (answers c) store :: environment.1,
      c.toMaker order "npub1taker" "taker" ++ environment.2))

/-- The maker runs a program to its end. -/
def runMaker (answers : (c : TradeCall) → c.Reply) (program : Handler FatCrabMakerActor Flow)
    (store : FatCrabMakerActor) (history : History FatCrabMakerActor MakerMsg tradeInterface)
    (trade : Trade) : Trade :=
  let result := program.exec (makerSurroundings answers) store (history, trade.toTaker)
  { trade with maker := settle result, toTaker := result.environment.2 }

def runTaker (order : FatCrabOrder) (answers : (c : TradeCall) → c.Reply)
    (program : Handler FatCrabTakerActor Flow) (store : FatCrabTakerActor)
    (history : History FatCrabTakerActor TakerMsg tradeInterface) (trade : Trade) : Trade :=
  let result := program.exec (takerSurroundings order answers) store (history, trade.toMaker)
  { trade with taker := settle result, toMaker := result.environment.2 }

theorem steps_runMaker {answers : (c : TradeCall) → c.Reply}
    (hsucceeds : ∀ c : TradeCall, c.Succeeds (answers c)) (program : Handler FatCrabMakerActor Flow)
    (store : FatCrabMakerActor) (history : History FatCrabMakerActor MakerMsg tradeInterface)
    (trade : Trade) :
    Relation.ReflTransGen (Step order)
      { trade with maker := ⟨store, .running program, history⟩ }
      (runMaker answers program store history trade) := by
  induction program generalizing store history trade with
  | pure flow => exact .single (.makerThinks (.finish flow))
  | panic => exact .single (.makerThinks .die)
  | get next ih => exact .head (.makerThinks (.get next)) (ih store store history trade)
  | modify f next ih => exact .head (.makerThinks (.modify f next)) (ih (f store) history trade)
  | call c next ih =>
      exact .head (.makerCalls "maker" (.call c next (answers c)) (hsucceeds c))
        (ih (answers c) store (.called c (answers c) store :: history)
          { trade with toTaker := c.toTaker "maker" ++ trade.toTaker })

theorem steps_runTaker {answers : (c : TradeCall) → c.Reply}
    (hsucceeds : ∀ c : TradeCall, c.Succeeds (answers c)) (program : Handler FatCrabTakerActor Flow)
    (store : FatCrabTakerActor) (history : History FatCrabTakerActor TakerMsg tradeInterface)
    (trade : Trade) :
    Relation.ReflTransGen (Step order)
      { trade with taker := ⟨store, .running program, history⟩ }
      (runTaker order answers program store history trade) := by
  induction program generalizing store history trade with
  | pure flow => exact .single (.takerThinks (.finish flow))
  | panic => exact .single (.takerThinks .die)
  | get next ih => exact .head (.takerThinks (.get next)) (ih store store history trade)
  | modify f next ih => exact .head (.takerThinks (.modify f next)) (ih (f store) history trade)
  | call c next ih =>
      exact .head (.takerCalls "npub1taker" "taker" (.call c next (answers c)) (hsucceeds c))
        (ih (answers c) store (.called c (answers c) store :: history)
          { trade with toMaker := c.toMaker order "npub1taker" "taker" ++ trade.toMaker })

/-- The maker serves a message to its end. -/
def serveMaker (answers : (c : TradeCall) → c.Reply) (message : MakerMsg) (trade : Trade) : Trade :=
  runMaker answers (FatCrabMakerActor.handle message) trade.maker.store
    (.received message trade.maker.store :: trade.maker.history) trade

def serveTaker (order : FatCrabOrder) (answers : (c : TradeCall) → c.Reply) (message : TakerMsg)
    (trade : Trade) : Trade :=
  runTaker order answers (FatCrabTakerActor.handle message) trade.taker.store
    (.received message trade.taker.store :: trade.taker.history) trade

/-- What happens next in a script: a user asks, or the first message on its way arrives. -/
inductive Event where
  | askMaker (request : FatCrabMakerRequest)
  | tellMaker
  | askTaker (request : FatCrabTakerRequest)
  | tellTaker

/-- Play an event. It is impossible if the user may not ask so, if nothing is on its way, or if
the side whose turn it is does not wait. -/
def play (order : FatCrabOrder) (answers : (c : TradeCall) → c.Reply) (trade : Trade) :
    Event → Option Trade
  | .askMaker request =>
      if trade.maker.task = .idle ∧
          FatCrabMakerActor.MayAsk request trade.maker.store trade.maker.history then
        some (serveMaker answers (.request request) trade)
      else none
  | .tellMaker => match trade.toMaker with
      | [] => none
      | notif :: carried =>
          if trade.maker.task = .idle then
            some (serveMaker answers (.notif (.ok notif)) { trade with toMaker := carried })
          else none
  | .askTaker request =>
      if trade.taker.task = .idle ∧ FatCrabTakerActor.MayAsk request trade.taker.store ∧
          (request = .takeOrder → FatCrabMakerActor.posted trade.maker.history = true) then
        some (serveTaker order answers (.request request) trade)
      else none
  | .tellTaker => match trade.toTaker with
      | [] => none
      | notif :: carried =>
          if trade.taker.task = .idle then
            some (serveTaker order answers (.notif (.ok notif)) { trade with toTaker := carried })
          else none

/-- An event that can be played is a run of the trade. -/
theorem steps_play {answers : (c : TradeCall) → c.Reply}
    (hsucceeds : ∀ c : TradeCall, c.Succeeds (answers c)) {event : Event}
    (hplay : play order answers trade event = some next) :
    Relation.ReflTransGen (Step order) trade next := by
  obtain ⟨⟨makerStore, makerTask, makerHistory⟩, ⟨takerStore, takerTask, takerHistory⟩, toMaker,
    toTaker⟩ := trade
  cases event with
  | askMaker request =>
      obtain ⟨hpossible, hserved⟩ := Option.ite_none_right_eq_some.mp hplay
      cases hserved
      obtain ⟨rfl, hmay⟩ := hpossible
      exact .head (.askMaker (.receive (MakerMsg.request request)) hmay)
        (steps_runMaker hsucceeds _ _ _ _)
  | tellMaker =>
      cases toMaker with
      | nil => cases hplay
      | cons notif carried =>
          obtain ⟨rfl, hserved⟩ := Option.ite_none_right_eq_some.mp hplay
          cases hserved
          have hserve := @steps_runMaker _ order answers hsucceeds
            (FatCrabMakerActor.handle (.notif (.ok notif))) makerStore
            (.received (.notif (.ok notif)) makerStore :: makerHistory)
            ⟨⟨makerStore, .idle, makerHistory⟩, ⟨takerStore, takerTask, takerHistory⟩, carried,
              toTaker⟩
          exact .head (@Step.tellMaker _ _ _ _ notif [] carried
            (.receive (MakerMsg.notif (.ok notif))) rfl) hserve
  | askTaker request =>
      obtain ⟨hpossible, hserved⟩ := Option.ite_none_right_eq_some.mp hplay
      cases hserved
      obtain ⟨rfl, hmay, hposted⟩ := hpossible
      exact .head (.askTaker (.receive (TakerMsg.request request)) hmay hposted)
        (steps_runTaker hsucceeds _ _ _ _)
  | tellTaker =>
      cases toTaker with
      | nil => cases hplay
      | cons notif carried =>
          obtain ⟨rfl, hserved⟩ := Option.ite_none_right_eq_some.mp hplay
          cases hserved
          have hserve := @steps_runTaker _ order answers hsucceeds
            (FatCrabTakerActor.handle (.notif (.ok notif))) takerStore
            (.received (.notif (.ok notif)) takerStore :: takerHistory)
            ⟨⟨makerStore, makerTask, makerHistory⟩, ⟨takerStore, .idle, takerHistory⟩, toMaker,
              carried⟩
          exact .head (@Step.tellTaker _ _ _ _ notif [] carried
            (.receive (TakerMsg.notif (.ok notif))) rfl) hserve

theorem steps_script {answers : (c : TradeCall) → c.Reply}
    (hsucceeds : ∀ c : TradeCall, c.Succeeds (answers c)) {script : List Event}
    (hscript : script.foldlM (play order answers) trade = some next) :
    Relation.ReflTransGen (Step order) trade next := by
  induction script generalizing trade with
  | nil =>
      cases hscript
      exact .refl
  | cons event rest ih =>
      rw [List.foldlM_cons] at hscript
      obtain ⟨middle, hplay, hrest⟩ := Option.bind_eq_some_iff.mp hscript
      exact (steps_play hsucceeds hplay).trans (ih hrest)

end Trade

end Trade

section Sample

open Sample

namespace Trade

theorem obliging_succeeds (c : TradeCall) : c.Succeeds (obliging c) := by
  cases c with
  | purse request =>
      refine ⟨purseReply request, rfl, ?_⟩
      cases request <;> first | exact ⟨_, rfl⟩ | rfl
  | _ => first | rfl | trivial

/-- A new trade. -/
def launched : Trade :=
  ⟨Actor.launch FatCrabMakerActor.code sellMaker, Actor.launch FatCrabTakerActor.code sellTaker,
    [], []⟩

/-- Both sides have begun to wait. -/
def begun : Trade :=
  runTaker (order .sell) obliging FatCrabTakerActor.start sellTaker []
    (runMaker obliging FatCrabMakerActor.start sellMaker [] launched)

/-- Alice sells fatcrabs to Bob, who pays at once; both complete. -/
def script : List Event :=
  let offer : FatCrabOfferEnvelope :=
    ⟨"npub1taker", ⟨"npub1taker", "taker", createN3xbOffer (order .sell)⟩⟩
  [.askMaker (.registerNotifTx ⟨1⟩), .askTaker (.registerNotifTx ⟨2⟩), .askMaker .postNewOrder,
    .askTaker .takeOrder, .tellMaker, .askMaker (.tradeResponse .accept offer), .tellTaker,
    .tellMaker, .askMaker (.releaseNotifyPeer (some "fatcrab txid")), .tellTaker,
    .askMaker .tradeComplete, .askTaker .tradeComplete]

theorem reachable_begun : Reachable (order .sell) .regtest begun :=
  ⟨sellMaker, sellTaker, .sell rfl rfl rfl,
    (steps_runMaker obliging_succeeds FatCrabMakerActor.start sellMaker [] launched).trans
      (steps_runTaker obliging_succeeds FatCrabTakerActor.start sellTaker []
        (runMaker obliging FatCrabMakerActor.start sellMaker [] launched))⟩

/-- Whatever can be played of the sale is reached. -/
theorem reachable_script {events : List Event} {trade : Trade}
    (hplayed : events.foldlM (play (order .sell) obliging) begun = some trade) :
    Reachable (order .sell) .regtest trade := by
  obtain ⟨maker, taker, hopens, hbegun⟩ := reachable_begun
  exact ⟨maker, taker, hopens, hbegun.trans (steps_script obliging_succeeds hplayed)⟩

theorem no_message_dropped_sale : ∃ trade : Trade,
    trade.maker.store.state = .tradeCompleted ∧ trade.taker.store.state = .tradeCompleted ∧
      (∀ entry ∈ trade.maker.history,
        FatCrabMakerActor.Heeds entry ∧ FatCrabMakerActor.Stores entry) ∧
      (∀ entry ∈ trade.taker.history,
        FatCrabTakerActor.Heeds entry ∧ FatCrabTakerActor.Stores entry) ∧
      trade.maker.task ≠ .dead ∧ trade.taker.task ≠ .dead := by
  let played := script.foldlM (play (order .sell) obliging) begun
  obtain ⟨trade, htrade⟩ : ∃ trade, played = some trade :=
    Option.isSome_iff_exists.mp (by decide +kernel)
  have hstates : played.map (fun trade => (trade.maker.store.state, trade.taker.store.state)) =
      some (.tradeCompleted, .tradeCompleted) := by
    decide +kernel
  rw [htrade] at hstates
  obtain ⟨hmaker, htaker⟩ := Prod.mk.inj (Option.some.inj hstates)
  exact ⟨trade, hmaker, htaker, no_message_dropped roundTrip (reachable_script htrade)⟩

end Trade

end Sample

end FatCrabTrading
