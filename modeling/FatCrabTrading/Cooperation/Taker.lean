import FatCrabTrading.Cooperation.Protocol

/-! # The taker of a cooperative trade

A taker that is asked for each step in the state for it, and to which the maker's messages
come in their order, takes one step of the trade after the other. A Sell taker pays as soon
as it is accepted.
-/

namespace FatCrabTrading

open Effect

variable [Bitcoin]

/-- How far a taker has come, by what it last sent or received. -/
inductive TakerPhase where
  | fresh
  | taken
  | accepted
  | rejected
  | sent
  | notified
  deriving DecidableEq

/-- The state that a taker waits in. -/
def TakerPhase.Shows (orderType : FatCrabOrderType) : TakerPhase → FatCrabTakerState → Prop
  | .fresh, state => state = .new
  | .taken, state => state = .submittedOffer
  | .accepted, state => state = .offerAccepted
  | .rejected, state => state = .offerRejected
  | .sent, state => state = .notifiedOutbound
  | .notified, state => state = .tradeCompleted ∨ state = match orderType with
      | .buy => .inboundBtcNotified
      | .sell => .inboundFcNotified

namespace TakerPhase

variable {orderType : FatCrabOrderType} {reached : TakerPhase}

omit [Bitcoin]

theorem eq_of_shows_new (hshows : reached.Shows orderType .new) : reached = .fresh := by
  cases reached <;> cases orderType <;> simp_all [Shows]

theorem eq_of_shows_offerAccepted (hshows : reached.Shows orderType .offerAccepted) :
    reached = .accepted := by
  cases reached <;> cases orderType <;> simp_all [Shows]

theorem eq_of_shows_inbound {state : FatCrabTakerState} (hshows : reached.Shows orderType state)
    (hstate : state = .inboundBtcNotified ∨ state = .inboundFcNotified) :
    reached = .notified := by
  rcases hstate with rfl | rfl
  · cases reached <;> cases orderType <;> simp_all [Shows]
  · cases reached <;> cases orderType <;> simp_all [Shows]

end TakerPhase

namespace FatCrabTakerActor

/-- The phase that an observation begins. -/
def milestone : Entry FatCrabTakerActor TakerMsg tradeInterface → Option TakerPhase
  | .called (.n3xb .takeOrder) _ _ => some .taken
  | .received (.notif (.ok (.tradeRsp envelope))) _ =>
      match FatCrabTradeRsp.fromN3xbTradeRsp envelope.tradeRsp with
      | some (.accept _) => some .accepted
      | _ => some .rejected
  | .called (.n3xb (.sendPeerMessage _)) _ _ => some .sent
  | .received (.notif (.ok (.peer _))) _ => some .notified
  | _ => none

def phase : History FatCrabTakerActor TakerMsg tradeInterface → TakerPhase
  | [] => .fresh
  | entry :: past => (milestone entry).getD (phase past)

@[simp] theorem phase_nil : phase [] = .fresh := rfl

@[simp] theorem phase_cons (entry : Entry FatCrabTakerActor TakerMsg tradeInterface)
    (past : History FatCrabTakerActor TakerMsg tradeInterface) :
    phase (entry :: past) = (milestone entry).getD (phase past) := rfl

/-- The user's request to take the order. -/
def asksOrder : Entry FatCrabTakerActor TakerMsg tradeInterface → Bool
  | .received (.request .takeOrder) _ => true
  | _ => false

/-- The user has asked to take the order. -/
def asked (history : History FatCrabTakerActor TakerMsg tradeInterface) : Bool :=
  history.any asksOrder

@[simp] theorem asked_cons (entry : Entry FatCrabTakerActor TakerMsg tradeInterface)
    (past : History FatCrabTakerActor TakerMsg tradeInterface) :
    asked (entry :: past) = (asksOrder entry || asked past) := rfl

/-- What a cooperative user asks for: each step in the state for it, and whatever changes
nothing. A Sell taker releases by itself. -/
def MayAsk (request : FatCrabTakerRequest) (self : FatCrabTakerActor) : Prop :=
  match request with
  | .takeOrder => self.state = .new ∧ self.notifTx.isSome
  | .releaseNotifyPeer txid => match self.inner with
      | .buy _ => self.state = .offerAccepted ∧ txid.isSome
      | .sell _ => False
  | .tradeComplete => self.state = .inboundBtcNotified ∨ self.state = .inboundFcNotified
  | .unregisterNotifTx | .shutdown => False
  | _ => True

instance decidableMayAsk : (request : FatCrabTakerRequest) → (self : FatCrabTakerActor) →
    Decidable (MayAsk request self)
  | .takeOrder, _ => inferInstanceAs (Decidable (_ ∧ _))
  | .releaseNotifyPeer txid, ⟨.buy buy, _, _⟩ =>
      inferInstanceAs (Decidable (buy.data.state = .offerAccepted ∧ txid.isSome))
  | .releaseNotifyPeer _, ⟨.sell _, _, _⟩ => .isFalse id
  | .tradeComplete, _ => inferInstanceAs (Decidable (_ ∨ _))
  | .unregisterNotifTx, _ | .shutdown, _ => .isFalse id
  | .getOrderDetails, _ | .getState, _ | .getPeerBtcTxid, _ | .queryTradeRsp, _
  | .queryPeerMsg, _ | .checkBtcTxConf, _ | .registerNotifTx _, _ => .isTrue trivial

/-- The taker of the trade, with one listener in both of its actors. A Buy taker has an
address to be paid at. -/
def Plays (orderType : FatCrabOrderType) (network : Network) (self : FatCrabTakerActor) : Prop :=
  match orderType, self.inner with
  | .buy, .buy actor => actor.network = network ∧ Printed network actor.data.btcRxAddr ∧
      actor.notifTx = self.notifTx
  | .sell, .sell actor => actor.network = network ∧ actor.notifTx = self.notifTx
  | _, _ => False

variable (orderType : FatCrabOrderType) (network : Network)

/-- What the taker relies on. -/
def Relies : Entry FatCrabTakerActor TakerMsg tradeInterface →
    History FatCrabTakerActor TakerMsg tradeInterface → Prop
  | .received (.request request) self, _ => MayAsk request self
  | .received (.notif (.ok (.tradeRsp envelope))) _, past =>
      phase past = .taken ∧
        (envelope.tradeRsp.Accepts orderType network ∨ envelope.tradeRsp.Rejects)
  | .received (.notif (.ok (.peer envelope))) _, past =>
      phase past = .sent ∧ envelope.message.InformsTaker orderType
  | .received (.notif (.error _)) _, _ => True
  | .called c reply _, _ => c.Succeeds reply

/-- The taker serves a trade response or a peer message in the state for it: neither is
ignored or without a listener, and a Sell taker can pay. -/
def Heeds : Entry FatCrabTakerActor TakerMsg tradeInterface → Prop
  | .received (.notif (.ok (.tradeRsp envelope))) self =>
      self.state = .submittedOffer ∧
        ∃ tradeRsp, FatCrabTradeRsp.fromN3xbTradeRsp envelope.tradeRsp = some tradeRsp ∧
          match self.inner with
          | .buy actor => actor.notifTx.isSome
          | .sell actor => actor.notifTx.isSome ∧ ∀ receiveAddress,
              tradeRsp = .accept receiveAddress → ∃ address,
                Bitcoin.addressFromStr receiveAddress = some address ∧
                  Bitcoin.isValidForNetwork address actor.network = true
  | .received (.notif (.ok (.peer envelope))) self =>
      self.state = .notifiedOutbound ∧ self.notifTx.isSome ∧
        ∃ content, envelope.message.asFatCrabPeerMessage = some content ∧ match self.inner with
          | .buy _ => ∃ txid, Bitcoin.txidFromStr content.txid = some txid
          | .sell _ => True
  | _ => True

/-- What the taker guarantees: each step comes after the one before, its messages can be
used, and it heeds what it receives. -/
def Guarantees (entry : Entry FatCrabTakerActor TakerMsg tradeInterface)
    (past : History FatCrabTakerActor TakerMsg tradeInterface) : Prop :=
  Heeds entry ∧ match entry with
    | .called (.n3xb .takeOrder) _ _ => phase past = .fresh ∧ asked past = true
    | .called (.n3xb (.sendPeerMessage message)) _ _ =>
        phase past = .accepted ∧ message.InformsMaker orderType network
    | _ => True

/-- The taker between two messages. -/
@[mk_iff]
structure Cooperates (history : History FatCrabTakerActor TakerMsg tradeInterface)
    (taker : FatCrabTakerActor) : Prop where
  plays : taker.Plays orderType network
  shows : (phase history).Shows orderType taker.state
  listening : phase history ≠ .fresh → taker.notifTx.isSome

/-- A handler that leaves the taker cooperating. -/
def Obeys (program : Handler FatCrabTakerActor Unit)
    (history : History FatCrabTakerActor TakerMsg tradeInterface) (self : FatCrabTakerActor) :
    Prop :=
  program.Meets (Relies orderType network) (Guarantees orderType network)
    (fun history self _ => Cooperates orderType network history self) history self

section Handlers

attribute [local simp] Obeys Relies Guarantees Heeds milestone asksOrder TradeCall.Succeeds
  PurseRequest.Succeeds cooperates_iff Plays TakerPhase.Shows

variable {orderType network} {history : History FatCrabTakerActor TakerMsg tradeInterface}
  {self : FatCrabTakerActor} {buy : FatCrabTakerBuyActor} {sell : FatCrabTakerSellActor}
  {uuid : Uuid} {notifTx : Option NotifTx}

/-- An observation that begins no phase leaves a cooperating taker as it is. -/
theorem Cooperates.observe (hcooperates : Cooperates orderType network history self)
    {entry : Entry FatCrabTakerActor TakerMsg tradeInterface} (hentry : milestone entry = none) :
    Cooperates orderType network (entry :: history) self := by
  obtain ⟨hplays, hshows, hlistening⟩ := hcooperates
  have hphase : phase (entry :: history) = phase history := by
    rw [phase_cons, hentry]
    rfl
  constructor
  · exact hplays
  · rw [hphase]
    exact hshows
  · rw [hphase]
    exact hlistening

theorem obeys_takeOrder (hcooperates : Cooperates orderType network history self)
    (hphase : phase history = .fresh) (hlistening : self.notifTx.isSome)
    (hasked : asked history = true) : Obeys orderType network takeOrder history self := by
  obtain ⟨inner, uuid, notifTx⟩ := self
  have hplays := hcooperates.plays
  cases inner with
  | buy buy =>
      cases orderType with
      | sell => exact hplays.elim
      | buy =>
          obtain ⟨hnetwork, hprinted, hnotif⟩ := hplays
          simp [takeOrder, setState, hphase, hlistening, hnetwork, hprinted, hnotif, hasked]
  | sell sell =>
      cases orderType with
      | buy => exact hplays.elim
      | sell =>
          obtain ⟨hnetwork, hnotif⟩ := hplays
          simp [takeOrder, setState, hphase, hlistening, hnetwork, hnotif, hasked]

/-- Only a Buy taker releases when it is asked to. -/
theorem obeys_releaseNotifyPeer (hround : Bitcoin.RoundTrip)
    (hcooperates : Cooperates orderType network history self) (hphase : phase history = .accepted)
    {txid : Option String} (hasked : MayAsk (.releaseNotifyPeer txid) self) :
    Obeys orderType network (handleRequest (.releaseNotifyPeer txid)) history self := by
  obtain ⟨inner, uuid, notifTx⟩ := self
  obtain ⟨hplays, -, hlistening⟩ := hcooperates
  rw [hphase] at hlistening
  have hlistener : notifTx.isSome = true := hlistening (by decide)
  cases inner with
  | buy buy =>
      cases orderType with
      | sell => exact hplays.elim
      | buy =>
          obtain ⟨hnetwork, hprinted, hnotif⟩ := hplays
          obtain ⟨address, hparse, htext, hvalid⟩ := hprinted.parse hround
          obtain ⟨text, rfl⟩ := Option.isSome_iff_exists.mp hasked.2
          have hinforms : (SerdeGeneric.fatCrabPeerMessage
              ⟨Bitcoin.addressToString address, text⟩).InformsMaker .buy network :=
            ⟨_, rfl, address, rfl, hvalid⟩
          simp [handleRequest, FatCrabTakerBuyActor.notifyPeer, hphase, hnetwork, hparse,
            hprinted, hnotif, hlistener, hinforms]
  | sell sell => exact hasked.elim

theorem obeys_tradeComplete (hcooperates : Cooperates orderType network history self)
    (hphase : phase history = .notified) :
    Obeys orderType network (handleRequest .tradeComplete) history self := by
  obtain ⟨inner, uuid, notifTx⟩ := self
  obtain ⟨hplays, -, hlistening⟩ := hcooperates
  rw [hphase] at hlistening
  have hlistener : notifTx.isSome = true := hlistening (by decide)
  cases inner with
  | buy buy =>
      cases orderType with
      | sell => exact hplays.elim
      | buy =>
          obtain ⟨hnetwork, hprinted, hnotif⟩ := hplays
          simp [handleRequest, FatCrabTakerBuyActor.tradeComplete, hphase, hnetwork, hprinted,
            hnotif, hlistener]
  | sell sell =>
      cases orderType with
      | buy => exact hplays.elim
      | sell =>
          obtain ⟨hnetwork, hnotif⟩ := hplays
          simp [handleRequest, FatCrabTakerSellActor.tradeComplete, hphase, hnetwork, hnotif,
            hlistener]

/-- A request that is answered from the store. -/
theorem obeys_answer (hcooperates : Cooperates orderType network history self)
    (answer : FatCrabTakerActor → Rsp) :
    Obeys orderType network (do let self ← Program.read; respond (answer self)) history self := by
  simp [-cooperates_iff]
  exact hcooperates.observe rfl

theorem obeys_queryTradeRsp (hcooperates : Cooperates orderType network history self) :
    Obeys orderType network (handleRequest .queryTradeRsp) history self := by
  obtain ⟨inner, uuid, notifTx⟩ := self
  cases inner with
  | buy buy =>
      simp [handleRequest, FatCrabTakerBuyActor.queryTradeRsp, -cooperates_iff]
      exact hcooperates.observe rfl
  | sell sell =>
      simp [handleRequest, FatCrabTakerSellActor.queryTradeRsp, -cooperates_iff]
      exact hcooperates.observe rfl

theorem obeys_checkBtcTxConf (hcooperates : Cooperates orderType network history self) :
    Obeys orderType network (handleRequest .checkBtcTxConf) history self := by
  obtain ⟨inner, uuid, notifTx⟩ := self
  cases inner with
  | buy buy =>
      cases htxid : buy.data.peerBtcTxid with
      | none =>
          simp [handleRequest, FatCrabTakerBuyActor.checkBtcTxConfirmation, htxid,
            -cooperates_iff]
          exact hcooperates.observe rfl
      | some txid =>
          simp [handleRequest, FatCrabTakerBuyActor.checkBtcTxConfirmation, htxid,
            -cooperates_iff]
          intro confirmations
          exact (hcooperates.observe rfl).observe rfl
  | sell sell =>
      simp [handleRequest, FatCrabTakerSellActor.checkBtcTxConfirmation, -cooperates_iff]
      exact hcooperates.observe rfl

/-- The listener is set in both actors. -/
theorem obeys_registerNotifTx (hcooperates : Cooperates orderType network history self)
    (tx : NotifTx) : Obeys orderType network (registerNotifTx tx) history self := by
  have hregistered : Cooperates orderType network history (self.withNotifTx (some tx)) := by
    obtain ⟨inner, uuid, notifTx⟩ := self
    obtain ⟨hplays, hshows, -⟩ := hcooperates
    cases inner with
    | buy buy =>
        cases orderType with
        | sell => exact hplays.elim
        | buy =>
            obtain ⟨hnetwork, hprinted, -⟩ := hplays
            exact ⟨⟨hnetwork, hprinted, rfl⟩, hshows, fun _ => rfl⟩
    | sell sell =>
        cases orderType with
        | buy => exact hplays.elim
        | sell => exact ⟨⟨hplays.1, rfl⟩, hshows, fun _ => rfl⟩
  simp [registerNotifTx, setNotifTx, -cooperates_iff]
  exact hregistered.observe rfl

/-- A request that the user may make is served. -/
theorem obeys_handleRequest (hround : Bitcoin.RoundTrip) {request : FatCrabTakerRequest}
    (hcooperates : Cooperates orderType network history self) (hasked : MayAsk request self) :
    Obeys orderType network (handleRequest request)
      (.received (.request request) self :: history) self := by
  have hobserved : Cooperates orderType network (.received (.request request) self :: history)
      self := hcooperates.observe rfl
  have hshows := hcooperates.shows
  cases request with
  | takeOrder =>
      obtain ⟨hstate, hlistening⟩ := hasked
      rw [hstate] at hshows
      exact obeys_takeOrder hobserved (TakerPhase.eq_of_shows_new hshows) hlistening rfl
  | releaseNotifyPeer txid =>
      refine obeys_releaseNotifyPeer hround hobserved ?_ hasked
      obtain ⟨inner, uuid, notifTx⟩ := self
      cases inner with
      | buy buy =>
          have hstate : buy.data.state = .offerAccepted := hasked.1
          rw [state_buy, hstate] at hshows
          exact TakerPhase.eq_of_shows_offerAccepted hshows
      | sell sell => exact hasked.elim
  | tradeComplete =>
      exact obeys_tradeComplete hobserved (TakerPhase.eq_of_shows_inbound hshows hasked)
  | getOrderDetails => exact obeys_answer hobserved _
  | getState => exact obeys_answer hobserved _
  | getPeerBtcTxid => exact obeys_answer hobserved _
  | queryTradeRsp => exact obeys_queryTradeRsp hobserved
  | queryPeerMsg => exact obeys_answer hobserved _
  | checkBtcTxConf => exact obeys_checkBtcTxConf hobserved
  | registerNotifTx tx => exact obeys_registerNotifTx hobserved tx
  | unregisterNotifTx | shutdown => exact hasked.elim

/-- The trade response is stored, or acted on: a Sell taker pays and tells the maker before
it waits again. -/
theorem obeys_handleTradeRspNotif (hround : Bitcoin.RoundTrip)
    (hcooperates : Cooperates orderType network history self) {envelope : TradeResponseEnvelope}
    (hphase : phase history = .taken)
    (hresponse : envelope.tradeRsp.Accepts orderType network ∨ envelope.tradeRsp.Rejects) :
    Heeds (.received (.notif (.ok (.tradeRsp envelope))) self) ∧
      Obeys orderType network (handleTradeRspNotif envelope)
        (.received (.notif (.ok (.tradeRsp envelope))) self :: history) self := by
  obtain ⟨inner, uuid, notifTx⟩ := self
  obtain ⟨hplays, hshows, hlistening⟩ := hcooperates
  rw [hphase] at hshows hlistening
  obtain ⟨listener, rfl⟩ := Option.isSome_iff_exists.mp (hlistening (by decide))
  cases inner with
  | buy buy =>
      cases orderType with
      | sell => exact hplays.elim
      | buy =>
          obtain ⟨hnetwork, hprinted, hnotif⟩ := hplays
          have hstate : buy.data.state = .submittedOffer := hshows
          have hinner : buy.notifTx = some listener := hnotif
          have hheard : buy.notifTx.isSome = true := by
            rw [hinner]
            rfl
          rcases hresponse with ⟨receiveAddress, haccept, -⟩ | hreject
          · refine ⟨⟨hstate, _, haccept, hheard⟩, ?_⟩
            simp [handleTradeRspNotif, FatCrabTakerBuyActor.handleTradeRspNotif,
              FatCrabTakerBuyActor.tradeRspState, hstate, hinner, haccept, hnetwork, hprinted]
          · have hrejected : FatCrabTradeRsp.fromN3xbTradeRsp envelope.tradeRsp = some .reject :=
              hreject
            refine ⟨⟨hstate, _, hrejected, hheard⟩, ?_⟩
            simp [handleTradeRspNotif, FatCrabTakerBuyActor.handleTradeRspNotif,
              FatCrabTakerBuyActor.tradeRspState, hstate, hinner, hrejected, hnetwork, hprinted]
  | sell sell =>
      cases orderType with
      | buy => exact hplays.elim
      | sell =>
          obtain ⟨hnetwork, hnotif⟩ := hplays
          have hstate : sell.data.state = .submittedOffer := hshows
          have hinner : sell.notifTx = some listener := hnotif
          have hheard : sell.notifTx.isSome = true := by
            rw [hinner]
            rfl
          rcases hresponse with ⟨receiveAddress, haccept, hprinted⟩ | hreject
          · obtain ⟨address, rfl, hvalid⟩ := hprinted rfl
            -- the payment and the message to the maker come before the notice to the user
            have hparse := hround.address address
            rw [← hnetwork] at hvalid
            have hinforms : ∀ txid : Txid, (SerdeGeneric.fatCrabPeerMessage
                ⟨sell.data.fatcrabRxAddr, Bitcoin.txidToString txid⟩).InformsMaker .sell network :=
              fun txid => ⟨_, rfl, txid, rfl⟩
            refine ⟨⟨hstate, _, haccept, hheard, ?_⟩, ?_⟩
            · rintro _ ⟨⟩
              exact ⟨address, hparse, hvalid⟩
            simp [handleTradeRspNotif, FatCrabTakerSellActor.handleTradeRspNotif,
              FatCrabTakerSellActor.releaseBtcNotifyPeer, FatCrabTakerSellActor.notifyTradeRsp,
              hstate, hinner, haccept, hparse, hvalid, hinforms]
            exact fun _ => hnetwork
          · have hrejected : FatCrabTradeRsp.fromN3xbTradeRsp envelope.tradeRsp = some .reject :=
              hreject
            refine ⟨⟨hstate, _, hrejected, hheard, by simp⟩, ?_⟩
            simp [handleTradeRspNotif, FatCrabTakerSellActor.handleTradeRspNotif,
              FatCrabTakerSellActor.notifyTradeRsp, hstate, hinner, hrejected, hnetwork]

/-- The first peer message after the taker's own is stored. -/
theorem obeys_handlePeerNotif (hround : Bitcoin.RoundTrip)
    (hcooperates : Cooperates orderType network history self) {envelope : PeerEnvelope}
    (hphase : phase history = .sent) (hinforms : envelope.message.InformsTaker orderType) :
    Heeds (.received (.notif (.ok (.peer envelope))) self) ∧
      Obeys orderType network (handlePeerNotif envelope)
        (.received (.notif (.ok (.peer envelope))) self :: history) self := by
  obtain ⟨inner, uuid, notifTx⟩ := self
  obtain ⟨hplays, hshows, hlistening⟩ := hcooperates
  rw [hphase] at hshows hlistening
  obtain ⟨listener, rfl⟩ := Option.isSome_iff_exists.mp (hlistening (by decide))
  obtain ⟨content, hcontent, hfits⟩ := hinforms
  have hmessage : envelope.message.asFatCrabPeerMessage = some content := by
    rw [hcontent]
    rfl
  cases inner with
  | buy buy =>
      cases orderType with
      | sell => exact hplays.elim
      | buy =>
          obtain ⟨hnetwork, hprinted, hnotif⟩ := hplays
          obtain ⟨txid, htext⟩ := hfits
          have hparse := hround.txid txid
          rw [← htext] at hparse
          have hstate : buy.data.state = .notifiedOutbound := hshows
          have hinner : buy.notifTx = some listener := hnotif
          refine ⟨⟨hstate, rfl, content, hmessage, txid, hparse⟩, ?_⟩
          simp [handlePeerNotif, FatCrabTakerBuyActor.handlePeerNotif, hstate, hmessage, hparse,
            hnetwork, hprinted, hinner]
  | sell sell =>
      cases orderType with
      | buy => exact hplays.elim
      | sell =>
          obtain ⟨hnetwork, hnotif⟩ := hplays
          have hstate : sell.data.state = .notifiedOutbound := hshows
          have hinner : sell.notifTx = some listener := hnotif
          refine ⟨⟨hstate, rfl, content, hmessage, trivial⟩, ?_⟩
          simp [handlePeerNotif, hstate, hmessage, hnetwork, hinner]

/-- The taker keeps its part of a cooperative trade. -/
theorem contract (hround : Bitcoin.RoundTrip) :
    Contract code (Relies orderType network) (Guarantees orderType network)
      (Cooperates orderType network) := by
  constructor
  intro message history self hcooperates hrelies
  -- the loop goes on after every handler
  have hnext : ∀ {program : Handler FatCrabTakerActor Unit}
      {history : History FatCrabTakerActor TakerMsg tradeInterface} {self : FatCrabTakerActor},
      Obeys orderType network program history self →
        (do program; return .next : Handler FatCrabTakerActor Flow).Meets
          (Relies orderType network) (Guarantees orderType network)
          (fun history self flow => flow = .next ∧ Cooperates orderType network history self)
          history self := by
    intro program history self hobeys
    rw [Program.meets_bind]
    exact hobeys.mono fun history self _ hcooperates => ⟨rfl, hcooperates⟩
  cases message with
  | request request =>
      have hobeys := obeys_handleRequest hround hcooperates hrelies
      refine ⟨⟨trivial, trivial⟩, ?_⟩
      cases request with
      | shutdown => exact hrelies.elim
      | _ => exact hnext hobeys
  | notif result =>
      cases result with
      | error error =>
          have hquiet : Cooperates orderType network
              (.received (.notif (.error error)) self :: history) self := hcooperates.observe rfl
          exact ⟨⟨trivial, trivial⟩, @hnext (handleNotif (.error error)) _ _ hquiet⟩
      | ok notif =>
          cases notif with
          | tradeRsp envelope =>
              obtain ⟨hphase, hresponse⟩ := hrelies
              obtain ⟨hheeds, hobeys⟩ :=
                obeys_handleTradeRspNotif hround hcooperates hphase hresponse
              exact ⟨⟨hheeds, trivial⟩, hnext hobeys⟩
          | peer envelope =>
              obtain ⟨hphase, hinforms⟩ := hrelies
              obtain ⟨hheeds, hobeys⟩ := obeys_handlePeerNotif hround hcooperates hphase hinforms
              exact ⟨⟨hheeds, trivial⟩, hnext hobeys⟩

/-- A new taker keeps its contract from the start. -/
theorem meets_launch {taker : FatCrabTakerActor}
    (hcooperates : Cooperates orderType network [] taker) :
    (Actor.launch code taker).Meets (Relies orderType network) (Guarantees orderType network)
      (Cooperates orderType network) := by
  refine ⟨trivial, ?_⟩
  simp [Actor.launch, code, start, -cooperates_iff]
  exact hcooperates.observe rfl

end Handlers

section Stores

/-- The state that a trade response leads to. A Sell taker has paid by then. -/
def responseState (self : FatCrabTakerActor) : FatCrabTradeRsp → FatCrabTakerState
  | .accept _ => match self.inner with
      | .buy _ => .offerAccepted
      | .sell _ => .notifiedOutbound
  | .reject => .offerRejected

/-- The state that a peer message leads to. -/
def peerNotifState (self : FatCrabTakerActor) : FatCrabTakerState :=
  match self.inner with
  | .buy _ => .inboundBtcNotified
  | .sell _ => .inboundFcNotified

/-- What is kept of a trade response: a Buy taker keeps the envelope, a Sell taker the address
that it pays to. -/
def Keeps (tradeRsp : FatCrabTradeRspEnvelope) (self : FatCrabTakerActor) : Prop :=
  match self.inner with
  | .buy actor => actor.data.tradeRspEnvelope = some tradeRsp
  | .sell actor => ∀ receiveAddress, tradeRsp.tradeRsp = .accept receiveAddress →
      actor.data.peerBtcAddr = some receiveAddress

/-- The stored message of the peer. -/
def storedPeerEnvelope (self : FatCrabTakerActor) : Option FatCrabPeerEnvelope :=
  match self.inner with
  | .buy actor => actor.data.peerEnvelope
  | .sell actor => actor.data.peerEnvelope

/-- A message of the maker is stored, and the taker goes on to the next state. -/
def Stores : Entry FatCrabTakerActor TakerMsg tradeInterface → Prop
  | .received (.notif (.ok (.tradeRsp envelope))) self => ∃ tradeRsp,
      FatCrabTradeRsp.fromN3xbTradeRsp envelope.tradeRsp = some tradeRsp ∧
        ∀ history : History _ TakerMsg _,
          Leads (handle (.notif (.ok (.tradeRsp envelope)))) history self fun after =>
            after.state = self.responseState tradeRsp ∧ after.Keeps ⟨tradeRsp, envelope⟩
  | .received (.notif (.ok (.peer envelope))) self => ∃ content,
      envelope.message.asFatCrabPeerMessage = some content ∧ ∀ history : History _ TakerMsg _,
        Leads (handle (.notif (.ok (.peer envelope)))) history self fun after =>
          after.state = self.peerNotifState ∧ after.storedPeerEnvelope = some ⟨content, envelope⟩
  | _ => True

attribute [local simp] Leads Succeeding TradeCall.Succeeds PurseRequest.Succeeds handle handleNotif

variable {self : FatCrabTakerActor}

theorem stores_tradeRsp {envelope : TradeResponseEnvelope}
    (hheeds : Heeds (.received (.notif (.ok (.tradeRsp envelope))) self)) :
    Stores (.received (.notif (.ok (.tradeRsp envelope))) self) := by
  obtain ⟨inner, uuid, notifTx⟩ := self
  obtain ⟨hstate, tradeRsp, hread, hfits⟩ := hheeds
  refine ⟨tradeRsp, hread, fun history => ?_⟩
  cases inner with
  | buy buy =>
      rw [state_buy] at hstate
      obtain ⟨listener, hinner⟩ := Option.isSome_iff_exists.mp hfits
      cases tradeRsp with
      | accept receiveAddress | reject =>
          simp [handleTradeRspNotif, FatCrabTakerBuyActor.handleTradeRspNotif,
            FatCrabTakerBuyActor.tradeRspState, responseState, hstate, hinner, hread, Keeps]
  | sell sell =>
      rw [state_sell] at hstate
      obtain ⟨hheard, hpayable⟩ := hfits
      obtain ⟨listener, hinner⟩ := Option.isSome_iff_exists.mp hheard
      cases tradeRsp with
      | accept receiveAddress =>
          obtain ⟨address, hparse, hvalid⟩ := hpayable receiveAddress rfl
          simp [handleTradeRspNotif, FatCrabTakerSellActor.handleTradeRspNotif,
            FatCrabTakerSellActor.releaseBtcNotifyPeer, FatCrabTakerSellActor.notifyTradeRsp,
            responseState, hstate, hinner, hread, hparse, hvalid, Keeps]
      | reject =>
          simp [handleTradeRspNotif, FatCrabTakerSellActor.handleTradeRspNotif,
            FatCrabTakerSellActor.notifyTradeRsp, responseState, hstate, hinner, hread, Keeps]

theorem stores_peer {envelope : PeerEnvelope}
    (hheeds : Heeds (.received (.notif (.ok (.peer envelope))) self)) :
    Stores (.received (.notif (.ok (.peer envelope))) self) := by
  obtain ⟨inner, uuid, notifTx⟩ := self
  obtain ⟨hstate, hlistening, content, hmessage, hfits⟩ := hheeds
  obtain ⟨listener, rfl⟩ := Option.isSome_iff_exists.mp hlistening
  refine ⟨content, hmessage, fun history => ?_⟩
  cases inner with
  | buy buy =>
      rw [state_buy] at hstate
      obtain ⟨txid, hparse⟩ := hfits
      simp [handlePeerNotif, FatCrabTakerBuyActor.handlePeerNotif, hstate, hmessage, hparse,
        peerNotifState, storedPeerEnvelope]
  | sell sell =>
      rw [state_sell] at hstate
      simp [handlePeerNotif, hstate, hmessage, peerNotifState, storedPeerEnvelope]

/-- Whatever is heeded is stored. -/
theorem stores_of_heeds {entry : Entry FatCrabTakerActor TakerMsg tradeInterface}
    (hheeds : Heeds entry) : Stores entry := by
  cases entry with
  | called c reply self => trivial
  | received message self =>
      cases message with
      | request request => trivial
      | notif result =>
          cases result with
          | error error => trivial
          | ok notif =>
              cases notif with
              | tradeRsp envelope => exact stores_tradeRsp hheeds
              | peer envelope => exact stores_peer hheeds

end Stores

end FatCrabTakerActor

end FatCrabTrading
