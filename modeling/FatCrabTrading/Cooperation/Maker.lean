import FatCrabTrading.Cooperation.Protocol

/-! # The maker of a cooperative trade

A maker that is asked for each step in the state for it, and to which the taker's messages
come in their order, takes one step of the trade after the other.
-/

namespace FatCrabTrading

open Effect

variable [Bitcoin]

/-- How far a maker has come, by what it last sent or received. -/
inductive MakerPhase where
  | fresh
  | posted
  | offered
  | accepted
  | rejected
  | notified
  | released
  deriving DecidableEq

/-- The state that a maker waits in. -/
def MakerPhase.Shows (orderType : FatCrabOrderType) : MakerPhase → FatCrabMakerState → Prop
  | .fresh, state => state = .new
  | .posted, state => state = .waitingForOffers
  | .offered, state => state = .receivedOffer
  | .accepted, state => state = .acceptedOffer
  | .rejected, state => state = .receivedOffer
  | .notified, state => state = match orderType with
      | .buy => .inboundFcNotified
      | .sell => .inboundBtcNotified
  | .released, state => state = .notifiedOutbound ∨ state = .tradeCompleted

namespace MakerPhase

variable {orderType : FatCrabOrderType} {reached : MakerPhase}

omit [Bitcoin]

theorem eq_of_shows_new (hshows : reached.Shows orderType .new) : reached = .fresh := by
  cases reached <;> cases orderType <;> simp_all [Shows]

theorem eq_of_shows_receivedOffer (hshows : reached.Shows orderType .receivedOffer) :
    reached = .offered ∨ reached = .rejected := by
  cases reached <;> cases orderType <;> simp_all [Shows]

theorem eq_of_shows_inboundFcNotified (hshows : reached.Shows orderType .inboundFcNotified) :
    reached = .notified := by
  cases reached <;> cases orderType <;> simp_all [Shows]

theorem eq_of_shows_inboundBtcNotified (hshows : reached.Shows orderType .inboundBtcNotified) :
    reached = .notified := by
  cases reached <;> cases orderType <;> simp_all [Shows]

theorem eq_of_shows_notifiedOutbound (hshows : reached.Shows orderType .notifiedOutbound) :
    reached = .released := by
  cases reached <;> cases orderType <;> simp_all [Shows]

end MakerPhase

namespace FatCrabMakerActor

/-- The phase that an observation begins. -/
def milestone : Entry FatCrabMakerActor MakerMsg tradeInterface → Option MakerPhase
  | .called (.n3xb .postNewOrder) _ _ => some .posted
  | .received (.notif (.ok (.offer _))) _ => some .offered
  | .called (.n3xb (.acceptOffer _)) _ _ => some .accepted
  | .called (.n3xb (.rejectOffer _)) _ _ => some .rejected
  | .received (.notif (.ok (.peer _))) _ => some .notified
  | .called (.n3xb (.sendPeerMessage _)) _ _ => some .released
  | _ => none

/-- No observation leads back to the first phase. -/
theorem ne_fresh_of_milestone {entry : Entry FatCrabMakerActor MakerMsg tradeInterface}
    {reached : MakerPhase} (hmilestone : milestone entry = some reached) : reached ≠ .fresh := by
  rintro rfl
  unfold milestone at hmilestone
  split at hmilestone <;> cases hmilestone

def phase : History FatCrabMakerActor MakerMsg tradeInterface → MakerPhase
  | [] => .fresh
  | entry :: past => (milestone entry).getD (phase past)

@[simp] theorem phase_nil : phase [] = .fresh := rfl

@[simp] theorem phase_cons (entry : Entry FatCrabMakerActor MakerMsg tradeInterface)
    (past : History FatCrabMakerActor MakerMsg tradeInterface) :
    phase (entry :: past) = (milestone entry).getD (phase past) := rfl

/-- The call that posts the order. -/
def postsOrder : Entry FatCrabMakerActor MakerMsg tradeInterface → Bool
  | .called (.n3xb .postNewOrder) _ _ => true
  | _ => false

/-- The order has been posted, and can be found and taken. -/
def posted (history : History FatCrabMakerActor MakerMsg tradeInterface) : Bool :=
  history.any postsOrder

/-- A maker that has posted its order is not at its first phase any more. -/
theorem phase_ne_fresh_of_posted {history : History FatCrabMakerActor MakerMsg tradeInterface}
    (hposted : posted history = true) : phase history ≠ .fresh := by
  induction history with
  | nil => cases hposted
  | cons entry past ih =>
      rw [phase_cons]
      cases hmilestone : milestone entry with
      | some reached => exact ne_fresh_of_milestone hmilestone
      | none =>
          have hentry : postsOrder entry = false := by
            unfold postsOrder
            split
            · cases hmilestone
            · rfl
          apply ih
          rwa [posted, List.any_cons, hentry, Bool.false_or] at hposted

/-- The user's request for a trade response. -/
def asksResponse : Entry FatCrabMakerActor MakerMsg tradeInterface → Bool
  | .received (.request (.tradeResponse _ _)) _ => true
  | _ => false

/-- The user has responded to the offer. -/
def responded (history : History FatCrabMakerActor MakerMsg tradeInterface) : Bool :=
  history.any asksResponse

@[simp] theorem responded_cons (entry : Entry FatCrabMakerActor MakerMsg tradeInterface)
    (past : History FatCrabMakerActor MakerMsg tradeInterface) :
    responded (entry :: past) = (asksResponse entry || responded past) := rfl

def offerEnvelopes (self : FatCrabMakerActor) : List FatCrabOfferEnvelope :=
  match self.inner with
  | .buy actor => actor.data.offerEnvelopes
  | .sell actor => actor.data.offerEnvelopes

/-- What a cooperative user asks for: each step in the state for it, one response to the
offer, and whatever changes nothing. A seller names its transaction. -/
def MayAsk (request : FatCrabMakerRequest) (self : FatCrabMakerActor)
    (past : History FatCrabMakerActor MakerMsg tradeInterface) : Prop :=
  match request with
  | .postNewOrder => self.state = .new ∧ self.notifTx.isSome
  | .tradeResponse _ offerEnvelope =>
      self.state = .receivedOffer ∧ offerEnvelope ∈ self.offerEnvelopes ∧ responded past = false
  | .releaseNotifyPeer fatcrabTxid => match self.inner with
      | .buy _ => self.state = .inboundFcNotified
      | .sell _ => self.state = .inboundBtcNotified ∧ fatcrabTxid.isSome
  | .tradeComplete => self.state = .notifiedOutbound
  | .cancelOrder | .unregisterNotifTx | .shutdown => False
  | _ => True

instance decidableMayAsk : (request : FatCrabMakerRequest) → (self : FatCrabMakerActor) →
    (past : History FatCrabMakerActor MakerMsg tradeInterface) →
      Decidable (MayAsk request self past)
  | .postNewOrder, _, _ => inferInstanceAs (Decidable (_ ∧ _))
  | .tradeResponse _ offerEnvelope, self, _ =>
      inferInstanceAs (Decidable (_ ∧ offerEnvelope ∈ self.offerEnvelopes ∧ _))
  | .releaseNotifyPeer _, ⟨.buy buy, _, _⟩, _ =>
      inferInstanceAs (Decidable (buy.data.state = .inboundFcNotified))
  | .releaseNotifyPeer fatcrabTxid, ⟨.sell sell, _, _⟩, _ =>
      inferInstanceAs (Decidable (sell.data.state = .inboundBtcNotified ∧ fatcrabTxid.isSome))
  | .tradeComplete, self, _ => inferInstanceAs (Decidable (self.state = .notifiedOutbound))
  | .cancelOrder, _, _ | .unregisterNotifTx, _, _ | .shutdown, _, _ => .isFalse id
  | .getState, _, _ | .getOrderDetails, _, _ | .getPeerPubkey, _, _ | .getPeerBtcTxid, _, _
  | .queryOffers, _, _ | .queryPeerMsg, _, _ | .checkBtcTxConf, _, _
  | .registerNotifTx _, _, _ => .isTrue trivial

/-- The maker of the trade, with what its next release needs: a Buy maker has the peer's
address once it was notified, a Sell maker has its own. -/
def Plays (orderType : FatCrabOrderType) (network : Network) (reached : MakerPhase)
    (self : FatCrabMakerActor) : Prop :=
  match orderType, self.inner with
  | .buy, .buy actor => actor.network = network ∧
      (reached = .notified → ∃ text, actor.data.peerBtcAddr = some text ∧ Printed network text)
  | .sell, .sell actor => actor.network = network ∧ Printed network actor.data.btcRxAddr
  | _, _ => False

variable (orderType : FatCrabOrderType) (network : Network)

/-- What the maker relies on. -/
def Relies : Entry FatCrabMakerActor MakerMsg tradeInterface →
    History FatCrabMakerActor MakerMsg tradeInterface → Prop
  | .received (.request request) self, past => MayAsk request self past
  | .received (.notif (.ok (.offer envelope))) _, past =>
      phase past = .posted ∧ FatCrabOffer.validateN3xbOffer envelope.offer = .ok ()
  | .received (.notif (.ok (.peer envelope))) _, past =>
      phase past = .accepted ∧ envelope.message.InformsMaker orderType network
  | .received (.notif (.error _)) _, _ => True
  | .called c reply _, _ => c.Succeeds reply

/-- The maker serves an offer or a peer message in the state for it: neither is refused,
ignored or without a listener. -/
def Heeds : Entry FatCrabMakerActor MakerMsg tradeInterface → Prop
  | .received (.notif (.ok (.offer envelope))) self =>
      (self.state = .waitingForOffers ∨ self.state = .receivedOffer) ∧
        FatCrabOffer.validateN3xbOffer envelope.offer = .ok () ∧ self.notifTx.isSome
  | .received (.notif (.ok (.peer envelope))) self =>
      self.state = .acceptedOffer ∧ self.notifTx.isSome ∧
        ∃ content, envelope.message.asFatCrabPeerMessage = some content ∧ match self.inner with
          | .buy actor => ∃ address, Bitcoin.addressFromStr content.receiveAddress = some address ∧
              Bitcoin.isValidForNetwork address actor.network = true
          | .sell _ => ∃ txid, Bitcoin.txidFromStr content.txid = some txid
  | _ => True

/-- What the maker guarantees: each step comes after the one before, its messages can be
used, and it heeds what it receives. -/
def Guarantees (entry : Entry FatCrabMakerActor MakerMsg tradeInterface)
    (past : History FatCrabMakerActor MakerMsg tradeInterface) : Prop :=
  Heeds entry ∧ match entry with
    | .called (.n3xb .postNewOrder) _ _ => phase past = .fresh
    | .called (.n3xb (.acceptOffer response)) _ _ =>
        phase past = .offered ∧ response.Accepts orderType network
    | .called (.n3xb (.rejectOffer response)) _ _ => phase past = .offered ∧ response.Rejects
    | .called (.n3xb (.sendPeerMessage message)) _ _ =>
        phase past = .notified ∧ message.InformsTaker orderType
    | _ => True

/-- The maker between two messages. -/
@[mk_iff]
structure Cooperates (history : History FatCrabMakerActor MakerMsg tradeInterface)
    (maker : FatCrabMakerActor) : Prop where
  plays : maker.Plays orderType network (phase history)
  shows : (phase history).Shows orderType maker.state
  listening : phase history ≠ .fresh → maker.notifTx.isSome
  responded : phase history = .rejected → responded history = true

/-- A handler that leaves the maker cooperating. -/
def Obeys (program : Handler FatCrabMakerActor Unit)
    (history : History FatCrabMakerActor MakerMsg tradeInterface) (self : FatCrabMakerActor) :
    Prop :=
  program.Meets (Relies orderType network) (Guarantees orderType network)
    (fun history self _ => Cooperates orderType network history self) history self

section Handlers

attribute [local simp] Obeys Relies Guarantees Heeds milestone asksResponse TradeCall.Succeeds
  PurseRequest.Succeeds cooperates_iff Plays MakerPhase.Shows

variable {orderType network} {history : History FatCrabMakerActor MakerMsg tradeInterface}
  {self : FatCrabMakerActor} {buy : FatCrabMakerBuyActor} {sell : FatCrabMakerSellActor}
  {uuid : Uuid} {notifTx : Option NotifTx}

/-- An observation that begins no phase leaves a cooperating maker as it is. -/
theorem Cooperates.observe (hcooperates : Cooperates orderType network history self)
    {entry : Entry FatCrabMakerActor MakerMsg tradeInterface} (hentry : milestone entry = none) :
    Cooperates orderType network (entry :: history) self := by
  obtain ⟨hplays, hshows, hlistening, hresponded⟩ := hcooperates
  have hphase : phase (entry :: history) = phase history := by
    rw [phase_cons, hentry]
    rfl
  constructor
  · rw [hphase]
    exact hplays
  · rw [hphase]
    exact hshows
  · rw [hphase]
    exact hlistening
  · rw [hphase]
    intro hrejected
    rw [responded_cons, hresponded hrejected, Bool.or_true]

theorem obeys_postNewOrder (hcooperates : Cooperates orderType network history self)
    (hphase : phase history = .fresh) (hlistening : self.notifTx.isSome) :
    Obeys orderType network postNewOrder history self := by
  obtain ⟨inner, uuid, notifTx⟩ := self
  have hplays := hcooperates.plays
  cases inner with
  | buy buy =>
      cases orderType with
      | sell => exact hplays.elim
      | buy =>
          obtain ⟨hnetwork, -⟩ := hplays
          simp [postNewOrder, setState, hphase, hlistening, hnetwork]
  | sell sell =>
      cases orderType with
      | buy => exact hplays.elim
      | sell =>
          obtain ⟨hnetwork, haddress⟩ := hplays
          simp [postNewOrder, setState, hphase, hlistening, hnetwork, haddress]

theorem obeys_tradeResponse (hround : Bitcoin.RoundTrip)
    (hcooperates : Cooperates orderType network history self) (hphase : phase history = .offered)
    (hresponded : responded history = true) (tradeRspType : FatCrabTradeRspType)
    (offerEnvelope : FatCrabOfferEnvelope) :
    Obeys orderType network (handleRequest (.tradeResponse tradeRspType offerEnvelope)) history
      self := by
  obtain ⟨inner, uuid, notifTx⟩ := self
  obtain ⟨hplays, hshows, hlistening, -⟩ := hcooperates
  rw [hphase] at hshows hlistening
  have hlistener : notifTx.isSome = true := hlistening (by decide)
  have hrejects : (rejectTradeRsp offerEnvelope.envelope.eventId .tradeEngineSpecific).Rejects :=
    rfl
  cases inner with
  | buy buy =>
      cases orderType with
      | sell => exact hplays.elim
      | buy =>
          obtain ⟨hnetwork, -⟩ := hplays
          cases tradeRspType with
          | accept =>
              have haccepts : (acceptTradeRsp offerEnvelope buy.data.fatcrabRxAddr).Accepts
                  .buy network := ⟨_, rfl, nofun⟩
              simp [handleRequest, FatCrabMakerBuyActor.tradeResponse, hphase, hnetwork,
                hlistener, haccepts]
          | reject =>
              have hstate : buy.data.state = .receivedOffer := hshows
              simp [handleRequest, FatCrabMakerBuyActor.tradeResponse, hphase, hnetwork, hstate,
                hlistener, hrejects, hresponded]
  | sell sell =>
      cases orderType with
      | buy => exact hplays.elim
      | sell =>
          obtain ⟨hnetwork, hprinted⟩ := hplays
          cases tradeRspType with
          | accept =>
              obtain ⟨address, hparse, htext, hvalid⟩ := hprinted.parse hround
              have haccepts : (acceptTradeRsp offerEnvelope
                  (Bitcoin.addressToString address)).Accepts .sell network :=
                ⟨_, rfl, fun _ => ⟨address, rfl, hvalid⟩⟩
              simp [handleRequest, FatCrabMakerSellActor.tradeResponse, hphase, hnetwork, hparse,
                hprinted, hlistener, haccepts]
          | reject =>
              have hstate : sell.data.state = .receivedOffer := hshows
              simp [handleRequest, FatCrabMakerSellActor.tradeResponse, hphase, hnetwork, hstate,
                hprinted, hlistener, hrejects, hresponded]

theorem obeys_releaseNotifyPeer (hround : Bitcoin.RoundTrip)
    (hcooperates : Cooperates orderType network history self) (hphase : phase history = .notified)
    {fatcrabTxid : Option String} (hasked : MayAsk (.releaseNotifyPeer fatcrabTxid) self history) :
    Obeys orderType network (handleRequest (.releaseNotifyPeer fatcrabTxid)) history self := by
  obtain ⟨inner, uuid, notifTx⟩ := self
  obtain ⟨hplays, -, hlistening, -⟩ := hcooperates
  rw [hphase] at hlistening
  have hlistener : notifTx.isSome = true := hlistening (by decide)
  cases inner with
  | buy buy =>
      cases orderType with
      | sell => exact hplays.elim
      | buy =>
          obtain ⟨hnetwork, haddressed⟩ := hplays
          -- the address came with the peer message that began this phase
          obtain ⟨text, htext, hprinted⟩ := haddressed hphase
          obtain ⟨address, hparse, -, -⟩ := hprinted.parse hround
          have hinforms : ∀ txid : Txid, (SerdeGeneric.fatCrabPeerMessage
              ⟨buy.data.fatcrabRxAddr, Bitcoin.txidToString txid⟩).InformsTaker .buy :=
            fun txid => ⟨_, rfl, txid, rfl⟩
          simp [handleRequest, FatCrabMakerBuyActor.releaseNotifyPeer, hphase, htext, hnetwork,
            hparse, hlistener, hinforms]
  | sell sell =>
      cases orderType with
      | buy => exact hplays.elim
      | sell =>
          obtain ⟨hnetwork, hprinted⟩ := hplays
          obtain ⟨address, hparse, -, -⟩ := hprinted.parse hround
          -- a Sell maker has nothing to tell unless the user gives the txid
          obtain ⟨txid, rfl⟩ := Option.isSome_iff_exists.mp hasked.2
          have hinforms : (SerdeGeneric.fatCrabPeerMessage
              ⟨Bitcoin.addressToString address, txid⟩).InformsTaker .sell := ⟨_, rfl, trivial⟩
          simp [handleRequest, FatCrabMakerSellActor.notifyPeer, hphase, hnetwork, hparse,
            hprinted, hlistener, hinforms]

theorem obeys_tradeComplete (hcooperates : Cooperates orderType network history self)
    (hphase : phase history = .released) :
    Obeys orderType network (handleRequest .tradeComplete) history self := by
  obtain ⟨inner, uuid, notifTx⟩ := self
  obtain ⟨hplays, -, hlistening, -⟩ := hcooperates
  rw [hphase] at hlistening
  have hlistener : notifTx.isSome = true := hlistening (by decide)
  cases inner with
  | buy buy =>
      cases orderType with
      | sell => exact hplays.elim
      | buy =>
          obtain ⟨hnetwork, -⟩ := hplays
          simp [handleRequest, FatCrabMakerBuyActor.tradeComplete, hphase, hnetwork, hlistener]
  | sell sell =>
      cases orderType with
      | buy => exact hplays.elim
      | sell =>
          obtain ⟨hnetwork, hprinted⟩ := hplays
          simp [handleRequest, FatCrabMakerSellActor.tradeComplete, hphase, hnetwork, hprinted,
            hlistener]

/-- A request that is answered from the store. -/
theorem obeys_answer (hcooperates : Cooperates orderType network history self)
    (answer : FatCrabMakerActor → Rsp) :
    Obeys orderType network (do let self ← Program.read; respond (answer self)) history self := by
  simp [-cooperates_iff]
  exact hcooperates.observe rfl

theorem obeys_checkBtcTxConf (hcooperates : Cooperates orderType network history self) :
    Obeys orderType network (handleRequest .checkBtcTxConf) history self := by
  obtain ⟨inner, uuid, notifTx⟩ := self
  cases inner with
  | buy buy =>
      simp [handleRequest, FatCrabMakerBuyActor.checkBtcTxConfirmation, -cooperates_iff]
      exact hcooperates.observe rfl
  | sell sell =>
      cases htxid : sell.data.peerBtcTxid with
      | none =>
          simp [handleRequest, FatCrabMakerSellActor.checkBtcTxConfirmation, htxid,
            -cooperates_iff]
          exact hcooperates.observe rfl
      | some txid =>
          simp [handleRequest, FatCrabMakerSellActor.checkBtcTxConfirmation, htxid,
            -cooperates_iff]
          intro confirmations
          exact (hcooperates.observe rfl).observe rfl

theorem obeys_registerNotifTx (hcooperates : Cooperates orderType network history self)
    (tx : NotifTx) : Obeys orderType network (registerNotifTx tx) history self := by
  have hregistered : Cooperates orderType network history { self with notifTx := some tx } := by
    obtain ⟨hplays, hshows, -, hresponded⟩ := hcooperates
    exact ⟨hplays, hshows, fun _ => rfl, hresponded⟩
  simp [registerNotifTx, setNotifTx, -cooperates_iff]
  exact hregistered.observe rfl

/-- A request that the user may make is served. -/
theorem obeys_handleRequest (hround : Bitcoin.RoundTrip) {request : FatCrabMakerRequest}
    (hcooperates : Cooperates orderType network history self)
    (hasked : MayAsk request self history) :
    Obeys orderType network (handleRequest request)
      (.received (.request request) self :: history) self := by
  have hobserved : Cooperates orderType network (.received (.request request) self :: history)
      self := hcooperates.observe rfl
  have hshows := hcooperates.shows
  cases request with
  | postNewOrder =>
      obtain ⟨hstate, hlistening⟩ := hasked
      rw [hstate] at hshows
      exact obeys_postNewOrder hobserved (MakerPhase.eq_of_shows_new hshows) hlistening
  | tradeResponse tradeRspType offerEnvelope =>
      obtain ⟨hstate, -, hopen⟩ := hasked
      rw [hstate] at hshows
      have hphase : phase history = .offered := by
        rcases MakerPhase.eq_of_shows_receivedOffer hshows with hoffered | hrejected
        · exact hoffered
        -- an offer is answered once
        · rw [hcooperates.responded hrejected] at hopen
          cases hopen
      exact obeys_tradeResponse hround hobserved hphase rfl tradeRspType offerEnvelope
  | releaseNotifyPeer fatcrabTxid =>
      refine obeys_releaseNotifyPeer hround hobserved ?_ hasked
      obtain ⟨inner, uuid, notifTx⟩ := self
      cases inner with
      | buy buy =>
          have hstate : buy.data.state = .inboundFcNotified := hasked
          rw [state_buy, hstate] at hshows
          exact MakerPhase.eq_of_shows_inboundFcNotified hshows
      | sell sell =>
          have hstate : sell.data.state = .inboundBtcNotified := hasked.1
          rw [state_sell, hstate] at hshows
          exact MakerPhase.eq_of_shows_inboundBtcNotified hshows
  | tradeComplete =>
      have hstate : self.state = .notifiedOutbound := hasked
      rw [hstate] at hshows
      exact obeys_tradeComplete hobserved (MakerPhase.eq_of_shows_notifiedOutbound hshows)
  | getState => exact obeys_answer hobserved _
  | getOrderDetails => exact obeys_answer hobserved _
  | getPeerPubkey => exact obeys_answer hobserved _
  | getPeerBtcTxid => exact obeys_answer hobserved _
  | queryOffers => exact obeys_answer hobserved _
  | queryPeerMsg => exact obeys_answer hobserved _
  | checkBtcTxConf => exact obeys_checkBtcTxConf hobserved
  | registerNotifTx tx => exact obeys_registerNotifTx hobserved tx
  | cancelOrder | unregisterNotifTx | shutdown => exact hasked.elim

/-- The first offer is stored. -/
theorem obeys_handleOfferNotif (hcooperates : Cooperates orderType network history self)
    {envelope : OfferEnvelope} (hphase : phase history = .posted)
    (hvalid : FatCrabOffer.validateN3xbOffer envelope.offer = .ok ()) :
    Heeds (.received (.notif (.ok (.offer envelope))) self) ∧
      Obeys orderType network (handleOfferNotif envelope)
        (.received (.notif (.ok (.offer envelope))) self :: history) self := by
  obtain ⟨inner, uuid, notifTx⟩ := self
  obtain ⟨hplays, hshows, hlistening, -⟩ := hcooperates
  rw [hphase] at hshows hlistening
  obtain ⟨listener, rfl⟩ := Option.isSome_iff_exists.mp (hlistening (by decide))
  refine ⟨⟨.inl hshows, hvalid, rfl⟩, ?_⟩
  cases inner with
  | buy buy =>
      cases orderType with
      | sell => exact hplays.elim
      | buy =>
          obtain ⟨hnetwork, -⟩ := hplays
          have hstate : buy.data.state = .waitingForOffers := hshows
          simp [handleOfferNotif, handleOfferInUnexpectedState, recordOffer, hstate, hvalid,
            hnetwork]
  | sell sell =>
      cases orderType with
      | buy => exact hplays.elim
      | sell =>
          obtain ⟨hnetwork, hprinted⟩ := hplays
          have hstate : sell.data.state = .waitingForOffers := hshows
          simp [handleOfferNotif, handleOfferInUnexpectedState, recordOffer, hstate, hvalid,
            hnetwork, hprinted]

/-- The first peer message after the acceptance is stored. -/
theorem obeys_handlePeerNotif (hround : Bitcoin.RoundTrip)
    (hcooperates : Cooperates orderType network history self) {envelope : PeerEnvelope}
    (hphase : phase history = .accepted)
    (hinforms : envelope.message.InformsMaker orderType network) :
    Heeds (.received (.notif (.ok (.peer envelope))) self) ∧
      Obeys orderType network (handlePeerNotif envelope)
        (.received (.notif (.ok (.peer envelope))) self :: history) self := by
  obtain ⟨inner, uuid, notifTx⟩ := self
  obtain ⟨hplays, hshows, hlistening, -⟩ := hcooperates
  rw [hphase] at hshows hlistening
  obtain ⟨listener, rfl⟩ := Option.isSome_iff_exists.mp (hlistening (by decide))
  obtain ⟨content, hcontent, hfits⟩ := hinforms
  have hmessage : envelope.message.asFatCrabPeerMessage = some content := by
    rw [hcontent]
    rfl
  cases inner with
  | buy buy =>
      cases orderType with
      | sell => exact hplays.elim
      | buy =>
          obtain ⟨hnetwork, -⟩ := hplays
          obtain ⟨address, htext, hvalid⟩ := hfits
          have hparse := hround.address address
          rw [← htext] at hparse
          have hstate : buy.data.state = .acceptedOffer := hshows
          have hprinted : Printed network (Bitcoin.addressToString address) :=
            ⟨address, rfl, hvalid⟩
          rw [← hnetwork] at hvalid
          refine ⟨⟨hstate, rfl, content, hmessage, address, hparse, hvalid⟩, ?_⟩
          simp [handlePeerNotif, FatCrabMakerBuyActor.handlePeerNotif, setState, peerNotifState,
            hstate, hmessage, hparse, hvalid, hprinted]
          exact hnetwork
  | sell sell =>
      cases orderType with
      | buy => exact hplays.elim
      | sell =>
          obtain ⟨hnetwork, hprinted⟩ := hplays
          obtain ⟨txid, htext⟩ := hfits
          have hparse := hround.txid txid
          rw [← htext] at hparse
          have hstate : sell.data.state = .acceptedOffer := hshows
          refine ⟨⟨hstate, rfl, content, hmessage, txid, hparse⟩, ?_⟩
          simp [handlePeerNotif, FatCrabMakerSellActor.handlePeerNotif, setState, peerNotifState,
            hstate, hmessage, hparse, hprinted, hnetwork]

/-- The maker keeps its part of a cooperative trade. -/
theorem contract (hround : Bitcoin.RoundTrip) :
    Contract code (Relies orderType network) (Guarantees orderType network)
      (Cooperates orderType network) := by
  constructor
  intro message history self hcooperates hrelies
  -- the loop goes on after every handler
  have hnext : ∀ {program : Handler FatCrabMakerActor Unit}
      {history : History FatCrabMakerActor MakerMsg tradeInterface} {self : FatCrabMakerActor},
      Obeys orderType network program history self →
        (do program; return .next : Handler FatCrabMakerActor Flow).Meets
          (Relies orderType network) (Guarantees orderType network)
          (fun history self flow => flow = .next ∧ Cooperates orderType network history self)
          history self := by
    intro program history self hobeys
    rw [Program.meets_bind]
    exact hobeys.mono fun history self _ hcooperates => ⟨rfl, hcooperates⟩
  cases message with
  | request request =>
      have hobeys := obeys_handleRequest hround hcooperates hrelies
      refine ⟨⟨trivial, trivial⟩, ?_⟩
      cases request with
      | shutdown => exact hrelies.elim
      | _ => exact hnext hobeys
  | notif result =>
      cases result with
      | error error =>
          have hquiet : Cooperates orderType network
              (.received (.notif (.error error)) self :: history) self := hcooperates.observe rfl
          exact ⟨⟨trivial, trivial⟩, @hnext (handleNotif (.error error)) _ _ hquiet⟩
      | ok notif =>
          cases notif with
          | offer envelope =>
              obtain ⟨hphase, hvalid⟩ := hrelies
              obtain ⟨hheeds, hobeys⟩ := obeys_handleOfferNotif hcooperates hphase hvalid
              exact ⟨⟨hheeds, trivial⟩, hnext hobeys⟩
          | peer envelope =>
              obtain ⟨hphase, hinforms⟩ := hrelies
              obtain ⟨hheeds, hobeys⟩ := obeys_handlePeerNotif hround hcooperates hphase hinforms
              exact ⟨⟨hheeds, trivial⟩, hnext hobeys⟩

/-- A new maker keeps its contract from the start. -/
theorem meets_launch {maker : FatCrabMakerActor}
    (hcooperates : Cooperates orderType network [] maker) :
    (Actor.launch code maker).Meets (Relies orderType network) (Guarantees orderType network)
      (Cooperates orderType network) := by
  refine ⟨trivial, ?_⟩
  simp [Actor.launch, code, start, -cooperates_iff]
  exact hcooperates.observe rfl

end Handlers

section Stores

/-- The stored message of the peer. -/
def storedPeerEnvelope (self : FatCrabMakerActor) : Option FatCrabPeerEnvelope :=
  match self.inner with
  | .buy actor => actor.data.peerEnvelope
  | .sell actor => actor.data.peerEnvelope

/-- A message of the taker is stored, and the maker goes on to the next state. -/
def Stores : Entry FatCrabMakerActor MakerMsg tradeInterface → Prop
  | .received (.notif (.ok (.offer envelope))) self => ∀ history : History _ MakerMsg _,
      Leads (handle (.notif (.ok (.offer envelope)))) history self fun after =>
        after.state = .receivedOffer ∧
          after.offerEnvelopes = self.offerEnvelopes ++ [⟨envelope.pubkey, envelope⟩]
  | .received (.notif (.ok (.peer envelope))) self => ∃ content,
      envelope.message.asFatCrabPeerMessage = some content ∧ ∀ history : History _ MakerMsg _,
        Leads (handle (.notif (.ok (.peer envelope)))) history self fun after =>
          after.state = self.peerNotifState ∧ after.storedPeerEnvelope = some ⟨content, envelope⟩
  | _ => True

attribute [local simp] Leads Succeeding TradeCall.Succeeds handle handleNotif

variable {self : FatCrabMakerActor}

theorem stores_offer {envelope : OfferEnvelope}
    (hheeds : Heeds (.received (.notif (.ok (.offer envelope))) self)) :
    Stores (.received (.notif (.ok (.offer envelope))) self) := by
  obtain ⟨inner, uuid, notifTx⟩ := self
  obtain ⟨hstate, hvalid, hlistening⟩ := hheeds
  obtain ⟨listener, rfl⟩ := Option.isSome_iff_exists.mp hlistening
  intro history
  cases inner with
  | buy buy =>
      rw [state_buy] at hstate
      simp [handleOfferNotif, handleOfferInUnexpectedState, recordOffer, hstate, hvalid,
        offerEnvelopes]
  | sell sell =>
      rw [state_sell] at hstate
      simp [handleOfferNotif, handleOfferInUnexpectedState, recordOffer, hstate, hvalid,
        offerEnvelopes]

theorem stores_peer {envelope : PeerEnvelope}
    (hheeds : Heeds (.received (.notif (.ok (.peer envelope))) self)) :
    Stores (.received (.notif (.ok (.peer envelope))) self) := by
  obtain ⟨inner, uuid, notifTx⟩ := self
  obtain ⟨hstate, hlistening, content, hmessage, hfits⟩ := hheeds
  obtain ⟨listener, rfl⟩ := Option.isSome_iff_exists.mp hlistening
  refine ⟨content, hmessage, fun history => ?_⟩
  cases inner with
  | buy buy =>
      rw [state_buy] at hstate
      obtain ⟨address, hparse, hvalid⟩ := hfits
      simp [handlePeerNotif, FatCrabMakerBuyActor.handlePeerNotif, setState, peerNotifState, hstate,
        hmessage, hparse, hvalid, storedPeerEnvelope]
  | sell sell =>
      rw [state_sell] at hstate
      obtain ⟨txid, hparse⟩ := hfits
      simp [handlePeerNotif, FatCrabMakerSellActor.handlePeerNotif, setState, peerNotifState,
        hstate, hmessage, hparse, storedPeerEnvelope]

/-- Whatever is heeded is stored. -/
theorem stores_of_heeds {entry : Entry FatCrabMakerActor MakerMsg tradeInterface}
    (hheeds : Heeds entry) : Stores entry := by
  cases entry with
  | called c reply self => trivial
  | received message self =>
      cases message with
      | request request => trivial
      | notif result =>
          cases result with
          | error error => trivial
          | ok notif =>
              cases notif with
              | offer envelope => exact stores_offer hheeds
              | peer envelope => exact stores_peer hheeds

end Stores

end FatCrabMakerActor

end FatCrabTrading
