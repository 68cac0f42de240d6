import FatCrabTrading.Maker.Quiet
import FatCrabTrading.Sample

/-! # The payment gate of a Buy maker

A release is gated on the stored address of the peer, which is never cleared. It pays
the current peer exactly when it is requested in `InboundFcNotified`.
-/

namespace FatCrabTrading

open Effect Program

section PaymentGate

variable [Bitcoin]

namespace FatCrabMakerActor

/-- Whether an observation is an acceptance of an offer that n3xB took. -/
def accepts : Entry FatCrabMakerActor MakerMsg tradeInterface → Bool
  | .called (.n3xb (.acceptOffer _)) (.ok _) _ => true
  | _ => false

/-- Some offer was accepted. -/
def Accepted (history : History FatCrabMakerActor MakerMsg tradeInterface) : Prop :=
  ∃ entry ∈ history, accepts entry = true

/-- The receive address of a peer message that a Buy maker handles, as an address of its
network. Messages count only in `AcceptedOffer`. -/
def peerAddress (network : Network) :
    Entry FatCrabMakerActor MakerMsg tradeInterface → Option Address
  | .received (.notif (.ok (.peer envelope))) self =>
      if self.state = .acceptedOffer then
        envelope.message.asFatCrabPeerMessage.bind fun message =>
          addressOn network message.receiveAddress
      else
        none
  | _ => none

/-- The address was received in a peer message after the most recent acceptance. -/
def FromCurrentPeer (network : Network) (address : Address) :
    History FatCrabMakerActor MakerMsg tradeInterface → Prop
  | [] => False
  | entry :: past => accepts entry = false ∧
      (peerAddress network entry = some address ∧ Accepted past ∨
        FromCurrentPeer network address past)

@[simp] theorem accepted_cons (entry : Entry FatCrabMakerActor MakerMsg tradeInterface)
    (past : History FatCrabMakerActor MakerMsg tradeInterface) :
    Accepted (entry :: past) ↔ accepts entry = true ∨ Accepted past := by
  unfold Accepted
  rw [List.exists_mem_cons_iff]

@[simp] theorem fromCurrentPeer_cons (network : Network) (address : Address)
    (entry : Entry FatCrabMakerActor MakerMsg tradeInterface)
    (past : History FatCrabMakerActor MakerMsg tradeInterface) :
    FromCurrentPeer network address (entry :: past) ↔ accepts entry = false ∧
      (peerAddress network entry = some address ∧ Accepted past ∨
        FromCurrentPeer network address past) :=
  Iff.rfl

/-- A release is requested in `InboundFcNotified`, or has nothing to pay to. -/
def ReleasesInTime (entry : Entry FatCrabMakerActor MakerMsg tradeInterface)
    (_ : History FatCrabMakerActor MakerMsg tradeInterface) : Prop :=
  match entry with
  | .received (.request (.releaseNotifyPeer _)) ⟨.buy buy, _, _⟩ =>
      buy.data.state = .inboundFcNotified ∨ buy.data.peerBtcAddr = none
  | _ => True

/-- A payment is made in `InboundFcNotified`, to the current peer. -/
def PaysCurrentPeer (network : Network)
    (entry : Entry FatCrabMakerActor MakerMsg tradeInterface)
    (past : History FatCrabMakerActor MakerMsg tradeInterface) : Prop :=
  ∀ address, paidAddress entry = some address →
    entry.store.state = .inboundFcNotified ∧ FromCurrentPeer network address past

/-- All payments so far were made to the peer of their time. -/
def Gated (network : Network) (history : History FatCrabMakerActor MakerMsg tradeInterface)
    (_ : FatCrabMakerActor) : Prop :=
  history.Always (PaysCurrentPeer network)

/-- Between messages, the states tell what was received since the last acceptance. -/
def Matched (network : Network) (history : History FatCrabMakerActor MakerMsg tradeInterface)
    (self : FatCrabMakerActor) : Prop :=
  Gated network history self ∧ match self.inner with
    | .sell _ => False
    | .buy buy => buy.network = network ∧
        (buy.data.state = .acceptedOffer → Accepted history) ∧
        (buy.data.state = .inboundFcNotified → ∃ address,
          buy.data.peerBtcAddr = some (Bitcoin.addressToString address) ∧
            Bitcoin.isValidForNetwork address network = true ∧
            FromCurrentPeer network address history)

/-- Serving a message keeps the gate. -/
def KeepsGate (network : Network) (message : MakerMsg)
    (program : Handler FatCrabMakerActor Unit)
    (history : History FatCrabMakerActor MakerMsg tradeInterface) (self : FatCrabMakerActor) :
    Prop :=
  Matched network history self → program.Safe ReleasesInTime (Gated network)
    (fun history self _ => Matched network history self) (.received message self :: history) self

section Handlers

attribute [local simp] Gated Matched PaysCurrentPeer ReleasesInTime accepts peerAddress
  paidAddress

variable {network : Network} {history : History FatCrabMakerActor MakerMsg tradeInterface}
  {buy : FatCrabMakerBuyActor} {uuid : Uuid} {notifTx : Option NotifTx} {message : MakerMsg}

theorem keepsGate_postNewOrder :
    KeepsGate network (.request .postNewOrder) postNewOrder history ⟨.buy buy, uuid, notifTx⟩ := by
  rintro ⟨hgated, hnetwork, haccepted, hinbound⟩
  simp only [Gated] at hgated
  simp [postNewOrder, setState, forall_except, hgated, hnetwork]
  exact fun _ => ⟨haccepted, hinbound⟩

theorem keepsGate_cancelOrder :
    KeepsGate network (.request .cancelOrder) (focus buy? putBuy FatCrabMakerBuyActor.cancelOrder)
      history ⟨.buy buy, uuid, notifTx⟩ := by
  rintro ⟨hgated, hnetwork, haccepted, hinbound⟩
  simp only [Gated] at hgated
  cases hstate : buy.data.state with
  | new | waitingForOffers | receivedOffer =>
      simp [FatCrabMakerBuyActor.cancelOrder, hstate, forall_except, hgated, hnetwork]
  | acceptedOffer =>
      simp [FatCrabMakerBuyActor.cancelOrder, hstate, hgated, hnetwork, haccepted hstate]
  | inboundFcNotified =>
      simp [FatCrabMakerBuyActor.cancelOrder, hstate, hgated, hnetwork]
      exact hinbound hstate
  | _ => simp [FatCrabMakerBuyActor.cancelOrder, hstate, hgated, hnetwork]

theorem keepsGate_tradeResponse {tradeRspType : FatCrabTradeRspType}
    {envelope : FatCrabOfferEnvelope} :
    KeepsGate network (.request (.tradeResponse tradeRspType envelope))
      (focus buy? putBuy (FatCrabMakerBuyActor.tradeResponse tradeRspType envelope)) history
      ⟨.buy buy, uuid, notifTx⟩ := by
  rintro ⟨hgated, hnetwork, haccepted, hinbound⟩
  simp only [Gated] at hgated
  cases tradeRspType with
  | accept =>
      simp [FatCrabMakerBuyActor.tradeResponse, hgated, hnetwork]
  | reject =>
      simp [FatCrabMakerBuyActor.tradeResponse, hgated, hnetwork]
      exact ⟨haccepted, hinbound⟩

theorem keepsGate_releaseNotifyPeer {txid : Option String} (hround : Bitcoin.RoundTrip)
    (hintime : buy.data.state = .inboundFcNotified ∨ buy.data.peerBtcAddr = none) :
    KeepsGate network (.request (.releaseNotifyPeer txid))
      (focus buy? putBuy FatCrabMakerBuyActor.releaseNotifyPeer) history
      ⟨.buy buy, uuid, notifTx⟩ := by
  rintro ⟨hgated, hnetwork, haccepted, hinbound⟩
  simp only [Gated] at hgated
  cases haddress : buy.data.peerBtcAddr with
  | none =>
      simp [FatCrabMakerBuyActor.releaseNotifyPeer, haddress, hgated, hnetwork]
      refine ⟨haccepted, fun hstate => ?_⟩
      obtain ⟨address, hstored, -⟩ := hinbound hstate
      rw [haddress] at hstored
      cases hstored
  | some text =>
      have hstate := hintime.resolve_right (by rw [haddress]; exact Option.some_ne_none text)
      obtain ⟨address, hstored, hvalid, hcurrent⟩ := hinbound hstate
      rw [haddress] at hstored
      cases hstored
      have hparsed := parseAddress_eq (Bitcoin.addressToString address) network
      rw [addressOn_toString hround hvalid] at hparsed
      simp [FatCrabMakerBuyActor.releaseNotifyPeer, haddress, hparsed, forall_except, hgated,
        hnetwork, hstate, hcurrent]
      intro reply
      have hmatched : ∃ peer, Bitcoin.addressToString address = Bitcoin.addressToString peer ∧
          Bitcoin.isValidForNetwork peer network = true ∧ FromCurrentPeer network peer history :=
        ⟨address, rfl, hvalid, hcurrent⟩
      exact ⟨fun _ _ => hmatched, fun _ _ _ => hmatched⟩

theorem keepsGate_tradeComplete :
    KeepsGate network (.request .tradeComplete)
      (focus buy? putBuy FatCrabMakerBuyActor.tradeComplete) history ⟨.buy buy, uuid, notifTx⟩ := by
  rintro ⟨hgated, hnetwork, -⟩
  simp only [Gated] at hgated
  simp [FatCrabMakerBuyActor.tradeComplete, forall_except, hgated, hnetwork]

theorem keepsGate_handleOfferNotif {envelope : OfferEnvelope} :
    KeepsGate network (.notif (.ok (.offer envelope))) (handleOfferNotif envelope) history
      ⟨.buy buy, uuid, notifTx⟩ := by
  rintro ⟨hgated, hnetwork, haccepted, hinbound⟩
  simp only [Gated] at hgated
  by_cases hstate : buy.data.state = .waitingForOffers ∨ buy.data.state = .receivedOffer
  · cases hvalid : FatCrabOffer.validateN3xbOffer envelope.offer with
    | error error =>
        simp [handleOfferNotif, handleOfferInUnexpectedState, hstate, hvalid, hgated, hnetwork]
        exact ⟨haccepted, hinbound⟩
    | ok =>
        cases notifTx with
        | none =>
            simp [handleOfferNotif, handleOfferInUnexpectedState, hstate, hvalid, hgated, hnetwork]
            exact ⟨haccepted, hinbound⟩
        | some listener =>
            simp [handleOfferNotif, handleOfferInUnexpectedState, hstate, hvalid, recordOffer,
              hgated, hnetwork]
  · simp [handleOfferNotif, handleOfferInUnexpectedState, hstate, hgated, hnetwork]
    exact ⟨haccepted, hinbound⟩

theorem keepsGate_handlePeerNotif {envelope : PeerEnvelope} :
    KeepsGate network (.notif (.ok (.peer envelope))) (handlePeerNotif envelope) history
      ⟨.buy buy, uuid, notifTx⟩ := by
  rintro ⟨hgated, hnetwork, haccepted, hinbound⟩
  simp only [Gated] at hgated
  by_cases hstate : buy.data.state = .acceptedOffer
  · have hpast := haccepted hstate
    -- the message counts, whether or not somebody listens
    cases notifTx with
    | none | some =>
        simp [handlePeerNotif, FatCrabMakerBuyActor.handlePeerNotif, setState, peerNotifState,
          hstate, hgated, hnetwork, hpast]
        intro message hmessage address hparsed hvalid
        have haddress : addressOn network message.receiveAddress = some address :=
          addressOn_eq_some.mpr ⟨hparsed, hvalid⟩
        exact ⟨address, rfl, hvalid, .inl (by rw [hmessage]; exact haddress)⟩
  · simp [handlePeerNotif, hstate, hgated, hnetwork]
    exact hinbound

end Handlers

/-- An observation that is no acceptance, and no wrong payment, changes nothing. -/
theorem Matched.extend {network : Network}
    {history : History FatCrabMakerActor MakerMsg tradeInterface} {self : FatCrabMakerActor}
    {entry : Entry FatCrabMakerActor MakerMsg tradeInterface}
    (hmatched : Matched network history self) (hpays : PaysCurrentPeer network entry history)
    (haccepts : accepts entry = false) : Matched network (entry :: history) self := by
  obtain ⟨hgated, hmatched⟩ := hmatched
  refine ⟨⟨hpays, hgated⟩, ?_⟩
  cases hinner : self.inner with
  | sell sell =>
      rw [hinner] at hmatched
      exact hmatched
  | buy buy =>
      rw [hinner] at hmatched
      obtain ⟨hnetwork, haccepted, hinbound⟩ := hmatched
      refine ⟨hnetwork, fun hstate => ?_, fun hstate => ?_⟩
      · exact (accepted_cons _ _).mpr (.inr (haccepted hstate))
      · obtain ⟨address, hstored, hvalid, hcurrent⟩ := hinbound hstate
        exact ⟨address, hstored, hvalid, haccepts, .inr hcurrent⟩

/-- Programs that leave the trade alone and make quiet calls. -/
theorem keepsGate_quiet {network : Network}
    {history : History FatCrabMakerActor MakerMsg tradeInterface} {self : FatCrabMakerActor}
    {message : MakerMsg} {program : Handler FatCrabMakerActor Unit}
    (honly : program.Only SameTrade TradeCall.Quiet) :
    KeepsGate network message program history self := by
  intro hmatched
  refine honly.safe (fun _ _ h => h.1) (fun _ _ _ h => h) ?_ ?_ (hmatched.extend nofun rfl)
  · rintro history before after hbefore ⟨hinner, -⟩
    unfold Matched
    rw [hinner]
    exact hbefore
  · rintro history self c reply hbefore hquiet
    apply hbefore.extend
    · intro address hpaid
      unfold paidAddress at hpaid
      split at hpaid
      next heq =>
        cases heq
        exact hquiet.elim
      next => cases hpaid
    · unfold accepts
      split
      next heq =>
        cases heq
        exact hquiet.elim
      next => rfl

theorem keepsGate_handleRequest {network : Network}
    {history : History FatCrabMakerActor MakerMsg tradeInterface} {buy : FatCrabMakerBuyActor}
    {uuid : Uuid} {notifTx : Option NotifTx} {request : FatCrabMakerRequest}
    (hround : Bitcoin.RoundTrip)
    (hintime : ReleasesInTime (.received (.request request) ⟨.buy buy, uuid, notifTx⟩) history) :
    KeepsGate network (.request request) (handleRequest request) history
      ⟨.buy buy, uuid, notifTx⟩ := by
  by_cases hquiet : request.quiet = true
  · exact keepsGate_quiet (only_quiet hquiet)
  cases request with
  | postNewOrder => exact keepsGate_postNewOrder
  | cancelOrder => exact keepsGate_cancelOrder
  | tradeResponse tradeRspType envelope => exact keepsGate_tradeResponse
  | releaseNotifyPeer txid => exact keepsGate_releaseNotifyPeer hround hintime
  | tradeComplete => exact keepsGate_tradeComplete
  | _ => exact absurd rfl hquiet

theorem keepsGate_handleNotif {network : Network}
    {history : History FatCrabMakerActor MakerMsg tradeInterface} {buy : FatCrabMakerBuyActor}
    {uuid : Uuid} {notifTx : Option NotifTx} {result : Except N3xbError MakerNotif} :
    KeepsGate network (.notif result) (handleNotif result) history
      ⟨.buy buy, uuid, notifTx⟩ := by
  cases result with
  | error error => exact keepsGate_quiet trivial
  | ok notif =>
      cases notif with
      | offer envelope => exact keepsGate_handleOfferNotif
      | peer envelope => exact keepsGate_handlePeerNotif

theorem matched_start {network : Network}
    {history : History FatCrabMakerActor MakerMsg tradeInterface} {self : FatCrabMakerActor}
    (hmatched : Matched network history self) :
    start.Safe ReleasesInTime (Gated network) (fun history self _ => Matched network history self)
      history self := by
  intro reply _
  have hafter := @Matched.extend _ _ _ _ (.called (.n3xb .registerNotifTx) reply self) hmatched
    nofun rfl
  refine ⟨hafter.1, ?_⟩
  cases reply with
  | error error => trivial
  | ok => exact hafter

theorem matched_restore {network : Network}
    {history : History FatCrabMakerActor MakerMsg tradeInterface} {self : FatCrabMakerActor}
    (hmatched : Matched network history self) : Matched network history self.restore := by
  obtain ⟨inner, uuid, notifTx⟩ := self
  cases inner with
  | buy buy => exact hmatched
  | sell sell => exact hmatched

/-- The gate is an invariant of the code of a Buy maker, as far as releases are in time. -/
theorem gated_invariant (hround : Bitcoin.RoundTrip) (network : Network) :
    ActorInvariant code ReleasesInTime (Gated network) (Matched network) where
  receive := by
    rintro message history ⟨inner, uuid, notifTx⟩ hmatched hintime
    refine ⟨⟨nofun, hmatched.1⟩, ?_⟩
    cases inner with
    | sell sell => exact hmatched.2.elim
    | buy buy =>
        cases message with
        | request request =>
            rw [code, safe_handle_request]
            exact keepsGate_handleRequest hround hintime hmatched
        | notif result =>
            rw [code, safe_handle_notif]
            exact keepsGate_handleNotif hmatched
  restart := by
    intro history self hmatched
    have hrestored := matched_restore hmatched
    exact ⟨hrestored.1, matched_start hrestored⟩

/-- In every run of a new Buy maker whose releases are requested in `InboundFcNotified`, or
before an address is stored, every payment is made in `InboundFcNotified`, to the address of
a peer message handled after the most recent acceptance. -/
theorem payment_gate (hround : Bitcoin.RoundTrip) {buy : FatCrabMakerBuyActor} {uuid : Uuid}
    {notifTx : Option NotifTx} (hnew : buy.data.state = .new)
    {actor : Actor FatCrabMakerActor MakerMsg tradeInterface}
    (hrun : Actor.Steps code (.launch code ⟨.buy buy, uuid, notifTx⟩) actor)
    (hintime : actor.history.Always ReleasesInTime) :
    actor.history.Always (PaysCurrentPeer buy.network) := by
  have hmatched : Matched buy.network [] ⟨.buy buy, uuid, notifTx⟩ := by
    refine ⟨trivial, rfl, fun hstate => ?_, fun hstate => ?_⟩
    · rw [hnew] at hstate
      cases hstate
    · rw [hnew] at hstate
      cases hstate
  have hstart : (Actor.launch code ⟨.buy buy, uuid, notifTx⟩).Holds ReleasesInTime
      (Gated buy.network) (Matched buy.network) :=
    ⟨trivial, matched_start hmatched⟩
  exact (Actor.Steps.holds (gated_invariant hround buy.network) hrun hintime hstart).1

end FatCrabMakerActor

end PaymentGate

section Sample

open Sample

namespace FatCrabMakerActor

instance (entry : Entry FatCrabMakerActor MakerMsg tradeInterface)
    (past : History FatCrabMakerActor MakerMsg tradeInterface) :
    Decidable (ReleasesInTime entry past) := by
  unfold ReleasesInTime
  split <;> infer_instance

/-- Bob's offer is accepted, and he sends the address to be paid. -/
def paid : List (((c : TradeCall) → c.Reply) × MakerMsg) :=
  [(obliging, .request .postNewOrder), (obliging, .request (.tradeResponse .accept offer)),
    (obliging, .notif (.ok (.peer peerEnvelope)))]

/-- Bob is paid as soon as he has sent his address. -/
theorem payment_gate_of_paid :
    let actor := (Actor.opened code obliging buyMaker).deliverAll code
      (paid ++ [(obliging, .request (.releaseNotifyPeer none))])
    actor.history.Always (PaysCurrentPeer .regtest) := by
  intro actor
  have hrun : Actor.Steps code (.launch code buyMaker) actor :=
    Actor.steps_opened_deliverAll _ _ _
  exact payment_gate roundTrip rfl hrun (by decide +kernel)

/-- Bob is paid after the trade was completed. -/
theorem paid_completed : ∃ actor : Actor FatCrabMakerActor MakerMsg tradeInterface,
    Actor.Steps code (.launch code buyMaker) actor ∧
      ∃ entry ∈ actor.history, paidAddress entry = some SampleAddress.bob ∧
        entry.store.state = .tradeCompleted := by
  refine ⟨_, Actor.steps_opened_deliverAll obliging buyMaker
    (paid ++ [(obliging, .request .tradeComplete),
      (obliging, .request (.releaseNotifyPeer none))]), ?_⟩
  decide +kernel

end FatCrabMakerActor

end Sample

end FatCrabTrading
