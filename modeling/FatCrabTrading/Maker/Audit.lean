import FatCrabTrading.Maker.PaymentGate

/-! # What a maker does to its purse and its peer

Whatever it is asked, a Buy maker touches no allocation but its own, pays only to the
last address that it accepted from its peer, and tells the peer only of transactions
that paid. A Sell maker touches no allocation and names only its own address.
-/

namespace FatCrabTrading

open Effect Program

variable [Bitcoin]

/-- What a Buy maker keeps from its creation on. -/
structure FatCrabMakerBuyTerms where
  order : FatCrabOrder
  fatcrabRxAddr : String
  btcFundsId : Uuid
  network : Network

/-- What a Sell maker keeps from its creation on. -/
structure FatCrabMakerSellTerms where
  order : FatCrabOrder
  btcRxAddr : String
  network : Network

/-- The terms of a Sell maker of a network, whose address was printed when it was created. -/
structure FatCrabMakerSellTerms.Belongs (terms : FatCrabMakerSellTerms) (network : Network) :
    Prop where
  network : terms.network = network
  printed : ∃ address, terms.btcRxAddr = Bitcoin.addressToString address

def FatCrabMakerBuyActor.terms (buy : FatCrabMakerBuyActor) : FatCrabMakerBuyTerms :=
  ⟨buy.data.order, buy.data.fatcrabRxAddr, buy.data.btcFundsId, buy.network⟩

def FatCrabMakerSellActor.terms (sell : FatCrabMakerSellActor) : FatCrabMakerSellTerms :=
  ⟨sell.data.order, sell.data.btcRxAddr, sell.network⟩

namespace FatCrabMakerActor

/-- The address of the last peer message that a Buy maker accepted. -/
def lastPeerAddress (network : Network) :
    History FatCrabMakerActor MakerMsg tradeInterface → Option Address
  | [] => none
  | entry :: past => (peerAddress network entry).or (lastPeerAddress network past)

theorem lastPeerAddress_cons (network : Network)
    (entry : Entry FatCrabMakerActor MakerMsg tradeInterface)
    (past : History FatCrabMakerActor MakerMsg tradeInterface) :
    lastPeerAddress network (entry :: past) =
      (peerAddress network entry).or (lastPeerAddress network past) := rfl

/-- An address that counts was received in a peer message. -/
theorem received_of_peerAddress {network : Network}
    {entry : Entry FatCrabMakerActor MakerMsg tradeInterface} {address : Address}
    (hentry : peerAddress network entry = some address) : ∃ envelope message self,
      entry = .received (.notif (.ok (.peer envelope))) self ∧
        envelope.message = .fatCrabPeerMessage message ∧
        addressOn network message.receiveAddress = some address := by
  unfold peerAddress at hentry
  split at hentry
  next envelope self =>
    split at hentry
    next =>
      obtain ⟨message, hmessage, haddress⟩ := Option.bind_eq_some_iff.mp hentry
      refine ⟨envelope, message, self, rfl, ?_, haddress⟩
      cases hcontent : envelope.message <;> rw [hcontent] at hmessage <;> cases hmessage
      rfl
    next => cases hentry
  next => cases hentry

theorem mem_of_lastPeerAddress {network : Network}
    {history : History FatCrabMakerActor MakerMsg tradeInterface} {address : Address}
    (hlast : lastPeerAddress network history = some address) :
    ∃ entry ∈ history, peerAddress network entry = some address := by
  induction history with
  | nil => cases hlast
  | cons entry past ih =>
      rw [lastPeerAddress_cons, Option.or_eq_some_iff] at hlast
      rcases hlast with hentry | ⟨-, hpast⟩
      · exact ⟨entry, List.mem_cons_self, hentry⟩
      · obtain ⟨found, hfound, hfoundAddress⟩ := ih hpast
        exact ⟨found, List.mem_cons_of_mem entry hfound, hfoundAddress⟩

/-- A stored text is the address of some peer message that was accepted. -/
def FromPeer (network : Network) (history : History FatCrabMakerActor MakerMsg tradeInterface)
    (stored : Option String) : Prop :=
  ∀ text, stored = some text → ∃ address, text = Bitcoin.addressToString address ∧
    ∃ entry ∈ history, peerAddress network entry = some address

/-- A stored text is the address of the last peer message that was accepted. -/
def FromLastPeer (network : Network)
    (history : History FatCrabMakerActor MakerMsg tradeInterface) (stored : Option String) :
    Prop :=
  ∀ text, stored = some text → ∃ address, text = Bitcoin.addressToString address ∧
    Bitcoin.isValidForNetwork address network = true ∧
    lastPeerAddress network history = some address

/-- In `InboundFcNotified` an address is stored. -/
def Addressed (state : FatCrabMakerState) (stored : Option String) : Prop :=
  state = .inboundFcNotified → stored ≠ none

omit [Bitcoin] in
@[simp] theorem addressed_some (state : FatCrabMakerState) (text : String) :
    Addressed state (some text) :=
  fun _ => Option.some_ne_none text

omit [Bitcoin] in
@[simp] theorem addressed_of_ne {state : FatCrabMakerState} (hstate : state ≠ .inboundFcNotified)
    (stored : Option String) : Addressed state stored :=
  fun hinbound => absurd hinbound hstate

section Stored

variable {network : Network} {history : History FatCrabMakerActor MakerMsg tradeInterface}
  {entry : Entry FatCrabMakerActor MakerMsg tradeInterface} {stored : Option String}

theorem FromPeer.cons (hpeer : FromPeer network history stored) :
    FromPeer network (entry :: history) stored := by
  intro text htext
  obtain ⟨address, hprinted, found, hfound, haddress⟩ := hpeer text htext
  exact ⟨address, hprinted, found, List.mem_cons_of_mem entry hfound, haddress⟩

theorem fromPeer_cons (hentry : peerAddress network entry = none) :
    FromPeer network (entry :: history) stored ↔ FromPeer network history stored := by
  unfold FromPeer
  simp only [List.exists_mem_cons_iff, hentry, reduceCtorEq, false_or]

theorem fromLastPeer_cons (hentry : peerAddress network entry = none) :
    FromLastPeer network (entry :: history) stored ↔ FromLastPeer network history stored := by
  unfold FromLastPeer
  simp only [lastPeerAddress_cons, hentry, Option.none_or]

@[simp] theorem fromPeer_called (c : TradeCall) (reply : c.Reply) (store : FatCrabMakerActor) :
    FromPeer network (.called c reply store :: history) stored ↔
      FromPeer network history stored :=
  fromPeer_cons rfl

@[simp] theorem fromLastPeer_called (c : TradeCall) (reply : c.Reply)
    (store : FatCrabMakerActor) :
    FromLastPeer network (.called c reply store :: history) stored ↔
      FromLastPeer network history stored :=
  fromLastPeer_cons rfl

@[simp] theorem lastPeerAddress_called (c : TradeCall) (reply : c.Reply)
    (store : FatCrabMakerActor) :
    lastPeerAddress network (.called c reply store :: history) =
      lastPeerAddress network history :=
  Option.none_or

/-- An accepted address is there at once, in the text that is stored. -/
theorem fromLastPeer_received {address : Address}
    (hentry : peerAddress network entry = some address)
    (hvalid : Bitcoin.isValidForNetwork address network = true) :
    FromLastPeer network (entry :: history) (some (Bitcoin.addressToString address)) := by
  rintro text ⟨⟩
  refine ⟨address, rfl, hvalid, ?_⟩
  rw [lastPeerAddress_cons, hentry, Option.some_or]

theorem FromLastPeer.fromPeer (hlast : FromLastPeer network history stored) :
    FromPeer network history stored := by
  intro text htext
  obtain ⟨address, hprinted, -, haddress⟩ := hlast text htext
  exact ⟨address, hprinted, mem_of_lastPeerAddress haddress⟩

end Stored

/-- What a Buy maker may call. -/
def BuyAudited (terms : FatCrabMakerBuyTerms)
    (entry : Entry FatCrabMakerActor MakerMsg tradeInterface)
    (past : History FatCrabMakerActor MakerMsg tradeInterface) : Prop :=
  match entry with
  | .called (.purse (.sendFunds fundsId address)) _ _ =>
      fundsId = terms.btcFundsId ∧ lastPeerAddress terms.network past = some address
  | .called (.purse (.freeFunds fundsId)) _ _ => fundsId = terms.btcFundsId
  | .called (.purse (.allocateFunds _)) _ _ => False
  | .called (.n3xb (.sendPeerMessage message)) _ _ => ∃ txid, Paid terms.btcFundsId txid past ∧
      message = .fatCrabPeerMessage ⟨terms.fatcrabRxAddr, Bitcoin.txidToString txid⟩
  | _ => True

/-- At every moment, the terms are kept, and a stored address came from the peer. -/
def BuyKept (terms : FatCrabMakerBuyTerms)
    (history : History FatCrabMakerActor MakerMsg tradeInterface) (self : FatCrabMakerActor) :
    Prop :=
  history.Always (BuyAudited terms) ∧ match self.inner with
    | .sell _ => False
    | .buy buy => buy.terms = terms ∧ FromPeer terms.network history buy.data.peerBtcAddr ∧
        Addressed buy.data.state buy.data.peerBtcAddr

/-- Between messages, a stored address is the last one accepted. -/
def BuySettled (terms : FatCrabMakerBuyTerms)
    (history : History FatCrabMakerActor MakerMsg tradeInterface) (self : FatCrabMakerActor) :
    Prop :=
  BuyKept terms history self ∧ match self.inner with
    | .sell _ => False
    | .buy buy => FromLastPeer terms.network history buy.data.peerBtcAddr

section Buy

variable {terms : FatCrabMakerBuyTerms}
  {history : History FatCrabMakerActor MakerMsg tradeInterface} {self : FatCrabMakerActor}
  {entry : Entry FatCrabMakerActor MakerMsg tradeInterface}

theorem BuyKept.extend (hkept : BuyKept terms history self)
    (haudited : BuyAudited terms entry history) : BuyKept terms (entry :: history) self := by
  obtain ⟨hpast, hkept⟩ := hkept
  refine ⟨⟨haudited, hpast⟩, ?_⟩
  cases hinner : self.inner with
  | sell sell =>
      rw [hinner] at hkept
      exact hkept
  | buy buy =>
      rw [hinner] at hkept
      obtain ⟨hterms, hpeer, hinbound⟩ := hkept
      exact ⟨hterms, hpeer.cons, hinbound⟩

theorem BuySettled.extend (hsettled : BuySettled terms history self)
    (haudited : BuyAudited terms entry history)
    (hentry : peerAddress terms.network entry = none) :
    BuySettled terms (entry :: history) self := by
  obtain ⟨hkept, hlast⟩ := hsettled
  refine ⟨hkept.extend haudited, ?_⟩
  cases hinner : self.inner with
  | sell sell =>
      rw [hinner] at hlast
      exact hlast
  | buy buy =>
      rw [hinner] at hlast
      exact (fromLastPeer_cons hentry).mpr hlast

end Buy

/-- A program of a Buy maker keeps what was settled. -/
def KeepsBuy (terms : FatCrabMakerBuyTerms) (program : Handler FatCrabMakerActor Unit)
    (history : History FatCrabMakerActor MakerMsg tradeInterface) (self : FatCrabMakerActor) :
    Prop :=
  BuySettled terms history self → program.Safe (fun _ _ => True) (BuyKept terms)
    (fun history self _ => BuySettled terms history self) history self

section BuyHandlers

attribute [local simp] BuyKept BuySettled BuyAudited FatCrabMakerBuyActor.terms

variable {terms : FatCrabMakerBuyTerms}
  {history : History FatCrabMakerActor MakerMsg tradeInterface} {buy : FatCrabMakerBuyActor}
  {uuid : Uuid} {notifTx : Option NotifTx}

theorem keepsBuy_postNewOrder :
    KeepsBuy terms postNewOrder history ⟨.buy buy, uuid, notifTx⟩ := by
  rintro ⟨⟨haudited, rfl, hpeer, haddressed⟩, hlast⟩
  simp at haudited hpeer hlast
  simp [postNewOrder, setState, forall_except, haudited, hpeer, hlast, haddressed]

theorem keepsBuy_cancelOrder :
    KeepsBuy terms (focus buy? putBuy FatCrabMakerBuyActor.cancelOrder) history
      ⟨.buy buy, uuid, notifTx⟩ := by
  rintro ⟨⟨haudited, rfl, hpeer, haddressed⟩, hlast⟩
  simp at haudited hpeer hlast
  cases hstate : buy.data.state with
  | new | waitingForOffers | receivedOffer =>
      simp [FatCrabMakerBuyActor.cancelOrder, hstate, forall_except, haudited, hpeer, hlast]
  | _ =>
      rw [hstate] at haddressed
      simp [FatCrabMakerBuyActor.cancelOrder, hstate, haudited, hpeer, hlast, haddressed]

theorem keepsBuy_tradeResponse {tradeRspType : FatCrabTradeRspType}
    {envelope : FatCrabOfferEnvelope} :
    KeepsBuy terms (focus buy? putBuy (FatCrabMakerBuyActor.tradeResponse tradeRspType envelope))
      history ⟨.buy buy, uuid, notifTx⟩ := by
  rintro ⟨⟨haudited, rfl, hpeer, haddressed⟩, hlast⟩
  simp at haudited hpeer hlast
  cases tradeRspType <;>
    simp [FatCrabMakerBuyActor.tradeResponse, haudited, hpeer, hlast, haddressed]

theorem keepsBuy_releaseNotifyPeer (hround : Bitcoin.RoundTrip) :
    KeepsBuy terms (focus buy? putBuy FatCrabMakerBuyActor.releaseNotifyPeer) history
      ⟨.buy buy, uuid, notifTx⟩ := by
  rintro ⟨⟨haudited, rfl, hpeer, haddressed⟩, hlast⟩
  simp at haudited hpeer hlast
  cases haddress : buy.data.peerBtcAddr with
  | none =>
      rw [haddress] at hpeer hlast haddressed
      simp [FatCrabMakerBuyActor.releaseNotifyPeer, haddress, haudited, hpeer, hlast, haddressed]
  | some text =>
      obtain ⟨address, rfl, hvalid, hcurrent⟩ := hlast text haddress
      have hparsed := parseAddress_eq (Bitcoin.addressToString address) buy.network
      rw [addressOn_toString hround hvalid] at hparsed
      rw [haddress] at hpeer hlast
      simp [FatCrabMakerBuyActor.releaseNotifyPeer, haddress, hparsed, forall_except, haudited,
        hpeer, hlast, hcurrent]
      -- the message tells of the payment that was just answered
      rintro reply txid rfl
      have hpaid : Paid buy.data.btcFundsId txid (.called
          (.purse (.sendFunds buy.data.btcFundsId address)) (some (.ok txid))
          ⟨.buy buy, uuid, notifTx⟩ :: history) := ⟨address, _, List.mem_cons_self⟩
      exact ⟨fun _ => ⟨txid, hpaid, rfl⟩, txid, hpaid, rfl⟩

theorem keepsBuy_tradeComplete :
    KeepsBuy terms (focus buy? putBuy FatCrabMakerBuyActor.tradeComplete) history
      ⟨.buy buy, uuid, notifTx⟩ := by
  rintro ⟨⟨haudited, rfl, hpeer, haddressed⟩, hlast⟩
  simp at haudited hpeer hlast
  simp [FatCrabMakerBuyActor.tradeComplete, forall_except, haudited, hpeer, hlast]

theorem keepsBuy_handleOfferNotif {envelope : OfferEnvelope} :
    KeepsBuy terms (handleOfferNotif envelope) history ⟨.buy buy, uuid, notifTx⟩ := by
  rintro ⟨⟨haudited, rfl, hpeer, haddressed⟩, hlast⟩
  simp at haudited hpeer hlast
  by_cases hstate : buy.data.state = .waitingForOffers ∨ buy.data.state = .receivedOffer
  · cases hvalid : FatCrabOffer.validateN3xbOffer envelope.offer with
    | error error =>
        simp [handleOfferNotif, handleOfferInUnexpectedState, hstate, hvalid, haudited, hpeer,
          hlast, haddressed]
    | ok =>
        cases notifTx <;>
          simp [handleOfferNotif, handleOfferInUnexpectedState, hstate, hvalid, recordOffer,
            haudited, hpeer, hlast, haddressed]
  · simp [handleOfferNotif, handleOfferInUnexpectedState, hstate, haudited, hpeer, hlast,
      haddressed]

/-- A peer message is part of the history already when its handler starts. -/
theorem safe_handlePeerNotif_buy {envelope : PeerEnvelope}
    (hsettled : BuySettled terms history ⟨.buy buy, uuid, notifTx⟩) :
    (handlePeerNotif envelope).Safe (fun _ _ => True) (BuyKept terms)
      (fun history self _ => BuySettled terms history self)
      (.received (.notif (.ok (.peer envelope))) ⟨.buy buy, uuid, notifTx⟩ :: history)
      ⟨.buy buy, uuid, notifTx⟩ := by
  have hextend := fun hentry => @BuySettled.extend _ terms history ⟨.buy buy, uuid, notifTx⟩
    (.received (.notif (.ok (.peer envelope))) ⟨.buy buy, uuid, notifTx⟩) hsettled trivial hentry
  by_cases hstate : buy.data.state = .acceptedOffer
  swap
  · simp only [handlePeerNotif, read_eq, get_bind, pure_bind, safe_get, state_buy, hstate,
      not_false_eq_true, if_true, ne_eq]
    exact hextend (if_neg hstate)
  cases hmessage : envelope.message.asFatCrabPeerMessage with
  | none => simp [handlePeerNotif, hstate, hmessage]
  | some message =>
      cases hparse : Bitcoin.addressFromStr message.receiveAddress with
      | none =>
          simp [handlePeerNotif, FatCrabMakerBuyActor.handlePeerNotif, hstate, hmessage, hparse]
      | some address =>
          have hentry : peerAddress buy.network (.received (.notif (.ok (.peer envelope)))
              ⟨.buy buy, uuid, notifTx⟩) = addressOn buy.network message.receiveAddress := by
            simp [peerAddress, hstate, hmessage]
          -- an address of another network is refused and supplies nothing
          obtain ⟨⟨haudited, rfl, -⟩, -⟩ := hsettled
          cases hvalid : Bitcoin.isValidForNetwork address buy.network with
          | false =>
              have hnone : addressOn buy.network message.receiveAddress = none := by
                simp [addressOn, hparse, hvalid]
              have hsettled := hextend (hentry.trans hnone)
              simp at hsettled
              simp [handlePeerNotif, FatCrabMakerBuyActor.handlePeerNotif, hstate, hmessage,
                hparse, hvalid]
              exact ⟨⟨hsettled.1.1, hsettled.1.2.1⟩, hsettled.2⟩
          | true =>
              have hon := addressOn_eq_some.mpr ⟨hparse, hvalid⟩
              have hlast := @fromLastPeer_received _ _ history _ _ (hentry.trans hon) hvalid
              have hpeer := hlast.fromPeer
              simp at haudited
              cases notifTx <;>
                simp [handlePeerNotif, FatCrabMakerBuyActor.handlePeerNotif, setState,
                  peerNotifState, hstate, hmessage, hparse, hvalid, haudited, hlast, hpeer]

end BuyHandlers

section BuyInvariant

variable {terms : FatCrabMakerBuyTerms}
  {history : History FatCrabMakerActor MakerMsg tradeInterface} {self : FatCrabMakerActor}

/-- Programs that leave the trade alone and make quiet calls. -/
theorem keepsBuy_quiet {program : Handler FatCrabMakerActor Unit}
    (honly : program.Only SameTrade TradeCall.Quiet) : KeepsBuy terms program history self := by
  intro hsettled
  refine honly.safe (fun _ _ h => h.1) (fun _ _ _ h => h) ?_ ?_ hsettled
  · rintro history before after hbefore ⟨hinner, -⟩
    unfold BuySettled BuyKept
    rw [hinner]
    exact hbefore
  · rintro history self c reply hbefore hquiet
    refine hbefore.extend ?_ rfl
    unfold BuyAudited
    split
    next heq =>
      cases heq
      exact hquiet.elim
    next heq =>
      cases heq
      exact hquiet.elim
    next heq =>
      cases heq
      exact hquiet.elim
    next heq =>
      cases heq
      exact hquiet.elim
    next => trivial

theorem keepsBuy_handleRequest {request : FatCrabMakerRequest} (hround : Bitcoin.RoundTrip) :
    KeepsBuy terms (handleRequest request) history self := by
  by_cases hquiet : request.quiet = true
  · exact keepsBuy_quiet (only_quiet hquiet)
  obtain ⟨inner, uuid, notifTx⟩ := self
  cases inner with
  | sell sell => exact fun hsettled => hsettled.2.elim
  | buy buy =>
      cases request with
      | postNewOrder => exact keepsBuy_postNewOrder
      | cancelOrder => exact keepsBuy_cancelOrder
      | tradeResponse tradeRspType envelope => exact keepsBuy_tradeResponse
      | releaseNotifyPeer txid => exact keepsBuy_releaseNotifyPeer hround
      | tradeComplete => exact keepsBuy_tradeComplete
      | _ => exact absurd rfl hquiet

theorem BuySettled.restore (hsettled : BuySettled terms history self) :
    BuySettled terms history self.restore := by
  obtain ⟨inner, uuid, notifTx⟩ := self
  cases inner with
  | buy buy => exact hsettled
  | sell sell => exact hsettled

theorem BuySettled.start (hsettled : BuySettled terms history self) :
    start.Safe (fun _ _ => True) (BuyKept terms)
      (fun history self _ => BuySettled terms history self) history self := by
  intro reply _
  have hafter := @BuySettled.extend _ terms history self
    (.called (.n3xb .registerNotifTx) reply self) hsettled trivial rfl
  refine ⟨hafter.1, ?_⟩
  cases reply with
  | error error => trivial
  | ok => exact hafter

/-- A Buy maker keeps its terms and its audit, whatever it is asked and answered. -/
theorem buy_invariant (hround : Bitcoin.RoundTrip) (terms : FatCrabMakerBuyTerms) :
    ActorInvariant code (fun _ _ => True) (BuyKept terms) (BuySettled terms) where
  receive := by
    rintro message history self hsettled -
    refine ⟨hsettled.1.extend trivial, ?_⟩
    cases message with
    | request request =>
        rw [code, safe_handle_request]
        exact keepsBuy_handleRequest hround (hsettled.extend trivial rfl)
    | notif result =>
        rw [code, safe_handle_notif]
        obtain ⟨inner, uuid, notifTx⟩ := self
        cases inner with
        | sell sell => exact hsettled.2.elim
        | buy buy =>
            cases result with
            | error error => exact hsettled.extend trivial rfl
            | ok notif =>
                cases notif with
                | offer envelope =>
                    exact keepsBuy_handleOfferNotif (hsettled.extend trivial rfl)
                | peer envelope => exact safe_handlePeerNotif_buy hsettled
  restart := by
    intro history self hsettled
    exact ⟨hsettled.restore.1, hsettled.restore.start⟩

end BuyInvariant

/-- How peer messages reach a maker. -/
abbrev peerMsg (envelope : PeerEnvelope) : MakerMsg := .notif (.ok (.peer envelope))

/-- What a Sell maker may call: it pays nothing, and asks to be paid at its own address. -/
def SellAudited (terms : FatCrabMakerSellTerms)
    (entry : Entry FatCrabMakerActor MakerMsg tradeInterface)
    (_ : History FatCrabMakerActor MakerMsg tradeInterface) : Prop :=
  match entry with
  | .called (.purse (.sendFunds _ _)) _ _ => False
  | .called (.purse (.freeFunds _)) _ _ => False
  | .called (.purse (.allocateFunds _)) _ _ => False
  | .called (.n3xb (.acceptOffer response)) _ _ =>
      ∃ address, parseAddress terms.btcRxAddr terms.network = some address ∧
        response.tradeEngineSpecifics =
          some (.fatCrabMakeTradeRspSpecifics ⟨Bitcoin.addressToString address⟩)
  | _ => True

/-- At every moment, the terms are kept, and a stored transaction id came from the peer. -/
def SellKept (terms : FatCrabMakerSellTerms)
    (history : History FatCrabMakerActor MakerMsg tradeInterface) (self : FatCrabMakerActor) :
    Prop :=
  history.Always (SellAudited terms) ∧ match self.inner with
    | .buy _ => False
    | .sell sell => sell.terms = terms ∧ HeardTxid peerMsg history sell.data.peerBtcTxid

/-- A program of a Sell maker keeps this. -/
def KeepsSell (terms : FatCrabMakerSellTerms) (program : Handler FatCrabMakerActor Unit)
    (history : History FatCrabMakerActor MakerMsg tradeInterface) (self : FatCrabMakerActor) :
    Prop :=
  SellKept terms history self → program.Safe (fun _ _ => True) (SellKept terms)
    (fun history self _ => SellKept terms history self) history self

section SellHandlers

attribute [local simp] SellKept SellAudited FatCrabMakerSellActor.terms HeardTxid.cons

variable {terms : FatCrabMakerSellTerms}
  {history : History FatCrabMakerActor MakerMsg tradeInterface} {sell : FatCrabMakerSellActor}
  {uuid : Uuid} {notifTx : Option NotifTx} {self : FatCrabMakerActor}

theorem SellKept.extend (hkept : SellKept terms history self)
    {entry : Entry FatCrabMakerActor MakerMsg tradeInterface}
    (haudited : SellAudited terms entry history) : SellKept terms (entry :: history) self := by
  obtain ⟨hpast, hkept⟩ := hkept
  refine ⟨⟨haudited, hpast⟩, ?_⟩
  cases hinner : self.inner with
  | buy buy =>
      rw [hinner] at hkept
      exact hkept
  | sell sell =>
      rw [hinner] at hkept
      exact ⟨hkept.1, hkept.2.cons entry⟩

theorem keepsSell_postNewOrder :
    KeepsSell terms postNewOrder history ⟨.sell sell, uuid, notifTx⟩ := by
  rintro ⟨haudited, rfl, hheard⟩
  simp at haudited
  simp [postNewOrder, setState, forall_except, haudited, hheard]

theorem keepsSell_cancelOrder :
    KeepsSell terms (focus sell? putSell FatCrabMakerSellActor.cancelOrder) history
      ⟨.sell sell, uuid, notifTx⟩ := by
  rintro ⟨haudited, rfl, hheard⟩
  simp at haudited
  cases hstate : sell.data.state <;>
    simp [FatCrabMakerSellActor.cancelOrder, hstate, forall_except, haudited, hheard]

theorem keepsSell_tradeResponse {tradeRspType : FatCrabTradeRspType}
    {envelope : FatCrabOfferEnvelope} :
    KeepsSell terms
      (focus sell? putSell (FatCrabMakerSellActor.tradeResponse tradeRspType envelope))
      history ⟨.sell sell, uuid, notifTx⟩ := by
  rintro ⟨haudited, rfl, hheard⟩
  simp at haudited
  cases tradeRspType with
  | reject => simp [FatCrabMakerSellActor.tradeResponse, haudited, hheard]
  | accept =>
      cases haddress : parseAddress sell.data.btcRxAddr sell.network <;>
        simp [FatCrabMakerSellActor.tradeResponse, acceptTradeRsp, haddress, haudited, hheard]

theorem keepsSell_notifyPeer {txid : Option String} :
    KeepsSell terms (focus sell? putSell do
        let txid ← Program.unwrap txid
        FatCrabMakerSellActor.notifyPeer txid)
      history ⟨.sell sell, uuid, notifTx⟩ := by
  rintro ⟨haudited, rfl, hheard⟩
  simp at haudited
  cases txid <;>
    simp [FatCrabMakerSellActor.notifyPeer, forall_except, haudited, hheard]

theorem keepsSell_tradeComplete :
    KeepsSell terms (focus sell? putSell FatCrabMakerSellActor.tradeComplete) history
      ⟨.sell sell, uuid, notifTx⟩ := by
  rintro ⟨haudited, rfl, hheard⟩
  simp at haudited
  simp [FatCrabMakerSellActor.tradeComplete, forall_except, haudited, hheard]

theorem keepsSell_handleOfferNotif {envelope : OfferEnvelope} :
    KeepsSell terms (handleOfferNotif envelope) history ⟨.sell sell, uuid, notifTx⟩ := by
  rintro ⟨haudited, rfl, hheard⟩
  simp at haudited
  by_cases hstate : sell.data.state = .waitingForOffers ∨ sell.data.state = .receivedOffer
  · cases hvalid : FatCrabOffer.validateN3xbOffer envelope.offer with
    | error error =>
        simp [handleOfferNotif, handleOfferInUnexpectedState, hstate, hvalid, haudited, hheard]
    | ok =>
        cases notifTx <;>
          simp [handleOfferNotif, handleOfferInUnexpectedState, hstate, hvalid, recordOffer,
            haudited, hheard]
  · simp [handleOfferNotif, handleOfferInUnexpectedState, hstate, haudited, hheard]

/-- The transaction id that is stored stands in the message just received. -/
theorem safe_handlePeerNotif_sell {envelope : PeerEnvelope}
    (hkept : SellKept terms history ⟨.sell sell, uuid, notifTx⟩) :
    (handlePeerNotif envelope).Safe (fun _ _ => True) (SellKept terms)
      (fun history self _ => SellKept terms history self)
      (.received (peerMsg envelope) ⟨.sell sell, uuid, notifTx⟩ :: history)
      ⟨.sell sell, uuid, notifTx⟩ := by
  obtain ⟨haudited, rfl, hheard⟩ := hkept
  simp at haudited
  by_cases hstate : sell.data.state = .acceptedOffer
  swap
  · simp [handlePeerNotif, hstate, haudited, hheard]
  cases hmessage : envelope.message.asFatCrabPeerMessage with
  | none => simp [handlePeerNotif, hstate, hmessage]
  | some message =>
      cases htxid : Bitcoin.txidFromStr message.txid with
      | none =>
          simp [handlePeerNotif, FatCrabMakerSellActor.handlePeerNotif, hstate, hmessage, htxid,
            haudited, hheard]
      | some txid =>
          have htells : messageTxid envelope = some txid := by
            unfold messageTxid
            rw [hmessage, Option.bind_some, htxid]
          have hheard := @heardTxid_received _ _ _ peerMsg history envelope
            (⟨.sell sell, uuid, notifTx⟩ : FatCrabMakerActor) txid htells
          cases notifTx <;>
            simp [handlePeerNotif, FatCrabMakerSellActor.handlePeerNotif, setState,
              peerNotifState, hstate, hmessage, htxid, haudited, hheard]

/-- Programs that leave the trade alone and make quiet calls. -/
theorem keepsSell_quiet {program : Handler FatCrabMakerActor Unit}
    (honly : program.Only SameTrade TradeCall.Quiet) : KeepsSell terms program history self := by
  intro hkept
  refine honly.safe (fun _ _ h => h) (fun _ _ _ h => h) ?_ ?_ hkept
  · rintro history before after hbefore ⟨hinner, -⟩
    unfold SellKept
    rw [hinner]
    exact hbefore
  · rintro history self c reply hbefore hquiet
    apply hbefore.extend
    unfold SellAudited
    split
    next heq =>
      cases heq
      exact hquiet
    next heq =>
      cases heq
      exact hquiet
    next heq =>
      cases heq
      exact hquiet
    next heq =>
      cases heq
      exact hquiet.elim
    next => trivial

theorem keepsSell_handleRequest {request : FatCrabMakerRequest} :
    KeepsSell terms (handleRequest request) history self := by
  by_cases hquiet : request.quiet = true
  · exact keepsSell_quiet (only_quiet hquiet)
  obtain ⟨inner, uuid, notifTx⟩ := self
  cases inner with
  | buy buy => exact fun hkept => hkept.2.elim
  | sell sell =>
      cases request with
      | postNewOrder => exact keepsSell_postNewOrder
      | cancelOrder => exact keepsSell_cancelOrder
      | tradeResponse tradeRspType envelope => exact keepsSell_tradeResponse
      | releaseNotifyPeer txid => exact keepsSell_notifyPeer
      | tradeComplete => exact keepsSell_tradeComplete
      | _ => exact absurd rfl hquiet

theorem SellKept.restore (hkept : SellKept terms history self) :
    SellKept terms history self.restore := by
  obtain ⟨inner, uuid, notifTx⟩ := self
  cases inner with
  | buy buy => exact hkept
  | sell sell => exact hkept

theorem SellKept.start (hkept : SellKept terms history self) :
    start.Safe (fun _ _ => True) (SellKept terms)
      (fun history self _ => SellKept terms history self) history self := by
  intro reply _
  have hafter := @SellKept.extend _ terms history self hkept
    (.called (.n3xb .registerNotifTx) reply self) trivial
  refine ⟨hafter, ?_⟩
  cases reply with
  | error error => trivial
  | ok => exact hafter

/-- A Sell maker keeps its terms and its audit, whatever it is asked and answered. -/
theorem sell_invariant (terms : FatCrabMakerSellTerms) :
    ActorInvariant code (fun _ _ => True) (SellKept terms) (SellKept terms) where
  receive := by
    rintro message history self hkept -
    refine ⟨hkept.extend trivial, ?_⟩
    cases message with
    | request request =>
        rw [code, safe_handle_request]
        exact keepsSell_handleRequest (hkept.extend trivial)
    | notif result =>
        rw [code, safe_handle_notif]
        obtain ⟨inner, uuid, notifTx⟩ := self
        cases inner with
        | buy buy => exact hkept.2.elim
        | sell sell =>
            cases result with
            | error error => exact hkept.extend trivial
            | ok notif =>
                cases notif with
                | offer envelope => exact keepsSell_handleOfferNotif (hkept.extend trivial)
                | peer envelope => exact safe_handlePeerNotif_sell hkept
  restart := by
    intro history self hkept
    exact ⟨hkept.restore, hkept.restore.start⟩

end SellHandlers

end FatCrabMakerActor

end FatCrabTrading
