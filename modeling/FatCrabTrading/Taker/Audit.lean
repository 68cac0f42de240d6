import FatCrabTrading.Taker.Quiet

/-! # What a taker does to its purse and its peer

Whatever it is asked, a Sell taker touches no allocation but its own, pays only to the
address of the last acceptance that it processed, and tells the peer only of transactions
that paid. A Buy taker touches no allocation and names only its own address.
-/

namespace FatCrabTrading

open Effect Program

variable [Bitcoin]

/-- What a Buy taker keeps from its creation on. -/
structure FatCrabTakerBuyTerms where
  orderEnvelope : FatCrabOrderEnvelope
  btcRxAddr : String
  network : Network

/-- What a Sell taker keeps from its creation on. -/
structure FatCrabTakerSellTerms where
  orderEnvelope : FatCrabOrderEnvelope
  fatcrabRxAddr : String
  btcFundsId : Uuid
  network : Network

/-- The terms of a Buy taker of a network, whose address was printed when it was created. -/
structure FatCrabTakerBuyTerms.Belongs (terms : FatCrabTakerBuyTerms) (network : Network) :
    Prop where
  network : terms.network = network
  printed : ∃ address, terms.btcRxAddr = Bitcoin.addressToString address

def FatCrabTakerBuyActor.terms (buy : FatCrabTakerBuyActor) : FatCrabTakerBuyTerms :=
  ⟨buy.data.orderEnvelope, buy.data.btcRxAddr, buy.network⟩

def FatCrabTakerSellActor.terms (sell : FatCrabTakerSellActor) : FatCrabTakerSellTerms :=
  ⟨sell.data.orderEnvelope, sell.data.fatcrabRxAddr, sell.data.btcFundsId, sell.network⟩

namespace FatCrabTakerActor

/-- The address text of an acceptance that a taker processes. Trade responses count only in
`SubmittedOffer`. -/
def acceptText : Entry FatCrabTakerActor TakerMsg tradeInterface → Option String
  | .received (.notif (.ok (.tradeRsp envelope))) taker =>
      if taker.state = .submittedOffer then
        match FatCrabTradeRsp.fromN3xbTradeRsp envelope.tradeRsp with
        | some (.accept receiveAddress) => some receiveAddress
        | _ => none
      else
        none
  | _ => none

/-- The address text of the last acceptance that a taker processed. -/
def lastAcceptText : History FatCrabTakerActor TakerMsg tradeInterface → Option String
  | [] => none
  | entry :: past => (acceptText entry).or (lastAcceptText past)

/-- The same as an address of a network, if it is one. -/
def lastAcceptAddress (network : Network)
    (history : History FatCrabTakerActor TakerMsg tradeInterface) : Option Address :=
  (lastAcceptText history).bind (addressOn network)

@[simp] theorem lastAcceptText_called (c : TradeCall) (reply : c.Reply)
    (store : FatCrabTakerActor) (past : History FatCrabTakerActor TakerMsg tradeInterface) :
    lastAcceptText (.called c reply store :: past) = lastAcceptText past :=
  Option.none_or

theorem lastAcceptText_cons {entry : Entry FatCrabTakerActor TakerMsg tradeInterface}
    (hentry : acceptText entry = none)
    (past : History FatCrabTakerActor TakerMsg tradeInterface) :
    lastAcceptText (entry :: past) = lastAcceptText past := by
  rw [lastAcceptText, hentry, Option.none_or]

/-- The text of the last acceptance was received in a trade response. -/
theorem received_of_lastAcceptText {history : History FatCrabTakerActor TakerMsg tradeInterface}
    {text : String} (hlast : lastAcceptText history = some text) : ∃ envelope taker,
      .received (.notif (.ok (.tradeRsp envelope))) taker ∈ history ∧
        FatCrabTradeRsp.fromN3xbTradeRsp envelope.tradeRsp = some (.accept text) := by
  induction history with
  | nil => cases hlast
  | cons entry past ih =>
      rw [lastAcceptText, Option.or_eq_some_iff] at hlast
      rcases hlast with hentry | ⟨-, hpast⟩
      · unfold acceptText at hentry
        split at hentry
        next envelope taker =>
          split at hentry
          next =>
            split at hentry
            next receiveAddress hrsp =>
              cases hentry
              exact ⟨envelope, taker, List.mem_cons_self, hrsp⟩
            next => cases hentry
          next => cases hentry
        next => cases hentry
      · obtain ⟨envelope, taker, hmem, hrsp⟩ := ih hpast
        exact ⟨envelope, taker, List.mem_cons_of_mem entry hmem, hrsp⟩

/-- How peer messages reach a taker. -/
abbrev peerMsg (envelope : PeerEnvelope) : TakerMsg := .notif (.ok (.peer envelope))

/-! ## Buy takers -/

/-- What a Buy taker may call: it pays nothing, and asks to be paid at its own address. -/
def BuyAudited (terms : FatCrabTakerBuyTerms)
    (entry : Entry FatCrabTakerActor TakerMsg tradeInterface)
    (_ : History FatCrabTakerActor TakerMsg tradeInterface) : Prop :=
  match entry with
  | .called (.purse (.sendFunds _ _)) _ _ => False
  | .called (.purse (.freeFunds _)) _ _ => False
  | .called (.purse (.allocateFunds _)) _ _ => False
  | .called (.n3xb (.sendPeerMessage message)) _ _ =>
      ∃ address txid, parseAddress terms.btcRxAddr terms.network = some address ∧
        message = .fatCrabPeerMessage ⟨Bitcoin.addressToString address, txid⟩
  | _ => True

/-- At every moment, the terms are kept, and a stored transaction id came from the peer. -/
def BuyKept (terms : FatCrabTakerBuyTerms)
    (history : History FatCrabTakerActor TakerMsg tradeInterface) (taker : FatCrabTakerActor) :
    Prop :=
  history.Always (BuyAudited terms) ∧ match taker.inner with
    | .sell _ => False
    | .buy buy => buy.terms = terms ∧ HeardTxid peerMsg history buy.data.peerBtcTxid

/-- A program of a Buy taker keeps this. -/
def KeepsBuy (terms : FatCrabTakerBuyTerms) (program : Handler FatCrabTakerActor Unit)
    (history : History FatCrabTakerActor TakerMsg tradeInterface) (taker : FatCrabTakerActor) :
    Prop :=
  BuyKept terms history taker → program.Safe (fun _ _ => True) (BuyKept terms)
    (fun history taker _ => BuyKept terms history taker) history taker

section Buy

attribute [local simp] BuyKept BuyAudited FatCrabTakerBuyActor.terms HeardTxid.cons

variable {terms : FatCrabTakerBuyTerms}
  {history : History FatCrabTakerActor TakerMsg tradeInterface} {buy : FatCrabTakerBuyActor}
  {uuid : Uuid} {notifTx : Option NotifTx} {taker : FatCrabTakerActor}

theorem BuyKept.extend (hkept : BuyKept terms history taker)
    {entry : Entry FatCrabTakerActor TakerMsg tradeInterface}
    (haudited : BuyAudited terms entry history) : BuyKept terms (entry :: history) taker := by
  obtain ⟨hpast, hkept⟩ := hkept
  refine ⟨⟨haudited, hpast⟩, ?_⟩
  cases hinner : taker.inner with
  | sell sell =>
      rw [hinner] at hkept
      exact hkept
  | buy buy =>
      rw [hinner] at hkept
      exact ⟨hkept.1, hkept.2.cons entry⟩

theorem keepsBuy_takeOrder : KeepsBuy terms takeOrder history ⟨.buy buy, uuid, notifTx⟩ := by
  rintro ⟨haudited, rfl, hheard⟩
  simp at haudited
  simp [takeOrder, setState, forall_except, haudited, hheard]

theorem keepsBuy_notifyPeer {txid : Option String} :
    KeepsBuy terms (focus buy? putBuy do
        let txid ← Program.unwrap txid
        FatCrabTakerBuyActor.notifyPeer txid)
      history ⟨.buy buy, uuid, notifTx⟩ := by
  rintro ⟨haudited, rfl, hheard⟩
  simp at haudited
  cases txid with
  | none => simp
  | some txid =>
      cases haddress : parseAddress buy.data.btcRxAddr buy.network <;>
        simp [FatCrabTakerBuyActor.notifyPeer, forall_except, haddress, haudited, hheard]

theorem keepsBuy_tradeComplete :
    KeepsBuy terms (focus buy? putBuy FatCrabTakerBuyActor.tradeComplete) history
      ⟨.buy buy, uuid, notifTx⟩ := by
  rintro ⟨haudited, rfl, hheard⟩
  simp at haudited
  simp [FatCrabTakerBuyActor.tradeComplete, forall_except, haudited, hheard]

theorem keepsBuy_handleTradeRspNotif {envelope : TradeResponseEnvelope} :
    KeepsBuy terms (handleTradeRspNotif envelope) history ⟨.buy buy, uuid, notifTx⟩ := by
  rintro ⟨haudited, rfl, hheard⟩
  simp at haudited
  by_cases hstate : buy.data.state = .submittedOffer
  swap
  · simp [handleTradeRspNotif, hstate, haudited, hheard]
  cases htradeRsp : FatCrabTradeRsp.fromN3xbTradeRsp envelope.tradeRsp with
  | none => simp [handleTradeRspNotif, hstate, htradeRsp]
  | some tradeRsp =>
      cases hlistener : buy.notifTx <;>
        simp [handleTradeRspNotif, FatCrabTakerBuyActor.handleTradeRspNotif, hstate, htradeRsp,
          hlistener, haudited, hheard]

/-- The transaction id that is stored stands in the message just received. -/
theorem safe_handlePeerNotif_buy {envelope : PeerEnvelope}
    (hkept : BuyKept terms history ⟨.buy buy, uuid, notifTx⟩) :
    (handlePeerNotif envelope).Safe (fun _ _ => True) (BuyKept terms)
      (fun history taker _ => BuyKept terms history taker)
      (.received (peerMsg envelope) ⟨.buy buy, uuid, notifTx⟩ :: history)
      ⟨.buy buy, uuid, notifTx⟩ := by
  obtain ⟨haudited, rfl, hheard⟩ := hkept
  simp at haudited
  by_cases hstate : buy.data.state = .notifiedOutbound
  swap
  · simp [handlePeerNotif, hstate, haudited, hheard]
  cases hmessage : envelope.message.asFatCrabPeerMessage with
  | none => simp [handlePeerNotif, hstate, hmessage]
  | some message =>
      cases htxid : Bitcoin.txidFromStr message.txid with
      | none =>
          cases notifTx <;>
            simp [handlePeerNotif, FatCrabTakerBuyActor.handlePeerNotif, hstate, hmessage, htxid,
              haudited, hheard]
      | some txid =>
          have htells : messageTxid envelope = some txid := by
            unfold messageTxid
            rw [hmessage, Option.bind_some, htxid]
          have hheard := @heardTxid_received _ _ _ peerMsg history envelope
            (⟨.buy buy, uuid, notifTx⟩ : FatCrabTakerActor) txid htells
          cases notifTx <;>
            simp [handlePeerNotif, FatCrabTakerBuyActor.handlePeerNotif, hstate, hmessage, htxid,
              haudited, hheard]

/-- Programs that leave the trade alone and make quiet calls. -/
theorem keepsBuy_quiet {program : Handler FatCrabTakerActor Unit}
    (honly : program.Only SameTrade TradeCall.Quiet) : KeepsBuy terms program history taker := by
  intro hkept
  refine honly.safe (fun _ _ h => h) (fun _ _ _ h => h) ?_ ?_ hkept
  · rintro history before after hbefore (rfl | ⟨tx, rfl⟩)
    · exact hbefore
    · obtain ⟨inner, uuid, notifTx⟩ := before
      cases inner <;> exact hbefore
  · rintro history taker c reply hbefore hquiet
    apply hbefore.extend
    unfold BuyAudited
    split
    next heq =>
      cases heq
      exact hquiet
    next heq =>
      cases heq
      exact hquiet
    next heq =>
      cases heq
      exact hquiet
    next heq =>
      cases heq
      exact hquiet.elim
    next => trivial

theorem keepsBuy_handleRequest {request : FatCrabTakerRequest} :
    KeepsBuy terms (handleRequest request) history taker := by
  by_cases hquiet : request.quiet = true
  · exact keepsBuy_quiet (only_quiet hquiet)
  obtain ⟨inner, uuid, notifTx⟩ := taker
  cases inner with
  | sell sell => exact fun hkept => hkept.2.elim
  | buy buy =>
      cases request with
      | takeOrder => exact keepsBuy_takeOrder
      | releaseNotifyPeer txid => exact keepsBuy_notifyPeer
      | tradeComplete => exact keepsBuy_tradeComplete
      | _ => exact absurd rfl hquiet

theorem BuyKept.restore (hkept : BuyKept terms history taker) :
    BuyKept terms history taker.restore := by
  obtain ⟨inner, uuid, notifTx⟩ := taker
  cases inner <;> exact hkept

theorem BuyKept.start (hkept : BuyKept terms history taker) :
    start.Safe (fun _ _ => True) (BuyKept terms)
      (fun history taker _ => BuyKept terms history taker) history taker := by
  intro reply _
  have hafter := @BuyKept.extend _ terms history taker hkept
    (.called (.n3xb .registerNotifTx) reply taker) trivial
  refine ⟨hafter, ?_⟩
  cases reply with
  | error error => trivial
  | ok => exact hafter

/-- A Buy taker keeps its terms and its audit, whatever it is asked and answered. -/
theorem buy_invariant (terms : FatCrabTakerBuyTerms) :
    ActorInvariant code (fun _ _ => True) (BuyKept terms) (BuyKept terms) where
  receive := by
    rintro message history taker hkept -
    refine ⟨hkept.extend trivial, ?_⟩
    cases message with
    | request request =>
        rw [code, safe_handle_request]
        exact keepsBuy_handleRequest (hkept.extend trivial)
    | notif result =>
        rw [code, safe_handle_notif]
        obtain ⟨inner, uuid, notifTx⟩ := taker
        cases inner with
        | sell sell => exact hkept.2.elim
        | buy buy =>
            cases result with
            | error error => exact hkept.extend trivial
            | ok notif =>
                cases notif with
                | tradeRsp envelope => exact keepsBuy_handleTradeRspNotif (hkept.extend trivial)
                | peer envelope => exact safe_handlePeerNotif_buy hkept
  restart := by
    intro history taker hkept
    exact ⟨hkept.restore, hkept.restore.start⟩

end Buy

/-! ## Sell takers -/

/-- What a Sell taker may call. -/
def SellAudited (terms : FatCrabTakerSellTerms)
    (entry : Entry FatCrabTakerActor TakerMsg tradeInterface)
    (past : History FatCrabTakerActor TakerMsg tradeInterface) : Prop :=
  match entry with
  | .called (.purse (.sendFunds fundsId address)) _ _ =>
      fundsId = terms.btcFundsId ∧ lastAcceptAddress terms.network past = some address
  | .called (.purse (.freeFunds fundsId)) _ _ => fundsId = terms.btcFundsId
  | .called (.purse (.allocateFunds _)) _ _ => False
  | .called (.n3xb (.sendPeerMessage message)) _ _ => ∃ txid, Paid terms.btcFundsId txid past ∧
      message = .fatCrabPeerMessage ⟨terms.fatcrabRxAddr, Bitcoin.txidToString txid⟩
  | _ => True

/-- At every moment, the terms are kept. -/
def SellKept (terms : FatCrabTakerSellTerms)
    (history : History FatCrabTakerActor TakerMsg tradeInterface) (taker : FatCrabTakerActor) :
    Prop :=
  history.Always (SellAudited terms) ∧ match taker.inner with
    | .buy _ => False
    | .sell sell => sell.terms = terms

/-- Between messages, the stored text is that of the last acceptance. -/
def SellSettled (terms : FatCrabTakerSellTerms)
    (history : History FatCrabTakerActor TakerMsg tradeInterface) (taker : FatCrabTakerActor) :
    Prop :=
  SellKept terms history taker ∧ match taker.inner with
    | .buy _ => False
    | .sell sell => sell.data.peerBtcAddr = lastAcceptText history

/-- A program of a Sell taker keeps what was settled. -/
def KeepsSell {α : Type} (terms : FatCrabTakerSellTerms) (program : Handler FatCrabTakerActor α)
    (history : History FatCrabTakerActor TakerMsg tradeInterface) (taker : FatCrabTakerActor) :
    Prop :=
  SellSettled terms history taker → program.Safe (fun _ _ => True) (SellKept terms)
    (fun history taker _ => SellSettled terms history taker) history taker

section Sell

attribute [local simp] SellKept SellSettled SellAudited FatCrabTakerSellActor.terms

variable {terms : FatCrabTakerSellTerms}
  {history : History FatCrabTakerActor TakerMsg tradeInterface} {sell : FatCrabTakerSellActor}
  {uuid : Uuid} {notifTx : Option NotifTx} {taker : FatCrabTakerActor}
  {entry : Entry FatCrabTakerActor TakerMsg tradeInterface}

theorem SellKept.extend (hkept : SellKept terms history taker)
    (haudited : SellAudited terms entry history) : SellKept terms (entry :: history) taker := by
  obtain ⟨hpast, hterms⟩ := hkept
  exact ⟨⟨haudited, hpast⟩, hterms⟩

theorem SellSettled.extend (hsettled : SellSettled terms history taker)
    (haudited : SellAudited terms entry history) (hentry : acceptText entry = none) :
    SellSettled terms (entry :: history) taker := by
  obtain ⟨hkept, hstored⟩ := hsettled
  refine ⟨hkept.extend haudited, ?_⟩
  rw [lastAcceptText_cons hentry]
  exact hstored

theorem keepsSell_takeOrder : KeepsSell terms takeOrder history ⟨.sell sell, uuid, notifTx⟩ := by
  rintro ⟨⟨haudited, rfl⟩, hstored⟩
  simp at haudited hstored
  simp [takeOrder, setState, forall_except, haudited, hstored]

theorem keepsSell_releaseBtcNotifyPeer :
    KeepsSell terms (focus sell? putSell FatCrabTakerSellActor.releaseBtcNotifyPeer) history
      ⟨.sell sell, uuid, notifTx⟩ := by
  rintro ⟨⟨haudited, rfl⟩, hstored⟩
  simp at haudited hstored
  cases htext : sell.data.peerBtcAddr with
  | none =>
      rw [htext] at hstored
      simp [FatCrabTakerSellActor.releaseBtcNotifyPeer, htext, haudited, ← hstored]
  | some text =>
      rw [htext] at hstored
      cases hparse : Bitcoin.addressFromStr text with
      | none => simp [FatCrabTakerSellActor.releaseBtcNotifyPeer, htext, hparse]
      | some address =>
          cases hvalid : Bitcoin.isValidForNetwork address sell.network with
          | false =>
              simp [FatCrabTakerSellActor.releaseBtcNotifyPeer, htext, hparse, hvalid, haudited,
                ← hstored]
          | true =>
              have hon := addressOn_eq_some.mpr ⟨hparse, hvalid⟩
              have haddress : lastAcceptAddress sell.network history = some address := by
                rw [lastAcceptAddress, ← hstored, Option.bind_some, hon]
              simp [FatCrabTakerSellActor.releaseBtcNotifyPeer, htext, hparse, hvalid,
                forall_except, haudited, ← hstored, haddress]
              -- the message tells of the payment that was just answered
              rintro reply txid rfl
              have hpaid : Paid sell.data.btcFundsId txid (.called
                  (.purse (.sendFunds sell.data.btcFundsId address)) (some (.ok txid))
                  ⟨.sell sell, uuid, notifTx⟩ :: history) := ⟨address, _, List.mem_cons_self⟩
              exact ⟨fun _ => ⟨txid, hpaid, rfl⟩, txid, hpaid, rfl⟩

/-- Whatever the release came to, the rest only answers. -/
theorem keepsSell_releaseNotifyPeer :
    KeepsSell terms (focus sell? putSell FatCrabTakerSellActor.releaseNotifyPeer) history
      ⟨.sell sell, uuid, notifTx⟩ := by
  intro hsettled
  rw [FatCrabTakerSellActor.releaseNotifyPeer, focus_bind, safe_bind]
  refine (keepsSell_releaseBtcNotifyPeer hsettled).mono fun history taker result hsettled => ?_
  obtain ⟨inner, uuid, notifTx⟩ := taker
  cases inner with
  | buy buy => exact hsettled.2.elim
  | sell sell =>
      obtain ⟨⟨haudited, rfl⟩, hstored⟩ := hsettled
      simp at haudited hstored
      cases result <;> simp [haudited, hstored]

theorem keepsSell_tradeComplete :
    KeepsSell terms (focus sell? putSell FatCrabTakerSellActor.tradeComplete) history
      ⟨.sell sell, uuid, notifTx⟩ := by
  rintro ⟨⟨haudited, rfl⟩, hstored⟩
  simp at haudited hstored
  simp [FatCrabTakerSellActor.tradeComplete, forall_except, haudited, hstored]

theorem keepsSell_notifyTradeRsp {tradeRsp : FatCrabTradeRsp}
    {envelope : TradeResponseEnvelope} :
    KeepsSell terms (focus sell? putSell (FatCrabTakerSellActor.notifyTradeRsp tradeRsp envelope))
      history ⟨.sell sell, uuid, notifTx⟩ := by
  rintro ⟨⟨haudited, rfl⟩, hstored⟩
  simp at haudited hstored
  cases hlistener : sell.notifTx <;>
    simp [FatCrabTakerSellActor.notifyTradeRsp, hlistener, haudited, hstored]

/-- An acceptance is stored before it is acted on. -/
theorem safe_handleTradeRspNotif_accept {receiveAddress : String}
    {envelope : TradeResponseEnvelope} (haudited : History.Always (SellAudited sell.terms) history)
    (hentry : lastAcceptText history = some receiveAddress) :
    (focus sell? putSell (FatCrabTakerSellActor.handleTradeRspNotif (.accept receiveAddress)
        envelope)).Safe (fun _ _ => True) (SellKept sell.terms)
      (fun history taker _ => SellSettled sell.terms history taker) history
      ⟨.sell sell, uuid, notifTx⟩ := by
  simp only [FatCrabTakerSellActor.handleTradeRspNotif, FatCrabTakerSellActor.setPeerBtcAddr,
    FatCrabTakerSellActor.setState, update_eq, modify_bind, pure_bind, focus_modify, focus_bind,
    safe_modify, sell?_sell, safe_bind]
  have hstored : SellSettled sell.terms history ⟨.sell { sell with
      data.peerBtcAddr := some receiveAddress, data.state := .offerAccepted }, uuid, notifTx⟩ :=
    ⟨⟨haudited, rfl⟩, hentry.symm⟩
  refine ⟨⟨haudited, rfl⟩, hstored.1, ?_⟩
  refine (keepsSell_releaseBtcNotifyPeer hstored).mono fun history taker result hsettled => ?_
  obtain ⟨inner, uuid, notifTx⟩ := taker
  cases inner with
  | buy buy => exact hsettled.2.elim
  | sell sell =>
      cases result with
      | error error => exact keepsSell_notifyTradeRsp hsettled
      | ok =>
          simp only [focus_modify, safe_modify, sell?_sell]
          exact ⟨hsettled.1, keepsSell_notifyTradeRsp hsettled⟩

theorem keepsSell_handleTradeRspNotif_reject {envelope : TradeResponseEnvelope} :
    KeepsSell terms (focus sell? putSell
      (FatCrabTakerSellActor.handleTradeRspNotif .reject envelope)) history
      ⟨.sell sell, uuid, notifTx⟩ := by
  rintro ⟨⟨haudited, rfl⟩, hstored⟩
  simp at haudited hstored
  cases hlistener : sell.notifTx <;>
    simp [FatCrabTakerSellActor.handleTradeRspNotif, FatCrabTakerSellActor.notifyTradeRsp,
      hlistener, haudited, hstored]

/-- A trade response is part of the history already when its handler starts. -/
theorem safe_handleTradeRspNotif_sell {envelope : TradeResponseEnvelope}
    (hsettled : SellSettled terms history ⟨.sell sell, uuid, notifTx⟩) :
    (handleTradeRspNotif envelope).Safe (fun _ _ => True) (SellKept terms)
      (fun history taker _ => SellSettled terms history taker)
      (.received (.notif (.ok (.tradeRsp envelope))) ⟨.sell sell, uuid, notifTx⟩ :: history)
      ⟨.sell sell, uuid, notifTx⟩ := by
  have hextend := fun hentry => @SellSettled.extend _ terms history ⟨.sell sell, uuid, notifTx⟩
    (.received (.notif (.ok (.tradeRsp envelope))) ⟨.sell sell, uuid, notifTx⟩) hsettled trivial
    hentry
  by_cases hstate : sell.data.state = .submittedOffer
  swap
  · simp only [handleTradeRspNotif, read_eq, get_bind, pure_bind, safe_get, state_sell, hstate,
      not_false_eq_true, if_true, ne_eq]
    exact hextend (if_neg hstate)
  have hentry : acceptText (.received (.notif (.ok (.tradeRsp envelope)))
      ⟨.sell sell, uuid, notifTx⟩) = match FatCrabTradeRsp.fromN3xbTradeRsp envelope.tradeRsp with
        | some (.accept receiveAddress) => some receiveAddress
        | _ => none :=
    if_pos hstate
  simp only [handleTradeRspNotif, read_eq, get_bind, pure_bind, safe_get, state_sell, hstate,
    not_true_eq_false, if_false, ne_eq, safe_unwrap_bind, safe_withInner_sell]
  intro tradeRsp htradeRsp
  rw [htradeRsp] at hentry
  cases tradeRsp with
  | reject => exact keepsSell_handleTradeRspNotif_reject (hextend hentry)
  | accept receiveAddress =>
      obtain ⟨⟨haudited, rfl⟩, -⟩ := hsettled
      apply safe_handleTradeRspNotif_accept
      · exact ⟨trivial, haudited⟩
      · rw [lastAcceptText, hentry, Option.some_or]

theorem keepsSell_handlePeerNotif {envelope : PeerEnvelope} :
    KeepsSell terms (handlePeerNotif envelope) history ⟨.sell sell, uuid, notifTx⟩ := by
  rintro ⟨⟨haudited, rfl⟩, hstored⟩
  simp at haudited hstored
  by_cases hstate : sell.data.state = .notifiedOutbound
  swap
  · simp [handlePeerNotif, hstate, haudited, hstored]
  cases hmessage : envelope.message.asFatCrabPeerMessage with
  | none => simp [handlePeerNotif, hstate, hmessage]
  | some message =>
      cases notifTx <;> simp [handlePeerNotif, hstate, hmessage, haudited, hstored]

/-- Programs that leave the trade alone and make quiet calls. -/
theorem keepsSell_quiet {program : Handler FatCrabTakerActor Unit}
    (honly : program.Only SameTrade TradeCall.Quiet) : KeepsSell terms program history taker := by
  intro hsettled
  refine honly.safe (fun _ _ h => h.1) (fun _ _ _ h => h) ?_ ?_ hsettled
  · rintro history before after hbefore (rfl | ⟨tx, rfl⟩)
    · exact hbefore
    · obtain ⟨inner, uuid, notifTx⟩ := before
      cases inner <;> exact hbefore
  · rintro history taker c reply hbefore hquiet
    refine hbefore.extend ?_ rfl
    unfold SellAudited
    split
    next heq =>
      cases heq
      exact hquiet.elim
    next heq =>
      cases heq
      exact hquiet.elim
    next heq =>
      cases heq
      exact hquiet
    next heq =>
      cases heq
      exact hquiet.elim
    next => trivial

theorem keepsSell_handleRequest {request : FatCrabTakerRequest} :
    KeepsSell terms (handleRequest request) history taker := by
  by_cases hquiet : request.quiet = true
  · exact keepsSell_quiet (only_quiet hquiet)
  obtain ⟨inner, uuid, notifTx⟩ := taker
  cases inner with
  | buy buy => exact fun hsettled => hsettled.2.elim
  | sell sell =>
      cases request with
      | takeOrder => exact keepsSell_takeOrder
      | releaseNotifyPeer txid => exact keepsSell_releaseNotifyPeer
      | tradeComplete => exact keepsSell_tradeComplete
      | _ => exact absurd rfl hquiet

theorem SellSettled.restore (hsettled : SellSettled terms history taker) :
    SellSettled terms history taker.restore := by
  obtain ⟨inner, uuid, notifTx⟩ := taker
  cases inner <;> exact hsettled

theorem SellSettled.start (hsettled : SellSettled terms history taker) :
    start.Safe (fun _ _ => True) (SellKept terms)
      (fun history taker _ => SellSettled terms history taker) history taker := by
  intro reply _
  have hafter := @SellSettled.extend _ terms history taker
    (.called (.n3xb .registerNotifTx) reply taker) hsettled trivial rfl
  refine ⟨hafter.1, ?_⟩
  cases reply with
  | error error => trivial
  | ok => exact hafter

/-- A Sell taker keeps its terms and its audit, whatever it is asked and answered. -/
theorem sell_invariant (terms : FatCrabTakerSellTerms) :
    ActorInvariant code (fun _ _ => True) (SellKept terms) (SellSettled terms) where
  receive := by
    rintro message history taker hsettled -
    refine ⟨hsettled.1.extend trivial, ?_⟩
    cases message with
    | request request =>
        rw [code, safe_handle_request]
        exact keepsSell_handleRequest (hsettled.extend trivial rfl)
    | notif result =>
        rw [code, safe_handle_notif]
        obtain ⟨inner, uuid, notifTx⟩ := taker
        cases inner with
        | buy buy => exact hsettled.2.elim
        | sell sell =>
            cases result with
            | error error => exact hsettled.extend trivial rfl
            | ok notif =>
                cases notif with
                | tradeRsp envelope => exact safe_handleTradeRspNotif_sell hsettled
                | peer envelope => exact keepsSell_handlePeerNotif (hsettled.extend trivial rfl)
  restart := by
    intro history taker hsettled
    exact ⟨hsettled.restore.1, hsettled.restore.start⟩

end Sell

end FatCrabTakerActor

end FatCrabTrading
