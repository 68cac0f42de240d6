import FatCrabTrading.Sample
import FatCrabTrading.Trader.Surroundings

/-! # Trade responses at a taker

A trade response is chosen by the maker: its status, the dynamic type of its specifics
and the address in them are arbitrary. The handler unwraps the downcast, the parse of
the address and the answer of `free_funds`, so a response can end the taker's task.
-/

namespace FatCrabTrading

open Effect Program

section TradeResponse

variable [Bitcoin]

namespace FatCrabTakerActor

/-- The listener that a trade response is reported to. -/
def listener (self : FatCrabTakerActor) : Option NotifTx :=
  match self.inner with
  | .buy buy => buy.notifTx
  | .sell sell => sell.notifTx

/-- A trade response served to its end, in given surroundings. -/
def answerTradeRsp (wallet : WalletAnswers) (around : Surroundings) (purse : Purse)
    (envelope : TradeResponseEnvelope) (self : FatCrabTakerActor) :
    Result FatCrabTakerActor (Served FatCrabTakerActor TakerMsg) Flow :=
  (handle (.notif (.ok (.tradeRsp envelope)))).exec (served wallet around) self ⟨purse, []⟩

/-- Serving a trade response ends without a panic, spends nothing for an acceptance
without its specifics, and for a Sell taker given an address of no use it keeps the
allocation and tells the listener that the funds were not sent. -/
structure Harmless (purse : Purse) (envelope : TradeResponseEnvelope) (taker : FatCrabTakerActor)
    (result : Result FatCrabTakerActor (Served FatCrabTakerActor TakerMsg) Flow) : Prop where
  finishes : result.outcome = .done .next
  unspent : FatCrabTradeRsp.fromN3xbTradeRsp envelope.tradeRsp = none →
    result.environment.purse.broadcasts = purse.broadcasts
  reports : ∀ sell text, taker.inner = .sell sell → sell.data.state = .submittedOffer →
    FatCrabTradeRsp.fromN3xbTradeRsp envelope.tradeRsp = some (.accept text) →
    addressOn sell.network text = none →
      result.environment.purse.lookup sell.data.btcFundsId = purse.lookup sell.data.btcFundsId ∧
        ∀ notifTx, sell.notifTx = some notifTx →
          Told notifTx (.taker (.tradeRsp .offerAccepted ⟨.accept text, envelope⟩))
            result.environment.history

/-- What a Sell taker needs of the purse and of the response to go on. -/
def Settles (purse : Purse) (sell : FatCrabTakerSellActor) : FatCrabTradeRsp → Prop
  | .accept text => ∃ address, Bitcoin.addressFromStr text = some address ∧
      (Bitcoin.isValidForNetwork address sell.network = true → purse.status = .serving)
  | .reject => purse.status = .serving ∧ (purse.lookup sell.data.btcFundsId).isSome = true

/-- In `SubmittedOffer`, an acceptance carries its specifics, the listener is there, and a
Sell taker can settle the response. -/
def Endures (around : Surroundings) (purse : Purse) (envelope : TradeResponseEnvelope)
    (self : FatCrabTakerActor) : Prop :=
  self.state = .submittedOffer → ∃ tradeRsp,
    FatCrabTradeRsp.fromN3xbTradeRsp envelope.tradeRsp = some tradeRsp ∧
      (∀ notifTx, self.listener = some notifTx → around.listening notifTx = true) ∧
      ∀ sell, self.inner = .sell sell → Settles purse sell tradeRsp

section Cases

attribute [local simp] answerTradeRsp handle handleNotif handleTradeRspNotif
  FatCrabTakerBuyActor.handleTradeRspNotif FatCrabTakerSellActor.handleTradeRspNotif
  FatCrabTakerSellActor.releaseBtcNotifyPeer outcome_exec_notifyTradeRsp

variable {wallet : WalletAnswers} {around : Surroundings} {purse : Purse}
  {envelope : TradeResponseEnvelope} {self : FatCrabTakerActor} {tradeRsp : FatCrabTradeRsp}

theorem answerTradeRsp_of_ne (hstate : self.state ≠ .submittedOffer) :
    answerTradeRsp wallet around purse envelope self = ⟨.done .next, self, ⟨purse, []⟩⟩ := by
  simp [hstate]

theorem answerTradeRsp_foreign (hstate : self.state = .submittedOffer)
    (hforeign : FatCrabTradeRsp.fromN3xbTradeRsp envelope.tradeRsp = none) :
    (answerTradeRsp wallet around purse envelope self).outcome = .panicked := by
  simp [hstate, hforeign]

variable {buy : FatCrabTakerBuyActor} {sell : FatCrabTakerSellActor} {uuid : Uuid}
  {notifTx : Option NotifTx} {text : String} {address : Address}

theorem finishes_buy (hstate : buy.data.state = .submittedOffer)
    (hrsp : FatCrabTradeRsp.fromN3xbTradeRsp envelope.tradeRsp = some tradeRsp) :
    (answerTradeRsp wallet around purse envelope ⟨.buy buy, uuid, notifTx⟩).outcome =
        .done .next ↔
      ∀ listener, buy.notifTx = some listener → around.listening listener = true := by
  cases hlistener : buy.notifTx with
  | none => simp [hstate, hrsp, hlistener]
  | some listener => simp [hstate, hrsp, hlistener]

theorem answerTradeRsp_unparsed (hstate : sell.data.state = .submittedOffer)
    (hrsp : FatCrabTradeRsp.fromN3xbTradeRsp envelope.tradeRsp = some (.accept text))
    (hparse : Bitcoin.addressFromStr text = none) :
    (answerTradeRsp wallet around purse envelope ⟨.sell sell, uuid, notifTx⟩).outcome =
      .panicked := by
  simp [hstate, hrsp, hparse]

theorem finishes_invalid (hstate : sell.data.state = .submittedOffer)
    (hrsp : FatCrabTradeRsp.fromN3xbTradeRsp envelope.tradeRsp = some (.accept text))
    (hparse : Bitcoin.addressFromStr text = some address)
    (hinvalid : Bitcoin.isValidForNetwork address sell.network = false) :
    (answerTradeRsp wallet around purse envelope ⟨.sell sell, uuid, notifTx⟩).outcome =
        .done .next ↔
      ∀ listener, sell.notifTx = some listener → around.listening listener = true := by
  simp [hstate, hrsp, hparse, hinvalid]

theorem harmless_invalid (hstate : sell.data.state = .submittedOffer)
    (hrsp : FatCrabTradeRsp.fromN3xbTradeRsp envelope.tradeRsp = some (.accept text))
    (hparse : Bitcoin.addressFromStr text = some address)
    (hinvalid : Bitcoin.isValidForNetwork address sell.network = false)
    (hlistening : ∀ listener, sell.notifTx = some listener → around.listening listener = true) :
    Harmless purse envelope ⟨.sell sell, uuid, notifTx⟩
      (answerTradeRsp wallet around purse envelope ⟨.sell sell, uuid, notifTx⟩) := by
  have hfinishes : (answerTradeRsp wallet around purse envelope
      ⟨.sell sell, uuid, notifTx⟩).outcome = .done .next :=
    (finishes_invalid hstate hrsp hparse hinvalid).mpr hlistening
  cases hlistener : sell.notifTx with
  | none =>
      refine ⟨hfinishes, by simp [hrsp], ?_⟩
      simp [FatCrabTakerSellActor.notifyTradeRsp, hstate, hrsp, hparse, hinvalid, hlistener]
  | some listener =>
      have htold := hlistening listener hlistener
      refine ⟨hfinishes, by simp [hrsp], ?_⟩
      simp [FatCrabTakerSellActor.notifyTradeRsp, hstate, hrsp, hparse, hinvalid, hlistener, htold,
        Told]

theorem finishes_valid (hstate : sell.data.state = .submittedOffer)
    (hrsp : FatCrabTradeRsp.fromN3xbTradeRsp envelope.tradeRsp = some (.accept text))
    (hparse : Bitcoin.addressFromStr text = some address)
    (hvalid : Bitcoin.isValidForNetwork address sell.network = true) :
    (answerTradeRsp wallet around purse envelope ⟨.sell sell, uuid, notifTx⟩).outcome =
        .done .next ↔ purse.status = .serving ∧
      ∀ listener, sell.notifTx = some listener → around.listening listener = true := by
  by_cases hserving : purse.status = .serving
  swap
  · simp [hstate, hrsp, hparse, hvalid, Purse.serve_of_not_serving hserving, hserving]
  obtain ⟨reply, hreply⟩ := @Purse.serve_sendFunds_reply _ wallet _ hserving
    sell.data.btcFundsId address
  -- whether the release succeeds only decides which state is told
  cases reply with
  | error error => simp [hstate, hrsp, hparse, hvalid, hreply, hserving]
  | ok txid =>
      cases hsent : around.n3xb (.sendPeerMessage
          (.fatCrabPeerMessage ⟨sell.data.fatcrabRxAddr, Bitcoin.txidToString txid⟩)) <;>
        simp [hstate, hrsp, hparse, hvalid, hreply, hserving, hsent]

theorem finishes_reject (hstate : sell.data.state = .submittedOffer)
    (hrsp : FatCrabTradeRsp.fromN3xbTradeRsp envelope.tradeRsp = some .reject) :
    (answerTradeRsp wallet around purse envelope ⟨.sell sell, uuid, notifTx⟩).outcome =
        .done .next ↔
      (purse.status = .serving ∧ (purse.lookup sell.data.btcFundsId).isSome = true) ∧
      ∀ listener, sell.notifTx = some listener → around.listening listener = true := by
  by_cases hserving : purse.status = .serving
  swap
  · simp [hstate, hrsp, Purse.serve_of_not_serving hserving, hserving]
  by_cases hfound : (purse.lookup sell.data.btcFundsId).isSome = true <;>
    simp [hstate, hrsp, Purse.serve_freeFunds hserving, hserving, hfound]

end Cases

/-- Nothing else is asked of a response that can be read and is of use. -/
theorem harmless_of_usable {purse : Purse} {envelope : TradeResponseEnvelope}
    {self : FatCrabTakerActor} {tradeRsp : FatCrabTradeRsp}
    {result : Result FatCrabTakerActor (Served FatCrabTakerActor TakerMsg) Flow}
    (hrsp : FatCrabTradeRsp.fromN3xbTradeRsp envelope.tradeRsp = some tradeRsp)
    (husable : ∀ sell text, self.inner = .sell sell → tradeRsp = .accept text →
      addressOn sell.network text ≠ none) :
    Harmless purse envelope self result ↔ result.outcome = .done .next := by
  constructor
  · exact Harmless.finishes
  · intro hfinishes
    refine ⟨hfinishes, fun hnone => ?_, fun sell text hinner _ haccept huseless => ?_⟩
    · rw [hrsp] at hnone
      cases hnone
    · rw [hrsp] at haccept
      cases haccept
      exact absurd huseless (husable sell text hinner rfl)

section Roles

variable {wallet : WalletAnswers} {around : Surroundings} {purse : Purse}
  {envelope : TradeResponseEnvelope} {tradeRsp : FatCrabTradeRsp} {buy : FatCrabTakerBuyActor}
  {sell : FatCrabTakerSellActor} {uuid : Uuid} {notifTx : Option NotifTx}

theorem harmless_buy (hstate : buy.data.state = .submittedOffer)
    (hrsp : FatCrabTradeRsp.fromN3xbTradeRsp envelope.tradeRsp = some tradeRsp) :
    Harmless purse envelope ⟨.buy buy, uuid, notifTx⟩
        (answerTradeRsp wallet around purse envelope ⟨.buy buy, uuid, notifTx⟩) ↔
      ∀ listener, buy.notifTx = some listener → around.listening listener = true := by
  rw [← finishes_buy hstate hrsp]
  apply harmless_of_usable hrsp
  intro sell text hinner
  cases hinner

theorem harmless_reject (hstate : sell.data.state = .submittedOffer)
    (hrsp : FatCrabTradeRsp.fromN3xbTradeRsp envelope.tradeRsp = some .reject) :
    Harmless purse envelope ⟨.sell sell, uuid, notifTx⟩
        (answerTradeRsp wallet around purse envelope ⟨.sell sell, uuid, notifTx⟩) ↔
      Settles purse sell .reject ∧
        ∀ listener, sell.notifTx = some listener → around.listening listener = true := by
  unfold Settles
  rw [← finishes_reject hstate hrsp]
  apply harmless_of_usable hrsp
  intro found text _ haccept
  cases haccept

theorem harmless_accept {text : String} (hstate : sell.data.state = .submittedOffer)
    (hrsp : FatCrabTradeRsp.fromN3xbTradeRsp envelope.tradeRsp = some (.accept text)) :
    Harmless purse envelope ⟨.sell sell, uuid, notifTx⟩
        (answerTradeRsp wallet around purse envelope ⟨.sell sell, uuid, notifTx⟩) ↔
      Settles purse sell (.accept text) ∧
        ∀ listener, sell.notifTx = some listener → around.listening listener = true := by
  cases hparse : Bitcoin.addressFromStr text with
  | none =>
      constructor
      · intro hharmless
        have hfinishes := hharmless.finishes
        rw [answerTradeRsp_unparsed hstate hrsp hparse] at hfinishes
        cases hfinishes
      · rintro ⟨⟨address, hsome, -⟩, -⟩
        rw [hparse] at hsome
        cases hsome
  | some address =>
      have hsettles : Settles purse sell (.accept text) ↔
          (Bitcoin.isValidForNetwork address sell.network = true → purse.status = .serving) := by
        simp only [Settles, hparse, Option.some.injEq, exists_eq_left']
      rw [hsettles]
      cases hvalid : Bitcoin.isValidForNetwork address sell.network with
      | false =>
          constructor
          · intro hharmless
            have hlistening := (finishes_invalid hstate hrsp hparse hvalid).mp hharmless.finishes
            exact ⟨fun hfalse => absurd hfalse Bool.false_ne_true, hlistening⟩
          · rintro ⟨-, hlistening⟩
            exact harmless_invalid hstate hrsp hparse hvalid hlistening
      | true =>
          rw [forall_prop_of_true rfl, ← finishes_valid hstate hrsp hparse hvalid]
          apply harmless_of_usable hrsp
          intro found other hinner haccept
          cases hinner
          cases haccept
          rw [addressOn_eq_some.mpr ⟨hparse, hvalid⟩]
          exact Option.some_ne_none address

end Roles

/-- A taker that waits, in any state and with any purse, serves a trade response without
harm exactly if the response can be read and settled and the listener is there. -/
theorem tradeRsp_harmless_iff (wallet : WalletAnswers) (around : Surroundings) (purse : Purse)
    (envelope : TradeResponseEnvelope) (self : FatCrabTakerActor) :
    Harmless purse envelope self (answerTradeRsp wallet around purse envelope self) ↔
      Endures around purse envelope self := by
  by_cases hstate : self.state = .submittedOffer
  -- in any other state the response is passed over
  swap
  · rw [answerTradeRsp_of_ne hstate]
    refine ⟨fun _ hstate' => absurd hstate' hstate, fun _ => ⟨rfl, fun _ => rfl, ?_⟩⟩
    rintro sell text hinner hsubmitted
    rw [state, hinner] at hstate
    exact absurd hsubmitted hstate
  cases hrsp : FatCrabTradeRsp.fromN3xbTradeRsp envelope.tradeRsp with
  | none =>
      constructor
      · intro hharmless
        have hfinishes := hharmless.finishes
        rw [answerTradeRsp_foreign hstate hrsp] at hfinishes
        cases hfinishes
      · intro hendures
        obtain ⟨tradeRsp, hsome, -⟩ := hendures hstate
        rw [hrsp] at hsome
        cases hsome
  | some tradeRsp =>
      simp only [Endures, hstate, hrsp, forall_const, Option.some.injEq, exists_eq_left']
      obtain ⟨inner, uuid, notifTx⟩ := self
      cases inner with
      | buy buy =>
          rw [harmless_buy hstate hrsp]
          refine ⟨fun hlistening => ⟨hlistening, fun sell hinner => ?_⟩, fun h => h.1⟩
          cases hinner
      | sell sell =>
          have hharmless : Harmless purse envelope ⟨.sell sell, uuid, notifTx⟩
              (answerTradeRsp wallet around purse envelope ⟨.sell sell, uuid, notifTx⟩) ↔
              Settles purse sell tradeRsp ∧
                ∀ listener, sell.notifTx = some listener → around.listening listener = true := by
            cases tradeRsp with
            | reject => exact harmless_reject hstate hrsp
            | accept text => exact harmless_accept hstate hrsp
          rw [hharmless]
          constructor
          · rintro ⟨hsettles, hlistening⟩
            refine ⟨hlistening, ?_⟩
            rintro found ⟨⟩
            exact hsettles
          · rintro ⟨hlistening, hsettles⟩
            exact ⟨hsettles sell rfl, hlistening⟩

end FatCrabTakerActor

end TradeResponse

section Sample

open Sample

namespace FatCrabTakerActor

/-- An order is taken, and its maker accepts by a response with foreign specifics. -/
theorem killed_by_tradeRsp : ∃ actor : Actor FatCrabTakerActor TakerMsg tradeInterface,
    Actor.Steps code (.launch code sellTaker) actor ∧ actor.task = .idle ∧
      ∃ envelope : TradeResponseEnvelope,
        (actor.deliver code obliging (.notif (.ok (.tradeRsp envelope)))).task = .dead := by
  refine ⟨_, Actor.steps_opened_deliverAll obliging sellTaker
    [(obliging, .request .takeOrder)], ?_,
    ⟨"response", ⟨"offer", .accepted, none, some (.other "Greeting")⟩⟩, ?_⟩
  · decide +kernel
  · decide +kernel

end FatCrabTakerActor

end Sample

end FatCrabTrading
