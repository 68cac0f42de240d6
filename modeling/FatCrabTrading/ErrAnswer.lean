import FatCrabTrading.Maker.Quiet
import FatCrabTrading.Sample
import FatCrabTrading.Taker.Quiet

/-! # Errors that leave the trade alone

A requester who reads an error expects that nothing happened. The handlers call n3xB and
the purse first and write afterwards, except for the completion of a trade, which is
written before n3xB is asked.
-/

namespace FatCrabTrading

open Effect Program

section ErrAnswer

variable [Bitcoin]

/-- Whether an answer is an error. -/
def Rsp.isErr : Rsp → Bool
  | .makerState (.error _) | .takerState (.error _) | .peerBtcTxid (.error _)
  | .tradeRsp (.error _) | .confirmations (.error _) | .unit (.error _) => true
  | _ => false

/-- The requester took an error. -/
def TellsErr {σ Msg : Type} : Entry σ Msg tradeInterface → Prop
  | .called (.respond rsp) sent _ => sent = true ∧ rsp.isErr = true
  | _ => False

/-- An error reached the requester. -/
def ErrReceived {σ Msg : Type} (history : History σ Msg tradeInterface) : Prop :=
  ∃ entry ∈ history, TellsErr entry

section History

variable {σ Msg : Type} {store : σ} {history : History σ Msg tradeInterface}

@[simp] theorem tellsErr_n3xb (request : N3xbRequest) (reply : Except N3xbError Unit) :
    ¬ TellsErr (.called (.n3xb request) reply store : Entry σ Msg tradeInterface) := id

@[simp] theorem tellsErr_purse (request : PurseRequest) (reply : Option request.Reply) :
    ¬ TellsErr (.called (.purse request) reply store : Entry σ Msg tradeInterface) := id

@[simp] theorem tellsErr_notify (notifTx : NotifTx) (notif : TradeNotif) (reply : Bool) :
    ¬ TellsErr (.called (.notify notifTx notif) reply store : Entry σ Msg tradeInterface) := id

@[simp] theorem tellsErr_respond (rsp : Rsp) (sent : Bool) :
    TellsErr (.called (.respond rsp) sent store : Entry σ Msg tradeInterface) ↔
      sent = true ∧ rsp.isErr = true := Iff.rfl

@[simp] theorem tellsErr_terminate (reply : Unit) :
    ¬ TellsErr (.called .terminate reply store : Entry σ Msg tradeInterface) := id

@[simp] theorem errReceived_nil : ¬ ErrReceived ([] : History σ Msg tradeInterface) := by
  unfold ErrReceived
  simp

@[simp] theorem errReceived_cons (entry : Entry σ Msg tradeInterface) :
    ErrReceived (entry :: history) ↔ TellsErr entry ∨ ErrReceived history :=
  List.exists_mem_cons_iff ..

end History

namespace FatCrabMakerActor

/-- The stored data of the trade. -/
def stored (self : FatCrabMakerActor) : FatCrabMakerBuyData ⊕ FatCrabMakerSellData :=
  match self.inner with
  | .buy actor => .inl actor.data
  | .sell actor => .inr actor.data

/-- A request served to its end by a maker, with what was observed meanwhile. -/
def answerRequest (answers : (c : TradeCall) → c.Reply) (request : FatCrabMakerRequest)
    (self : FatCrabMakerActor) :
    Result FatCrabMakerActor (History FatCrabMakerActor MakerMsg tradeInterface) Flow :=
  (handle (.request request)).exec (Actor.recording answers) self []

/-- If the requester receives an error, the stored data are what they were. -/
def LeftByErr (answers : (c : TradeCall) → c.Reply) (request : FatCrabMakerRequest)
    (self : FatCrabMakerActor) : Prop :=
  ErrReceived (answerRequest answers request self).environment →
    (answerRequest answers request self).store.stored = self.stored

/-- The trade is completed in the store although n3xB refuses to complete it, and the
requester hears so. -/
def CompletesAlone (answers : (c : TradeCall) → c.Reply) (request : FatCrabMakerRequest)
    (self : FatCrabMakerActor) : Prop :=
  request = .tradeComplete ∧ self.state ≠ .tradeCompleted ∧
    ∃ error, answers (.n3xb .tradeComplete) = .error error ∧
      answers (.respond (.makerState (.error (.n3xb error)))) = true

/-- Once the requester received an error, the stored data are `before`. -/
def Untouched (before : FatCrabMakerBuyData ⊕ FatCrabMakerSellData)
    (history : History FatCrabMakerActor MakerMsg tradeInterface) (self : FatCrabMakerActor) :
    Prop :=
  ErrReceived history → self.stored = before

/-- A program that nobody heard an error from leaves the data alone once somebody does. -/
def KeepsOnErr (program : Handler FatCrabMakerActor Unit) (self : FatCrabMakerActor) : Prop :=
  program.Safe (fun _ _ => True) (Untouched self.stored)
    (fun history after _ => Untouched self.stored history after) [] self

section KeepsOnErr

attribute [local simp] KeepsOnErr Untouched handleRequest Rsp.isErr stored setState

variable {self : FatCrabMakerActor} {buy : FatCrabMakerBuyActor} {sell : FatCrabMakerSellActor}
  {uuid : Uuid} {notifTx : Option NotifTx}

theorem keepsOnErr_postNewOrder : KeepsOnErr postNewOrder self := by
  obtain ⟨inner, uuid, notifTx⟩ := self
  cases inner <;> simp [postNewOrder, forall_except]

theorem keepsOnErr_cancelOrder_buy :
    KeepsOnErr (focus buy? putBuy FatCrabMakerBuyActor.cancelOrder) ⟨.buy buy, uuid, notifTx⟩ := by
  cases hstate : buy.data.state <;>
    simp [FatCrabMakerBuyActor.cancelOrder, hstate, forall_except]

theorem keepsOnErr_cancelOrder_sell :
    KeepsOnErr (focus sell? putSell FatCrabMakerSellActor.cancelOrder)
      ⟨.sell sell, uuid, notifTx⟩ := by
  cases hstate : sell.data.state <;>
    simp [FatCrabMakerSellActor.cancelOrder, hstate, forall_except]

theorem keepsOnErr_tradeResponse_buy {tradeRspType : FatCrabTradeRspType}
    {envelope : FatCrabOfferEnvelope} :
    KeepsOnErr (focus buy? putBuy (FatCrabMakerBuyActor.tradeResponse tradeRspType envelope))
      ⟨.buy buy, uuid, notifTx⟩ := by
  cases tradeRspType <;> simp [FatCrabMakerBuyActor.tradeResponse]

theorem keepsOnErr_tradeResponse_sell {tradeRspType : FatCrabTradeRspType}
    {envelope : FatCrabOfferEnvelope} :
    KeepsOnErr (focus sell? putSell (FatCrabMakerSellActor.tradeResponse tradeRspType envelope))
      ⟨.sell sell, uuid, notifTx⟩ := by
  cases tradeRspType <;> simp [FatCrabMakerSellActor.tradeResponse]

theorem keepsOnErr_releaseNotifyPeer :
    KeepsOnErr (focus buy? putBuy FatCrabMakerBuyActor.releaseNotifyPeer)
      ⟨.buy buy, uuid, notifTx⟩ := by
  cases haddr : buy.data.peerBtcAddr <;>
    simp [FatCrabMakerBuyActor.releaseNotifyPeer, haddr, forall_except]

theorem keepsOnErr_notifyPeer {txid : Option String} :
    KeepsOnErr (focus sell? putSell do
        let txid ← Program.unwrap txid
        FatCrabMakerSellActor.notifyPeer txid)
      ⟨.sell sell, uuid, notifTx⟩ := by
  simp [FatCrabMakerSellActor.notifyPeer, forall_except]

theorem keepsOnErr_quiet {request : FatCrabMakerRequest} (hquiet : request.quiet = true) :
    KeepsOnErr (handleRequest request) self := by
  have hsame : ∀ history (after : FatCrabMakerActor), after.inner = self.inner →
      Untouched self.stored history after := by
    intro history after hinner _
    unfold stored
    rw [hinner]
  refine (only_quiet hquiet).safe hsame (fun history after _ => hsame history after) ?_ ?_ rfl
  · rintro history before after hbefore ⟨hinner, -⟩
    exact hinner.trans hbefore
  · exact fun _ _ _ _ hinner _ => hinner

/-- Every request but the completion of the trade. -/
theorem keepsOnErr_handleRequest {request : FatCrabMakerRequest}
    (hrequest : request ≠ .tradeComplete) : KeepsOnErr (handleRequest request) self := by
  by_cases hquiet : request.quiet = true
  · exact keepsOnErr_quiet hquiet
  obtain ⟨inner, uuid, notifTx⟩ := self
  cases inner with
  | buy buy =>
      cases request with
      | postNewOrder => exact keepsOnErr_postNewOrder
      | cancelOrder => exact keepsOnErr_cancelOrder_buy
      | tradeResponse tradeRspType envelope => exact keepsOnErr_tradeResponse_buy
      | releaseNotifyPeer txid => exact keepsOnErr_releaseNotifyPeer
      | tradeComplete => exact absurd rfl hrequest
      | _ => exact absurd rfl hquiet
  | sell sell =>
      cases request with
      | postNewOrder => exact keepsOnErr_postNewOrder
      | cancelOrder => exact keepsOnErr_cancelOrder_sell
      | tradeResponse tradeRspType envelope => exact keepsOnErr_tradeResponse_sell
      | releaseNotifyPeer txid => exact keepsOnErr_notifyPeer
      | tradeComplete => exact absurd rfl hrequest
      | _ => exact absurd rfl hquiet

end KeepsOnErr

/-- What the handler of a request keeps at every moment, the loop's turn keeps. -/
theorem always_handle {always : History FatCrabMakerActor MakerMsg tradeInterface →
      FatCrabMakerActor → Prop} {request : FatCrabMakerRequest} {self : FatCrabMakerActor}
    (answers : (c : TradeCall) → c.Reply)
    (hsafe : (handleRequest request).Safe (fun _ _ => True) always
      (fun history after _ => always history after) [] self) (halways : always [] self) :
    always (answerRequest answers request self).environment
      (answerRequest answers request self).store := by
  unfold answerRequest
  exact Actor.always_exec answers (safe_handle_request.mpr hsafe) halways

section TradeComplete

attribute [local simp] LeftByErr CompletesAlone answerRequest handle handleRequest
  Rsp.isErr Actor.recording stored FatCrabMakerBuyActor.tradeComplete
  FatCrabMakerSellActor.tradeComplete

/-- The state is written first, so a refusal leaves it written. -/
theorem leftByErr_tradeComplete_iff (answers : (c : TradeCall) → c.Reply)
    (self : FatCrabMakerActor) :
    LeftByErr answers .tradeComplete self ↔ ¬ CompletesAlone answers .tradeComplete self := by
  obtain ⟨inner, uuid, notifTx⟩ := self
  cases hcompleted : answers (.n3xb .tradeComplete) with
  | ok =>
      cases hsent : answers (.respond (.makerState (.ok .tradeCompleted))) <;>
        cases inner <;> simp [hcompleted, hsent]
  | error error =>
      cases hsent : answers (.respond (.makerState (.error (.n3xb error)))) with
      | false => cases inner <;> simp [hcompleted, hsent]
      | true =>
          cases inner with
          | buy buy =>
              obtain ⟨uuid, data, network⟩ := buy
              obtain ⟨order, state⟩ := data
              simp [hcompleted, hsent]
              exact eq_comm
          | sell sell =>
              obtain ⟨uuid, data, network⟩ := sell
              obtain ⟨order, state⟩ := data
              simp [hcompleted, hsent]
              exact eq_comm

end TradeComplete

/-- An error leaves the maker's data alone, unless the trade is completed without n3xB. -/
theorem leftByErr_iff (answers : (c : TradeCall) → c.Reply) (request : FatCrabMakerRequest)
    (self : FatCrabMakerActor) :
    LeftByErr answers request self ↔ ¬ CompletesAlone answers request self := by
  by_cases hrequest : request = .tradeComplete
  · subst hrequest
    exact leftByErr_tradeComplete_iff answers self
  · apply iff_of_true
    · exact always_handle answers (keepsOnErr_handleRequest hrequest) fun _ => rfl
    · exact fun halone => hrequest halone.1

end FatCrabMakerActor

namespace FatCrabTakerActor

/-- The stored data of the trade. -/
def stored (self : FatCrabTakerActor) : FatCrabTakerBuyData ⊕ FatCrabTakerSellData :=
  match self.inner with
  | .buy actor => .inl actor.data
  | .sell actor => .inr actor.data

/-- A request served to its end by a taker, with what was observed meanwhile. -/
def answerRequest (answers : (c : TradeCall) → c.Reply) (request : FatCrabTakerRequest)
    (self : FatCrabTakerActor) :
    Result FatCrabTakerActor (History FatCrabTakerActor TakerMsg tradeInterface) Flow :=
  (handle (.request request)).exec (Actor.recording answers) self []

/-- If the requester receives an error, the stored data are what they were. -/
def LeftByErr (answers : (c : TradeCall) → c.Reply) (request : FatCrabTakerRequest)
    (self : FatCrabTakerActor) : Prop :=
  ErrReceived (answerRequest answers request self).environment →
    (answerRequest answers request self).store.stored = self.stored

/-- As for a maker. -/
def CompletesAlone (answers : (c : TradeCall) → c.Reply) (request : FatCrabTakerRequest)
    (self : FatCrabTakerActor) : Prop :=
  request = .tradeComplete ∧ self.state ≠ .tradeCompleted ∧
    ∃ error, answers (.n3xb .tradeComplete) = .error error ∧
      answers (.respond (.takerState (.error (.n3xb error)))) = true

/-- Once the requester received an error, the stored data are `before`. -/
def Untouched (before : FatCrabTakerBuyData ⊕ FatCrabTakerSellData)
    (history : History FatCrabTakerActor TakerMsg tradeInterface) (self : FatCrabTakerActor) :
    Prop :=
  ErrReceived history → self.stored = before

/-- A program that nobody heard an error from leaves the data alone once somebody does. -/
def KeepsOnErr (program : Handler FatCrabTakerActor Unit) (self : FatCrabTakerActor) : Prop :=
  program.Safe (fun _ _ => True) (Untouched self.stored)
    (fun history after _ => Untouched self.stored history after) [] self

section KeepsOnErr

attribute [local simp] KeepsOnErr Untouched handleRequest Rsp.isErr stored setState

variable {self : FatCrabTakerActor} {buy : FatCrabTakerBuyActor} {sell : FatCrabTakerSellActor}
  {uuid : Uuid} {notifTx : Option NotifTx}

theorem keepsOnErr_takeOrder : KeepsOnErr takeOrder self := by
  obtain ⟨inner, uuid, notifTx⟩ := self
  cases inner <;> simp [takeOrder, forall_except]

theorem keepsOnErr_notifyPeer {txid : Option String} :
    KeepsOnErr (focus buy? putBuy do
        let txid ← Program.unwrap txid
        FatCrabTakerBuyActor.notifyPeer txid)
      ⟨.buy buy, uuid, notifTx⟩ := by
  simp [FatCrabTakerBuyActor.notifyPeer, forall_except]

theorem keepsOnErr_releaseNotifyPeer :
    KeepsOnErr (focus sell? putSell FatCrabTakerSellActor.releaseNotifyPeer)
      ⟨.sell sell, uuid, notifTx⟩ := by
  cases haddr : sell.data.peerBtcAddr <;>
    simp [FatCrabTakerSellActor.releaseNotifyPeer, FatCrabTakerSellActor.releaseBtcNotifyPeer,
      haddr, forall_except]

theorem stored_withNotifTx (tx : Option NotifTx) : (self.withNotifTx tx).stored = self.stored := by
  obtain ⟨inner, uuid, notifTx⟩ := self
  cases inner <;> rfl

theorem keepsOnErr_quiet {request : FatCrabTakerRequest} (hquiet : request.quiet = true) :
    KeepsOnErr (handleRequest request) self := by
  have hsame : ∀ history (after : FatCrabTakerActor), after.stored = self.stored →
      Untouched self.stored history after := fun history after hstored _ => hstored
  refine (only_quiet hquiet).safe hsame (fun history after _ => hsame history after) ?_ ?_ rfl
  · rintro history before after hbefore (rfl | ⟨tx, rfl⟩)
    · exact hbefore
    · exact (stored_withNotifTx tx).trans hbefore
  · exact fun _ _ _ _ hstored _ => hstored

/-- Every request but the completion of the trade. -/
theorem keepsOnErr_handleRequest {request : FatCrabTakerRequest}
    (hrequest : request ≠ .tradeComplete) : KeepsOnErr (handleRequest request) self := by
  by_cases hquiet : request.quiet = true
  · exact keepsOnErr_quiet hquiet
  obtain ⟨inner, uuid, notifTx⟩ := self
  cases inner with
  | buy buy =>
      cases request with
      | takeOrder => exact keepsOnErr_takeOrder
      | releaseNotifyPeer txid => exact keepsOnErr_notifyPeer
      | tradeComplete => exact absurd rfl hrequest
      | _ => exact absurd rfl hquiet
  | sell sell =>
      cases request with
      | takeOrder => exact keepsOnErr_takeOrder
      | releaseNotifyPeer txid => exact keepsOnErr_releaseNotifyPeer
      | tradeComplete => exact absurd rfl hrequest
      | _ => exact absurd rfl hquiet

end KeepsOnErr

/-- What the handler of a request keeps at every moment, the loop's turn keeps. -/
theorem always_handle {always : History FatCrabTakerActor TakerMsg tradeInterface →
      FatCrabTakerActor → Prop} {request : FatCrabTakerRequest} {self : FatCrabTakerActor}
    (answers : (c : TradeCall) → c.Reply)
    (hsafe : (handleRequest request).Safe (fun _ _ => True) always
      (fun history after _ => always history after) [] self) (halways : always [] self) :
    always (answerRequest answers request self).environment
      (answerRequest answers request self).store := by
  unfold answerRequest
  exact Actor.always_exec answers (safe_handle_request.mpr hsafe) halways

section TradeComplete

attribute [local simp] LeftByErr CompletesAlone answerRequest handle handleRequest
  Rsp.isErr Actor.recording stored FatCrabTakerBuyActor.tradeComplete
  FatCrabTakerSellActor.tradeComplete

/-- The state is written first, so a refusal leaves it written. -/
theorem leftByErr_tradeComplete_iff (answers : (c : TradeCall) → c.Reply)
    (self : FatCrabTakerActor) :
    LeftByErr answers .tradeComplete self ↔ ¬ CompletesAlone answers .tradeComplete self := by
  obtain ⟨inner, uuid, notifTx⟩ := self
  cases hcompleted : answers (.n3xb .tradeComplete) with
  | ok =>
      cases hsent : answers (.respond (.takerState (.ok .tradeCompleted))) <;>
        cases inner <;> simp [hcompleted, hsent]
  | error error =>
      cases hsent : answers (.respond (.takerState (.error (.n3xb error)))) with
      | false => cases inner <;> simp [hcompleted, hsent]
      | true =>
          cases inner with
          | buy buy =>
              obtain ⟨uuid, data, network⟩ := buy
              obtain ⟨orderEnvelope, state⟩ := data
              simp [hcompleted, hsent]
              exact eq_comm
          | sell sell =>
              obtain ⟨uuid, data, network⟩ := sell
              obtain ⟨orderEnvelope, state⟩ := data
              simp [hcompleted, hsent]
              exact eq_comm

end TradeComplete

/-- An error leaves the taker's data alone, unless the trade is completed without n3xB. -/
theorem leftByErr_iff (answers : (c : TradeCall) → c.Reply) (request : FatCrabTakerRequest)
    (self : FatCrabTakerActor) :
    LeftByErr answers request self ↔ ¬ CompletesAlone answers request self := by
  by_cases hrequest : request = .tradeComplete
  · subst hrequest
    exact leftByErr_tradeComplete_iff answers self
  · apply iff_of_true
    · exact always_handle answers (keepsOnErr_handleRequest hrequest) fun _ => rfl
    · exact fun halone => hrequest halone.1

end FatCrabTakerActor

/-- For makers and takers of either role in any state, every request, and all answers of
n3xB, the purse and the requester: an error leaves the stored data alone exactly if the
trade is not being completed without n3xB. -/
theorem err_leaves_data :
    (∀ answers request (maker : FatCrabMakerActor),
      maker.LeftByErr answers request ↔ ¬ maker.CompletesAlone answers request) ∧
    ∀ answers request (taker : FatCrabTakerActor),
      taker.LeftByErr answers request ↔ ¬ taker.CompletesAlone answers request :=
  ⟨FatCrabMakerActor.leftByErr_iff, FatCrabTakerActor.leftByErr_iff⟩

end ErrAnswer

section Sample

open Sample

/-- Surroundings in which only n3xB refuses to complete a trade. -/
def incompletable : (c : TradeCall) → c.Reply
  | .n3xb .tradeComplete => .error ⟨"relays unreachable"⟩
  | c => obliging c

/-- A new maker is asked to complete its trade. -/
theorem completed_by_err : ∃ actor : Actor FatCrabMakerActor MakerMsg tradeInterface,
    Actor.Steps FatCrabMakerActor.code (.launch FatCrabMakerActor.code buyMaker) actor ∧
      actor.task = .idle ∧
      ErrReceived (actor.store.answerRequest incompletable .tradeComplete).environment ∧
      (actor.store.answerRequest incompletable .tradeComplete).store.stored ≠
        actor.store.stored := by
  refine ⟨_, Actor.steps_opened_deliverAll obliging buyMaker [], rfl, ?_, ?_⟩
  · exact ⟨_, List.mem_cons_self, rfl, rfl⟩
  · intro hsame
    have hstate := congrArg (Sum.elim FatCrabMakerBuyData.state FatCrabMakerSellData.state) hsame
    cases hstate

end Sample

end FatCrabTrading
