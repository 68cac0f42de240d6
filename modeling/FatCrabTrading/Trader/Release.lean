import FatCrabTrading.Sample
import FatCrabTrading.Trader.Ledger
import FatCrabTrading.Trader.Run

/-! # Releases that fail

A release pays first and tells the peer afterwards. If the payment goes through and the
message does not, the id is gone and no later release can tell the peer. A failed release
can be made good exactly when this does not happen and the id is still in the table.
-/

namespace FatCrabTrading

open Effect Program

section Release

variable [Bitcoin]

namespace Agent

/-- The agent's task waits for a message. -/
def Idle : Agent → Prop
  | .vacant => False
  | .maker actor => actor.task = .idle
  | .taker actor => actor.task = .idle
  | .wallet actor => actor.task = .idle

/-- The Buy maker whose task waits here. -/
def idleBuyMaker : Agent → Option FatCrabMakerBuyActor
  | .maker ⟨⟨.buy buy, _, _⟩, .idle, _⟩ => some buy
  | _ => none

/-- The Sell taker whose task waits here. -/
def idleSellTaker : Agent → Option FatCrabTakerSellActor
  | .taker ⟨⟨.sell sell, _, _⟩, .idle, _⟩ => some sell
  | _ => none

theorem eq_of_idleBuyMaker {agent : Agent} {buy : FatCrabMakerBuyActor}
    (hbuy : agent.idleBuyMaker = some buy) :
    ∃ uuid notifTx history, agent = .maker ⟨⟨.buy buy, uuid, notifTx⟩, .idle, history⟩ := by
  unfold idleBuyMaker at hbuy
  split at hbuy
  next found uuid notifTx history =>
    cases hbuy
    exact ⟨uuid, notifTx, history, rfl⟩
  next => cases hbuy

theorem eq_of_idleSellTaker {agent : Agent} {sell : FatCrabTakerSellActor}
    (hsell : agent.idleSellTaker = some sell) :
    ∃ uuid notifTx history, agent = .taker ⟨⟨.sell sell, uuid, notifTx⟩, .idle, history⟩ := by
  unfold idleSellTaker at hsell
  split at hsell
  next found uuid notifTx history =>
    cases hsell
    exact ⟨uuid, notifTx, history, rfl⟩
  next => cases hsell

/-- The last thing that the agent did was to answer a requester by `Err`. -/
def AnsweredErr : Agent → Prop
  | .maker actor => ∃ error reply store past,
      actor.history = .called (.respond (.makerState (.error error))) reply store :: past
  | .taker actor => ∃ error reply store past,
      actor.history = .called (.respond (.takerState (.error error))) reply store :: past
  | _ => False

/-- A taker is in `OfferAccepted`. -/
def LeftAccepted : Agent → Prop
  | .taker actor => actor.store.state = .offerAccepted
  | _ => False

/-- Since an earlier moment, the agent has sent its peer a message with this transaction
id, and it has reached `NotifiedOutbound`. -/
def NotifiedSince : Agent → Agent → Txid → Prop
  | .maker before, .maker after, txid => after.store.state = .notifiedOutbound ∧
      ∃ recent text, after.history = recent ++ before.history ∧
        FatCrabTrading.Made (.n3xb (.sendPeerMessage (.fatCrabPeerMessage
          ⟨text, Bitcoin.txidToString txid⟩))) (.ok ()) recent
  | .taker before, .taker after, txid => after.store.state = .notifiedOutbound ∧
      ∃ recent text, after.history = recent ++ before.history ∧
        FatCrabTrading.Made (.n3xb (.sendPeerMessage (.fatCrabPeerMessage
          ⟨text, Bitcoin.txidToString txid⟩))) (.ok ()) recent
  | _, _, _ => False

end Agent

namespace Trader

/-- The maker of a slot serves a message from start to end. -/
def serveMaker (slot : ℕ) (message : MakerMsg) (answers : WalletAnswers) (around : Surroundings)
    (trader : Trader) : Trader :=
  (trader.tellMaker slot message).resume slot answers around

/-- The taker of a slot serves a message from start to end. -/
def serveTaker (slot : ℕ) (message : TakerMsg) (answers : WalletAnswers) (around : Surroundings)
    (trader : Trader) : Trader :=
  (trader.tellTaker slot message).resume slot answers around

/-- The agent of a slot serves `ReleaseNotifyPeer`. -/
def release (slot : ℕ) (answers : WalletAnswers) (around : Surroundings) (trader : Trader) :
    Trader :=
  match trader.agents slot with
  | .maker _ => trader.serveMaker slot (.request (.releaseNotifyPeer none)) answers around
  | .taker _ => trader.serveTaker slot (.request (.releaseNotifyPeer none)) answers around
  | _ => trader

/-- Nothing was paid from the id, and it is still allocated. -/
def StillFunded (fundsId : Uuid) (trader : Trader) : Prop :=
  fundsId ∉ trader.purse.broadcasts.map Prod.fst ∧ (trader.purse.lookup fundsId).isSome

/-- Some later release tells the peer of a payment that has been made already. -/
def Retries (slot : ℕ) (fundsId : Uuid) (trader : Trader) : Prop :=
  ∃ later, Steps trader later ∧ (later.agents slot).Idle ∧ ∃ answers around tx,
    (fundsId, tx) ∈ trader.purse.broadcasts ∧
      (later.agents slot).NotifiedSince ((later.release slot answers around).agents slot) tx.txid

/-- If the agent of the slot has failed, nothing is lost. -/
def FailsSafely (slot : ℕ) (fundsId : Uuid) (failed : Agent → Prop) (trader : Trader) : Prop :=
  failed (trader.agents slot) → trader.StillFunded fundsId ∨ trader.Retries slot fundsId

end Trader

/-- The funds are allocated, and if they are paid, n3xB takes the message that says so. -/
def Recoverable (fundsId : Uuid) (fatcrabRxAddr : String) (address : Address) (purse : Purse)
    (answers : WalletAnswers) (around : Surroundings) : Prop :=
  ∃ sats, purse.lookup fundsId = some sats ∧ ∀ tx,
    answers.pay purse.actor.data.network [(Bitcoin.scriptPubkey address, sats)] = .ok tx →
      around.n3xb (.sendPeerMessage (.fatCrabPeerMessage
        ⟨fatcrabRxAddr, Bitcoin.txidToString tx.txid⟩)) = .ok ()

/-- When a Buy maker's release can be made good. -/
def FatCrabMakerBuyActor.ReleaseRecoverable (buy : FatCrabMakerBuyActor) (purse : Purse)
    (answers : WalletAnswers) (around : Surroundings) : Prop :=
  match buy.data.peerBtcAddr with
  | none => (purse.lookup buy.data.btcFundsId).isSome
  | some text => ∀ address, parseAddress text buy.network = some address →
      purse.status = .serving →
        Recoverable buy.data.btcFundsId buy.data.fatcrabRxAddr address purse answers around

/-- When a Sell taker's release on request can be made good. -/
def FatCrabTakerSellActor.ReleaseRecoverable (sell : FatCrabTakerSellActor) (purse : Purse)
    (answers : WalletAnswers) (around : Surroundings) : Prop :=
  match sell.data.peerBtcAddr with
  | none => (purse.lookup sell.data.btcFundsId).isSome
  | some text => ∀ address, Bitcoin.addressFromStr text = some address →
      if Bitcoin.isValidForNetwork address sell.network then
        purse.status = .serving →
          Recoverable sell.data.btcFundsId sell.data.fatcrabRxAddr address purse answers around
      else
        (purse.lookup sell.data.btcFundsId).isSome

/-- When a Sell taker's payment at once, to the address of an acceptance, can be made good. -/
def FatCrabTakerSellActor.RemitRecoverable (sell : FatCrabTakerSellActor)
    (receiveAddress : String) (purse : Purse) (answers : WalletAnswers) (around : Surroundings) :
    Prop :=
  (purse.lookup sell.data.btcFundsId).isSome ∧
    ∀ address, addressOn sell.network receiveAddress = some address → purse.status = .serving →
      Recoverable sell.data.btcFundsId sell.data.fatcrabRxAddr address purse answers around

namespace Trader

variable {trader : Trader} {slot : ℕ} {answers : WalletAnswers} {around : Surroundings}

/-! ## Serving one message -/

theorem serveMaker_eq {message : MakerMsg} {maker : FatCrabMakerActor}
    {history : History FatCrabMakerActor MakerMsg tradeInterface}
    (hagent : trader.agents slot = .maker ⟨maker, .idle, history⟩)
    {result : Program.Result FatCrabMakerActor (Served FatCrabMakerActor MakerMsg) Flow}
    (hresult : (FatCrabMakerActor.handle message).exec (served answers around) maker
      ⟨trader.purse, .received message maker :: history⟩ = result) :
    trader.serveMaker slot message answers around = ⟨result.environment.purse,
      Function.update trader.agents slot (.maker (settled result))⟩ := by
  subst hresult
  simp [serveMaker, tellMaker, resume, hagent, take, runTask, FatCrabMakerActor.code]

theorem serveTaker_eq {message : TakerMsg} {taker : FatCrabTakerActor}
    {history : History FatCrabTakerActor TakerMsg tradeInterface}
    (hagent : trader.agents slot = .taker ⟨taker, .idle, history⟩)
    {result : Program.Result FatCrabTakerActor (Served FatCrabTakerActor TakerMsg) Flow}
    (hresult : (FatCrabTakerActor.handle message).exec (served answers around) taker
      ⟨trader.purse, .received message taker :: history⟩ = result) :
    trader.serveTaker slot message answers around = ⟨result.environment.purse,
      Function.update trader.agents slot (.taker (settled result))⟩ := by
  subst hresult
  simp [serveTaker, tellTaker, resume, hagent, take, runTask, FatCrabTakerActor.code]

theorem agents_serveMaker {message : MakerMsg} {maker : FatCrabMakerActor}
    {history : History FatCrabMakerActor MakerMsg tradeInterface}
    (hagent : trader.agents slot = .maker ⟨maker, .idle, history⟩) :
    (trader.serveMaker slot message answers around).agents slot =
      .maker (settled ((FatCrabMakerActor.handle message).exec (served answers around) maker
        ⟨trader.purse, .received message maker :: history⟩)) := by
  rw [serveMaker_eq hagent rfl]
  exact Function.update_self ..

theorem agents_serveTaker {message : TakerMsg} {taker : FatCrabTakerActor}
    {history : History FatCrabTakerActor TakerMsg tradeInterface}
    (hagent : trader.agents slot = .taker ⟨taker, .idle, history⟩) :
    (trader.serveTaker slot message answers around).agents slot =
      .taker (settled ((FatCrabTakerActor.handle message).exec (served answers around) taker
        ⟨trader.purse, .received message taker :: history⟩)) := by
  rw [serveTaker_eq hagent rfl]
  exact Function.update_self ..

/-- What a payment can come to. -/
theorem serve_sendFunds_of_gone (answers : WalletAnswers) {purse : Purse} {fundsId : Uuid}
    (hnone : purse.lookup fundsId = none) (address : Address) :
    purse.serve answers (.sendFunds fundsId address) = (none, purse) ∨
      purse.serve answers (.sendFunds fundsId address) =
        (some (.error (fundsNotFound fundsId)), purse) := by
  by_cases hserving : purse.status = .serving
  · right
    rw [Purse.serve_sendFunds hserving, hnone]
  · left
    exact Purse.serve_of_not_serving hserving _

/-- A maker never draws an id, whatever it is told. -/
theorem drawsNothing_maker {maker : FatCrabMakerActor} {network : Network}
    {history : History FatCrabMakerActor MakerMsg tradeInterface} {program : Handler _ Flow}
    (hkept : (Agent.maker ⟨maker, .running program, history⟩).Kept network) :
    DrawsNothing program history maker := by
  rcases hkept with ⟨terms, -, hholds⟩ | ⟨terms, -, hholds⟩
  · exact ⟨_, _, hholds.2, fun _ _ _ _ halways => halways.1.1⟩
  · exact ⟨_, _, hholds.2, fun _ _ _ _ halways => halways.1.1⟩

theorem drawsNothing_taker {taker : FatCrabTakerActor} {network : Network}
    {history : History FatCrabTakerActor TakerMsg tradeInterface} {program : Handler _ Flow}
    (hkept : (Agent.taker ⟨taker, .running program, history⟩).Kept network) :
    DrawsNothing program history taker := by
  rcases hkept with ⟨terms, -, hholds⟩ | ⟨terms, -, hholds⟩
  · exact ⟨_, _, hholds.2, fun _ _ _ _ halways => halways.1.1⟩
  · exact ⟨_, _, hholds.2, fun _ _ _ _ halways => halways.1.1⟩

theorem steps_serveMaker (hround : Bitcoin.RoundTrip) (hconsistent : trader.Consistent)
    {message : MakerMsg} {maker : FatCrabMakerActor}
    {history : History FatCrabMakerActor MakerMsg tradeInterface}
    (hagent : trader.agents slot = .maker ⟨maker, .idle, history⟩) :
    Steps trader (trader.serveMaker slot message answers around) := by
  let taken : Actor FatCrabMakerActor MakerMsg tradeInterface :=
    ⟨maker, .running (FatCrabMakerActor.handle message), .received message maker :: history⟩
  have hstep : Step trader ⟨trader.purse, Function.update trader.agents slot (.maker taken)⟩ :=
    step_actor .maker hagent (.receive message) rfl
  have htaken : (Trader.mk trader.purse (Function.update trader.agents slot
      (.maker taken))).agents slot = .maker taken := Function.update_self ..
  have hkept := (hconsistent.step hround hstep).kept slot
  rw [htaken] at hkept
  have hsteps := @steps_exec _ _ _ FatCrabMakerActor.code answers around .maker .maker _ _ slot _ _
    htaken (.inl (drawsNothing_maker hkept))
  rw [Function.update_idem] at hsteps
  rw [serveMaker_eq hagent rfl]
  exact .head hstep hsteps

theorem steps_serveTaker (hround : Bitcoin.RoundTrip) (hconsistent : trader.Consistent)
    {message : TakerMsg} {taker : FatCrabTakerActor}
    {history : History FatCrabTakerActor TakerMsg tradeInterface}
    (hagent : trader.agents slot = .taker ⟨taker, .idle, history⟩) :
    Steps trader (trader.serveTaker slot message answers around) := by
  let taken : Actor FatCrabTakerActor TakerMsg tradeInterface :=
    ⟨taker, .running (FatCrabTakerActor.handle message), .received message taker :: history⟩
  have hstep : Step trader ⟨trader.purse, Function.update trader.agents slot (.taker taken)⟩ :=
    step_actor .taker hagent (.receive message) rfl
  have htaken : (Trader.mk trader.purse (Function.update trader.agents slot
      (.taker taken))).agents slot = .taker taken := Function.update_self ..
  have hkept := (hconsistent.step hround hstep).kept slot
  rw [htaken] at hkept
  have hsteps := @steps_exec _ _ _ FatCrabTakerActor.code answers around .taker .taker _ _ slot _ _
    htaken (.inl (drawsNothing_taker hkept))
  rw [Function.update_idem] at hsteps
  rw [serveTaker_eq hagent rfl]
  exact .head hstep hsteps

/-! ## An id that is gone cannot be paid -/

section Silent

variable {purse : Purse} {buy : FatCrabMakerBuyActor} {sell : FatCrabTakerSellActor}
  {uuid : Uuid} {notifTx : Option NotifTx}

/-- The message that an observed call sent to the peer. -/
def sentMessage {σ Msg : Type} : Entry σ Msg tradeInterface → Option SerdeGeneric
  | .called (.n3xb (.sendPeerMessage message)) _ _ => some message
  | _ => none

/-- If no message was added, none was sent since. -/
theorem not_made_of_sentMessage {σ Msg : Type} {history recent : History σ Msg tradeInterface}
    (hsame : (recent ++ history).filterMap sentMessage = history.filterMap sentMessage)
    (message : SerdeGeneric) (reply : Except N3xbError Unit) :
    ¬FatCrabTrading.Made (.n3xb (.sendPeerMessage message)) reply recent := by
  rintro ⟨store, hentry⟩
  rw [List.filterMap_append] at hsame
  have hnil : recent.filterMap sentMessage = [] := List.append_left_eq_self.mp hsame
  have hmem : message ∈ recent.filterMap sentMessage :=
    List.mem_filterMap.mpr ⟨_, hentry, rfl⟩
  rw [hnil] at hmem
  cases hmem

@[simp] theorem sentMessages_respond {σ Msg : Type} (history : History σ Msg tradeInterface)
    (rsp : Rsp) (sent : Bool) (store : σ) :
    (.called (.respond rsp) sent store :: history).filterMap sentMessage =
      history.filterMap sentMessage := rfl

@[simp] theorem sentMessages_purse {σ Msg : Type} (history : History σ Msg tradeInterface)
    (request : PurseRequest) (reply : Option request.Reply) (store : σ) :
    (.called (.purse request) reply store :: history).filterMap sentMessage =
      history.filterMap sentMessage := rfl

attribute [local simp] FatCrabMakerActor.handle FatCrabMakerActor.handleRequest
  FatCrabMakerBuyActor.releaseNotifyPeer FatCrabTakerActor.handle
  FatCrabTakerActor.handleRequest FatCrabTakerSellActor.releaseNotifyPeer
  FatCrabTakerSellActor.releaseBtcNotifyPeer

theorem silent_release_buyMaker (hnone : purse.lookup buy.data.btcFundsId = none)
    (history : History FatCrabMakerActor MakerMsg tradeInterface) (txid : Option String) :
    ((FatCrabMakerActor.handle (.request (.releaseNotifyPeer txid))).exec (served answers around)
      ⟨.buy buy, uuid, notifTx⟩ ⟨purse, history⟩).environment.history.filterMap sentMessage =
        history.filterMap sentMessage := by
  cases haddress : buy.data.peerBtcAddr with
  | none => simp [haddress]
  | some text =>
      cases hparse : parseAddress text buy.network with
      | none => simp [haddress, hparse]
      | some address =>
          rcases serve_sendFunds_of_gone answers hnone address with hserve | hserve <;>
            simp [haddress, hparse, hserve]

theorem silent_release_sellTaker (hnone : purse.lookup sell.data.btcFundsId = none)
    (history : History FatCrabTakerActor TakerMsg tradeInterface) (txid : Option String) :
    ((FatCrabTakerActor.handle (.request (.releaseNotifyPeer txid))).exec (served answers around)
      ⟨.sell sell, uuid, notifTx⟩ ⟨purse, history⟩).environment.history.filterMap sentMessage =
        history.filterMap sentMessage := by
  cases haddress : sell.data.peerBtcAddr with
  | none => simp [haddress]
  | some text =>
      cases hparse : Bitcoin.addressFromStr text with
      | none => simp [haddress, hparse]
      | some address =>
          cases hvalid : Bitcoin.isValidForNetwork address sell.network with
          | false => simp [haddress, hparse, hvalid]
          | true =>
              rcases serve_sendFunds_of_gone answers hnone address with hserve | hserve <;>
                simp [haddress, hparse, hvalid, hserve]

/-- Once an id is gone, no release tells the peer of it any more. -/
theorem not_retries (hround : Bitcoin.RoundTrip) (hconsistent : trader.Consistent)
    {fundsId : Uuid} {sats : ℕ} (howns : (trader.agents slot).Owns fundsId sats)
    (hgone : Gone fundsId trader.purse) : ¬trader.Retries slot fundsId := by
  rintro ⟨later, hsteps, hidle, answers, around, tx, -, hnotified⟩
  obtain ⟨-, howns, -, hnone⟩ := hconsistent.steps_of_gone hround howns hgone hsteps
  unfold release at hnotified
  cases hagent : later.agents slot with
  | vacant =>
      rw [hagent] at howns
      exact howns
  | wallet actor =>
      rw [hagent] at hnotified
      exact hnotified
  | maker actor =>
      obtain ⟨⟨inner, uuid, notifTx⟩, task, history⟩ := actor
      rw [hagent] at hidle howns hnotified
      obtain rfl := hidle
      cases inner with
      | sell sell => exact howns
      | buy buy =>
          obtain ⟨rfl, -⟩ := howns
          dsimp only at hnotified
          rw [agents_serveMaker hagent] at hnotified
          obtain ⟨-, recent, text, hhistory, hmade⟩ := hnotified
          -- a release that finds no entry ends before it sends anything
          have hsilent := @silent_release_buyMaker _ answers around _ _ uuid notifTx hnone
            (.received (.request (.releaseNotifyPeer none)) ⟨.buy buy, uuid, notifTx⟩ :: history)
            none
          have hrecent := congrArg (List.filterMap sentMessage) hhistory
          exact not_made_of_sentMessage (hrecent.symm.trans hsilent) _ _ hmade
  | taker actor =>
      obtain ⟨⟨inner, uuid, notifTx⟩, task, history⟩ := actor
      rw [hagent] at hidle howns hnotified
      obtain rfl := hidle
      cases inner with
      | buy buy => exact howns
      | sell sell =>
          obtain ⟨rfl, -⟩ := howns
          dsimp only at hnotified
          rw [agents_serveTaker hagent] at hnotified
          obtain ⟨-, recent, text, hhistory, hmade⟩ := hnotified
          have hsilent := @silent_release_sellTaker _ answers around _ _ uuid notifTx hnone
            (.received (.request (.releaseNotifyPeer none)) ⟨.sell sell, uuid, notifTx⟩ :: history)
            none
          have hrecent := congrArg (List.filterMap sentMessage) hhistory
          exact not_made_of_sentMessage (hrecent.symm.trans hsilent) _ _ hmade

end Silent

/-- A failure is safe exactly if the id is still in the table. -/
theorem failsSafely_iff (hround : Bitcoin.RoundTrip) (hconsistent : trader.Consistent)
    {fundsId : Uuid} {sats : ℕ} (howns : (trader.agents slot).Owns fundsId sats)
    (failed : Agent → Prop) : trader.FailsSafely slot fundsId failed ↔
      (failed (trader.agents slot) → (trader.purse.lookup fundsId).isSome) := by
  constructor
  · intro hsafe hfailed
    rcases hsafe hfailed with hfunded | hretries
    · exact hfunded.2
    · by_contra hmissing
      -- a retry needs the entry as well, since every release pays first
      have hnone := Option.not_isSome_iff_eq_none.mp hmissing
      have hgrant := hconsistent.granted slot fundsId sats howns
      exact not_retries hround hconsistent howns ⟨⟨sats, hgrant⟩, hnone⟩ hretries
  · intro hfunded hfailed
    refine .inl ⟨fun hpaid => ?_, hfunded hfailed⟩
    obtain ⟨⟨_, tx⟩, hbroadcast, rfl⟩ := List.mem_map.mp hpaid
    have hnone := (hconsistent.sound.paid _ tx hbroadcast).1
    have hsome := hfunded hfailed
    rw [hnone] at hsome
    cases hsome

/-! ## Releases on request, and the payment at once -/

/-- What a payment can come to, and whether it can be made good. -/
theorem serve_sendFunds_outcome (purse : Purse) (answers : WalletAnswers) (around : Surroundings)
    (fundsId : Uuid) (fatcrabRxAddr : String) (address : Address) :
    (purse.status ≠ .serving ∧
      purse.serve answers (.sendFunds fundsId address) = (none, purse)) ∨
    (purse.status = .serving ∧ purse.lookup fundsId = none ∧
      ¬Recoverable fundsId fatcrabRxAddr address purse answers around ∧
      purse.serve answers (.sendFunds fundsId address) =
        (some (.error (fundsNotFound fundsId)), purse)) ∨
    (∃ error, (purse.lookup fundsId).isSome ∧
      Recoverable fundsId fatcrabRxAddr address purse answers around ∧
      purse.serve answers (.sendFunds fundsId address) = (some (.error error), purse)) ∨
    ∃ (tx : Tx) (after : Purse), purse.status = .serving ∧ (purse.lookup fundsId).isSome ∧
      after.lookup fundsId = none ∧
      (Recoverable fundsId fatcrabRxAddr address purse answers around ↔
        around.n3xb (.sendPeerMessage (.fatCrabPeerMessage
          ⟨fatcrabRxAddr, Bitcoin.txidToString tx.txid⟩)) = .ok ()) ∧
      purse.serve answers (.sendFunds fundsId address) = (some (.ok tx.txid), after) := by
  by_cases hserving : purse.status = .serving
  · rw [Purse.serve_sendFunds hserving]
    unfold Recoverable
    cases hlookup : purse.lookup fundsId with
    | none => exact .inr (.inl ⟨hserving, rfl, nofun, rfl⟩)
    | some sats =>
        cases hpay : answers.pay purse.actor.data.network
            [(Bitcoin.scriptPubkey address, sats)] with
        | error error =>
            simp only [hpay]
            refine .inr (.inr (.inl ⟨.bdk error, rfl, ⟨sats, rfl, ?_⟩, rfl⟩))
            intro tx hpaid
            rw [hpay] at hpaid
            cases hpaid
        | ok tx =>
            simp only [hpay]
            refine .inr (.inr (.inr ⟨tx, _, hserving, rfl, ?_, ?_, rfl⟩))
            · exact (Purse.lookup_deallocate ..).trans (if_pos rfl)
            · constructor
              -- the entry is gone with the payment, so all depends on n3xB
              · rintro ⟨_, hsome, htold⟩
                cases hsome
                exact htold tx hpay
              · intro htold
                refine ⟨sats, rfl, fun other hother => ?_⟩
                rw [hpay] at hother
                cases hother
                exact htold
  · exact .inl ⟨hserving, Purse.serve_of_not_serving hserving _⟩

section Iff

variable {uuid : Uuid} {notifTx : Option NotifTx} {txid : Option String}

attribute [local simp] FatCrabMakerActor.handle FatCrabMakerActor.handleRequest
  FatCrabMakerBuyActor.releaseNotifyPeer FatCrabMakerBuyActor.setState FatCrabTakerActor.handle
  FatCrabTakerActor.handleRequest FatCrabTakerActor.handleNotif
  FatCrabTakerActor.handleTradeRspNotif FatCrabTakerSellActor.handleTradeRspNotif
  FatCrabTakerSellActor.releaseNotifyPeer FatCrabTakerSellActor.releaseBtcNotifyPeer
  FatCrabTakerSellActor.setState
  FatCrabTakerSellActor.setPeerBtcAddr settled Agent.AnsweredErr Agent.LeftAccepted

theorem failsSafely_release_buyMaker (hround : Bitcoin.RoundTrip)
    (hconsistent : trader.Consistent) {buy : FatCrabMakerBuyActor}
    {history : History FatCrabMakerActor MakerMsg tradeInterface}
    (hagent : trader.agents slot = .maker ⟨⟨.buy buy, uuid, notifTx⟩, .idle, history⟩) :
    (trader.serveMaker slot (.request (.releaseNotifyPeer txid)) answers around).FailsSafely slot
        buy.data.btcFundsId Agent.AnsweredErr ↔
      buy.ReleaseRecoverable trader.purse answers around := by
  have howns : (trader.agents slot).Owns buy.data.btcFundsId buy.data.order.sats := by
    rw [hagent]
    exact ⟨rfl, rfl⟩
  have hsteps : Steps trader
      (trader.serveMaker slot (.request (.releaseNotifyPeer txid)) answers around) :=
    steps_serveMaker hround hconsistent hagent
  obtain ⟨hafter, -, hkeeps⟩ := hconsistent.steps hround hsteps
  rw [failsSafely_iff hround hafter (hkeeps slot _ _ howns), agents_serveMaker hagent,
    serveMaker_eq hagent rfl]
  unfold FatCrabMakerBuyActor.ReleaseRecoverable
  cases haddress : buy.data.peerBtcAddr with
  | none => simp [haddress]
  | some text =>
      cases hparse : parseAddress text buy.network with
      | none => simp [haddress, hparse]
      | some address =>
          simp only [hparse, Option.some.injEq, forall_eq']
          rcases serve_sendFunds_outcome trader.purse answers around buy.data.btcFundsId
            buy.data.fatcrabRxAddr address with ⟨hserving, hserve⟩ |
            ⟨hserving, hnone, hnot, hserve⟩ | ⟨error, hsome, hrecoverable, hserve⟩ |
            ⟨tx, after, hserving, -, hnone, hrecoverable, hserve⟩
          · simp [haddress, hparse, hserve, hserving]
          · simp [haddress, hparse, hserve, hserving, hnone, hnot]
          · simp [haddress, hparse, hserve, hsome, hrecoverable]
          · rw [hrecoverable]
            cases htold : around.n3xb (.sendPeerMessage (.fatCrabPeerMessage
                ⟨buy.data.fatcrabRxAddr, Bitcoin.txidToString tx.txid⟩)) with
            | error error => simp [haddress, hparse, hserve, hserving, hnone, htold]
            | ok done =>
                cases hwaiting : around.waiting <;>
                  simp [haddress, hparse, hserve, htold, hwaiting]

/-- A Sell taker that serves a message keeps its id, and stays consistent. -/
theorem failsSafely_sellTaker (hround : Bitcoin.RoundTrip) (hconsistent : trader.Consistent)
    {sell : FatCrabTakerSellActor} {history : History FatCrabTakerActor TakerMsg tradeInterface}
    (hagent : trader.agents slot = .taker ⟨⟨.sell sell, uuid, notifTx⟩, .idle, history⟩)
    (message : TakerMsg) (failed : Agent → Prop) :
    (trader.serveTaker slot message answers around).FailsSafely slot sell.data.btcFundsId failed ↔
      (failed ((trader.serveTaker slot message answers around).agents slot) →
        ((trader.serveTaker slot message answers around).purse.lookup
          sell.data.btcFundsId).isSome) := by
  have howns : (trader.agents slot).Owns sell.data.btcFundsId
      sell.data.orderEnvelope.order.sats := by
    rw [hagent]
    exact ⟨rfl, rfl⟩
  have hsteps : Steps trader (trader.serveTaker slot message answers around) :=
    steps_serveTaker hround hconsistent hagent
  obtain ⟨hafter, -, hkeeps⟩ := hconsistent.steps hround hsteps
  exact failsSafely_iff hround hafter (hkeeps slot _ _ howns) failed

theorem failsSafely_release_sellTaker (hround : Bitcoin.RoundTrip)
    (hconsistent : trader.Consistent) {sell : FatCrabTakerSellActor}
    {history : History FatCrabTakerActor TakerMsg tradeInterface}
    (hagent : trader.agents slot = .taker ⟨⟨.sell sell, uuid, notifTx⟩, .idle, history⟩) :
    (trader.serveTaker slot (.request (.releaseNotifyPeer txid)) answers around).FailsSafely slot
        sell.data.btcFundsId Agent.AnsweredErr ↔
      sell.ReleaseRecoverable trader.purse answers around := by
  rw [failsSafely_sellTaker hround hconsistent hagent, agents_serveTaker hagent,
    serveTaker_eq hagent rfl]
  unfold FatCrabTakerSellActor.ReleaseRecoverable
  cases haddress : sell.data.peerBtcAddr with
  | none => simp [haddress]
  | some text =>
      cases hparse : Bitcoin.addressFromStr text with
      | none => simp [haddress, hparse]
      | some address =>
          simp only [hparse, Option.some.injEq, forall_eq']
          cases hvalid : Bitcoin.isValidForNetwork address sell.network with
          | false => simp [haddress, hparse, hvalid]
          | true =>
              rcases serve_sendFunds_outcome trader.purse answers around sell.data.btcFundsId
                sell.data.fatcrabRxAddr address with ⟨hserving, hserve⟩ |
                ⟨hserving, hnone, hnot, hserve⟩ | ⟨error, hsome, hrecoverable, hserve⟩ |
                ⟨tx, after, hserving, -, hnone, hrecoverable, hserve⟩
              · simp [haddress, hparse, hvalid, hserve, hserving]
              · simp [haddress, hparse, hvalid, hserve, hserving, hnone, hnot]
              · simp [haddress, hparse, hvalid, hserve, hsome, hrecoverable]
              · simp only [hrecoverable]
                cases htold : around.n3xb (.sendPeerMessage (.fatCrabPeerMessage
                    ⟨sell.data.fatcrabRxAddr, Bitcoin.txidToString tx.txid⟩)) with
                | error error => simp [haddress, hparse, hvalid, hserve, hserving, hnone, htold]
                | ok done => simp [haddress, hparse, hvalid, hserve, htold]

/-- The notice of a response asks nothing of the purse. -/
theorem purse_exec_notifyTradeRsp (tradeRsp : FatCrabTradeRsp) (envelope : TradeResponseEnvelope)
    (sell : FatCrabTakerSellActor) (environment : Served FatCrabTakerActor TakerMsg) :
    ((Program.focus FatCrabTakerActor.sell? FatCrabTakerActor.putSell
      (FatCrabTakerSellActor.notifyTradeRsp tradeRsp envelope) >>=
        fun _ => Program.pure Flow.next).exec (served answers around) ⟨.sell sell, uuid, notifTx⟩
          environment).environment.purse = environment.purse := by
  cases hlistener : sell.notifTx with
  | none => simp [FatCrabTakerSellActor.notifyTradeRsp, hlistener]
  | some listener => simp [FatCrabTakerSellActor.notifyTradeRsp, hlistener]

attribute [local simp] purse_exec_notifyTradeRsp

/-- A Sell taker that was told of an acceptance has paid, and told so, or it is still in
`OfferAccepted`. -/
theorem failsSafely_remit (hround : Bitcoin.RoundTrip) (hconsistent : trader.Consistent)
    {sell : FatCrabTakerSellActor} {history : History FatCrabTakerActor TakerMsg tradeInterface}
    (hagent : trader.agents slot = .taker ⟨⟨.sell sell, uuid, notifTx⟩, .idle, history⟩)
    (hstate : sell.data.state = .submittedOffer) {envelope : TradeResponseEnvelope}
    {receiveAddress : String} (hrsp : FatCrabTradeRsp.fromN3xbTradeRsp envelope.tradeRsp =
      some (.accept receiveAddress)) :
    (trader.serveTaker slot (.notif (.ok (.tradeRsp envelope))) answers around).FailsSafely slot
        sell.data.btcFundsId Agent.LeftAccepted ↔
      sell.RemitRecoverable receiveAddress trader.purse answers around := by
  rw [failsSafely_sellTaker hround hconsistent hagent, agents_serveTaker hagent,
    serveTaker_eq hagent rfl]
  unfold FatCrabTakerSellActor.RemitRecoverable addressOn
  cases hparse : Bitcoin.addressFromStr receiveAddress with
  | none => simp [hstate, hrsp, hparse]
  | some address =>
      cases hvalid : Bitcoin.isValidForNetwork address sell.network with
      | false => simp [hstate, hrsp, hparse, hvalid]
      | true =>
          rcases serve_sendFunds_outcome trader.purse answers around sell.data.btcFundsId
            sell.data.fatcrabRxAddr address with ⟨hserving, hserve⟩ |
            ⟨hserving, hnone, hnot, hserve⟩ | ⟨error, hsome, hrecoverable, hserve⟩ |
            ⟨tx, after, hserving, hsome, hnone, hrecoverable, hserve⟩
          · simp [hstate, hrsp, hparse, hvalid, hserve, hserving]
          · simp [hstate, hrsp, hparse, hvalid, hserve, hnone]
          · simp [hstate, hrsp, hparse, hvalid, hserve, hsome, hrecoverable]
          · cases htold : around.n3xb (.sendPeerMessage (.fatCrabPeerMessage
                ⟨sell.data.fatcrabRxAddr, Bitcoin.txidToString tx.txid⟩)) <;>
              rw [htold] at hrecoverable <;>
              simp [hstate, hrsp, hparse, hvalid, hserve, hserving, hsome, hnone, htold,
                hrecoverable]

end Iff

/-- In every reachable trader, a failed release can be made good exactly if it did not pay
before n3xB refused the message, and the funds were still there. -/
theorem failsSafely_release_iff (hround : Bitcoin.RoundTrip) (hreachable : trader.Reachable) :
    (∀ buy txid, (trader.agents slot).idleBuyMaker = some buy →
      ((trader.serveMaker slot (.request (.releaseNotifyPeer txid)) answers around).FailsSafely
          slot buy.data.btcFundsId Agent.AnsweredErr ↔
        buy.ReleaseRecoverable trader.purse answers around)) ∧
    (∀ sell txid, (trader.agents slot).idleSellTaker = some sell →
      ((trader.serveTaker slot (.request (.releaseNotifyPeer txid)) answers around).FailsSafely
          slot sell.data.btcFundsId Agent.AnsweredErr ↔
        sell.ReleaseRecoverable trader.purse answers around)) ∧
    ∀ sell envelope receiveAddress, (trader.agents slot).idleSellTaker = some sell →
      sell.data.state = .submittedOffer →
      FatCrabTradeRsp.fromN3xbTradeRsp envelope.tradeRsp = some (.accept receiveAddress) →
      ((trader.serveTaker slot (.notif (.ok (.tradeRsp envelope))) answers around).FailsSafely
          slot sell.data.btcFundsId Agent.LeftAccepted ↔
        sell.RemitRecoverable receiveAddress trader.purse answers around) := by
  have hconsistent := hreachable.consistent hround
  refine ⟨fun buy txid hbuy => ?_, fun sell txid hsell => ?_,
    fun sell envelope receiveAddress hsell hstate hrsp => ?_⟩
  · obtain ⟨uuid, notifTx, history, hagent⟩ := Agent.eq_of_idleBuyMaker hbuy
    exact failsSafely_release_buyMaker hround hconsistent hagent
  · obtain ⟨uuid, notifTx, history, hagent⟩ := Agent.eq_of_idleSellTaker hsell
    exact failsSafely_release_sellTaker hround hconsistent hagent
  · obtain ⟨uuid, notifTx, history, hagent⟩ := Agent.eq_of_idleSellTaker hsell
    exact failsSafely_remit hround hconsistent hagent hstate hrsp

end Trader

end Release

section Lost

open scoped Sample

/-- n3xB takes no messages to the peer; all else goes well. -/
def Sample.mute : Surroundings where
  n3xb
    | .sendPeerMessage _ => .error ⟨"no relay"⟩
    | _ => .ok ()
  listening _ := true
  waiting := true

/-- A Buy maker that knows where to pay, and a Sell taker that has submitted its offer. -/
def Sample.ready : Trader :=
  (Trader.new true .regtest 100).play [
    (.newMaker 0 (Sample.order .buy) (some "npub1maker"), Sample.wallet ⟨1⟩, Sample.mute),
    (.resume 0, Sample.wallet ⟨3⟩, Sample.mute),
    (.tellMaker 0 (.request (.tradeResponse .accept Sample.offer)), Sample.wallet ⟨3⟩,
      Sample.mute),
    (.tellMaker 0 (.notif (.ok (.peer Sample.peerEnvelope))), Sample.wallet ⟨3⟩, Sample.mute),
    (.newTaker 1 (Sample.orderEnvelope .sell) (some "npub1taker"), Sample.wallet ⟨2⟩, Sample.mute),
    (.resume 1, Sample.wallet ⟨3⟩, Sample.mute),
    (.tellTaker 1 (.request .takeOrder), Sample.wallet ⟨3⟩, Sample.mute)]

theorem Sample.reachable_ready : Sample.ready.Reachable :=
  (Trader.reachable_new true .regtest 100).play _

/-- What the maker of `Sample.ready` needs for a payment is all there, except n3xB. -/
theorem Sample.not_recoverable {buy : FatCrabMakerBuyActor}
    (hbuy : (Sample.ready.agents 0).idleBuyMaker = some buy) :
    ¬buy.ReleaseRecoverable Sample.ready.purse (Sample.wallet ⟨3⟩) Sample.mute := by
  have hfunds : (Sample.ready.agents 0).idleBuyMaker.map (·.data.btcFundsId) = some ⟨1⟩ := by
    decide +kernel
  have haddress : (Sample.ready.agents 0).idleBuyMaker.map
      (fun buy => (buy.data.peerBtcAddr, buy.network)) =
        some (some SampleAddress.bob.text, .regtest) := by decide +kernel
  have hserving : Sample.ready.purse.status = .serving := by decide +kernel
  have hlookup : Sample.ready.purse.lookup ⟨1⟩ = some 50 := by decide +kernel
  rw [hbuy] at hfunds haddress
  have hid : buy.data.btcFundsId = ⟨1⟩ := Option.some.inj hfunds
  have haddr : buy.data.peerBtcAddr = some SampleAddress.bob.text :=
    congrArg Prod.fst (Option.some.inj haddress)
  have hnetwork : buy.network = .regtest := congrArg Prod.snd (Option.some.inj haddress)
  unfold FatCrabMakerBuyActor.ReleaseRecoverable
  rw [haddr, hid]
  intro hrecoverable
  obtain ⟨sats, hsats, htold⟩ := hrecoverable SampleAddress.bob (by rw [hnetwork]; rfl) hserving
  rw [hlookup] at hsats
  cases hsats
  have hpaid : WalletAnswers.pay (Sample.wallet ⟨3⟩) Sample.ready.purse.actor.data.network
      [(SampleAddress.bob, 50)] = .ok ⟨SampleTxid.first, [(SampleAddress.bob, 50)], 1⟩ := by
    rw [show Sample.ready.purse.actor.data.network = .regtest by decide +kernel]
    rfl
  cases htold _ hpaid

/-- A release that pays and cannot tell the peer: the funds are gone, and no later release
will tell the peer. -/
theorem Trader.release_lost : Sample.ready.Reachable ∧ ∃ buy,
    (Sample.ready.agents 0).idleBuyMaker = some buy ∧
      ¬(Sample.ready.serveMaker 0 (.request (.releaseNotifyPeer none)) (Sample.wallet ⟨3⟩)
        Sample.mute).FailsSafely 0 buy.data.btcFundsId Agent.AnsweredErr := by
  obtain ⟨buy, hbuy⟩ : ∃ buy, (Sample.ready.agents 0).idleBuyMaker = some buy :=
    Option.isSome_iff_exists.mp (by decide +kernel)
  obtain ⟨uuid, notifTx, history, hagent⟩ := Agent.eq_of_idleBuyMaker hbuy
  refine ⟨Sample.reachable_ready, buy, hbuy, fun hsafe => ?_⟩
  have hconsistent := Sample.reachable_ready.consistent Sample.roundTrip
  exact Sample.not_recoverable hbuy
    ((failsSafely_release_buyMaker Sample.roundTrip hconsistent hagent).mp hsafe)

/-- In the same moment the Sell taker hears that its offer was accepted. -/
theorem Trader.failsSafely_release_iff_ready : ∃ buy sell,
    (Sample.ready.agents 0).idleBuyMaker = some buy ∧
    (Sample.ready.agents 1).idleSellTaker = some sell ∧
    ((Sample.ready.serveMaker 0 (.request (.releaseNotifyPeer none)) (Sample.wallet ⟨3⟩)
        Sample.mute).FailsSafely 0 buy.data.btcFundsId Agent.AnsweredErr ↔
      buy.ReleaseRecoverable Sample.ready.purse (Sample.wallet ⟨3⟩) Sample.mute) ∧
    ((Sample.ready.serveTaker 1 (.request (.releaseNotifyPeer none)) (Sample.wallet ⟨3⟩)
        Sample.mute).FailsSafely 1 sell.data.btcFundsId Agent.AnsweredErr ↔
      sell.ReleaseRecoverable Sample.ready.purse (Sample.wallet ⟨3⟩) Sample.mute) ∧
    ((Sample.ready.serveTaker 1 (.notif (.ok (.tradeRsp
        ⟨"response", acceptTradeRsp Sample.offer SampleAddress.bob.text⟩)))
        (Sample.wallet ⟨3⟩) Sample.mute).FailsSafely 1 sell.data.btcFundsId Agent.LeftAccepted ↔
      sell.RemitRecoverable SampleAddress.bob.text Sample.ready.purse (Sample.wallet ⟨3⟩)
        Sample.mute) := by
  obtain ⟨buy, hbuy⟩ : ∃ buy, (Sample.ready.agents 0).idleBuyMaker = some buy :=
    Option.isSome_iff_exists.mp (by decide +kernel)
  obtain ⟨sell, hsell⟩ : ∃ sell, (Sample.ready.agents 1).idleSellTaker = some sell :=
    Option.isSome_iff_exists.mp (by decide +kernel)
  have hstate : (Sample.ready.agents 1).idleSellTaker.map (·.data.state) =
      some .submittedOffer := by decide +kernel
  rw [hsell] at hstate
  obtain ⟨hrelease, -, -⟩ := @failsSafely_release_iff Sample.bitcoin Sample.ready 0
    (Sample.wallet ⟨3⟩) Sample.mute Sample.roundTrip Sample.reachable_ready
  obtain ⟨-, hrequest, hremit⟩ := @failsSafely_release_iff Sample.bitcoin Sample.ready 1
    (Sample.wallet ⟨3⟩) Sample.mute Sample.roundTrip Sample.reachable_ready
  exact ⟨buy, sell, hbuy, hsell, hrelease buy none hbuy, hrequest sell none hsell,
    hremit sell _ _ hsell (Option.some.inj hstate) rfl⟩

end Lost

end FatCrabTrading
