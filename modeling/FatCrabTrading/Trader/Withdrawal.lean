import FatCrabTrading.Purse.Replies
import FatCrabTrading.Sample
import FatCrabTrading.Trader.Wallet

/-! # Withdrawals

`wallet_send_to_address` asks the purse three times: for the balances, for an allocation and
for a payment from it. The id of the allocation is known to nobody else. A payment that
fails leaves it in the table, and the call returns without freeing it.
-/

namespace FatCrabTrading

open Effect Program

section Withdrawal

variable [Bitcoin]

namespace Purse

section Serve

variable {answers : WalletAnswers} {purse : Purse}

/-- A fresh id that enters the table and leaves it again was never there. -/
theorem allocatedFunds_deallocate_allocate {fundsId : Uuid} (sats : ℕ)
    (hfresh : purse.lookup fundsId = none) :
    ((purse.allocate fundsId sats).deallocate fundsId).actor.data.allocatedFunds =
      purse.actor.data.allocatedFunds := by
  have hnot : fundsId ∉ purse.actor.data.allocatedFunds := AList.lookup_eq_none.mp hfresh
  apply AList.ext
  calc ((purse.actor.data.allocatedFunds.insert fundsId sats).erase fundsId).entries
      = (purse.actor.data.allocatedFunds.insert fundsId sats).entries.kerase fundsId := rfl
    _ = purse.actor.data.allocatedFunds.entries := by
        rw [AList.entries_insert_of_notMem hnot]
        exact List.kerase_cons_eq rfl

end Serve

end Purse

/-- A client's purse, with the answers of the wallet and the chain for each of its requests. -/
def purseEnvironment (answers : PurseRequest → WalletAnswers) :
    Program.Environment Unit tradeInterface Purse
  | _, purse, .purse request => purse.serve (answers request) request
  | _, purse, .n3xb _ => (.ok (), purse)
  | _, purse, .notify _ _ => (true, purse)
  | _, purse, .respond _ => (true, purse)
  | _, purse, .terminate => ((), purse)

namespace WalletClient

/-- One withdrawal: how the call ended, and the purse that it left. -/
def withdraw (answers : PurseRequest → WalletAnswers) (address : Address) (sats : ℕ)
    (purse : Purse) : Result Unit Purse (Except FatCrabError Txid) :=
  (walletSendToAddress address sats).exec (purseEnvironment answers) () purse

/-- The ledger ends as it was, and a withdrawal that succeeds has sent exactly `sats` to the
address. -/
def LocksNothing (answers : PurseRequest → WalletAnswers) (address : Address) (sats : ℕ)
    (purse : Purse) : Prop :=
  (withdraw answers address sats purse).environment.actor.data.allocatedFunds =
      purse.actor.data.allocatedFunds ∧
    ∀ txid, (withdraw answers address sats purse).outcome = .done (.ok txid) →
      ∃ fundsId tx, (withdraw answers address sats purse).environment.broadcasts =
          (fundsId, tx) :: purse.broadcasts ∧
        tx.txid = txid ∧ tx.recipients = [(Bitcoin.scriptPubkey address, sats)]

/-- The id of the allocation. -/
def drawnId (answers : PurseRequest → WalletAnswers) (sats : ℕ) : Uuid :=
  answers (.allocateFunds sats) .newV4

/-- The withdrawal gets as far as its allocation. -/
structure Reserves (answers : PurseRequest → WalletAnswers) (sats : ℕ) (purse : Purse) : Prop where
  serving : purse.status = .serving
  confirmed : ∃ balance, answers .getBalances .getBalance = .ok balance ∧ sats ≤ balance.confirmed
  granted : purse.grants (answers (.allocateFunds sats)) sats = some true

/-- What the wallet and the chain make of the payment. -/
def payment (answers : PurseRequest → WalletAnswers) (address : Address) (sats : ℕ)
    (purse : Purse) : Except BdkError Tx :=
  (answers (.sendFunds (drawnId answers sats) address)).pay purse.actor.data.network
    [(Bitcoin.scriptPubkey address, sats)]

/-- The payment fails after the allocation was made. -/
def Strands (answers : PurseRequest → WalletAnswers) (address : Address) (sats : ℕ)
    (purse : Purse) : Prop :=
  Reserves answers sats purse ∧ ∃ error, payment answers address sats purse = .error error

section Withdraw

variable {answers : PurseRequest → WalletAnswers} {address : Address} {sats : ℕ} {purse : Purse}

theorem exec_ask_bind {α : Type} (request : PurseRequest)
    (next : request.Reply → Handler Unit α) :
    (PurseAccess.ask request >>= next).exec (purseEnvironment answers) () purse =
      match purse.serve (answers request) request with
      | (none, after) => ⟨.panicked, (), after⟩
      | (some reply, after) => (next reply).exec (purseEnvironment answers) () after := by
  change ((unwrap (purse.serve (answers request) request).1) >>= next).exec
    (purseEnvironment answers) () (purse.serve (answers request) request).2 = _
  obtain ⟨reply, after⟩ := purse.serve (answers request) request
  cases reply <;> rfl

theorem exec_ask (request : PurseRequest) :
    (PurseAccess.ask request).exec (purseEnvironment answers) () purse =
      match purse.serve (answers request) request with
      | (none, after) => ⟨.panicked, (), after⟩
      | (some reply, after) => ⟨.done reply, (), after⟩ := by
  rw [← bind_pure (PurseAccess.ask request), exec_ask_bind]
  rfl

/-- Up to the allocation the ledger is not touched. -/
theorem withdraw_of_not_reserves (hnot : ¬ Reserves answers sats purse) :
    (withdraw answers address sats purse).environment.actor.data.allocatedFunds =
        purse.actor.data.allocatedFunds ∧
      ∀ txid, (withdraw answers address sats purse).outcome ≠ .done (.ok txid) := by
  unfold withdraw walletSendToAddress
  rw [exec_ask_bind]
  by_cases hserving : purse.status = .serving
  swap
  · simp [Purse.serve_of_not_serving hserving]
  rw [Purse.serve_getBalances hserving]
  cases hbalance : answers .getBalances .getBalance with
  | error error => simp
  | ok balance =>
      cases htotal : purse.actor.data.totalFundsAllocated purse.actor.overflowChecks with
      | none => simp
      | some allocated =>
          by_cases hconfirmed : balance.confirmed < sats
          · simp [hconfirmed]
          · have hgrants : purse.grants (answers (.allocateFunds sats)) sats ≠ some true :=
              fun hgrants => hnot ⟨hserving, ⟨balance, hbalance, not_lt.mp hconfirmed⟩, hgrants⟩
            simp only [hconfirmed, if_false, PurseAccess.allocateFunds]
            rw [exec_ask_bind, Purse.serve_allocateFunds hserving]
            rcases hgranted : purse.grants (answers (.allocateFunds sats)) sats with _ | _ | _
            · simp
            · simp
            · exact absurd hgranted hgrants

/-- After the allocation, the payment decides. -/
theorem withdraw_of_reserves (hreserves : Reserves answers sats purse) :
    withdraw answers address sats purse =
      match payment answers address sats purse with
      | .error error =>
          ⟨.done (.error (.bdk error)), (), purse.allocate (drawnId answers sats) sats⟩
      | .ok tx => ⟨.done (.ok tx.txid), (),
          { (purse.allocate (drawnId answers sats) sats).deallocate (drawnId answers sats) with
            broadcasts := (drawnId answers sats, tx) :: purse.broadcasts }⟩ := by
  obtain ⟨hserving, ⟨balance, hbalance, hconfirmed⟩, hgrants⟩ := hreserves
  obtain ⟨allocated, htotal⟩ := Purse.totalFundsAllocated_of_grants hgrants
  have hstill : (purse.allocate (drawnId answers sats) sats).status = .serving := hserving
  have hlookup : (purse.allocate (drawnId answers sats) sats).lookup (drawnId answers sats) =
      some sats := by
    rw [Purse.lookup_allocate, if_pos rfl]
  unfold withdraw walletSendToAddress
  rw [exec_ask_bind, Purse.serve_getBalances hserving, hbalance, htotal]
  simp only [not_lt.mpr hconfirmed, if_false, PurseAccess.allocateFunds, PurseAccess.sendFunds]
  rw [exec_ask_bind, Purse.serve_allocateFunds hserving, hgrants]
  change (PurseAccess.ask (.sendFunds (drawnId answers sats) address)).exec
    (purseEnvironment answers) () (purse.allocate (drawnId answers sats) sats) = _
  have hpay : (answers (.sendFunds (drawnId answers sats) address)).pay
      (purse.allocate (drawnId answers sats) sats).actor.data.network
      [(Bitcoin.scriptPubkey address, sats)] = payment answers address sats purse := rfl
  rw [exec_ask, Purse.serve_sendFunds hstill, hlookup]
  simp only [hpay]
  cases payment answers address sats purse with
  | error error => rfl
  | ok tx => rfl

/-- For every amount, address, ledger and wallet: a withdrawal leaves the ledger as it was,
and sends what it was asked to if it succeeds, exactly if its payment does not fail after
its allocation. -/
theorem locksNothing_iff (hfresh : purse.lookup (drawnId answers sats) = none) :
    LocksNothing answers address sats purse ↔ ¬ Strands answers address sats purse := by
  by_cases hreserves : Reserves answers sats purse
  · unfold LocksNothing Strands
    rw [withdraw_of_reserves hreserves]
    cases hpayment : payment answers address sats purse with
    | error error =>
        apply iff_of_false
        · intro hlocks
          -- the drawn id is in the table now
          have hlookup := congrArg (AList.lookup (drawnId answers sats)) hlocks.1
          have hallocated := Purse.lookup_allocate (drawnId answers sats) (drawnId answers sats)
            sats purse
          rw [if_pos rfl] at hallocated
          cases hallocated.symm.trans (hlookup.trans hfresh)
        · exact not_not.mpr ⟨hreserves, error, rfl⟩
    | ok tx =>
        apply iff_of_true
        · refine ⟨Purse.allocatedFunds_deallocate_allocate sats hfresh, ?_⟩
          intro txid hdone
          cases hdone
          exact ⟨_, tx, rfl, rfl, WalletAnswers.pay_recipients hpayment⟩
        · intro hstrands
          obtain ⟨-, error, herror⟩ := hstrands
          cases herror
  · apply iff_of_true
    · obtain ⟨hfunds, hnotOk⟩ := withdraw_of_not_reserves hreserves
      exact ⟨hfunds, fun txid hdone => absurd hdone (hnotOk txid)⟩
    · exact fun hstrands => hreserves hstrands.1

end Withdraw

end WalletClient

end Withdrawal

section Sample

open Sample

/-- A purse with nothing reserved. -/
def freshPurse : Purse := ⟨⟨true, .new .regtest 100⟩, .serving, [], [], []⟩

/-- Ninety-nine of a hundred sats, and one for the fee. -/
theorem locksNothing_iff_ninetyNine :
    WalletClient.LocksNothing (fun _ => Sample.wallet ⟨1⟩) SampleAddress.bob 99 freshPurse ↔
      ¬ WalletClient.Strands (fun _ => Sample.wallet ⟨1⟩) SampleAddress.bob 99 freshPurse :=
  WalletClient.locksNothing_iff (PurseData.getAllocatedFunds_new _ _ _)

/-- A hundred of a hundred sats leave nothing for the fee: the withdrawal is refused, and the
sats stay allocated. -/
theorem locked_by_withdrawal :
    (WalletClient.withdraw (fun _ => Sample.wallet ⟨1⟩) SampleAddress.bob 100
        freshPurse).outcome = .done (.error (.bdk ⟨"InsufficientFunds"⟩)) ∧
      freshPurse.lookup ⟨1⟩ = none ∧
      (WalletClient.withdraw (fun _ => Sample.wallet ⟨1⟩) SampleAddress.bob 100
        freshPurse).environment.lookup ⟨1⟩ = some 100 ∧
      ¬ WalletClient.LocksNothing (fun _ => Sample.wallet ⟨1⟩) SampleAddress.bob 100
        freshPurse := by
  have hstays : (WalletClient.withdraw (fun _ => Sample.wallet ⟨1⟩) SampleAddress.bob 100
      freshPurse).environment.lookup ⟨1⟩ = some 100 := by decide +kernel
  refine ⟨by decide +kernel, by decide +kernel, hstays, ?_⟩
  intro hlocks
  have hlookup := congrArg (AList.lookup (⟨1⟩ : Uuid)) hlocks.1
  cases hstays.symm.trans hlookup

end Sample

end FatCrabTrading
