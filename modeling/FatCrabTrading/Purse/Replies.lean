import FatCrabTrading.Purse.Ledger

/-! # Whether the purse replies

A purse that serves replies to a request unless its handler panics, which it does on an answer
or a sum that it unwraps. Where sums are checked, what was granted always adds up.
-/

namespace FatCrabTrading

variable [Bitcoin]

/-- Requests whose handlers unwrap an answer of the wallet, or a sum. -/
def PurseRequest.unwraps : PurseRequest → Bool
  | .getBalances | .allocateFunds _ | .syncBlockchain => true
  | .getMnemonic | .getRxAddress | .freeFunds _ | .sendFunds _ _ | .getHeight | .getTxConf _
  | .shutdown => false

namespace Purse

variable {answers : WalletAnswers} {purse after : Purse} {request : PurseRequest}

/-- A purse that answers anything but `Shutdown` goes on serving. -/
theorem serving_of_serve {reply : request.Reply}
    (hserve : purse.serve answers request = (some reply, after)) (hrequest : request ≠ .shutdown) :
    after.status = .serving := by
  by_cases hserving : purse.status = .serving
  · rw [serve_of_serving hserving] at hserve
    unfold settle at hserve
    split at hserve
    next answer hdone =>
      cases hserve
      cases request with
      | shutdown => exact absurd rfl hrequest
      | allocateFunds sats => cases reply <;> exact hserving
      | freeFunds fundsId => cases reply <;> exact hserving
      | _ => exact hserving
    next => cases hserve
  · rw [serve_of_not_serving hserving] at hserve
    cases hserve

/-- A purse that serves is stopped by `Shutdown`. -/
theorem serve_shutdown (hserving : purse.status = .serving) :
    purse.serve answers .shutdown = (some (.ok ()), { purse with status := .ended }) := by
  rw [serve_of_serving hserving]
  rfl

/-- A purse that still serves has replied. -/
theorem replied_of_serving {reply : Option request.Reply}
    (hserve : purse.serve answers request = (reply, after)) (hserving : after.status = .serving) :
    ∃ answer, reply = some answer := by
  cases reply with
  | some answer => exact ⟨answer, rfl⟩
  | none =>
      unfold serve settle at hserve
      split at hserve
      next hserves =>
        split at hserve
        next => cases hserve
        next =>
          cases hserve
          cases hserving
      next hnot =>
        cases hserve
        exact absurd hserving hnot

/-- Whatever the wallet answers, a request that unwraps nothing is replied to. -/
theorem answered_of_not_unwraps (hunwraps : request.unwraps = false)
    (hserving : purse.status = .serving) :
    ∃ reply, (purse.serve answers request).1 = some reply := by
  cases request with
  | getBalances | allocateFunds sats | syncBlockchain => cases hunwraps
  | sendFunds fundsId address => exact serve_sendFunds_reply hserving fundsId address
  | freeFunds fundsId =>
      rw [serve_freeFunds hserving]
      split <;> exact ⟨_, rfl⟩
  | shutdown =>
      rw [serve_shutdown hserving]
      exact ⟨_, rfl⟩
  | getMnemonic =>
      rw [serve_of_serving hserving]
      cases hmnemonic : answers .fromEntropy <;>
        simp [PurseActor.handle, PurseActor.getMnemonic, settle, hmnemonic]
  | getRxAddress =>
      rw [serve_of_serving hserving]
      cases haddress : answers .getAddress <;>
        simp [PurseActor.handle, PurseActor.getRxAddress, settle, haddress]
  | getHeight =>
      rw [serve_of_serving hserving]
      cases hheight : answers .getHeight <;>
        simp [PurseActor.handle, PurseActor.getHeight, settle, hheight]
  | getTxConf txid =>
      rw [serve_of_serving hserving]
      rcases hdetails : answers (.getTx txid) with error | _ | _ | confHeight
      · simp [PurseActor.handle, PurseActor.getTxConf, settle, hdetails]
      · simp [PurseActor.handle, PurseActor.getTxConf, settle, hdetails]
      · simp [PurseActor.handle, PurseActor.getTxConf, settle, hdetails]
      · by_cases hless : purse.actor.data.height < confHeight <;>
          simp [PurseActor.handle, PurseActor.getTxConf, settle, hdetails, hless]

theorem serve_getBalances (hserving : purse.status = .serving) :
    purse.serve answers .getBalances =
      match answers .getBalance with
      | .error error => (some (.error (.bdk error)), purse)
      | .ok balance =>
          match purse.actor.data.totalFundsAllocated purse.actor.overflowChecks with
          | none => (none, { purse with status := .dead })
          | some allocated => (some (.ok ⟨balance.immature, balance.trustedPending,
              balance.untrustedPending, balance.confirmed, allocated⟩), purse) := by
  rw [serve_of_serving hserving]
  simp only [PurseActor.handle, PurseActor.getBalances]
  cases hbalance : answers .getBalance with
  | error error =>
      simp [hbalance]
      rfl
  | ok balance =>
      cases htotal : purse.actor.data.totalFundsAllocated purse.actor.overflowChecks with
      | none =>
          simp [hbalance, htotal]
          rfl
      | some allocated =>
          simp [hbalance, htotal]
          rfl

/-! ## What was granted adds up -/

/-- A sum of the reservations is a part of what can still be reserved. -/
theorem totalFundsAllocated_of_allocatable {balance : WalletBalance} {allocatable : ℕ}
    (hallocatable : purse.actor.allocatable balance = some allocatable) : ∃ allocated,
      purse.actor.data.totalFundsAllocated purse.actor.overflowChecks = some allocated := by
  unfold PurseActor.allocatable at hallocatable
  obtain ⟨allocated, htotal, -⟩ := Option.bind_eq_some_iff.mp hallocatable
  exact ⟨allocated, htotal⟩

/-- A purse that grants an allocation knows the sum of those it has. -/
theorem totalFundsAllocated_of_grants {sats : ℕ} {granted : Bool}
    (hgrants : purse.grants answers sats = some granted) : ∃ allocated,
      purse.actor.data.totalFundsAllocated purse.actor.overflowChecks = some allocated := by
  unfold grants at hgrants
  split at hgrants
  next => cases hgrants
  next balance hbalance =>
    obtain ⟨allocatable, hallocatable, -⟩ := Option.map_eq_some_iff.mp hgrants
    exact totalFundsAllocated_of_allocatable hallocatable

/-- Where sums are checked, the reservations add up. -/
def Countable (purse : Purse) : Prop :=
  purse.actor.overflowChecks = true → purse.actor.data.allocated < 2 ^ 64

omit [Bitcoin] in
theorem u64_checked {exact sum : ℕ} (hsum : u64 true exact = some sum) :
    exact < 2 ^ 64 ∧ sum = exact := by
  unfold u64 at hsum
  split at hsum
  next hfits => exact ⟨hfits, (Option.some.inj hsum).symm⟩
  next => cases hsum

/-- A reservation that is granted fits beside the others. -/
theorem fits_of_grants {sats : ℕ} (hchecks : purse.actor.overflowChecks = true)
    (hgrants : purse.grants answers sats = some true) :
    purse.actor.data.allocated + sats < 2 ^ 64 := by
  unfold grants at hgrants
  split at hgrants
  next => cases hgrants
  next balance hbalance =>
    obtain ⟨allocatable, hallocatable, hle⟩ := Option.map_eq_some_iff.mp hgrants
    unfold PurseActor.allocatable PurseData.totalFundsAllocated at hallocatable
    rw [hchecks] at hallocatable
    obtain ⟨total, htotal, hrest⟩ := Option.bind_eq_some_iff.mp hallocatable
    obtain ⟨sum, hsum, hleft⟩ := Option.bind_eq_some_iff.mp hrest
    obtain ⟨-, rfl⟩ := u64_checked htotal
    obtain ⟨hfits, rfl⟩ := u64_checked hsum
    unfold u64Sub at hleft
    split at hleft
    next hcovered =>
      cases hleft
      have hsats := of_decide_eq_true hle
      omega
    next => cases hleft

theorem overflowChecks_serve (answers : WalletAnswers) (purse : Purse) (request : PurseRequest) :
    (purse.serve answers request).2.actor.overflowChecks = purse.actor.overflowChecks := by
  by_cases hserving : purse.status = .serving
  swap
  · rw [serve_of_not_serving hserving]
  by_cases hreadOnly : request.readOnly = true
  · rw [serve_of_serving hserving, settle_actor]
    obtain ⟨height, hstore⟩ := @handle_readOnly _ answers request hreadOnly purse.actor
    rw [hstore]
  cases request with
  | allocateFunds sats =>
      rw [serve_allocateFunds hserving]
      split <;> rfl
  | freeFunds fundsId =>
      rw [serve_freeFunds hserving]
      split <;> rfl
  | sendFunds fundsId address =>
      rw [serve_sendFunds hserving]
      split
      next => rfl
      next => split <;> rfl
  | _ => exact absurd rfl hreadOnly

/-- A request adds to the reservations only what it is granted. -/
theorem allocated_serve (answers : WalletAnswers) (purse : Purse) (request : PurseRequest) :
    (purse.serve answers request).2.actor.data.allocated ≤ purse.actor.data.allocated ∨
      ∃ sats, purse.grants answers sats = some true ∧
        (purse.serve answers request).2.actor.data.allocated ≤
          purse.actor.data.allocated + sats := by
  by_cases hserving : purse.status = .serving
  · cases request with
    | allocateFunds sats =>
        rw [serve_allocateFunds hserving]
        split
        next => exact .inl le_rfl
        next => exact .inl le_rfl
        next hgrants =>
          exact .inr ⟨sats, hgrants, PurseData.allocated_allocateFunds_le _ _ _ _⟩
    | freeFunds fundsId =>
        left
        rw [serve_freeFunds hserving]
        split <;> exact PurseData.allocated_deallocateFunds_le _ _ _
    | sendFunds fundsId address =>
        left
        rw [serve_sendFunds hserving]
        split
        next => exact le_rfl
        next =>
          split
          next => exact le_rfl
          next => exact PurseData.allocated_deallocateFunds_le _ _ _
    | _ =>
        left
        unfold PurseData.allocated
        rw [(serve_readOnly rfl).allocatedFunds]
  · rw [serve_of_not_serving hserving]
    exact .inl le_rfl

theorem Countable.serve (hcountable : purse.Countable) (answers : WalletAnswers)
    (request : PurseRequest) : (purse.serve answers request).2.Countable := by
  intro hchecks
  rw [overflowChecks_serve] at hchecks
  rcases allocated_serve answers purse request with hless | ⟨sats, hgrants, hmore⟩
  · exact hless.trans_lt (hcountable hchecks)
  · exact hmore.trans_lt (fits_of_grants hchecks hgrants)

/-- A balance that covers the reservations can be reckoned with. -/
theorem Countable.allocatable (hcountable : purse.Countable) {balance : WalletBalance}
    (hcovers : balance.confirmed + balance.trustedPending =
      purse.actor.data.allocated % 2 ^ 64) :
    ∃ allocatable, purse.actor.allocatable balance = some allocatable := by
  unfold PurseActor.allocatable PurseData.totalFundsAllocated
  rw [hcovers]
  cases hchecks : purse.actor.overflowChecks with
  | true =>
      have hfits := hcountable hchecks
      have htotal : u64 true purse.actor.data.allocated = some purse.actor.data.allocated :=
        if_pos hfits
      rw [Nat.mod_eq_of_lt hfits, htotal]
      exact ⟨_, if_pos le_rfl⟩
  | false =>
      have hmod : purse.actor.data.allocated % 2 ^ 64 < 2 ^ 64 := Nat.mod_lt _ (Nat.two_pow_pos 64)
      have htotal : ∃ total, u64 false purse.actor.data.allocated = some total := by
        unfold u64
        split <;> exact ⟨_, rfl⟩
      obtain ⟨total, htotal⟩ := htotal
      rw [htotal, u64, if_pos hmod]
      simp only [Option.bind_eq_bind, Option.bind_some, u64Sub]
      split <;> exact ⟨_, rfl⟩

/-- If the wallet reports a balance that can be reckoned with, and the chain its height, every
request is replied to. -/
theorem answered_of_reports (hserving : purse.status = .serving) {balance : WalletBalance}
    (hbalance : answers .getBalance = .ok balance) {allocatable height : ℕ}
    (hallocatable : purse.actor.allocatable balance = some allocatable)
    (hheight : answers .getHeight = .ok height) (request : PurseRequest) :
    ∃ reply, (purse.serve answers request).1 = some reply := by
  by_cases hunwraps : request.unwraps = false
  · exact answered_of_not_unwraps hunwraps hserving
  cases request with
  | getBalances =>
      obtain ⟨allocated, htotal⟩ := totalFundsAllocated_of_allocatable hallocatable
      rw [serve_getBalances hserving, hbalance, htotal]
      exact ⟨_, rfl⟩
  | allocateFunds sats =>
      rw [serve_allocateFunds hserving]
      split
      next hnone =>
        unfold grants at hnone
        simp [hbalance, hallocatable] at hnone
      next => exact ⟨_, rfl⟩
      next => exact ⟨_, rfl⟩
  | syncBlockchain =>
      rw [serve_of_serving hserving]
      simp only [PurseActor.handle, PurseActor.exec_syncBlockchain, hheight]
      cases answers .sync <;> exact ⟨_, rfl⟩
  | _ => exact absurd rfl hunwraps

end Purse

end FatCrabTrading
