import FatCrabTrading.Purse.Ledger
import FatCrabTrading.Reserve
import FatCrabTrading.Sample

/-! # Solvency of the purse

The wallet reports a balance that changes only at a sync, which reveals broadcasts
of the purse and any inflow. The purse checks a reservation against this report, and
so does not see what it has paid since the last sync, nor any fee.
-/

namespace FatCrabTrading

open Effect

/-- `confirmed + trusted_pending`. -/
def WalletBalance.spendable (balance : WalletBalance) : ℕ :=
  balance.confirmed + balance.trustedPending

section Solvency

variable [Bitcoin]

/-- What a transaction takes from the wallet. -/
def Tx.outflow (tx : Tx) : ℕ := (tx.recipients.map Prod.snd).sum + tx.fee

/-- What is assumed of a wallet with a given balance: it reports it, as a `u64`, and it
builds a transaction only if the balance covers the amounts and the fee. -/
structure WalletAnswers.Reports (answers : WalletAnswers) (balance : WalletBalance) : Prop where
  reported : ∀ reported, answers .getBalance = .ok reported → reported = balance
  covered : ∀ recipients rate txid fee, answers (.finish recipients rate) = .ok (txid, fee) →
    (recipients.map Prod.snd).sum + fee ≤ balance.spendable
  fits : balance.spendable < 2 ^ 64

/-- A purse with the balance that its wallet reports and the broadcasts that this
balance does not show yet. -/
structure FundedPurse where
  purse : Purse
  balance : WalletBalance
  unseen : List Tx

namespace FundedPurse

/-- A purse that was just opened. -/
def new (overflowChecks : Bool) (network : Network) (height : ℕ) (balance : WalletBalance) :
    FundedPurse where
  purse := ⟨⟨overflowChecks, .new network height⟩, .serving, [], [], []⟩
  balance := balance
  unseen := []

/-- One request, served with some answers of the wallet and the chain. -/
inductive Step : FundedPurse → WalletAnswers → PurseRequest → FundedPurse → Prop where
  | serve {funded : FundedPurse} {answers : WalletAnswers} {request : PurseRequest}
      {reply : Option request.Reply} {purse : Purse} {sent : List Tx}
      (hreports : answers.Reports funded.balance)
      (hserve : funded.purse.serve answers request = (reply, purse))
      (hsync : request = .syncBlockchain → funded.purse.status = .serving →
        ∃ error, answers .sync = .error error)
      (hsent : purse.broadcasts.map Prod.snd = sent ++ funded.purse.broadcasts.map Prod.snd) :
      Step funded answers request ⟨purse, funded.balance, sent ++ funded.unseen⟩
  | sync {funded : FundedPurse} {answers : WalletAnswers} {reply : Option (Except _ _)}
      {purse : Purse} {revealed rest : List Tx} {balance : WalletBalance} {inflow : ℕ}
      (hserving : funded.purse.status = .serving) (hok : answers .sync = .ok ())
      (hserve : funded.purse.serve answers .syncBlockchain = (reply, purse))
      (hunseen : funded.unseen.Perm (revealed ++ rest))
      (hbalance : balance.spendable + (revealed.map Tx.outflow).sum =
        funded.balance.spendable + inflow) :
      Step funded answers .syncBlockchain ⟨purse, balance, rest⟩

/-- A request leaves room for what the report does not show. A reservation is granted
only if it also fits beside the unseen payments, and a payment only reaches the chain
if its fee does. -/
def LeavesRoom (funded : FundedPurse) (answers : WalletAnswers) : PurseRequest → Prop
  | .allocateFunds sats =>
      funded.balance.spendable < funded.purse.actor.data.allocated + sats ∨
        funded.purse.actor.data.allocated + (funded.unseen.map Tx.outflow).sum + sats ≤
          funded.balance.spendable
  | .sendFunds fundsId address => ∀ sats tx, funded.purse.lookup fundsId = some sats →
      answers.pay funded.purse.actor.data.network [(Bitcoin.scriptPubkey address, sats)] =
        .ok tx →
      funded.purse.actor.data.allocated + (funded.unseen.map Tx.outflow).sum + tx.fee ≤
        funded.balance.spendable
  | _ => True

/-- A step whose request leaves room. -/
def CarefulStep (funded next : FundedPurse) : Prop :=
  ∃ answers request, funded.LeavesRoom answers request ∧ Step funded answers request next

/-- The reservations, the unseen outflow and the reported balance. -/
def account (funded : FundedPurse) : Reserve.Account ℕ :=
  ⟨funded.purse.actor.data.allocated, (funded.unseen.map Tx.outflow).sum,
    funded.balance.spendable⟩

/-- The account in which a payment counts with some cost until it is seen. -/
def accountOf (cost : Tx → ℕ) (funded : FundedPurse) : Reserve.Account ℕ :=
  ⟨funded.purse.actor.data.allocated, (funded.unseen.map cost).sum, funded.balance.spendable⟩

/-- A request for which there is room beside the unseen payments, at their cost. -/
structure Affords (cost : Tx → ℕ) (funded : FundedPurse) (answers : WalletAnswers)
    (request : PurseRequest) : Prop where
  grant : ∀ sats, request = .allocateFunds sats →
    funded.balance.spendable < funded.purse.actor.data.allocated + sats ∨
      funded.purse.actor.data.allocated + (funded.unseen.map cost).sum + sats ≤
        funded.balance.spendable
  payment : ∀ fundsId address sats tx, request = .sendFunds fundsId address →
    funded.purse.lookup fundsId = some sats →
      answers.pay funded.purse.actor.data.network [(Bitcoin.scriptPubkey address, sats)] =
        .ok tx →
      ∃ fee, cost tx = sats + fee ∧
        funded.purse.actor.data.allocated + (funded.unseen.map cost).sum + fee ≤
          funded.balance.spendable

theorem outflow_of_pay {answers : WalletAnswers} {network : Network} {script : Script} {sats : ℕ}
    {tx : Tx} (hpay : answers.pay network [(script, sats)] = .ok tx) :
    tx.outflow = sats + tx.fee := by
  unfold Tx.outflow
  rw [WalletAnswers.pay_recipients hpay]
  rfl

theorem LeavesRoom.affords {funded : FundedPurse} {answers : WalletAnswers}
    {request : PurseRequest} (hroom : funded.LeavesRoom answers request) :
    funded.Affords Tx.outflow answers request := by
  constructor
  · intro sats hrequest
    subst hrequest
    exact hroom
  · intro fundsId address sats tx hrequest hlookup hpay
    subst hrequest
    exact ⟨tx.fee, outflow_of_pay hpay, hroom sats tx hlookup hpay⟩

theorem allocatable_eq {funded : FundedPurse} {cost : Tx → ℕ}
    (hsolvent : (funded.accountOf cost).Solvent) (hfits : funded.balance.spendable < 2 ^ 64) :
    funded.purse.actor.allocatable funded.balance =
      some (funded.balance.spendable - funded.purse.actor.data.allocated) := by
  have hle : funded.purse.actor.data.allocated ≤ funded.balance.spendable :=
    hsolvent.reserved_le
  have htotal : funded.purse.actor.data.allocated < 2 ^ 64 := hle.trans_lt hfits
  unfold WalletBalance.spendable at hfits hle
  unfold PurseActor.allocatable PurseData.totalFundsAllocated u64 u64Sub
  rw [if_pos htotal, if_pos hfits]
  simp only [Option.bind_eq_bind, Option.bind_some, if_pos hle, WalletBalance.spendable]

/-- A step that sent nothing leaves the broadcasts as they were. -/
theorem sent_eq_nil {before after : Purse} {sent : List Tx}
    (hsame : after.broadcasts = before.broadcasts)
    (hsent : after.broadcasts.map Prod.snd = sent ++ before.broadcasts.map Prod.snd) :
    sent = [] := by
  rw [hsame] at hsent
  exact List.self_eq_append_left.mp hsent

theorem allocated_of_sameFunds {before after : Purse} (h : before.SameFunds after) :
    after.actor.data.allocated = before.actor.data.allocated := by
  unfold PurseData.allocated
  rw [h.allocatedFunds]

variable {cost : Tx → ℕ} {funded next : FundedPurse} {answers : WalletAnswers}

/-- A change of the purse that only lowers the total and sends nothing. -/
theorem release_steps {after : Purse} {sent : List Tx}
    (hallocated : after.actor.data.allocated ≤ funded.purse.actor.data.allocated)
    (hbroadcasts : after.broadcasts = funded.purse.broadcasts)
    (hsent : after.broadcasts.map Prod.snd = sent ++ funded.purse.broadcasts.map Prod.snd) :
    Relation.ReflTransGen Reserve.Account.Step (funded.accountOf cost)
      (accountOf cost ⟨after, funded.balance, sent ++ funded.unseen⟩) := by
  cases sent_eq_nil hbroadcasts hsent
  have hstep : Reserve.Account.Step (funded.accountOf cost)
      { funded.accountOf cost with reserved := after.actor.data.allocated } :=
    .release _ hallocated
  exact .single hstep

/-- A granted reservation that leaves room; an id that is taken again frees its amount. -/
theorem allocate_steps {sats : ℕ} {sent : List Tx}
    (hroom : funded.purse.actor.data.allocated + (funded.unseen.map cost).sum + sats ≤
      funded.balance.spendable) {fundsId : Uuid}
    (hsent : (funded.purse.allocate fundsId sats).broadcasts.map Prod.snd =
      sent ++ funded.purse.broadcasts.map Prod.snd) :
    Relation.ReflTransGen Reserve.Account.Step (funded.accountOf cost)
      (accountOf cost ⟨funded.purse.allocate fundsId sats, funded.balance,
        sent ++ funded.unseen⟩) := by
  cases sent_eq_nil rfl hsent
  have hreserve : Reserve.Account.Step (funded.accountOf cost) { funded.accountOf cost with
      reserved := funded.purse.actor.data.allocated + sats } := .reserve sats hroom
  refine .tail (.single hreserve) (.release _ ?_)
  exact PurseData.allocated_allocateFunds_le _ _ _ _

/-- A payment whose cost leaves room. -/
theorem pay_steps {fundsId : Uuid} {sats fee : ℕ} {tx : Tx} {sent : List Tx}
    (hlookup : funded.purse.lookup fundsId = some sats) (hcost : cost tx = sats + fee)
    (hroom : funded.purse.actor.data.allocated + (funded.unseen.map cost).sum + fee ≤
      funded.balance.spendable)
    (hsent : tx :: funded.purse.broadcasts.map Prod.snd =
      sent ++ funded.purse.broadcasts.map Prod.snd) :
    Relation.ReflTransGen Reserve.Account.Step (funded.accountOf cost)
      (accountOf cost ⟨{ funded.purse.deallocate fundsId with
        broadcasts := (fundsId, tx) :: funded.purse.broadcasts }, funded.balance,
          sent ++ funded.unseen⟩) := by
  have hcons : [tx] ++ funded.purse.broadcasts.map Prod.snd =
      sent ++ funded.purse.broadcasts.map Prod.snd := hsent
  cases List.append_cancel_right hcons
  have hstep : Reserve.Account.Step (funded.accountOf cost) { funded.accountOf cost with
      reserved := (funded.purse.deallocate fundsId).actor.data.allocated
      outstanding := (funded.unseen.map cost).sum + (sats + fee) } :=
    .pay _ sats fee (PurseData.allocated_deallocateFunds _ hlookup) hroom
  have hnext : accountOf cost ⟨{ funded.purse.deallocate fundsId with
        broadcasts := (fundsId, tx) :: funded.purse.broadcasts }, funded.balance,
          [tx] ++ funded.unseen⟩ = { funded.accountOf cost with
      reserved := (funded.purse.deallocate fundsId).actor.data.allocated
      outstanding := (funded.unseen.map cost).sum + (sats + fee) } := by
    unfold accountOf
    simp [hcost, Nat.add_comm]
  rw [hnext]
  exact .single hstep

/-- While the purse is solvent, only a reservation that fits is granted. -/
theorem room_of_granted {sats : ℕ} (hsolvent : (funded.accountOf cost).Solvent)
    (hreports : answers.Reports funded.balance)
    (hgrants : funded.purse.grants answers sats = some true)
    (hroom : funded.Affords cost answers (.allocateFunds sats)) :
    funded.purse.actor.data.allocated + (funded.unseen.map cost).sum + sats ≤
      funded.balance.spendable := by
  have hle : funded.purse.actor.data.allocated ≤ funded.balance.spendable :=
    hsolvent.reserved_le
  unfold Purse.grants at hgrants
  split at hgrants
  next => cases hgrants
  next balance hbalance =>
    rw [hreports.reported balance hbalance, allocatable_eq hsolvent hreports.fits] at hgrants
    simp only [Option.map_some, Option.some.injEq, decide_eq_true_eq] at hgrants
    rcases hroom.grant sats rfl with hless | hroom
    · omega
    · exact hroom

/-- A request for which there is room moves the account by steps that leave room. -/
theorem serve_steps {request : PurseRequest} {reply : Option request.Reply} {purse : Purse}
    {sent : List Tx} (hsolvent : (funded.accountOf cost).Solvent)
    (hreports : answers.Reports funded.balance) (hroom : funded.Affords cost answers request)
    (hserve : funded.purse.serve answers request = (reply, purse))
    (hsent : purse.broadcasts.map Prod.snd = sent ++ funded.purse.broadcasts.map Prod.snd) :
    Relation.ReflTransGen Reserve.Account.Step (funded.accountOf cost)
      (accountOf cost ⟨purse, funded.balance, sent ++ funded.unseen⟩) := by
  by_cases hserving : funded.purse.status = .serving
  swap
  · rw [Purse.serve_of_not_serving hserving] at hserve
    cases hserve
    -- a purse that no longer serves, or only reads, moves nothing
    exact release_steps le_rfl rfl hsent
  by_cases hreadOnly : request.readOnly = true
  · have hsame : funded.purse.SameFunds purse := by
      have hsame := @Purse.serve_readOnly _ answers funded.purse _ hreadOnly
      rwa [hserve] at hsame
    exact release_steps (allocated_of_sameFunds hsame).le hsame.broadcasts hsent
  cases request with
  | allocateFunds sats =>
      rw [Purse.serve_allocateFunds hserving] at hserve
      split at hserve
      next =>
        cases hserve
        exact release_steps le_rfl rfl hsent
      next =>
        cases hserve
        exact release_steps le_rfl rfl hsent
      next hgrants =>
        cases hserve
        exact allocate_steps (room_of_granted hsolvent hreports hgrants hroom) hsent
  | freeFunds fundsId =>
      rw [Purse.serve_freeFunds hserving] at hserve
      split at hserve
      next =>
        cases hserve
        exact release_steps (PurseData.allocated_deallocateFunds_le _ _ _) rfl hsent
      next =>
        cases hserve
        exact release_steps (PurseData.allocated_deallocateFunds_le _ _ _) rfl hsent
  | sendFunds fundsId address =>
      rw [Purse.serve_sendFunds hserving] at hserve
      split at hserve
      next =>
        cases hserve
        exact release_steps le_rfl rfl hsent
      next sats hlookup =>
        split at hserve
        next =>
          cases hserve
          exact release_steps le_rfl rfl hsent
        next tx hpay =>
          cases hserve
          -- the one request that spends: the amount was reserved, the fee needs room
          obtain ⟨fee, hcost, hfee⟩ := hroom.payment fundsId address sats tx rfl hlookup hpay
          exact pay_steps hlookup hcost hfee hsent
  | _ => exact absurd rfl hreadOnly

/-- Serving such a request keeps a solvent purse solvent. -/
theorem solvent_of_serve {request : PurseRequest} {reply : Option request.Reply} {purse : Purse}
    {sent : List Tx} (hsolvent : (funded.accountOf cost).Solvent)
    (hreports : answers.Reports funded.balance) (hroom : funded.Affords cost answers request)
    (hserve : funded.purse.serve answers request = (reply, purse))
    (hsent : purse.broadcasts.map Prod.snd = sent ++ funded.purse.broadcasts.map Prod.snd) :
    (accountOf cost ⟨purse, funded.balance, sent ++ funded.unseen⟩).Solvent :=
  Reserve.Account.solvent_of_steps (serve_steps hsolvent hreports hroom hserve hsent) hsolvent

theorem CarefulStep.solvent (hstep : CarefulStep funded next)
    (hsolvent : funded.account.Solvent) : next.account.Solvent := by
  obtain ⟨answers, request, hroom, hstep⟩ := hstep
  cases hstep with
  | serve hreports hserve hsync hsent =>
      exact solvent_of_serve hsolvent hreports hroom.affords hserve hsent
  | @sync _ purse revealed rest balance inflow hserving hok hserve hunseen hbalance =>
      have hsame : funded.purse.SameFunds purse := by
        have hsame : funded.purse.SameFunds (funded.purse.serve answers .syncBlockchain).2 :=
          Purse.serve_readOnly rfl
        rwa [hserve] at hsame
      have hsplit : (funded.unseen.map Tx.outflow).sum =
          (rest.map Tx.outflow).sum + (revealed.map Tx.outflow).sum := by
        rw [(hunseen.map Tx.outflow).sum_eq, List.map_append, List.sum_append, Nat.add_comm]
      have hreveal : Reserve.Account.Step funded.account
          { funded.account with
            outstanding := (rest.map Tx.outflow).sum, balance := balance.spendable } :=
        .reveal _ _ inflow _ hsplit hbalance
      have hsolvent := hreveal.solvent hsolvent
      unfold Reserve.Account.Solvent account at hsolvent ⊢
      rw [allocated_of_sameFunds hsame]
      exact hsolvent

theorem solvent_new (overflowChecks : Bool) (network : Network) (height : ℕ)
    (balance : WalletBalance) : (new overflowChecks network height balance).account.Solvent :=
  Nat.zero_le _

/-- In every run whose requests leave room, the reservations never exceed the reported
balance, so the subtraction of `allocatable_balance` does not underflow. -/
theorem allocated_le_spendable {overflowChecks : Bool} {network : Network} {height : ℕ}
    {balance : WalletBalance}
    (hrun : Relation.ReflTransGen CarefulStep (new overflowChecks network height balance)
      funded) :
    funded.purse.actor.data.allocated ≤ funded.balance.spendable ∧
      u64Sub funded.purse.actor.overflowChecks funded.balance.spendable
          funded.purse.actor.data.allocated =
        some (funded.balance.spendable - funded.purse.actor.data.allocated) := by
  have hsolvent : funded.account.Solvent := by
    induction hrun with
    | refl => exact solvent_new overflowChecks network height balance
    | tail _ hstep ih => exact hstep.solvent ih
  have hle : funded.purse.actor.data.allocated ≤ funded.balance.spendable :=
    hsolvent.reserved_le
  exact ⟨hle, if_pos hle⟩

end FundedPurse

end Solvency

section Sample

open Sample

namespace FundedPurse

/-- A hundred confirmed sats. -/
def hundredSats : WalletBalance := ⟨0, 0, 0, 100⟩

theorem steadyWallet_reports {balance : WalletBalance} (hfits : balance.spendable < 2 ^ 64)
    (fundsId : Uuid) (fee : ℕ) :
    WalletAnswers.Reports (steadyWallet balance fundsId fee) balance := by
  refine ⟨?_, ?_, hfits⟩
  · intro reported heq
    cases heq
    rfl
  · intro recipients rate txid found hbuilt
    by_cases hcovered :
        (recipients.map Prod.snd).sum + fee ≤ balance.confirmed + balance.trustedPending
    · rw [steadyWallet, if_pos hcovered] at hbuilt
      cases hbuilt
      exact hcovered
    · rw [steadyWallet, if_neg hcovered] at hbuilt
      cases hbuilt

/-- A purse with a hundred confirmed sats and one reservation. -/
def withReservation (sats : ℕ) : FundedPurse :=
  ⟨(new true .regtest 100 hundredSats).purse.allocate ⟨1⟩ sats, hundredSats, []⟩

theorem withReservation_step {sats : ℕ} (hgrants : (new true .regtest 100 hundredSats).purse.grants
    (steadyWallet hundredSats ⟨1⟩ 1) sats = some true) :
    Step (new true .regtest 100 hundredSats) (steadyWallet hundredSats ⟨1⟩ 1)
      (.allocateFunds sats) (withReservation sats) := by
  have hfits : hundredSats.spendable < 2 ^ 64 := by decide
  refine @Step.serve _ _ _ (.allocateFunds sats) (some (.ok ⟨1⟩)) _ []
    (steadyWallet_reports hfits ⟨1⟩ 1) ?_ nofun rfl
  rw [Purse.serve_allocateFunds rfl, hgrants]
  rfl

theorem allocated_le_spendable_sixty :
    (withReservation 60).purse.actor.data.allocated ≤ (withReservation 60).balance.spendable ∧
      u64Sub true (withReservation 60).balance.spendable
          (withReservation 60).purse.actor.data.allocated =
        some ((withReservation 60).balance.spendable -
          (withReservation 60).purse.actor.data.allocated) :=
  allocated_le_spendable
    (.single ⟨_, .allocateFunds 60, .inr (by decide), withReservation_step (by decide +kernel)⟩)

/-- Two reservations of fifty sats each, a payment of the first with a fee of one, and
a sync that reveals it. -/
theorem overcommitted : ∃ funded : FundedPurse,
    Relation.ReflTransGen (fun before after => ∃ answers request,
      Step before answers request after) (new true .regtest 100 hundredSats) funded ∧
      funded.purse.status = .serving ∧
      ¬ funded.purse.actor.data.allocated ≤ funded.balance.spendable := by
  have hfits : hundredSats.spendable < 2 ^ 64 := by decide
  let tx : Tx := ⟨SampleTxid.first, [(SampleAddress.alice, 50)], 1⟩
  let both : Purse := (withReservation 50).purse.allocate ⟨2⟩ 50
  let paid : Purse := { both.deallocate ⟨1⟩ with broadcasts := [(⟨1⟩, tx)] }
  have hfirst := @withReservation_step 50 (by decide +kernel)
  have hboth : Step (withReservation 50) (steadyWallet hundredSats ⟨2⟩ 1)
      (.allocateFunds 50) ⟨both, hundredSats, []⟩ := by
    refine @Step.serve _ _ _ (.allocateFunds 50) (some (.ok ⟨2⟩)) _ []
      (steadyWallet_reports hfits ⟨2⟩ 1) ?_ nofun rfl
    have hgrants :
        (withReservation 50).purse.grants (steadyWallet hundredSats ⟨2⟩ 1) 50 = some true := by
      decide +kernel
    rw [Purse.serve_allocateFunds rfl, hgrants]
    rfl
  have hpaid : Step ⟨both, hundredSats, []⟩ (steadyWallet hundredSats ⟨3⟩ 1)
      (.sendFunds ⟨1⟩ SampleAddress.alice) ⟨paid, hundredSats, [tx]⟩ := by
    refine @Step.serve _ _ _ (.sendFunds ⟨1⟩ SampleAddress.alice) (some (.ok tx.txid)) _ [tx]
      (steadyWallet_reports hfits ⟨3⟩ 1) ?_ nofun rfl
    have hlookup : both.lookup ⟨1⟩ = some 50 := by decide +kernel
    rw [Purse.serve_sendFunds rfl, hlookup]
    rfl
  have hsynced : Step ⟨paid, hundredSats, [tx]⟩ (steadyWallet hundredSats ⟨3⟩ 1)
      .syncBlockchain ⟨paid, ⟨0, 0, 0, 49⟩, []⟩ :=
    @Step.sync _ _ _ (some (.ok ())) _ [tx] _ _ 0 rfl rfl rfl (.refl _) rfl
  refine ⟨_, .tail (.tail (.tail (.single ⟨_, _, hfirst⟩) ⟨_, _, hboth⟩) ⟨_, _, hpaid⟩)
    ⟨_, _, hsynced⟩, rfl, ?_⟩
  decide +kernel

end FundedPurse

end Sample

end FatCrabTrading
