import FatCrabTrading.Purse.Solvency

/-! # Coins promised twice

A payment takes its id out of the table, and the wallet's report shows it only after the
next sync. In between its coins count as free. The reservations and what was paid since
the sync stay within the report as long as no grant uses these coins.
-/

namespace FatCrabTrading

open Effect

section Promises

variable [Bitcoin]

/-- What a transaction pays, without its fee. -/
def Tx.sats (tx : Tx) : ℕ := (tx.recipients.map Prod.snd).sum

theorem Tx.sats_of_pay {answers : WalletAnswers} {network : Network} {script : Script} {sats : ℕ}
    {tx : Tx} (hpay : answers.pay network [(script, sats)] = .ok tx) : tx.sats = sats := by
  unfold Tx.sats
  rw [WalletAnswers.pay_recipients hpay]
  rfl

namespace FundedPurse

/-- One request, after which the wallet reports `report`. A sync that succeeds may report
anything; until then the report stays as it is and the payments add up. -/
inductive StaleStep : FundedPurse → WalletAnswers → PurseRequest → WalletBalance → FundedPurse →
    Prop where
  | serve {funded : FundedPurse} {answers : WalletAnswers} {request : PurseRequest}
      {reply : Option request.Reply} {purse : Purse} {sent : List Tx}
      (hreports : answers.Reports funded.balance)
      (hserve : funded.purse.serve answers request = (reply, purse))
      (hsync : request = .syncBlockchain → funded.purse.status = .serving →
        ∃ error, answers .sync = .error error)
      (hsent : purse.broadcasts.map Prod.snd = sent ++ funded.purse.broadcasts.map Prod.snd) :
      StaleStep funded answers request funded.balance
        ⟨purse, funded.balance, sent ++ funded.unseen⟩
  | sync {funded : FundedPurse} {answers : WalletAnswers} {reply : Option (Except _ _)}
      {purse : Purse} {report : WalletBalance} (hserving : funded.purse.status = .serving)
      (hok : answers .sync = .ok ())
      (hserve : funded.purse.serve answers .syncBlockchain = (reply, purse)) :
      StaleStep funded answers .syncBlockchain report ⟨purse, report, []⟩

/-- Live allocations and the sats paid since the last sync are within the report. -/
def PromisedOnce (funded : FundedPurse) : Prop :=
  funded.purse.actor.data.allocated + (funded.unseen.map Tx.sats).sum ≤ funded.balance.spendable

/-- A request that promises no coins twice. A grant fits beside what was paid since the
sync, and a sync reports no less than what is allocated. -/
def Keeps (funded : FundedPurse) (report : WalletBalance) : PurseRequest → Prop
  | .allocateFunds sats =>
      funded.balance.spendable < funded.purse.actor.data.allocated + sats ∨
        funded.purse.actor.data.allocated + (funded.unseen.map Tx.sats).sum + sats ≤
          funded.balance.spendable
  | .syncBlockchain => funded.purse.actor.data.allocated ≤ report.spendable
  | _ => True

/-- A step whose request keeps the promises. -/
def KeepingStep (funded next : FundedPurse) : Prop :=
  ∃ answers request report, funded.Keeps report request ∧
    StaleStep funded answers request report next

variable {funded next : FundedPurse} {answers : WalletAnswers}

/-- A payment is covered by its own reservation. -/
theorem Keeps.affords {request : PurseRequest} {report : WalletBalance}
    (hkeeps : funded.Keeps report request) (honce : funded.PromisedOnce) :
    funded.Affords Tx.sats answers request := by
  constructor
  · intro sats hrequest
    subst hrequest
    exact hkeeps
  · intro fundsId address sats tx hrequest hlookup hpay
    exact ⟨0, Tx.sats_of_pay hpay, honce⟩

theorem KeepingStep.promisedOnce (hstep : KeepingStep funded next)
    (honce : funded.PromisedOnce) : next.PromisedOnce := by
  obtain ⟨answers, request, report, hkeeps, hstep⟩ := hstep
  cases hstep with
  | serve hreports hserve hsync hsent =>
      have hsolvent : (funded.accountOf Tx.sats).Solvent := honce
      exact solvent_of_serve hsolvent hreports (hkeeps.affords honce) hserve hsent
  | sync hserving hok hserve =>
      have hsame : funded.purse.SameFunds (funded.purse.serve answers .syncBlockchain).2 :=
        Purse.serve_readOnly rfl
      rw [hserve] at hsame
      have hallocated := allocated_of_sameFunds hsame
      have hcovers : funded.purse.actor.data.allocated ≤ report.spendable := hkeeps
      dsimp only at hallocated
      unfold PromisedOnce
      rw [hallocated]
      exact hcovers

/-- In every run whose requests keep the promises, no coins are promised twice. -/
theorem promised_once {overflowChecks : Bool} {network : Network} {height : ℕ}
    {balance : WalletBalance}
    (hrun : Relation.ReflTransGen KeepingStep (new overflowChecks network height balance)
      funded) :
    funded.purse.actor.data.allocated + (funded.unseen.map Tx.sats).sum ≤
      funded.balance.spendable := by
  induction hrun with
  | refl => exact Nat.zero_le _
  | tail _ hstep ih => exact hstep.promisedOnce ih

end FundedPurse

end Promises

section Sample

open Sample

namespace FundedPurse

/-- Sixty sats are granted, by a wallet with a hundred. -/
theorem grantSixty_step : StaleStep (new true .regtest 100 hundredSats)
    (steadyWallet hundredSats ⟨1⟩ 1) (.allocateFunds 60) hundredSats (withReservation 60) := by
  refine @StaleStep.serve _ _ _ (.allocateFunds 60) (some (.ok ⟨1⟩)) _ []
    (steadyWallet_reports (by decide) ⟨1⟩ 1) ?_ nofun rfl
  have hgrants : (new true .regtest 100 hundredSats).purse.grants
      (steadyWallet hundredSats ⟨1⟩ 1) 60 = some true := by decide +kernel
  rw [Purse.serve_allocateFunds rfl, hgrants]
  rfl

theorem promised_once_sixty :
    (withReservation 60).purse.actor.data.allocated +
        ((withReservation 60).unseen.map Tx.sats).sum ≤
      (withReservation 60).balance.spendable :=
  promised_once (.single ⟨_, .allocateFunds 60, _, .inr (by decide), grantSixty_step⟩)

/-- Sixty sats are granted, paid, and granted again before the wallet has synced. -/
theorem promised_twice : ∃ funded : FundedPurse,
    Relation.ReflTransGen (fun before after => ∃ answers request report,
      StaleStep before answers request report after) (new true .regtest 100 hundredSats)
        funded ∧
      ¬ funded.purse.actor.data.allocated + (funded.unseen.map Tx.sats).sum ≤
        funded.balance.spendable := by
  have hfits : hundredSats.spendable < 2 ^ 64 := by decide
  let tx : Tx := ⟨SampleTxid.first, [(SampleAddress.alice, 60)], 1⟩
  let paid : Purse :=
    { (withReservation 60).purse.deallocate ⟨1⟩ with broadcasts := [(⟨1⟩, tx)] }
  have hpaid : StaleStep (withReservation 60) (steadyWallet hundredSats ⟨2⟩ 1)
      (.sendFunds ⟨1⟩ SampleAddress.alice) hundredSats ⟨paid, hundredSats, [tx]⟩ := by
    refine @StaleStep.serve _ _ _ (.sendFunds ⟨1⟩ SampleAddress.alice) (some (.ok tx.txid)) _
      [tx] (steadyWallet_reports hfits ⟨2⟩ 1) ?_ nofun rfl
    have hlookup : (withReservation 60).purse.lookup ⟨1⟩ = some 60 := by decide +kernel
    rw [Purse.serve_sendFunds rfl, hlookup]
    rfl
  have hagain : StaleStep ⟨paid, hundredSats, [tx]⟩ (steadyWallet hundredSats ⟨2⟩ 1)
      (.allocateFunds 60) hundredSats ⟨paid.allocate ⟨2⟩ 60, hundredSats, [tx]⟩ := by
    refine @StaleStep.serve _ _ _ (.allocateFunds 60) (some (.ok ⟨2⟩)) _ []
      (steadyWallet_reports hfits ⟨2⟩ 1) ?_ nofun rfl
    have hgrants : paid.grants (steadyWallet hundredSats ⟨2⟩ 1) 60 = some true := by
      decide +kernel
    rw [Purse.serve_allocateFunds rfl, hgrants]
    rfl
  refine ⟨_, .tail (.tail (.single ⟨_, _, _, grantSixty_step⟩) ⟨_, _, _, hpaid⟩)
    ⟨_, _, _, hagain⟩, ?_⟩
  decide +kernel

end FundedPurse

end Sample

end FatCrabTrading
