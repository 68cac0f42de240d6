import FatCrabTrading.Purse.Purse

/-! # The purse as its clients see it

One request is served as a whole. The record beside the actor keeps what its own
table forgets: which ids were granted, paid and freed. No handler reads it.
-/

namespace FatCrabTrading

open Effect

variable [Bitcoin]

/-- The answers of the wallet, the chain and `Uuid::new_v4` while one request is served. -/
abbrev WalletAnswers := (c : PurseCall) → c.Reply

/-- The transaction that a call put on the chain. -/
def PurseCall.accepted : (c : PurseCall) → c.Reply → Option Tx
  | .broadcast tx, .ok _ => some tx
  | _, _ => none

/-- Answer from a table, and collect what reaches the chain. -/
def walletEnvironment (answers : WalletAnswers) :
    Program.Environment PurseActor purseInterface (List Tx) :=
  fun _ sent c => (answers c, (c.accepted (answers c)).toList ++ sent)

/-- What the purse's task is doing. -/
inductive PurseStatus where
  | serving
  | ended
  | dead
  deriving DecidableEq

structure Purse where
  actor : PurseActor
  status : PurseStatus
  granted : List (Uuid × ℕ)
  broadcasts : List (Uuid × Tx)
  freed : List Uuid

namespace Purse

/-- The sats allocated under an id. -/
def lookup (purse : Purse) (fundsId : Uuid) : Option ℕ :=
  purse.actor.data.getAllocatedFunds fundsId

/-- The record of a request that was answered. -/
def record (purse : Purse) : (request : PurseRequest) → request.Reply → Purse
  | .allocateFunds sats, .ok fundsId => { purse with granted := (fundsId, sats) :: purse.granted }
  | .freeFunds fundsId, .ok _ => { purse with freed := fundsId :: purse.freed }
  | .shutdown, _ => { purse with status := .ended }
  | _, _ => purse

/-- The record of the transactions sent for a request. -/
def recordSent (purse : Purse) (sent : List Tx) : PurseRequest → Purse
  | .sendFunds fundsId _ =>
      { purse with broadcasts := sent.map (fundsId, ·) ++ purse.broadcasts }
  | _ => purse

/-- What a request that ended leaves behind. -/
def settle (purse : Purse) (request : PurseRequest)
    (result : Program.Result PurseActor (List Tx) request.Reply) :
    Option request.Reply × Purse :=
  let purse := { purse with actor := result.store }.recordSent result.environment request
  match result.outcome with
  | .done reply => (some reply, purse.record request reply)
  | .panicked => (none, { purse with status := .dead })

/-- Serve a request; there is no answer if the task is gone or goes. -/
def serve (answers : WalletAnswers) (request : PurseRequest) (purse : Purse) :
    Option request.Reply × Purse :=
  if purse.status = .serving then
    purse.settle request
      ((PurseActor.handle request).exec (walletEnvironment answers) purse.actor [])
  else
    (none, purse)

/-- The data is the data that the handler left. -/
theorem settle_actor (purse : Purse) (request : PurseRequest)
    (result : Program.Result PurseActor (List Tx) request.Reply) :
    (purse.settle request result).2.actor = result.store := by
  obtain ⟨outcome, store, sent⟩ := result
  cases outcome with
  | panicked => cases request <;> rfl
  | done reply =>
      cases request with
      | allocateFunds sats => cases reply <;> rfl
      | freeFunds fundsId => cases reply <;> rfl
      | _ => rfl

end Purse

/-- The fee rate that a payment gets on a network. -/
def WalletAnswers.feeRate (answers : WalletAnswers) (network : Network) :
    Except BdkError (Option ℚ) :=
  if network ≠ .regtest then (answers (.estimateFee 5)).map some else .ok none

/-- What the wallet and the chain make of a payment: the transaction broadcast, or the
first error. -/
def WalletAnswers.pay (answers : WalletAnswers) (network : Network)
    (recipients : List (Script × ℕ)) : Except BdkError Tx :=
  match answers.feeRate network with
  | .error error => .error error
  | .ok rate =>
      match answers (.finish recipients rate) with
      | .error error => .error error
      | .ok (txid, fee) =>
          match answers (.sign ⟨txid, recipients, fee⟩),
            answers (.broadcast ⟨txid, recipients, fee⟩) with
          | .error error, _ => .error error
          | .ok _, .error error => .error error
          | .ok _, .ok _ => .ok ⟨txid, recipients, fee⟩

theorem WalletAnswers.pay_recipients {answers : WalletAnswers} {network : Network}
    {recipients : List (Script × ℕ)} {tx : Tx}
    (hpay : answers.pay network recipients = .ok tx) : tx.recipients = recipients := by
  unfold WalletAnswers.pay at hpay
  split at hpay
  next => cases hpay
  next rate hrate =>
    split at hpay
    next => cases hpay
    next txid fee hbuilt =>
      split at hpay
      next => cases hpay
      next => cases hpay
      next =>
        cases hpay
        rfl

namespace PurseActor

section Exec

open Program

variable (answers : WalletAnswers) (self : PurseActor) (sent : List Tx)

@[simp] theorem walletEnvironment_reply (c : PurseCall) :
    (walletEnvironment answers self sent c).1 = answers c := rfl

@[simp] theorem walletEnvironment_sent (c : PurseCall) :
    (walletEnvironment answers self sent c).2 = (c.accepted (answers c)).toList ++ sent := rfl

@[simp] theorem accepted_of_ne {c : PurseCall} (hne : ∀ tx : Tx, c ≠ .broadcast tx)
    (reply : c.Reply) :
    c.accepted reply = none := by
  unfold PurseCall.accepted
  split
  next tx _ => exact absurd rfl (hne tx)
  next => rfl

@[simp] theorem accepted_broadcast_ok (tx : Tx) (done : Unit) :
    (PurseCall.broadcast tx).accepted (.ok done) = some tx := rfl

@[simp] theorem accepted_broadcast_error (tx : Tx) (error : BdkError) :
    (PurseCall.broadcast tx).accepted (.error error) = none := rfl

theorem exec_feeRate_bind {α : Type} (next : Except BdkError (Option ℚ) → PurseHandler α) :
    (feeRate >>= next).exec (walletEnvironment answers) self sent =
      (next (answers.feeRate self.data.network)).exec (walletEnvironment answers) self sent := by
  unfold feeRate WalletAnswers.feeRate
  by_cases hnetwork : self.data.network = .regtest
  · simp [hnetwork]
  · cases hrate : answers (.estimateFee 5) with
    | error error => simp [hnetwork, hrate, Except.map]
    | ok rate => simp [hnetwork, hrate, Except.map]

theorem exec_sendFunds (fundsId : Uuid) (address : Address) :
    (sendFunds fundsId address).exec (walletEnvironment answers) self [] =
      match self.data.getAllocatedFunds fundsId with
      | none => ⟨.done (.error (fundsNotFound fundsId)), self, []⟩
      | some sats =>
          match answers.pay self.data.network [(Bitcoin.scriptPubkey address, sats)] with
          | .error error => ⟨.done (.error (.bdk error)), self, []⟩
          | .ok tx => ⟨.done (.ok tx.txid),
              { self with data := self.data.deallocateFunds fundsId (some self.data.height) },
              [tx]⟩ := by
  unfold sendFunds
  cases hfunds : self.data.getAllocatedFunds fundsId with
  | none => simp [hfunds]
  | some sats =>
      simp only [read_eq, get_bind, pure_bind, exec_get, hfunds, exec_feeRate_bind,
        WalletAnswers.pay]
      cases hrate : answers.feeRate self.data.network with
      | error error => rfl
      | ok rate =>
          cases hbuilt : answers (.finish [(Bitcoin.scriptPubkey address, sats)] rate) with
          | error error => simp [hbuilt]
          | ok built =>
              obtain ⟨txid, fee⟩ := built
              cases hsigned : answers
                (.sign ⟨txid, [(Bitcoin.scriptPubkey address, sats)], fee⟩) with
              | error error => simp [hbuilt, hsigned]
              | ok =>
                  cases hsent : answers
                      (.broadcast ⟨txid, [(Bitcoin.scriptPubkey address, sats)], fee⟩) with
                  | error error => simp [hbuilt, hsigned, hsent]
                  | ok => simp [hbuilt, hsigned, hsent, hfunds]

theorem exec_allocateFunds (sats : ℕ) :
    (allocateFunds sats).exec (walletEnvironment answers) self [] =
      match answers .getBalance with
      | .error _ => ⟨.panicked, self, []⟩
      | .ok balance =>
          match self.allocatable balance with
          | none => ⟨.panicked, self, []⟩
          | some allocatable =>
              if allocatable < sats then
                ⟨.done (.error (.simple "Insufficient Funds")), self, []⟩
              else
                ⟨.done (.ok (answers .newV4)), { self with
                  data := self.data.allocateFunds (answers .newV4) sats (some self.data.height) },
                  []⟩ := by
  unfold allocateFunds allocatableBalance
  cases hbalance : answers .getBalance with
  | error error => simp [hbalance]
  | ok balance =>
      cases hallocatable : self.allocatable balance with
      | none => simp [hbalance, hallocatable]
      | some allocatable =>
          by_cases hless : allocatable < sats
          · simp [hbalance, hallocatable, hless]
          · simp [hbalance, hallocatable, hless]

theorem exec_freeFunds (fundsId : Uuid) :
    (freeFunds fundsId).exec (walletEnvironment answers) self [] =
      ⟨.done (if (self.data.getAllocatedFunds fundsId).isSome then .ok ()
        else .error (fundsNotFound fundsId)),
        { self with data := self.data.deallocateFunds fundsId (some self.data.height) }, []⟩ := by
  unfold freeFunds
  by_cases hfound : (self.data.getAllocatedFunds fundsId).isSome
  · simp [hfound]
  · simp [hfound]

theorem exec_syncBlockchain :
    (syncBlockchain).exec (walletEnvironment answers) self [] =
      match answers .sync, answers .getHeight with
      | .error error, _ => ⟨.done (.error (.bdk error)), self, []⟩
      | .ok _, .error _ => ⟨.panicked, self, []⟩
      | .ok _, .ok height => ⟨.done (.ok ()), { self with data := self.data.setHeight height },
          []⟩ := by
  unfold syncBlockchain
  cases hsync : answers .sync with
  | error error => simp [hsync]
  | ok =>
      cases hheight : answers .getHeight with
      | error error => simp [hsync, hheight]
      | ok height => simp [hsync, hheight]

end Exec

end PurseActor

namespace Purse

/-- An answer of `Uuid::new_v4` that was never given before. -/
def Fresh (purse : Purse) (answers : WalletAnswers) : Prop :=
  ∀ sats, (answers .newV4, sats) ∉ purse.granted

/-- A request that draws an id draws a new one. -/
def DrawsFresh (purse : Purse) (answers : WalletAnswers) (request : PurseRequest) : Prop :=
  ∀ sats, request = .allocateFunds sats → purse.Fresh answers

end Purse

end FatCrabTrading
