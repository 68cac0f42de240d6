import FatCrabTrading.Purse.Data

/-! # The purse actor

The purse serves one request at a time. What it asks of the wallet and the chain
is a call, so one request is a program over these calls. A psbt is known by the
recipients it was built for; the wallet chooses only its id and its fee.
-/

namespace FatCrabTrading

open Effect

/-- `bdk::Balance`. -/
structure WalletBalance where
  immature : ℕ
  trustedPending : ℕ
  untrustedPending : ℕ
  confirmed : ℕ
  deriving DecidableEq

variable [Bitcoin]

/-- A transaction built by the wallet: what it pays to whom, and its fee. -/
structure Tx where
  txid : Txid
  recipients : List (Script × ℕ)
  fee : ℕ

/-- What the purse asks of its wallet, of the blockchain, of `Uuid::new_v4`, of its persister
and of `Mnemonic::from_entropy`, which it gives its secret key. -/
inductive PurseCall where
  | fromEntropy
  | getBalance
  | getAddress
  | estimateFee (blocks : ℕ)
  | finish (recipients : List (Script × ℕ)) (feeRate : Option ℚ)
  | sign (tx : Tx)
  | broadcast (tx : Tx)
  | getHeight
  | getTx (txid : Txid)
  | sync
  | newV4
  | terminate

@[reducible] def PurseCall.Reply : PurseCall → Type
  | .fromEntropy => Except Bip39Error Mnemonic
  | .getBalance => Except BdkError WalletBalance
  | .getAddress => Except BdkError Address
  | .estimateFee _ => Except BdkError ℚ
  | .finish _ _ => Except BdkError (Txid × ℕ)
  | .sign _ => Except BdkError Unit
  | .broadcast _ => Except BdkError Unit
  | .getHeight => Except BdkError ℕ
  | .getTx _ => Except BdkError (Option (Option ℕ))
  | .sync => Except BdkError Unit
  | .newV4 => Uuid
  | .terminate => Unit

@[reducible] def purseInterface : Interface := ⟨PurseCall, PurseCall.Reply⟩

/-- The purse's task, compiled with or without overflow checks. -/
structure PurseActor where
  overflowChecks : Bool
  data : PurseData

/-- A handler of the purse. It answers its request by returning the answer. -/
abbrev PurseHandler : Type → Type := Program PurseActor purseInterface

/-- A call to the wallet or the chain. -/
def wallet (c : PurseCall) : PurseHandler c.Reply := @Program.request PurseActor purseInterface c

@[simp] theorem wallet_eq (c : PurseCall) : wallet c = .call c Program.pure := rfl

/-- The error of a request for funds that are not allocated. -/
def fundsNotFound (fundsId : Uuid) : FatCrabError :=
  let id := fundsId.display
  .simple s!"Could not find allocated funds with ID {id}"

namespace PurseActor

@[simp] def updateData (f : PurseData → PurseData) : PurseHandler Unit :=
  Program.update fun self => { self with data := f self.data }

def getMnemonic : PurseHandler (Except FatCrabError Mnemonic) := do
  match ← wallet .fromEntropy with
  | .ok mnemonic => return .ok mnemonic
  | .error error => return .error (.bdkBip39 error)

def getRxAddress : PurseHandler (Except FatCrabError Address) := do
  match ← wallet .getAddress with
  | .ok address => return .ok address
  | .error error => return .error (.bdk error)

/-- `confirmed + trusted_pending - total_funds_allocated()`, in `u64`. -/
def allocatable (self : PurseActor) (balance : WalletBalance) : Option ℕ := do
  let total ← self.data.totalFundsAllocated self.overflowChecks
  let sum ← u64 self.overflowChecks (balance.confirmed + balance.trustedPending)
  u64Sub self.overflowChecks sum total

def allocatableBalance : PurseHandler ℕ := do
  let self ← Program.read
  let balance ← wallet .getBalance
  let balance ← Program.unwrapOk balance
  Program.unwrap (self.allocatable balance)

def getBalances : PurseHandler (Except FatCrabError Balances) := do
  let self ← Program.read
  match ← wallet .getBalance with
  | .ok balance =>
      let allocated ← Program.unwrap (self.data.totalFundsAllocated self.overflowChecks)
      return .ok ⟨balance.immature, balance.trustedPending, balance.untrustedPending,
        balance.confirmed, allocated⟩
  | .error error => return .error (.bdk error)

def allocateFunds (sats : ℕ) : PurseHandler (Except FatCrabError Uuid) := do
  let allocatable ← allocatableBalance
  if allocatable < sats then
    return .error (.simple "Insufficient Funds")
  else
    let fundsId ← wallet .newV4
    updateData fun data => data.allocateFunds fundsId sats (some data.height)
    return .ok fundsId

def freeFunds (fundsId : Uuid) : PurseHandler (Except FatCrabError Unit) := do
  let self ← Program.read
  updateData fun data => data.deallocateFunds fundsId (some data.height)
  if (self.data.getAllocatedFunds fundsId).isSome then
    return .ok ()
  else
    return .error (fundsNotFound fundsId)

/-- The fee rate of a payment; on regtest the builder's default is used. -/
def feeRate : PurseHandler (Except BdkError (Option ℚ)) := do
  let self ← Program.read
  if self.data.network ≠ .regtest then
    match ← wallet (.estimateFee 5) with
    | .ok rate => return .ok (some rate)
    | .error error => return .error error
  else
    return .ok none

def sendFunds (fundsId : Uuid) (address : Address) : PurseHandler (Except FatCrabError Txid) := do
  let self ← Program.read
  match self.data.getAllocatedFunds fundsId with
  | none => return .error (fundsNotFound fundsId)
  | some sats =>
      let recipients := [(Bitcoin.scriptPubkey address, sats)]
      match ← feeRate with
      | .error error => return .error (.bdk error)
      | .ok rate =>
          match ← wallet (.finish recipients rate) with
          | .error error => return .error (.bdk error)
          | .ok (txid, fee) =>
              let tx : Tx := ⟨txid, recipients, fee⟩
              match ← wallet (.sign tx) with
              | .error error => return .error (.bdk error)
              | .ok _ =>
                  match ← wallet (.broadcast tx) with
                  | .error error => return .error (.bdk error)
                  | .ok _ =>
                      let self ← Program.read
                      updateData fun data => data.deallocateFunds fundsId (some data.height)
                      if (self.data.getAllocatedFunds fundsId).isSome then
                        return .ok tx.txid
                      else
                        return .error (fundsNotFound fundsId)

def getHeight : PurseHandler (Except FatCrabError ℕ) := do
  match ← wallet .getHeight with
  | .ok height => return .ok height
  | .error error => return .error (.bdk error)

def getTxConf (txid : Txid) : PurseHandler (Except FatCrabError ℕ) := do
  let self ← Program.read
  match ← wallet (.getTx txid) with
  | .error error => return .error (.bdk error)
  | .ok none => return .error .txNotFound
  | .ok (some none) => return .error .txUnconfirmed
  | .ok (some (some confHeight)) =>
      if self.data.height < confHeight then
        return .error (.simple
          "Tx confirmation height greater than current blockchain height. Unexpected")
      else
        return .ok (self.data.height - confHeight + 1)

def syncBlockchain : PurseHandler (Except FatCrabError Unit) := do
  match ← wallet .sync with
  | .ok _ =>
      let height ← wallet .getHeight
      let height ← Program.unwrapOk height
      updateData fun data => data.setHeight height
      return .ok ()
  | .error error => return .error (.bdk error)

def shutdown : PurseHandler (Except FatCrabError Unit) := do
  wallet .terminate
  return .ok ()

/-- The arm of the task's loop that serves a request. -/
def handle : (request : PurseRequest) → PurseHandler request.Reply
  | .getMnemonic => getMnemonic
  | .getRxAddress => getRxAddress
  | .getBalances => getBalances
  | .allocateFunds sats => allocateFunds sats
  | .freeFunds fundsId => freeFunds fundsId
  | .sendFunds fundsId address => sendFunds fundsId address
  | .getHeight => getHeight
  | .getTxConf txid => getTxConf txid
  | .syncBlockchain => syncBlockchain
  | .shutdown => shutdown

end PurseActor

end FatCrabTrading
