import FatCrabTrading.Calls

/-! # The application's own use of the purse

The `wallet_*` functions of a trader, and its `shutdown` of the purse, reach the purse
through the same channel as makers and takers. Each of them is a message to a client
without a store; several clients stand for calls that overlap.
-/

namespace FatCrabTrading

open Effect Program

variable [Bitcoin]

inductive WalletRequest where
  | bip39Mnemonic
  | balances
  | generateReceiveAddress
  | sendToAddress (address : Address) (sats : ℕ)
  | blockchainHeight
  | blockchainSync
  | shutdown

namespace WalletClient

def walletBip39Mnemonic : Handler Unit (Except FatCrabError Mnemonic) :=
  PurseAccess.ask .getMnemonic

def walletBalances : Handler Unit (Except FatCrabError Balances) := PurseAccess.ask .getBalances

def walletGenerateReceiveAddress : Handler Unit (Except FatCrabError Address) :=
  PurseAccess.getRxAddress

/-- Only confirmed amounts are sent. -/
def walletSendToAddress (address : Address) (sats : ℕ) :
    Handler Unit (Except FatCrabError Txid) := do
  match ← PurseAccess.ask .getBalances with
  | .error error => return .error error
  | .ok balance =>
      if balance.confirmed < sats then
        return .error (.simple "Insufficient Confirmed Balance")
      else
        match ← PurseAccess.allocateFunds sats with
        | .error error => return .error error
        | .ok fundsId => PurseAccess.sendFunds fundsId address

def walletBlockchainHeight : Handler Unit (Except FatCrabError ℕ) := PurseAccess.ask .getHeight

def walletBlockchainSync : Handler Unit (Except FatCrabError Unit) :=
  PurseAccess.ask .syncBlockchain

def shutdown : Handler Unit (Except FatCrabError Unit) := PurseAccess.ask .shutdown

/-- The answers go to the application, which the purse does not see. -/
def handle : WalletRequest → Handler Unit Flow
  | .bip39Mnemonic => do
      let _ ← walletBip39Mnemonic
      return .next
  | .balances => do
      let _ ← walletBalances
      return .next
  | .generateReceiveAddress => do
      let _ ← walletGenerateReceiveAddress
      return .next
  | .sendToAddress address sats => do
      let _ ← walletSendToAddress address sats
      return .next
  | .blockchainHeight => do
      let _ ← walletBlockchainHeight
      return .next
  | .blockchainSync => do
      let _ ← walletBlockchainSync
      return .next
  | .shutdown => do
      let _ ← shutdown
      return .next

def code : Behaviour Unit WalletRequest tradeInterface := ⟨return .next, handle, id⟩

/-- What a client may call: it pays from its own allocations, and frees nothing. -/
def Audited (entry : Entry Unit WalletRequest tradeInterface)
    (past : History Unit WalletRequest tradeInterface) : Prop :=
  match entry with
  | .called (.purse (.sendFunds fundsId _)) _ _ =>
      ∃ sats, Made (.purse (.allocateFunds sats)) (some (.ok fundsId)) past
  | .called (.purse (.freeFunds _)) _ _ => False
  | _ => True

/-- At every moment, the client is audited. -/
def Kept (history : History Unit WalletRequest tradeInterface) (_ : Unit) : Prop :=
  history.Always Audited

section Handlers

variable {history : History Unit WalletRequest tradeInterface} {client : Unit}

/-- A program of a client is audited throughout. -/
abbrev Keeps {α : Type} (program : Handler Unit α)
    (history : History Unit WalletRequest tradeInterface) (client : Unit) : Prop :=
  Kept history client → program.Safe (fun _ _ => True) Kept (fun history client _ =>
    Kept history client) history client

/-- One call that the audit lets pass. -/
theorem keeps_ask {request : PurseRequest}
    (haudited : ∀ reply, Audited (.called (.purse request) reply client) history) :
    Keeps (PurseAccess.ask request) history client := by
  intro hkept reply _
  refine ⟨⟨haudited reply, hkept⟩, ?_⟩
  cases reply with
  | none => trivial
  | some answer => exact ⟨haudited (some answer), hkept⟩

/-- The payment follows the allocation that it is made from. -/
theorem keeps_walletSendToAddress (address : Address) (sats : ℕ) :
    Keeps (walletSendToAddress address sats) history client := by
  intro hkept
  rw [walletSendToAddress, safe_bind]
  have hbalances : Keeps (PurseAccess.ask .getBalances) history client :=
    keeps_ask fun _ => trivial
  refine (hbalances hkept).mono fun history client balance hkept => ?_
  cases balance with
  | error error => exact hkept
  | ok balance =>
      simp only [pure_eq, safe_ite, safe_pure]
      refine ⟨fun _ => hkept, fun _ => ?_⟩
      intro reply _
      have hkept : Kept (.called (.purse (.allocateFunds sats)) reply client :: history) client :=
        ⟨trivial, hkept⟩
      refine ⟨hkept, ?_⟩
      rcases reply with _ | error | fundsId
      · trivial
      · exact hkept
      · exact keeps_ask (fun _ => ⟨sats, client, List.mem_cons_self⟩) hkept

theorem keeps_handle (request : WalletRequest) : Keeps (handle request) history client := by
  intro hkept
  cases request with
  | sendToAddress address sats =>
      rw [handle, safe_bind]
      exact keeps_walletSendToAddress address sats hkept
  | _ =>
      rw [handle, safe_bind]
      exact keeps_ask (fun _ => trivial) hkept

/-- A client stays audited, whatever it is asked and answered. -/
theorem invariant : ActorInvariant code (fun _ _ => True) Kept Kept where
  receive := by
    intro message history client hkept _
    have hkept : Kept (.received message client :: history) client := ⟨trivial, hkept⟩
    exact ⟨hkept, keeps_handle message hkept⟩
  restart := by
    intro history client hkept
    exact ⟨hkept, hkept⟩

end Handlers

end WalletClient

end FatCrabTrading
