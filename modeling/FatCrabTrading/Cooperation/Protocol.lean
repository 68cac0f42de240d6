import FatCrabTrading.Effect.Contract
import FatCrabTrading.Maker.Maker
import FatCrabTrading.Taker.Taker

/-! # A cooperative trade

What the surroundings of a trade do when nothing fails, and what the two sides may expect
to find in each other's messages.
-/

namespace FatCrabTrading

open Effect

variable [Bitcoin]

/-- The purse does what it is asked. -/
def PurseRequest.Succeeds : (request : PurseRequest) → request.Reply → Prop
  | .getMnemonic, reply => ∃ mnemonic, reply = .ok mnemonic
  | .getRxAddress, reply => ∃ address, reply = .ok address
  | .getBalances, reply => ∃ balances, reply = .ok balances
  | .allocateFunds _, reply => ∃ fundsId, reply = .ok fundsId
  | .freeFunds _, reply => reply = .ok ()
  | .sendFunds _ _, reply => ∃ txid, reply = .ok txid
  | .getHeight, reply => ∃ height, reply = .ok height
  | .getTxConf _, reply => ∃ confirmations, reply = .ok confirmations
  | .syncBlockchain, reply => reply = .ok ()
  | .shutdown, reply => reply = .ok ()

/-- Neither the purse nor n3xB fails, and whoever waits for an answer or listens is there. -/
def TradeCall.Succeeds : (c : TradeCall) → c.Reply → Prop
  | .purse request, reply => ∃ answer, reply = some answer ∧ request.Succeeds answer
  | .n3xb _, reply => reply = .ok ()
  | .notify _ _, reply => reply = true
  | .respond _, reply => reply = true
  | .terminate, _ => True

/-- What is called succeeds. -/
def Succeeding {σ Msg : Type} : Entry σ Msg tradeInterface → History σ Msg tradeInterface → Prop
  | .called c reply _, _ => c.Succeeds reply
  | .received _ _, _ => True

/-- As long as what it calls succeeds, a handler comes back to wait for the next message, and
leaves such a store. -/
def Leads {σ Msg : Type} (program : Handler σ Flow) (history : History σ Msg tradeInterface)
    (self : σ) (leaves : σ → Prop) : Prop :=
  program.Meets Succeeding (fun _ _ => True) (fun _ after flow => flow = .next ∧ leaves after)
    history self

/-- The text of an address on the network. -/
def Printed (network : Network) (text : String) : Prop :=
  ∃ address, text = Bitcoin.addressToString address ∧
    Bitcoin.isValidForNetwork address network = true

/-- An acceptance that the taker can read. Only a Sell taker pays to its address. -/
def TradeResponse.Accepts (orderType : FatCrabOrderType) (network : Network)
    (response : TradeResponse) : Prop :=
  ∃ receiveAddress, FatCrabTradeRsp.fromN3xbTradeRsp response = some (.accept receiveAddress) ∧
    (orderType = .sell → Printed network receiveAddress)

def TradeResponse.Rejects (response : TradeResponse) : Prop :=
  FatCrabTradeRsp.fromN3xbTradeRsp response = some .reject

/-- A peer message that the maker can use: a Buy maker pays to its address, a Sell maker
waits for its transaction. -/
def SerdeGeneric.InformsMaker (orderType : FatCrabOrderType) (network : Network)
    (message : SerdeGeneric) : Prop :=
  ∃ content, message = .fatCrabPeerMessage content ∧ match orderType with
    | .buy => Printed network content.receiveAddress
    | .sell => ∃ txid, content.txid = Bitcoin.txidToString txid

/-- A peer message that the taker can use: a Buy taker waits for its transaction. -/
def SerdeGeneric.InformsTaker (orderType : FatCrabOrderType) (message : SerdeGeneric) : Prop :=
  ∃ content, message = .fatCrabPeerMessage content ∧ match orderType with
    | .buy => ∃ txid, content.txid = Bitcoin.txidToString txid
    | .sell => True

section Printed

variable {network : Network} {text : String}

theorem Printed.parse (hround : Bitcoin.RoundTrip) (hprinted : Printed network text) :
    ∃ address, parseAddress text network = some address ∧
      Bitcoin.addressToString address = text ∧
      Bitcoin.isValidForNetwork address network = true := by
  obtain ⟨address, rfl, hvalid⟩ := hprinted
  refine ⟨address, ?_, rfl, hvalid⟩
  rw [parseAddress_eq, addressOn_toString hround hvalid]

end Printed

end FatCrabTrading
