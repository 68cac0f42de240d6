import FatCrabTrading.Maker.Maker
import FatCrabTrading.Purse.Purse
import FatCrabTrading.Taker.Taker

/-! # A small world to run in

An instance of the `bitcoin` crate that knows two regtest addresses, one mainnet
address and two transaction ids, and a wallet that never fails while its balance
lasts. Concrete runs are played on them.
-/

namespace FatCrabTrading

inductive SampleAddress where
  | alice
  | bob
  | mainnet
  deriving DecidableEq

namespace SampleAddress

def text : SampleAddress → String
  | .alice => "bcrt1q2nfxmhd4n3c8834pj72xagvyr9gl57n5r94fsl"
  | .bob => "bcrt1qs758ursh4q9z627kt3pp5yysm78ddny6txaqgw"
  | .mainnet => "bc1qar0srrr7xfkvy5l643lydnw9re59gtzzwf5mdq"

def network : SampleAddress → Network
  | .alice => .regtest
  | .bob => .regtest
  | .mainnet => .bitcoin

def fromStr (s : String) : Option SampleAddress :=
  if s = alice.text then some .alice
  else if s = bob.text then some .bob
  else if s = mainnet.text then some .mainnet
  else none

theorem fromStr_text (address : SampleAddress) : fromStr address.text = some address := by
  cases address <;> simp [fromStr, text]

end SampleAddress

inductive SampleTxid where
  | first
  | second
  deriving DecidableEq

namespace SampleTxid

def text : SampleTxid → String
  | .first => "4a5e1e4baab89f3a32518a88c31bc87f618f76673e2cc77ab2127b7afdeda33b"
  | .second => "0e3e2357e806b6cdb1f70b54c3a3a17b6714ee1f0e68bebb44a74b1efd512098"

def fromStr (s : String) : Option SampleTxid :=
  if s = first.text then some .first
  else if s = second.text then some .second
  else none

theorem fromStr_text (txid : SampleTxid) : fromStr txid.text = some txid := by
  cases txid <;> simp [fromStr, text]

end SampleTxid

namespace Sample

/-- The script of an address is known by the address. -/
scoped instance bitcoin : Bitcoin where
  Address := SampleAddress
  Txid := SampleTxid
  Script := SampleAddress
  addressFromStr := SampleAddress.fromStr
  addressToString := SampleAddress.text
  isValidForNetwork address network := decide (address.network = network)
  networkError address network :=
    let text := address.text
    let found := address.network.display
    let required := network.display
    s!"address {text} belongs to network {found} which is different from required {required}"
  scriptPubkey := id
  txidFromStr := SampleTxid.fromStr
  txidToString := SampleTxid.text

scoped instance : DecidableEq Address := inferInstanceAs (DecidableEq SampleAddress)

scoped instance : DecidableEq Txid := inferInstanceAs (DecidableEq SampleTxid)

theorem roundTrip : Bitcoin.RoundTrip :=
  ⟨SampleAddress.fromStr_text, SampleTxid.fromStr_text⟩

/-- A wallet on a node that answers; `fundsId` is the next uuid, `fee` the fee of a
payment. -/
def steadyWallet (balance : WalletBalance) (fundsId : Uuid) (fee : ℕ) : (c : PurseCall) → c.Reply
  | .fromEntropy => .ok ⟨"abandon ability able"⟩
  | .getBalance => .ok balance
  | .getAddress => .ok SampleAddress.alice
  | .estimateFee _ => .ok 1
  | .finish recipients _ =>
      if (recipients.map Prod.snd).sum + fee ≤ balance.confirmed + balance.trustedPending then
        .ok (SampleTxid.first, fee)
      else
        .error ⟨"InsufficientFunds"⟩
  | .sign _ => .ok ()
  | .broadcast _ => .ok ()
  | .getHeight => .ok 100
  | .getTx _ => .ok none
  | .sync => .ok ()
  | .newV4 => fundsId
  | .terminate => ()

/-- A purse that does what it is asked. -/
def purseReply : (request : PurseRequest) → request.Reply
  | .getMnemonic => .ok ⟨"abandon ability able"⟩
  | .getRxAddress => .ok SampleAddress.alice
  | .getBalances => .ok ⟨0, 0, 0, 100, 50⟩
  | .allocateFunds _ => .ok ⟨1⟩
  | .freeFunds _ => .ok ()
  | .sendFunds _ _ => .ok SampleTxid.first
  | .getHeight => .ok 100
  | .getTxConf _ => .ok 1
  | .syncBlockchain => .ok ()
  | .shutdown => .ok ()

/-- Surroundings in which nothing fails. -/
def obliging : (c : TradeCall) → c.Reply
  | .purse request => some (purseReply request)
  | .n3xb _ => .ok ()
  | .notify _ _ => true
  | .respond _ => true
  | .terminate => ()

/-- A hundred sats in the wallet, and `fundsId` as the next uuid. -/
def wallet (fundsId : Uuid) : (c : PurseCall) → c.Reply := steadyWallet ⟨0, 0, 0, 100⟩ fundsId 1

/-- Fifty fatcrabs at one sat each. -/
def order (orderType : FatCrabOrderType) : FatCrabOrder := ⟨orderType, ⟨7⟩, 50, 1, .regtest⟩

/-- Bob's offer to sell his fatcrabs. -/
def offer : FatCrabOfferEnvelope :=
  let bitcoin : Obligation := ⟨.bitcoin .regtest (some .onchain), 50, none⟩
  let fatcrab : Obligation := ⟨.custom fatcrabObligationCustomKindString, 50, none⟩
  ⟨"npub1taker", ⟨"npub1taker", "offer", ⟨bitcoin, fatcrab, .fatCrabTakeOrderSpecifics⟩⟩⟩

/-- Bob's message, with the address to be paid. -/
def peerEnvelope : PeerEnvelope :=
  ⟨"peer", .fatCrabPeerMessage ⟨SampleAddress.bob.text, "fatcrab txid"⟩⟩

def buyMaker : FatCrabMakerActor :=
  ⟨.buy ⟨⟨7⟩, .new (order .buy) "npub1maker" ⟨1⟩, .regtest⟩, ⟨7⟩, none⟩

def sellMaker : FatCrabMakerActor :=
  ⟨.sell ⟨⟨7⟩, .new (order .sell) SampleAddress.alice, .regtest⟩, ⟨7⟩, none⟩

/-- The maker's order, as a taker found it. -/
def orderEnvelope (orderType : FatCrabOrderType) : FatCrabOrderEnvelope :=
  ⟨order orderType, "npub1maker",
    ⟨"npub1maker", ⟨⟨7⟩, ⟨[], 50, none⟩, ⟨[], none⟩, .fatCrabMakeOrderSpecifics⟩⟩⟩

def buyTaker : FatCrabTakerActor :=
  ⟨.buy ⟨⟨7⟩, .new (orderEnvelope .buy) SampleAddress.bob, .regtest, none⟩, ⟨7⟩, none⟩

def sellTaker : FatCrabTakerActor :=
  ⟨.sell ⟨⟨7⟩, .new (orderEnvelope .sell) "npub1taker" ⟨2⟩ none, .regtest, none⟩, ⟨7⟩, none⟩

end Sample

end FatCrabTrading
