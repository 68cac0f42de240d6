import FatCrabTrading.Calls
import FatCrabTrading.Effect.Contract

/-! # Stored data of makers

A maker's store is one record, written to its file as a whole. The network is the
purse's; the source keeps a copy of it beside each store.
-/

namespace FatCrabTrading

open Effect

variable [Bitcoin]

/-- `FatCrabMakerBuyDataStore`. -/
structure FatCrabMakerBuyData where
  order : FatCrabOrder
  state : FatCrabMakerState
  peerPubkey : Option String
  fatcrabRxAddr : String
  btcFundsId : Uuid
  peerBtcAddr : Option String
  offerEnvelopes : List FatCrabOfferEnvelope
  peerEnvelope : Option FatCrabPeerEnvelope

/-- `FatCrabMakerBuyData::new`. -/
def FatCrabMakerBuyData.new (order : FatCrabOrder) (fatcrabRxAddr : String)
    (btcFundsId : Uuid) : FatCrabMakerBuyData where
  order := order
  state := .new
  peerPubkey := none
  fatcrabRxAddr := fatcrabRxAddr
  btcFundsId := btcFundsId
  peerBtcAddr := none
  offerEnvelopes := []
  peerEnvelope := none

/-- `FatCrabMakerSellDataStore`. -/
structure FatCrabMakerSellData where
  order : FatCrabOrder
  state : FatCrabMakerState
  peerPubkey : Option String
  btcRxAddr : String
  peerBtcTxid : Option Txid
  offerEnvelopes : List FatCrabOfferEnvelope
  peerEnvelope : Option FatCrabPeerEnvelope

/-- `FatCrabMakerSellData::new`. -/
def FatCrabMakerSellData.new (order : FatCrabOrder) (btcRxAddr : Address) :
    FatCrabMakerSellData where
  order := order
  state := .new
  peerPubkey := none
  btcRxAddr := Bitcoin.addressToString btcRxAddr
  peerBtcTxid := none
  offerEnvelopes := []
  peerEnvelope := none

structure FatCrabMakerBuyActor where
  tradeUuid : Uuid
  data : FatCrabMakerBuyData
  network : Network

structure FatCrabMakerSellActor where
  tradeUuid : Uuid
  data : FatCrabMakerSellData
  network : Network

inductive FatCrabMakerInnerActor where
  | buy (actor : FatCrabMakerBuyActor)
  | sell (actor : FatCrabMakerSellActor)

structure FatCrabMakerActor where
  inner : FatCrabMakerInnerActor
  tradeUuid : Uuid
  notifTx : Option NotifTx

namespace FatCrabMakerBuyActor

/-- `FatCrabMakerBuyActor::new`. -/
def new {σ : Type} (order : FatCrabOrder) (fatcrabRxAddr : String) (network : Network) :
    Handler σ (Except FatCrabError FatCrabMakerBuyActor) := do
  match ← PurseAccess.allocateFunds order.sats with
  | .ok btcFundsId =>
      return .ok ⟨order.tradeUuid, .new order fatcrabRxAddr btcFundsId, network⟩
  | .error error => return .error error

/-- `FatCrabMakerBuyActor::restore`, from the store read back. -/
def restore (data : FatCrabMakerBuyData) (network : Network) : FatCrabMakerBuyActor :=
  ⟨data.order.tradeUuid, data, network⟩

@[simp] def setState (state : FatCrabMakerState) : Handler FatCrabMakerBuyActor Unit :=
  Program.update fun self => { self with data.state := state }

@[simp] def setPeerPubkey (pubkey : String) : Handler FatCrabMakerBuyActor Unit :=
  Program.update fun self => { self with data.peerPubkey := some pubkey }

@[simp] def setPeerBtcAddr (address : Address) : Handler FatCrabMakerBuyActor Unit :=
  Program.update fun self =>
    { self with data.peerBtcAddr := some (Bitcoin.addressToString address) }

@[simp] def insertOfferEnvelope (envelope : FatCrabOfferEnvelope) :
    Handler FatCrabMakerBuyActor Unit :=
  Program.update fun self =>
    { self with data.offerEnvelopes := self.data.offerEnvelopes ++ [envelope] }

@[simp] def setPeerEnvelope (envelope : FatCrabPeerEnvelope) : Handler FatCrabMakerBuyActor Unit :=
  Program.update fun self => { self with data.peerEnvelope := some envelope }

end FatCrabMakerBuyActor

namespace FatCrabMakerSellActor

/-- `FatCrabMakerSellActor::new`. -/
def new {σ : Type} (order : FatCrabOrder) (network : Network) :
    Handler σ FatCrabMakerSellActor := do
  let btcRxAddr ← PurseAccess.getRxAddress
  let btcRxAddr ← Program.unwrapOk btcRxAddr
  return ⟨order.tradeUuid, .new order btcRxAddr, network⟩

/-- `FatCrabMakerSellActor::restore`, from the store read back. -/
def restore (data : FatCrabMakerSellData) (network : Network) : FatCrabMakerSellActor :=
  ⟨data.order.tradeUuid, data, network⟩

@[simp] def setState (state : FatCrabMakerState) : Handler FatCrabMakerSellActor Unit :=
  Program.update fun self => { self with data.state := state }

@[simp] def setPeerPubkey (pubkey : String) : Handler FatCrabMakerSellActor Unit :=
  Program.update fun self => { self with data.peerPubkey := some pubkey }

@[simp] def setPeerBtcTxid (txid : Txid) : Handler FatCrabMakerSellActor Unit :=
  Program.update fun self => { self with data.peerBtcTxid := some txid }

@[simp] def insertOfferEnvelope (envelope : FatCrabOfferEnvelope) :
    Handler FatCrabMakerSellActor Unit :=
  Program.update fun self =>
    { self with data.offerEnvelopes := self.data.offerEnvelopes ++ [envelope] }

@[simp] def setPeerEnvelope (envelope : FatCrabPeerEnvelope) : Handler FatCrabMakerSellActor Unit :=
  Program.update fun self => { self with data.peerEnvelope := some envelope }

end FatCrabMakerSellActor

namespace FatCrabMakerActor

/-- The state that the store of either role holds. -/
def state (self : FatCrabMakerActor) : FatCrabMakerState :=
  match self.inner with
  | .buy actor => actor.data.state
  | .sell actor => actor.data.state

def buy? (self : FatCrabMakerActor) : Option FatCrabMakerBuyActor :=
  match self.inner with
  | .buy actor => some actor
  | .sell _ => none

def sell? (self : FatCrabMakerActor) : Option FatCrabMakerSellActor :=
  match self.inner with
  | .buy _ => none
  | .sell actor => some actor

@[simp] theorem buy?_buy (actor : FatCrabMakerBuyActor) (uuid : Uuid)
    (notifTx : Option NotifTx) :
    buy? ⟨.buy actor, uuid, notifTx⟩ = some actor := rfl

@[simp] theorem state_buy (actor : FatCrabMakerBuyActor) (uuid : Uuid)
    (notifTx : Option NotifTx) :
    state ⟨.buy actor, uuid, notifTx⟩ = actor.data.state := rfl

@[simp] theorem state_sell (actor : FatCrabMakerSellActor) (uuid : Uuid)
    (notifTx : Option NotifTx) :
    state ⟨.sell actor, uuid, notifTx⟩ = actor.data.state := rfl

@[simp] theorem sell?_sell (actor : FatCrabMakerSellActor) (uuid : Uuid)
    (notifTx : Option NotifTx) :
    sell? ⟨.sell actor, uuid, notifTx⟩ = some actor := rfl

@[simp] def putBuy (actor : FatCrabMakerBuyActor) (self : FatCrabMakerActor) : FatCrabMakerActor :=
  { self with inner := .buy actor }

@[simp] def putSell (actor : FatCrabMakerSellActor) (self : FatCrabMakerActor) :
    FatCrabMakerActor :=
  { self with inner := .sell actor }

/-- `match self.inner`, with a handler of each role. -/
def withInner {α : Type} (buy : Handler FatCrabMakerBuyActor α)
    (sell : Handler FatCrabMakerSellActor α) : Handler FatCrabMakerActor α := do
  let self ← Program.read
  match self.inner with
  | .buy _ => Program.focus buy? putBuy buy
  | .sell _ => Program.focus sell? putSell sell

section WithInner

variable {α β ε Msg : Type} (buy : Handler FatCrabMakerBuyActor α)
  (sell : Handler FatCrabMakerSellActor α) (next : α → Handler FatCrabMakerActor β)
  (uuid : Uuid) (notifTx : Option NotifTx)
  (answer : Program.Environment FatCrabMakerActor tradeInterface ε) (environment : ε)
  {assume guarantee : Entry FatCrabMakerActor Msg tradeInterface →
    History FatCrabMakerActor Msg tradeInterface → Prop}
  {always : History FatCrabMakerActor Msg tradeInterface → FatCrabMakerActor → Prop}
  {post : History FatCrabMakerActor Msg tradeInterface → FatCrabMakerActor → α → Prop}
  {post' : History FatCrabMakerActor Msg tradeInterface → FatCrabMakerActor → β → Prop}
  (history : History FatCrabMakerActor Msg tradeInterface)

@[simp] theorem safe_withInner_buy (actor : FatCrabMakerBuyActor) :
    (withInner buy sell).Safe assume always post history ⟨.buy actor, uuid, notifTx⟩ ↔
      (Program.focus buy? putBuy buy).Safe assume always post history ⟨.buy actor, uuid, notifTx⟩ :=
  Iff.rfl

@[simp] theorem safe_withInner_sell (actor : FatCrabMakerSellActor) :
    (withInner buy sell).Safe assume always post history ⟨.sell actor, uuid, notifTx⟩ ↔
      (Program.focus sell? putSell sell).Safe assume always post history
        ⟨.sell actor, uuid, notifTx⟩ :=
  Iff.rfl

@[simp] theorem safe_withInner_bind_buy (actor : FatCrabMakerBuyActor) :
    (withInner buy sell >>= next).Safe assume always post' history ⟨.buy actor, uuid, notifTx⟩ ↔
      (Program.focus buy? putBuy buy >>= next).Safe assume always post' history
        ⟨.buy actor, uuid, notifTx⟩ :=
  Iff.rfl

@[simp] theorem safe_withInner_bind_sell (actor : FatCrabMakerSellActor) :
    (withInner buy sell >>= next).Safe assume always post' history ⟨.sell actor, uuid, notifTx⟩ ↔
      (Program.focus sell? putSell sell >>= next).Safe assume always post' history
        ⟨.sell actor, uuid, notifTx⟩ :=
  Iff.rfl

@[simp] theorem meets_withInner_buy (actor : FatCrabMakerBuyActor) :
    (withInner buy sell).Meets assume guarantee post history ⟨.buy actor, uuid, notifTx⟩ ↔
      (Program.focus buy? putBuy buy).Meets assume guarantee post history
        ⟨.buy actor, uuid, notifTx⟩ := Iff.rfl

@[simp] theorem meets_withInner_sell (actor : FatCrabMakerSellActor) :
    (withInner buy sell).Meets assume guarantee post history ⟨.sell actor, uuid, notifTx⟩ ↔
      (Program.focus sell? putSell sell).Meets assume guarantee post history
        ⟨.sell actor, uuid, notifTx⟩ := Iff.rfl

@[simp] theorem meets_withInner_bind_buy (actor : FatCrabMakerBuyActor) :
    (withInner buy sell >>= next).Meets assume guarantee post' history
        ⟨.buy actor, uuid, notifTx⟩ ↔
      (Program.focus buy? putBuy buy >>= next).Meets assume guarantee post' history
        ⟨.buy actor, uuid, notifTx⟩ := Iff.rfl

@[simp] theorem meets_withInner_bind_sell (actor : FatCrabMakerSellActor) :
    (withInner buy sell >>= next).Meets assume guarantee post' history
        ⟨.sell actor, uuid, notifTx⟩ ↔
      (Program.focus sell? putSell sell >>= next).Meets assume guarantee post' history
        ⟨.sell actor, uuid, notifTx⟩ := Iff.rfl

@[simp] theorem exec_withInner_buy (actor : FatCrabMakerBuyActor) :
    (withInner buy sell).exec answer ⟨.buy actor, uuid, notifTx⟩ environment =
      (Program.focus buy? putBuy buy).exec answer ⟨.buy actor, uuid, notifTx⟩ environment := rfl

@[simp] theorem exec_withInner_sell (actor : FatCrabMakerSellActor) :
    (withInner buy sell).exec answer ⟨.sell actor, uuid, notifTx⟩ environment =
      (Program.focus sell? putSell sell).exec answer ⟨.sell actor, uuid, notifTx⟩
        environment := rfl

@[simp] theorem exec_withInner_bind_buy (actor : FatCrabMakerBuyActor) :
    (withInner buy sell >>= next).exec answer ⟨.buy actor, uuid, notifTx⟩ environment =
      (Program.focus buy? putBuy buy >>= next).exec answer ⟨.buy actor, uuid, notifTx⟩
        environment := rfl

@[simp] theorem exec_withInner_bind_sell (actor : FatCrabMakerSellActor) :
    (withInner buy sell >>= next).exec answer ⟨.sell actor, uuid, notifTx⟩ environment =
      (Program.focus sell? putSell sell >>= next).exec answer ⟨.sell actor, uuid, notifTx⟩
        environment := rfl

/-- What either role keeps to, the actor keeps to. -/
theorem only_withInner_of_focus {writes : FatCrabMakerActor → FatCrabMakerActor → Prop}
    {calls : TradeCall → Prop} (hbuy : (Program.focus buy? putBuy buy).Only writes calls)
    (hsell : (Program.focus sell? putSell sell).Only writes calls) :
    (withInner buy sell).Only writes calls := by
  simp only [withInner, Program.read_eq, Program.get_bind, Program.pure_bind, Program.only_get]
  intro self
  cases self.inner with
  | buy actor => exact hbuy
  | sell actor => exact hsell

/-- The same from what the roles themselves keep to. -/
theorem only_withInner_of_roles {writes : FatCrabMakerActor → FatCrabMakerActor → Prop}
    {calls : TradeCall → Prop} {writesBuy : FatCrabMakerBuyActor → FatCrabMakerBuyActor → Prop}
    {writesSell : FatCrabMakerSellActor → FatCrabMakerSellActor → Prop}
    (hrefl : ∀ self, writes self self) (hbuy : buy.Only writesBuy calls)
    (hsell : sell.Only writesSell calls)
    (onBuy : ∀ before after uuid notifTx, writesBuy before after →
      writes ⟨.buy before, uuid, notifTx⟩ ⟨.buy after, uuid, notifTx⟩)
    (onSell : ∀ before after uuid notifTx, writesSell before after →
      writes ⟨.sell before, uuid, notifTx⟩ ⟨.sell after, uuid, notifTx⟩) :
    (withInner buy sell).Only writes calls := by
  refine only_withInner_of_focus _ _ (hbuy.focus hrefl ?_) (hsell.focus hrefl ?_)
  · rintro ⟨inner, uuid, notifTx⟩ part next hview hwrites
    cases inner with
    | buy actor =>
        cases hview
        exact onBuy part next uuid notifTx hwrites
    | sell actor => cases hview
  · rintro ⟨inner, uuid, notifTx⟩ part next hview hwrites
    cases inner with
    | buy actor => cases hview
    | sell actor =>
        cases hview
        exact onSell part next uuid notifTx hwrites

end WithInner

end FatCrabMakerActor

end FatCrabTrading
