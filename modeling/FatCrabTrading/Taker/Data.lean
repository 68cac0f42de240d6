import FatCrabTrading.Calls
import FatCrabTrading.Effect.Contract

/-! # Stored data of takers

A taker's store is one record, written to its file as a whole. The listener of the
outer actor is kept a second time in the inner one, where trade responses look.
-/

namespace FatCrabTrading

open Effect

variable [Bitcoin]

/-- `FatCrabTakerBuyDataStore`. -/
structure FatCrabTakerBuyData where
  orderEnvelope : FatCrabOrderEnvelope
  state : FatCrabTakerState
  btcRxAddr : String
  peerBtcTxid : Option Txid
  tradeRspEnvelope : Option FatCrabTradeRspEnvelope
  peerEnvelope : Option FatCrabPeerEnvelope

/-- `FatCrabTakerBuyData::new`. -/
def FatCrabTakerBuyData.new (orderEnvelope : FatCrabOrderEnvelope) (btcRxAddr : Address) :
    FatCrabTakerBuyData where
  orderEnvelope := orderEnvelope
  state := .new
  btcRxAddr := Bitcoin.addressToString btcRxAddr
  peerBtcTxid := none
  tradeRspEnvelope := none
  peerEnvelope := none

/-- `FatCrabTakerSellDataStore`. -/
structure FatCrabTakerSellData where
  orderEnvelope : FatCrabOrderEnvelope
  state : FatCrabTakerState
  fatcrabRxAddr : String
  btcFundsId : Uuid
  peerBtcAddr : Option String
  peerEnvelope : Option FatCrabPeerEnvelope

/-- `FatCrabTakerSellData::new`. -/
def FatCrabTakerSellData.new (orderEnvelope : FatCrabOrderEnvelope) (fatcrabRxAddr : String)
    (btcFundsId : Uuid) (peerBtcAddr : Option String) : FatCrabTakerSellData where
  orderEnvelope := orderEnvelope
  state := .new
  fatcrabRxAddr := fatcrabRxAddr
  btcFundsId := btcFundsId
  peerBtcAddr := peerBtcAddr
  peerEnvelope := none

structure FatCrabTakerBuyActor where
  tradeUuid : Uuid
  data : FatCrabTakerBuyData
  network : Network
  notifTx : Option NotifTx

structure FatCrabTakerSellActor where
  tradeUuid : Uuid
  data : FatCrabTakerSellData
  network : Network
  notifTx : Option NotifTx

inductive FatCrabTakerInnerActor where
  | buy (actor : FatCrabTakerBuyActor)
  | sell (actor : FatCrabTakerSellActor)

structure FatCrabTakerActor where
  inner : FatCrabTakerInnerActor
  tradeUuid : Uuid
  notifTx : Option NotifTx

namespace FatCrabTakerBuyActor

/-- `FatCrabTakerBuyActor::new`. -/
def new {σ : Type} (orderEnvelope : FatCrabOrderEnvelope) (network : Network) :
    Handler σ FatCrabTakerBuyActor := do
  let btcRxAddr ← PurseAccess.getRxAddress
  let btcRxAddr ← Program.unwrapOk btcRxAddr
  return ⟨orderEnvelope.order.tradeUuid, .new orderEnvelope btcRxAddr, network, none⟩

/-- `FatCrabTakerBuyActor::restore`, from the store read back. -/
def restore (data : FatCrabTakerBuyData) (network : Network) : FatCrabTakerBuyActor :=
  ⟨data.orderEnvelope.order.tradeUuid, data, network, none⟩

@[simp] def setState (state : FatCrabTakerState) : Handler FatCrabTakerBuyActor Unit :=
  Program.update fun self => { self with data.state := state }

@[simp] def setPeerBtcTxid (txid : Txid) : Handler FatCrabTakerBuyActor Unit :=
  Program.update fun self => { self with data.peerBtcTxid := some txid }

@[simp] def setTradeRspEnvelope (envelope : FatCrabTradeRspEnvelope) :
    Handler FatCrabTakerBuyActor Unit :=
  Program.update fun self => { self with data.tradeRspEnvelope := some envelope }

@[simp] def setPeerEnvelope (envelope : FatCrabPeerEnvelope) :
    Handler FatCrabTakerBuyActor Unit :=
  Program.update fun self => { self with data.peerEnvelope := some envelope }

end FatCrabTakerBuyActor

namespace FatCrabTakerSellActor

/-- `FatCrabTakerSellActor::new`. -/
def new {σ : Type} (orderEnvelope : FatCrabOrderEnvelope) (fatcrabRxAddr : String)
    (network : Network) : Handler σ (Except FatCrabError FatCrabTakerSellActor) := do
  match ← PurseAccess.allocateFunds orderEnvelope.order.sats with
  | .ok btcFundsId =>
      return .ok ⟨orderEnvelope.order.tradeUuid,
        .new orderEnvelope fatcrabRxAddr btcFundsId none, network, none⟩
  | .error error => return .error error

/-- `FatCrabTakerSellActor::restore`, from the store read back. -/
def restore (data : FatCrabTakerSellData) (network : Network) : FatCrabTakerSellActor :=
  ⟨data.orderEnvelope.order.tradeUuid, data, network, none⟩

@[simp] def setState (state : FatCrabTakerState) : Handler FatCrabTakerSellActor Unit :=
  Program.update fun self => { self with data.state := state }

/-- The text is kept as it came. -/
@[simp] def setPeerBtcAddr (address : String) : Handler FatCrabTakerSellActor Unit :=
  Program.update fun self => { self with data.peerBtcAddr := some address }

@[simp] def setPeerEnvelope (envelope : FatCrabPeerEnvelope) :
    Handler FatCrabTakerSellActor Unit :=
  Program.update fun self => { self with data.peerEnvelope := some envelope }

end FatCrabTakerSellActor

namespace FatCrabTakerActor

/-- The state that the store of either role holds. -/
def state (self : FatCrabTakerActor) : FatCrabTakerState :=
  match self.inner with
  | .buy actor => actor.data.state
  | .sell actor => actor.data.state

def buy? (self : FatCrabTakerActor) : Option FatCrabTakerBuyActor :=
  match self.inner with
  | .buy actor => some actor
  | .sell _ => none

def sell? (self : FatCrabTakerActor) : Option FatCrabTakerSellActor :=
  match self.inner with
  | .buy _ => none
  | .sell actor => some actor

@[simp] theorem buy?_buy (actor : FatCrabTakerBuyActor) (uuid : Uuid)
    (notifTx : Option NotifTx) :
    buy? ⟨.buy actor, uuid, notifTx⟩ = some actor := rfl

@[simp] theorem sell?_sell (actor : FatCrabTakerSellActor) (uuid : Uuid)
    (notifTx : Option NotifTx) :
    sell? ⟨.sell actor, uuid, notifTx⟩ = some actor := rfl

@[simp] theorem state_buy (actor : FatCrabTakerBuyActor) (uuid : Uuid)
    (notifTx : Option NotifTx) :
    state ⟨.buy actor, uuid, notifTx⟩ = actor.data.state := rfl

@[simp] theorem state_sell (actor : FatCrabTakerSellActor) (uuid : Uuid)
    (notifTx : Option NotifTx) :
    state ⟨.sell actor, uuid, notifTx⟩ = actor.data.state := rfl

@[simp] def putBuy (actor : FatCrabTakerBuyActor) (self : FatCrabTakerActor) :
    FatCrabTakerActor :=
  { self with inner := .buy actor }

@[simp] def putSell (actor : FatCrabTakerSellActor) (self : FatCrabTakerActor) :
    FatCrabTakerActor :=
  { self with inner := .sell actor }

/-- `match self.inner`, with a handler of each role. -/
def withInner {α : Type} (buy : Handler FatCrabTakerBuyActor α)
    (sell : Handler FatCrabTakerSellActor α) : Handler FatCrabTakerActor α := do
  let self ← Program.read
  match self.inner with
  | .buy _ => Program.focus buy? putBuy buy
  | .sell _ => Program.focus sell? putSell sell

section WithInner

variable {α β ε Msg : Type} (buy : Handler FatCrabTakerBuyActor α)
  (sell : Handler FatCrabTakerSellActor α) (next : α → Handler FatCrabTakerActor β)
  (uuid : Uuid) (notifTx : Option NotifTx)
  (answer : Program.Environment FatCrabTakerActor tradeInterface ε) (environment : ε)
  {assume guarantee : Entry FatCrabTakerActor Msg tradeInterface →
    History FatCrabTakerActor Msg tradeInterface → Prop}
  {always : History FatCrabTakerActor Msg tradeInterface → FatCrabTakerActor → Prop}
  {post : History FatCrabTakerActor Msg tradeInterface → FatCrabTakerActor → α → Prop}
  {post' : History FatCrabTakerActor Msg tradeInterface → FatCrabTakerActor → β → Prop}
  (history : History FatCrabTakerActor Msg tradeInterface)

@[simp] theorem safe_withInner_buy (actor : FatCrabTakerBuyActor) :
    (withInner buy sell).Safe assume always post history ⟨.buy actor, uuid, notifTx⟩ ↔
      (Program.focus buy? putBuy buy).Safe assume always post history ⟨.buy actor, uuid, notifTx⟩ :=
  Iff.rfl

@[simp] theorem safe_withInner_sell (actor : FatCrabTakerSellActor) :
    (withInner buy sell).Safe assume always post history ⟨.sell actor, uuid, notifTx⟩ ↔
      (Program.focus sell? putSell sell).Safe assume always post history
        ⟨.sell actor, uuid, notifTx⟩ :=
  Iff.rfl

@[simp] theorem safe_withInner_bind_buy (actor : FatCrabTakerBuyActor) :
    (withInner buy sell >>= next).Safe assume always post' history ⟨.buy actor, uuid, notifTx⟩ ↔
      (Program.focus buy? putBuy buy >>= next).Safe assume always post' history
        ⟨.buy actor, uuid, notifTx⟩ :=
  Iff.rfl

@[simp] theorem safe_withInner_bind_sell (actor : FatCrabTakerSellActor) :
    (withInner buy sell >>= next).Safe assume always post' history ⟨.sell actor, uuid, notifTx⟩ ↔
      (Program.focus sell? putSell sell >>= next).Safe assume always post' history
        ⟨.sell actor, uuid, notifTx⟩ :=
  Iff.rfl

@[simp] theorem meets_withInner_buy (actor : FatCrabTakerBuyActor) :
    (withInner buy sell).Meets assume guarantee post history ⟨.buy actor, uuid, notifTx⟩ ↔
      (Program.focus buy? putBuy buy).Meets assume guarantee post history
        ⟨.buy actor, uuid, notifTx⟩ := Iff.rfl

@[simp] theorem meets_withInner_sell (actor : FatCrabTakerSellActor) :
    (withInner buy sell).Meets assume guarantee post history ⟨.sell actor, uuid, notifTx⟩ ↔
      (Program.focus sell? putSell sell).Meets assume guarantee post history
        ⟨.sell actor, uuid, notifTx⟩ := Iff.rfl

@[simp] theorem meets_withInner_bind_buy (actor : FatCrabTakerBuyActor) :
    (withInner buy sell >>= next).Meets assume guarantee post' history
        ⟨.buy actor, uuid, notifTx⟩ ↔
      (Program.focus buy? putBuy buy >>= next).Meets assume guarantee post' history
        ⟨.buy actor, uuid, notifTx⟩ := Iff.rfl

@[simp] theorem meets_withInner_bind_sell (actor : FatCrabTakerSellActor) :
    (withInner buy sell >>= next).Meets assume guarantee post' history
        ⟨.sell actor, uuid, notifTx⟩ ↔
      (Program.focus sell? putSell sell >>= next).Meets assume guarantee post' history
        ⟨.sell actor, uuid, notifTx⟩ := Iff.rfl

@[simp] theorem exec_withInner_buy (actor : FatCrabTakerBuyActor) :
    (withInner buy sell).exec answer ⟨.buy actor, uuid, notifTx⟩ environment =
      (Program.focus buy? putBuy buy).exec answer ⟨.buy actor, uuid, notifTx⟩ environment := rfl

@[simp] theorem exec_withInner_sell (actor : FatCrabTakerSellActor) :
    (withInner buy sell).exec answer ⟨.sell actor, uuid, notifTx⟩ environment =
      (Program.focus sell? putSell sell).exec answer ⟨.sell actor, uuid, notifTx⟩
        environment := rfl

@[simp] theorem exec_withInner_bind_buy (actor : FatCrabTakerBuyActor) :
    (withInner buy sell >>= next).exec answer ⟨.buy actor, uuid, notifTx⟩ environment =
      (Program.focus buy? putBuy buy >>= next).exec answer ⟨.buy actor, uuid, notifTx⟩
        environment := rfl

@[simp] theorem exec_withInner_bind_sell (actor : FatCrabTakerSellActor) :
    (withInner buy sell >>= next).exec answer ⟨.sell actor, uuid, notifTx⟩ environment =
      (Program.focus sell? putSell sell >>= next).exec answer ⟨.sell actor, uuid, notifTx⟩
        environment := rfl

/-- What either role keeps to, the actor keeps to. -/
theorem only_withInner_of_focus {writes : FatCrabTakerActor → FatCrabTakerActor → Prop}
    {calls : TradeCall → Prop} (hbuy : (Program.focus buy? putBuy buy).Only writes calls)
    (hsell : (Program.focus sell? putSell sell).Only writes calls) :
    (withInner buy sell).Only writes calls := by
  simp only [withInner, Program.read_eq, Program.get_bind, Program.pure_bind, Program.only_get]
  intro self
  cases self.inner with
  | buy actor => exact hbuy
  | sell actor => exact hsell

/-- The same from what the roles themselves keep to. -/
theorem only_withInner_of_roles {writes : FatCrabTakerActor → FatCrabTakerActor → Prop}
    {calls : TradeCall → Prop} {writesBuy : FatCrabTakerBuyActor → FatCrabTakerBuyActor → Prop}
    {writesSell : FatCrabTakerSellActor → FatCrabTakerSellActor → Prop}
    (hrefl : ∀ self, writes self self) (hbuy : buy.Only writesBuy calls)
    (hsell : sell.Only writesSell calls)
    (onBuy : ∀ before after uuid notifTx, writesBuy before after →
      writes ⟨.buy before, uuid, notifTx⟩ ⟨.buy after, uuid, notifTx⟩)
    (onSell : ∀ before after uuid notifTx, writesSell before after →
      writes ⟨.sell before, uuid, notifTx⟩ ⟨.sell after, uuid, notifTx⟩) :
    (withInner buy sell).Only writes calls := by
  refine only_withInner_of_focus _ _ (hbuy.focus hrefl ?_) (hsell.focus hrefl ?_)
  · rintro ⟨inner, uuid, notifTx⟩ part next hview hwrites
    cases inner with
    | buy actor =>
        cases hview
        exact onBuy part next uuid notifTx hwrites
    | sell actor => cases hview
  · rintro ⟨inner, uuid, notifTx⟩ part next hview hwrites
    cases inner with
    | buy actor => cases hview
    | sell actor =>
        cases hview
        exact onSell part next uuid notifTx hwrites

end WithInner

end FatCrabTakerActor

end FatCrabTrading
