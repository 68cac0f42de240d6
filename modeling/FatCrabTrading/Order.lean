import FatCrabTrading.N3xb

/-! # Orders, offers, trade responses and peer messages -/

namespace FatCrabTrading

/-- `FATCRAB_OBLIGATION_CUSTOM_KIND_STRING`. -/
def fatcrabObligationCustomKindString : String := "FatCrab"

inductive FatCrabOrderType where
  | buy
  | sell
  deriving DecidableEq

structure FatCrabOrder where
  orderType : FatCrabOrderType
  tradeUuid : Uuid
  amount : ℚ
  price : ℚ
  network : Network
  deriving DecidableEq

/-- The sats a Buy maker or a Sell taker asks the purse to set aside. -/
def FatCrabOrder.sats (order : FatCrabOrder) : ℕ := asU64 (order.amount * order.price)

/-- `FatCrabOrder::n3xb_network`, the same mapping as the trader's. -/
def Network.n3xbNetwork : Network → BitcoinNetwork
  | .bitcoin => .mainnet
  | .testnet => .testnet
  | .regtest => .regtest
  | .signet => .signet

/-- `bitcoin_network_matches`. -/
def bitcoinNetworkMatches (n3xbNetwork : BitcoinNetwork) (bitcoinNetwork : Network) : Bool :=
  match n3xbNetwork with
  | .mainnet => bitcoinNetwork = .bitcoin
  | .testnet => bitcoinNetwork = .testnet
  | .regtest => bitcoinNetwork = .regtest
  | .signet => bitcoinNetwork = .signet

@[simp] theorem bitcoinNetworkMatches_n3xbNetwork (network : Network) :
    bitcoinNetworkMatches network.n3xbNetwork network = true := by
  cases network <;> rfl

/-- `impl Into<Order> for FatCrabOrder`. -/
def FatCrabOrder.into (self : FatCrabOrder) : Order :=
  let bitcoin : ObligationKind := .bitcoin self.network.n3xbNetwork (some .onchain)
  let fatcrab : ObligationKind := .custom "FatCrab"
  match self.orderType with
  | .buy => ⟨self.tradeUuid, ⟨[bitcoin], self.amount * self.price, none⟩,
      ⟨[fatcrab], some (1 / self.price)⟩, .fatCrabMakeOrderSpecifics⟩
  | .sell => ⟨self.tradeUuid, ⟨[fatcrab], self.amount, none⟩,
      ⟨[bitcoin], some self.price⟩, .fatCrabMakeOrderSpecifics⟩

/-- The variables of the loops of `from_n3xb_order`. -/
structure OrderScan where
  amount : Option ℚ
  price : Option ℚ
  fatcrabOrderKind : Option FatCrabOrderType
  intendedOrderKind : Option FatCrabOrderType

namespace FatCrabOrder

def unexpectedNetwork : FatCrabError := .simple "FatCrabOrder::from() - Unexpected Bitcoin Network"

def mismatchMaker : FatCrabError :=
  .simple "FatCrabOrder::from() - Mismatch kinds in Order Maker Obligation"

def mismatchTaker : FatCrabError :=
  .simple "FatCrabOrder::from() - Mismatch kinds in Order Taker Obligation"

def undetermined : FatCrabError := .simple "FatCrabOrder::from() - Could not determine order type"

/-- The end of the first loop's body: the first kind found is kept, a second must agree. -/
def agreeMaker (scan : OrderScan) : Except FatCrabError OrderScan :=
  match scan.intendedOrderKind, scan.fatcrabOrderKind with
  | none, _ => .ok scan
  | some intended, none => .ok { scan with fatcrabOrderKind := some intended }
  | some intended, some kind => if kind ≠ intended then .error mismatchMaker else .ok scan

/-- The body of the loop over the maker's kinds; `none` is the panic of an absent limit
rate. An inverse of zero is read as zero. -/
def scanMakerKind (order : Order) (network : Network) (scan : OrderScan) :
    ObligationKind → Option (Except FatCrabError OrderScan)
  | .custom string =>
      if string = fatcrabObligationCustomKindString then do
        let limitRate ← order.takerObligation.limitRate
        return agreeMaker { scan with
          intendedOrderKind := some .sell
          amount := some order.makerObligation.amount
          price := some limitRate }
      else
        some (agreeMaker scan)
  | .bitcoin n3xbNetwork settlement =>
      if bitcoinNetworkMatches n3xbNetwork network then
        match settlement with
        | some .onchain => do
            let limitRate ← order.takerObligation.limitRate
            return agreeMaker { scan with
              intendedOrderKind := some .buy
              price := some (1 / limitRate)
              amount := some (order.makerObligation.amount * limitRate) }
        | _ => some (agreeMaker scan)
      else
        some (.error unexpectedNetwork)
  | .fiat _ _ => some (.ok scan)

/-- The end of the second loop's body; `none` is its panic. -/
def agreeTaker (scan : OrderScan) : Option (Except FatCrabError OrderScan) :=
  match scan.intendedOrderKind, scan.fatcrabOrderKind with
  | none, _ => some (.ok scan)
  | some _, none => none
  | some intended, some kind =>
      if kind ≠ intended then some (.error mismatchTaker) else some (.ok scan)

/-- The body of the loop over the taker's kinds. -/
def scanTakerKind (scan : OrderScan) : ObligationKind → Option (Except FatCrabError OrderScan)
  | .custom string =>
      if string = fatcrabObligationCustomKindString then
        agreeTaker { scan with intendedOrderKind := some .buy }
      else
        agreeTaker scan
  | .bitcoin _ settlement =>
      match settlement with
      | some .onchain => agreeTaker { scan with intendedOrderKind := some .sell }
      | _ => agreeTaker scan
  | .fiat _ _ => some (.ok scan)

/-- A loop over kinds, left at the first error or panic. -/
def scanKinds (step : OrderScan → ObligationKind → Option (Except FatCrabError OrderScan)) :
    List ObligationKind → OrderScan → Option (Except FatCrabError OrderScan)
  | [], scan => some (.ok scan)
  | kind :: kinds, scan =>
      match step scan kind with
      | some (.ok scan) => scanKinds step kinds scan
      | result => result

/-- `from_n3xb_order`; `none` stands for its panics. -/
def fromN3xbOrder (order : Order) (network : Network) : Option (Except FatCrabError FatCrabOrder) :=
  match scanKinds (scanMakerKind order network) order.makerObligation.kinds
      ⟨none, none, none, none⟩ with
  | none => none
  | some (.error error) => some (.error error)
  | some (.ok scan) =>
      match scanKinds scanTakerKind order.takerObligation.kinds scan with
      | none => none
      | some (.error error) => some (.error error)
      | some (.ok ⟨some amount, some price, some orderType, _⟩) =>
          some (.ok ⟨orderType, order.tradeUuid, amount, price, network⟩)
      | some (.ok _) => some (.error undetermined)

end FatCrabOrder

structure FatCrabOrderEnvelope where
  order : FatCrabOrder
  pubkey : String
  envelope : OrderEnvelope
  deriving DecidableEq

structure FatCrabOfferEnvelope where
  pubkey : String
  envelope : OfferEnvelope
  deriving DecidableEq

structure FatCrabPeerEnvelope where
  message : FatCrabPeerMessage
  envelope : PeerEnvelope
  deriving DecidableEq

inductive FatCrabTradeRspType where
  | accept
  | reject
  deriving DecidableEq

inductive FatCrabTradeRsp where
  | accept (receiveAddress : String)
  | reject
  deriving DecidableEq

structure FatCrabTradeRspEnvelope where
  tradeRsp : FatCrabTradeRsp
  envelope : TradeResponseEnvelope
  deriving DecidableEq

namespace FatCrabTradeRsp

/-- `from_n3xb_trade_rsp`; `none` stands for the panic of its downcast. -/
def fromN3xbTradeRsp (tradeRsp : TradeResponse) : Option FatCrabTradeRsp :=
  match tradeRsp.tradeResponse with
  | .accepted =>
      (tradeRsp.tradeEngineSpecifics.bind SerdeGeneric.asFatCrabMakeTradeRspSpecifics).map
        fun specifics => .accept specifics.receiveAddress
  | .rejected => some .reject
  | .notAvailable => some .reject

/-- An acceptance carries the specifics of one. -/
theorem specifics_of_accept {tradeRsp : TradeResponse} {receiveAddress : String}
    (haccept : fromN3xbTradeRsp tradeRsp = some (.accept receiveAddress)) :
    tradeRsp.tradeResponse = .accepted ∧
      tradeRsp.tradeEngineSpecifics = some (.fatCrabMakeTradeRspSpecifics ⟨receiveAddress⟩) := by
  obtain ⟨offerEventId, tradeResponse, rejectReason, tradeEngineSpecifics⟩ := tradeRsp
  cases tradeResponse with
  | accepted =>
      obtain ⟨specifics, hspecifics, heq⟩ := Option.map_eq_some_iff.mp haccept
      obtain ⟨content, rfl, hcontent⟩ := Option.bind_eq_some_iff.mp hspecifics
      cases heq
      cases content <;> cases hcontent
      exact ⟨rfl, rfl⟩
  | rejected | notAvailable => cases haccept

end FatCrabTradeRsp

/-- `f64::round`: to the nearest integer, half-way cases away from zero. -/
def roundHalfAway (amount : ℚ) : ℤ :=
  if 0 ≤ amount then ⌊amount + 1 / 2⌋ else ⌈amount - 1 / 2⌉

/-- `FatCrabOffer::create_n3xb_offer`. -/
def createN3xbOffer (order : FatCrabOrder) : Offer :=
  let bitcoin : Obligation :=
    ⟨.bitcoin order.network.n3xbNetwork (some .onchain),
      roundHalfAway (order.amount * order.price), none⟩
  let fatcrab : Obligation := ⟨.custom fatcrabObligationCustomKindString, order.amount, none⟩
  match order.orderType with
  | .buy => ⟨bitcoin, fatcrab, .fatCrabTakeOrderSpecifics⟩
  | .sell => ⟨fatcrab, bitcoin, .fatCrabTakeOrderSpecifics⟩

namespace FatCrabOffer

/-- The order type that a maker obligation stands for. -/
def makerOrderType : ObligationKind → Except FatCrabError FatCrabOrderType
  | .bitcoin _ _ => .ok .buy
  | .custom kind =>
      if kind = fatcrabObligationCustomKindString then .ok .sell
      else .error (.simple s!"Offer Maker Obligation Kind Custom for {kind} not expected")
  | .fiat currency _ =>
      .error (.simple s!"Offer Maker Obligation Kind Fiat for {currency} not expected")

/-- Whether a taker obligation contradicts the order type. -/
def takerInconsistent (orderType : FatCrabOrderType) : ObligationKind → Except FatCrabError Bool
  | .bitcoin _ _ => .ok (orderType != .sell)
  | .custom kind =>
      if kind = fatcrabObligationCustomKindString then .ok (orderType != .buy)
      else .error (.simple s!"Offer Taker Obligation Kind Custom for {kind} not expected")
  | .fiat currency _ =>
      .error (.simple s!"Offer Taker Obligation Kind Fiat for {currency} not expected")

/-- `validate_n3xb_offer`. -/
def validateN3xbOffer (offer : Offer) : Except FatCrabError Unit := do
  let orderType ← makerOrderType offer.makerObligation.kind
  let internalInconsistent ← takerInconsistent orderType offer.takerObligation.kind
  if internalInconsistent then
    .error (.simple ("Offer Obligation Kinds internally inconsistent - Maker: " ++
      offer.makerObligation.kind.debug ++ ", Taker: " ++ offer.takerObligation.kind.debug))
  else
    .ok ()

/-- The offer made for an order is one that a maker takes. -/
theorem validate_createN3xbOffer (order : FatCrabOrder) :
    validateN3xbOffer (createN3xbOffer order) = .ok () := by
  unfold createN3xbOffer
  cases order.orderType <;> rfl

end FatCrabOffer

end FatCrabTrading
