import FatCrabTrading.Common

/-! # The n3xB types that the library exchanges

Dynamic values (`Box<dyn SerdeGenericTrait>`) are told apart by their concrete
type, which is all that a downcast inspects.
-/

namespace FatCrabTrading

inductive BitcoinNetwork where
  | mainnet
  | testnet
  | regtest
  | signet
  deriving DecidableEq

inductive BitcoinSettlementMethod where
  | onchain
  | lightning
  deriving DecidableEq

inductive ObligationKind where
  | bitcoin (network : BitcoinNetwork) (settlement : Option BitcoinSettlementMethod)
  | fiat (currency : String) (method : Option String)
  | custom (kind : String)
  deriving DecidableEq

/-- `Debug` of an obligation kind, as the offer validation prints it. -/
def ObligationKind.debug : ObligationKind → String
  | .bitcoin network settlement =>
      let network := match network with
        | .mainnet => "Mainnet"
        | .testnet => "Testnet"
        | .regtest => "Regtest"
        | .signet => "Signet"
      let settlement := match settlement with
        | none => "None"
        | some .onchain => "Some(Onchain)"
        | some .lightning => "Some(Lightning)"
      s!"Bitcoin({network}, {settlement})"
  | .fiat currency method =>
      let method := method.getD "None"
      s!"Fiat({currency}, {method})"
  | .custom kind => s!"Custom({kind.quote})"

/-- `FatCrabPeerMessage`. -/
structure FatCrabPeerMessage where
  receiveAddress : String
  txid : String
  deriving DecidableEq

/-- `FatCrabMakeTradeRspSpecifics`. -/
structure FatCrabMakeTradeRspSpecifics where
  receiveAddress : String
  deriving DecidableEq

/-- A dynamic value: one of the library's own types, or a type foreign to it. -/
inductive SerdeGeneric where
  | fatCrabPeerMessage (message : FatCrabPeerMessage)
  | fatCrabMakeTradeRspSpecifics (specifics : FatCrabMakeTradeRspSpecifics)
  | fatCrabMakeOrderSpecifics
  | fatCrabTakeOrderSpecifics
  | other (typeName : String)
  deriving DecidableEq

namespace SerdeGeneric

/-- `downcast_ref::<FatCrabPeerMessage>`. -/
def asFatCrabPeerMessage : SerdeGeneric → Option FatCrabPeerMessage
  | .fatCrabPeerMessage message => some message
  | _ => none

/-- `downcast_ref::<FatCrabMakeTradeRspSpecifics>`. -/
def asFatCrabMakeTradeRspSpecifics : SerdeGeneric → Option FatCrabMakeTradeRspSpecifics
  | .fatCrabMakeTradeRspSpecifics specifics => some specifics
  | _ => none

end SerdeGeneric

/-- One side of an n3xB offer. -/
structure Obligation where
  kind : ObligationKind
  amount : ℚ
  bondAmount : Option ℚ
  deriving DecidableEq

structure Offer where
  makerObligation : Obligation
  takerObligation : Obligation
  tradeEngineSpecifics : SerdeGeneric
  deriving DecidableEq

structure OfferEnvelope where
  pubkey : String
  eventId : String
  offer : Offer
  deriving DecidableEq

structure MakerObligation where
  kinds : List ObligationKind
  amount : ℚ
  amountMin : Option ℚ
  deriving DecidableEq

structure TakerObligation where
  kinds : List ObligationKind
  limitRate : Option ℚ
  deriving DecidableEq

/-- An n3xB order. The kinds of each side form a set; they are listed in the order
in which the set is iterated. -/
structure Order where
  tradeUuid : Uuid
  makerObligation : MakerObligation
  takerObligation : TakerObligation
  tradeEngineSpecifics : SerdeGeneric
  deriving DecidableEq

structure OrderEnvelope where
  pubkey : String
  order : Order
  deriving DecidableEq

inductive TradeResponseStatus where
  | accepted
  | rejected
  | notAvailable
  deriving DecidableEq

inductive OfferInvalidReason where
  | cancelled
  | pendingAnother
  | tradeEngineSpecific
  deriving DecidableEq

/-- An n3xB trade response; a response built without specifics carries none. -/
structure TradeResponse where
  offerEventId : String
  tradeResponse : TradeResponseStatus
  rejectReason : Option OfferInvalidReason
  tradeEngineSpecifics : Option SerdeGeneric
  deriving DecidableEq

structure TradeResponseEnvelope where
  eventId : String
  tradeRsp : TradeResponse
  deriving DecidableEq

structure PeerEnvelope where
  eventId : String
  message : SerdeGeneric
  deriving DecidableEq

/-- The requests that actors make of their `MakerAccess` or `TakerAccess`. -/
inductive N3xbRequest where
  | registerNotifTx
  | postNewOrder
  | cancelOrder
  | acceptOffer (tradeRsp : TradeResponse)
  | rejectOffer (tradeRsp : TradeResponse)
  | takeOrder
  | sendPeerMessage (message : SerdeGeneric)
  | tradeComplete
  | shutdown
  deriving DecidableEq

end FatCrabTrading
