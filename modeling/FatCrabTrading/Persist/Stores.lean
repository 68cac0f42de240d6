import FatCrabTrading.Maker.Data
import FatCrabTrading.Persist.Persister
import FatCrabTrading.Sample
import FatCrabTrading.Taker.Data

/-! # The stores of the trades

Makers and takers of either role keep their trade in a store of their own, each with its
setters and its persister.
-/

namespace FatCrabTrading

open Effect

section Stores

variable [Bitcoin]

inductive FatCrabMakerBuyData.Setter where
  | setState (state : FatCrabMakerState)
  | setPeerPubkey (pubkey : String)
  | setPeerBtcAddr (addr : Address)
  | insertOfferEnvelope (envelope : FatCrabOfferEnvelope)
  | setPeerEnvelope (envelope : FatCrabPeerEnvelope)

def FatCrabMakerBuyData.set : Setter → FatCrabMakerBuyData → FatCrabMakerBuyData
  | .setState state, data => { data with state := state }
  | .setPeerPubkey pubkey, data => { data with peerPubkey := some pubkey }
  | .setPeerBtcAddr addr, data => { data with peerBtcAddr := some (Bitcoin.addressToString addr) }
  | .insertOfferEnvelope envelope, data =>
      { data with offerEnvelopes := data.offerEnvelopes ++ [envelope] }
  | .setPeerEnvelope envelope, data => { data with peerEnvelope := some envelope }

inductive FatCrabMakerSellData.Setter where
  | setState (state : FatCrabMakerState)
  | setPeerPubkey (pubkey : String)
  | setPeerBtcTxid (txid : Txid)
  | insertOfferEnvelope (envelope : FatCrabOfferEnvelope)
  | setPeerEnvelope (envelope : FatCrabPeerEnvelope)

def FatCrabMakerSellData.set : Setter → FatCrabMakerSellData → FatCrabMakerSellData
  | .setState state, data => { data with state := state }
  | .setPeerPubkey pubkey, data => { data with peerPubkey := some pubkey }
  | .setPeerBtcTxid txid, data => { data with peerBtcTxid := some txid }
  | .insertOfferEnvelope envelope, data =>
      { data with offerEnvelopes := data.offerEnvelopes ++ [envelope] }
  | .setPeerEnvelope envelope, data => { data with peerEnvelope := some envelope }

inductive FatCrabTakerBuyData.Setter where
  | setState (state : FatCrabTakerState)
  | setPeerBtcTxid (txid : Txid)
  | setTradeRspEnvelope (tradeRspEnvelope : FatCrabTradeRspEnvelope)
  | setPeerEnvelope (peerEnvelope : FatCrabPeerEnvelope)

def FatCrabTakerBuyData.set : Setter → FatCrabTakerBuyData → FatCrabTakerBuyData
  | .setState state, data => { data with state := state }
  | .setPeerBtcTxid txid, data => { data with peerBtcTxid := some txid }
  | .setTradeRspEnvelope envelope, data => { data with tradeRspEnvelope := some envelope }
  | .setPeerEnvelope envelope, data => { data with peerEnvelope := some envelope }

inductive FatCrabTakerSellData.Setter where
  | setState (state : FatCrabTakerState)
  | setPeerBtcAddr (peerBtcAddr : String)
  | setPeerEnvelope (peerEnvelope : FatCrabPeerEnvelope)

def FatCrabTakerSellData.set : Setter → FatCrabTakerSellData → FatCrabTakerSellData
  | .setState state, data => { data with state := state }
  | .setPeerBtcAddr address, data => { data with peerBtcAddr := some address }
  | .setPeerEnvelope envelope, data => { data with peerEnvelope := some envelope }

/-! ## The handlers write through the setters -/

theorem FatCrabMakerBuyActor.setters : ∀ setter : FatCrabMakerBuyData.Setter,
    (match setter with
      | .setState state => setState state
      | .setPeerPubkey pubkey => setPeerPubkey pubkey
      | .setPeerBtcAddr addr => setPeerBtcAddr addr
      | .insertOfferEnvelope envelope => insertOfferEnvelope envelope
      | .setPeerEnvelope envelope => setPeerEnvelope envelope) =
      Program.update fun self => { self with data := self.data.set setter }
  | .setState _ | .setPeerPubkey _ | .setPeerBtcAddr _ | .insertOfferEnvelope _
  | .setPeerEnvelope _ => rfl

theorem FatCrabMakerSellActor.setters : ∀ setter : FatCrabMakerSellData.Setter,
    (match setter with
      | .setState state => setState state
      | .setPeerPubkey pubkey => setPeerPubkey pubkey
      | .setPeerBtcTxid txid => setPeerBtcTxid txid
      | .insertOfferEnvelope envelope => insertOfferEnvelope envelope
      | .setPeerEnvelope envelope => setPeerEnvelope envelope) =
      Program.update fun self => { self with data := self.data.set setter }
  | .setState _ | .setPeerPubkey _ | .setPeerBtcTxid _ | .insertOfferEnvelope _
  | .setPeerEnvelope _ => rfl

theorem FatCrabTakerBuyActor.setters : ∀ setter : FatCrabTakerBuyData.Setter,
    (match setter with
      | .setState state => setState state
      | .setPeerBtcTxid txid => setPeerBtcTxid txid
      | .setTradeRspEnvelope envelope => setTradeRspEnvelope envelope
      | .setPeerEnvelope envelope => setPeerEnvelope envelope) =
      Program.update fun self => { self with data := self.data.set setter }
  | .setState _ | .setPeerBtcTxid _ | .setTradeRspEnvelope _ | .setPeerEnvelope _ => rfl

theorem FatCrabTakerSellActor.setters : ∀ setter : FatCrabTakerSellData.Setter,
    (match setter with
      | .setState state => setState state
      | .setPeerBtcAddr address => setPeerBtcAddr address
      | .setPeerEnvelope envelope => setPeerEnvelope envelope) =
      Program.update fun self => { self with data := self.data.set setter }
  | .setState _ | .setPeerBtcAddr _ | .setPeerEnvelope _ => rfl

/-! ## All four stores -/

/-- The four kinds of stores. -/
inductive TradeStore where
  | makerBuy
  | makerSell
  | takerBuy
  | takerSell
  deriving DecidableEq

namespace TradeStore

@[reducible] def Data : TradeStore → Type
  | .makerBuy => FatCrabMakerBuyData
  | .makerSell => FatCrabMakerSellData
  | .takerBuy => FatCrabTakerBuyData
  | .takerSell => FatCrabTakerSellData

@[reducible] def Setter : TradeStore → Type
  | .makerBuy => FatCrabMakerBuyData.Setter
  | .makerSell => FatCrabMakerSellData.Setter
  | .takerBuy => FatCrabTakerBuyData.Setter
  | .takerSell => FatCrabTakerSellData.Setter

def set : (kind : TradeStore) → kind.Setter → kind.Data → kind.Data
  | .makerBuy => FatCrabMakerBuyData.set
  | .makerSell => FatCrabMakerSellData.set
  | .takerBuy => FatCrabTakerBuyData.set
  | .takerSell => FatCrabTakerSellData.set

/-- For each kind of store, whatever the order of setters, requests and writes: the file
shows the store once `terminate` has returned, and before that a file that is behind is
going to be written. -/
theorem no_update_lost (kind : TradeStore) {β : Type} {toJson : kind.Data → β}
    {opened persister : Persister kind.Data β} (hopened : Persister.Opened toJson opened)
    (hrun : Relation.ReflTransGen (Persister.Step toJson kind.set) opened persister) :
    (persister.owner = .terminated → persister.file = some (toJson persister.store)) ∧
      (persister.owner ≠ .queueing → persister.file ≠ some (toJson persister.store) →
        .persist ∈ persister.channel ∨ persister.task = .received ∨
          persister.task = .writing persister.store) := by
  obtain ⟨horderly, hfaithful⟩ := Persister.faithful_of_run hopened hrun
  exact ⟨Persister.file_of_terminated horderly hfaithful,
    Persister.pending_of_behind horderly hfaithful⟩

end TradeStore

end Stores

section Sample

open Sample

namespace TradeStore

/-- The `state` field of a maker's file. -/
def makerState (data : FatCrabMakerBuyData) : String :=
  match data.state with
  | .new => "\"state\":\"New\""
  | .waitingForOffers => "\"state\":\"WaitingForOffers\""
  | _ => "\"state\""

/-- A new store. -/
def created : FatCrabMakerBuyData := .new (order .buy) "npub1maker" ⟨1⟩

/-- The store once its order is posted. -/
def posted : FatCrabMakerBuyData := { created with state := .waitingForOffers }

/-- The order is posted before the first write, and the second request is dropped. -/
theorem posted_run {β : Type} (toJson : FatCrabMakerBuyData → β) :
    Relation.ReflTransGen (Persister.Step toJson (TradeStore.set .makerBuy)) (.new created none)
      ⟨posted, some (toJson posted), [], .ended, .terminated⟩ := by
  let Step := Persister.Step toJson (TradeStore.set .makerBuy)
  let written : β := toJson posted
  have hqueued : Step (.new created none) ⟨created, none, [.persist], .receiving, .idle⟩ :=
    .queue rfl
  have hset : Step ⟨created, none, [.persist], .receiving, .idle⟩
      ⟨posted, none, [.persist], .receiving, .queueing⟩ := by
    have hlock : ∀ snapshot, PersisterTask.receiving ≠ .writing snapshot :=
      fun (_ : FatCrabMakerBuyData) => nofun
    exact .set (FatCrabMakerBuyData.Setter.setState .waitingForOffers) rfl hlock
  have hdropped : Step ⟨posted, none, [.persist], .receiving, .queueing⟩
      ⟨posted, none, [.persist], .receiving, .idle⟩ := .queue rfl
  have hreceived : Step ⟨posted, none, [.persist], .receiving, .idle⟩
      ⟨posted, none, [], .received, .idle⟩ := .receivePersist rfl rfl
  have hread : Step ⟨posted, none, [], .received, .idle⟩
      ⟨posted, none, [], .writing posted, .idle⟩ := .read rfl
  have hwritten : Step ⟨posted, none, [], .writing posted, .idle⟩
      ⟨posted, some written, [], .receiving, .idle⟩ := .write rfl
  have hterminate : Step ⟨posted, some written, [], .receiving, .idle⟩
      ⟨posted, some written, [], .receiving, .closing⟩ := .terminate rfl
  have hsent : Step ⟨posted, some written, [], .receiving, .closing⟩
      ⟨posted, some written, [.close], .receiving, .joining⟩ := .sendClose rfl rfl
  have hclosed : Step ⟨posted, some written, [.close], .receiving, .joining⟩
      ⟨posted, some written, [], .ended, .joining⟩ := .receiveClose rfl rfl
  have hjoined : Step ⟨posted, some written, [], .ended, .joining⟩
      ⟨posted, some written, [], .ended, .terminated⟩ := .join rfl rfl
  exact .head hqueued (.head hset (.head hdropped (.head hreceived (.head hread (.head hwritten
    (.head hterminate (.head hsent (.head hclosed (.single hjoined)))))))))

theorem no_update_lost_coalesced : ∃ persister : Persister FatCrabMakerBuyData String,
    persister.owner = .terminated ∧ persister.store.state = .waitingForOffers ∧
      persister.file = some (makerState persister.store) :=
  ⟨_, rfl, rfl, (no_update_lost .makerBuy (.new created none) (posted_run makerState)).1 rfl⟩

end TradeStore

end Sample

end FatCrabTrading
