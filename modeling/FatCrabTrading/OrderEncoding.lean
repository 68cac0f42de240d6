import FatCrabTrading.OrderKinds
import Mathlib.Data.Finset.Basic

/-! # Orders as n3xB carries them

A fatcrab order becomes an n3xB order and is read back from it. The kinds of an n3xB order
are sets, which are iterated in no order of their own.
-/

namespace FatCrabTrading

namespace FatCrabOrder

/-! ## There and back -/

section RoundTrip

variable {order : FatCrabOrder}

/-- The limit rate of an order: the price, or its inverse if the maker pays. -/
def limitRate (order : FatCrabOrder) : ℚ :=
  match order.orderType with
  | .buy => 1 / order.price
  | .sell => order.price

/-- An order that was encoded is a fatcrab order of its network and its role. -/
theorem isFatCrab_into (order : FatCrabOrder) :
    IsFatCrab order.into order.network order.orderType order.limitRate := by
  obtain ⟨orderType, tradeUuid, amount, price, network⟩ := order
  cases orderType <;>
    constructor <;>
    simp [into, limitRate, StandFor, makerRole, takerRole, OnNetwork,
      fatcrabObligationCustomKindString]

/-- Dividing by the price and by its inverse cancel. -/
theorem convert_into (hprice : order.price ≠ 0) :
    convert order.into order.network order.orderType order.limitRate = order := by
  obtain ⟨orderType, tradeUuid, amount, price, network⟩ := order
  dsimp only at hprice
  cases orderType with
  | buy =>
      have hamount : amount * price * price⁻¹ = amount := mul_inv_cancel_right₀ hprice amount
      simp [convert, into, limitRate, makerAmount, makerPrice, hamount]
  | sell => rfl

/-- The offer for an order promises what the order asks for, on either side. -/
theorem kinds_into (order : FatCrabOrder) :
    order.into.makerObligation.kinds = [(createN3xbOffer order).makerObligation.kind] ∧
      order.into.takerObligation.kinds = [(createN3xbOffer order).takerObligation.kind] := by
  unfold into createN3xbOffer
  cases order.orderType <;> exact ⟨rfl, rfl⟩

/-- An order is read back as it was, and the offer made for what was read is valid and of the
kinds of the order. -/
theorem fromN3xbOrder_into (order : FatCrabOrder) (hprice : 0 < order.price) :
    fromN3xbOrder order.into order.network = some (.ok order) ∧
      ∀ decoded, fromN3xbOrder order.into order.network = some (.ok decoded) →
        FatCrabOffer.validateN3xbOffer (createN3xbOffer decoded) = .ok () ∧
          order.into.makerObligation.kinds = [(createN3xbOffer decoded).makerObligation.kind] ∧
          order.into.takerObligation.kinds = [(createN3xbOffer decoded).takerObligation.kind] := by
  have hback : fromN3xbOrder order.into order.network = some (.ok order) := by
    rw [(isFatCrab_into order).readsAs.converts, convert_into hprice.ne']
  refine ⟨hback, fun decoded hdecoded => ?_⟩
  cases hback.symm.trans hdecoded
  exact ⟨FatCrabOffer.validate_createN3xbOffer order, kinds_into order⟩

end RoundTrip

/-- Fifty fatcrabs, at three sats for each. -/
def priced : FatCrabOrder := ⟨.buy, ⟨7⟩, 50, 3, .signet⟩

theorem fromN3xbOrder_into_priced :
    0 < priced.price ∧ fromN3xbOrder priced.into .signet = some (.ok priced) ∧
      ∀ decoded, fromN3xbOrder priced.into .signet = some (.ok decoded) →
        FatCrabOffer.validateN3xbOffer (createN3xbOffer decoded) = .ok () ∧
          priced.into.makerObligation.kinds = [(createN3xbOffer decoded).makerObligation.kind] ∧
          priced.into.takerObligation.kinds = [(createN3xbOffer decoded).takerObligation.kind] := by
  have hprice : 0 < priced.price := by decide
  exact ⟨hprice, fromN3xbOrder_into priced hprice⟩

/-! ## In whatever order the kinds come -/

/-- An order whose kinds come in this order. -/
def iterated (makerKinds takerKinds : List ObligationKind) (order : Order) : Order :=
  { order with
    makerObligation.kinds := makerKinds
    takerObligation.kinds := takerKinds }

/-- The kinds of a set, each once. -/
structure Iterates (kinds : List ObligationKind) (set : Finset ObligationKind) : Prop where
  nodup : kinds.Nodup
  mem_iff : ∀ kind, kind ∈ kinds ↔ kind ∈ set

section Iteration

variable {order : Order} {network : Network} {makerSet takerSet : Finset ObligationKind}
  {makerKinds makerKinds' takerKinds takerKinds' : List ObligationKind}

theorem Iterates.mem_iff_mem {kinds kinds' : List ObligationKind} {set : Finset ObligationKind}
    (hfirst : Iterates kinds set) (hsecond : Iterates kinds' set) (kind : ObligationKind) :
    kind ∈ kinds ↔ kind ∈ kinds' :=
  (hfirst.mem_iff kind).trans (hsecond.mem_iff kind).symm

/-- What an order reads as depends on which kinds it has, and not on where they are. -/
theorem readsAs_iterated {role : FatCrabOrderType} {limitRate : ℚ}
    (hmaker : ∀ kind, kind ∈ makerKinds ↔ kind ∈ makerKinds')
    (htaker : ∀ kind, kind ∈ takerKinds ↔ kind ∈ takerKinds')
    (hreads : ReadsAs (iterated makerKinds takerKinds order) network role limitRate) :
    ReadsAs (iterated makerKinds' takerKinds' order) network role limitRate := by
  obtain ⟨hrate, hnetwork, ⟨⟨kind, hmem, hrole⟩, hmakers⟩, htakers⟩ := hreads
  refine ⟨hrate, ?_, ⟨⟨kind, (hmaker kind).mp hmem, hrole⟩, ?_⟩, ?_⟩
  · intro kind hmem
    exact hnetwork kind ((hmaker kind).mpr hmem)
  · intro kind hmem
    exact hmakers kind ((hmaker kind).mpr hmem)
  · intro kind hmem
    exact htakers kind ((htaker kind).mpr hmem)

/-- What one iteration reads, every other one reads. -/
theorem ok_of_iterated {result : FatCrabOrder}
    (hmaker : ∀ kind, kind ∈ makerKinds ↔ kind ∈ makerKinds')
    (htaker : ∀ kind, kind ∈ takerKinds ↔ kind ∈ takerKinds')
    (hfirst : fromN3xbOrder (iterated makerKinds takerKinds order) network =
      some (.ok result)) :
    fromN3xbOrder (iterated makerKinds' takerKinds' order) network = some (.ok result) := by
  obtain ⟨role, limitRate, hreads, rfl⟩ := fromN3xbOrder_ok_iff.mp hfirst
  -- the result is computed from the amount, the rate and the role alone
  exact fromN3xbOrder_ok_iff.mpr
    ⟨role, limitRate, readsAs_iterated hmaker htaker hreads, rfl⟩

/-- Two iterations of the kinds of one order read the same order, or both fail. -/
theorem fromN3xbOrder_iterated (hmaker : Iterates makerKinds makerSet)
    (hmaker' : Iterates makerKinds' makerSet) (htaker : Iterates takerKinds takerSet)
    (htaker' : Iterates takerKinds' takerSet) :
    (∃ result,
        fromN3xbOrder (iterated makerKinds takerKinds order) network = some (.ok result) ∧
        fromN3xbOrder (iterated makerKinds' takerKinds' order) network = some (.ok result)) ∨
      (∀ result,
        fromN3xbOrder (iterated makerKinds takerKinds order) network ≠ some (.ok result)) ∧
      ∀ result,
        fromN3xbOrder (iterated makerKinds' takerKinds' order) network ≠ some (.ok result) := by
  have hmakers := hmaker.mem_iff_mem hmaker'
  have htakers := htaker.mem_iff_mem htaker'
  by_cases hok : ∃ result,
      fromN3xbOrder (iterated makerKinds takerKinds order) network = some (.ok result)
  · obtain ⟨result, hfirst⟩ := hok
    exact .inl ⟨result, hfirst, ok_of_iterated hmakers htakers hfirst⟩
  · right
    refine ⟨not_exists.mp hok, fun result hsecond => hok ⟨result, ?_⟩⟩
    exact ok_of_iterated (fun kind => (hmakers kind).symm) (fun kind => (htakers kind).symm)
      hsecond

end Iteration

/-- A maker who pays in coins or in dollars. -/
def payable : List ObligationKind := [.bitcoin .signet (some .onchain), .fiat "USD" none]

theorem iterates_toFinset {kinds : List ObligationKind} (hnodup : kinds.Nodup) :
    Iterates kinds kinds.toFinset :=
  ⟨hnodup, fun _ => List.mem_toFinset.symm⟩

theorem Iterates.reverse {kinds : List ObligationKind} {set : Finset ObligationKind}
    (hiterates : Iterates kinds set) : Iterates kinds.reverse set := by
  refine ⟨List.nodup_reverse.mpr hiterates.nodup, fun kind => ?_⟩
  rw [List.mem_reverse]
  exact hiterates.mem_iff kind

theorem fromN3xbOrder_iterated_payable :
    Iterates payable payable.toFinset ∧ Iterates payable.reverse payable.toFinset ∧
      ((∃ result,
          fromN3xbOrder (iterated payable [.custom "FatCrab"] priced.into) .signet =
            some (.ok result) ∧
          fromN3xbOrder (iterated payable.reverse [.custom "FatCrab"] priced.into) .signet =
            some (.ok result)) ∨
        (∀ result,
          fromN3xbOrder (iterated payable [.custom "FatCrab"] priced.into) .signet ≠
            some (.ok result)) ∧
        ∀ result,
          fromN3xbOrder (iterated payable.reverse [.custom "FatCrab"] priced.into) .signet ≠
            some (.ok result)) := by
  have hpayable : Iterates payable payable.toFinset := iterates_toFinset (by decide)
  have hfatcrab : Iterates [.custom "FatCrab"] [.custom "FatCrab"].toFinset :=
    iterates_toFinset (List.nodup_singleton _)
  exact ⟨hpayable, hpayable.reverse,
    fromN3xbOrder_iterated hpayable hpayable.reverse hfatcrab hfatcrab⟩

/-- Only which failure it is may differ: foreign coins that come first are an error, and a
missing rate that is asked for first is a panic. -/
example : fromN3xbOrder ⟨⟨8⟩, ⟨[.bitcoin .mainnet none, .custom "FatCrab"], 10, none⟩, ⟨[], none⟩,
      .other "exchange"⟩ .regtest = some (.error unexpectedNetwork) ∧
    fromN3xbOrder ⟨⟨8⟩, ⟨[.custom "FatCrab", .bitcoin .mainnet none], 10, none⟩, ⟨[], none⟩,
      .other "exchange"⟩ .regtest = none :=
  ⟨rfl, rfl⟩

end FatCrabOrder

end FatCrabTrading
