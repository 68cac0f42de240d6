import FatCrabTrading.Purse.Ledger
import FatCrabTrading.Sample
import Mathlib.Algebra.Order.Floor.Ring
import Mathlib.Tactic.Linarith

/-! # The sats of a trade

The product of amount and price becomes a number of sats in several places: as it is in
the published order, rounded in the offer, and cut off where the purse sets it aside.
-/

namespace FatCrabTrading

open Effect

section Rounding

variable {amount : ℚ}

theorem asU64_natCast {sats : ℕ} (hfits : sats < 2 ^ 64) : asU64 (sats : ℚ) = sats := by
  unfold asU64
  rw [Int.floor_natCast, Int.toNat_natCast]
  omega

theorem asU64_lt (amount : ℚ) : asU64 amount < 2 ^ 64 := by
  unfold asU64
  omega

/-- Cutting off gives a number back exactly if it is a whole `u64`. -/
theorem asU64_eq_iff : (asU64 amount : ℚ) = amount ↔ ∃ sats : ℕ, sats < 2 ^ 64 ∧ amount = sats := by
  constructor
  · intro heq
    exact ⟨asU64 amount, asU64_lt amount, heq.symm⟩
  · rintro ⟨sats, hfits, rfl⟩
    rw [asU64_natCast hfits]

/-- Below the limit of `u64` cutting off is the floor. -/
theorem asU64_eq_floor_iff (hnonneg : 0 ≤ amount) :
    (asU64 amount : ℤ) = ⌊amount⌋ ↔ amount < 2 ^ 64 := by
  have hfloor : 0 ≤ ⌊amount⌋ := Int.floor_nonneg.mpr hnonneg
  have hlt : ⌊amount⌋ < 2 ^ 64 ↔ amount < 2 ^ 64 := by
    rw [Int.floor_lt]
    norm_num
  rw [← hlt]
  unfold asU64
  omega

theorem floor_add_half_eq_iff : ⌊amount + 1 / 2⌋ = ⌊amount⌋ ↔ Int.fract amount < 1 / 2 := by
  have hfract := Int.floor_add_fract amount
  have hnonneg := Int.fract_nonneg amount
  rw [Int.floor_eq_iff]
  constructor
  · rintro ⟨-, hlt⟩
    linarith
  · intro hlt
    constructor <;> linarith

/-- Rounding and cutting off agree below one half, within `u64`. -/
theorem roundHalfAway_eq_asU64_iff (hnonneg : 0 ≤ amount) :
    roundHalfAway amount = (asU64 amount : ℤ) ↔ Int.fract amount < 1 / 2 ∧ amount < 2 ^ 64 := by
  have hround : roundHalfAway amount = ⌊amount + 1 / 2⌋ := if_pos hnonneg
  have hup : ⌊amount⌋ ≤ ⌊amount + 1 / 2⌋ := Int.floor_le_floor (by linarith)
  have hdown : (asU64 amount : ℤ) ≤ ⌊amount⌋ := by
    have hfloor : 0 ≤ ⌊amount⌋ := Int.floor_nonneg.mpr hnonneg
    unfold asU64
    omega
  rw [hround, ← floor_add_half_eq_iff, ← asU64_eq_floor_iff hnonneg]
  constructor
  · intro heq
    constructor <;> omega
  · rintro ⟨hhalf, hcut⟩
    omega

end Rounding

section Amounts

variable [Bitcoin]

/-- The sats that a program asks the purse to set aside before anything else. -/
def allocation {σ α : Type} : Handler σ α → Option ℕ
  | .call (.purse (.allocateFunds sats)) _ => some sats
  | _ => none

/-- A granted request holds its sats, and a payment from an id that holds them sends them. -/
structure Settles (sats : ℕ) : Prop where
  held : ∀ (purse after : Purse) (answers : WalletAnswers) (fundsId : Uuid),
    purse.serve answers (.allocateFunds sats) = (some (.ok fundsId), after) →
      after.lookup fundsId = some sats
  sent : ∀ (purse after : Purse) (answers : WalletAnswers) (fundsId : Uuid) (address : Address)
    (txid : Txid), purse.lookup fundsId = some sats →
      purse.serve answers (.sendFunds fundsId address) = (some (.ok txid), after) →
        ∃ tx, (fundsId, tx) ∈ after.broadcasts ∧ tx.txid = txid ∧
          tx.recipients = [(Bitcoin.scriptPubkey address, sats)]

theorem settles (sats : ℕ) : Settles sats := by
  constructor
  · intro purse after answers fundsId hserve
    by_cases hserving : purse.status = .serving
    · rw [Purse.serve_allocateFunds hserving] at hserve
      split at hserve
      next => cases hserve
      next => cases hserve
      next =>
        cases hserve
        rw [Purse.lookup_allocate, if_pos rfl]
    · rw [Purse.serve_of_not_serving hserving] at hserve
      cases hserve
  · intro purse after answers fundsId address txid hlookup hserve
    obtain ⟨tx, found, hfound, hbroadcast, htxid, hrecipients⟩ := Purse.serve_sendFunds_ok hserve
    cases hfound.symm.trans hlookup
    exact ⟨tx, hbroadcast, htxid, hrecipients⟩

namespace FatCrabOrder

/-- One number of sats in the published order, in the offer, and in what the payer sets
aside and sends. The published Sell order has no amount in sats. -/
def AgreesOn (order : FatCrabOrder) (sats : ℕ) : Prop :=
  match order.orderType with
  | .buy => order.into.makerObligation.amount = sats ∧
      (createN3xbOffer order).makerObligation.amount = sats ∧
      (∀ (fatcrabRxAddr : String) (network : Network), allocation (FatCrabMakerBuyActor.new order
        fatcrabRxAddr network : Handler FatCrabMakerBuyActor _) = some sats) ∧ Settles sats
  | .sell => (createN3xbOffer order).takerObligation.amount = sats ∧
      (∀ (envelope : FatCrabOrderEnvelope) (fatcrabRxAddr : String) (network : Network),
        envelope.order = order → allocation (FatCrabTakerSellActor.new envelope fatcrabRxAddr
          network : Handler FatCrabTakerSellActor _) = some sats) ∧ Settles sats

/-- A Buy order of a whole number of sats; a Sell order of less than half a sat more. -/
def WholeSats (order : FatCrabOrder) : Prop :=
  match order.orderType with
  | .buy => ∃ sats : ℕ, sats < 2 ^ 64 ∧ order.amount * order.price = sats
  | .sell => Int.fract (order.amount * order.price) < 1 / 2 ∧ order.amount * order.price < 2 ^ 64

omit [Bitcoin] in
theorem round_eq_sats_iff {order : FatCrabOrder} (hnonneg : 0 ≤ order.amount * order.price) :
    (roundHalfAway (order.amount * order.price) : ℚ) = order.sats ↔
      Int.fract (order.amount * order.price) < 1 / 2 ∧ order.amount * order.price < 2 ^ 64 := by
  rw [← roundHalfAway_eq_asU64_iff hnonneg]
  unfold sats
  norm_cast

/-- All parts of the program agree on the sats of a trade exactly if nothing is cut off
or rounded differently. -/
theorem agreesOn_iff {order : FatCrabOrder} (hamount : 0 < order.amount)
    (hprice : 0 < order.price) :
    (∃ sats, order.AgreesOn sats) ↔ order.WholeSats := by
  have hnonneg : 0 ≤ order.amount * order.price := (mul_pos hamount hprice).le
  have hround := round_eq_sats_iff hnonneg
  unfold AgreesOn WholeSats into createN3xbOffer
  cases order.orderType with
  | buy =>
      dsimp only
      constructor
      · rintro ⟨sats, hpublished, -, hallocated, -⟩
        -- what is set aside was cut off, what is published was not
        have hsats : order.sats = sats := Option.some.inj (hallocated "" .regtest)
        have hcut : (order.sats : ℚ) = order.amount * order.price := by
          rw [hpublished, hsats]
        exact asU64_eq_iff.mp hcut
      · rintro ⟨sats, hfits, hsats⟩
        have hcut : order.sats = sats := by
          unfold FatCrabOrder.sats
          rw [hsats, asU64_natCast hfits]
        have hoffer : (roundHalfAway (order.amount * order.price) : ℚ) = order.sats := by
          rw [hround, hsats, Int.fract_natCast]
          constructor
          · norm_num
          · exact_mod_cast hfits
        refine ⟨sats, hsats, hoffer.trans (by rw [hcut]), fun _ _ => ?_, settles sats⟩
        rw [← hcut]
        rfl
  | sell =>
      dsimp only
      constructor
      · rintro ⟨sats, hoffer, hallocated, -⟩
        -- the offer was rounded, what is set aside was cut off
        let envelope : FatCrabOrderEnvelope := ⟨order, "", ⟨"", order.into⟩⟩
        have hsats : order.sats = sats := Option.some.inj (hallocated envelope "" .regtest rfl)
        rw [← hround, hsats]
        exact hoffer
      · intro hwhole
        refine ⟨order.sats, hround.mpr hwhole, ?_, settles _⟩
        rintro envelope _ _ rfl
        rfl

end FatCrabOrder

end Amounts

section Sample

open Sample

namespace FatCrabOrder

/-- Fifty fatcrabs at one sat each. -/
theorem agreesOn_fifty : (∃ sats, (order .buy).AgreesOn sats) ↔ (order .buy).WholeSats := by
  have hamount : 0 < (order .buy).amount := by decide +kernel
  have hprice : 0 < (order .buy).price := by decide +kernel
  exact agreesOn_iff hamount hprice

/-- One fatcrab at one and a half sats: the published order has 3/2 sats, the offer 2 and
the purse sets aside 1. -/
theorem disagreesOn_half : ¬ ∃ sats, AgreesOn ⟨.buy, ⟨7⟩, 1, 3 / 2, .regtest⟩ sats := by
  rintro ⟨sats, hpublished, hoffer, -⟩
  have hsame : (3 / 2 : ℚ) = 2 := by
    have hround : roundHalfAway (1 * (3 / 2)) = 2 := by decide +kernel
    have hproduct : (1 * (3 / 2) : ℚ) = roundHalfAway (1 * (3 / 2)) := hpublished.trans hoffer.symm
    rw [hround] at hproduct
    linarith
  norm_num at hsame

end FatCrabOrder

end Sample

end FatCrabTrading
