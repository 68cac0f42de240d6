import Mathlib.Algebra.Order.Monoid.Canonical.Defs
import Mathlib.Logic.Relation
import Mathlib.Tactic.Abel

/-! # Reservations against a balance that is known late

Amounts are reserved against a reported balance. A payment uses up a reservation
and costs a fee; its outflow is outstanding until the report reveals it.
-/

namespace Reserve

variable {M : Type*} [AddCommMonoid M] [PartialOrder M] [IsOrderedCancelAddMonoid M]
  [CanonicallyOrderedAdd M]

/-- What is reserved, what was paid but not yet revealed, and the reported balance. -/
structure Account (M : Type*) where
  reserved : M
  outstanding : M
  balance : M

namespace Account

/-- The steps that leave room for everything reserved and outstanding. -/
inductive Step : Account M → Account M → Prop where
  | reserve {account : Account M} (amount : M)
      (hroom : account.reserved + account.outstanding + amount ≤ account.balance) :
      Step account { account with reserved := account.reserved + amount }
  | release {account : Account M} (rest : M) (hrest : rest ≤ account.reserved) :
      Step account { account with reserved := rest }
  | pay {account : Account M} (rest amount fee : M)
      (hrest : account.reserved = rest + amount)
      (hroom : account.reserved + account.outstanding + fee ≤ account.balance) :
      Step account { account with
        reserved := rest, outstanding := account.outstanding + (amount + fee) }
  | reveal {account : Account M} (rest revealed inflow balance : M)
      (hrest : account.outstanding = rest + revealed)
      (hbalance : balance + revealed = account.balance + inflow) :
      Step account { account with outstanding := rest, balance := balance }

/-- Everything reserved and outstanding is covered by the reported balance. -/
def Solvent (account : Account M) : Prop :=
  account.reserved + account.outstanding ≤ account.balance

theorem Step.solvent {account next : Account M} (hstep : Step account next)
    (hsolvent : account.Solvent) : next.Solvent := by
  cases hstep with
  | reserve amount hroom =>
      calc account.reserved + amount + account.outstanding
          = account.reserved + account.outstanding + amount := by abel
        _ ≤ account.balance := hroom
  | release rest hrest => exact (add_le_add_left hrest _).trans hsolvent
  | pay rest amount fee hrest hroom =>
      calc rest + (account.outstanding + (amount + fee))
          = rest + amount + account.outstanding + fee := by abel
        _ = account.reserved + account.outstanding + fee := by rw [hrest]
        _ ≤ account.balance := hroom
  | reveal rest revealed inflow balance hrest hbalance =>
      have hsum : account.reserved + rest + revealed ≤ balance + revealed :=
        calc account.reserved + rest + revealed
            = account.reserved + account.outstanding := by rw [hrest]; abel
          _ ≤ account.balance := hsolvent
          _ ≤ account.balance + inflow := le_self_add
          _ = balance + revealed := hbalance.symm
      exact le_of_add_le_add_right hsum

/-- Any number of such steps keeps an account solvent. -/
theorem solvent_of_steps {account next : Account M}
    (hsteps : Relation.ReflTransGen Step account next) (hsolvent : account.Solvent) :
    next.Solvent := by
  induction hsteps with
  | refl => exact hsolvent
  | tail _ hstep ih => exact hstep.solvent ih

omit [IsOrderedCancelAddMonoid M] in
theorem Solvent.reserved_le {account : Account M} (hsolvent : account.Solvent) :
    account.reserved ≤ account.balance :=
  le_self_add.trans hsolvent

end Account

end Reserve
