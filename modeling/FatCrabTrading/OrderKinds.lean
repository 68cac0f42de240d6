import FatCrabTrading.OrderBook

/-! # Orders that are not fatcrab orders

A fatcrab order has one role on its maker's side, the same role on its taker's side, bitcoin
kinds of one network only, and a limit rate. `from_n3xb_order` looks for the limit rate
when it has found a role, it expects a role of the maker when it has found one of the
taker, and it does not ask the taker's side to have a role or to be on the network.
-/

namespace FatCrabTrading

namespace FatCrabOrder

/-- Some kind stands for the role, and none for the other one. -/
def StandFor (roleOf : ObligationKind → Option FatCrabOrderType) (kinds : List ObligationKind)
    (role : FatCrabOrderType) : Prop :=
  (∃ kind ∈ kinds, roleOf kind = some role) ∧
    ∀ kind ∈ kinds, ∀ other, roleOf kind = some other → other = role

/-- A fatcrab order of a network. -/
structure IsFatCrab (order : Order) (network : Network) (role : FatCrabOrderType) (limitRate : ℚ) :
    Prop where
  limitRate : order.takerObligation.limitRate = some limitRate
  network : ∀ kind ∈ order.makerObligation.kinds ++ order.takerObligation.kinds,
    OnNetwork network kind
  maker : StandFor makerRole order.makerObligation.kinds role
  taker : StandFor takerRole order.takerObligation.kinds role

/-- What a fatcrab order converts to. -/
def convert (order : Order) (network : Network) (role : FatCrabOrderType) (limitRate : ℚ) :
    FatCrabOrder :=
  ⟨role, order.tradeUuid, makerAmount order limitRate role, makerPrice limitRate role, network⟩

/-- What the two loops make sure of: the maker's side is as in a fatcrab order, and the taker's
side does not contradict it. -/
structure ReadsAs (order : Order) (network : Network) (role : FatCrabOrderType) (limitRate : ℚ) :
    Prop where
  limitRate : order.takerObligation.limitRate = some limitRate
  network : ∀ kind ∈ order.makerObligation.kinds, OnNetwork network kind
  maker : StandFor makerRole order.makerObligation.kinds role
  taker : ∀ kind ∈ order.takerObligation.kinds, ∀ other, takerRole kind = some other → other = role

/-- Fatcrab orders convert, and every other order is an error. -/
def Classified (order : Order) (network : Network) : Prop :=
  (∀ role limitRate, IsFatCrab order network role limitRate →
    fromN3xbOrder order network = some (.ok (convert order network role limitRate))) ∧
  ((∀ role limitRate, ¬ IsFatCrab order network role limitRate) →
    ∃ error, fromN3xbOrder order network = some (.error error))

/-- There is no limit rate, and a role of the maker comes before any bitcoin of another
network. -/
def RateMissing (order : Order) (network : Network) : Prop :=
  order.takerObligation.limitRate = none ∧ ∃ before kind after,
    order.makerObligation.kinds = before ++ kind :: after ∧
      (∀ other ∈ before, OnNetwork network other) ∧ OnNetwork network kind ∧
      (makerRole kind).isSome

/-- The maker's kinds have no role, and one of the taker's has. -/
def RoleMissing (order : Order) (network : Network) : Prop :=
  (∀ kind ∈ order.makerObligation.kinds, OnNetwork network kind ∧ makerRole kind = none) ∧
    ∃ kind ∈ order.takerObligation.kinds, (takerRole kind).isSome

/-- The order converts although its taker's side has no role, or bitcoin of another network. -/
def Unchecked (order : Order) (network : Network) : Prop :=
  Convertible order network ∧
    ((∀ kind ∈ order.takerObligation.kinds, takerRole kind = none) ∨
      ∃ kind ∈ order.takerObligation.kinds, ¬ OnNetwork network kind)

section Scan

variable {order : Order} {network : Network} {scan : OrderScan} {kind : ObligationKind}
  {kinds : List ObligationKind}

theorem scanKinds_cons_none
    {step : OrderScan → ObligationKind → Option (Except FatCrabError OrderScan)} :
    scanKinds step (kind :: kinds) scan = none ↔ step scan kind = none ∨
      ∃ next, step scan kind = some (.ok next) ∧ scanKinds step kinds next = none := by
  rw [scanKinds]
  split
  next next hstep => simp [hstep]
  next hnot =>
    constructor
    · exact .inl
    · intro hcases
      rcases hcases with hnone | ⟨next, hstep, -⟩
      · exact hnone
      · exact absurd hstep (hnot next)

/-! ## The maker's kinds -/

theorem scanMakerKind_eq_none_iff :
    scanMakerKind order network scan kind = none ↔
      order.takerObligation.limitRate = none ∧ OnNetwork network kind ∧
        (makerRole kind).isSome := by
  cases kind with
  | custom string =>
      by_cases hstring : string = fatcrabObligationCustomKindString
      · cases hrate : order.takerObligation.limitRate <;>
          simp [scanMakerKind, makerRole, OnNetwork, hstring, hrate]
      · simp [scanMakerKind, makerRole, hstring]
  | bitcoin n3xbNetwork settlement =>
      cases hmatches : bitcoinNetworkMatches n3xbNetwork network with
      | false => simp [scanMakerKind, OnNetwork, hmatches]
      | true =>
          rcases settlement with _ | _ | _
          · simp [scanMakerKind, makerRole, hmatches]
          · cases hrate : order.takerObligation.limitRate <;>
              simp [scanMakerKind, makerRole, OnNetwork, hmatches, hrate]
          · simp [scanMakerKind, makerRole, hmatches]
  | fiat currency method => simp [scanMakerKind, makerRole]

/-- A kind without a role is passed over. -/
theorem scanMakerKind_skip (hsettled : Settled order scan) (hnetwork : OnNetwork network kind)
    (hrole : makerRole kind = none) : scanMakerKind order network scan kind = some (.ok scan) := by
  rw [scanMakerKind_ok_iff hsettled, hrole]
  exact ⟨hnetwork, rfl⟩

theorem scanMaker_skip (hsettled : Settled order scan)
    (hkinds : ∀ kind ∈ kinds, OnNetwork network kind ∧ makerRole kind = none) :
    scanKinds (scanMakerKind order network) kinds scan = some (.ok scan) := by
  induction kinds with
  | nil => rfl
  | cons kind kinds ih =>
      obtain ⟨⟨hnetwork, hrole⟩, hkinds⟩ := List.forall_mem_cons.mp hkinds
      rw [scanKinds, scanMakerKind_skip hsettled hnetwork hrole]
      exact ih hkinds

/-- The first loop panics at the first role, if there is no limit rate. -/
theorem scanMaker_eq_none_iff (hsettled : Settled order scan) :
    scanKinds (scanMakerKind order network) kinds scan = none ↔
      order.takerObligation.limitRate = none ∧ ∃ before kind after,
        kinds = before ++ kind :: after ∧ (∀ other ∈ before, OnNetwork network other) ∧
          OnNetwork network kind ∧ (makerRole kind).isSome := by
  induction kinds generalizing scan with
  | nil => simp [scanKinds]
  | cons kind kinds ih =>
      rw [scanKinds_cons_none, scanMakerKind_eq_none_iff]
      constructor
      · intro hcases
        rcases hcases with ⟨hrate, hnetwork, hrole⟩ | ⟨next, hstep, hrest⟩
        · exact ⟨hrate, [], kind, kinds, rfl, List.forall_mem_nil _, hnetwork, hrole⟩
        · obtain ⟨hrate, before, other, after, rfl, hbefore, hother⟩ :=
            (ih (settled_of_scanMakerKind hsettled hstep)).mp hrest
          have hnetwork := ((scanMakerKind_ok_iff hsettled).mp hstep).1
          exact ⟨hrate, kind :: before, other, after, rfl,
            List.forall_mem_cons.mpr ⟨hnetwork, hbefore⟩, hother⟩
      · intro hsplit
        obtain ⟨hrate, before, other, after, heq, hbefore, hnetwork, hrole⟩ := hsplit
        cases before with
        | nil =>
            obtain ⟨rfl, -⟩ := List.cons.inj heq
            exact .inl ⟨hrate, hnetwork, hrole⟩
        | cons first before =>
            obtain ⟨rfl, hkinds⟩ := List.cons.inj heq
            obtain ⟨hfirst, hbefore⟩ := List.forall_mem_cons.mp hbefore
            cases hcase : makerRole kind with
            | some role => exact .inl ⟨hrate, hfirst, rfl⟩
            | none =>
                right
                exact ⟨scan, scanMakerKind_skip hsettled hfirst hcase, (ih hsettled).mpr
                  ⟨hrate, before, other, after, hkinds, hbefore, hnetwork, hrole⟩⟩

/-! ## The taker's kinds -/

/-- Without a role of the maker, a role of the taker is a panic. -/
theorem scanTakerKind_unsettled (hintended : scan.intendedOrderKind = none)
    (hkind : scan.fatcrabOrderKind = none) :
    scanTakerKind scan kind = if (takerRole kind).isSome then none else some (.ok scan) := by
  obtain ⟨amount, price, fatcrabOrderKind, intendedOrderKind⟩ := scan
  dsimp only at hkind hintended
  subst hkind hintended
  cases kind with
  | custom string =>
      by_cases hstring : string = fatcrabObligationCustomKindString <;>
        simp [scanTakerKind, agreeTaker, takerRole, hstring]
  | bitcoin n3xbNetwork settlement =>
      rcases settlement with _ | _ | _ <;> simp [scanTakerKind, agreeTaker, takerRole]
  | fiat currency method => simp [scanTakerKind, takerRole]

theorem agreeTaker_ne_none {role : FatCrabOrderType} (hkind : scan.fatcrabOrderKind = some role) :
    agreeTaker scan ≠ none := by
  unfold agreeTaker
  rw [hkind]
  cases scan.intendedOrderKind with
  | none => exact Option.some_ne_none _
  | some intended =>
      dsimp only
      split <;> exact Option.some_ne_none _

/-- With a role of the maker there is no panic. -/
theorem scanTakerKind_ne_none {role : FatCrabOrderType}
    (hkind : scan.fatcrabOrderKind = some role) : scanTakerKind scan kind ≠ none := by
  cases kind with
  | custom string =>
      rw [scanTakerKind]
      split <;> exact agreeTaker_ne_none hkind
  | bitcoin n3xbNetwork settlement =>
      rcases settlement with _ | _ | _ <;> exact agreeTaker_ne_none hkind
  | fiat currency method => exact Option.some_ne_none _

theorem scanTaker_ne_none {role : FatCrabOrderType} (hkind : scan.fatcrabOrderKind = some role) :
    scanKinds scanTakerKind kinds scan ≠ none := by
  induction kinds generalizing scan with
  | nil => exact Option.some_ne_none _
  | cons kind kinds ih =>
      intro hnone
      rcases scanKinds_cons_none.mp hnone with hstep | ⟨next, hstep, hrest⟩
      · exact scanTakerKind_ne_none hkind hstep
      · exact ih ((kind_of_scanTakerKind hstep).trans hkind) hrest

theorem scanTaker_eq_none_iff (hsettled : Settled order scan) :
    scanKinds scanTakerKind kinds scan = none ↔
      scan.fatcrabOrderKind = none ∧ ∃ kind ∈ kinds, (takerRole kind).isSome := by
  cases hkind : scan.fatcrabOrderKind with
  | some role => simp [scanTaker_ne_none hkind]
  | none =>
      have hintended := hsettled.intended.trans hkind
      induction kinds with
      | nil => simp [scanKinds]
      | cons kind kinds ih =>
          rw [scanKinds_cons_none, scanTakerKind_unsettled hintended hkind]
          by_cases hrole : (takerRole kind).isSome
          · simp [hrole]
          · simp [hrole, ih]

end Scan

/-! ## Whole orders -/

variable {order : Order} {network : Network}

theorem fromN3xbOrder_none_of_loops : fromN3xbOrder order network = none ↔
    scanKinds (scanMakerKind order network) order.makerObligation.kinds
        ⟨none, none, none, none⟩ = none ∨
      ∃ scan, scanKinds (scanMakerKind order network) order.makerObligation.kinds
          ⟨none, none, none, none⟩ = some (.ok scan) ∧
        scanKinds scanTakerKind order.takerObligation.kinds scan = none := by
  unfold fromN3xbOrder
  split
  next hmaker => simp [hmaker]
  next error hmaker => simp [hmaker]
  next scan hmaker =>
    split
    next htaker => simp [hmaker, htaker]
    next error htaker => simp [hmaker, htaker]
    next htaker => simp [hmaker, htaker]
    next last _ htaker => simp [hmaker, htaker]

/-- The two panics. -/
theorem fromN3xbOrder_eq_none_iff :
    fromN3xbOrder order network = none ↔ RateMissing order network ∨ RoleMissing order network := by
  rw [fromN3xbOrder_none_of_loops, scanMaker_eq_none_iff (settled_start order)]
  apply or_congr Iff.rfl
  constructor
  · intro hloops
    obtain ⟨scan, hmaker, htaker⟩ := hloops
    obtain ⟨hsettled, hnetwork, hroles, -, -⟩ := scanMaker_sound (settled_start order) hmaker
    obtain ⟨hkind, hrole⟩ := (scanTaker_eq_none_iff hsettled).mp htaker
    refine ⟨fun kind hmem => ⟨hnetwork kind hmem, ?_⟩, hrole⟩
    rw [Option.eq_none_iff_forall_ne_some]
    intro role hfound
    have hsome := hroles kind hmem role hfound
    rw [hkind] at hsome
    cases hsome
  · intro hmissing
    obtain ⟨hmakers, htakers⟩ := hmissing
    exact ⟨_, scanMaker_skip (settled_start order) hmakers,
      (scanTaker_eq_none_iff (settled_start order)).mpr ⟨rfl, htakers⟩⟩

theorem ReadsAs.converts {role : FatCrabOrderType} {limitRate : ℚ}
    (hreads : ReadsAs order network role limitRate) :
    fromN3xbOrder order network = some (.ok (convert order network role limitRate)) :=
  fromN3xbOrder_of_role hreads.limitRate hreads.network hreads.maker.1 hreads.maker.2 hreads.taker

/-- An order converts in no other way than by the role that it reads as. -/
theorem fromN3xbOrder_ok_iff {result : FatCrabOrder} :
    fromN3xbOrder order network = some (.ok result) ↔ ∃ role limitRate,
      ReadsAs order network role limitRate ∧ result = convert order network role limitRate := by
  constructor
  · intro hfrom
    obtain ⟨hsome, hnetwork, role, hfound, hmakers, htakers⟩ :=
      fromN3xbOrder_isOk_iff.mp ⟨result, hfrom⟩
    obtain ⟨limitRate, hrate⟩ := Option.isSome_iff_exists.mp hsome
    have hreads : ReadsAs order network role limitRate :=
      ⟨hrate, hnetwork, ⟨hfound, hmakers⟩, htakers⟩
    refine ⟨role, limitRate, hreads, ?_⟩
    rw [hreads.converts] at hfrom
    cases hfrom
    rfl
  · intro hreads
    obtain ⟨role, limitRate, hreads, rfl⟩ := hreads
    exact hreads.converts

theorem IsFatCrab.readsAs {role : FatCrabOrderType} {limitRate : ℚ}
    (hfatcrab : IsFatCrab order network role limitRate) :
    ReadsAs order network role limitRate where
  limitRate := hfatcrab.limitRate
  network := fun kind hmem => hfatcrab.network kind (List.mem_append_left _ hmem)
  maker := hfatcrab.maker
  taker := hfatcrab.taker.2

/-- A convertible order that is checked on its taker's side, too, is a fatcrab order. -/
theorem Convertible.isFatCrab (hconvertible : Convertible order network)
    (hchecked : ¬ Unchecked order network) :
    ∃ role limitRate, IsFatCrab order network role limitRate := by
  obtain ⟨limitRate, hrate⟩ := Option.isSome_iff_exists.mp hconvertible.limitRate
  obtain ⟨role, hfound, hmakers, htakers⟩ := hconvertible.role
  have hboth := not_or.mp fun hfails => hchecked ⟨hconvertible, hfails⟩
  obtain ⟨kind, hmem, hrole⟩ := by simpa using hboth.1
  have hnetwork : ∀ kind ∈ order.takerObligation.kinds, OnNetwork network kind := by
    simpa using hboth.2
  obtain ⟨other, hother⟩ := Option.ne_none_iff_exists'.mp hrole
  obtain rfl := htakers kind hmem other hother
  refine ⟨other, limitRate, hrate, ?_, ⟨hfound, hmakers⟩, ⟨kind, hmem, hother⟩, htakers⟩
  exact List.forall_mem_append.mpr ⟨hconvertible.network, hnetwork⟩

theorem Unchecked.not_isFatCrab (hunchecked : Unchecked order network) (role : FatCrabOrderType)
    (limitRate : ℚ) : ¬ IsFatCrab order network role limitRate := by
  intro hfatcrab
  rcases hunchecked.2 with hnone | ⟨kind, hmem, hforeign⟩
  · obtain ⟨kind, hmem, hrole⟩ := hfatcrab.taker.1
    rw [hnone kind hmem] at hrole
    cases hrole
  · exact hforeign (hfatcrab.network kind (List.mem_append_right _ hmem))

/-- For every order and network: exactly the fatcrab orders are accepted and all others are
errors, unless one of the three checks is missing. -/
theorem classified_iff : Classified order network ↔
    ¬ (RateMissing order network ∨ RoleMissing order network ∨ Unchecked order network) := by
  constructor
  · intro hclassified hmissing
    obtain ⟨haccepted, hrefused⟩ := hclassified
    rw [← or_assoc, ← fromN3xbOrder_eq_none_iff] at hmissing
    rcases hmissing with hnone | hunchecked
    · by_cases hfatcrab : ∃ role limitRate, IsFatCrab order network role limitRate
      · obtain ⟨role, limitRate, hfatcrab⟩ := hfatcrab
        cases hnone.symm.trans (haccepted role limitRate hfatcrab)
      · obtain ⟨error, herror⟩ := hrefused fun role limitRate h => hfatcrab ⟨role, limitRate, h⟩
        cases hnone.symm.trans herror
    · obtain ⟨error, herror⟩ := hrefused hunchecked.not_isFatCrab
      obtain ⟨result, hok⟩ := fromN3xbOrder_isOk_iff.mpr hunchecked.1
      cases herror.symm.trans hok
  · intro hmissing
    rw [← or_assoc, ← fromN3xbOrder_eq_none_iff] at hmissing
    obtain ⟨hreturns, hchecked⟩ := not_or.mp hmissing
    refine ⟨fun role limitRate hfatcrab => hfatcrab.readsAs.converts, ?_⟩
    intro hother
    obtain ⟨result, hresult⟩ := Option.ne_none_iff_exists'.mp hreturns
    cases result with
    | error error => exact ⟨error, hresult⟩
    | ok converted =>
        have hconvertible := fromN3xbOrder_isOk_iff.mp ⟨converted, hresult⟩
        obtain ⟨role, limitRate, hfatcrab⟩ := hconvertible.isFatCrab hchecked
        exact absurd hfatcrab (hother role limitRate)

/-- An offer of fatcrabs that names no limit rate and nothing in return. -/
def unpriced : Order :=
  ⟨⟨8⟩, ⟨[.custom "FatCrab"], 10, none⟩, ⟨[], none⟩, .other "exchange"⟩

/-- It is no fatcrab order, and it is not refused. -/
theorem not_classified_unpriced :
    ¬ Classified unpriced .regtest ∧ fromN3xbOrder unpriced .regtest = none := by
  have hnone : fromN3xbOrder unpriced .regtest = none := by decide +kernel
  refine ⟨fun hclassified => ?_, hnone⟩
  obtain ⟨error, herror⟩ := hclassified.2 fun role limitRate hfatcrab => by
    cases hfatcrab.limitRate
  cases hnone.symm.trans herror

end FatCrabOrder

end FatCrabTrading
