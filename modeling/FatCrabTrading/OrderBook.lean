import FatCrabTrading.Sample

/-! # The order book

n3xB returns whatever orders are published. An order converts if its kinds stand for one
role, on this network, and it has a limit rate. A query converts all of them or ends in a
panic, so it answers exactly when every order converts.
-/

namespace FatCrabTrading

namespace FatCrabOrder

/-- What a kind on the maker's side says of the order. -/
def makerRole : ObligationKind → Option FatCrabOrderType
  | .custom string => if string = fatcrabObligationCustomKindString then some .sell else none
  | .bitcoin _ (some .onchain) => some .buy
  | _ => none

/-- What a kind on the taker's side says of the order. -/
def takerRole : ObligationKind → Option FatCrabOrderType
  | .custom string => if string = fatcrabObligationCustomKindString then some .buy else none
  | .bitcoin _ (some .onchain) => some .sell
  | _ => none

/-- A kind that is not of another bitcoin network. -/
def OnNetwork (network : Network) : ObligationKind → Prop
  | .bitcoin n3xbNetwork _ => bitcoinNetworkMatches n3xbNetwork network = true
  | _ => True

/-- The amount of fatcrabs, by the role of the maker. -/
def makerAmount (order : Order) (limitRate : ℚ) : FatCrabOrderType → ℚ
  | .buy => order.makerObligation.amount * limitRate
  | .sell => order.makerObligation.amount

/-- The price in sats, by the role of the maker. -/
def makerPrice (limitRate : ℚ) : FatCrabOrderType → ℚ
  | .buy => 1 / limitRate
  | .sell => limitRate

/-- An order that stands for one role, which the taker's side does not contradict. -/
structure Convertible (order : Order) (network : Network) : Prop where
  limitRate : order.takerObligation.limitRate.isSome
  network : ∀ kind ∈ order.makerObligation.kinds, OnNetwork network kind
  role : ∃ orderType,
    (∃ kind ∈ order.makerObligation.kinds, makerRole kind = some orderType) ∧
    (∀ kind ∈ order.makerObligation.kinds, ∀ role, makerRole kind = some role →
      role = orderType) ∧
    ∀ kind ∈ order.takerObligation.kinds, ∀ role, takerRole kind = some role →
      role = orderType

/-- Between two kinds: what was found so far is agreed on, with its amount and price. -/
structure Settled (order : Order) (scan : OrderScan) : Prop where
  intended : scan.intendedOrderKind = scan.fatcrabOrderKind
  filled : ∀ role, scan.fatcrabOrderKind = some role → ∃ limitRate,
    order.takerObligation.limitRate = some limitRate ∧
      scan.amount = some (makerAmount order limitRate role) ∧
      scan.price = some (makerPrice limitRate role)

section Scan

variable {order : Order} {network : Network} {scan next : OrderScan} {kind : ObligationKind}
  {kinds : List ObligationKind} {role : FatCrabOrderType}

/-! ## The maker's kinds -/

theorem agreeMaker_settled (hsettled : Settled order scan) : agreeMaker scan = .ok scan := by
  obtain ⟨hintended, -⟩ := hsettled
  unfold agreeMaker
  rw [hintended]
  cases scan.fatcrabOrderKind with
  | none => rfl
  | some role => simp

/-- The scan after a kind with a role. -/
def found (order : Order) (limitRate : ℚ) (role : FatCrabOrderType) : OrderScan :=
  ⟨some (makerAmount order limitRate role), some (makerPrice limitRate role), some role, some role⟩

theorem settled_found {limitRate : ℚ} (hrate : order.takerObligation.limitRate = some limitRate) :
    Settled order (found order limitRate role) := by
  refine ⟨rfl, fun other heq => ⟨limitRate, hrate, ?_⟩⟩
  cases heq
  exact ⟨rfl, rfl⟩

theorem agreeMaker_found {amount price : ℚ} :
    agreeMaker ⟨some amount, some price, scan.fatcrabOrderKind, some role⟩ = .ok next ↔
      (scan.fatcrabOrderKind = none ∨ scan.fatcrabOrderKind = some role) ∧
        next = ⟨some amount, some price, some role, some role⟩ := by
  unfold agreeMaker
  cases hkind : scan.fatcrabOrderKind with
  | none => simp [eq_comm]
  | some kind =>
      by_cases hsame : kind = role
      · simp [hsame, eq_comm]
      · simp [hsame]

/-- One turn of the first loop. -/
theorem scanMakerKind_ok_iff (hsettled : Settled order scan) :
    scanMakerKind order network scan kind = some (.ok next) ↔
      OnNetwork network kind ∧ match makerRole kind with
        | none => next = scan
        | some role => ∃ limitRate, order.takerObligation.limitRate = some limitRate ∧
            (scan.fatcrabOrderKind = none ∨ scan.fatcrabOrderKind = some role) ∧
              next = found order limitRate role := by
  have hagree := agreeMaker_settled hsettled
  cases kind with
  | custom string =>
      by_cases hstring : string = fatcrabObligationCustomKindString
      · cases hrate : order.takerObligation.limitRate with
        | none => simp [scanMakerKind, makerRole, hstring, hrate]
        | some limitRate =>
            simp [scanMakerKind, makerRole, OnNetwork, hstring, hrate, agreeMaker_found, found,
              makerAmount, makerPrice]
      · simp [scanMakerKind, makerRole, OnNetwork, hstring, hagree, eq_comm]
  | bitcoin n3xbNetwork settlement =>
      cases hmatches : bitcoinNetworkMatches n3xbNetwork network with
      | false => simp [scanMakerKind, OnNetwork, hmatches]
      | true =>
          rcases settlement with _ | _ | _
          · simp [scanMakerKind, makerRole, OnNetwork, hmatches, hagree, eq_comm]
          · cases hrate : order.takerObligation.limitRate with
            | none => simp [scanMakerKind, makerRole, hmatches, hrate]
            | some limitRate =>
                simp [scanMakerKind, makerRole, OnNetwork, hmatches, hrate, agreeMaker_found,
                  found, makerAmount, makerPrice]
          · simp [scanMakerKind, makerRole, OnNetwork, hmatches, hagree, eq_comm]
  | fiat currency method => simp [scanMakerKind, makerRole, OnNetwork, eq_comm]

theorem scanKinds_cons_ok
    {step : OrderScan → ObligationKind → Option (Except FatCrabError OrderScan)}
    {last : OrderScan} : scanKinds step (kind :: kinds) scan = some (.ok last) ↔
      ∃ next, step scan kind = some (.ok next) ∧ scanKinds step kinds next = some (.ok last) := by
  rw [scanKinds]
  split
  next next hstep => simp [hstep]
  next hnot =>
    constructor
    · intro heq
      exact absurd heq (hnot last)
    · rintro ⟨next, hstep, -⟩
      exact absurd hstep (hnot next)

theorem settled_of_scanMakerKind (hsettled : Settled order scan)
    (hstep : scanMakerKind order network scan kind = some (.ok next)) : Settled order next := by
  obtain ⟨-, hstep⟩ := (scanMakerKind_ok_iff hsettled).mp hstep
  cases hrole : makerRole kind with
  | none =>
      rw [hrole] at hstep
      exact hstep ▸ hsettled
  | some role =>
      rw [hrole] at hstep
      obtain ⟨limitRate, hrate, -, rfl⟩ := hstep
      exact settled_found hrate

/-- A first loop that ends found no other role than the one it ends with. -/
theorem scanMaker_sound (hsettled : Settled order scan)
    (hloop : scanKinds (scanMakerKind order network) kinds scan = some (.ok next)) :
    Settled order next ∧ (∀ kind ∈ kinds, OnNetwork network kind) ∧
      (∀ kind ∈ kinds, ∀ role, makerRole kind = some role → next.fatcrabOrderKind = some role) ∧
      (∀ role, scan.fatcrabOrderKind = some role → next.fatcrabOrderKind = some role) ∧
      ∀ role, next.fatcrabOrderKind = some role →
        scan.fatcrabOrderKind = some role ∨ ∃ kind ∈ kinds, makerRole kind = some role := by
  induction kinds generalizing scan with
  | nil =>
      cases hloop
      exact ⟨hsettled, List.forall_mem_nil _, List.forall_mem_nil _, fun _ h => h,
        fun _ h => .inl h⟩
  | cons kind kinds ih =>
      obtain ⟨middle, hstep, hrest⟩ := scanKinds_cons_ok.mp hloop
      have hmiddle := settled_of_scanMakerKind hsettled hstep
      obtain ⟨hnetwork, hrole⟩ := (scanMakerKind_ok_iff hsettled).mp hstep
      obtain ⟨hlast, honNetwork, hroles, hkept, hfound⟩ := ih hmiddle hrest
      refine ⟨hlast, List.forall_mem_cons.mpr ⟨hnetwork, honNetwork⟩, ?_, ?_, ?_⟩
      · refine List.forall_mem_cons.mpr ⟨fun role heq => ?_, hroles⟩
        rw [heq] at hrole
        obtain ⟨limitRate, -, -, rfl⟩ := hrole
        exact hkept role rfl
      · intro role heq
        apply hkept
        cases hkind : makerRole kind with
        | none =>
            rw [hkind] at hrole
            rw [hrole, heq]
        | some other =>
            rw [hkind] at hrole
            obtain ⟨limitRate, -, hagree, rfl⟩ := hrole
            rw [heq] at hagree
            -- the loop refuses a second role, so this is the first one again
            simpa [found, eq_comm] using hagree
      · intro role heq
        -- found in the rest, or in this kind, or before the loop
        rcases hfound role heq with hbefore | ⟨other, hmem, hother⟩
        · cases hkind : makerRole kind with
          | none =>
              rw [hkind] at hrole
              rw [hrole] at hbefore
              exact .inl hbefore
          | some other =>
              rw [hkind] at hrole
              obtain ⟨limitRate, -, -, rfl⟩ := hrole
              exact .inr ⟨kind, List.mem_cons_self, hkind.trans hbefore⟩
        · exact .inr ⟨other, List.mem_cons_of_mem _ hmem, hother⟩

/-- A first loop over kinds of one role, with a limit rate, ends. -/
theorem scanMaker_complete {limitRate : ℚ}
    (hrate : order.takerObligation.limitRate = some limitRate)
    (hsettled : Settled order scan) (hnetwork : ∀ kind ∈ kinds, OnNetwork network kind)
    (hroles : ∀ kind ∈ kinds, ∀ other, makerRole kind = some other → other = role)
    (hscan : scan.fatcrabOrderKind = none ∨ scan.fatcrabOrderKind = some role) :
    ∃ next, scanKinds (scanMakerKind order network) kinds scan = some (.ok next) := by
  induction kinds generalizing scan with
  | nil => exact ⟨scan, rfl⟩
  | cons kind kinds ih =>
      obtain ⟨hkind, hnetwork⟩ := List.forall_mem_cons.mp hnetwork
      obtain ⟨hrole, hroles⟩ := List.forall_mem_cons.mp hroles
      cases hcase : makerRole kind with
      | none =>
          have hstep : scanMakerKind order network scan kind = some (.ok scan) := by
            rw [scanMakerKind_ok_iff hsettled, hcase]
            exact ⟨hkind, rfl⟩
          obtain ⟨next, hrest⟩ := ih hsettled hnetwork hroles hscan
          exact ⟨next, scanKinds_cons_ok.mpr ⟨scan, hstep, hrest⟩⟩
      | some other =>
          obtain rfl := hrole other hcase
          have hstep : scanMakerKind order network scan kind =
              some (.ok (found order limitRate other)) := by
            rw [scanMakerKind_ok_iff hsettled, hcase]
            exact ⟨hkind, limitRate, hrate, hscan, rfl⟩
          obtain ⟨next, hrest⟩ := ih (settled_found hrate) hnetwork hroles (.inr rfl)
          exact ⟨next, scanKinds_cons_ok.mpr ⟨_, hstep, hrest⟩⟩

/-! ## The taker's kinds -/

/-- One turn of the second loop, once the maker's side has a role. -/
theorem scanTakerKind_ok_iff (hkind : scan.fatcrabOrderKind = some role)
    (hintended : scan.intendedOrderKind = some role) :
    scanTakerKind scan kind = some (.ok next) ↔
      (∀ other, takerRole kind = some other → other = role) ∧ next = scan := by
  obtain ⟨amount, price, fatcrabOrderKind, intendedOrderKind⟩ := scan
  dsimp only at hkind hintended
  subst hkind hintended
  cases kind with
  | custom string =>
      by_cases hstring : string = fatcrabObligationCustomKindString
      · cases role <;> simp [scanTakerKind, agreeTaker, takerRole, hstring, eq_comm]
      · simp [scanTakerKind, agreeTaker, takerRole, hstring, eq_comm]
  | bitcoin n3xbNetwork settlement =>
      match settlement with
      | none => simp [scanTakerKind, agreeTaker, takerRole, eq_comm]
      | some .lightning => simp [scanTakerKind, agreeTaker, takerRole, eq_comm]
      | some .onchain => cases role <;> simp [scanTakerKind, agreeTaker, takerRole, eq_comm]
  | fiat currency method => simp [scanTakerKind, takerRole, eq_comm]

/-- The second loop changes nothing; it ends if no kind contradicts the role. -/
theorem scanTaker_ok_iff (hkind : scan.fatcrabOrderKind = some role)
    (hintended : scan.intendedOrderKind = some role) :
    scanKinds scanTakerKind kinds scan = some (.ok next) ↔
      (∀ kind ∈ kinds, ∀ other, takerRole kind = some other → other = role) ∧ next = scan := by
  induction kinds with
  | nil => simp [scanKinds, eq_comm]
  | cons kind kinds ih =>
      rw [scanKinds_cons_ok]
      constructor
      · rintro ⟨middle, hstep, hrest⟩
        obtain ⟨hrole, rfl⟩ := (scanTakerKind_ok_iff hkind hintended).mp hstep
        obtain ⟨hroles, hnext⟩ := ih.mp hrest
        exact ⟨List.forall_mem_cons.mpr ⟨hrole, hroles⟩, hnext⟩
      · rintro ⟨hroles, hnext⟩
        obtain ⟨hrole, hroles⟩ := List.forall_mem_cons.mp hroles
        exact ⟨scan, (scanTakerKind_ok_iff hkind hintended).mpr ⟨hrole, rfl⟩,
          ih.mpr ⟨hroles, hnext⟩⟩

theorem eq_of_agreeTaker (hagree : agreeTaker scan = some (.ok next)) : next = scan := by
  unfold agreeTaker at hagree
  split at hagree
  next =>
    cases hagree
    rfl
  next => cases hagree
  next =>
    split at hagree
    next => cases hagree
    next =>
      cases hagree
      rfl

/-- The second loop does not write the kind of the order. -/
theorem kind_of_scanTakerKind (hstep : scanTakerKind scan kind = some (.ok next)) :
    next.fatcrabOrderKind = scan.fatcrabOrderKind := by
  cases kind with
  | custom string =>
      by_cases hstring : string = fatcrabObligationCustomKindString
      · rw [scanTakerKind, if_pos hstring] at hstep
        rw [eq_of_agreeTaker hstep]
      · rw [scanTakerKind, if_neg hstring] at hstep
        rw [eq_of_agreeTaker hstep]
  | bitcoin n3xbNetwork settlement =>
      match settlement with
      | none => rw [eq_of_agreeTaker hstep]
      | some .lightning => rw [eq_of_agreeTaker hstep]
      | some .onchain => rw [eq_of_agreeTaker hstep]
  | fiat currency method =>
      cases hstep
      rfl

theorem kind_of_scanTaker (hloop : scanKinds scanTakerKind kinds scan = some (.ok next)) :
    next.fatcrabOrderKind = scan.fatcrabOrderKind := by
  induction kinds generalizing scan with
  | nil =>
      cases hloop
      rfl
  | cons kind kinds ih =>
      obtain ⟨middle, hstep, hrest⟩ := scanKinds_cons_ok.mp hloop
      rw [ih hrest, kind_of_scanTakerKind hstep]

end Scan

/-! ## Whole orders -/

variable {order : Order} {network : Network}

theorem settled_start (order : Order) : Settled order ⟨none, none, none, none⟩ := ⟨rfl, nofun⟩

/-- The result of the two loops. -/
theorem fromN3xbOrder_eq {scan last : OrderScan} {amount price : ℚ} {role : FatCrabOrderType}
    (hmaker : scanKinds (scanMakerKind order network) order.makerObligation.kinds
      ⟨none, none, none, none⟩ = some (.ok scan))
    (htaker : scanKinds scanTakerKind order.takerObligation.kinds scan = some (.ok last))
    (hamount : last.amount = some amount) (hprice : last.price = some price)
    (hkind : last.fatcrabOrderKind = some role) :
    fromN3xbOrder order network = some (.ok ⟨role, order.tradeUuid, amount, price, network⟩) := by
  obtain ⟨_, _, _, _⟩ := last
  dsimp only at hamount hprice hkind
  subst hamount hprice hkind
  unfold fromN3xbOrder
  rw [hmaker]
  dsimp only
  rw [htaker]

theorem loops_of_fromN3xbOrder {result : FatCrabOrder}
    (hfrom : fromN3xbOrder order network = some (.ok result)) :
    ∃ scan last, scanKinds (scanMakerKind order network) order.makerObligation.kinds
        ⟨none, none, none, none⟩ = some (.ok scan) ∧
      scanKinds scanTakerKind order.takerObligation.kinds scan = some (.ok last) ∧
      last.fatcrabOrderKind = some result.orderType := by
  unfold fromN3xbOrder at hfrom
  split at hfrom
  next => cases hfrom
  next => cases hfrom
  next scan hmaker =>
    split at hfrom
    next => cases hfrom
    next => cases hfrom
    next amount price role intended htaker =>
      cases hfrom
      exact ⟨scan, _, hmaker, htaker, rfl⟩
    next => cases hfrom

/-- An order of one role converts, with the amount and the price of its role. -/
theorem fromN3xbOrder_of_role {role : FatCrabOrderType} {limitRate : ℚ}
    (hrate : order.takerObligation.limitRate = some limitRate)
    (hnetwork : ∀ kind ∈ order.makerObligation.kinds, OnNetwork network kind)
    (hfound : ∃ kind ∈ order.makerObligation.kinds, makerRole kind = some role)
    (hmakers : ∀ kind ∈ order.makerObligation.kinds, ∀ other, makerRole kind = some other →
      other = role)
    (htakers : ∀ kind ∈ order.takerObligation.kinds, ∀ other, takerRole kind = some other →
      other = role) :
    fromN3xbOrder order network = some (.ok ⟨role, order.tradeUuid,
      makerAmount order limitRate role, makerPrice limitRate role, network⟩) := by
  obtain ⟨kind, hmem, hrole⟩ := hfound
  obtain ⟨scan, hmaker⟩ := scanMaker_complete hrate (settled_start order) hnetwork hmakers
    (.inl rfl)
  obtain ⟨hsettled, -, hroles, -, -⟩ := scanMaker_sound (settled_start order) hmaker
  have hscan := hroles kind hmem role hrole
  obtain ⟨rate, hsame, hamount, hprice⟩ := hsettled.filled _ hscan
  obtain rfl := Option.some.inj (hrate.symm.trans hsame)
  have htaker := (scanTaker_ok_iff hscan (hsettled.intended.trans hscan)).mpr ⟨htakers, rfl⟩
  exact fromN3xbOrder_eq hmaker htaker hamount hprice hscan

/-- An order converts exactly if it is convertible, by the role of its maker. -/
theorem fromN3xbOrder_isOk_iff :
    (∃ result, fromN3xbOrder order network = some (.ok result)) ↔ Convertible order network := by
  constructor
  · rintro ⟨result, hfrom⟩
    obtain ⟨scan, last, hmaker, htaker, hkind⟩ := loops_of_fromN3xbOrder hfrom
    obtain ⟨hsettled, hnetwork, hroles, -, hfound⟩ := scanMaker_sound (settled_start order) hmaker
    have hscan : scan.fatcrabOrderKind = some result.orderType := by
      rw [← kind_of_scanTaker htaker, hkind]
    have hintended := hsettled.intended.trans hscan
    obtain ⟨hagree, rfl⟩ := (scanTaker_ok_iff hscan hintended).mp htaker
    obtain ⟨limitRate, hrate, -⟩ := hsettled.filled _ hscan
    refine ⟨by rw [hrate]; rfl, hnetwork, result.orderType, ?_, ?_, hagree⟩
    · rcases hfound _ hscan with hnone | hmem
      · cases hnone
      · exact hmem
    · intro kind hmem role hrole
      exact Option.some.inj ((hroles kind hmem role hrole).symm.trans hscan)
  · intro hconvertible
    obtain ⟨hsome, hnetwork, role, hfound, hmakers, htakers⟩ := hconvertible
    obtain ⟨limitRate, hrate⟩ := Option.isSome_iff_exists.mp hsome
    exact ⟨_, fromN3xbOrder_of_role hrate hnetwork hfound hmakers htakers⟩

end FatCrabOrder

/-- `FilterTag`, as far as a query uses it. -/
inductive FilterTag where
  | makerObligations (kinds : List ObligationKind)
  | takerObligations (kinds : List ObligationKind)

namespace FatCrabTrader

/-- What a query asks of n3xB. -/
def filterTags (network : Network) (orderType : Option FatCrabOrderType) : List FilterTag :=
  let fatcrab : ObligationKind := .custom fatcrabObligationCustomKindString
  let bitcoin : ObligationKind := .bitcoin network.n3xbNetwork (some .onchain)
  match orderType with
  | none => []
  | some .buy => [.makerObligations [bitcoin], .takerObligations [fatcrab]]
  | some .sell => [.makerObligations [fatcrab], .takerObligations [bitcoin]]

/-- `query_orders`, with n3xB's as an argument; `none` stands for its panics. -/
def queryOrders (network : Network)
    (n3xbQueryOrders : List FilterTag → Except N3xbError (List OrderEnvelope))
    (orderType : Option FatCrabOrderType) :
    Option (Except FatCrabError (List FatCrabOrderEnvelope)) :=
  match n3xbQueryOrders (filterTags network orderType) with
  | .error error => some (.error (.n3xb error))
  | .ok n3xbOrders => do
      let orders ← n3xbOrders.mapM fun envelope => do
        let order ← FatCrabOrder.fromN3xbOrder envelope.order network
        -- `unwrap`
        let order ← order.toOption
        return (⟨order, envelope.pubkey, envelope⟩ : FatCrabOrderEnvelope)
      return .ok orders

/-- The envelope of an order that converts. -/
def converted (network : Network) (envelope : OrderEnvelope) : Option FatCrabOrderEnvelope :=
  match FatCrabOrder.fromN3xbOrder envelope.order network with
  | some (.ok order) => some ⟨order, envelope.pubkey, envelope⟩
  | _ => none

theorem converted_isSome_iff {network : Network} {envelope : OrderEnvelope} :
    (converted network envelope).isSome ↔ FatCrabOrder.Convertible envelope.order network := by
  rw [← FatCrabOrder.fromN3xbOrder_isOk_iff]
  unfold converted
  split
  next order hfrom => simp [hfrom]
  next hnot => simpa using hnot

/-- Collecting succeeds if every entry does, and then leaves nothing out. -/
theorem mapM_eq_filterMap_iff {α β : Type} {f : α → Option β} {entries : List α} :
    entries.mapM f = some (entries.filterMap f) ↔ ∀ entry ∈ entries, (f entry).isSome := by
  induction entries with
  | nil => simp
  | cons entry entries ih =>
      rw [List.mapM_cons, List.forall_mem_cons, ← ih]
      cases hentry : f entry with
      | none => simp
      | some value =>
          rw [List.filterMap_cons_some hentry]
          cases entries.mapM f with
          | none => simp
          | some values => simp

theorem queryOrders_eq {network : Network}
    {n3xbQueryOrders : List FilterTag → Except N3xbError (List OrderEnvelope)}
    {orderType : Option FatCrabOrderType} {envelopes : List OrderEnvelope}
    (hanswer : n3xbQueryOrders (filterTags network orderType) = .ok envelopes) :
    queryOrders network n3xbQueryOrders orderType =
      (envelopes.mapM (converted network)).map .ok := by
  have hentry : (fun envelope => do
      let order ← FatCrabOrder.fromN3xbOrder envelope.order network
      let order ← order.toOption
      return (⟨order, envelope.pubkey, envelope⟩ : FatCrabOrderEnvelope)) =
        converted network := by
    funext envelope
    unfold converted
    cases FatCrabOrder.fromN3xbOrder envelope.order network with
    | none => rfl
    | some result => cases result <;> rfl
  unfold queryOrders
  rw [hanswer]
  dsimp only
  rw [hentry]
  cases envelopes.mapM (converted network) <;> rfl

/-- A query answers with exactly the orders that convert if and only if all of them do. -/
theorem queryOrders_iff {network : Network}
    {n3xbQueryOrders : List FilterTag → Except N3xbError (List OrderEnvelope)}
    {orderType : Option FatCrabOrderType} {envelopes : List OrderEnvelope}
    (hanswer : n3xbQueryOrders (filterTags network orderType) = .ok envelopes) :
    queryOrders network n3xbQueryOrders orderType =
        some (.ok (envelopes.filterMap (converted network))) ↔
      ∀ envelope ∈ envelopes, FatCrabOrder.Convertible envelope.order network := by
  have hall : (∀ envelope ∈ envelopes, FatCrabOrder.Convertible envelope.order network) ↔
      ∀ envelope ∈ envelopes, (converted network envelope).isSome :=
    forall₂_congr fun _ _ => converted_isSome_iff.symm
  rw [queryOrders_eq hanswer, hall, ← mapM_eq_filterMap_iff]
  cases envelopes.mapM (converted network) with
  | none => simp
  | some orders => simp

/-- A published order for fifty fatcrabs. -/
def published : OrderEnvelope := ⟨"npub1maker", (Sample.order .buy).into⟩

/-- Another maker sells as many. -/
def offered : OrderEnvelope := ⟨"npub1other", (Sample.order .sell).into⟩

/-- Someone else's trade of dollars, without a limit rate. -/
def dollars : OrderEnvelope :=
  ⟨"npub1other", ⟨⟨8⟩, ⟨[.fiat "USD" none], 10, none⟩, ⟨[.fiat "EUR" none], none⟩,
    .other "exchange"⟩⟩

/-- Two orders that convert, and the same with one between them that does not. -/
theorem queryOrders_published :
    ([published, offered].filterMap (converted .regtest)).length = 2 ∧
    (queryOrders .regtest (fun _ => .ok [published, offered]) none =
        some (.ok ([published, offered].filterMap (converted .regtest))) ↔
      ∀ envelope ∈ [published, offered], FatCrabOrder.Convertible envelope.order .regtest) ∧
    (queryOrders .regtest (fun _ => .ok [published, dollars, offered]) (some .buy) =
        some (.ok ([published, dollars, offered].filterMap (converted .regtest))) ↔
      ∀ envelope ∈ [published, dollars, offered],
        FatCrabOrder.Convertible envelope.order .regtest) :=
  ⟨by decide +kernel, queryOrders_iff rfl, queryOrders_iff rfl⟩

/-- One order of another kind hides the others. -/
theorem queryOrders_hidden :
    queryOrders .regtest (fun _ => .ok [published, dollars]) none = none ∧
      [published, dollars].filterMap (converted .regtest) ≠ [] := by
  decide +kernel

end FatCrabTrader

end FatCrabTrading
