import FatCrabTrading.Persist.Restore
import FatCrabTrading.Trader.Funds
import FatCrabTrading.Trader.Payments
import FatCrabTrading.Trader.Shutdown

/-! # The makers that a trader keeps

A trader keeps its makers and their accessors in two maps by the uuid of their trade. A maker
is created first, and a Buy maker allocates its funds then. After that it is inserted, and an
insertion takes the place of whatever was stored under its uuid.
-/

namespace FatCrabTrading

open Effect

section Registry

variable [Bitcoin]

namespace FatCrabMakerActor

def order (self : FatCrabMakerActor) : FatCrabOrder :=
  match self.inner with
  | .buy buy => buy.data.order
  | .sell sell => sell.data.order

/-- The directory and the name of the file that the maker's persister writes. -/
def dataPath (self : FatCrabMakerActor) : TradeStore × FileName :=
  match self.inner with
  | .buy buy => (.makerBuy, .ofTrade buy.data.order.tradeUuid)
  | .sell sell => (.makerSell, .ofTrade sell.data.order.tradeUuid)

/-- The maker has the order, the file and the funds that it had. -/
structure KeepsTrade (before after : FatCrabMakerActor) : Prop where
  order : after.order = before.order
  dataPath : after.dataPath = before.dataPath
  funds : after.funds = before.funds

theorem KeepsTrade.refl (self : FatCrabMakerActor) : self.KeepsTrade self := ⟨rfl, rfl, rfl⟩

theorem tradeUuid_of_dataPath {first second : FatCrabMakerActor}
    (hpath : first.dataPath = second.dataPath) :
    first.order.tradeUuid = second.order.tradeUuid := by
  obtain ⟨inner, uuid, notifTx⟩ := first
  obtain ⟨inner', uuid', notifTx'⟩ := second
  cases inner <;> cases inner' <;> exact FileName.ofTrade_inj (congrArg Prod.snd hpath)

theorem dataPath_of_funds {self : FatCrabMakerActor} (hfunds : self.funds ≠ none) :
    self.dataPath = (.makerBuy, .ofTrade self.order.tradeUuid) := by
  obtain ⟨inner, uuid, notifTx⟩ := self
  cases inner with
  | buy buy => rfl
  | sell sell => exact absurd rfl hfunds

/-- No step changes what the maker trades. -/
theorem keepsTrade_of_step (hround : Bitcoin.RoundTrip) {network : Network}
    {before after : Actor FatCrabMakerActor MakerMsg tradeInterface}
    {action : Action MakerMsg tradeInterface} (hstep : Actor.Step code before action after)
    (hkept : (Agent.maker before).Kept network) : before.store.KeepsTrade after.store := by
  rcases hkept with ⟨terms, -, hholds⟩ | ⟨terms, -, hholds⟩
  · have hafter := hstep.holds (buy_invariant hround terms) (History.always_true _) hholds
    obtain ⟨⟨inner, uuid, notifTx⟩, task, history⟩ := before
    obtain ⟨⟨inner', uuid', notifTx'⟩, task', history'⟩ := after
    obtain ⟨⟨-, hbefore⟩, -⟩ := hholds
    obtain ⟨⟨-, hterms⟩, -⟩ := hafter
    cases inner with
    | sell sell => exact hbefore.elim
    | buy buy =>
        cases inner' with
        | sell sell => exact hterms.elim
        | buy buy' =>
            have hsame : buy'.terms = buy.terms := hterms.1.trans hbefore.1.symm
            have horder : buy'.data.order = buy.data.order := congrArg (·.order) hsame
            have hfunds : buy'.data.btcFundsId = buy.data.btcFundsId :=
              congrArg (·.btcFundsId) hsame
            constructor <;>
              simp [order, dataPath, funds, buy?, FatCrabMakerBuyActor.funds, horder, hfunds]
  · have hafter := hstep.holds (sell_invariant terms) (History.always_true _) hholds
    obtain ⟨⟨inner, uuid, notifTx⟩, task, history⟩ := before
    obtain ⟨⟨inner', uuid', notifTx'⟩, task', history'⟩ := after
    obtain ⟨⟨-, hbefore⟩, -⟩ := hholds
    obtain ⟨⟨-, hterms⟩, -⟩ := hafter
    cases inner with
    | buy buy => exact hbefore.elim
    | sell sell =>
        cases inner' with
        | buy buy => exact hterms.elim
        | sell sell' =>
            have hsame : sell'.terms = sell.terms := hterms.1.trans hbefore.1.symm
            have horder : sell'.data.order = sell.data.order := congrArg (·.order) hsame
            constructor <;> simp [order, dataPath, funds, buy?, horder]

end FatCrabMakerActor

/-! ## A session -/

/-- A trader with the maps of its makers, which hold the slots of their tasks. -/
structure FatCrabTrader where
  tasks : Trader
  makers : UuidMap ℕ
  makerAccessors : UuidMap ℕ

/-- A step of a session that starts no maker. What ended is not started again. -/
inductive Trader.Goes : Trader → Trader → Prop where
  | act {trader slot move next purse} (hstep : (trader.agents slot).Step move next)
      (hrunning : ¬(trader.agents slot).Ended) (hanswers : trader.purse.Answers move purse) :
      Goes trader ⟨purse, Function.update trader.agents slot next⟩
  | newTaker {trader slot orderEnvelope fatcrabRxAddr answers around result}
      (hvacant : trader.agents slot = .vacant) (hfresh : trader.purse.Fresh answers)
      (hresult : trader.createTaker orderEnvelope fatcrabRxAddr answers around = result) :
      Goes trader ⟨result.environment.purse,
        Function.update trader.agents slot (startTaker result.outcome)⟩
  | newWallet {trader slot} (hvacant : trader.agents slot = .vacant) :
      Goes trader ⟨trader.purse, Function.update trader.agents slot (.wallet ⟨(), .idle, []⟩)⟩
  | abandon {trader} :
      Goes trader ⟨{ trader.purse with status := .dead }, trader.agents⟩

theorem Trader.Goes.step {before after : Trader} (hgoes : Goes before after) :
    Trader.Step before after := by
  cases hgoes with
  | act hstep hrunning hanswers => exact .act hstep hanswers
  | newTaker hvacant hfresh hresult => exact .newTaker hvacant hfresh hresult
  | newWallet hvacant => exact .newWallet hvacant
  | abandon => exact .abandon

namespace FatCrabTrader

/-- A session on an empty directory. -/
def new (overflowChecks : Bool) (network : Network) (height : ℕ) : FatCrabTrader :=
  ⟨.new overflowChecks network height, .empty, .empty⟩

/-- `new_buy_maker` and `new_sell_maker`. The maker's task is started, and then both maps are
written, whatever was there. -/
def newMaker (slot : ℕ) (order : FatCrabOrder) (fatcrabRxAddr : Option String)
    (answers : WalletAnswers) (around : Surroundings) (trader : FatCrabTrader) : FatCrabTrader :=
  let result := trader.tasks.createMaker order fatcrabRxAddr answers around
  let tasks : Trader := ⟨result.environment.purse,
    Function.update trader.tasks.agents slot (Trader.startMaker result.outcome)⟩
  match result.outcome with
  | .done (.ok _) => ⟨tasks, trader.makers.insert order.tradeUuid slot,
      trader.makerAccessors.insert order.tradeUuid slot⟩
  | _ => ⟨tasks, trader.makers, trader.makerAccessors⟩

/-- What is asked of a session: a new maker, or anything else. -/
inductive Call where
  | newMaker (slot : ℕ) (order : FatCrabOrder) (fatcrabRxAddr : Option String)
      (answers : WalletAnswers) (around : Surroundings)
  | other

/-- One step of a session. -/
inductive Step : FatCrabTrader → Call → FatCrabTrader → Prop where
  | newMaker {trader slot order fatcrabRxAddr answers around}
      (hvacant : trader.tasks.agents slot = .vacant)
      (hfresh : trader.tasks.purse.Fresh answers) :
      Step trader (.newMaker slot order fatcrabRxAddr answers around)
        (trader.newMaker slot order fatcrabRxAddr answers around)
  | other {trader tasks} (hgoes : trader.tasks.Goes tasks) :
      Step trader .other { trader with tasks := tasks }

/-- A session: any number of steps from an empty directory. -/
def Reachable (trader : FatCrabTrader) : Prop :=
  ∃ overflowChecks network height, Relation.ReflTransGen
    (fun trader next => ∃ call, Step trader call next) (new overflowChecks network height) trader

/-- The maker in a slot has not been shut down. -/
def Live (trader : FatCrabTrader) (slot : ℕ)
    (maker : Actor FatCrabMakerActor MakerMsg tradeInterface) : Prop :=
  trader.tasks.agents slot = .maker maker ∧ maker.task ≠ .ended

/-- The purse holds the allocation of a Buy maker of this trade in a slot. -/
def Allocated (trader : FatCrabTrader) (tradeUuid : Uuid) (slot : ℕ) : Prop :=
  ∃ maker fundsId sats, trader.tasks.agents slot = .maker maker ∧
    maker.store.order.tradeUuid = tradeUuid ∧ maker.store.funds = some (fundsId, sats) ∧
      trader.tasks.purse.lookup fundsId ≠ none

/-- One live maker for each uuid: it is the one in the maps, no other live maker writes its
file, and the purse holds at most one allocation for the uuid of a live Buy maker. -/
structure OneLive (trader : FatCrabTrader) : Prop where
  stored : ∀ slot maker, trader.Live slot maker →
    trader.makers maker.store.order.tradeUuid = some slot ∧
      trader.makerAccessors maker.store.order.tradeUuid = some slot
  files : ∀ first second maker other, trader.Live first maker → trader.Live second other →
    maker.store.dataPath = other.store.dataPath → first = second
  allocations : ∀ slot maker, trader.Live slot maker → maker.store.funds ≠ none →
    ∀ first second, trader.Allocated maker.store.order.tradeUuid first →
      trader.Allocated maker.store.order.tradeUuid second → first = second

/-- The uuid of an order is free: every maker of it was shut down, and if it is a Buy order,
none of them left an allocation behind. -/
structure Free (trader : FatCrabTrader) (order : FatCrabOrder) : Prop where
  shutDown : ∀ slot maker, trader.Live slot maker →
    maker.store.order.tradeUuid ≠ order.tradeUuid
  unfunded : order.orderType = .buy → ∀ slot, ¬trader.Allocated order.tradeUuid slot

/-- The purse grants what a maker of the order needs: the sats of a Buy order, or else an
address to be paid at. -/
def Grants (trader : FatCrabTrader) (order : FatCrabOrder) (fatcrabRxAddr : Option String)
    (answers : WalletAnswers) : Prop :=
  trader.tasks.purse.status = .serving ∧ match order.orderType with
    | .buy => fatcrabRxAddr ≠ none ∧ trader.tasks.purse.grants answers order.sats = some true
    | .sell => ∃ address, answers .getAddress = .ok address

/-- No maker is asked for with a uuid that is not free, unless the purse refuses it. -/
def Permits (trader : FatCrabTrader) : Call → Prop
  | .newMaker _ order fatcrabRxAddr answers _ =>
      trader.Grants order fatcrabRxAddr answers → trader.Free order
  | .other => True

/-! ## One step -/

section Step

variable {trader next : FatCrabTrader} {call : Call} {slot : ℕ}
  {maker : Actor FatCrabMakerActor MakerMsg tradeInterface}

theorem Step.tasks (hstep : Step trader call next) : trader.tasks.Step next.tasks := by
  cases hstep with
  | @newMaker slot order fatcrabRxAddr answers around hvacant hfresh =>
      have htasks : (trader.newMaker slot order fatcrabRxAddr answers around).tasks =
          ⟨(trader.tasks.createMaker order fatcrabRxAddr answers around).environment.purse,
            Function.update trader.tasks.agents slot (Trader.startMaker
              (trader.tasks.createMaker order fatcrabRxAddr answers around).outcome)⟩ := by
        unfold FatCrabTrader.newMaker
        dsimp only
        split <;> rfl
      rw [htasks]
      exact .newMaker hvacant hfresh rfl
  | other hgoes => exact hgoes.step

/-- A maker in this slot was there before, and traded the same. If it is live it was. -/
def Continues (trader next : FatCrabTrader) (slot : ℕ) : Prop :=
  ∀ maker, next.tasks.agents slot = .maker maker → ∃ earlier,
    trader.tasks.agents slot = .maker earlier ∧ earlier.store.KeepsTrade maker.store ∧
      (maker.task ≠ .ended → earlier.task ≠ .ended)

theorem continues_of_eq (hsame : next.tasks.agents slot = trader.tasks.agents slot) :
    trader.Continues next slot := by
  intro maker hmaker
  exact ⟨maker, hsame.symm.trans hmaker, .refl maker.store, fun hlive => hlive⟩

theorem continues_of_not_maker (hnone : ∀ maker, next.tasks.agents slot ≠ .maker maker) :
    trader.Continues next slot :=
  fun maker hmaker => absurd hmaker (hnone maker)

/-- A step of one agent concerns only its own slot. -/
theorem continues_of_update {changed : ℕ} {agent : Agent}
    (hagents : next.tasks.agents = Function.update trader.tasks.agents changed agent)
    (hchanged : trader.Continues next changed) (slot : ℕ) : trader.Continues next slot := by
  rcases eq_or_ne slot changed with rfl | hother
  · exact hchanged
  · apply continues_of_eq
    rw [hagents]
    exact Function.update_of_ne hother _ _

theorem Continues.live (hcontinues : trader.Continues next slot) (hlive : next.Live slot maker) :
    ∃ earlier, trader.Live slot earlier ∧ earlier.store.KeepsTrade maker.store := by
  obtain ⟨earlier, hbefore, hkeeps, htask⟩ := hcontinues maker hlive.1
  exact ⟨earlier, ⟨hbefore, htask hlive.2⟩, hkeeps⟩

/-- What the purse no longer holds, it does not come to hold again. -/
theorem Continues.allocated (hround : Bitcoin.RoundTrip) (hconsistent : trader.tasks.Consistent)
    (hstep : Step trader call next) (hcontinues : trader.Continues next slot) {tradeUuid : Uuid}
    (hallocated : next.Allocated tradeUuid slot) : trader.Allocated tradeUuid slot := by
  obtain ⟨maker, fundsId, sats, hmaker, huuid, hfunds, hheld⟩ := hallocated
  obtain ⟨earlier, hbefore, hkeeps, -⟩ := hcontinues maker hmaker
  have hfundsBefore : earlier.store.funds = some (fundsId, sats) := hkeeps.funds.symm.trans hfunds
  refine ⟨earlier, fundsId, sats, hbefore, hkeeps.order ▸ huuid, hfundsBefore, ?_⟩
  intro hnone
  have howns : (trader.tasks.agents slot).Owns fundsId sats := by
    apply Agent.owns_of_funds
    rw [hbefore]
    exact hfundsBefore
  have hgone : Trader.Gone fundsId trader.tasks.purse :=
    ⟨⟨sats, hconsistent.granted slot fundsId sats howns⟩, hnone⟩
  have hafter := hconsistent.step hround hstep.tasks
  exact hheld (hgone.extend hconsistent.sound hafter.sound
    (hstep.tasks.extends_purse hround hconsistent)).2

end Step

end FatCrabTrader

/-- No step but a creation starts a maker. -/
theorem Trader.Goes.continues (hround : Bitcoin.RoundTrip) {trader : FatCrabTrader}
    (hconsistent : trader.tasks.Consistent) {tasks : Trader} (hgoes : trader.tasks.Goes tasks)
    (slot : ℕ) : trader.Continues { trader with tasks := tasks } slot := by
  cases hgoes with
  | @act changed move agent purse hstep hrunning hanswers =>
      apply FatCrabTrader.continues_of_update rfl
      intro maker hmaker
      dsimp only at hmaker
      rw [Function.update_self] at hmaker
      subst hmaker
      have hkept := hconsistent.kept changed
      generalize trader.tasks.agents changed = before at hstep hrunning hkept
      cases hstep with
      | @maker earlier _ _ hstep =>
          exact ⟨earlier, rfl, FatCrabMakerActor.keepsTrade_of_step hround hstep hkept,
            fun _ => hrunning⟩
  | @newTaker changed orderEnvelope fatcrabRxAddr answers around result hvacant hfresh hresult =>
      apply FatCrabTrader.continues_of_update rfl
      apply FatCrabTrader.continues_of_not_maker
      intro maker
      dsimp only
      rw [Function.update_self]
      rcases result.outcome with (error | taker) | _ <;> nofun
  | @newWallet changed hvacant =>
      apply FatCrabTrader.continues_of_update rfl
      apply FatCrabTrader.continues_of_not_maker
      intro maker
      dsimp only
      rw [Function.update_self]
      nofun
  | abandon => exact FatCrabTrader.continues_of_eq rfl

/-! ## A creation -/

namespace FatCrabTrader

section Creation

variable {order : FatCrabOrder} {fatcrabRxAddr : Option String} {answers : WalletAnswers}
  {around : Surroundings} {trader next : FatCrabTrader} {call : Call} {slot : ℕ}
  {created : FatCrabMakerActor}

/-- What a maker was created for, and where its funds come from. -/
theorem order_of_created {tasks : Trader}
    (hcreated :
      (tasks.createMaker order fatcrabRxAddr answers around).outcome = .done (.ok created)) :
    created.order = order ∧
      ((order.orderType = .sell ∧ created.funds = none) ∨
        order.orderType = .buy ∧ ∃ fundsId, created.funds = some (fundsId, order.sats) ∧
          tasks.purse.serve answers (.allocateFunds order.sats) = (some (.ok fundsId),
            (tasks.createMaker order fatcrabRxAddr answers around).environment.purse)) := by
  cases @Trader.makerCreation _ tasks order fatcrabRxAddr answers around with
  | unasked hfailed _ | refused _ _ hfailed _ => exact absurd hcreated (hfailed created)
  | @buy address fundsId after htype hserve hmaker hpurse =>
      cases hmaker.symm.trans hcreated
      rw [hpurse]
      exact ⟨rfl, .inr ⟨htype, fundsId, rfl, hserve⟩⟩
  | sell htype hserve hmaker _ =>
      cases hmaker.symm.trans hcreated
      exact ⟨rfl, .inl ⟨htype, rfl⟩⟩

theorem serve_getRxAddress {purse : Purse} (hserving : purse.status = .serving) :
    (purse.serve answers .getRxAddress).1 =
      some ((answers .getAddress).mapError FatCrabError.bdk) := by
  rw [Purse.serve_of_serving hserving]
  cases haddress : answers .getAddress <;>
    simp [PurseActor.handle, PurseActor.getRxAddress, haddress, Purse.settle, Except.mapError]

/-- A maker is created if, and only if, the purse grants what it needs. -/
theorem created_iff :
    (∃ created, (trader.tasks.createMaker order fatcrabRxAddr answers around).outcome =
      .done (.ok created)) ↔ trader.Grants order fatcrabRxAddr answers := by
  unfold Grants
  cases htype : order.orderType with
  | buy =>
      cases fatcrabRxAddr with
      | none => simp [Trader.createMaker, FatCrabMakerActor.new, htype]
      | some address =>
          by_cases hserving : trader.tasks.purse.status = .serving
          · rcases hgrants : trader.tasks.purse.grants answers order.sats with _ | _ | _ <;>
              simp [Trader.createMaker, FatCrabMakerActor.new, FatCrabMakerBuyActor.new, htype,
                Purse.serve_allocateFunds hserving, hserving, hgrants]
          · simp [Trader.createMaker, FatCrabMakerActor.new, FatCrabMakerBuyActor.new, htype,
              Purse.serve_of_not_serving hserving, hserving]
  | sell =>
      by_cases hserving : trader.tasks.purse.status = .serving
      · have hreply := @serve_getRxAddress _ answers _ hserving
        rcases hserve : trader.tasks.purse.serve answers .getRxAddress with ⟨reply, after⟩
        rw [hserve] at hreply
        obtain rfl := hreply
        cases haddress : answers .getAddress <;>
          simp [Trader.createMaker, FatCrabMakerActor.new, FatCrabMakerSellActor.new, htype,
            hserve, hserving, haddress, Except.mapError]
      · simp [Trader.createMaker, FatCrabMakerActor.new, FatCrabMakerSellActor.new, htype,
          Purse.serve_of_not_serving hserving, hserving]

/-- A grant leaves the other allocations where they are. -/
theorem lookup_of_granted {purse after : Purse} {sats : ℕ} {fundsId : Uuid}
    (hserve : purse.serve answers (.allocateFunds sats) = (some (.ok fundsId), after))
    (other : Uuid) :
    after.lookup other = if other = fundsId then some sats else purse.lookup other := by
  by_cases hserving : purse.status = .serving
  · rw [Purse.serve_allocateFunds hserving] at hserve
    split at hserve
    · cases hserve
    · cases hserve
    · cases hserve
      exact Purse.lookup_allocate ..
  · rw [Purse.serve_of_not_serving hserving] at hserve
    cases hserve

/-- A step that starts a maker in a slot. -/
structure Begins (trader next : FatCrabTrader) (slot : ℕ) (created : FatCrabMakerActor) :
    Prop where
  vacant : trader.tasks.agents slot = .vacant
  started : next.tasks.agents slot = .maker (.launch FatCrabMakerActor.code created)
  others : ∀ other ≠ slot, next.tasks.agents other = trader.tasks.agents other
  makers : next.makers = trader.makers.insert created.order.tradeUuid slot
  makerAccessors : next.makerAccessors = trader.makerAccessors.insert created.order.tradeUuid slot
  isBuy : created.funds ≠ none → created.order.orderType = .buy
  allocated : created.order.orderType = .buy → next.Allocated created.order.tradeUuid slot
  held : created.order.orderType = .buy → ∀ fundsId,
    trader.tasks.purse.lookup fundsId ≠ none → next.tasks.purse.lookup fundsId ≠ none

theorem begins_newMaker (hvacant : trader.tasks.agents slot = .vacant)
    (hcreated : (trader.tasks.createMaker order fatcrabRxAddr answers around).outcome =
      .done (.ok created)) :
    trader.Begins (trader.newMaker slot order fatcrabRxAddr answers around) slot created := by
  have hnext : trader.newMaker slot order fatcrabRxAddr answers around =
      ⟨⟨(trader.tasks.createMaker order fatcrabRxAddr answers around).environment.purse,
        Function.update trader.tasks.agents slot
          (.maker (.launch FatCrabMakerActor.code created))⟩,
        trader.makers.insert created.order.tradeUuid slot,
        trader.makerAccessors.insert created.order.tradeUuid slot⟩ := by
    simp only [FatCrabTrader.newMaker, hcreated, Trader.startMaker, (order_of_created hcreated).1]
  obtain ⟨horder, hfunds⟩ := order_of_created hcreated
  rw [hnext]
  constructor
  · exact hvacant
  · exact Function.update_self ..
  · intro other hother
    exact Function.update_of_ne hother ..
  · rfl
  · rfl
  · intro hsome
    rcases hfunds with ⟨-, hnone⟩ | ⟨hbuy, -⟩
    · exact absurd hnone hsome
    · rw [horder]
      exact hbuy
  · intro hbuy
    rcases hfunds with ⟨hsell, -⟩ | ⟨-, fundsId, hfunds, hserve⟩
    · rw [horder, hsell] at hbuy
      cases hbuy
    · refine ⟨_, fundsId, order.sats, Function.update_self .., rfl, hfunds, ?_⟩
      dsimp only
      rw [lookup_of_granted hserve, if_pos rfl]
      nofun
  · intro hbuy fundsId hheld
    rcases hfunds with ⟨hsell, -⟩ | ⟨-, granted, -, hserve⟩
    · rw [horder, hsell] at hbuy
      cases hbuy
    · dsimp only
      rw [lookup_of_granted hserve]
      split
      · nofun
      · exact hheld

/-- A step starts one maker, or none and leaves the maps. -/
theorem Step.begins_or_continues (hround : Bitcoin.RoundTrip)
    (hconsistent : trader.tasks.Consistent) (hstep : Step trader call next) :
    (∃ slot created, trader.Begins next slot created ∧
      (trader.Permits call ↔ trader.Free created.order)) ∨
      trader.Permits call ∧ (∀ slot, trader.Continues next slot) ∧
        next.makers = trader.makers ∧ next.makerAccessors = trader.makerAccessors := by
  cases hstep with
  | other hgoes => exact .inr ⟨trivial, hgoes.continues hround hconsistent, rfl, rfl⟩
  | @newMaker slot order fatcrabRxAddr answers around hvacant hfresh =>
      rcases hcreated : (trader.tasks.createMaker order fatcrabRxAddr answers around).outcome with
        (error | created) | _
      case done.ok =>
        refine .inl ⟨slot, created, begins_newMaker hvacant hcreated, ?_⟩
        rw [(order_of_created hcreated).1]
        exact ⟨fun hpermits => hpermits (created_iff.mp ⟨created, hcreated⟩), fun hfree _ => hfree⟩
      all_goals
        refine .inr ⟨fun hgrants => ?_, fun other => ?_, ?_, ?_⟩
        · obtain ⟨created, hcreated'⟩ := (@created_iff _ _ _ _ around _).mpr hgrants
          rw [hcreated] at hcreated'
          cases hcreated'
        all_goals simp only [FatCrabTrader.newMaker, hcreated]
        apply continues_of_update rfl
        apply continues_of_not_maker
        simp [Trader.startMaker]

end Creation

/-! ## One live maker -/

section OneLive

variable {trader next : FatCrabTrader} {call : Call} {slot : ℕ} {created : FatCrabMakerActor}

theorem OneLive.of_continues (hround : Bitcoin.RoundTrip) (hconsistent : trader.tasks.Consistent)
    (hstep : Step trader call next) (hone : trader.OneLive)
    (hcontinues : ∀ slot, trader.Continues next slot) (hmakers : next.makers = trader.makers)
    (haccessors : next.makerAccessors = trader.makerAccessors) : next.OneLive := by
  constructor
  · intro slot maker hlive
    obtain ⟨earlier, hbefore, hkeeps⟩ := (hcontinues slot).live hlive
    rw [hmakers, haccessors, hkeeps.order]
    exact hone.stored slot earlier hbefore
  · intro first second maker other hfirst hsecond hpath
    obtain ⟨earlier, hbefore, hkeeps⟩ := (hcontinues first).live hfirst
    obtain ⟨earlier', hbefore', hkeeps'⟩ := (hcontinues second).live hsecond
    apply hone.files first second earlier earlier' hbefore hbefore'
    rw [← hkeeps.dataPath, ← hkeeps'.dataPath]
    exact hpath
  · intro slot maker hlive hfunds first second hfirst hsecond
    obtain ⟨earlier, hbefore, hkeeps⟩ := (hcontinues slot).live hlive
    rw [hkeeps.order] at hfirst hsecond
    rw [hkeeps.funds] at hfunds
    exact hone.allocations slot earlier hbefore hfunds first second
      ((hcontinues first).allocated hround hconsistent hstep hfirst)
      ((hcontinues second).allocated hround hconsistent hstep hsecond)

namespace Begins

variable {maker : Actor FatCrabMakerActor MakerMsg tradeInterface}

theorem live (hbegins : trader.Begins next slot created) :
    next.Live slot (.launch FatCrabMakerActor.code created) :=
  ⟨hbegins.started, nofun⟩

theorem eq_launch (hbegins : trader.Begins next slot created) (hlive : next.Live slot maker) :
    maker = .launch FatCrabMakerActor.code created := by
  have heq := hlive.1.symm.trans hbegins.started
  cases heq
  rfl

theorem live_iff (hbegins : trader.Begins next slot created) {other : ℕ} (hother : other ≠ slot) :
    next.Live other maker ↔ trader.Live other maker := by
  unfold Live
  rw [hbegins.others other hother]

theorem ne_slot (hbegins : trader.Begins next slot created) {other : ℕ}
    (hlive : trader.Live other maker) : other ≠ slot := by
  rintro rfl
  have heq := hlive.1.symm.trans hbegins.vacant
  cases heq

/-- An allocation of the uuid of the new maker is its own, or it was there before. -/
theorem eq_or_allocated (hround : Bitcoin.RoundTrip) (hconsistent : trader.tasks.Consistent)
    (hstep : Step trader call next) (hbegins : trader.Begins next slot created) {tradeUuid : Uuid}
    {other : ℕ} (hallocated : next.Allocated tradeUuid other) :
    (other = slot ∧ tradeUuid = created.order.tradeUuid) ∨ trader.Allocated tradeUuid other := by
  rcases eq_or_ne other slot with rfl | hother
  · obtain ⟨maker, fundsId, sats, hmaker, rfl, hfunds, hheld⟩ := hallocated
    have heq := hmaker.symm.trans hbegins.started
    cases heq
    exact .inl ⟨rfl, rfl⟩
  · exact .inr ((continues_of_eq (hbegins.others other hother)).allocated hround hconsistent hstep
      hallocated)

theorem allocated_of_allocated (hbegins : trader.Begins next slot created)
    (hbuy : created.order.orderType = .buy) {tradeUuid : Uuid} {other : ℕ}
    (hallocated : trader.Allocated tradeUuid other) :
    other ≠ slot ∧ next.Allocated tradeUuid other := by
  obtain ⟨maker, fundsId, sats, hmaker, huuid, hfunds, hheld⟩ := hallocated
  have hother : other ≠ slot := by
    rintro rfl
    have heq := hmaker.symm.trans hbegins.vacant
    cases heq
  refine ⟨hother, maker, fundsId, sats, ?_, huuid, hfunds, hbegins.held hbuy fundsId hheld⟩
  rw [hbegins.others other hother]
  exact hmaker

theorem order_of_live (hbegins : trader.Begins next slot created) (hlive : next.Live slot maker) :
    maker.store.order = created.order := by
  rw [hbegins.eq_launch hlive]
  rfl

theorem tradeUuid_ne (hbegins : trader.Begins next slot created)
    (hfree : trader.Free created.order) {other : ℕ} (hother : other ≠ slot)
    (hlive : next.Live other maker) : maker.store.order.tradeUuid ≠ created.order.tradeUuid :=
  hfree.shutDown other maker ((hbegins.live_iff hother).mp hlive)

theorem stored_of_free (hbegins : trader.Begins next slot created) (hone : trader.OneLive)
    (hfree : trader.Free created.order) {other : ℕ} (hlive : next.Live other maker) :
    next.makers maker.store.order.tradeUuid = some other ∧
      next.makerAccessors maker.store.order.tradeUuid = some other := by
  rw [hbegins.makers, hbegins.makerAccessors]
  unfold UuidMap.insert
  rcases eq_or_ne other slot with rfl | hother
  · rw [hbegins.order_of_live hlive, Function.update_self, Function.update_self]
    exact ⟨rfl, rfl⟩
  · have hne := hbegins.tradeUuid_ne hfree hother hlive
    rw [Function.update_of_ne hne, Function.update_of_ne hne]
    exact hone.stored other maker ((hbegins.live_iff hother).mp hlive)

/-- The allocations of a maker that was there before are those that it had. -/
theorem allocated_of_ne (hround : Bitcoin.RoundTrip) (hconsistent : trader.tasks.Consistent)
    (hstep : Step trader call next) (hbegins : trader.Begins next slot created)
    {tradeUuid : Uuid} (hne : tradeUuid ≠ created.order.tradeUuid) {other : ℕ}
    (hallocated : next.Allocated tradeUuid other) : trader.Allocated tradeUuid other := by
  rcases hbegins.eq_or_allocated hround hconsistent hstep hallocated with ⟨-, heq⟩ | hbefore
  · exact absurd heq hne
  · exact hbefore

/-- The new maker has the only allocation for its uuid. -/
theorem eq_slot_of_allocated (hround : Bitcoin.RoundTrip)
    (hconsistent : trader.tasks.Consistent) (hstep : Step trader call next)
    (hbegins : trader.Begins next slot created) (hfree : trader.Free created.order)
    (hbuy : created.order.orderType = .buy) {other : ℕ}
    (hallocated : next.Allocated created.order.tradeUuid other) : other = slot := by
  rcases hbegins.eq_or_allocated hround hconsistent hstep hallocated with ⟨heq, -⟩ | hbefore
  · exact heq
  · exact absurd hbefore (hfree.unfunded hbuy other)

theorem oneLive_of_free (hround : Bitcoin.RoundTrip) (hconsistent : trader.tasks.Consistent)
    (hstep : Step trader call next) (hbegins : trader.Begins next slot created)
    (hone : trader.OneLive) (hfree : trader.Free created.order) : next.OneLive := by
  have hstored := fun slot maker => @stored_of_free _ _ _ _ _ maker hbegins hone hfree slot
  constructor
  · exact hstored
  · intro first second maker other hfirst hsecond hpath
    have hslot := (hstored first maker hfirst).1
    rw [FatCrabMakerActor.tradeUuid_of_dataPath hpath] at hslot
    exact Option.some.inj (hslot.symm.trans (hstored second other hsecond).1)
  · intro other maker hlive hfunds first second hfirst hsecond
    rcases eq_or_ne other slot with rfl | hother
    · rw [hbegins.eq_launch hlive] at hfunds
      rw [hbegins.order_of_live hlive] at hfirst hsecond
      have hown := fun slot => @eq_slot_of_allocated _ _ _ _ _ _ hround hconsistent hstep hbegins
        hfree (hbegins.isBuy hfunds) slot
      rw [hown first hfirst, hown second hsecond]
    · have hne := hbegins.tradeUuid_ne hfree hother hlive
      exact hone.allocations other maker ((hbegins.live_iff hother).mp hlive) hfunds first second
        (hbegins.allocated_of_ne hround hconsistent hstep hne hfirst)
        (hbegins.allocated_of_ne hround hconsistent hstep hne hsecond)

theorem free_of_oneLive (hbegins : trader.Begins next slot created) (hone : next.OneLive) :
    trader.Free created.order := by
  have hstored := (hone.stored slot _ hbegins.live).1
  constructor
  · intro other maker hlive huuid
    have hother := hbegins.ne_slot hlive
    have hstored' := (hone.stored other maker ((hbegins.live_iff hother).mpr hlive)).1
    rw [huuid] at hstored'
    exact hother (Option.some.inj (hstored'.symm.trans hstored))
  · intro hbuy other hallocated
    obtain ⟨hother, hafter⟩ := hbegins.allocated_of_allocated hbuy hallocated
    obtain ⟨maker, fundsId, sats, hmaker, huuid, hfunds, hheld⟩ := hbegins.allocated hbuy
    have heq := hmaker.symm.trans hbegins.started
    cases heq
    refine hother (hone.allocations slot _ hbegins.live ?_ other slot hafter
      (hbegins.allocated hbuy))
    rw [hfunds]
    nofun

end Begins

/-- A step keeps one live maker for each uuid if, and only if, it starts none for a uuid that
is not free. -/
theorem OneLive.step_iff (hround : Bitcoin.RoundTrip) (hconsistent : trader.tasks.Consistent)
    (hone : trader.OneLive) (hstep : Step trader call next) :
    next.OneLive ↔ trader.Permits call := by
  rcases hstep.begins_or_continues hround hconsistent with
    ⟨slot, created, hbegins, hpermits⟩ | ⟨hpermits, hcontinues, hmakers, haccessors⟩
  · rw [hpermits]
    exact ⟨hbegins.free_of_oneLive, hbegins.oneLive_of_free hround hconsistent hstep hone⟩
  · exact ⟨fun _ => hpermits,
      fun _ => hone.of_continues hround hconsistent hstep hcontinues hmakers haccessors⟩

section New

variable (overflowChecks : Bool) (network : Network) (height : ℕ)

theorem not_live_new (slot : ℕ) (maker : Actor FatCrabMakerActor MakerMsg tradeInterface) :
    ¬(new overflowChecks network height).Live slot maker := by
  intro hlive
  cases hlive.1

theorem oneLive_new : (new overflowChecks network height).OneLive :=
  ⟨fun slot maker hlive => absurd hlive (not_live_new _ _ _ slot maker),
    fun first _ maker _ hlive => absurd hlive (not_live_new _ _ _ first maker),
    fun slot maker hlive => absurd hlive (not_live_new _ _ _ slot maker)⟩

/-- No uuid is taken on an empty directory. -/
theorem free_new (order : FatCrabOrder) : (new overflowChecks network height).Free order := by
  constructor
  · intro slot maker hlive
    exact absurd hlive (not_live_new _ _ _ slot maker)
  · intro _ slot hallocated
    obtain ⟨maker, _, _, hmaker, -⟩ := hallocated
    cases hmaker

end New

/-- The slots that `shutdown` tells and joins, one for each entry of the map. -/
def Visits (trades : Role → List ℕ) (trader : FatCrabTrader) : Prop :=
  ∀ slot, slot ∈ trades .maker ↔ ∃ tradeUuid, trader.makers tradeUuid = some slot

/-- No live maker is passed over. -/
theorem OneLive.mem_trades {trades : Role → List ℕ} (hone : trader.OneLive)
    (hvisits : trader.Visits trades) {maker : Actor FatCrabMakerActor MakerMsg tradeInterface}
    (hlive : trader.Live slot maker) : slot ∈ trades .maker :=
  (hvisits slot).mpr ⟨_, (hone.stored slot maker hlive).1⟩

/-- A session in which no maker is started for a uuid that is not free. -/
def Careful (trader : FatCrabTrader) : Prop :=
  ∃ overflowChecks network height, Relation.ReflTransGen
    (fun trader next => ∃ call, Step trader call next ∧ trader.Permits call)
    (new overflowChecks network height) trader

/-- In such a session there is always one live maker for each uuid, and the next step keeps it
so if, and only if, it starts none for a uuid that is not free. -/
theorem one_live_per_uuid (hround : Bitcoin.RoundTrip) (hcareful : trader.Careful) :
    trader.OneLive ∧
      ∀ call next, Step trader call next → (next.OneLive ↔ trader.Permits call) := by
  obtain ⟨overflowChecks, network, height, hrun⟩ := hcareful
  have hheld : trader.OneLive ∧ trader.tasks.Consistent := by
    induction hrun with
    | refl => exact ⟨oneLive_new .., Trader.consistent_new overflowChecks network height⟩
    | tail _ hnext ih =>
        obtain ⟨hone, hconsistent⟩ := ih
        obtain ⟨call, hstep, hpermits⟩ := hnext
        exact ⟨(hone.step_iff hround hconsistent hstep).mpr hpermits,
          hconsistent.step hround hstep.tasks⟩
  obtain ⟨hone, hconsistent⟩ := hheld
  exact ⟨hone, fun call next hstep => hone.step_iff hround hconsistent hstep⟩

end OneLive

end FatCrabTrader

end Registry

section Sample

open scoped Sample

/-- A Buy maker is asked for, with a uuid that is free. -/
def Sample.firstMaker : FatCrabTrader :=
  (FatCrabTrader.new true .regtest 100).newMaker 0 (Sample.order .buy) (some "npub1maker")
    (Sample.wallet ⟨1⟩) Sample.surroundings

/-- And another one for the same order. -/
def Sample.secondMaker : FatCrabTrader :=
  Sample.firstMaker.newMaker 1 (Sample.order .buy) (some "npub1maker") (Sample.wallet ⟨2⟩)
    Sample.surroundings

theorem FatCrabTrader.one_live_per_uuid_firstMaker :
    Sample.firstMaker.Careful ∧ Sample.firstMaker.OneLive ∧ ∀ call next,
      Sample.firstMaker.Step call next → (next.OneLive ↔ Sample.firstMaker.Permits call) := by
  have hcareful : Sample.firstMaker.Careful :=
    ⟨true, .regtest, 100, .single ⟨_, .newMaker rfl (by decide +kernel),
      fun _ => FatCrabTrader.free_new ..⟩⟩
  exact ⟨hcareful, FatCrabTrader.one_live_per_uuid Sample.roundTrip hcareful⟩

/-- A purse with fifty sats left grants them to a Buy maker. -/
theorem Sample.begins_buyMaker {trader : FatCrabTrader} {slot : ℕ} {fundsId : Uuid}
    (hvacant : trader.tasks.agents slot = .vacant)
    (hserving : trader.tasks.purse.status = .serving)
    (hgrants : trader.tasks.purse.grants (Sample.wallet fundsId) (Sample.order .buy).sats =
      some true) :
    ∃ created, trader.Begins (trader.newMaker slot (Sample.order .buy) (some "npub1maker")
        (Sample.wallet fundsId) Sample.surroundings) slot created ∧
      created.order = Sample.order .buy ∧ created.dataPath = (.makerBuy, .ofTrade ⟨7⟩) := by
  obtain ⟨created, hcreated⟩ := (@FatCrabTrader.created_iff _ (Sample.order .buy)
    (some "npub1maker") (Sample.wallet fundsId) Sample.surroundings trader).mpr
      ⟨hserving, nofun, hgrants⟩
  refine ⟨created, FatCrabTrader.begins_newMaker hvacant hcreated, ?_⟩
  obtain ⟨horder, ⟨hsell, -⟩ | ⟨-, granted, hfunds, -⟩⟩ := FatCrabTrader.order_of_created hcreated
  · cases hsell
  · refine ⟨horder, ?_⟩
    rw [FatCrabMakerActor.dataPath_of_funds (by rw [hfunds]; nofun), horder]
    rfl

/-- The second maker takes the place of the first in both maps. Both write one file, and the
purse holds an allocation for each. -/
theorem displaced_by_second_maker :
    Sample.secondMaker.Reachable ∧
      (∃ first second, Sample.secondMaker.Live 0 first ∧ Sample.secondMaker.Live 1 second ∧
        first.store.order.tradeUuid = ⟨7⟩ ∧ second.store.order.tradeUuid = ⟨7⟩ ∧
        first.store.dataPath = second.store.dataPath) ∧
      Sample.secondMaker.makers ⟨7⟩ = some 1 ∧ Sample.secondMaker.makerAccessors ⟨7⟩ = some 1 ∧
      Sample.secondMaker.Allocated ⟨7⟩ 0 ∧ Sample.secondMaker.Allocated ⟨7⟩ 1 ∧
      ¬Sample.secondMaker.OneLive := by
  obtain ⟨first, hfirst, horder, hpath⟩ : ∃ created,
      (FatCrabTrader.new true .regtest 100).Begins Sample.firstMaker 0 created ∧
        created.order = Sample.order .buy ∧ created.dataPath = (.makerBuy, .ofTrade ⟨7⟩) :=
    Sample.begins_buyMaker rfl rfl (by decide +kernel)
  have hvacant : Sample.firstMaker.tasks.agents 1 = .vacant := hfirst.others 1 one_ne_zero
  obtain ⟨second, hsecond, horder', hpath'⟩ : ∃ created,
      Sample.firstMaker.Begins Sample.secondMaker 1 created ∧
        created.order = Sample.order .buy ∧ created.dataPath = (.makerBuy, .ofTrade ⟨7⟩) :=
    Sample.begins_buyMaker hvacant (by decide +kernel) (by decide +kernel)
  have huuid : first.order.tradeUuid = ⟨7⟩ := congrArg (·.tradeUuid) horder
  have huuid' : second.order.tradeUuid = ⟨7⟩ := congrArg (·.tradeUuid) horder'
  have hbuy : first.order.orderType = .buy := congrArg (·.orderType) horder
  have hbuy' : second.order.orderType = .buy := congrArg (·.orderType) horder'
  have hmakers : Sample.secondMaker.makers ⟨7⟩ = some 1 := by
    rw [hsecond.makers, huuid']
    exact Function.update_self ..
  have haccessors : Sample.secondMaker.makerAccessors ⟨7⟩ = some 1 := by
    rw [hsecond.makerAccessors, huuid']
    exact Function.update_self ..
  have hlive := (hsecond.live_iff zero_ne_one).mpr hfirst.live
  refine ⟨⟨true, .regtest, 100, .tail (.single ⟨_, .newMaker rfl (by decide +kernel)⟩)
      ⟨_, .newMaker hvacant (by decide +kernel)⟩⟩,
    ⟨_, _, hlive, hsecond.live, huuid, huuid', hpath.trans hpath'.symm⟩, hmakers, haccessors,
    (hsecond.allocated_of_allocated hbuy' (huuid ▸ hfirst.allocated hbuy)).2,
    huuid' ▸ hsecond.allocated hbuy', ?_⟩
  intro hone
  have hstored : Sample.secondMaker.makers first.order.tradeUuid = some 0 :=
    (hone.stored 0 _ hlive).1
  rw [huuid, hmakers] at hstored
  cases hstored

end Sample

end FatCrabTrading
