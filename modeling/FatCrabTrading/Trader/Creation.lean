import FatCrabTrading.Persist.Sessions
import FatCrabTrading.Trader.Registry

/-! # The creation of a trade

A new trade is registered with n3xB first. Then its maker or taker is created, for which a
Buy maker and a Sell taker ask the purse for their sats. The data, the task and the entries
of the maps come last. If the purse refuses, the creation ends in between.
-/

namespace FatCrabTrading

open Effect

/-- What n3xB hands out for a maker or a taker, told apart by its channel. -/
structure N3xbAccess where
  channel : ℕ
  deriving DecidableEq

/-- n3xB's manager, as far as a trader calls it. -/
structure N3xb (Manager : Type) where
  newMaker : Order → Manager → N3xbAccess × Manager
  newTaker : OrderEnvelope → Offer → Manager → Except N3xbError N3xbAccess × Manager
  getMakers : Manager → UuidMap N3xbAccess
  getTakers : Manager → UuidMap N3xbAccess

/-- n3xB registers what is new: it is listed under its trade, with a channel of its own. -/
structure N3xb.Registers {Manager : Type} (n3xb : N3xb Manager) : Prop where
  maker : ∀ order manager, n3xb.getMakers (n3xb.newMaker order manager).2 order.tradeUuid =
    some (n3xb.newMaker order manager).1
  ownMaker : ∀ order manager, n3xb.getMakers manager order.tradeUuid ≠
    some (n3xb.newMaker order manager).1
  taker : ∀ envelope offer manager access,
    (n3xb.newTaker envelope offer manager).1 = .ok access →
      n3xb.getTakers (n3xb.newTaker envelope offer manager).2 envelope.order.tradeUuid =
        some access
  ownTaker : ∀ envelope offer manager access,
    (n3xb.newTaker envelope offer manager).1 = .ok access →
      n3xb.getTakers manager envelope.order.tradeUuid ≠ some access

section Creation

variable [Bitcoin]

/-- The data of a maker, by its kind. -/
def FatCrabMakerActor.tradeData (self : FatCrabMakerActor) : (kind : TradeStore) × kind.Data :=
  match self.stored with
  | .inl data => ⟨.makerBuy, data⟩
  | .inr data => ⟨.makerSell, data⟩

def FatCrabTakerActor.tradeData (self : FatCrabTakerActor) : (kind : TradeStore) × kind.Data :=
  match self.stored with
  | .inl data => ⟨.takerBuy, data⟩
  | .inr data => ⟨.takerSell, data⟩

/-- A trader with all that the creation of a trade writes: n3xB's manager, the data files, the
persisters that were started and the maps of the takers, too. -/
structure FullTrader (Manager Json : Type) extends FatCrabTrader where
  n3xbManager : Manager
  disk : TradeStore → FileName → Option Json
  persisters : List ((kind : TradeStore) × FileName × Persister kind.Data Json)
  takers : UuidMap ℕ
  takerAccessors : UuidMap ℕ

variable {Manager Json : Type}

namespace FullTrader

/-- `FatCrabMakerBuyData::new` and its siblings: a persister is started for the new data, to
write the file that is named after the trade. -/
def openData (data : (kind : TradeStore) × kind.Data) (trader : FullTrader Manager Json) :
    FullTrader Manager Json :=
  let path := FileName.ofTrade (data.1.tradeUuid data.2)
  { trader with
    persisters := ⟨data.1, path, .new data.2 (trader.disk data.1 path)⟩ :: trader.persisters }

/-- `tokio::spawn` of a task that was created. -/
def spawn (slot : ℕ) (agent : Agent) (trader : FullTrader Manager Json) :
    FullTrader Manager Json :=
  { trader with
    tasks := { trader.tasks with agents := Function.update trader.tasks.agents slot agent } }

def insertMaker (tradeUuid : Uuid) (slot : ℕ) (trader : FullTrader Manager Json) :
    FullTrader Manager Json :=
  { trader with
    makers := trader.makers.insert tradeUuid slot
    makerAccessors := trader.makerAccessors.insert tradeUuid slot }

def insertTaker (tradeUuid : Uuid) (slot : ℕ) (trader : FullTrader Manager Json) :
    FullTrader Manager Json :=
  { trader with
    takers := trader.takers.insert tradeUuid slot
    takerAccessors := trader.takerAccessors.insert tradeUuid slot }

def setN3xbManager (manager : Manager) (trader : FullTrader Manager Json) :
    FullTrader Manager Json :=
  { trader with n3xbManager := manager }

def setPurse (purse : Purse) (trader : FullTrader Manager Json) : FullTrader Manager Json :=
  { trader with tasks := { trader.tasks with purse := purse } }

/-- What the four calls have in common once an actor was asked for: an error is returned as it
is, and only what was created is kept. The access is that to the task in the slot. -/
def finish {α : Type} (created : Program.Outcome (Except FatCrabError α)) (slot : ℕ)
    (keep : α → FullTrader Manager Json → FullTrader Manager Json)
    (trader : FullTrader Manager Json) :
    Program.Outcome (Except FatCrabError ℕ) × FullTrader Manager Json :=
  match created with
  | .done (.ok actor) => (.done (.ok slot), keep actor trader)
  | .done (.error error) => (.done (.error error), trader)
  | .panicked => (.panicked, trader)

section Calls

variable (n3xb : N3xb Manager) (slot : ℕ) (answers : WalletAnswers) (around : Surroundings)

/-- `new_buy_maker` and `new_sell_maker`; an order of the other type is a panic. -/
def newMaker (orderType : FatCrabOrderType) (order : FatCrabOrder) (fatcrabRxAddr : Option String)
    (trader : FullTrader Manager Json) :
    Program.Outcome (Except FatCrabError ℕ) × FullTrader Manager Json :=
  if order.orderType = orderType then
    let trader := trader.setN3xbManager (n3xb.newMaker order.into trader.n3xbManager).2
    let result := trader.tasks.createMaker order fatcrabRxAddr answers around
    (trader.setPurse result.environment.purse).finish result.outcome slot fun maker trader =>
      ((trader.openData maker.tradeData).spawn slot
        (.maker (.launch FatCrabMakerActor.code maker))).insertMaker order.tradeUuid slot
  else
    (.panicked, trader)

def newBuyMaker (order : FatCrabOrder) (fatcrabRxAddr : String)
    (trader : FullTrader Manager Json) :
    Program.Outcome (Except FatCrabError ℕ) × FullTrader Manager Json :=
  trader.newMaker n3xb slot answers around .buy order (some fatcrabRxAddr)

def newSellMaker (order : FatCrabOrder) (trader : FullTrader Manager Json) :
    Program.Outcome (Except FatCrabError ℕ) × FullTrader Manager Json :=
  trader.newMaker n3xb slot answers around .sell order none

/-- `new_buy_taker` and `new_sell_taker`; a refusal by n3xB is a panic as well. -/
def newTaker (orderType : FatCrabOrderType) (orderEnvelope : FatCrabOrderEnvelope)
    (fatcrabRxAddr : Option String) (trader : FullTrader Manager Json) :
    Program.Outcome (Except FatCrabError ℕ) × FullTrader Manager Json :=
  if orderEnvelope.order.orderType = orderType then
    let taken := n3xb.newTaker orderEnvelope.envelope (createN3xbOffer orderEnvelope.order)
      trader.n3xbManager
    let trader := trader.setN3xbManager taken.2
    match taken.1 with
    | .error _ => (.panicked, trader)
    | .ok _ =>
        let result := trader.tasks.createTaker orderEnvelope fatcrabRxAddr answers around
        (trader.setPurse result.environment.purse).finish result.outcome slot fun taker trader =>
          ((trader.openData taker.tradeData).spawn slot
            (.taker (.launch FatCrabTakerActor.code taker))).insertTaker
              orderEnvelope.order.tradeUuid slot
  else
    (.panicked, trader)

def newBuyTaker (orderEnvelope : FatCrabOrderEnvelope)
    (trader : FullTrader Manager Json) :
    Program.Outcome (Except FatCrabError ℕ) × FullTrader Manager Json :=
  trader.newTaker n3xb slot answers around .buy orderEnvelope none

def newSellTaker (orderEnvelope : FatCrabOrderEnvelope) (fatcrabRxAddr : String)
    (trader : FullTrader Manager Json) :
    Program.Outcome (Except FatCrabError ℕ) × FullTrader Manager Json :=
  trader.newTaker n3xb slot answers around .sell orderEnvelope (some fatcrabRxAddr)

end Calls

end FullTrader

/-- The calls that create a trade. -/
inductive Creation where
  | newBuyMaker (order : FatCrabOrder) (fatcrabRxAddr : String)
  | newSellMaker (order : FatCrabOrder)
  | newBuyTaker (orderEnvelope : FatCrabOrderEnvelope)
  | newSellTaker (orderEnvelope : FatCrabOrderEnvelope) (fatcrabRxAddr : String)

/-- An entry for the trade that was not there before. -/
def UuidMap.Gains {τ : Type} (before after : UuidMap τ) (tradeUuid : Uuid) : Prop :=
  ∃ entry, after tradeUuid = some entry ∧ before tradeUuid ≠ some entry

/-- No funds were allocated, no data file and no persister was created, no task was started,
and the maps are what they were. -/
structure FullTrader.Keeps (before after : FullTrader Manager Json) : Prop where
  funds : ∀ fundsId, after.tasks.purse.lookup fundsId = before.tasks.purse.lookup fundsId
  tasks : after.tasks.agents = before.tasks.agents
  disk : after.disk = before.disk
  persisters : after.persisters = before.persisters
  makers : after.makers = before.makers
  makerAccessors : after.makerAccessors = before.makerAccessors
  takers : after.takers = before.takers
  takerAccessors : after.takerAccessors = before.takerAccessors

/-- No maker or taker of the trade was registered with n3xB. -/
structure N3xb.Unregistered (n3xb : N3xb Manager) (tradeUuid : Uuid) (before after : Manager) :
    Prop where
  makers : ¬(n3xb.getMakers before).Gains (n3xb.getMakers after) tradeUuid
  takers : ¬(n3xb.getTakers before).Gains (n3xb.getTakers after) tradeUuid

/-- The purse can tell what it has left, and it is less than that. -/
def Purse.Short (answers : WalletAnswers) (purse : Purse) (sats : ℕ) : Prop :=
  purse.status = .serving ∧ purse.grants answers sats = some false

namespace Creation

variable (n3xb : N3xb Manager) (slot : ℕ) (answers : WalletAnswers) (around : Surroundings)

/-- Make the call. -/
def run (creation : Creation) (trader : FullTrader Manager Json) :
    Program.Outcome (Except FatCrabError ℕ) × FullTrader Manager Json :=
  match creation with
  | .newBuyMaker order fatcrabRxAddr =>
      trader.newBuyMaker n3xb slot answers around order fatcrabRxAddr
  | .newSellMaker order => trader.newSellMaker n3xb slot answers around order
  | .newBuyTaker orderEnvelope => trader.newBuyTaker n3xb slot answers around orderEnvelope
  | .newSellTaker orderEnvelope fatcrabRxAddr =>
      trader.newSellTaker n3xb slot answers around orderEnvelope fatcrabRxAddr

/-- The trade, as n3xB knows it: a taker goes by the order that n3xB published. -/
def tradeUuid : Creation → Uuid
  | .newBuyMaker order _ => order.tradeUuid
  | .newSellMaker order => order.tradeUuid
  | .newBuyTaker orderEnvelope => orderEnvelope.envelope.order.tradeUuid
  | .newSellTaker orderEnvelope _ => orderEnvelope.envelope.order.tradeUuid

/-- A call that returns an error leaves nothing behind. -/
def AllOrNothing (creation : Creation) (before : FullTrader Manager Json) : Prop :=
  ∀ error after, creation.run n3xb slot answers around before = (.done (.error error), after) →
    n3xb.Unregistered creation.tradeUuid before.n3xbManager after.n3xbManager ∧
      before.Keeps after

/-- The purse is short of what a Buy maker pays, or a Sell taker that n3xB has registered. -/
def Refused (before : FullTrader Manager Json) : Creation → Prop
  | .newBuyMaker order _ => order.orderType = .buy ∧ before.tasks.purse.Short answers order.sats
  | .newSellMaker _ => False
  | .newBuyTaker _ => False
  | .newSellTaker orderEnvelope _ => orderEnvelope.order.orderType = .sell ∧
      (n3xb.newTaker orderEnvelope.envelope (createN3xbOffer orderEnvelope.order)
        before.n3xbManager).1.isOk ∧ before.tasks.purse.Short answers orderEnvelope.order.sats

end Creation

/-! ## What an error leaves behind -/

section Creation

variable {tasks : Trader} {order : FatCrabOrder} {orderEnvelope : FatCrabOrderEnvelope}
  {fatcrabRxAddr : Option String} {address : String} {answers : WalletAnswers}
  {around : Surroundings} {error : FatCrabError}

/-- The purse refuses sats if it is short of them, and is then as it was before. -/
theorem Purse.serve_allocateFunds_error_iff {purse after : Purse} {sats : ℕ} :
    purse.serve answers (.allocateFunds sats) = (some (.error error), after) ↔
      purse.Short answers sats ∧ error = .simple "Insufficient Funds" ∧ after = purse := by
  unfold Short
  by_cases hserving : purse.status = .serving
  · rw [serve_allocateFunds hserving]
    rcases purse.grants answers sats with _ | _ | _ <;> simp [hserving, eq_comm]
  · simp [serve_of_not_serving hserving, hserving]

/-- A maker who is created in vain was refused by the purse. -/
theorem Trader.createMaker_error
    (herror : (tasks.createMaker order fatcrabRxAddr answers around).outcome =
      .done (.error error)) :
    order.orderType = .buy ∧ tasks.purse.Short answers order.sats ∧
      (tasks.createMaker order fatcrabRxAddr answers around).environment.purse = tasks.purse := by
  cases htype : order.orderType with
  | sell =>
      rcases hserve : tasks.purse.serve answers .getRxAddress with ⟨_ | failed | address, after⟩ <;>
        simp [createMaker, FatCrabMakerActor.new, FatCrabMakerSellActor.new, htype,
          hserve] at herror
  | buy =>
      cases fatcrabRxAddr with
      | none => simp [createMaker, FatCrabMakerActor.new, htype] at herror
      | some address =>
          rcases hserve : tasks.purse.serve answers (.allocateFunds order.sats) with
            ⟨_ | refused | fundsId, after⟩
          case error =>
            obtain ⟨hshort, -, rfl⟩ := Purse.serve_allocateFunds_error_iff.mp hserve
            refine ⟨rfl, hshort, ?_⟩
            simp [createMaker, FatCrabMakerActor.new, FatCrabMakerBuyActor.new, htype, hserve]
          all_goals
            simp [createMaker, FatCrabMakerActor.new, FatCrabMakerBuyActor.new, htype, hserve]
              at herror

theorem Trader.createMaker_of_short (htype : order.orderType = .buy)
    (hshort : tasks.purse.Short answers order.sats) :
    (tasks.createMaker order (some address) answers around).outcome =
      .done (.error (.simple "Insufficient Funds")) := by
  have hserve := Purse.serve_allocateFunds_error_iff.mpr ⟨hshort, rfl, rfl⟩
  simp [createMaker, FatCrabMakerActor.new, FatCrabMakerBuyActor.new, htype, hserve]

/-- The same of a taker, with the roles the other way around. -/
theorem Trader.createTaker_error
    (herror : (tasks.createTaker orderEnvelope fatcrabRxAddr answers around).outcome =
      .done (.error error)) :
    orderEnvelope.order.orderType = .sell ∧
      tasks.purse.Short answers orderEnvelope.order.sats ∧
      (tasks.createTaker orderEnvelope fatcrabRxAddr answers around).environment.purse =
        tasks.purse := by
  cases htype : orderEnvelope.order.orderType with
  | buy =>
      rcases hserve : tasks.purse.serve answers .getRxAddress with ⟨_ | failed | address, after⟩ <;>
        simp [createTaker, FatCrabTakerActor.new, FatCrabTakerBuyActor.new, htype, hserve] at herror
  | sell =>
      cases fatcrabRxAddr with
      | none => simp [createTaker, FatCrabTakerActor.new, htype] at herror
      | some address =>
          rcases hserve : tasks.purse.serve answers (.allocateFunds orderEnvelope.order.sats) with
            ⟨_ | refused | fundsId, after⟩
          case error =>
            obtain ⟨hshort, -, rfl⟩ := Purse.serve_allocateFunds_error_iff.mp hserve
            refine ⟨rfl, hshort, ?_⟩
            simp [createTaker, FatCrabTakerActor.new, FatCrabTakerSellActor.new, htype, hserve]
          all_goals
            simp [createTaker, FatCrabTakerActor.new, FatCrabTakerSellActor.new, htype, hserve]
              at herror

theorem Trader.createTaker_of_short (htype : orderEnvelope.order.orderType = .sell)
    (hshort : tasks.purse.Short answers orderEnvelope.order.sats) :
    (tasks.createTaker orderEnvelope (some address) answers around).outcome =
      .done (.error (.simple "Insufficient Funds")) := by
  have hserve := Purse.serve_allocateFunds_error_iff.mpr ⟨hshort, rfl, rfl⟩
  simp [createTaker, FatCrabTakerActor.new, FatCrabTakerSellActor.new, htype, hserve]

namespace FullTrader

variable {n3xb : N3xb Manager} {slot : ℕ} {orderType : FatCrabOrderType}
  {trader after : FullTrader Manager Json}

theorem finish_error_iff {α : Type} {created : Program.Outcome (Except FatCrabError α)}
    {keep : α → FullTrader Manager Json → FullTrader Manager Json} :
    trader.finish created slot keep = (.done (.error error), after) ↔
      created = .done (.error error) ∧ after = trader := by
  rcases created with (failed | actor) | _ <;> simp [finish, eq_comm]

/-- All that a maker who was refused leaves behind is in n3xB's manager. -/
theorem newMaker_error
    (hcall : trader.newMaker n3xb slot answers around orderType order fatcrabRxAddr =
      (.done (.error error), after)) :
    order.orderType = orderType ∧ order.orderType = .buy ∧
      trader.tasks.purse.Short answers order.sats ∧
        after = trader.setN3xbManager (n3xb.newMaker order.into trader.n3xbManager).2 := by
  unfold newMaker at hcall
  split at hcall
  next htype =>
    obtain ⟨herror, rfl⟩ := finish_error_iff.mp hcall
    obtain ⟨hbuy, hshort, hpurse⟩ := Trader.createMaker_error herror
    refine ⟨htype, hbuy, hshort, ?_⟩
    rw [hpurse]
    rfl
  next => cases hcall

theorem newMaker_of_short (htype : order.orderType = .buy)
    (hshort : trader.tasks.purse.Short answers order.sats) :
    ∃ error after, trader.newBuyMaker n3xb slot answers around order address =
      (.done (.error error), after) := by
  unfold newBuyMaker newMaker
  rw [if_pos htype]
  exact ⟨_, _, finish_error_iff.mpr ⟨Trader.createMaker_of_short htype hshort, rfl⟩⟩

/-- The same of a taker, whom n3xB has registered by then. -/
theorem newTaker_error
    (hcall : trader.newTaker n3xb slot answers around orderType orderEnvelope fatcrabRxAddr =
      (.done (.error error), after)) :
    orderEnvelope.order.orderType = orderType ∧ orderEnvelope.order.orderType = .sell ∧
      trader.tasks.purse.Short answers orderEnvelope.order.sats ∧ ∃ access,
        (n3xb.newTaker orderEnvelope.envelope (createN3xbOffer orderEnvelope.order)
          trader.n3xbManager).1 = .ok access ∧
        after = trader.setN3xbManager (n3xb.newTaker orderEnvelope.envelope
          (createN3xbOffer orderEnvelope.order) trader.n3xbManager).2 := by
  unfold newTaker at hcall
  split at hcall
  next htype =>
    dsimp only at hcall
    split at hcall
    next => cases hcall
    next access htaken =>
      obtain ⟨herror, rfl⟩ := finish_error_iff.mp hcall
      obtain ⟨hsell, hshort, hpurse⟩ := Trader.createTaker_error herror
      refine ⟨htype, hsell, hshort, access, htaken, ?_⟩
      rw [hpurse]
      rfl
  next => cases hcall

theorem newTaker_of_short {access : N3xbAccess} (htype : orderEnvelope.order.orderType = .sell)
    (htaken : (n3xb.newTaker orderEnvelope.envelope (createN3xbOffer orderEnvelope.order)
      trader.n3xbManager).1 = .ok access)
    (hshort : trader.tasks.purse.Short answers orderEnvelope.order.sats) :
    ∃ error after, trader.newSellTaker n3xb slot answers around orderEnvelope address =
      (.done (.error error), after) := by
  unfold newSellTaker newTaker
  rw [if_pos htype]
  dsimp only
  rw [htaken]
  exact ⟨_, _, finish_error_iff.mpr ⟨Trader.createTaker_of_short htype hshort, rfl⟩⟩

/-- For the session, the call is the step that asks for a maker. -/
theorem newMaker_step (htype : order.orderType = orderType)
    (hvacant : trader.tasks.agents slot = .vacant) (hfresh : trader.tasks.purse.Fresh answers) :
    trader.toFatCrabTrader.Step (.newMaker slot order fatcrabRxAddr answers around)
      (trader.newMaker n3xb slot answers around orderType order
        fatcrabRxAddr).2.toFatCrabTrader := by
  have hkept : Function.update trader.tasks.agents slot .vacant = trader.tasks.agents := by
    rw [← hvacant, Function.update_eq_self]
  have hsame : (trader.newMaker n3xb slot answers around orderType order
      fatcrabRxAddr).2.toFatCrabTrader =
        trader.toFatCrabTrader.newMaker slot order fatcrabRxAddr answers around := by
    unfold newMaker FatCrabTrader.newMaker
    rw [if_pos htype]
    rcases hcreated : (trader.tasks.createMaker order fatcrabRxAddr answers around).outcome with
        (error | maker) | _ <;>
      simp [finish, hcreated, Trader.startMaker, hkept, setN3xbManager, setPurse, openData, spawn,
        insertMaker]
  rw [hsame]
  exact .newMaker hvacant hfresh

/-- For the tasks, the call is the step that starts a taker, if n3xB takes the order. -/
theorem newTaker_goes {access : N3xbAccess} (htype : orderEnvelope.order.orderType = orderType)
    (hvacant : trader.tasks.agents slot = .vacant) (hfresh : trader.tasks.purse.Fresh answers)
    (htaken : (n3xb.newTaker orderEnvelope.envelope (createN3xbOffer orderEnvelope.order)
      trader.n3xbManager).1 = .ok access) :
    trader.tasks.Goes (trader.newTaker n3xb slot answers around orderType orderEnvelope
      fatcrabRxAddr).2.tasks := by
  have hkept : Function.update trader.tasks.agents slot .vacant = trader.tasks.agents := by
    rw [← hvacant, Function.update_eq_self]
  let result := trader.tasks.createTaker orderEnvelope fatcrabRxAddr answers around
  have hsame : (trader.newTaker n3xb slot answers around orderType orderEnvelope
      fatcrabRxAddr).2.tasks = ⟨result.environment.purse,
        Function.update trader.tasks.agents slot (Trader.startTaker result.outcome)⟩ := by
    unfold newTaker
    rw [if_pos htype]
    dsimp only
    rw [htaken]
    rcases hcreated : (trader.tasks.createTaker orderEnvelope fatcrabRxAddr answers
        around).outcome with (error | taker) | _ <;>
      simp [finish, hcreated, Trader.startTaker, hkept, setN3xbManager, setPurse, openData, spawn,
        insertTaker, result]
  rw [hsame]
  exact .newTaker hvacant hfresh rfl

theorem keeps_setN3xbManager (manager : Manager) : trader.Keeps (trader.setN3xbManager manager) :=
  ⟨fun _ => rfl, rfl, rfl, rfl, rfl, rfl, rfl, rfl⟩

end FullTrader

namespace Creation

variable {n3xb : N3xb Manager} {slot : ℕ} {creation : Creation}
  {before after : FullTrader Manager Json}

omit [Bitcoin] in
/-- A new maker is an entry that was not there before. -/
theorem gains_newMaker (hregisters : n3xb.Registers) (order : FatCrabOrder) (manager : Manager) :
    (n3xb.getMakers manager).Gains (n3xb.getMakers (n3xb.newMaker order.into manager).2)
      order.tradeUuid := by
  have huuid : order.into.tradeUuid = order.tradeUuid := by
    unfold FatCrabOrder.into
    cases order.orderType <;> rfl
  rw [← huuid]
  exact ⟨_, hregisters.maker order.into manager, hregisters.ownMaker order.into manager⟩

omit [Bitcoin] in
theorem gains_newTaker (hregisters : n3xb.Registers) {envelope : OrderEnvelope} {offer : Offer}
    {manager : Manager} {access : N3xbAccess}
    (htaken : (n3xb.newTaker envelope offer manager).1 = .ok access) :
    (n3xb.getTakers manager).Gains (n3xb.getTakers (n3xb.newTaker envelope offer manager).2)
      envelope.order.tradeUuid :=
  ⟨access, hregisters.taker _ _ _ access htaken, hregisters.ownTaker _ _ _ access htaken⟩

theorem error_of_refused (hrefused : creation.Refused n3xb answers before) :
    ∃ error after, creation.run n3xb slot answers around before =
      (.done (.error error), after) := by
  cases creation with
  | newBuyMaker order fatcrabRxAddr =>
      obtain ⟨htype, hshort⟩ := hrefused
      exact FullTrader.newMaker_of_short htype hshort
  | newSellMaker order => exact hrefused.elim
  | newBuyTaker orderEnvelope => exact hrefused.elim
  | newSellTaker orderEnvelope fatcrabRxAddr =>
      obtain ⟨htype, htaken, hshort⟩ := hrefused
      cases haccess : (n3xb.newTaker orderEnvelope.envelope
          (createN3xbOffer orderEnvelope.order) before.n3xbManager).1 with
      | error failed =>
          rw [haccess] at htaken
          cases htaken
      | ok access => exact FullTrader.newTaker_of_short htype haccess hshort

/-- An error comes from the purse. It finds the trade registered, and the rest as it was. -/
theorem left_of_error (hregisters : n3xb.Registers)
    (hcall : creation.run n3xb slot answers around before = (.done (.error error), after)) :
    creation.Refused n3xb answers before ∧ before.Keeps after ∧
      ¬n3xb.Unregistered creation.tradeUuid before.n3xbManager after.n3xbManager := by
  cases creation with
  | newBuyMaker order fatcrabRxAddr =>
      obtain ⟨-, hbuy, hshort, rfl⟩ := FullTrader.newMaker_error hcall
      refine ⟨⟨hbuy, hshort⟩, FullTrader.keeps_setN3xbManager _, fun hunregistered => ?_⟩
      exact hunregistered.makers (gains_newMaker hregisters order before.n3xbManager)
  | newSellMaker order =>
      obtain ⟨hsell, hbuy, -⟩ := FullTrader.newMaker_error hcall
      cases hsell.symm.trans hbuy
  | newBuyTaker orderEnvelope =>
      obtain ⟨hbuy, hsell, -⟩ := FullTrader.newTaker_error hcall
      cases hbuy.symm.trans hsell
  | newSellTaker orderEnvelope fatcrabRxAddr =>
      obtain ⟨-, hsell, hshort, access, htaken, rfl⟩ := FullTrader.newTaker_error hcall
      refine ⟨⟨hsell, ?_, hshort⟩, FullTrader.keeps_setN3xbManager _, fun hunregistered => ?_⟩
      · rw [htaken]
        rfl
      · exact hunregistered.takers (gains_newTaker hregisters htaken)

/-- A creation is all or nothing exactly if the purse is not short of its sats: what is left
behind then is the registration, and never anything else. -/
theorem allOrNothing_iff (hregisters : n3xb.Registers) :
    (creation.AllOrNothing n3xb slot answers around before ↔
        ¬creation.Refused n3xb answers before) ∧
      ∀ error after, creation.run n3xb slot answers around before =
        (.done (.error error), after) → before.Keeps after := by
  refine ⟨⟨?_, ?_⟩, ?_⟩
  · intro hall hrefused
    obtain ⟨error, after, hcall⟩ := @error_of_refused _ _ _ _ around n3xb slot _ _ hrefused
    exact (left_of_error hregisters hcall).2.2 (hall error after hcall).1
  · intro hgranted error after hcall
    exact absurd (left_of_error hregisters hcall).1 hgranted
  · intro error after hcall
    exact (left_of_error hregisters hcall).2.1

end Creation

end Creation

end Creation

section Sample

open scoped Sample

/-- The channel after the one that is listed. -/
def Sample.nextAccess : Option N3xbAccess → N3xbAccess
  | none => ⟨0⟩
  | some access => ⟨access.channel + 1⟩

theorem Sample.ne_nextAccess (listed : Option N3xbAccess) :
    listed ≠ some (nextAccess listed) := by
  cases listed with
  | none => nofun
  | some access =>
      intro hsame
      have hchannel := congrArg N3xbAccess.channel (Option.some.inj hsame)
      exact absurd hchannel (Nat.succ_ne_self _).symm

/-- A manager that lists what it registered, and counts the channels of each trade. -/
def Sample.n3xb : N3xb (UuidMap N3xbAccess × UuidMap N3xbAccess) where
  newMaker order manager :=
    let access := Sample.nextAccess (manager.1 order.tradeUuid)
    (access, manager.1.insert order.tradeUuid access, manager.2)
  newTaker envelope _ manager :=
    let access := Sample.nextAccess (manager.2 envelope.order.tradeUuid)
    (.ok access, manager.1, manager.2.insert envelope.order.tradeUuid access)
  getMakers manager := manager.1
  getTakers manager := manager.2

theorem Sample.n3xb_registers : Sample.n3xb.Registers where
  maker _ _ := Function.update_self ..
  ownMaker _ _ := ne_nextAccess _
  taker _ _ _ _ htaken := by
    cases htaken
    exact Function.update_self ..
  ownTaker _ _ _ _ htaken := by
    cases htaken
    exact ne_nextAccess _

/-- A trader on an empty directory, with an empty manager. -/
def Sample.fullTrader : FullTrader (UuidMap N3xbAccess × UuidMap N3xbAccess) String where
  toFatCrabTrader := .new true .regtest 100
  n3xbManager := (.empty, .empty)
  disk _ _ := none
  persisters := []
  takers := .empty
  takerAccessors := .empty

/-- An order to buy two hundred fatcrabs, with a hundred sats in the wallet. -/
def Sample.unaffordable : Creation :=
  .newBuyMaker ⟨.buy, ⟨7⟩, 200, 1, .regtest⟩ "npub1maker"

theorem Creation.allOrNothing_iff_unaffordable :
    (Sample.unaffordable.AllOrNothing Sample.n3xb 0 (Sample.wallet ⟨1⟩) Sample.surroundings
        Sample.fullTrader ↔
      ¬Sample.unaffordable.Refused Sample.n3xb (Sample.wallet ⟨1⟩) Sample.fullTrader) ∧
      ∀ error after, Sample.unaffordable.run Sample.n3xb 0 (Sample.wallet ⟨1⟩)
          Sample.surroundings Sample.fullTrader = (.done (.error error), after) →
        Sample.fullTrader.Keeps after :=
  Creation.allOrNothing_iff Sample.n3xb_registers

/-- The call ends in an error, and n3xB lists a maker for the trade, which had none. -/
theorem registered_without_funds :
    (Sample.unaffordable.run Sample.n3xb 0 (Sample.wallet ⟨1⟩) Sample.surroundings
        Sample.fullTrader).1 = .done (.error (.simple "Insufficient Funds")) ∧
      Sample.n3xb.getMakers Sample.fullTrader.n3xbManager ⟨7⟩ = none ∧
      Sample.n3xb.getMakers (Sample.unaffordable.run Sample.n3xb 0 (Sample.wallet ⟨1⟩)
        Sample.surroundings Sample.fullTrader).2.n3xbManager ⟨7⟩ = some ⟨0⟩ ∧
      ¬Sample.unaffordable.AllOrNothing Sample.n3xb 0 (Sample.wallet ⟨1⟩) Sample.surroundings
        Sample.fullTrader := by
  have herror : (Sample.unaffordable.run Sample.n3xb 0 (Sample.wallet ⟨1⟩) Sample.surroundings
      Sample.fullTrader).1 = .done (.error (.simple "Insufficient Funds")) := by decide +kernel
  have hlisted : Sample.n3xb.getMakers (Sample.unaffordable.run Sample.n3xb 0 (Sample.wallet ⟨1⟩)
      Sample.surroundings Sample.fullTrader).2.n3xbManager ⟨7⟩ = some ⟨0⟩ := by decide +kernel
  refine ⟨herror, rfl, hlisted, fun hall => ?_⟩
  obtain ⟨hunregistered, -⟩ := hall _ _ (Prod.ext herror rfl)
  exact hunregistered.makers ⟨⟨0⟩, hlisted, nofun⟩

end Sample

end FatCrabTrading
