import FatCrabTrading.Trader.Funds
import FatCrabTrading.Trader.Payments

/-! # A trader that crashes

Each store is written by a thread of its own, and no thread waits for another. So a file
shows its store as it was at some earlier moment, and the moments of two files have nothing
to do with each other. The chain does not go back with the files.
-/

namespace FatCrabTrading

open Effect

section Crash

variable [Bitcoin]

/-! ## Records that grow -/

section Gained

variable {α : Type} {before later : List α}

omit [Bitcoin] in
theorem suffix_of_eq (heq : later = before) : before <:+ later := by
  subst heq
  exact List.suffix_rfl

/-- The entries that a record gained. -/
def gained (before after : List α) : List α := after.take (after.length - before.length)

omit [Bitcoin] in
@[simp] theorem gained_append (new : List α) : gained before (new ++ before) = new := by
  unfold gained
  rw [List.length_append, Nat.add_sub_cancel, List.take_left]

omit [Bitcoin] in
theorem gained_self (record : List α) : gained record record = [] := gained_append []

omit [Bitcoin] in
theorem gained_trans {first second third : List α} (hfirst : first <:+ second)
    (hsecond : second <:+ third) :
    gained second third ++ gained first second = gained first third := by
  obtain ⟨early, rfl⟩ := hfirst
  obtain ⟨late, rfl⟩ := hsecond
  rw [gained_append, gained_append, ← List.append_assoc, gained_append]

omit [Bitcoin] in
theorem append_gained (hsuffix : before <:+ later) : gained before later ++ before = later := by
  obtain ⟨new, rfl⟩ := hsuffix
  rw [gained_append]

end Gained

namespace Purse

/-- The record of a purse only grows, at its front. -/
structure Grows (before after : Purse) : Prop where
  granted : before.granted <:+ after.granted
  broadcasts : before.broadcasts <:+ after.broadcasts
  freed : before.freed <:+ after.freed

theorem Grows.refl (purse : Purse) : Grows purse purse :=
  ⟨List.suffix_rfl, List.suffix_rfl, List.suffix_rfl⟩

theorem Grows.trans {first second third : Purse} (hfirst : Grows first second)
    (hsecond : Grows second third) : Grows first third :=
  ⟨hfirst.granted.trans hsecond.granted, hfirst.broadcasts.trans hsecond.broadcasts,
    hfirst.freed.trans hsecond.freed⟩

theorem SameFunds.grows {before after : Purse} (h : before.SameFunds after) : Grows before after :=
  ⟨suffix_of_eq h.granted, suffix_of_eq h.broadcasts, suffix_of_eq h.freed⟩

theorem grows_serve (answers : WalletAnswers) (request : PurseRequest) (purse : Purse) :
    Grows purse (purse.serve answers request).2 := by
  constructor
  · cases request with
    | allocateFunds sats =>
        rcases @serve_allocateFunds_cases _ answers purse sats with ⟨-, hnew⟩ | ⟨-, hsame⟩
        · rw [hnew]
          exact List.suffix_cons _ _
        · exact suffix_of_eq hsame
    | _ => exact suffix_of_eq (granted_serve nofun)
  · cases request with
    | sendFunds fundsId address =>
        rcases @serve_sendFunds_cases _ answers purse fundsId address with
          ⟨_, _, -, -, -, hnew⟩ | ⟨-, hsame⟩
        · rw [hnew]
          exact List.suffix_cons _ _
        · exact suffix_of_eq hsame
    | _ => exact suffix_of_eq (broadcasts_serve nofun)
  · cases request with
    | freeFunds fundsId =>
        rcases @serve_freeFunds_cases _ answers purse fundsId with ⟨-, hnew⟩ | ⟨-, hsame⟩
        · rw [hnew]
          exact List.suffix_cons _ _
        · exact suffix_of_eq hsame
    | _ => exact suffix_of_eq (freed_serve nofun)

/-- What the purse has paid from an id or freed is settled. -/
def Settled (fundsId : Uuid) (purse : Purse) : Prop :=
  fundsId ∈ purse.broadcasts.map Prod.fst ∨ fundsId ∈ purse.freed

theorem Settled.grows {fundsId : Uuid} {before after : Purse} (hsettled : Settled fundsId before)
    (hgrows : Grows before after) : Settled fundsId after :=
  hsettled.imp (fun hpaid => (hgrows.broadcasts.map _).subset hpaid)
    fun hfreed => hgrows.freed.subset hfreed

/-- Exactly what was granted and is not settled is in the table. -/
theorem Sound.lookup_iff {purse : Purse} (hsound : purse.Sound) {fundsId : Uuid} {sats : ℕ} :
    purse.lookup fundsId = some sats ↔
      (fundsId, sats) ∈ purse.granted ∧ ¬purse.Settled fundsId := by
  constructor
  · intro hlookup
    refine ⟨hsound.backed fundsId sats hlookup, ?_⟩
    rintro (hpaid | hfreed)
    · obtain ⟨⟨_, tx⟩, hbroadcast, rfl⟩ := List.mem_map.mp hpaid
      rw [(hsound.paid _ tx hbroadcast).1] at hlookup
      cases hlookup
    · rw [(hsound.spent fundsId hfreed).1] at hlookup
      cases hlookup
  · rintro ⟨hgrant, hopen⟩
    obtain ⟨hunpaid, hunfreed⟩ := not_or.mp hopen
    exact hsound.kept fundsId sats hgrant hunpaid hunfreed

theorem Settled.lookup {purse : Purse} {fundsId : Uuid} (hsettled : purse.Settled fundsId)
    (hsound : purse.Sound) : purse.lookup fundsId = none := by
  cases hlookup : purse.lookup fundsId with
  | none => rfl
  | some sats => exact absurd hsettled (hsound.lookup_iff.mp hlookup).2

theorem Sound.reopen {purse : Purse} (hsound : purse.Sound) (height : ℕ) :
    (purse.reopen height).Sound :=
  hsound.congr (fun _ => rfl) rfl rfl rfl

end Purse

namespace Trader

variable {trader next : Trader}

/-- The purse served one request, or nothing that concerns its table. -/
def Serves (before after : Purse) : Prop :=
  before.SameFunds after ∨ ∃ answers request, before.DrawsFresh answers request ∧
    after = (before.serve answers request).2

section Creation

variable {answers : WalletAnswers} {around : Surroundings} {order : FatCrabOrder}
  {orderEnvelope : FatCrabOrderEnvelope} {fatcrabRxAddr : Option String}

/-- A request for a new trade draws a fresh id, if it draws one. -/
theorem serves_of_serve {purse after : Purse} {request : PurseRequest}
    {reply : Option request.Reply} (hfresh : purse.Fresh answers)
    (hserve : purse.serve answers request = (reply, after)) : Serves purse after :=
  .inr ⟨answers, request, fun _ _ => hfresh, (congrArg Prod.snd hserve).symm⟩

theorem serves_createMaker (hfresh : trader.purse.Fresh answers) : Serves trader.purse
    (trader.createMaker order fatcrabRxAddr answers around).environment.purse := by
  cases @makerCreation _ trader order fatcrabRxAddr answers around with
  | unasked _ hpurse =>
      rw [hpurse]
      exact .inl (.refl _)
  | refused _ hserve _ hpurse | buy _ _ hserve _ hpurse | sell _ hserve _ hpurse =>
      rw [hpurse]
      exact serves_of_serve hfresh hserve

theorem serves_createTaker (hfresh : trader.purse.Fresh answers) : Serves trader.purse
    (trader.createTaker orderEnvelope fatcrabRxAddr answers around).environment.purse := by
  cases @takerCreation _ trader orderEnvelope fatcrabRxAddr answers around with
  | unasked _ hpurse =>
      rw [hpurse]
      exact .inl (.refl _)
  | refused _ hserve _ hpurse | sell _ _ hserve _ hpurse | buy _ hserve _ hpurse =>
      rw [hpurse]
      exact serves_of_serve hfresh hserve

end Creation

/-- What one step can do to the purse. -/
theorem Step.serves (hstep : Step trader next) : Serves trader.purse next.purse := by
  cases hstep with
  | @act slot move agent purse hstep hanswers =>
      cases move with
      | other =>
          obtain rfl := hanswers
          exact .inl (.refl _)
      | call c reply =>
          cases c with
          | purse request =>
              obtain ⟨answers, hdraws, hserve⟩ := hanswers
              exact .inr ⟨answers, request, hdraws, (congrArg Prod.snd hserve).symm⟩
          | n3xb request | notify notifTx notif | respond rsp | terminate =>
              obtain rfl := hanswers
              exact .inl (.refl _)
  | newMaker hvacant hfresh hresult =>
      subst hresult
      exact serves_createMaker hfresh
  | newTaker hvacant hfresh hresult =>
      subst hresult
      exact serves_createTaker hfresh
  | newWallet hvacant => exact .inl (.refl _)
  | abandon => exact .inl ⟨rfl, rfl, rfl, rfl, rfl⟩
  | reopen height hended => exact .inl ⟨rfl, rfl, rfl, rfl, rfl⟩

theorem Step.grows (hstep : Step trader next) : trader.purse.Grows next.purse := by
  rcases hstep.serves with hsame | ⟨answers, request, -, hserve⟩
  · exact hsame.grows
  · rw [hserve]
    exact Purse.grows_serve answers request trader.purse

/-- For the purse alone it does not matter who owns what. -/
theorem Step.sound (hstep : Step trader next) (hsound : trader.purse.Sound) :
    next.purse.Sound := by
  rcases hstep.serves with hsame | ⟨answers, request, hdraws, hserve⟩
  · exact hsame.sound hsound
  · rw [hserve]
    exact hsound.serve hdraws

/-- A new payment is made from an id that was in the table. -/
theorem Step.paid (hstep : Step trader next) {fundsId : Uuid} {tx : Tx}
    (hbroadcast : (fundsId, tx) ∈ next.purse.broadcasts) :
    (fundsId, tx) ∈ trader.purse.broadcasts ∨ ∃ sats, trader.purse.lookup fundsId = some sats := by
  rcases hstep.serves with hsame | ⟨answers, request, -, hserve⟩
  · rw [hsame.broadcasts] at hbroadcast
    exact .inl hbroadcast
  · rcases hreply : trader.purse.serve answers request with ⟨reply, after⟩
    rw [hserve, hreply] at hbroadcast
    rcases Purse.broadcast_of_serve hreply hbroadcast with hold | ⟨address, _, hasked, -⟩
    · exact .inl hold
    · cases hasked
      obtain ⟨_, sats, hlookup, -⟩ := Purse.serve_sendFunds_ok hreply
      exact .inr ⟨sats, hlookup⟩

theorem sound_of_steps {later : Trader} (hsound : trader.purse.Sound)
    (hsteps : Steps trader later) : later.purse.Sound ∧ trader.purse.Grows later.purse := by
  induction hsteps with
  | refl => exact ⟨hsound, .refl _⟩
  | tail _ hstep ih => exact ⟨hstep.sound ih.1, ih.2.trans hstep.grows⟩

theorem holds_startMaker (outcome : Program.Outcome (Except FatCrabError FatCrabMakerActor)) :
    (startMaker outcome).Holds (startMaker outcome).funds := by
  rcases outcome with (error | maker) | _
  · exact rfl
  · exact Agent.holds_launch_maker maker
  · exact rfl

theorem holds_startTaker (outcome : Program.Outcome (Except FatCrabError FatCrabTakerActor)) :
    (startTaker outcome).Holds (startTaker outcome).funds := by
  rcases outcome with (error | taker) | _
  · exact rfl
  · exact Agent.holds_launch_taker taker
  · exact rfl

/-- The funds of an agent that was just started are a new grant. -/
theorem Change.mem_granted {before after : Purse} {next : Agent}
    (hchange : Change before after .vacant next) {grant : Uuid × ℕ}
    (hfunds : next.funds = some grant) : grant ∈ after.granted := by
  rcases hchange.owns _ _ (Agent.owns_of_funds hfunds) with hvacant | ⟨hgrant, -⟩
  · exact hvacant.elim
  · exact hgrant

/-- A step changes one agent, and the funds of an agent only when it is started. -/
theorem Step.agent (hstep : Step trader next) (hsound : trader.purse.Sound)
    (hholds : ∀ slot, (trader.agents slot).Holds (trader.agents slot).funds) :
    next.agents = trader.agents ∨ ∃ slot agent,
      next.agents = Function.update trader.agents slot agent ∧ agent.Holds agent.funds ∧
        ∀ grant, agent.funds = some grant →
          (trader.agents slot).funds = some grant ∨ grant ∈ next.purse.granted := by
  cases hstep with
  | @act slot move agent purse hstep hanswers =>
      have hafter := hstep.holds (hholds slot)
      have hfunds := hafter.funds
      refine .inr ⟨slot, agent, rfl, ?_, fun grant hgrant => .inl ?_⟩
      · rw [hfunds]
        exact hafter
      · rw [← hfunds, hgrant]
  | @newMaker slot _ _ _ _ _ hvacant hfresh hresult =>
      subst hresult
      refine .inr ⟨slot, _, rfl, holds_startMaker _, fun grant hgrant => .inr ?_⟩
      exact (Change.of_createMaker hsound hfresh).mem_granted hgrant
  | @newTaker slot _ _ _ _ _ hvacant hfresh hresult =>
      subst hresult
      refine .inr ⟨slot, _, rfl, holds_startTaker _, fun grant hgrant => .inr ?_⟩
      exact (Change.of_createTaker hsound hfresh).mem_granted hgrant
  | @newWallet slot hvacant =>
      refine .inr ⟨slot, _, rfl, rfl, fun grant hgrant => ?_⟩
      cases hgrant
  | abandon => exact .inl rfl
  | reopen height hended => exact .inl rfl

end Trader

/-! ## Files -/

/-- What the file of a trade shows. -/
inductive TradeFile where
  | maker (store : FatCrabMakerActor)
  | taker (store : FatCrabTakerActor)

/-- What the thread of an agent's store writes. A client of the application has no store. -/
def Agent.stored : Agent → Option TradeFile
  | .maker actor => some (.maker actor.store)
  | .taker actor => some (.taker actor.store)
  | .vacant | .wallet _ => none

namespace TradeFile

/-- `restore_buy_maker` and its siblings: the task that is started for a file. -/
def relaunch : TradeFile → Agent
  | .maker store => .maker (.launch FatCrabMakerActor.code store.restore)
  | .taker store => .taker (.launch FatCrabTakerActor.code store.restore)

/-- The funds that a file names. -/
def funds : TradeFile → Option (Uuid × ℕ)
  | .maker store => store.funds
  | .taker store => store.funds

theorem holds_relaunch (file : TradeFile) : file.relaunch.Holds file.funds := by
  cases file with
  | maker store =>
      have hholds := Agent.holds_launch_maker store.restore
      rw [FatCrabMakerActor.funds_restore] at hholds
      exact hholds
  | taker store =>
      have hholds := Agent.holds_launch_taker store.restore
      rw [FatCrabTakerActor.funds_restore] at hholds
      exact hholds

end TradeFile

theorem Agent.funds_of_stored {agent : Agent} {file : TradeFile}
    (hstored : agent.stored = some file) : file.funds = agent.funds := by
  cases agent with
  | vacant => cases hstored
  | wallet actor => cases hstored
  | maker actor =>
      cases hstored
      rfl
  | taker actor =>
      cases hstored
      rfl

/-- Whether a trade is neither cancelled nor rejected nor completed. -/
def Agent.goesOn : Agent → Bool
  | .maker actor =>
      actor.store.state ≠ .tradeCancelled ∧ actor.store.state ≠ .tradeCompleted
  | .taker actor =>
      actor.store.state ≠ .offerRejected ∧ actor.store.state ≠ .tradeCompleted
  | .vacant | .wallet _ => false

/-! ## The machine -/

/-- A running trader, its files, and what no crash undoes: the payments on the chain, each
with the id it was made from, and the ids that were ever drawn. The file of the purse is
shown with the record that belonged to it. -/
structure Machine where
  trader : Trader
  purseFile : Purse
  tradeFiles : ℕ → Option TradeFile
  chain : List (Uuid × Tx)
  drawn : List (Uuid × ℕ)

namespace Machine

/-- A trader on an empty directory. `Purse::new` on a missing file begins with an empty
table, so that is what a missing file shows. -/
def new (overflowChecks : Bool) (network : Network) (height : ℕ) : Machine where
  trader := .new overflowChecks network height
  purseFile := (Trader.new overflowChecks network height).purse
  tradeFiles := fun _ => none
  chain := []
  drawn := []

/-- The trader has come to `next`. -/
def run (next : Trader) (machine : Machine) : Machine :=
  { machine with
    trader := next
    chain := gained machine.trader.purse.broadcasts next.purse.broadcasts ++ machine.chain
    drawn := gained machine.trader.purse.granted next.purse.granted ++ machine.drawn }

/-- The purse's thread has written. No setter runs meanwhile, so what it wrote is the
table as it still is. -/
def writePurse (machine : Machine) : Machine := { machine with purseFile := machine.trader.purse }

/-- The thread of the trade in a slot has written. -/
def writeTrade (slot : ℕ) (machine : Machine) : Machine :=
  match (machine.trader.agents slot).stored with
  | some file => { machine with tradeFiles := Function.update machine.tradeFiles slot (some file) }
  | none => machine

/-- The trader that is read back from the files. -/
def restored (machine : Machine) : Trader where
  purse := machine.purseFile.reopen machine.purseFile.actor.data.height
  agents slot := match machine.tradeFiles slot with
    | some file => file.relaunch
    | none => .vacant

def crash (machine : Machine) : Machine := { machine with trader := machine.restored }

/-- One step of the trader or of one of the threads, or a crash. No id is drawn twice, even
if its first drawing was lost in a crash. The threads may be slower than they are: they
need not have written when a task that ended is restarted. -/
inductive Step : Machine → Machine → Prop where
  | run {machine next} (hstep : Trader.Step machine.trader next)
      (hfresh : ∀ grant ∈ gained machine.trader.purse.granted next.purse.granted,
        ∀ sats, (grant.1, sats) ∉ machine.drawn) :
      Step machine (machine.run next)
  | writePurse {machine} : Step machine machine.writePurse
  | writeTrade {machine} (slot : ℕ) : Step machine (machine.writeTrade slot)
  | crash {machine} : Step machine machine.crash

/-- Any number of steps. -/
def Steps : Machine → Machine → Prop := Relation.ReflTransGen Step

/-- What a machine that began on an empty directory can come to. -/
def Reachable (machine : Machine) : Prop :=
  ∃ overflowChecks network height, Steps (new overflowChecks network height) machine

/-- What holds of a machine at every moment. -/
structure Consistent (machine : Machine) : Prop where
  sound : machine.trader.purse.Sound
  file : machine.purseFile.Sound
  ahead : machine.purseFile.Grows machine.trader.purse
  known : machine.trader.purse.granted ⊆ machine.drawn
  once : (machine.drawn.map Prod.fst).Nodup
  agents : ∀ slot, (machine.trader.agents slot).Holds (machine.trader.agents slot).funds
  drawn : ∀ slot grant, (machine.trader.agents slot).funds = some grant → grant ∈ machine.drawn
  files : ∀ slot file grant, machine.tradeFiles slot = some file → file.funds = some grant →
    grant ∈ machine.drawn

variable {machine next : Machine}

theorem consistent_new (overflowChecks : Bool) (network : Network) (height : ℕ) :
    (new overflowChecks network height).Consistent := by
  have hsound := (Trader.consistent_new overflowChecks network height).sound
  have hvacant : Agent.vacant.Holds Agent.vacant.funds := rfl
  refine ⟨hsound, hsound, .refl _, List.nil_subset _, List.nodup_nil, fun _ => hvacant, ?_, ?_⟩
  · intro slot grant hfunds
    cases hfunds
  · intro slot file grant hfile
    cases hfile

/-- The ids that a step draws are new, so none was drawn twice. -/
theorem Consistent.once_run (hconsistent : machine.Consistent) {next : Trader}
    (hstep : Trader.Step machine.trader next)
    (hfresh : ∀ grant ∈ gained machine.trader.purse.granted next.purse.granted,
      ∀ sats, (grant.1, sats) ∉ machine.drawn) :
    ((machine.run next).drawn.map Prod.fst).Nodup := by
  have hnew : ((gained machine.trader.purse.granted next.purse.granted).map Prod.fst).Nodup := by
    have honce := (hstep.sound hconsistent.sound).grantedOnce
    rw [← append_gained hstep.grows.granted, List.map_append] at honce
    exact honce.of_append_left
  dsimp only [Machine.run]
  rw [List.map_append]
  apply hnew.append hconsistent.once
  intro fundsId hleft hright
  obtain ⟨grant, hgrant, rfl⟩ := List.mem_map.mp hleft
  obtain ⟨⟨_, sats⟩, hold, heq⟩ := List.mem_map.mp hright
  cases heq
  exact hfresh grant hgrant sats hold

/-- What the trader does is its own business. -/
theorem Consistent.run (hconsistent : machine.Consistent) {next : Trader}
    (hstep : Trader.Step machine.trader next)
    (hfresh : ∀ grant ∈ gained machine.trader.purse.granted next.purse.granted,
      ∀ sats, (grant.1, sats) ∉ machine.drawn) : (machine.run next).Consistent := by
  have hdrawn : machine.drawn ⊆ (machine.run next).drawn := List.subset_append_right _ _
  have hknown : next.purse.granted ⊆ (machine.run next).drawn := by
    intro grant hgrant
    rw [← append_gained hstep.grows.granted] at hgrant
    rcases List.mem_append.mp hgrant with hnew | hold
    · exact List.mem_append_left _ hnew
    · exact List.mem_append_right _ (hconsistent.known hold)
  have hagent : ∀ slot, (next.agents slot).Holds (next.agents slot).funds ∧
      ∀ grant, (next.agents slot).funds = some grant → grant ∈ (machine.run next).drawn := by
    intro slot
    have hbefore : (machine.trader.agents slot).Holds (machine.trader.agents slot).funds ∧
        ∀ grant, (machine.trader.agents slot).funds = some grant →
          grant ∈ (machine.run next).drawn :=
      ⟨hconsistent.agents slot, fun grant hfunds => hdrawn (hconsistent.drawn slot grant hfunds)⟩
    rcases hstep.agent hconsistent.sound hconsistent.agents with
      hsame | ⟨other, agent, heq, hagent, hgrant⟩
    · rw [hsame]
      exact hbefore
    rw [heq]
    rcases eq_or_ne slot other with rfl | hother
    · rw [Function.update_self]
      refine ⟨hagent, fun grant hfunds => ?_⟩
      rcases hgrant grant hfunds with hold | hnew
      · exact hbefore.2 grant hold
      · exact hknown hnew
    · rw [Function.update_of_ne hother]
      exact hbefore
  refine ⟨hstep.sound hconsistent.sound, hconsistent.file, hconsistent.ahead.trans hstep.grows,
    hknown, hconsistent.once_run hstep hfresh, fun slot => (hagent slot).1,
    fun slot => (hagent slot).2, ?_⟩
  intro slot file grant hfile hfunds
  exact hdrawn (hconsistent.files slot file grant hfile hfunds)

theorem Consistent.writePurse (hconsistent : machine.Consistent) :
    machine.writePurse.Consistent :=
  ⟨hconsistent.sound, hconsistent.sound, .refl _, hconsistent.known, hconsistent.once,
    hconsistent.agents, hconsistent.drawn, hconsistent.files⟩

theorem Consistent.writeTrade (hconsistent : machine.Consistent) (slot : ℕ) :
    (machine.writeTrade slot).Consistent := by
  unfold Machine.writeTrade
  split
  next file hstored =>
    refine ⟨hconsistent.sound, hconsistent.file, hconsistent.ahead, hconsistent.known,
      hconsistent.once, hconsistent.agents, hconsistent.drawn, ?_⟩
    intro other shown grant hshown hfunds
    dsimp only at hshown
    rcases eq_or_ne other slot with rfl | hother
    · rw [Function.update_self] at hshown
      cases hshown
      rw [Agent.funds_of_stored hstored] at hfunds
      exact hconsistent.drawn other grant hfunds
    · rw [Function.update_of_ne hother] at hshown
      exact hconsistent.files other shown grant hshown hfunds
  next => exact hconsistent

/-- What is read back from the files was there before. -/
theorem Consistent.crash (hconsistent : machine.Consistent) : machine.crash.Consistent := by
  have hagent : ∀ slot, (machine.restored.agents slot).Holds (machine.restored.agents slot).funds ∧
      ∀ grant, (machine.restored.agents slot).funds = some grant → grant ∈ machine.drawn := by
    intro slot
    unfold restored
    dsimp only
    split
    next file hfile =>
      have hholds := file.holds_relaunch
      rw [hholds.funds]
      exact ⟨hholds, fun grant => hconsistent.files slot file grant hfile⟩
    next => exact ⟨rfl, nofun⟩
  refine ⟨hconsistent.file.reopen _, hconsistent.file, ?_, ?_, hconsistent.once,
    fun slot => (hagent slot).1, fun slot => (hagent slot).2, hconsistent.files⟩
  · exact ⟨List.suffix_rfl, List.suffix_rfl, List.suffix_rfl⟩
  · exact List.Subset.trans hconsistent.ahead.granted.subset hconsistent.known

theorem Consistent.step (hconsistent : machine.Consistent) (hstep : Step machine next) :
    next.Consistent := by
  cases hstep with
  | run hstep hfresh => exact hconsistent.run hstep hfresh
  | writePurse => exact hconsistent.writePurse
  | writeTrade slot => exact hconsistent.writeTrade slot
  | crash => exact hconsistent.crash

theorem Consistent.steps (hconsistent : machine.Consistent) (hsteps : Steps machine next) :
    next.Consistent := by
  induction hsteps with
  | refl => exact hconsistent
  | tail _ hstep ih => exact ih.step hstep

theorem Reachable.consistent (hreachable : machine.Reachable) : machine.Consistent := by
  obtain ⟨overflowChecks, network, height, hsteps⟩ := hreachable
  exact (consistent_new overflowChecks network height).steps hsteps

/-! ## What a restart finds -/

/-- A payment that the trader has just made is none from an id that was settled. -/
theorem Consistent.not_gained (hconsistent : machine.Consistent) {next : Trader}
    (hstep : Trader.Step machine.trader next) {fundsId : Uuid}
    (hsettled : machine.purseFile.Settled fundsId) (tx : Tx) :
    (fundsId, tx) ∉ gained machine.trader.purse.broadcasts next.purse.broadcasts := by
  intro hgained
  have hsplit := append_gained hstep.grows.broadcasts
  have hbroadcast : (fundsId, tx) ∈ next.purse.broadcasts := by
    rw [← hsplit]
    exact List.mem_append_left _ hgained
  rcases hstep.paid hbroadcast with hold | ⟨sats, hlookup⟩
  · -- the id would be paid twice in one record
    have honce := (hstep.sound hconsistent.sound).paidOnce
    rw [← hsplit, List.map_append] at honce
    exact (List.disjoint_of_nodup_append honce) (List.mem_map_of_mem hgained)
      (List.mem_map_of_mem hold)
  · rw [(hsettled.grows hconsistent.ahead).lookup hconsistent.sound] at hlookup
    cases hlookup

/-- What is settled in the file stays so, and nothing more is paid from it. -/
theorem Consistent.step_of_settled (hconsistent : machine.Consistent) (hstep : Step machine next)
    {fundsId : Uuid} (hsettled : machine.purseFile.Settled fundsId) :
    next.purseFile.Settled fundsId ∧ next.chain.filter (fun payment => payment.1 = fundsId) =
      machine.chain.filter fun payment => payment.1 = fundsId := by
  cases hstep with
  | @run next hstep hfresh =>
      refine ⟨hsettled, ?_⟩
      dsimp only [Machine.run]
      rw [List.filter_append, List.append_left_eq_self, List.filter_eq_nil_iff]
      intro payment hgained hpaid
      obtain ⟨paid, tx⟩ := payment
      obtain rfl := of_decide_eq_true hpaid
      exact hconsistent.not_gained hstep hsettled tx hgained
  | writePurse => exact ⟨hsettled.grows hconsistent.ahead, rfl⟩
  | writeTrade slot =>
      unfold Machine.writeTrade
      split
      next => exact ⟨hsettled, rfl⟩
      next => exact ⟨hsettled, rfl⟩
  | crash => exact ⟨hsettled, rfl⟩

theorem Consistent.steps_of_settled (hconsistent : machine.Consistent) {fundsId : Uuid}
    (hsettled : machine.purseFile.Settled fundsId) {later : Machine}
    (hsteps : Steps machine later) :
    later.purseFile.Settled fundsId ∧ later.chain.filter (fun payment => payment.1 = fundsId) =
      machine.chain.filter fun payment => payment.1 = fundsId := by
  induction hsteps with
  | refl => exact ⟨hsettled, rfl⟩
  | tail hbefore hstep ih =>
      obtain ⟨hsettled, hchain⟩ := ih
      obtain ⟨hafter, hsame⟩ := (hconsistent.steps hbefore).step_of_settled hstep hsettled
      exact ⟨hafter, hsame.trans hchain⟩

/-- What a crash at this moment leaves of the ledger. -/
structure Recoverable (machine : Machine) : Prop where
  /-- The restart finds exactly the ids that the file of the purse shows as granted and
  neither as paid nor as freed. -/
  allocated : ∀ fundsId sats, machine.restored.purse.lookup fundsId = some sats ↔
    (fundsId, sats) ∈ machine.purseFile.granted ∧ ¬machine.purseFile.Settled fundsId
  /-- An id that the file shows as paid or freed is not allocated again, nor paid from. -/
  settled : ∀ fundsId, machine.purseFile.Settled fundsId → ∀ later, Steps machine later →
    later.trader.purse.lookup fundsId = none ∧
      later.chain.filter (fun payment => payment.1 = fundsId) =
        machine.chain.filter fun payment => payment.1 = fundsId
  /-- A restored Buy maker or Sell taker finds its funds if the file of the purse shows the
  grant and no payment and no release of it. -/
  funded : ∀ slot fundsId sats, (machine.restored.agents slot).funds = some (fundsId, sats) →
    (machine.restored.purse.lookup fundsId = some sats ↔
      fundsId ∈ machine.purseFile.granted.map Prod.fst ∧ ¬machine.purseFile.Settled fundsId)

theorem Consistent.allocated (hconsistent : machine.Consistent) (fundsId : Uuid) (sats : ℕ) :
    machine.restored.purse.lookup fundsId = some sats ↔
      (fundsId, sats) ∈ machine.purseFile.granted ∧ ¬machine.purseFile.Settled fundsId :=
  hconsistent.crash.sound.lookup_iff

/-- At whatever moment a trader crashes, and however often it has crashed before, this is
what the restart finds. -/
theorem crash_consistent (hreachable : machine.Reachable) : machine.Recoverable := by
  have hconsistent := hreachable.consistent
  refine ⟨hconsistent.allocated, ?_, ?_⟩
  · intro fundsId hsettled later hsteps
    have hlater := hconsistent.steps hsteps
    obtain ⟨hafter, hchain⟩ := hconsistent.steps_of_settled hsettled hsteps
    exact ⟨(hafter.grows hlater.ahead).lookup hlater.sound, hchain⟩
  · intro slot fundsId sats hfunds
    have hown : (fundsId, sats) ∈ machine.drawn := hconsistent.crash.drawn slot _ hfunds
    rw [hconsistent.allocated]
    refine and_congr_left fun _ => ⟨List.mem_map_of_mem, fun hgranted => ?_⟩
    -- the trade's own grant is the only one that was ever drawn for its id
    obtain ⟨⟨_, granted⟩, hgrant, rfl⟩ := List.mem_map.mp hgranted
    have hdrawn := hconsistent.known (hconsistent.ahead.granted.subset hgrant)
    have hsats : granted = sats :=
      congrArg Prod.snd (List.inj_on_of_nodup_map hconsistent.once hdrawn hown rfl)
    rw [← hsats]
    exact hgrant

/-! ## Runs without a crash -/

theorem run_self (machine : Machine) : machine.run machine.trader = machine := by
  unfold run
  rw [gained_self, gained_self]
  rfl

theorem run_run {second third : Trader} (hfirst : machine.trader.purse.Grows second.purse)
    (hsecond : second.purse.Grows third.purse) :
    (machine.run second).run third = machine.run third := by
  unfold run
  dsimp only
  rw [← List.append_assoc, ← List.append_assoc, gained_trans hfirst.granted hsecond.granted,
    gained_trans hfirst.broadcasts hsecond.broadcasts]

/-- Whatever a trader does on its own, the machine does, as long as its ids are new. -/
theorem steps_run {later : Trader} (hsteps : Trader.Steps machine.trader later)
    (hsound : machine.trader.purse.Sound)
    (hfresh : ∀ grant ∈ gained machine.trader.purse.granted later.purse.granted,
      ∀ sats, (grant.1, sats) ∉ machine.drawn) : Steps machine (machine.run later) := by
  induction hsteps with
  | refl =>
      rw [run_self]
      exact .refl
  | @tail middle later hbefore hstep ih =>
      obtain ⟨hmiddle, hgrows⟩ := Trader.sound_of_steps hsound hbefore
      have hsplit := gained_trans hgrows.granted hstep.grows.granted
      rw [← hsplit] at hfresh
      have hfirst := ih fun grant hgrant => hfresh grant (List.mem_append_right _ hgrant)
      rw [← run_run hgrows hstep.grows]
      refine hfirst.tail (.run hstep ?_)
      intro grant hgrant sats hdrawn
      rcases List.mem_append.mp hdrawn with hearlier | hold
      · -- no id is granted twice within the run
        have honce := (hstep.sound hmiddle).grantedOnce
        rw [← append_gained hstep.grows.granted, List.map_append] at honce
        have hknown : (grant.1, sats) ∈ middle.purse.granted := by
          rw [← append_gained hgrows.granted]
          exact List.mem_append_left _ hearlier
        exact (List.disjoint_of_nodup_append honce) (List.mem_map_of_mem hgrant)
          (List.mem_map.mpr ⟨_, hknown, rfl⟩)
      · exact hfresh grant (List.mem_append_left _ hgrant) sats hold

/-- Take turns, one after the other. -/
def play (turns : List (Turn × WalletAnswers × Surroundings)) (machine : Machine) : Machine :=
  machine.run (machine.trader.play turns)

theorem steps_play (hconsistent : machine.Consistent)
    (turns : List (Turn × WalletAnswers × Surroundings))
    (hfresh : machine.drawn = [] ∨
      gained machine.trader.purse.granted (machine.trader.play turns).purse.granted = []) :
    Steps machine (machine.play turns) := by
  apply steps_run (Trader.steps_play turns) hconsistent.sound
  intro grant hgrant sats hdrawn
  rcases hfresh with hnone | hnone
  · rw [hnone] at hdrawn
    cases hdrawn
  · rw [hnone] at hgrant
    cases hgrant

theorem Reachable.steps (hreachable : machine.Reachable) (hsteps : Steps machine next) :
    next.Reachable := by
  obtain ⟨overflowChecks, network, height, hbefore⟩ := hreachable
  exact ⟨overflowChecks, network, height, hbefore.trans hsteps⟩

theorem reachable_new (overflowChecks : Bool) (network : Network) (height : ℕ) :
    (new overflowChecks network height).Reachable :=
  ⟨overflowChecks, network, height, .refl⟩

end Machine

end Crash

section Crashes

open scoped Sample

/-- A Buy maker is created, and only its own file is written. -/
def Sample.created : Machine :=
  ((Machine.new true .regtest 100).play [(.newMaker 0 (Sample.order .buy) (some "npub1maker"),
    Sample.wallet ⟨1⟩, Sample.surroundings)]).writeTrade 0

/-- A Buy maker accepts an offer and hears of the peer's address, and both files are
written. -/
def Sample.written : Machine :=
  ((Machine.new true .regtest 100).play [
    (.newMaker 0 (Sample.order .buy) (some "npub1maker"), Sample.wallet ⟨1⟩, Sample.surroundings),
    (.resume 0, Sample.wallet ⟨2⟩, Sample.surroundings),
    (.tellMaker 0 (.request (.tradeResponse .accept Sample.offer)), Sample.wallet ⟨2⟩,
      Sample.surroundings),
    (.tellMaker 0 (.notif (.ok (.peer Sample.peerEnvelope))), Sample.wallet ⟨2⟩,
      Sample.surroundings)]).writePurse.writeTrade 0

/-- Then it pays, and no file is written any more. -/
def Sample.unwritten : Machine := Sample.written.play
  [(.tellMaker 0 (.request (.releaseNotifyPeer none)), Sample.wallet ⟨2⟩, Sample.surroundings)]

/-- After a crash it is released once more. -/
def Sample.paidAgain : Machine := Sample.unwritten.crash.play [
  (.resume 0, Sample.wallet ⟨2⟩, Sample.surroundings),
  (.tellMaker 0 (.request (.releaseNotifyPeer none)), Sample.wallet ⟨2⟩, Sample.surroundings)]

theorem Sample.reachable_created : Sample.created.Reachable := by
  have hnew := Machine.reachable_new true .regtest 100
  exact (hnew.steps (Machine.steps_play hnew.consistent _ (.inl rfl))).steps
    (.single (.writeTrade 0))

theorem Sample.reachable_unwritten : Sample.unwritten.Reachable := by
  have hnew := Machine.reachable_new true .regtest 100
  have hwritten : Sample.written.Reachable :=
    (hnew.steps (Machine.steps_play hnew.consistent _ (.inl rfl))).steps
      (.head .writePurse (.single (.writeTrade 0)))
  exact hwritten.steps (Machine.steps_play hwritten.consistent _ (.inr (by decide +kernel)))

theorem Machine.crash_consistent_unwritten :
    Sample.unwritten.writePurse.purseFile.Settled ⟨1⟩ ∧ Sample.unwritten.writePurse.Recoverable :=
  ⟨.inl (by decide +kernel),
    crash_consistent (Sample.reachable_unwritten.steps (.single .writePurse))⟩

/-- A payment that the file of the purse does not show yet is made again after a crash, and a
trade whose grant it does not show yet finds no funds. -/
theorem Machine.crash_inconsistent :
    (Sample.unwritten.Reachable ∧ ⟨1⟩ ∈ Sample.unwritten.chain.map Prod.fst ∧
      Sample.unwritten.restored.purse.lookup ⟨1⟩ = some 50 ∧
      Steps Sample.unwritten.crash Sample.paidAgain ∧
      Sample.paidAgain.chain.map Prod.fst = [⟨1⟩, ⟨1⟩]) ∧
    (Sample.created.Reachable ∧ (Sample.created.restored.agents 0).funds = some (⟨1⟩, 50) ∧
      (Sample.created.restored.agents 0).goesOn = true ∧
      ⟨1⟩ ∉ Sample.created.chain.map Prod.fst ∧
      Sample.created.restored.purse.lookup ⟨1⟩ = none) := by
  refine ⟨⟨Sample.reachable_unwritten, by decide +kernel, by decide +kernel, ?_, by decide +kernel⟩,
    Sample.reachable_created, by decide +kernel, by decide +kernel, by decide +kernel,
    by decide +kernel⟩
  have hcrashed : Sample.unwritten.crash.Reachable :=
    Sample.reachable_unwritten.steps (.single .crash)
  exact steps_play hcrashed.consistent _ (.inr (by decide +kernel))

end Crashes

end FatCrabTrading
