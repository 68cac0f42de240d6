import FatCrabTrading.Purse.Ledger
import FatCrabTrading.Trader.Trader

/-! # Whole turns of a trader

A turn serves one message, or starts one task, from beginning to end. It is a run of
single steps, so what is played turn by turn is reachable; and it can be computed.
-/

namespace FatCrabTrading

open Effect

variable [Bitcoin]

theorem Purse.fresh_iff {purse : Purse} {answers : WalletAnswers} :
    purse.Fresh answers ↔ answers .newV4 ∉ purse.granted.map Prod.fst := by
  unfold Purse.Fresh
  constructor
  · intro hfresh hmem
    obtain ⟨⟨_, sats⟩, hgrant, rfl⟩ := List.mem_map.mp hmem
    exact hfresh sats hgrant
  · intro hnew sats hgrant
    exact hnew (List.mem_map_of_mem hgrant)

instance (purse : Purse) (answers : WalletAnswers) : Decidable (purse.Fresh answers) :=
  decidable_of_iff _ Purse.fresh_iff.symm

section Task

variable {σ Msg : Type} {code : Behaviour σ Msg tradeInterface} {answers : WalletAnswers}
  {around : Surroundings} {actor : Actor σ Msg tradeInterface}

/-- What the task has become when its program ended. -/
def settled (result : Program.Result σ (Served σ Msg) Flow) : Actor σ Msg tradeInterface where
  store := result.store
  task := match result.outcome with
    | .done flow => flow.task
    | .panicked => .dead
  history := result.environment.history

/-- Run what the task is doing to its end. -/
def runTask (answers : WalletAnswers) (around : Surroundings) (purse : Purse)
    (actor : Actor σ Msg tradeInterface) : Purse × Actor σ Msg tradeInterface :=
  match actor.task with
  | .running program =>
      let result := program.exec (served answers around) actor.store ⟨purse, actor.history⟩
      (result.environment.purse, settled result)
  | _ => (purse, actor)

/-- Take a message, if the task waits for one. -/
def take (code : Behaviour σ Msg tradeInterface) (message : Msg)
    (actor : Actor σ Msg tradeInterface) : Actor σ Msg tradeInterface :=
  match actor.task with
  | .idle => ⟨actor.store, .running (code.handle message),
      .received message actor.store :: actor.history⟩
  | _ => actor

/-- What was granted stays granted while a handler runs. -/
theorem mem_granted_exec {α : Type} {grant : Uuid × ℕ} (program : Handler σ α) (store : σ)
    (environment : Served σ Msg) (hgrant : grant ∈ environment.purse.granted) :
    grant ∈ (program.exec (served answers around) store environment).environment.purse.granted := by
  induction program generalizing store environment with
  | pure value => exact hgrant
  | panic => exact hgrant
  | get next ih => exact ih store store environment hgrant
  | modify f next ih => exact ih (f store) environment hgrant
  | call c next ih =>
      apply ih
      cases c with
      | purse request => exact Purse.mem_granted_of_serve rfl hgrant
      | n3xb request | notify notifTx notif | respond rsp | terminate => exact hgrant

namespace Trader

variable {wrap : Actor σ Msg tradeInterface → Agent}

/-- A step of the actor in a slot, with what the purse makes of it. -/
theorem step_actor
    (hwrap : ∀ {before action after}, Actor.Step code before action after →
      (wrap before).Step (.of action) (wrap after))
    {trader : Trader} {slot : ℕ} {before after : Actor σ Msg tradeInterface}
    {action : Action Msg tradeInterface} {purse : Purse}
    (hagent : trader.agents slot = wrap before) (hstep : Actor.Step code before action after)
    (hanswers : trader.purse.Answers (.of action) purse) :
    Step trader ⟨purse, Function.update trader.agents slot (wrap after)⟩ := by
  refine .act ?_ hanswers
  rw [hagent]
  exact hwrap hstep

/-- No call of the program draws an id, which some invariant of its runs shows. -/
def DrawsNothing {α : Type} (program : Handler σ α) (history : History σ Msg tradeInterface)
    (store : σ) : Prop :=
  ∃ (always : History σ Msg tradeInterface → σ → Prop)
    (post : History σ Msg tradeInterface → σ → α → Prop),
    program.Safe (fun _ _ => True) always post history store ∧
      ∀ sats reply store past,
        ¬always (.called (.purse (.allocateFunds sats)) reply store :: past) store

theorem DrawsNothing.call {α : Type} {c : TradeCall} {next : c.Reply → Handler σ α} {store : σ}
    {history : History σ Msg tradeInterface}
    (hdraws : DrawsNothing (.call c next : Handler σ α) history store) (reply : c.Reply) :
    (∀ sats, c ≠ .purse (.allocateFunds sats)) ∧
      DrawsNothing (next reply) (.called c reply store :: history) store := by
  obtain ⟨always, post, hsafe, hnever⟩ := hdraws
  obtain ⟨halways, hnext⟩ := hsafe reply trivial
  refine ⟨?_, always, post, hnext, hnever⟩
  rintro sats rfl
  exact hnever sats reply store history halways

/-- A handler that is run to its end takes single steps of its agent. -/
theorem steps_exec
    (hwrap : ∀ {before action after}, Actor.Step code before action after →
      (wrap before).Step (.of action) (wrap after))
    (program : Handler σ Flow) {trader : Trader} {slot : ℕ} {store : σ}
    {history : History σ Msg tradeInterface}
    (hagent : trader.agents slot = wrap ⟨store, .running program, history⟩)
    (hdraws : DrawsNothing program history store ∨ (program.exec (served answers around) store
      ⟨trader.purse, history⟩).environment.purse.Fresh answers) :
    Steps trader ⟨(program.exec (served answers around) store
        ⟨trader.purse, history⟩).environment.purse,
      Function.update trader.agents slot
        (wrap (settled (program.exec (served answers around) store ⟨trader.purse, history⟩)))⟩ := by
  -- after a step, the same slot holds the rest of the program
  have hself : ∀ (purse : Purse) (next : Actor σ Msg tradeInterface),
      (Trader.mk purse (Function.update trader.agents slot (wrap next))).agents slot = wrap next :=
    fun purse next => Function.update_self ..
  induction program generalizing trader store history with
  | pure flow => exact .single (step_actor hwrap hagent (.finish flow) rfl)
  | panic => exact .single (step_actor hwrap hagent .die rfl)
  | get next ih =>
      have hsteps := ih store (hself _ _) hdraws fun purse next => Function.update_self ..
      rw [Function.update_idem] at hsteps
      exact .head (step_actor hwrap hagent (.get next) rfl) hsteps
  | modify f next ih =>
      have hrest := hdraws.imp_left fun ⟨always, post, hsafe, hnever⟩ =>
        show DrawsNothing next history (f store) from ⟨always, post, hsafe.2, hnever⟩
      have hsteps := ih (hself _ _) hrest fun purse next => Function.update_self ..
      rw [Function.update_idem] at hsteps
      exact .head (step_actor hwrap hagent (.modify f next) rfl) hsteps
  | call c next ih =>
      cases c with
      | purse request =>
          have hsteps := ih _ (hself _ _) (hdraws.imp_left fun hdraws => (hdraws.call _).2)
            fun purse next => Function.update_self ..
          rw [Function.update_idem] at hsteps
          have hcall := @Actor.Step.call σ Msg tradeInterface code store history
            (.purse request) next (trader.purse.serve answers request).1
          refine .head (step_actor hwrap hagent hcall ?_) hsteps
          refine ⟨answers, fun sats hrequest => ?_, rfl⟩
          -- the id that is drawn must be new; only an allocation draws one
          rcases hdraws with hdraws | hfresh
          · exact absurd (congrArg TradeCall.purse hrequest)
              ((hdraws.call (trader.purse.serve answers request).1).1 sats)
          · exact fun sats hgrant => hfresh sats (mem_granted_exec _ _ _ hgrant)
      | n3xb request | notify notifTx notif | respond rsp | terminate =>
          have hsteps := ih _ (hself _ _) (hdraws.imp_left fun hdraws => (hdraws.call _).2)
            fun purse next => Function.update_self ..
          rw [Function.update_idem] at hsteps
          refine .head (step_actor hwrap hagent (.call _ next _) ?_) hsteps
          rfl

/-- Going on with the task of a slot to the end of its program. -/
theorem steps_runTask
    (hwrap : ∀ {before action after}, Actor.Step code before action after →
      (wrap before).Step (.of action) (wrap after))
    {trader : Trader} {slot : ℕ} (hagent : trader.agents slot = wrap actor)
    (hfresh : (runTask answers around trader.purse actor).1.Fresh answers) :
    Steps trader ⟨(runTask answers around trader.purse actor).1,
      Function.update trader.agents slot
        (wrap (runTask answers around trader.purse actor).2)⟩ := by
  obtain ⟨store, task, history⟩ := actor
  cases task with
  | running program => exact steps_exec hwrap program hagent (.inr hfresh)
  | idle | ended | dead =>
      simp only [runTask, ← hagent, Function.update_eq_self]
      exact .refl

/-- Taking a message is one step, if the task waits for one. -/
theorem steps_take
    (hwrap : ∀ {before action after}, Actor.Step code before action after →
      (wrap before).Step (.of action) (wrap after))
    {trader : Trader} {slot : ℕ} (hagent : trader.agents slot = wrap actor) (message : Msg) :
    Steps trader ⟨trader.purse,
      Function.update trader.agents slot (wrap (take code message actor))⟩ := by
  obtain ⟨store, task, history⟩ := actor
  cases task with
  | idle => exact .single (step_actor hwrap hagent (.receive message) rfl)
  | running program | ended | dead =>
      simp only [take, ← hagent, Function.update_eq_self]
      exact .refl

end Trader

end Task

/-- One turn of a trader. -/
inductive Turn where
  | newMaker (slot : ℕ) (order : FatCrabOrder) (fatcrabRxAddr : Option String)
  | newTaker (slot : ℕ) (orderEnvelope : FatCrabOrderEnvelope) (fatcrabRxAddr : Option String)
  | tellMaker (slot : ℕ) (message : MakerMsg)
  | tellTaker (slot : ℕ) (message : TakerMsg)
  | resume (slot : ℕ)

/-- The slot whose turn it is. -/
def Turn.slot : Turn → ℕ
  | .newMaker slot _ _ | .newTaker slot _ _ | .tellMaker slot _ | .tellTaker slot _
  | .resume slot => slot

namespace Trader

/-- Whether nothing was started in a slot. -/
def isVacant (slot : ℕ) (trader : Trader) : Bool :=
  match trader.agents slot with
  | .vacant => true
  | _ => false

/-- Go on with what the task of a slot is doing, to its end. -/
def resume (slot : ℕ) (answers : WalletAnswers) (around : Surroundings) (trader : Trader) :
    Trader :=
  match trader.agents slot with
  | .vacant => trader
  | .maker actor =>
      let ran := runTask answers around trader.purse actor
      ⟨ran.1, Function.update trader.agents slot (.maker ran.2)⟩
  | .taker actor =>
      let ran := runTask answers around trader.purse actor
      ⟨ran.1, Function.update trader.agents slot (.taker ran.2)⟩
  | .wallet actor =>
      let ran := runTask answers around trader.purse actor
      ⟨ran.1, Function.update trader.agents slot (.wallet ran.2)⟩

/-- Hand a message to the maker of a slot. -/
def tellMaker (slot : ℕ) (message : MakerMsg) (trader : Trader) : Trader :=
  match trader.agents slot with
  | .maker actor => ⟨trader.purse,
      Function.update trader.agents slot (.maker (take FatCrabMakerActor.code message actor))⟩
  | _ => trader

/-- Hand a message to the taker of a slot. -/
def tellTaker (slot : ℕ) (message : TakerMsg) (trader : Trader) : Trader :=
  match trader.agents slot with
  | .taker actor => ⟨trader.purse,
      Function.update trader.agents slot (.taker (take FatCrabTakerActor.code message actor))⟩
  | _ => trader

/-- Go on with a task, unless an id would be drawn twice. -/
def resumeFresh (slot : ℕ) (answers : WalletAnswers) (around : Surroundings) (trader : Trader) :
    Trader :=
  if (trader.resume slot answers around).purse.Fresh answers then
    trader.resume slot answers around
  else
    trader

/-- Take a turn. What cannot happen is left out. -/
def perform (trader : Trader) : Turn × WalletAnswers × Surroundings → Trader
  | (.newMaker slot order fatcrabRxAddr, answers, around) =>
      if trader.isVacant slot = true ∧ trader.purse.Fresh answers then
        let result := trader.createMaker order fatcrabRxAddr answers around
        ⟨result.environment.purse,
          Function.update trader.agents slot (startMaker result.outcome)⟩
      else
        trader
  | (.newTaker slot orderEnvelope fatcrabRxAddr, answers, around) =>
      if trader.isVacant slot = true ∧ trader.purse.Fresh answers then
        let result := trader.createTaker orderEnvelope fatcrabRxAddr answers around
        ⟨result.environment.purse,
          Function.update trader.agents slot (startTaker result.outcome)⟩
      else
        trader
  | (.tellMaker slot message, answers, around) =>
      (trader.tellMaker slot message).resumeFresh slot answers around
  | (.tellTaker slot message, answers, around) =>
      (trader.tellTaker slot message).resumeFresh slot answers around
  | (.resume slot, answers, around) => trader.resumeFresh slot answers around

/-- Take turns, one after the other. -/
def play (turns : List (Turn × WalletAnswers × Surroundings)) (trader : Trader) : Trader :=
  turns.foldl perform trader

variable {trader : Trader} {slot : ℕ} {answers : WalletAnswers} {around : Surroundings}

theorem vacant_of_isVacant (hvacant : trader.isVacant slot = true) :
    trader.agents slot = .vacant := by
  unfold isVacant at hvacant
  split at hvacant
  next hagent => exact hagent
  next => cases hvacant

theorem steps_resume (hfresh : (trader.resume slot answers around).purse.Fresh answers) :
    Steps trader (trader.resume slot answers around) := by
  unfold resume at hfresh ⊢
  split
  next => exact .refl
  next actor hagent =>
    rw [hagent] at hfresh
    exact steps_runTask .maker hagent hfresh
  next actor hagent =>
    rw [hagent] at hfresh
    exact steps_runTask .taker hagent hfresh
  next actor hagent =>
    rw [hagent] at hfresh
    exact steps_runTask .wallet hagent hfresh

theorem steps_resumeFresh : Steps trader (trader.resumeFresh slot answers around) := by
  unfold resumeFresh
  split
  next hfresh => exact steps_resume hfresh
  next => exact .refl

theorem steps_tellMaker (message : MakerMsg) : Steps trader (trader.tellMaker slot message) := by
  unfold tellMaker
  split
  next actor hagent => exact steps_take .maker hagent message
  next => exact .refl

theorem steps_tellTaker (message : TakerMsg) : Steps trader (trader.tellTaker slot message) := by
  unfold tellTaker
  split
  next actor hagent => exact steps_take .taker hagent message
  next => exact .refl

/-- A turn is a run of single steps. -/
theorem steps_perform (turn : Turn × WalletAnswers × Surroundings) :
    Steps trader (trader.perform turn) := by
  obtain ⟨turn, answers, around⟩ := turn
  cases turn with
  | newMaker slot order fatcrabRxAddr =>
      simp only [perform]
      split
      next h => exact .single (.newMaker (vacant_of_isVacant h.1) h.2 rfl)
      next => exact .refl
  | newTaker slot orderEnvelope fatcrabRxAddr =>
      simp only [perform]
      split
      next h => exact .single (.newTaker (vacant_of_isVacant h.1) h.2 rfl)
      next => exact .refl
  | tellMaker slot message => exact (steps_tellMaker message).trans steps_resumeFresh
  | tellTaker slot message => exact (steps_tellTaker message).trans steps_resumeFresh
  | resume slot => exact steps_resumeFresh

theorem steps_play (turns : List (Turn × WalletAnswers × Surroundings)) :
    Steps trader (trader.play turns) := by
  induction turns generalizing trader with
  | nil => exact .refl
  | cons turn rest ih => exact (steps_perform turn).trans ih

theorem Reachable.step {next : Trader} (hreachable : trader.Reachable) (hstep : Step trader next) :
    next.Reachable := by
  obtain ⟨overflowChecks, network, height, hsteps⟩ := hreachable
  exact ⟨overflowChecks, network, height, hsteps.tail hstep⟩

theorem Reachable.play (hreachable : trader.Reachable)
    (turns : List (Turn × WalletAnswers × Surroundings)) : (trader.play turns).Reachable := by
  obtain ⟨overflowChecks, network, height, hsteps⟩ := hreachable
  exact ⟨overflowChecks, network, height, hsteps.trans (steps_play turns)⟩

theorem reachable_new (overflowChecks : Bool) (network : Network) (height : ℕ) :
    (new overflowChecks network height).Reachable :=
  ⟨overflowChecks, network, height, .refl⟩

end Trader

end FatCrabTrading
