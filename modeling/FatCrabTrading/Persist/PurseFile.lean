import FatCrabTrading.Persist.Upkeep
import FatCrabTrading.Purse.Height
import FatCrabTrading.Trader.Crash
import FatCrabTrading.Trader.Shutdown

/-! # The purse and its file

The purse's task serves requests, its persister's thread writes the file, and both go on at
their own pace. The task ends on `Shutdown`, which joins the thread, or in a panic. The next
purse reads the file.
-/

namespace FatCrabTrading

/-! ## What the purse's handlers write -/

/-- The setters that queue the store to be written. -/
inductive PurseData.Setter where
  | allocateFunds (uuid : Uuid) (amount : ℕ) (height : Option ℕ)
  | deallocateFunds (uuid : Uuid) (height : Option ℕ)

def PurseData.set : Setter → PurseData → PurseData
  | .allocateFunds uuid amount height, data => data.allocateFunds uuid amount height
  | .deallocateFunds uuid height, data => data.deallocateFunds uuid height

/-- `set_height`, which queues nothing. -/
def PurseData.SetsHeight (before after : PurseData) : Prop :=
  ∃ height, after = before.setHeight height

/-- After any number of heights were set, all but the height is as before. -/
theorem PurseData.setsHeight_run {before after : PurseData}
    (hrun : Relation.ReflTransGen PurseData.SetsHeight before after) :
    before = after.setHeight before.height := by
  induction hrun with
  | refl => rfl
  | tail _ hsets ih =>
      obtain ⟨height, rfl⟩ := hsets
      exact ih

section Writes

variable [Bitcoin]

/-- The requests that take the store's lock to write. -/
def PurseRequest.writes : PurseRequest → Bool
  | .allocateFunds _ | .freeFunds _ | .sendFunds _ _ | .syncBlockchain => true
  | .getMnemonic | .getRxAddress | .getBalances | .getHeight | .getTxConf _ | .shutdown => false

/-- Whether an answered request has queued the store. -/
def PurseRequest.queued (request : PurseRequest) (reply : Option request.Reply) : Bool :=
  reply.elim false request.queues

namespace Purse

variable {purse after : Purse} {answers : WalletAnswers} {request : PurseRequest}
  {reply : Option request.Reply}

/-- What one request writes: a setter that queues the store, or a height, or nothing. -/
theorem serve_writes (hserve : purse.serve answers request = (reply, after)) :
    (request.queued reply = true ∧ request.writes = true ∧
      ∃ setter, after.actor.data = purse.actor.data.set setter) ∨
    (request.queued reply = false ∧ request.writes = true ∧
      purse.actor.data.SetsHeight after.actor.data) ∨
    (request.queued reply = false ∧ after.actor.data = purse.actor.data) := by
  by_cases hserving : purse.status = .serving
  swap
  · rw [serve_of_not_serving hserving] at hserve
    cases hserve
    exact .inr (.inr ⟨rfl, rfl⟩)
  cases request with
  | allocateFunds sats =>
      rw [serve_allocateFunds hserving] at hserve
      split at hserve
      next =>
        cases hserve
        exact .inr (.inr ⟨rfl, rfl⟩)
      next =>
        cases hserve
        exact .inr (.inr ⟨rfl, rfl⟩)
      next =>
        cases hserve
        exact .inl ⟨rfl, rfl,
          .allocateFunds (answers .newV4) sats (some purse.actor.data.height), rfl⟩
  | freeFunds fundsId =>
      have hset : (purse.deallocate fundsId).actor.data = purse.actor.data.set
          (.deallocateFunds fundsId (some purse.actor.data.height)) := rfl
      rw [serve_freeFunds hserving] at hserve
      split at hserve
      next =>
        cases hserve
        exact .inl ⟨rfl, rfl, _, hset⟩
      next =>
        cases hserve
        exact .inl ⟨rfl, rfl, _, hset⟩
  | sendFunds fundsId address =>
      rw [serve_sendFunds hserving] at hserve
      split at hserve
      next =>
        cases hserve
        exact .inr (.inr ⟨rfl, rfl⟩)
      next =>
        split at hserve
        next =>
          cases hserve
          exact .inr (.inr ⟨rfl, rfl⟩)
        next =>
          cases hserve
          exact .inl ⟨rfl, rfl, .deallocateFunds fundsId (some purse.actor.data.height), rfl⟩
  | syncBlockchain =>
      rw [serve_syncBlockchain hserving] at hserve
      split at hserve
      next =>
        cases hserve
        exact .inr (.inr ⟨rfl, rfl⟩)
      next =>
        cases hserve
        exact .inr (.inr ⟨rfl, rfl⟩)
      next =>
        cases hserve
        exact .inr (.inl ⟨rfl, rfl, _, rfl⟩)
  | _ =>
      have hdata := congrArg (·.2.actor.data) hserve
      dsimp only at hdata
      rw [serve_of_serving hserving, settle_actor, handle_untouched rfl] at hdata
      · exact .inr (.inr ⟨by cases reply <;> rfl, hdata.symm⟩)
      · rintro ⟨⟩

/-- A request that is not answered has killed the purse. -/
theorem dead_of_serve_none (hserving : purse.status = .serving)
    (hserve : purse.serve answers request = (none, after)) : after.status = .dead := by
  rw [serve_of_serving hserving] at hserve
  unfold settle at hserve
  split at hserve
  next => cases hserve
  next =>
    cases hserve
    rfl

/-- A purse serves on or dies, unless it is told to shut down. -/
theorem status_serve (hserving : purse.status = .serving) (hrequest : request ≠ .shutdown)
    (hserve : purse.serve answers request = (reply, after)) :
    after.status = .serving ∨ after.status = .dead ∧ request.queued reply = false := by
  cases reply with
  | none => exact .inr ⟨dead_of_serve_none hserving hserve, rfl⟩
  | some reply => exact .inl (serving_of_serve hserve hrequest)

end Purse

/-! ## A purse that keeps its table -/

namespace Purse

/-- One step of a purse without a file: it serves, or dies when a client has gone away, or is
opened again with its table, at some height. -/
inductive Step : Purse → Purse → Prop where
  | serve {purse : Purse} (answers : WalletAnswers) (request : PurseRequest)
      (hdraws : purse.DrawsFresh answers request) : Step purse (purse.serve answers request).2
  | abandon {purse : Purse} : Step purse { purse with status := .dead }
  | reopen {purse : Purse} (height : ℕ) (hover : purse.status ≠ .serving) :
      Step purse (purse.reopen height)

/-- Any number of steps. -/
def Steps : Purse → Purse → Prop := Relation.ReflTransGen Step

variable {purse next later : Purse}

theorem Step.sound (hstep : Step purse next) (hsound : purse.Sound) : next.Sound := by
  cases hstep with
  | serve answers request hdraws => exact hsound.serve hdraws
  | abandon => exact hsound.congr (fun _ => rfl) rfl rfl rfl
  | reopen height hover => exact hsound.reopen height

theorem Steps.sound (hsteps : Steps purse later) (hsound : purse.Sound) : later.Sound := by
  induction hsteps with
  | refl => exact hsound
  | tail _ hstep ih => exact hstep.sound ih

end Purse

/-! ## The purse's task and its thread -/

/-- What the derived serializers do: a store is read back from the text that was written. -/
abbrev PurseFormat (Json : Type) := FileFormat PurseData Json

/-- `PurseData::restore`, if there is a file. It panics on a text that it cannot read. -/
def PurseFormat.readFile {Json : Type} (format : PurseFormat Json) :
    Option Json → Option (Option PurseData)
  | none => some none
  | some json => (format.fromJson json).map some

/-- A step of the purse's persister. -/
abbrev PurseFormat.Step {Json : Type} (format : PurseFormat Json) :
    Upkeep PurseData Json → Upkeep PurseData Json → Prop :=
  Upkeep.Step format.toJson PurseData.set PurseData.SetsHeight

/-- Any number of steps. -/
abbrev PurseFormat.Steps {Json : Type} (format : PurseFormat Json) :
    Upkeep PurseData Json → Upkeep PurseData Json → Prop :=
  Upkeep.Steps format.toJson PurseData.set PurseData.SetsHeight

/-- A purse with its persister. -/
structure PurseTask (Json : Type) where
  purse : Purse
  upkeep : Upkeep PurseData Json

namespace PurseTask

variable {Json : Type} (format : PurseFormat Json)

/-- `PurseActor::new` where there is no file yet: the store is queued at once. -/
def new (overflowChecks : Bool) (network : Network) (height : ℕ) : PurseTask Json where
  purse := ⟨⟨overflowChecks, .new network height⟩, .serving, [], [], []⟩
  upkeep := ⟨.new (.new network height) none, .held⟩

/-- One step of the purse's task or of the thread, or of the operator who opens the purse
again when both have ended. -/
inductive Step : PurseTask Json → PurseTask Json → Prop where
  | serve {task : PurseTask Json} {answers : WalletAnswers} {request : PurseRequest}
      {reply : Option request.Reply} {after : Purse} (hserving : task.purse.status = .serving)
      (hidle : task.upkeep.persister.owner = .idle) (hrequest : request ≠ .shutdown)
      (hlock : request.writes = true → ∀ snapshot, task.upkeep.persister.task ≠ .writing snapshot)
      (hdraws : task.purse.DrawsFresh answers request)
      (hserve : task.purse.serve answers request = (reply, after)) :
      Step task ⟨after, { task.upkeep with
        persister.store := after.actor.data
        persister.owner := if request.queued reply then .queueing else .idle
        hold := if after.status = .serving then .held else .dropped }⟩
  | shutdown {task : PurseTask Json} {answers : WalletAnswers}
      (hserving : task.purse.status = .serving) (hidle : task.upkeep.persister.owner = .idle) :
      Step task ⟨(task.purse.serve answers .shutdown).2,
        { task.upkeep with persister.owner := .closing }⟩
  | abandon {task : PurseTask Json} (hserving : task.purse.status = .serving)
      (hidle : task.upkeep.persister.owner = .idle) :
      Step task ⟨{ task.purse with status := .dead }, { task.upkeep with hold := .dropped }⟩
  | proceed {task : PurseTask Json} {next : Persister PurseData Json}
      (hgoing : task.upkeep.hold ≠ .gone)
      (hproceeds : Upkeep.Proceeds format.toJson PurseData.set task.upkeep.persister next) :
      Step task { task with upkeep.persister := next }
  | hangUp {task : PurseTask Json} (hdropped : task.upkeep.hold = .dropped)
      (htask : task.upkeep.persister.task = .receiving)
      (hchannel : task.upkeep.persister.channel = []) :
      Step task { task with upkeep.hold := .gone }
  | reopen {task : PurseTask Json} {network : Network} {file : Option PurseData}
      {height : Except BdkError ℕ} {actor : PurseActor} (hover : task.upkeep.Over)
      (hread : format.readFile task.upkeep.persister.file = some file)
      (hactor : PurseActor.new task.purse.actor.overflowChecks network file height (.ok ()) =
        some actor) :
      Step task ⟨{ task.purse with actor := actor, status := .serving },
        ⟨.new actor.data task.upkeep.persister.file, .held⟩⟩

/-- Any number of steps. -/
def Steps : PurseTask Json → PurseTask Json → Prop := Relation.ReflTransGen (Step format)

/-- What a purse on an empty directory can come to. -/
def Reachable (task : PurseTask Json) : Prop :=
  ∃ overflowChecks network height, Steps format (new overflowChecks network height) task

/-- The store is the purse's, and what the task is doing and where its persister is agree. -/
structure Sound (task : PurseTask Json) : Prop where
  upkeep : Upkeep.Sound format.toJson PurseData.SetsHeight task.upkeep
  store : task.upkeep.persister.store = task.purse.actor.data
  serving : task.purse.status = .serving → task.upkeep.hold = .held ∧
    (task.upkeep.persister.owner = .idle ∨ task.upkeep.persister.owner = .queueing)
  ended : task.purse.status = .ended → task.upkeep.hold = .held ∧
    ¬(task.upkeep.persister.owner = .idle ∨ task.upkeep.persister.owner = .queueing)
  dead : task.purse.status = .dead → task.upkeep.hold ≠ .held

theorem sound_new (overflowChecks : Bool) (network : Network) (height : ℕ) :
    Sound format (new overflowChecks network height) :=
  ⟨Upkeep.sound_of_opened (.new _ _), rfl, fun _ => ⟨rfl, .inr rfl⟩, nofun, nofun⟩

variable {format} {task next later : PurseTask Json}

/-- A request is at most one call of a setter. If it panics, the persister is dropped. -/
theorem Sound.serve_upkeep (hsound : Sound format task) {answers : WalletAnswers}
    {request : PurseRequest} {reply : Option request.Reply} {after : Purse}
    (hserving : task.purse.status = .serving) (hidle : task.upkeep.persister.owner = .idle)
    (hrequest : request ≠ .shutdown)
    (hlock : request.writes = true → ∀ snapshot, task.upkeep.persister.task ≠ .writing snapshot)
    (hserve : task.purse.serve answers request = (reply, after)) :
    format.Steps task.upkeep
      { task.upkeep with
        persister.store := after.actor.data
        persister.owner := if request.queued reply then .queueing else .idle
        hold := if after.status = .serving then .held else .dropped } := by
  obtain ⟨-, hstore, hheld, -, -⟩ := hsound
  have hheld := (hheld hserving).1
  obtain ⟨purse, ⟨⟨store, file, channel, thread, owner⟩, hold⟩⟩ := task
  cases hidle
  cases hheld
  obtain rfl : store = purse.actor.data := hstore
  rcases Purse.serve_writes hserve with ⟨hqueued, hwrites, setter, hdata⟩ | hquiet
  · have hstatus : after.status = .serving := by
      cases reply with
      | none => cases hqueued
      | some reply => exact Purse.serving_of_serve hserve hrequest
    rw [if_pos hqueued, if_pos hstatus, hdata]
    exact .single (.act rfl (.set setter rfl (hlock hwrites)))
  · have hnot : request.queued reply = false := hquiet.elim (·.1) (·.1)
    have hdrift : format.Steps ⟨⟨purse.actor.data, file, channel, thread, .idle⟩, .held⟩
        ⟨⟨after.actor.data, file, channel, thread, .idle⟩, .held⟩ := by
      rcases hquiet with ⟨-, hwrites, hsets⟩ | ⟨-, hsame⟩
      · exact .single (.drift rfl rfl (hlock hwrites) hsets)
      · rw [hsame]
        exact .refl
    rw [if_neg (by rw [hnot]; nofun)]
    split
    next => exact hdrift
    next => exact hdrift.tail (.drop rfl rfl)

theorem Step.sound (hstep : Step format task next) (hsound : Sound format task) :
    Sound format next := by
  have ⟨hupkeep, hstore, hserves, hended, hdead⟩ := hsound
  cases hstep with
  | @serve answers request reply after hserving hidle hrequest hlock hdraws hserve =>
      have hsteps := hsound.serve_upkeep hserving hidle hrequest hlock hserve
      rcases Purse.status_serve hserving hrequest hserve with hstill | ⟨hdied, -⟩
      · refine ⟨hsteps.sound hupkeep, rfl, fun _ => ⟨if_pos hstill, ?_⟩, fun hafter => ?_,
          fun hafter => ?_⟩
        · dsimp only
          split
          next => exact .inr rfl
          next => exact .inl rfl
        · cases hstill.symm.trans hafter
        · cases hstill.symm.trans hafter
      · refine ⟨hsteps.sound hupkeep, rfl, fun hafter => ?_, fun hafter => ?_, fun _ => ?_⟩
        · cases hdied.symm.trans hafter
        · cases hdied.symm.trans hafter
        · dsimp only
          rw [hdied]
          nofun
  | shutdown hserving hidle =>
      have hheld := (hserves hserving).1
      rw [Purse.serve_shutdown hserving]
      have hstep : format.Step task.upkeep _ := .act hheld (.terminate hidle)
      exact ⟨hstep.sound hupkeep, hstore, nofun, fun _ => ⟨hheld, nofun⟩, nofun⟩
  | abandon hserving hidle =>
      have hheld := (hserves hserving).1
      have hstep : format.Step task.upkeep _ := .drop hheld hidle
      exact ⟨hstep.sound hupkeep, hstore, nofun, nofun, fun _ => nofun⟩
  | @proceed next hgoing hproceeds =>
      obtain ⟨hsame, hstage⟩ := hproceeds.stays
      have hsteps : format.Steps task.upkeep { task.upkeep with persister := next } :=
        Upkeep.steps_of_run hgoing (.single hproceeds)
      refine ⟨hsteps.sound hupkeep, hsame.trans hstore, fun hafter => ?_, fun hafter => ?_, hdead⟩
      · obtain ⟨hheld, howner⟩ := hserves hafter
        exact ⟨hheld, hstage.mpr howner⟩
      · obtain ⟨hheld, howner⟩ := hended hafter
        exact ⟨hheld, fun hnext => howner (hstage.mp hnext)⟩
  | hangUp hdropped htask hchannel =>
      have hstep : format.Step task.upkeep _ := .hangUp hdropped htask hchannel
      refine ⟨hstep.sound hupkeep, hstore, fun hafter => ?_, fun hafter => ?_, fun _ => nofun⟩
      · cases hdropped.symm.trans (hserves hafter).1
      · cases hdropped.symm.trans (hended hafter).1
  | reopen hover hread hactor =>
      exact ⟨Upkeep.sound_of_opened (.new _ _), rfl, fun _ => ⟨rfl, .inr rfl⟩, nofun, nofun⟩

theorem Steps.sound (hsteps : Steps format task later) (hsound : Sound format task) :
    Sound format later := by
  induction hsteps with
  | refl => exact hsound
  | tail _ hstep ih => exact hstep.sound ih

theorem Reachable.sound (hreachable : Reachable format task) : Sound format task := by
  obtain ⟨overflowChecks, network, height, hsteps⟩ := hreachable
  exact hsteps.sound (sound_new format overflowChecks network height)

/-! ## The file keeps the table -/

omit [Bitcoin] in
/-- A purse that opens takes over the store in the file. -/
theorem actor_of_new {overflowChecks : Bool} {network : Network} {data : PurseData}
    {height : Except BdkError ℕ} {actor : PurseActor}
    (hactor : PurseActor.new overflowChecks network (some data) height (.ok ()) = some actor) :
    actor = ⟨overflowChecks, data⟩ := by
  unfold PurseActor.new at hactor
  dsimp only at hactor
  split at hactor
  next => exact (Option.some.inj hactor).symm
  next => cases hactor

/-- Once the thread has ended, the file is the purse's store, at the same or an earlier
height. -/
theorem Sound.file (hsound : Sound format task) (hover : task.upkeep.Over) :
    ∃ height, task.upkeep.persister.file =
      some (format.toJson (task.purse.actor.data.setHeight height)) := by
  obtain ⟨shown, hfile, hdrift⟩ := hsound.upkeep.shows hover
  rw [hsound.store] at hdrift
  rw [PurseData.setsHeight_run hdrift] at hfile
  exact ⟨shown.height, hfile⟩

theorem Sound.not_serving (hsound : Sound format task) (hover : task.upkeep.Over) :
    task.purse.status ≠ .serving := by
  intro hserving
  obtain ⟨hheld, howner⟩ := hsound.serving hserving
  rcases hover with hterminated | hgone
  · rw [hterminated] at howner
    rcases howner with hidle | hqueueing
    · cases hidle
    · cases hqueueing
  · cases hheld.symm.trans hgone

/-- A step of the task is one of a purse that keeps its table, or is not seen. -/
theorem Step.purse (hstep : Step format task next) (hsound : Sound format task) :
    Relation.ReflGen Purse.Step task.purse next.purse := by
  cases hstep with
  | @serve answers request reply after hserving hidle hrequest hlock hdraws hserve =>
      obtain rfl := congrArg Prod.snd hserve
      exact .single (.serve answers request hdraws)
  | @shutdown answers hserving hidle => exact .single (.serve answers .shutdown nofun)
  | abandon hserving hidle => exact .single .abandon
  | proceed hgoing hproceeds => exact .refl
  | hangUp hdropped htask hchannel => exact .refl
  | @reopen network file height actor hover hread hactor =>
      obtain ⟨shown, hfile⟩ := hsound.file hover
      rw [hfile] at hread
      simp only [PurseFormat.readFile, format.from_to, Option.map_some, Option.some.injEq] at hread
      subst hread
      obtain rfl := actor_of_new hactor
      exact .single (.reopen shown (hsound.not_serving hover))

theorem Steps.purse (hsteps : Steps format task later) (hsound : Sound format task) :
    Purse.Steps task.purse later.purse := by
  induction hsteps with
  | refl => exact .refl
  | tail hbefore hstep ih =>
      exact ih.trans (hstep.purse (Steps.sound hbefore hsound)).to_reflTransGen

/-- Whatever the task and its thread do, over any number of shutdowns, panics and openings:
the purse is one that keeps its table in memory, and opens again with it. -/
theorem keeps_table (hreachable : Reachable format task) :
    ∃ overflowChecks network height,
      Purse.Steps ⟨⟨overflowChecks, .new network height⟩, .serving, [], [], []⟩ task.purse := by
  obtain ⟨overflowChecks, network, height, hsteps⟩ := hreachable
  exact ⟨overflowChecks, network, height,
    hsteps.purse (sound_new format overflowChecks network height)⟩

theorem Reachable.funds (hreachable : Reachable format task) : task.purse.Sound := by
  obtain ⟨overflowChecks, network, height, hsteps⟩ := hreachable
  exact (hsteps.purse (sound_new format overflowChecks network height)).sound
    (Trader.consistent_new overflowChecks network height).sound

/-- What the persister does by itself is a run of the task. -/
theorem steps_of_run {purse : Purse} {hold : Hold} {persister after : Persister PurseData Json}
    (hgoing : hold ≠ .gone) (hrun : Relation.ReflTransGen
      (Upkeep.Proceeds format.toJson PurseData.set) persister after) :
    Steps format ⟨purse, ⟨persister, hold⟩⟩ ⟨purse, ⟨after, hold⟩⟩ := by
  induction hrun with
  | refl => exact .refl
  | tail _ hproceeds ih => exact ih.tail (.proceed hgoing hproceeds)

/-- A purse that is over, after `Shutdown` or a panic: the thread ends by itself. -/
theorem Sound.ends (hsound : Sound format task) (hstopped : task.purse.status ≠ .serving) :
    ∃ later, Steps format task later ∧ later.upkeep.Over ∧ later.purse = task.purse := by
  obtain ⟨hupkeep, -, -, hended, hdead⟩ := hsound
  obtain ⟨purse, ⟨persister, hold⟩⟩ := task
  cases hstatus : purse.status with
  | serving => exact absurd hstatus hstopped
  | ended =>
      obtain ⟨hheld, howner⟩ := hended hstatus
      cases hheld
      cases hstage : persister.owner with
      | idle => exact absurd (.inl hstage) howner
      | queueing => exact absurd (.inr hstage) howner
      | terminated => exact ⟨_, .refl, .inl hstage, rfl⟩
      | closing | joining =>
          obtain ⟨last, hrun, hterminated⟩ := hupkeep.closes (by simp [hstage])
          exact ⟨_, steps_of_run nofun hrun, .inl hterminated, rfl⟩
  | dead =>
      cases hold with
      | held => exact absurd rfl (hdead hstatus)
      | gone => exact ⟨_, .refl, .inr rfl, rfl⟩
      | dropped =>
          obtain ⟨next, hrun, htask, hempty⟩ := hupkeep.drains rfl
          have hdrained : Steps format ⟨purse, ⟨persister, .dropped⟩⟩ ⟨purse, ⟨next, .dropped⟩⟩ :=
            steps_of_run nofun hrun
          exact ⟨_, hdrained.tail (.hangUp rfl htask hempty), .inr rfl, rfl⟩

variable (format) in
/-- The file can be read, and its table is what was granted and was neither paid nor freed. -/
def ShowsTable (task : PurseTask Json) : Prop :=
  ∃ data, task.upkeep.persister.file.bind format.fromJson = some data ∧
    data.network = task.purse.actor.data.network ∧
    ∀ fundsId sats, data.getAllocatedFunds fundsId = some sats ↔
      (fundsId, sats) ∈ task.purse.granted ∧ ¬task.purse.Settled fundsId

theorem Reachable.showsTable (hreachable : Reachable format task) (hover : task.upkeep.Over) :
    task.ShowsTable format := by
  obtain ⟨height, hfile⟩ := hreachable.sound.file hover
  refine ⟨task.purse.actor.data.setHeight height, ?_, rfl, fun fundsId sats => ?_⟩
  · rw [hfile, Option.bind_some, format.from_to]
  · exact hreachable.funds.lookup_iff

/-- A purse that is over, after `Shutdown` or a panic: the thread ends by itself, and whenever
it has ended the file shows the table. -/
theorem file_of_stopped (hreachable : Reachable format task)
    (hstopped : task.purse.status ≠ .serving) :
    (∃ later, Steps format task later ∧ later.purse = task.purse ∧ later.upkeep.Over ∧
      later.ShowsTable format) ∧
    (task.upkeep.Over → task.ShowsTable format) := by
  refine ⟨?_, hreachable.showsTable⟩
  obtain ⟨later, hsteps, hover, hpurse⟩ := hreachable.sound.ends hstopped
  obtain ⟨overflowChecks, network, height, hbefore⟩ := hreachable
  have hlater : Reachable format later := ⟨overflowChecks, network, height, hbefore.trans hsteps⟩
  exact ⟨later, hsteps, hpurse, hover, hlater.showsTable hover⟩

end PurseTask

end Writes

section Sample

open scoped Sample

namespace PurseTask

/-- Stores are kept as they are. -/
def plain : PurseFormat PurseData := ⟨id, some, fun _ => rfl⟩

/-- A store and its file, as its thread and its owner hold them. -/
abbrev Stored := Persister PurseData PurseData

/-- A new purse, after it has granted 50 sats. -/
def granting : Purse :=
  let purse : Purse := ⟨⟨true, .new .regtest 100⟩, .serving, [], [], []⟩
  (purse.serve (Sample.wallet ⟨1⟩) (.allocateFunds 50)).2

/-- It is shut down once and opened again with its grant, and told to shut down before the
thread has written again. -/
def stopping : PurseTask PurseData :=
  let data := granting.actor.data
  ⟨{ granting with status := .ended }, ⟨⟨data, some data, [.persist], .receiving, .closing⟩, .held⟩⟩

/-- The thread writes what it was asked to, and is joined. -/
theorem run_closing (data : PurseData) :
    Relation.ReflTransGen (Upkeep.Proceeds plain.toJson PurseData.set)
      (⟨data, none, [.persist], .receiving, .closing⟩ : Stored)
      ⟨data, some data, [], .ended, .terminated⟩ := by
  have hreceive : Upkeep.Proceeds plain.toJson PurseData.set
      (⟨data, none, [.persist], .receiving, .closing⟩ : Stored) _ :=
    ⟨.receivePersist rfl rfl, nofun⟩
  have hread : Upkeep.Proceeds plain.toJson PurseData.set
      (⟨data, none, [], .received, .closing⟩ : Stored) _ := ⟨.read rfl, nofun⟩
  have hwrite : Upkeep.Proceeds plain.toJson PurseData.set
      (⟨data, none, [], .writing data, .closing⟩ : Stored) _ := ⟨.write rfl, nofun⟩
  have hsend : Upkeep.Proceeds plain.toJson PurseData.set
      (⟨data, some data, [], .receiving, .closing⟩ : Stored) _ := ⟨.sendClose rfl rfl, nofun⟩
  have hclose : Upkeep.Proceeds plain.toJson PurseData.set
      (⟨data, some data, [.close], .receiving, .joining⟩ : Stored) _ :=
    ⟨.receiveClose rfl rfl, nofun⟩
  have hjoin : Upkeep.Proceeds plain.toJson PurseData.set
      (⟨data, some data, [], .ended, .joining⟩ : Stored) _ := ⟨.join rfl rfl, nofun⟩
  exact (((((Relation.ReflTransGen.single hreceive).tail hread).tail hwrite).tail hsend).tail
    hclose).tail hjoin

/-- The first life of the purse: it grants and is shut down, and its thread ends. -/
theorem steps_stopped : Steps plain (new true .regtest 100)
    ⟨{ granting with status := .ended },
      ⟨⟨granting.actor.data, some granting.actor.data, [], .ended, .terminated⟩, .held⟩⟩ := by
  let data := granting.actor.data
  let purse : Purse := ⟨⟨true, .new .regtest 100⟩, .serving, [], [], []⟩
  let opened : Stored := ⟨.new .regtest 100, none, [.persist], .receiving, .idle⟩
  have hqueue : Step plain (new true .regtest 100) ⟨purse, ⟨opened, .held⟩⟩ :=
    .proceed nofun ⟨.queue rfl, nofun⟩
  have hgrant : Step plain ⟨purse, ⟨opened, .held⟩⟩
      ⟨granting, ⟨⟨data, none, [.persist], .receiving, .queueing⟩, .held⟩⟩ :=
    @Step.serve _ _ plain _ (Sample.wallet ⟨1⟩) (.allocateFunds 50) (some (.ok ⟨1⟩)) granting rfl
      rfl nofun nofun (by simp [Purse.DrawsFresh, Purse.Fresh, purse]) rfl
  have hqueued : Step plain ⟨granting, ⟨⟨data, none, [.persist], .receiving, .queueing⟩, .held⟩⟩
      ⟨granting, ⟨⟨data, none, [.persist], .receiving, .idle⟩, .held⟩⟩ :=
    .proceed nofun ⟨.queue rfl, nofun⟩
  have hshutdown : Step plain ⟨granting, ⟨⟨data, none, [.persist], .receiving, .idle⟩, .held⟩⟩ _ :=
    @Step.shutdown _ _ plain _ (Sample.wallet ⟨1⟩) rfl rfl
  exact ((((Relation.ReflTransGen.single hqueue).tail hgrant).tail hqueued).tail hshutdown).trans
    (steps_of_run nofun (run_closing data))

/-- It is opened again with the table that is in its file. -/
theorem reachable_stopping : Reachable plain stopping := by
  let data := granting.actor.data
  have hreopen : Step plain ⟨{ granting with status := .ended },
      ⟨⟨data, some data, [], .ended, .terminated⟩, .held⟩⟩
      ⟨granting, ⟨⟨data, some data, [], .receiving, .queueing⟩, .held⟩⟩ :=
    @Step.reopen _ _ plain _ .regtest (some data) (.ok 101) granting.actor (.inl rfl) rfl rfl
  have hqueue : Step plain ⟨granting, ⟨⟨data, some data, [], .receiving, .queueing⟩, .held⟩⟩
      ⟨granting, ⟨⟨data, some data, [.persist], .receiving, .idle⟩, .held⟩⟩ :=
    .proceed nofun ⟨.queue rfl, nofun⟩
  exact ⟨true, .regtest, 100, ((steps_stopped.tail hreopen).tail hqueue).tail
    (@Step.shutdown _ _ plain _ (Sample.wallet ⟨1⟩) rfl rfl)⟩

theorem keeps_table_stopping : ∃ overflowChecks network height,
    Purse.Steps ⟨⟨overflowChecks, .new network height⟩, .serving, [], [], []⟩ stopping.purse :=
  keeps_table reachable_stopping

theorem file_of_stopped_stopping : stopping.purse.granted = [(⟨1⟩, 50)] ∧
    (∃ later, Steps plain stopping later ∧ later.purse = stopping.purse ∧ later.upkeep.Over ∧
      later.ShowsTable plain) ∧
    (stopping.upkeep.Over → stopping.ShowsTable plain) :=
  ⟨rfl, file_of_stopped reachable_stopping nofun⟩

end PurseTask

end Sample

end FatCrabTrading
