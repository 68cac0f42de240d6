import FatCrabTrading.Effect.Actor
import FatCrabTrading.Persist.Upkeep

/-! # An actor that keeps a part of its store in a file

The actor's code speaks of the store only. Behind it a persister writes what is kept to the
file, and a new life of the actor begins with what the file shows. If every write is one of
the setters, and nothing is written once the file is closed, the file is not seen: the actor
does what it would do if its store outlived it.
-/

namespace FatCrabTrading

open Effect

/-- What of its store an actor keeps, the setters that write it, the calls that close the
file, and the store that a new life makes of what was kept. -/
structure Keeping (σ : Type) (I : Interface) (δ ι : Type) where
  view : σ → δ
  set : ι → δ → δ
  closes : I.Call → Bool
  revive : δ → σ → σ

namespace Keeping

variable {σ Msg δ ι α : Type} {I : Interface} (keeping : Keeping σ I δ ι)

/-- One call of a setter, or a write of what is not kept. -/
def Writes (before after : σ) : Prop :=
  keeping.view after = keeping.view before ∨
    ∃ setter, keeping.view after = keeping.set setter (keeping.view before)

/-- A program that runs with the file closed: it writes nothing, closes nothing, and is the
last of its life. -/
def Closed : Program σ I Flow → Prop
  | .pure flow => flow = .stop
  | .panic => True
  | .get next => ∀ store, Closed (next store)
  | .modify _ _ => False
  | .call c next => keeping.closes c = false ∧ ∀ reply, Closed (next reply)

/-- A program that runs with the file open: it writes with setters, and stops only after it
has closed the file. -/
def Open : Program σ I Flow → Prop
  | .pure flow => flow = .next
  | .panic => True
  | .get next => ∀ store, Open (next store)
  | .modify f next => (∀ store, keeping.Writes store (f store)) ∧ Open next
  | .call c next => ∀ reply,
      if keeping.closes c then keeping.Closed (next reply) else Open (next reply)

/-- A program of restricted effect that another message follows. -/
theorem open_of_only {program : Program σ I α}
    (honly : program.Only keeping.Writes fun c => keeping.closes c = false) :
    keeping.Open (program >>= fun _ => Program.pure Flow.next) := by
  induction program with
  | pure value => exact rfl
  | panic => trivial
  | get next ih => exact fun store => ih store (honly store)
  | modify f next ih => exact ⟨honly.1, ih honly.2⟩
  | call c next ih =>
      intro reply
      rw [honly.1, if_neg Bool.false_ne_true]
      exact ih reply (honly.2 reply)

/-- The code of an actor keeps to its file. -/
structure Fits (code : Behaviour σ Msg I) : Prop where
  start : keeping.Open code.start
  handle : ∀ message, keeping.Open (code.handle message)
  revive : ∀ store, keeping.revive (keeping.view store) store = code.restore store
  view_restore : ∀ store, keeping.view (code.restore store) = keeping.view store

end Keeping

/-! ## Lives of an actor -/

namespace Life

variable {σ Msg : Type} {I : Interface}

/-- A step of an actor, or the next life of one that panicked, with the store that it left. -/
inductive Step (code : Behaviour σ Msg I) : Actor σ Msg I → Actor σ Msg I → Prop where
  | act {actor next : Actor σ Msg I} {action : Action Msg I}
      (hstep : Actor.Step code actor action next) : Step code actor next
  | revive {store : σ} {history : History σ Msg I} :
      Step code ⟨store, .dead, history⟩ ⟨code.restore store, .running code.start, history⟩

/-- Any number of steps. -/
def Steps (code : Behaviour σ Msg I) : Actor σ Msg I → Actor σ Msg I → Prop :=
  Relation.ReflTransGen (Step code)

/-- A task that takes no more steps in this life. -/
def Over : Task σ I → Prop
  | .ended | .dead => True
  | .idle | .running _ => False

end Life

/-- An actor with its persister. -/
structure Kept (σ Msg : Type) (I : Interface) (δ β : Type) where
  actor : Actor σ Msg I
  upkeep : Upkeep δ β

namespace Kept

variable {σ Msg δ ι β : Type} {I : Interface} (code : Behaviour σ Msg I)
  (keeping : Keeping σ I δ ι) (format : FileFormat δ β)

/-- One step of the actor or of its persister. A setter is called with the store unlocked and
then queues; a call that closes the file returns when the thread was joined; whoever panics
with the file open drops the persister. The next life begins when the thread is gone, with
what the file shows. -/
inductive Step : Kept σ Msg I δ β → Kept σ Msg I δ β → Prop where
  | work {kept : Kept σ Msg I δ β} {action : Action Msg I} {next : Actor σ Msg I}
      (hstep : Actor.Step code kept.actor action next) (hlives : kept.actor.task ≠ .ended)
      (hready : kept.upkeep.persister.owner = .idle ∨ kept.upkeep.persister.owner = .terminated)
      (hview : keeping.view next.store = keeping.view kept.actor.store)
      (hcloses : ∀ c reply, action = .call c reply → keeping.closes c = true →
        kept.upkeep.persister.owner = .terminated)
      (hover : Life.Over next.task → kept.upkeep.persister.owner = .terminated) :
      Step kept { kept with actor := next }
  | write {kept : Kept σ Msg I δ β} {f : σ → σ} {rest : Program σ I Flow} (setter : ι)
      (htask : kept.actor.task = .running (.modify f rest))
      (hidle : kept.upkeep.persister.owner = .idle)
      (hlock : ∀ snapshot, kept.upkeep.persister.task ≠ .writing snapshot)
      (hview : keeping.view (f kept.actor.store) =
        keeping.set setter (keeping.view kept.actor.store)) :
      Step kept ⟨{ kept.actor with store := f kept.actor.store, task := .running rest },
        { kept.upkeep with
          persister.store := keeping.view (f kept.actor.store)
          persister.owner := .queueing }⟩
  | close {kept : Kept σ Msg I δ β} {c : I.Call} {rest : I.Reply c → Program σ I Flow}
      (htask : kept.actor.task = .running (.call c rest)) (hcloses : keeping.closes c = true)
      (hidle : kept.upkeep.persister.owner = .idle) :
      Step kept { kept with upkeep.persister.owner := .closing }
  | quit {kept : Kept σ Msg I δ β} {action : Action Msg I} {next : Actor σ Msg I}
      (hstep : Actor.Step code kept.actor action next)
      (hidle : kept.upkeep.persister.owner = .idle) (hover : Life.Over next.task) :
      Step kept ⟨next, { kept.upkeep with hold := .dropped }⟩
  | proceed {kept : Kept σ Msg I δ β} {next : Persister δ β} (hgoing : kept.upkeep.hold ≠ .gone)
      (hproceeds : Upkeep.Proceeds format.toJson keeping.set kept.upkeep.persister next) :
      Step kept { kept with upkeep.persister := next }
  | hangUp {kept : Kept σ Msg I δ β} (hdropped : kept.upkeep.hold = .dropped)
      (htask : kept.upkeep.persister.task = .receiving)
      (hchannel : kept.upkeep.persister.channel = []) :
      Step kept { kept with upkeep.hold := .gone }
  | restart {kept : Kept σ Msg I δ β} {text : β} {data : δ}
      (hended : Life.Over kept.actor.task) (hover : kept.upkeep.Over)
      (hfile : kept.upkeep.persister.file = some text) (hread : format.fromJson text = some data) :
      Step kept ⟨⟨keeping.revive data kept.actor.store, .running code.start, kept.actor.history⟩,
        ⟨.restore data text, .held⟩⟩

/-- Any number of steps. -/
def Steps : Kept σ Msg I δ β → Kept σ Msg I δ β → Prop :=
  Relation.ReflTransGen (Step code keeping format)

/-- A new actor on a place without a file, or with one that is not its own. -/
def launch (store : σ) (file : Option β) : Kept σ Msg I δ β :=
  ⟨.launch code store, ⟨.new (keeping.view store) file, .held⟩⟩

/-- Where a task is, and where its persister is then. -/
inductive Stage (keeping : Keeping σ I δ ι) : Task σ I → Hold → PersisterOwner → Prop where
  | idle {owner : PersisterOwner} (howner : owner = .idle ∨ owner = .queueing) :
      Stage keeping .idle .held owner
  | working {program : Program σ I Flow} {owner : PersisterOwner}
      (howner : owner = .idle ∨ owner = .queueing) (hopen : keeping.Open program) :
      Stage keeping (.running program) .held owner
  | closing {c : I.Call} {rest : I.Reply c → Program σ I Flow} {owner : PersisterOwner}
      (howner : ¬(owner = .idle ∨ owner = .queueing)) (hcloses : keeping.closes c = true)
      (hrest : ∀ reply, keeping.Closed (rest reply)) :
      Stage keeping (.running (.call c rest)) .held owner
  | closed {program : Program σ I Flow} (hclosed : keeping.Closed program) :
      Stage keeping (.running program) .held .terminated
  | halted {task : Task σ I} (hover : Life.Over task) : Stage keeping task .held .terminated
  | dead {hold : Hold} {owner : PersisterOwner} (hhold : hold ≠ .held) :
      Stage keeping .dead hold owner

/-- The persister's store is what the actor keeps, and both are at the same stage. -/
structure Sound (kept : Kept σ Msg I δ β) : Prop where
  upkeep : Upkeep.Sound format.toJson (fun _ _ => False) kept.upkeep
  store : kept.upkeep.persister.store = keeping.view kept.actor.store
  stage : Stage keeping kept.actor.task kept.upkeep.hold kept.upkeep.persister.owner

variable {code keeping format} {kept next later : Kept σ Msg I δ β}

theorem sound_launch (hfits : keeping.Fits code) (store : σ) (file : Option β) :
    Sound keeping format (launch code keeping store file) :=
  ⟨Upkeep.sound_of_opened (.new _ _), rfl, .working (.inr rfl) hfits.start⟩

/-! ## Stages -/

section Stage

variable {task : Task σ I} {hold : Hold} {owner owner' : PersisterOwner}

theorem Stage.queueing (hstage : Stage keeping task hold .idle) :
    Stage keeping task hold .queueing := by
  cases hstage with
  | idle howner => exact .idle (.inr rfl)
  | working howner hopen => exact .working (.inr rfl) hopen
  | closing howner hcloses hrest => exact absurd (.inl rfl) howner
  | dead hhold => exact .dead hhold

/-- What the thread and the calls that were begun do, they do within a stage. -/
theorem Stage.proceed (hstage : Stage keeping task hold owner)
    (hserving : owner' = .idle ∨ owner' = .queueing ↔ owner = .idle ∨ owner = .queueing)
    (hterminated : owner = .terminated → owner' = .terminated) :
    Stage keeping task hold owner' := by
  cases hstage with
  | idle howner => exact .idle (hserving.mpr howner)
  | working howner hopen => exact .working (hserving.mpr howner) hopen
  | closing howner hcloses hrest =>
      exact .closing (fun hnext => howner (hserving.mp hnext)) hcloses hrest
  | closed hclosed =>
      rw [hterminated rfl]
      exact .closed hclosed
  | halted hover =>
      rw [hterminated rfl]
      exact .halted hover
  | dead hhold => exact .dead hhold

/-- A step of the actor while its persister rests. -/
theorem Stage.work (hfits : keeping.Fits code) {actor next : Actor σ Msg I}
    {action : Action Msg I} (hstep : Actor.Step code actor action next)
    (hstage : Stage keeping actor.task hold owner) (hlives : actor.task ≠ .ended)
    (hready : owner = .idle ∨ owner = .terminated)
    (hcloses : ∀ c reply, action = .call c reply → keeping.closes c = true →
      owner = .terminated)
    (hover : Life.Over next.task → owner = .terminated) : Stage keeping next.task hold owner := by
  have hserving : owner = .terminated → ¬(owner = .idle ∨ owner = .queueing) := by
    rintro rfl
    nofun
  cases hstep with
  | receive message =>
      cases hstage with
      | idle howner => exact .working howner (hfits.handle message)
      | halted hnot => exact hnot.elim
  | get rest =>
      cases hstage with
      | working howner hopen => exact .working howner (hopen _)
      | closed hclosed => exact .closed (hclosed _)
      | halted hnot => exact hnot.elim
  | modify f rest =>
      cases hstage with
      | working howner hopen => exact .working howner hopen.2
      | closed hclosed => exact hclosed.elim
      | halted hnot => exact hnot.elim
  | call c rest reply =>
      cases hstage with
      | working howner hopen =>
          cases hcall : keeping.closes c with
          | true => exact absurd howner (hserving (hcloses c reply rfl hcall))
          | false =>
              have hrest := hopen reply
              rw [hcall, if_neg Bool.false_ne_true] at hrest
              exact .working howner hrest
      | closing howner _ hrest =>
          rcases hready with rfl | rfl
          · exact absurd (.inl rfl) howner
          · exact .closed (hrest reply)
      | closed hclosed => exact .closed (hclosed.2 reply)
      | halted hnot => exact hnot.elim
  | finish flow =>
      cases hstage with
      | working howner hopen =>
          obtain rfl : flow = .next := hopen
          exact .idle howner
      | closed hclosed =>
          obtain rfl : flow = .stop := hclosed
          exact .halted trivial
      | halted hnot => exact hnot.elim
  | die =>
      cases hstage with
      | working howner hopen => exact absurd howner (hserving (hover trivial))
      | closed hclosed => exact .halted trivial
      | halted hnot => exact hnot.elim
  | restart => exact absurd rfl hlives

/-- Whoever is over with the file open has panicked. -/
theorem Stage.quit {actor next : Actor σ Msg I} {action : Action Msg I}
    (hstep : Actor.Step code actor action next) (hstage : Stage keeping actor.task hold .idle)
    (hover : Life.Over next.task) : next.task = .dead ∧ hold = .held := by
  cases hstep with
  | finish flow =>
      cases hstage with
      | working howner hopen =>
          obtain rfl : flow = .next := hopen
          exact hover.elim
  | die =>
      cases hstage with
      | working howner hopen => exact ⟨rfl, rfl⟩
  | _ => exact hover.elim

end Stage

/-- Nothing that is kept drifts. -/
theorem Sound.file (hsound : Sound keeping format kept) (hover : kept.upkeep.Over) :
    kept.upkeep.persister.file = some (format.toJson (keeping.view kept.actor.store)) := by
  obtain ⟨shown, hfile, hdrift⟩ := hsound.upkeep.shows hover
  rw [hsound.store] at hdrift
  rcases hdrift.cases_tail with heq | ⟨_, _, hnever⟩
  · rw [heq]
    exact hfile
  · exact hnever.elim

theorem Step.sound (hfits : keeping.Fits code) (hstep : Step code keeping format kept next)
    (hsound : Sound keeping format kept) : Sound keeping format next := by
  have ⟨hupkeep, hstore, hstage⟩ := hsound
  cases hstep with
  | work hstep hlives hready hview hcloses hover =>
      exact ⟨hupkeep, hstore.trans hview.symm,
        hstage.work hfits hstep hlives hready hcloses hover⟩
  | @write f rest setter htask hidle hlock hview =>
      obtain ⟨⟨store, task, history⟩, ⟨persister, hold⟩⟩ := kept
      obtain rfl : task = .running (.modify f rest) := htask
      obtain ⟨hheld, hopen⟩ : hold = .held ∧ Stage keeping (.running rest) .held .idle := by
        rw [hidle] at hstage
        cases hstage with
        | working howner hopen => exact ⟨rfl, .working howner hopen.2⟩
      subst hheld
      have hset : persister.store = keeping.view store := hstore
      have hact : Upkeep.Step format.toJson keeping.set (fun _ _ => False) ⟨persister, .held⟩
          ⟨{ persister with store := keeping.view (f store), owner := .queueing }, .held⟩ := by
        rw [hview, ← hset]
        exact .act rfl (.set setter hidle hlock)
      exact ⟨hact.sound hupkeep, rfl, hopen.queueing⟩
  | @close c rest htask hcloses hidle =>
      obtain ⟨⟨store, task, history⟩, ⟨persister, hold⟩⟩ := kept
      obtain rfl : task = .running (.call c rest) := htask
      rw [hidle] at hstage
      cases hstage with
      | working howner hopen =>
          have hact : Upkeep.Step format.toJson keeping.set (fun _ _ => False)
              ⟨persister, .held⟩ ⟨{ persister with owner := .closing }, .held⟩ :=
            .act rfl (.terminate hidle)
          refine ⟨hact.sound hupkeep, hstore, .closing nofun hcloses fun reply => ?_⟩
          have hrest := hopen reply
          rw [hcloses, if_pos rfl] at hrest
          exact hrest
      | closing howner _ _ => exact absurd (.inl rfl) howner
  | quit hstep hidle hover =>
      obtain ⟨actor, upkeep⟩ := kept
      rw [hidle] at hstage
      obtain ⟨hdead, hheld⟩ := hstage.quit hstep hover
      have hdrop : Upkeep.Step format.toJson keeping.set (fun _ _ => False) upkeep _ :=
        .drop hheld hidle
      refine ⟨hdrop.sound hupkeep, hstore.trans ?_, ?_⟩
      · cases hstep with
        | restart => exact hover.elim
        | modify f rest => exact hover.elim
        | _ => rfl
      · dsimp only
        rw [hdead]
        exact .dead nofun
  | @proceed persister hgoing hproceeds =>
      obtain ⟨hsame, hserving⟩ := hproceeds.stays
      have hsteps : Upkeep.Steps format.toJson keeping.set (fun _ _ => False) kept.upkeep
          { kept.upkeep with persister := persister } :=
        Upkeep.steps_of_run hgoing (.single hproceeds)
      exact ⟨hsteps.sound hupkeep, hsame.trans hstore,
        hstage.proceed hserving hproceeds.terminated⟩
  | hangUp hdropped htask hchannel =>
      have hgone : Upkeep.Step format.toJson keeping.set (fun _ _ => False) kept.upkeep _ :=
        .hangUp hdropped htask hchannel
      refine ⟨hgone.sound hupkeep, hstore, ?_⟩
      rw [hdropped] at hstage
      generalize kept.actor.task = task at hstage
      cases hstage with
      | dead hhold => exact .dead nofun
  | @restart text data hended hover hfile hread =>
      rw [hsound.file hover] at hfile
      cases hfile
      rw [format.from_to] at hread
      cases hread
      refine ⟨Upkeep.sound_of_opened (.restore _), ?_, .working (.inl rfl) hfits.start⟩
      dsimp only [Persister.restore]
      rw [hfits.revive, hfits.view_restore]

theorem Steps.sound (hfits : keeping.Fits code) (hsteps : Steps code keeping format kept later)
    (hsound : Sound keeping format kept) : Sound keeping format later := by
  induction hsteps with
  | refl => exact hsound
  | tail _ hstep ih => exact hstep.sound hfits ih

/-! ## The file is not seen -/

/-- A step of the actor with its file is one of the actor alone, or of the persister. -/
theorem Step.life (hfits : keeping.Fits code) (hstep : Step code keeping format kept next)
    (hsound : Sound keeping format kept) :
    Relation.ReflGen (Life.Step code) kept.actor next.actor := by
  cases hstep with
  | work hstep _ _ _ _ _ => exact .single (.act hstep)
  | @write f rest setter htask _ _ _ =>
      obtain ⟨⟨store, task, history⟩, upkeep⟩ := kept
      obtain rfl : task = .running (.modify f rest) := htask
      exact .single (.act (.modify f rest))
  | close htask hcloses hidle => exact .refl
  | quit hstep _ _ => exact .single (.act hstep)
  | proceed hgoing hproceeds => exact .refl
  | hangUp hdropped htask hchannel => exact .refl
  | restart hended hover hfile hread =>
      rw [hsound.file hover] at hfile
      cases hfile
      rw [format.from_to] at hread
      cases hread
      rw [hfits.revive]
      obtain ⟨⟨store, task, history⟩, upkeep⟩ := kept
      cases task with
      | ended => exact .single (.act .restart)
      | dead => exact .single .revive
      | idle | running program => exact hended.elim

theorem Steps.life (hfits : keeping.Fits code) (hsteps : Steps code keeping format kept later)
    (hsound : Sound keeping format kept) : Life.Steps code kept.actor later.actor := by
  induction hsteps with
  | refl => exact .refl
  | tail hbefore hstep ih =>
      exact ih.trans (hstep.life hfits (Steps.sound hfits hbefore hsound)).to_reflTransGen

/-! ## Nothing is held up -/

/-- What the persister does by itself. -/
theorem steps_of_run {actor : Actor σ Msg I} {hold : Hold} {persister after : Persister δ β}
    (hgoing : hold ≠ .gone)
    (hrun : Relation.ReflTransGen (Upkeep.Proceeds format.toJson keeping.set) persister after) :
    Steps code keeping format ⟨actor, ⟨persister, hold⟩⟩ ⟨actor, ⟨after, hold⟩⟩ := by
  induction hrun with
  | refl => exact .refl
  | tail _ hproceeds ih => exact ih.tail (.proceed hgoing hproceeds)

/-- What a setter owes is queued, and the thread gives the lock back. -/
theorem Sound.rests (hsound : Sound keeping format kept) (hheld : kept.upkeep.hold = .held)
    (hserving : kept.upkeep.persister.owner = .idle ∨ kept.upkeep.persister.owner = .queueing) :
    ∃ persister : Persister δ β,
      Steps code keeping format kept ⟨kept.actor, ⟨persister, .held⟩⟩ ∧
      persister.owner = .idle ∧ ∀ snapshot, persister.task ≠ .writing snapshot := by
  obtain ⟨actor, ⟨persister, hold⟩⟩ := kept
  obtain rfl : hold = .held := hheld
  have hopen := (hsound.upkeep.orderly.serving (hserving.imp_right .inl)).2
  obtain ⟨middle, hqueued, hidle, hopen⟩ : ∃ middle : Persister δ β,
      Relation.ReflTransGen (Upkeep.Proceeds format.toJson keeping.set) persister middle ∧
        middle.owner = .idle ∧ middle.task ≠ .ended := by
    rcases hserving with hidle | hqueueing
    · exact ⟨persister, .refl, hidle, hopen⟩
    · exact ⟨_, .single ⟨.queue hqueueing, fun _ => rfl⟩, rfl, hopen⟩
  obtain ⟨last, hreaches, hreceiving, -⟩ :=
    @Upkeep.reaches_receiving _ _ _ format.toJson keeping.set middle hopen
  refine ⟨last, steps_of_run nofun (hqueued.trans hreaches.run), hreaches.owner.trans hidle, ?_⟩
  intro snapshot hwriting
  cases hreceiving.symm.trans hwriting

/-- The persister of an actor that is over comes to its end. -/
theorem Sound.ends (hsound : Sound keeping format kept) (hover : Life.Over kept.actor.task) :
    ∃ later, Steps code keeping format kept later ∧ later.actor = kept.actor ∧
      later.upkeep.Over := by
  obtain ⟨actor, ⟨persister, hold⟩⟩ := kept
  obtain ⟨hupkeep, -, hstage⟩ := hsound
  dsimp only at hover hstage
  generalize htask : actor.task = task at hover hstage
  generalize howner : persister.owner = owner at hstage
  cases hstage with
  | idle _ | working _ _ | closing _ _ _ | closed _ => exact hover.elim
  | halted _ => exact ⟨_, .refl, rfl, .inl howner⟩
  | dead hhold =>
      cases hold with
      | held => exact absurd rfl hhold
      | gone => exact ⟨_, .refl, rfl, .inr rfl⟩
      | dropped =>
          obtain ⟨next, hrun, hreceiving, hempty⟩ := hupkeep.drains rfl
          have hdrained : Steps code keeping format ⟨actor, ⟨persister, .dropped⟩⟩
              ⟨actor, ⟨next, .dropped⟩⟩ := steps_of_run nofun hrun
          exact ⟨_, hdrained.tail (.hangUp rfl hreceiving hempty), rfl, .inr rfl⟩

/-- And its next life begins with its store. -/
theorem Sound.restarts (hfits : keeping.Fits code) (hsound : Sound keeping format kept)
    (hover : Life.Over kept.actor.task) : ∃ later, Steps code keeping format kept later ∧
      later.actor = ⟨code.restore kept.actor.store, .running code.start, kept.actor.history⟩ := by
  obtain ⟨last, hsteps, hactor, hended⟩ := @Sound.ends _ _ _ _ _ _ code _ _ _ hsound hover
  have hlast := Steps.sound hfits hsteps hsound
  rw [← hactor] at hover ⊢
  refine ⟨_, hsteps.tail (.restart hover hended (hlast.file hended) (format.from_to _)), ?_⟩
  dsimp only
  rw [hfits.revive]

/-- A call that closes the file returns once the thread was joined. -/
theorem Sound.follows_close (hsound : Sound keeping format kept) {c : I.Call}
    {rest : I.Reply c → Program σ I Flow} (reply : I.Reply c)
    (htask : kept.actor.task = .running (.call c rest)) (hheld : kept.upkeep.hold = .held)
    (hserving : ¬(kept.upkeep.persister.owner = .idle ∨
      kept.upkeep.persister.owner = .queueing)) :
    ∃ later, Steps code keeping format kept later ∧ later.actor = ⟨kept.actor.store,
      .running (rest reply), .called c reply kept.actor.store :: kept.actor.history⟩ := by
  obtain ⟨⟨store, task, history⟩, ⟨persister, hold⟩⟩ := kept
  obtain rfl : task = .running (.call c rest) := htask
  obtain rfl : hold = .held := hheld
  obtain ⟨last, hrun, hterminated⟩ : ∃ last : Persister δ β, Relation.ReflTransGen
      (Upkeep.Proceeds format.toJson keeping.set) persister last ∧ last.owner = .terminated := by
    cases howner : persister.owner with
    | idle => exact absurd (.inl howner) hserving
    | queueing => exact absurd (.inr howner) hserving
    | closing => exact hsound.upkeep.closes (.inl howner)
    | joining => exact hsound.upkeep.closes (.inr howner)
    | terminated => exact ⟨persister, .refl, howner⟩
  have hsteps : Steps code keeping format ⟨⟨store, .running (.call c rest), history⟩,
      ⟨persister, .held⟩⟩ ⟨⟨store, .running (.call c rest), history⟩, ⟨last, .held⟩⟩ :=
    steps_of_run nofun hrun
  exact ⟨_, hsteps.tail (.work (.call c rest reply) nofun (.inr hterminated) rfl
    (fun _ _ _ _ => hterminated) False.elim), rfl⟩

/-- With the persister at rest the actor does its next step. -/
theorem Sound.follows_open (hfits : keeping.Fits code) (hsound : Sound keeping format kept)
    {action : Action Msg I} {after : Actor σ Msg I}
    (hstep : Actor.Step code kept.actor action after)
    (hidle : kept.upkeep.persister.owner = .idle)
    (hlock : ∀ snapshot, kept.upkeep.persister.task ≠ .writing snapshot) :
    ∃ later, Steps code keeping format kept later ∧ later.actor = after := by
  obtain ⟨⟨store, task, history⟩, ⟨persister, hold⟩⟩ := kept
  have hstage := hsound.stage
  dsimp only at hstage hidle hlock hstep
  rw [hidle] at hstage
  have hquiet : ∀ (message : Msg) c reply, Action.receive message = Action.call c reply →
      keeping.closes c = true → persister.owner = .terminated := fun _ _ _ h => nomatch h
  have hsilent : ∀ c reply, (Action.silent : Action Msg I) = .call c reply →
      keeping.closes c = true → persister.owner = .terminated := fun _ _ h => nomatch h
  cases hstep with
  | receive message =>
      exact ⟨_, .single (.work (.receive message) nofun (.inl hidle) rfl (hquiet message)
        False.elim), rfl⟩
  | get rest =>
      exact ⟨_, .single (.work (.get rest) nofun (.inl hidle) rfl hsilent False.elim), rfl⟩
  | modify f rest =>
      cases hstage with
      | working howner hopen =>
          rcases hopen.1 store with hsame | ⟨setter, hset⟩
          · exact ⟨_, .single (.work (.modify f rest) nofun (.inl hidle) hsame hsilent
              False.elim), rfl⟩
          · exact ⟨_, .single (.write setter rfl hidle hlock hset), rfl⟩
  | call c rest reply =>
      cases hstage with
      | closing howner _ _ => exact absurd (.inl rfl) howner
      | working howner hopen =>
          cases hcloses : keeping.closes c with
          | false =>
              refine ⟨_, .single (.work (.call c rest reply) nofun (.inl hidle) rfl ?_
                False.elim), rfl⟩
              rintro _ _ ⟨⟩ hcall
              cases hcloses.symm.trans hcall
          | true =>
              have hclose : Step code keeping format
                  ⟨⟨store, .running (.call c rest), history⟩, ⟨persister, .held⟩⟩ _ :=
                .close rfl hcloses hidle
              obtain ⟨later, hsteps, hlater⟩ :=
                (hclose.sound hfits hsound).follows_close reply rfl rfl nofun
              exact ⟨later, .head hclose hsteps, hlater⟩
  | finish flow =>
      cases hstage with
      | working howner hopen =>
          obtain rfl : flow = .next := hopen
          exact ⟨_, .single (.work (.finish .next) nofun (.inl hidle) rfl hsilent False.elim),
            rfl⟩
  | die => exact ⟨_, .single (.quit .die hidle trivial), rfl⟩
  | restart => cases hstage

/-- Whatever the actor alone can do next, it can do with its file, once the persister has done
what it is at. -/
theorem Sound.follows (hfits : keeping.Fits code) (hsound : Sound keeping format kept)
    {after : Actor σ Msg I} (hlife : Life.Step code kept.actor after) :
    ∃ later, Steps code keeping format kept later ∧ later.actor = after := by
  obtain ⟨⟨store, task, history⟩, ⟨persister, hold⟩⟩ := kept
  cases hlife with
  | revive => exact hsound.restarts hfits trivial
  | @act _ _ action hstep =>
      have hstage := hsound.stage
      dsimp only at hstage hstep
      generalize howner : persister.owner = owner at hstage
      cases hstage with
      | idle hserving | working hserving _ =>
          rw [← howner] at hserving
          obtain ⟨rested, hsteps, hidle, hlock⟩ :=
            @Sound.rests _ _ _ _ _ _ code _ _ _ hsound rfl hserving
          obtain ⟨later, hfollows, hlater⟩ :=
            (Steps.sound hfits hsteps hsound).follows_open hfits hstep hidle hlock
          exact ⟨later, hsteps.trans hfollows, hlater⟩
      | closing hserving hcloses hrest =>
          rw [← howner] at hserving
          cases hstep with
          | call c rest reply => exact hsound.follows_close reply rfl rfl hserving
      | closed hclosed =>
          have hview : keeping.view after.store = keeping.view store := by
            cases hstep with
            | modify f rest => exact hclosed.elim
            | _ => rfl
          exact ⟨_, .single (.work hstep nofun (.inr howner) hview (fun _ _ _ _ => howner)
            fun _ => howner), rfl⟩
      | halted hover =>
          cases hstep with
          | restart => exact hsound.restarts hfits trivial
          | _ => exact hover.elim
      | dead hhold => cases hstep

theorem Sound.follows_steps (hfits : keeping.Fits code) (hsound : Sound keeping format kept)
    {after : Actor σ Msg I} (hlife : Life.Steps code kept.actor after) :
    ∃ later, Steps code keeping format kept later ∧ later.actor = after := by
  induction hlife with
  | refl => exact ⟨kept, .refl, rfl⟩
  | tail _ hstep ih =>
      obtain ⟨middle, hsteps, rfl⟩ := ih
      obtain ⟨later, hlast, hlater⟩ := (Steps.sound hfits hsteps hsound).follows hfits hstep
      exact ⟨later, hsteps.trans hlast, hlater⟩

variable (code keeping format) in
/-- What the file of an actor is to it. With its file the actor comes to exactly what it would
come to if its store outlived it. When it is over, by a stop or a panic, its thread ends by
itself, and whenever the thread has ended the file shows what the actor kept. -/
structure Transparent : Prop where
  reaches : ∀ store file actor,
    (∃ upkeep, Steps code keeping format (launch code keeping store file) ⟨actor, upkeep⟩) ↔
      Life.Steps code (.launch code store) actor
  ends : ∀ store file kept, Steps code keeping format (launch code keeping store file) kept →
    Life.Over kept.actor.task → ∃ later, Steps code keeping format kept later ∧
      later.actor = kept.actor ∧ later.upkeep.Over
  shows : ∀ store file kept, Steps code keeping format (launch code keeping store file) kept →
    kept.upkeep.Over → kept.upkeep.persister.file =
      some (format.toJson (keeping.view kept.actor.store))

end Kept

theorem Keeping.Fits.transparent {σ Msg δ ι β : Type} {I : Interface} {code : Behaviour σ Msg I}
    {keeping : Keeping σ I δ ι} {format : FileFormat δ β} (hfits : keeping.Fits code) :
    Kept.Transparent code keeping format where
  reaches store file actor := by
    have hsound : Kept.Sound keeping format (Kept.launch code keeping store file) :=
      Kept.sound_launch hfits store file
    constructor
    · intro hreaches
      obtain ⟨upkeep, hsteps⟩ := hreaches
      exact hsteps.life hfits hsound
    · intro hlife
      obtain ⟨⟨_, upkeep⟩, hsteps, rfl⟩ := hsound.follows_steps hfits hlife
      exact ⟨upkeep, hsteps⟩
  ends store file kept hsteps hover :=
    (Kept.Steps.sound hfits hsteps (Kept.sound_launch hfits store file)).ends hover
  shows store file kept hsteps hended :=
    (Kept.Steps.sound hfits hsteps (Kept.sound_launch hfits store file)).file hended

end FatCrabTrading
