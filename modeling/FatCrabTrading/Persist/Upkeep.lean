import FatCrabTrading.Persist.Persister

/-! # A persister and the actor that holds it

Some setters write the store without a request for the thread, so the file may show a store
from which the present one has drifted. An actor that panics drops its persister. The
thread serves the request that may still wait, sees the closed channel, and ends.
-/

namespace FatCrabTrading

/-- A text form of what is kept, that is read back as it was. -/
structure FileFormat (δ β : Type) where
  toJson : δ → β
  fromJson : β → Option δ
  from_to : ∀ data, fromJson (toJson data) = some data

/-- Whether the actor still has its persister, has dropped it, or the thread has ended after
that. -/
inductive Hold where
  | held
  | dropped
  | gone
  deriving DecidableEq

/-- A persister with its place in the actor. -/
structure Upkeep (σ β : Type) where
  persister : Persister σ β
  hold : Hold

namespace Upkeep

variable {σ β ι : Type} (toJson : σ → β) (set : ι → σ → σ) (drifts : σ → σ → Prop)

/-- What the thread and the calls that were begun do by themselves: an owner that is between
two calls stays there. -/
def Proceeds (persister next : Persister σ β) : Prop :=
  Persister.Step toJson set persister next ∧ (persister.owner = .idle → next.owner = .idle)

/-- One step of the actor that holds the persister, or of the thread. -/
inductive Step : Upkeep σ β → Upkeep σ β → Prop where
  | act {upkeep : Upkeep σ β} {next : Persister σ β} (hheld : upkeep.hold = .held)
      (hstep : Persister.Step toJson set upkeep.persister next) :
      Step upkeep { upkeep with persister := next }
  | drift {upkeep : Upkeep σ β} {store : σ} (hheld : upkeep.hold = .held)
      (howner : upkeep.persister.owner = .idle)
      (hlock : ∀ snapshot, upkeep.persister.task ≠ .writing snapshot)
      (hdrifts : drifts upkeep.persister.store store) :
      Step upkeep { upkeep with persister.store := store }
  | drop {upkeep : Upkeep σ β} (hheld : upkeep.hold = .held)
      (howner : upkeep.persister.owner = .idle) : Step upkeep { upkeep with hold := .dropped }
  | drain {upkeep : Upkeep σ β} {next : Persister σ β} (hdropped : upkeep.hold = .dropped)
      (hproceeds : Proceeds toJson set upkeep.persister next) :
      Step upkeep { upkeep with persister := next }
  | hangUp {upkeep : Upkeep σ β} (hdropped : upkeep.hold = .dropped)
      (htask : upkeep.persister.task = .receiving) (hchannel : upkeep.persister.channel = []) :
      Step upkeep { upkeep with hold := .gone }

/-- Any number of steps. -/
def Steps : Upkeep σ β → Upkeep σ β → Prop := Relation.ReflTransGen (Step toJson set drifts)

/-- The thread has ended, after `terminate` or after a panic of the actor. -/
def Over (upkeep : Upkeep σ β) : Prop :=
  upkeep.persister.owner = .terminated ∨ upkeep.hold = .gone

/-- The file shows a store from which this one has drifted. -/
def Shows (file : Option β) (store : σ) : Prop :=
  ∃ shown, file = some (toJson shown) ∧ Relation.ReflTransGen drifts shown store

/-- A persister that is not behind shows the store, up to drift. An actor that panicked was
between two calls. -/
structure Sound (upkeep : Upkeep σ β) : Prop where
  orderly : upkeep.persister.Orderly
  trails : upkeep.persister.mirror.behind = false →
    Shows toJson drifts upkeep.persister.file upkeep.persister.store
  dropped : upkeep.hold ≠ .held → upkeep.persister.owner = .idle
  gone : upkeep.hold = .gone → upkeep.persister.task = .receiving ∧ upkeep.persister.channel = []

variable {toJson set drifts} {upkeep next later : Upkeep σ β}

/-- Nobody calls a setter or `terminate` then: the store stays, and the owner stays before or
after its `terminate`. -/
theorem Proceeds.stays {persister after : Persister σ β}
    (hproceeds : Proceeds toJson set persister after) : after.store = persister.store ∧
      (after.owner = .idle ∨ after.owner = .queueing ↔
        persister.owner = .idle ∨ persister.owner = .queueing) := by
  obtain ⟨hstep, hidle⟩ := hproceeds
  cases hstep with
  | set setter howner hlock => cases hidle howner
  | terminate howner => cases hidle howner
  | queue howner => exact ⟨rfl, by simp [howner]⟩
  | sendClose howner hroom => exact ⟨rfl, by simp [howner]⟩
  | join howner hended => exact ⟨rfl, by simp [howner]⟩
  | _ => exact ⟨rfl, Iff.rfl⟩

/-- Nothing follows a `terminate` that returned. -/
theorem Proceeds.terminated {persister after : Persister σ β}
    (hproceeds : Proceeds toJson set persister after) (howner : persister.owner = .terminated) :
    after.owner = .terminated := by
  obtain ⟨hstep, -⟩ := hproceeds
  cases hstep with
  | set _ hbefore _ | queue hbefore | terminate hbefore | sendClose hbefore _ | join hbefore _ =>
      cases hbefore.symm.trans howner
  | _ => exact howner

/-- A persister that has just been opened. -/
theorem sound_of_opened {persister : Persister σ β} (hopened : Persister.Opened toJson persister) :
    Sound toJson drifts ⟨persister, .held⟩ := by
  refine ⟨hopened.orderly, fun hbehind => ?_, nofun, nofun⟩
  exact ⟨persister.store, hopened.faithful hbehind, .refl⟩

/-- What a step of the persister does to the file that trails. -/
theorem trails_of_step {persister after : Persister σ β}
    (hstep : Persister.Step toJson set persister after) (horderly : persister.Orderly)
    (htrails : persister.mirror.behind = false → Shows toJson drifts persister.file persister.store)
    (hbehind : after.mirror.behind = false) : Shows toJson drifts after.file after.store := by
  rcases hstep.mirror horderly with hsame | hmoved
  · have hstore : after.store = persister.store := congrArg Mirror.source hsame
    have hfile : after.file = persister.file := congrArg Mirror.copy hsame
    rw [hsame] at hbehind
    rw [hstore, hfile]
    exact htrails hbehind
  · exact ⟨after.store, hmoved.faithful hbehind, .refl⟩

theorem Step.sound (hstep : Step toJson set drifts upkeep next)
    (hsound : Sound toJson drifts upkeep) : Sound toJson drifts next := by
  have ⟨horderly, htrails, hdropped, hgone⟩ := hsound
  cases hstep with
  | act hheld hstep =>
      refine ⟨hstep.orderly horderly, trails_of_step hstep horderly htrails, fun hnot => ?_,
        fun hover => ?_⟩
      · exact absurd hheld hnot
      · rw [hheld] at hover
        cases hover
  | @drift store hheld howner hlock hdrifts =>
      refine ⟨⟨?_, horderly.serving, horderly.joining, horderly.terminated⟩, fun hbehind => ?_,
        hdropped, hgone⟩
      · intro snapshot hwriting
        exact absurd hwriting (hlock snapshot)
      · obtain ⟨shown, hfile, hbefore⟩ := htrails hbehind
        exact ⟨shown, hfile, hbefore.tail hdrifts⟩
  | drop hheld howner => exact ⟨horderly, htrails, fun _ => howner, nofun⟩
  | drain hold hproceeds =>
      obtain ⟨hstep, hidle⟩ := hproceeds
      have howner := hdropped (by rw [hold]; nofun)
      refine ⟨hstep.orderly horderly, trails_of_step hstep horderly htrails, fun _ => hidle howner,
        fun hover => ?_⟩
      rw [hold] at hover
      cases hover
  | hangUp hold htask hchannel =>
      exact ⟨horderly, htrails, fun _ => hdropped (by rw [hold]; nofun), fun _ => ⟨htask, hchannel⟩⟩

theorem Steps.sound (hsteps : Steps toJson set drifts upkeep later)
    (hsound : Sound toJson drifts upkeep) : Sound toJson drifts later := by
  induction hsteps with
  | refl => exact hsound
  | tail _ hstep ih => exact hstep.sound ih

/-- A persister whose thread has ended is not behind. -/
theorem Sound.shows (hsound : Sound toJson drifts upkeep) (hover : upkeep.Over) :
    Shows toJson drifts upkeep.persister.file upkeep.persister.store := by
  apply hsound.trails
  rw [← Bool.not_eq_true, Persister.mirror_behind]
  rcases hover with howner | hgone
  · obtain ⟨hchannel, hended⟩ := hsound.orderly.terminated howner
    rw [howner, hchannel, hended]
    simp [PersisterTask.Busy]
  · obtain ⟨htask, hchannel⟩ := hsound.gone hgone
    rw [hsound.dropped (by simp [hgone]), hchannel, htask]
    simp [PersisterTask.Busy]

/-! ## The thread ends -/

section Ends

variable {persister : Persister σ β}

/-- A part of a run in which the owner and the store stay as they are. -/
structure Reaches (toJson : σ → β) (set : ι → σ → σ) (persister next : Persister σ β) :
    Prop where
  run : Relation.ReflTransGen (Proceeds toJson set) persister next
  owner : next.owner = persister.owner
  store : next.store = persister.store

theorem Reaches.refl (persister : Persister σ β) : Reaches toJson set persister persister :=
  ⟨.refl, rfl, rfl⟩

theorem Reaches.step {middle after : Persister σ β} (hreaches : Reaches toJson set persister middle)
    (hstep : Persister.Step toJson set middle after) (howner : after.owner = middle.owner)
    (hstore : after.store = middle.store) : Reaches toJson set persister after :=
  ⟨hreaches.run.tail ⟨hstep, fun hidle => howner.trans hidle⟩, howner.trans hreaches.owner,
    hstore.trans hreaches.store⟩

/-- A thread that has not ended comes to receive again. -/
theorem reaches_receiving (persister : Persister σ β) (hopen : persister.task ≠ .ended) :
    ∃ next, Reaches toJson set persister next ∧ next.task = .receiving ∧
      next.channel = persister.channel := by
  cases htask : persister.task with
  | receiving => exact ⟨persister, .refl _, htask, rfl⟩
  | received =>
      have hread : Reaches toJson set persister _ := (Reaches.refl _).step (.read htask) rfl rfl
      exact ⟨_, hread.step (.write rfl) rfl rfl, rfl, rfl⟩
  | writing snapshot =>
      exact ⟨_, (Reaches.refl _).step (.write htask) rfl rfl, rfl, rfl⟩
  | ended => exact absurd htask hopen

/-- And serves the request that may wait. -/
theorem reaches_empty (persister : Persister σ β) (hopen : persister.task ≠ .ended)
    (hchannel : persister.channel = [] ∨ persister.channel = [.persist]) :
    ∃ next, Reaches toJson set persister next ∧ next.task = .receiving ∧ next.channel = [] := by
  obtain ⟨middle, hmiddle, htask, hsame⟩ :=
    @reaches_receiving _ _ _ toJson set persister hopen
  rw [← hsame] at hchannel
  rcases hchannel with hempty | hrequest
  · exact ⟨middle, hmiddle, htask, hempty⟩
  · have hreceived := hmiddle.step (.receivePersist htask hrequest) rfl rfl
    have hread := hreceived.step (.read rfl) rfl rfl
    exact ⟨_, hread.step (.write rfl) rfl rfl, rfl, rfl⟩

/-- The thread proceeds whether or not the actor is there. -/
theorem steps_of_run {next : Persister σ β} {hold : Hold} (hgoing : hold ≠ .gone)
    (hrun : Relation.ReflTransGen (Proceeds toJson set) persister next) :
    Steps toJson set drifts ⟨persister, hold⟩ ⟨next, hold⟩ := by
  induction hrun with
  | refl => exact .refl
  | tail _ hproceeds ih =>
      cases hold with
      | held => exact ih.tail (.act rfl hproceeds.1)
      | dropped => exact ih.tail (.drain rfl hproceeds)
      | gone => exact absurd rfl hgoing

/-- After a panic of its actor the thread serves what waits, and receives from nobody. -/
theorem Sound.drains (hsound : Sound toJson drifts upkeep) (hdropped : upkeep.hold = .dropped) :
    ∃ next, Relation.ReflTransGen (Proceeds toJson set) upkeep.persister next ∧
      next.task = .receiving ∧ next.channel = [] := by
  have howner := hsound.dropped (by rw [hdropped]; nofun)
  obtain ⟨hchannel, hopen⟩ := hsound.orderly.serving (.inl howner)
  obtain ⟨next, hreaches, htask, hempty⟩ := @reaches_empty _ _ _ toJson set _ hopen hchannel
  exact ⟨next, hreaches.run, htask, hempty⟩

/-- A thread that has received `close` is joined. -/
theorem terminated_of_joining {middle : Persister σ β}
    (hrun : Relation.ReflTransGen (Proceeds toJson set) persister middle)
    (howner : middle.owner = .joining) (htask : middle.task = .receiving)
    (hchannel : middle.channel = [.close]) :
    ∃ last, Relation.ReflTransGen (Proceeds toJson set) persister last ∧
      last.owner = .terminated := by
  have hclose : Proceeds toJson set middle _ :=
    ⟨.receiveClose htask hchannel, fun hidle => nomatch hidle.symm.trans howner⟩
  have hjoin : Proceeds toJson set { middle with channel := [], task := .ended } _ :=
    ⟨.join howner rfl, fun hidle => nomatch hidle.symm.trans howner⟩
  exact ⟨_, (hrun.tail hclose).tail hjoin, rfl⟩

/-- A `terminate` that was begun returns. -/
theorem Sound.closes (hsound : Sound toJson drifts upkeep)
    (howner : upkeep.persister.owner = .closing ∨ upkeep.persister.owner = .joining) :
    ∃ last, Relation.ReflTransGen (Proceeds toJson set) upkeep.persister last ∧
      last.owner = .terminated := by
  rcases howner with hclosing | hjoining
  · obtain ⟨hchannel, hopen⟩ := hsound.orderly.serving (.inr (.inr hclosing))
    obtain ⟨middle, hreaches, htask, hempty⟩ := @reaches_empty _ _ _ toJson set _ hopen hchannel
    have howner := hreaches.owner.trans hclosing
    have hsend : Proceeds toJson set middle _ :=
      ⟨.sendClose howner hempty, fun hidle => nomatch hidle.symm.trans howner⟩
    exact terminated_of_joining (hreaches.run.tail hsend) rfl htask rfl
  · rcases hsound.orderly.joining hjoining with ⟨hchannel, hopen⟩ | ⟨-, hended⟩
    · obtain ⟨middle, hreaches, htask, hsame⟩ := @reaches_receiving _ _ _ toJson set _ hopen
      exact terminated_of_joining hreaches.run (hreaches.owner.trans hjoining) htask
        (hsame.trans hchannel)
    · have hjoin : Proceeds toJson set upkeep.persister _ :=
        ⟨.join hjoining hended, fun hidle => nomatch hidle.symm.trans hjoining⟩
      exact ⟨_, .single hjoin, rfl⟩

end Ends

end Upkeep

end FatCrabTrading
