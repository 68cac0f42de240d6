import FatCrabTrading.Mirror

/-! # The persister

Each store has a thread that writes it to its file. A setter writes the store and then
queues a request in a channel of one slot; if the slot is taken the request is dropped.
The thread holds the read lock of the store while it writes, so no setter runs then.
-/

namespace FatCrabTrading

inductive PersisterMsg where
  | persist
  | close
  deriving DecidableEq

/-- Where the persister's thread is: waiting for a message, about to read the store,
writing what it read, or gone. -/
inductive PersisterTask (σ : Type) where
  | receiving
  | received
  | writing (snapshot : σ)
  | ended

/-- A thread that has a write to do. -/
def PersisterTask.Busy {σ : Type} : PersisterTask σ → Bool
  | .received => true
  | .writing _ => true
  | .receiving => false
  | .ended => false

/-- Where the owner of the store is: between two calls, about to queue what a setter
wrote, or in `terminate` about to send, about to join, or back from it. -/
inductive PersisterOwner where
  | idle
  | queueing
  | closing
  | joining
  | terminated
  deriving DecidableEq

/-- A store with its file, its channel, its thread and its owner. -/
structure Persister (σ β : Type) where
  store : σ
  file : Option β
  channel : List PersisterMsg
  task : PersisterTask σ
  owner : PersisterOwner

namespace Persister

variable {σ β ι : Type} (toJson : σ → β) (set : ι → σ → σ)

/-- A new store, about to queue its first request; its file may be anything. -/
def new (store : σ) (file : Option β) : Persister σ β :=
  ⟨store, file, [], .receiving, .queueing⟩

/-- A store read back from its file; nothing is queued for it. -/
def restore (store : σ) (file : β) : Persister σ β :=
  ⟨store, some file, [], .receiving, .idle⟩

/-- `try_send` of a request: it is dropped when the slot is taken. -/
def queue (channel : List PersisterMsg) : List PersisterMsg :=
  if channel = [] then [.persist] else channel

/-- One step of the owner or of the thread. -/
inductive Step : Persister σ β → Persister σ β → Prop where
  | set {persister : Persister σ β} (setter : ι) (howner : persister.owner = .idle)
      (hlock : ∀ snapshot, persister.task ≠ .writing snapshot) :
      Step persister { persister with store := set setter persister.store, owner := .queueing }
  | queue {persister : Persister σ β} (howner : persister.owner = .queueing) :
      Step persister { persister with channel := queue persister.channel, owner := .idle }
  | terminate {persister : Persister σ β} (howner : persister.owner = .idle) :
      Step persister { persister with owner := .closing }
  | sendClose {persister : Persister σ β} (howner : persister.owner = .closing)
      (hroom : persister.channel = []) :
      Step persister { persister with channel := [.close], owner := .joining }
  | join {persister : Persister σ β} (howner : persister.owner = .joining)
      (hended : persister.task = .ended) :
      Step persister { persister with owner := .terminated }
  | receivePersist {persister : Persister σ β} {rest : List PersisterMsg}
      (htask : persister.task = .receiving) (hchannel : persister.channel = .persist :: rest) :
      Step persister { persister with channel := rest, task := .received }
  | receiveClose {persister : Persister σ β} {rest : List PersisterMsg}
      (htask : persister.task = .receiving) (hchannel : persister.channel = .close :: rest) :
      Step persister { persister with channel := rest, task := .ended }
  | read {persister : Persister σ β} (htask : persister.task = .received) :
      Step persister { persister with task := .writing persister.store }
  | write {persister : Persister σ β} {snapshot : σ} (htask : persister.task = .writing snapshot) :
      Step persister
        { persister with file := some (toJson snapshot), task := .receiving }

variable {toJson set} {persister next : Persister σ β}

/-- The mirror that the persister keeps. Its file may be behind while a setter has not
queued yet, while a request waits, and while the thread has a write to do. -/
def mirror (persister : Persister σ β) : Mirror σ β where
  source := persister.store
  copy := persister.file
  behind := persister.owner = .queueing ∨ .persist ∈ persister.channel ∨ persister.task.Busy

/-- What the owner has sent and the thread has received so far fit together, and what is
being written is the store. -/
structure Orderly (persister : Persister σ β) : Prop where
  locked : ∀ snapshot, persister.task = .writing snapshot → snapshot = persister.store
  serving : persister.owner = .idle ∨ persister.owner = .queueing ∨ persister.owner = .closing →
    (persister.channel = [] ∨ persister.channel = [.persist]) ∧ persister.task ≠ .ended
  joining : persister.owner = .joining →
    persister.channel = [.close] ∧ persister.task ≠ .ended ∨
      persister.channel = [] ∧ persister.task = .ended
  terminated : persister.owner = .terminated → persister.channel = [] ∧ persister.task = .ended

theorem orderly_new (store : σ) (file : Option β) : (new store file).Orderly :=
  ⟨nofun, fun _ => ⟨.inl rfl, nofun⟩, nofun, nofun⟩

theorem orderly_restore (store : σ) (file : β) : (restore store file).Orderly :=
  ⟨nofun, fun _ => ⟨.inl rfl, nofun⟩, nofun, nofun⟩

theorem queue_eq {channel : List PersisterMsg} (h : channel = [] ∨ channel = [.persist]) :
    queue channel = [.persist] := by
  rcases h with rfl | rfl
  · rfl
  · rfl

/-- A thread that was not told to close goes on with its work. -/
theorem Orderly.goesOn (horderly : persister.Orderly) (hopen : persister.task ≠ .ended)
    (file : Option β) (task : PersisterTask σ) (htask : task ≠ .ended)
    (hlocked : ∀ snapshot, task = .writing snapshot → snapshot = persister.store) :
    { persister with file := file, task := task }.Orderly := by
  refine ⟨hlocked, ?_, ?_, ?_⟩
  · intro howner
    exact ⟨(horderly.serving howner).1, htask⟩
  · intro howner
    rcases horderly.joining howner with ⟨hchannel, -⟩ | ⟨-, hended⟩
    · exact .inl ⟨hchannel, htask⟩
    · exact absurd hended hopen
  · intro howner
    exact absurd (horderly.terminated howner).2 hopen

theorem Step.orderly (hstep : Step toJson set persister next) (horderly : persister.Orderly) :
    next.Orderly := by
  have ⟨hlocked, hserving, hjoining, hterminated⟩ := horderly
  cases hstep with
  | set setter howner hlock =>
      -- a setter takes the lock, so no older store is being written
      have hbefore := hserving (.inl howner)
      exact ⟨fun snapshot htask => absurd htask (hlock snapshot), fun _ => hbefore, nofun, nofun⟩
  | queue howner =>
      obtain ⟨hchannel, htask⟩ := hserving (.inr (.inl howner))
      exact ⟨hlocked, fun _ => ⟨.inr (queue_eq hchannel), htask⟩, nofun, nofun⟩
  | terminate howner =>
      have hbefore := hserving (.inl howner)
      exact ⟨hlocked, fun _ => hbefore, nofun, nofun⟩
  | sendClose howner hroom =>
      obtain ⟨-, htask⟩ := hserving (.inr (.inr howner))
      exact ⟨hlocked, by simp, fun _ => .inl ⟨rfl, htask⟩, nofun⟩
  | join howner hended =>
      rcases hjoining howner with ⟨-, hne⟩ | hclosed
      · exact absurd hended hne
      · exact ⟨hlocked, by simp, nofun, fun _ => hclosed⟩
  | receivePersist htask hchannel =>
      -- a request waits only while the owner has not sent its close
      refine ⟨nofun, ?_, ?_, ?_⟩
      · intro howner
        obtain ⟨hslot, -⟩ := hserving howner
        rw [hchannel] at hslot
        simp only [List.cons_ne_nil, List.cons.injEq, true_and, false_or] at hslot
        exact ⟨.inl hslot, nofun⟩
      · intro howner
        have hbefore := hjoining howner
        rw [hchannel] at hbefore
        simp at hbefore
      · intro howner
        have hbefore := hterminated howner
        rw [hchannel] at hbefore
        simp at hbefore
  | receiveClose htask hchannel =>
      -- a close is there only for an owner that waits in `join`
      refine ⟨nofun, ?_, ?_, ?_⟩
      · intro howner
        obtain ⟨hslot, -⟩ := hserving howner
        rw [hchannel] at hslot
        simp at hslot
      · intro howner
        have hbefore := hjoining howner
        rw [hchannel] at hbefore
        simp only [List.cons.injEq, true_and, List.cons_ne_nil, false_and, or_false] at hbefore
        exact .inr ⟨hbefore.1, rfl⟩
      · intro howner
        have hbefore := hterminated howner
        rw [hchannel] at hbefore
        simp at hbefore
  | read htask =>
      -- the lock is held from here to the write: the snapshot is the store
      have hopen : persister.task ≠ .ended := fun hended => nomatch htask.symm.trans hended
      apply horderly.goesOn hopen persister.file (.writing persister.store) nofun
      intro snapshot hwriting
      cases hwriting
      rfl
  | write htask =>
      have hopen : persister.task ≠ .ended := fun hended => nomatch htask.symm.trans hended
      exact horderly.goesOn hopen _ .receiving nofun nofun

theorem mirror_behind : persister.mirror.behind = true ↔
    persister.owner = .queueing ∨ .persist ∈ persister.channel ∨ persister.task.Busy := by
  unfold mirror
  simp

/-- Two persisters whose obligations are the same show the same mirror. -/
theorem mirror_congr (hstore : next.store = persister.store) (hfile : next.file = persister.file)
    (hbehind : (next.owner = .queueing ∨ .persist ∈ next.channel ∨ next.task.Busy = true) ↔
      (persister.owner = .queueing ∨ .persist ∈ persister.channel ∨
        persister.task.Busy = true)) :
    next.mirror = persister.mirror := by
  unfold mirror
  rw [hstore, hfile]
  congr 1
  exact decide_eq_decide.mpr hbehind

/-- A setter changes the mirror's source, a write copies it, and nothing else matters. -/
theorem Step.mirror (hstep : Step toJson set persister next) (horderly : persister.Orderly) :
    next.mirror = persister.mirror ∨ Mirror.Step toJson persister.mirror next.mirror := by
  cases hstep with
  | set setter howner hlock =>
      right
      have hbehind : (Persister.mirror { persister with
          store := set setter persister.store, owner := .queueing }).behind = true :=
        mirror_behind.mpr (.inl rfl)
      have hchange : Mirror.Step toJson persister.mirror
          { persister.mirror with source := set setter persister.store, behind := true } :=
        .change _
      rw [← hbehind] at hchange
      exact hchange
  | queue howner =>
      -- what the setter owed is now in the channel
      obtain ⟨hchannel, -⟩ := horderly.serving (.inr (.inl howner))
      left
      refine mirror_congr rfl rfl ?_
      dsimp only
      rw [queue_eq hchannel, howner]
      simp
  | terminate howner =>
      left
      refine mirror_congr rfl rfl ?_
      dsimp only
      rw [howner]
      simp
  | sendClose howner hroom =>
      left
      refine mirror_congr rfl rfl ?_
      dsimp only
      rw [howner, hroom]
      simp
  | join howner hended =>
      left
      refine mirror_congr rfl rfl ?_
      dsimp only
      rw [howner]
      simp
  | receivePersist htask hchannel =>
      -- what waited in the channel is now with the thread
      left
      refine mirror_congr rfl rfl ?_
      dsimp only
      rw [hchannel]
      simp [PersisterTask.Busy]
  | receiveClose htask hchannel =>
      left
      refine mirror_congr rfl rfl ?_
      dsimp only
      rw [hchannel, htask]
      simp [PersisterTask.Busy]
  | read htask =>
      left
      refine mirror_congr rfl rfl ?_
      dsimp only
      rw [htask]
      simp [PersisterTask.Busy]
  | @write snapshot htask =>
      right
      -- by the lock the snapshot is no older than the source
      cases horderly.locked snapshot htask
      exact .copy _

/-- A file changes only when a write is complete, and then it shows the store as it is. -/
theorem Step.file (hstep : Step toJson set persister next) (horderly : persister.Orderly) :
    next.file = persister.file ∨
      next.file = some (toJson next.store) ∧ next.store = persister.store := by
  cases hstep with
  | @write snapshot htask =>
      right
      rw [horderly.locked snapshot htask]
      exact ⟨rfl, rfl⟩
  | _ => exact .inl rfl

variable (toJson) in
/-- A persister that was just opened, for a new store or for one read from its file. -/
inductive Opened : Persister σ β → Prop where
  | new (store : σ) (file : Option β) : Opened (new store file)
  | restore (store : σ) : Opened (restore store (toJson store))

theorem Opened.orderly (hopened : Opened toJson persister) : persister.Orderly := by
  cases hopened with
  | new store file => exact orderly_new store file
  | restore store => exact orderly_restore store _

theorem Opened.faithful (hopened : Opened toJson persister) :
    persister.mirror.Faithful toJson := by
  cases hopened with
  | new store file =>
      intro hbehind
      have hqueueing : (Persister.new store file).mirror.behind = true :=
        mirror_behind.mpr (.inl rfl)
      rw [hqueueing] at hbehind
      cases hbehind
  | restore store =>
      intro _
      rfl

/-- One step keeps the file of a persister that is not behind. -/
theorem Step.faithful (hstep : Step toJson set persister next) (horderly : persister.Orderly)
    (hfaithful : persister.mirror.Faithful toJson) : next.mirror.Faithful toJson := by
  rcases hstep.mirror horderly with hsame | hmoved
  · rw [hsame]
    exact hfaithful
  · exact hmoved.faithful

theorem faithful_of_run (hopened : Opened toJson persister)
    (hrun : Relation.ReflTransGen (Step toJson set) persister next) :
    next.Orderly ∧ next.mirror.Faithful toJson :=
  Mirror.faithful_of_run (fun _ _ horderly hstep => hstep.orderly horderly)
    (fun _ _ horderly hstep => hstep.mirror horderly)
    hopened.orderly hopened.faithful hrun

/-- Once `terminate` has returned the file shows the store. -/
theorem file_of_terminated (horderly : next.Orderly)
    (hfaithful : next.mirror.Faithful toJson) (howner : next.owner = .terminated) :
    next.file = some (toJson next.store) := by
  obtain ⟨hchannel, hended⟩ := horderly.terminated howner
  apply hfaithful
  rw [← Bool.not_eq_true, mirror_behind, howner, hchannel, hended]
  simp [PersisterTask.Busy]

/-- While the file is behind, something will still be written, and what is being written
is the store. -/
theorem pending_of_behind (horderly : next.Orderly)
    (hfaithful : next.mirror.Faithful toJson) (howner : next.owner ≠ .queueing)
    (hfile : next.file ≠ some (toJson next.store)) :
    .persist ∈ next.channel ∨ next.task = .received ∨ next.task = .writing next.store := by
  have hbehind : next.mirror.behind = true := by
    rw [← Bool.not_eq_false]
    intro hnot
    exact hfile (hfaithful hnot)
  rcases mirror_behind.mp hbehind with hqueueing | hchannel | hbusy
  · exact absurd hqueueing howner
  · exact .inl hchannel
  · cases htask : next.task with
    | receiving =>
        rw [htask] at hbusy
        cases hbusy
    | received => exact .inr (.inl rfl)
    | writing snapshot =>
        rw [horderly.locked snapshot htask]
        exact .inr (.inr rfl)
    | ended =>
        rw [htask] at hbusy
        cases hbusy

end Persister

end FatCrabTrading
