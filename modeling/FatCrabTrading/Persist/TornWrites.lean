import FatCrabTrading.Persist.Persister
import FatCrabTrading.Purse.Data
import Mathlib.Data.List.Infix

/-! # Files between two writes and inside one

`fs::write` truncates the file and then writes the bytes. A crash in between leaves the file
shorter than any of the texts that were written for it. Outside of a write the file is
the last text that was completely written, so a restart reads the store that it shows.
-/

namespace FatCrabTrading

/-- What `serde_json` does for a store. A store is a struct, so its text ends with the brace
that closes it and no shorter part of it parses. -/
structure JsonFormat (σ : Type) where
  toJson : σ → List UInt8
  fromJson : List UInt8 → Option σ
  from_to : ∀ store, fromJson (toJson store) = some store
  from_prefix : ∀ store bytes, bytes <+: toJson store → bytes ≠ toJson store →
    fromJson bytes = none

/-- A persister with the disk that it writes to. The file of the persister is the last one
that was completely written; `rest` is what is still to be written while the file is open. -/
structure Disk (σ : Type) where
  persister : Persister σ (List UInt8)
  contents : Option (List UInt8)
  rest : Option (List UInt8)
  held : List σ

namespace Disk

variable {σ ι : Type} (format : JsonFormat σ) (set : ι → σ → σ)

/-- One step of the owner, of the thread up to a write and after it, or of a write. -/
inductive Step : Disk σ → Disk σ → Prop where
  | outside {disk : Disk σ} {persister : Persister σ (List UInt8)}
      (hstep : Persister.Step format.toJson set disk.persister persister)
      (hthread : ∀ snapshot, disk.persister.task = .writing snapshot →
        persister.task = .writing snapshot) :
      Step disk { disk with persister := persister, held := persister.store :: disk.held }
  | truncate {disk : Disk σ} {snapshot : σ} (htask : disk.persister.task = .writing snapshot)
      (hclosed : disk.rest = none) :
      Step disk { disk with contents := some [], rest := some (format.toJson snapshot) }
  | append {disk : Disk σ} {written chunk rest : List UInt8}
      (hcontents : disk.contents = some written) (hrest : disk.rest = some (chunk ++ rest)) :
      Step disk { disk with contents := some (written ++ chunk), rest := some rest }
  | close {disk : Disk σ} {snapshot : σ} (htask : disk.persister.task = .writing snapshot)
      (hrest : disk.rest = some []) :
      Step disk { disk with
        persister := { disk.persister with
          file := some (format.toJson snapshot), task := .receiving }
        rest := none }

/-- A store that had no file. -/
def new (store : σ) : Disk σ := ⟨.new store none, none, none, [store]⟩

/-- Any run with crashes at any point. After a crash the store is read back from what is on
the disk; a purse queues it at once, a trade does not. -/
inductive Lives : Disk σ → Prop where
  | new (store : σ) : Lives (new store)
  | step {disk next : Disk σ} (hlives : Lives disk) (hstep : Step format set disk next) :
      Lives next
  | restart {disk : Disk σ} {bytes : List UInt8} {store : σ}
      {persister : Persister σ (List UInt8)} (hlives : Lives disk)
      (hcontents : disk.contents = some bytes) (hparse : format.fromJson bytes = some store)
      (hopened : persister = .new store (some bytes) ∨ persister = .restore store bytes) :
      Lives ⟨persister, some bytes, none, store :: disk.held⟩

/-- The store that a restart reads; `none` stands for its panic. -/
def restored (disk : Disk σ) : Option σ := disk.contents.bind format.fromJson

/-- After a crash at this point, a restart finds a store that was held earlier. -/
def Recovers (disk : Disk σ) : Prop := ∃ store ∈ disk.held, disk.restored format = some store

/-- Between the truncation and the last byte of a write. -/
def Torn (disk : Disk σ) : Prop := ∃ byte rest, disk.rest = some (byte :: rest)

/-- What is on the disk: the last complete text, or the beginning of the next one. -/
structure Sound (disk : Disk σ) : Prop where
  orderly : disk.persister.Orderly
  current : disk.persister.store ∈ disk.held
  complete : ∀ bytes, disk.persister.file = some bytes →
    ∃ store ∈ disk.held, bytes = format.toJson store
  closed : disk.rest = none → disk.contents = disk.persister.file
  opened : ∀ rest, disk.rest = some rest →
    disk.persister.task = .writing disk.persister.store ∧ ∃ written,
      disk.contents = some written ∧ written ++ rest = format.toJson disk.persister.store

variable {format set} {disk next : Disk σ}

/-- Every step of the disk is a step of the persister or leaves it alone. -/
theorem Step.persister (hstep : Step format set disk next) :
    next.persister = disk.persister ∨
      Persister.Step format.toJson set disk.persister next.persister := by
  cases hstep with
  | outside hstep hthread => exact .inr hstep
  | truncate htask hclosed => exact .inl rfl
  | append hcontents hrest => exact .inl rfl
  | close htask hrest => exact .inr (.write htask)

/-- While the thread does not come back from a write, nothing is written completely, and a
store that is being written stays. -/
theorem outside_write {persister next : Persister σ (List UInt8)}
    (hstep : Persister.Step format.toJson set persister next)
    (hthread : ∀ snapshot, persister.task = .writing snapshot → next.task = .writing snapshot) :
    next.file = persister.file ∧
      ∀ snapshot, persister.task = .writing snapshot → next.store = persister.store := by
  cases hstep with
  | set setter howner hlock =>
      exact ⟨rfl, fun snapshot htask => absurd htask (hlock snapshot)⟩
  | write htask => cases hthread _ htask
  | _ => exact ⟨rfl, fun _ _ => rfl⟩

theorem sound_new (store : σ) : (new store).Sound format where
  orderly := Persister.orderly_new store none
  current := List.mem_cons_self
  complete := nofun
  closed := fun _ => rfl
  opened := nofun

theorem Step.sound (hstep : Step format set disk next) (hsound : disk.Sound format) :
    next.Sound format := by
  obtain ⟨horderly, hcurrent, hcomplete, hclosed, hopened⟩ := hsound
  have hnext : next.persister.Orderly := by
    rcases hstep.persister with hsame | hmoved
    · rw [hsame]
      exact horderly
    · exact hmoved.orderly horderly
  cases hstep with
  | outside hstep hthread =>
      obtain ⟨hfile, hstays⟩ := outside_write hstep hthread
      refine ⟨hnext, List.mem_cons_self, ?_, ?_, ?_⟩
      · intro bytes hbytes
        obtain ⟨store, hheld, heq⟩ := hcomplete bytes (hfile ▸ hbytes)
        exact ⟨store, List.mem_cons_of_mem _ hheld, heq⟩
      · intro hrest
        exact (hclosed hrest).trans hfile.symm
      · intro rest hrest
        obtain ⟨htask, written, hcontents, hwritten⟩ := hopened rest hrest
        have hstore := hstays _ htask
        dsimp only
        rw [hstore]
        exact ⟨hthread _ htask, written, hcontents, hwritten⟩
  | truncate htask hfree =>
      refine ⟨hnext, hcurrent, hcomplete, nofun, ?_⟩
      intro rest hrest
      cases hrest
      obtain rfl := horderly.locked _ htask
      exact ⟨htask, [], rfl, List.nil_append _⟩
  | append hcontents hrest =>
      refine ⟨hnext, hcurrent, hcomplete, nofun, ?_⟩
      intro rest heq
      cases heq
      obtain ⟨htask, written, hbefore, hwritten⟩ := hopened _ hrest
      obtain rfl := Option.some.inj (hcontents.symm.trans hbefore)
      exact ⟨htask, _, rfl, (List.append_assoc ..).trans hwritten⟩
  | close htask hrest =>
      obtain rfl := horderly.locked _ htask
      obtain ⟨-, written, hcontents, hwritten⟩ := hopened _ hrest
      refine ⟨hnext, hcurrent, ?_, ?_, nofun⟩
      · intro bytes hbytes
        cases hbytes
        exact ⟨_, hcurrent, rfl⟩
      · intro _
        rw [List.append_nil] at hwritten
        rw [← hwritten]
        exact hcontents

/-- A file that parses was completely written. -/
theorem Sound.whole (hsound : disk.Sound format) {bytes : List UInt8} {store : σ}
    (hcontents : disk.contents = some bytes) (hparse : format.fromJson bytes = some store) :
    store ∈ disk.held ∧ bytes = format.toJson store ∧
      (disk.persister.file = some bytes ∨ disk.persister.store = store) := by
  cases hrest : disk.rest with
  | none =>
      have hfile := (hsound.closed hrest).symm.trans hcontents
      obtain ⟨written, hheld, rfl⟩ := hsound.complete bytes hfile
      obtain rfl := Option.some.inj ((format.from_to written).symm.trans hparse)
      exact ⟨hheld, rfl, .inl hfile⟩
  | some rest =>
      obtain ⟨-, written, hbefore, hwritten⟩ := hsound.opened rest hrest
      obtain rfl := Option.some.inj (hcontents.symm.trans hbefore)
      by_cases hwhole : bytes = format.toJson disk.persister.store
      · subst hwhole
        obtain rfl := Option.some.inj ((format.from_to _).symm.trans hparse)
        exact ⟨hsound.current, rfl, .inr rfl⟩
      · have hnone := format.from_prefix _ bytes ⟨rest, hwritten⟩ hwhole
        cases hnone.symm.trans hparse

/-- In every run, whatever crashes there were. -/
theorem Lives.sound (hlives : Lives format set disk) : disk.Sound format := by
  induction hlives with
  | new store => exact sound_new store
  | step _ hstep ih => exact hstep.sound ih
  | @restart disk bytes store persister _ hcontents hparse hopened ih =>
      obtain ⟨-, hbytes, -⟩ := ih.whole hcontents hparse
      have hstart : persister.Orderly ∧ persister.store = store ∧
          persister.file = some bytes := by
        rcases hopened with rfl | rfl
        · exact ⟨Persister.orderly_new store _, rfl, rfl⟩
        · exact ⟨Persister.orderly_restore store _, rfl, rfl⟩
      obtain ⟨horderly, hstore, hfile⟩ := hstart
      refine ⟨horderly, ?_, ?_, ?_, nofun⟩
      · dsimp only
        rw [hstore]
        exact List.mem_cons_self
      · intro other hother
        obtain rfl := Option.some.inj (hfile.symm.trans hother)
        exact ⟨store, List.mem_cons_self, hbytes⟩
      · intro _
        exact hfile.symm

/-- Inside a write the file holds a proper beginning of the new text, and a restart panics. -/
theorem Sound.torn (hsound : disk.Sound format) (htorn : disk.Torn) :
    (∃ written, disk.contents = some written ∧ written <+: format.toJson disk.persister.store ∧
      written ≠ format.toJson disk.persister.store) ∧ disk.restored format = none := by
  obtain ⟨byte, rest, hrest⟩ := htorn
  obtain ⟨-, written, hcontents, hall⟩ := hsound.opened _ hrest
  have hshort : written ≠ format.toJson disk.persister.store := by
    intro hwhole
    rw [← hwhole] at hall
    simp at hall
  refine ⟨⟨written, hcontents, ⟨_, hall⟩, hshort⟩, ?_⟩
  rw [restored, hcontents, Option.bind_some]
  exact format.from_prefix _ written ⟨_, hall⟩ hshort

/-- At every point of every run, once a file was completely written: a restart finds a store
that was held earlier exactly if no write is torn, and it is the one that the last complete
write shows or the one being written. If one is torn, the file holds a proper beginning of the
new text, and the restart panics. -/
theorem recovers_iff (hlives : Lives format set disk) (hwritten : disk.persister.file ≠ none) :
    (disk.Recovers format ↔ ¬ disk.Torn) ∧
      (∀ store, disk.restored format = some store →
        disk.persister.file = some (format.toJson store) ∨ disk.persister.store = store) ∧
      (disk.Torn → (∃ written, disk.contents = some written ∧
        written <+: format.toJson disk.persister.store ∧
          written ≠ format.toJson disk.persister.store) ∧ disk.restored format = none) := by
  have hsound := hlives.sound
  refine ⟨?_, ?_, hsound.torn⟩
  · constructor
    · intro hrecovers htorn
      obtain ⟨store, -, hrestored⟩ := hrecovers
      cases (hsound.torn htorn).2.symm.trans hrestored
    · intro hwhole
      cases hrest : disk.rest with
      | none =>
          obtain ⟨bytes, hfile⟩ := Option.ne_none_iff_exists'.mp hwritten
          obtain ⟨store, hheld, rfl⟩ := hsound.complete bytes hfile
          refine ⟨store, hheld, ?_⟩
          rw [restored, hsound.closed hrest, hfile]
          exact format.from_to store
      | some rest =>
          cases rest with
          | cons byte rest => exact absurd ⟨byte, rest, hrest⟩ hwhole
          | nil =>
              obtain ⟨-, written, hcontents, hall⟩ := hsound.opened _ hrest
              rw [List.append_nil] at hall
              refine ⟨disk.persister.store, hsound.current, ?_⟩
              rw [restored, hcontents, hall]
              exact format.from_to _
  · intro store hrestored
    obtain ⟨bytes, hcontents, hparse⟩ := Option.bind_eq_some_iff.mp hrestored
    obtain ⟨-, rfl, hshown⟩ := hsound.whole hcontents hparse
    exact hshown

section Writes

variable {store : σ} {file contents : Option (List UInt8)} {held : List σ}

/-- A store that is about to be queued can be read by the thread. -/
theorem Lives.read
    (hlives : Lives format set ⟨⟨store, file, [], .receiving, .queueing⟩, contents, none, held⟩) :
    Lives format set ⟨⟨store, file, [], .writing store, .idle⟩, contents, none,
      store :: store :: store :: held⟩ := by
  have hqueued := hlives.step (.outside (.queue rfl) nofun)
  have hreceived := hqueued.step (.outside (.receivePersist rfl rfl) nofun)
  exact hreceived.step (.outside (.read rfl) nofun)

/-- A store that was read can be written as a whole. -/
theorem Lives.write
    (hlives : Lives format set ⟨⟨store, file, [], .writing store, .idle⟩, contents, none, held⟩) :
    Lives format set ⟨⟨store, some (format.toJson store), [], .receiving, .idle⟩,
      some (format.toJson store), none, held⟩ := by
  have htruncated := hlives.step (.truncate rfl rfl)
  have happended := htruncated.step
    (@Step.append _ _ _ _ _ [] (format.toJson store) [] rfl
      (congrArg some (List.append_nil _).symm))
  exact happended.step (.close rfl rfl)

/-- A store that was written can be changed. -/
theorem Lives.change (setter : ι)
    (hlives : Lives format set ⟨⟨store, file, [], .receiving, .idle⟩, contents, none, held⟩) :
    Lives format set ⟨⟨set setter store, file, [], .receiving, .queueing⟩, contents, none,
      set setter store :: held⟩ :=
  hlives.step (.outside (.set setter rfl nofun) nofun)

end Writes

section Sample

/-- A purse's store before and after its first allocation. -/
def unreserved : PurseData := .new .regtest 100

def reserved : PurseData := unreserved.allocateFunds ⟨1⟩ 50 (some 100)

/-- The stores of a purse that is asked once for an allocation. -/
abbrev PurseRun := { data : PurseData // data = unreserved ∨ data = reserved }

/-- Their texts, in ASCII. -/
def PurseRun.toJson (data : PurseData) : List UInt8 :=
  let funds := if (data.getAllocatedFunds ⟨1⟩).isSome
    then "\"00000000-0000-0000-0000-000000000001\":50" else ""
  let text := "\x7b\"network\":\"regtest\",\"height\":100,\"allocated_funds\":\x7b" ++ funds ++
    "\x7d\x7d"
  text.toList.map fun char => UInt8.ofNat char.toNat

def PurseRun.fromJson (bytes : List UInt8) : Option PurseRun :=
  if bytes = toJson unreserved then some ⟨unreserved, .inl rfl⟩
  else if bytes = toJson reserved then some ⟨reserved, .inr rfl⟩
  else none

def PurseRun.json : JsonFormat PurseRun where
  toJson store := toJson store.1
  fromJson := fromJson
  from_to := by
    intro store
    obtain ⟨data, rfl | rfl⟩ := store
    · exact if_pos rfl
    · have hdiffer : toJson reserved ≠ toJson unreserved := by decide +kernel
      exact (if_neg hdiffer).trans (if_pos rfl)
  from_prefix := by
    intro store bytes hprefix hshort
    have hfirst : ¬ toJson unreserved <+: toJson reserved := by decide +kernel
    have hsecond : ¬ toJson reserved <+: toJson unreserved := by decide +kernel
    unfold fromJson
    rw [if_neg, if_neg]
    · intro hsame
      subst hsame
      obtain ⟨data, rfl | rfl⟩ := store
      · exact hsecond hprefix
      · exact hshort rfl
    · intro hsame
      subst hsame
      obtain ⟨data, rfl | rfl⟩ := store
      · exact hshort rfl
      · exact hfirst hprefix

/-- The only setter that is called. -/
def PurseRun.reserve (_ : Unit) (_ : PurseRun) : PurseRun := ⟨reserved, .inr rfl⟩

/-- The new store was written, then sats were allocated, and the thread is about to write
again. -/
def rewriting : Disk PurseRun :=
  let before : PurseRun := ⟨unreserved, .inl rfl⟩
  let after : PurseRun := ⟨reserved, .inr rfl⟩
  ⟨⟨after, some (PurseRun.json.toJson before), [], .writing after, .idle⟩,
    some (PurseRun.json.toJson before), none,
    [after, after, after, after, before, before, before, before]⟩

theorem lives_rewriting : Lives PurseRun.json PurseRun.reserve rewriting := by
  let before : PurseRun := ⟨unreserved, .inl rfl⟩
  have hnew : Lives PurseRun.json PurseRun.reserve (.new before) := .new before
  exact (hnew.read.write.change ()).read

/-- Between two writes the first store is found again. -/
theorem recovers_iff_rewriting :
    (rewriting.Recovers PurseRun.json ↔ ¬ rewriting.Torn) ∧
      (∀ store, rewriting.restored PurseRun.json = some store →
        rewriting.persister.file = some (PurseRun.json.toJson store) ∨
          rewriting.persister.store = store) ∧
      (rewriting.Torn → (∃ written, rewriting.contents = some written ∧
        written <+: PurseRun.json.toJson rewriting.persister.store ∧
          written ≠ PurseRun.json.toJson rewriting.persister.store) ∧
            rewriting.restored PurseRun.json = none) :=
  recovers_iff lives_rewriting (Option.some_ne_none _)

/-- The file was written once. A crash right after the next truncation leaves it empty, and
the purse does not start again. -/
theorem destroyed_by_crash : ∃ disk, Lives PurseRun.json PurseRun.reserve disk ∧
    disk.persister.file ≠ none ∧ disk.contents = some [] ∧
      disk.restored PurseRun.json = none ∧ ¬ disk.Recovers PurseRun.json := by
  have hnone : PurseRun.fromJson [] = none := by
    have hfirst : ([] : List UInt8) ≠ PurseRun.toJson unreserved := by decide +kernel
    have hsecond : ([] : List UInt8) ≠ PurseRun.toJson reserved := by decide +kernel
    rw [PurseRun.fromJson, if_neg hfirst, if_neg hsecond]
  refine ⟨_, lives_rewriting.step (.truncate rfl rfl), Option.some_ne_none _, rfl, hnone, ?_⟩
  intro hrecovers
  obtain ⟨store, -, hrestored⟩ := hrecovers
  cases hnone.symm.trans hrestored

end Sample

end Disk

end FatCrabTrading
