import FatCrabTrading.Persist.Restore
import FatCrabTrading.Sample

/-! # Sessions of a trader on one directory

In a session trades are created and served, each behind its own persister. A clean
shutdown terminates every persister, and the next session restores the trades from the
files. What happens to a file that is not named after a trade is left open.
-/

namespace FatCrabTrading

section Sessions

variable [Bitcoin]

namespace TradeStore

def isMaker : TradeStore → Bool
  | .makerBuy => true
  | .makerSell => true
  | .takerBuy => false
  | .takerSell => false

/-- The uuid of a stored trade, which names its file. -/
def tradeUuid : (kind : TradeStore) → kind.Data → Uuid
  | .makerBuy, data => data.order.tradeUuid
  | .makerSell, data => data.order.tradeUuid
  | .takerBuy, data => data.orderEnvelope.order.tradeUuid
  | .takerSell, data => data.orderEnvelope.order.tradeUuid

/-- No setter writes the order. -/
theorem tradeUuid_set (kind : TradeStore) (setter : kind.Setter) (data : kind.Data) :
    kind.tradeUuid (kind.set setter data) = kind.tradeUuid data := by
  cases kind <;> cases setter <;> rfl

end TradeStore

namespace FatCrabTrader

/-- A restored trade of a kind: its file, and its data. -/
def Trades.ofKind (trades : Trades) : (kind : TradeStore) → UuidMap (FileName × kind.Data)
  | .makerBuy, tradeUuid => match trades.makers tradeUuid with
      | some (.buy ⟨⟨.buy actor, _, _⟩, path⟩) => some (path, actor.data)
      | _ => none
  | .makerSell, tradeUuid => match trades.makers tradeUuid with
      | some (.sell ⟨⟨.sell actor, _, _⟩, path⟩) => some (path, actor.data)
      | _ => none
  | .takerBuy, tradeUuid => match trades.takers tradeUuid with
      | some (.buy ⟨⟨.buy actor, _, _⟩, path⟩) => some (path, actor.data)
      | _ => none
  | .takerSell, tradeUuid => match trades.takers tradeUuid with
      | some (.sell ⟨⟨.sell actor, _, _⟩, path⟩) => some (path, actor.data)
      | _ => none

/-- A uuid names at most one maker and at most one taker. -/
def Book.Apart (book : Book) : Prop :=
  ∀ kind other tradeUuid, kind.isMaker = other.isMaker → (book kind tradeUuid).isSome →
    (book other tradeUuid).isSome → kind = other

/-- Each trade of the book is found again under its own kind only. -/
theorem ofKind_rebuilt {book : Book} (hapart : book.Apart) (n3xbMakers n3xbTakers : Uuid → Bool)
    (network : Network) (kind : TradeStore) (tradeUuid : Uuid) :
    (rebuilt n3xbMakers n3xbTakers network book).ofKind kind tradeUuid =
      if (if kind.isMaker then n3xbMakers else n3xbTakers) tradeUuid then
        (book kind tradeUuid).map fun data => (.ofTrade tradeUuid, data)
      else none := by
  have hmakers := hapart .makerBuy .makerSell tradeUuid rfl
  have htakers := hapart .takerBuy .takerSell tradeUuid rfl
  cases kind with
  | makerBuy | makerSell =>
      cases hrestored : n3xbMakers tradeUuid <;>
        cases hbuy : book .makerBuy tradeUuid <;> cases hsell : book .makerSell tradeUuid <;>
          simp [rebuilt, Trades.ofKind, TradeStore.isMaker, hrestored, hbuy, hsell,
            FatCrabMaker.restoreBuy, FatCrabMaker.restoreSell, FatCrabMakerBuyActor.restore,
            FatCrabMakerSellActor.restore] at hmakers ⊢
  | takerBuy | takerSell =>
      cases hrestored : n3xbTakers tradeUuid <;>
        cases hbuy : book .takerBuy tradeUuid <;> cases hsell : book .takerSell tradeUuid <;>
          simp [rebuilt, Trades.ofKind, TradeStore.isMaker, hrestored, hbuy, hsell,
            FatCrabTaker.restoreBuy, FatCrabTaker.restoreSell, FatCrabTakerBuyActor.restore,
            FatCrabTakerSellActor.restore] at htakers ⊢

/-- An accessor stands beside every trade, under its uuid and for its role, and nowhere
else. -/
structure Trades.Matched (trades : Trades) : Prop where
  makers : ∀ tradeUuid,
    (trades.makerAccessors tradeUuid).isSome = (trades.makers tradeUuid).isSome
  buyMakers : ∀ tradeUuid, trades.makerAccessors tradeUuid = some (.buy tradeUuid) ↔
    ∃ maker, trades.makers tradeUuid = some (.buy maker)
  sellMakers : ∀ tradeUuid, trades.makerAccessors tradeUuid = some (.sell tradeUuid) ↔
    ∃ maker, trades.makers tradeUuid = some (.sell maker)
  takers : ∀ tradeUuid,
    (trades.takerAccessors tradeUuid).isSome = (trades.takers tradeUuid).isSome
  buyTakers : ∀ tradeUuid, trades.takerAccessors tradeUuid = some (.buy tradeUuid) ↔
    ∃ taker, trades.takers tradeUuid = some (.buy taker)
  sellTakers : ∀ tradeUuid, trades.takerAccessors tradeUuid = some (.sell tradeUuid) ↔
    ∃ taker, trades.takers tradeUuid = some (.sell taker)

/-- The stores are kept under their own uuids. -/
def Book.Keyed (book : Book) : Prop :=
  ∀ kind tradeUuid data, book kind tradeUuid = some data → kind.tradeUuid data = tradeUuid

section Merged

variable {β σ τ : Type} {present : Bool} {buy : Option β} {sell : Option σ} {ofBuy : β → τ}
  {ofSell : σ → τ} {trade : τ}

omit [Bitcoin] in
theorem eq_of_merged
    (hmerged : (if present then (sell.map ofSell).or (buy.map ofBuy) else none) = some trade) :
    (∃ data, buy = some data ∧ trade = ofBuy data) ∨
      ∃ data, sell = some data ∧ trade = ofSell data := by
  cases present with
  | false => cases hmerged
  | true =>
      cases sell with
      | some data => exact .inr ⟨data, rfl, (Option.some.inj hmerged).symm⟩
      | none =>
          cases buy with
          | some data => exact .inl ⟨data, rfl, (Option.some.inj hmerged).symm⟩
          | none => cases hmerged

omit [Bitcoin] in
theorem isSome_merged :
    (if present then (sell.map ofSell).or (buy.map ofBuy) else none).isSome = true ↔
      present = true ∧ (buy.isSome ∨ sell.isSome) := by
  cases present with
  | false => simp
  | true =>
      rw [if_pos rfl, Option.isSome_or, Option.isSome_map, Option.isSome_map, Bool.or_eq_true,
        or_comm]
      simp

end Merged

theorem rebuilt_maker_uuid {book : Book} (hkeyed : book.Keyed)
    {n3xbMakers n3xbTakers : Uuid → Bool} {network : Network} {tradeUuid : Uuid}
    {maker : FatCrabMakerEnum}
    (hmaker : (rebuilt n3xbMakers n3xbTakers network book).makers tradeUuid = some maker) :
    maker.newAccessor = .buy tradeUuid ∧ (∃ buy, maker = .buy buy) ∨
      maker.newAccessor = .sell tradeUuid ∧ ∃ sell, maker = .sell sell := by
  rcases eq_of_merged hmaker with ⟨data, hdata, rfl⟩ | ⟨data, hdata, rfl⟩
  · have huuid : data.order.tradeUuid = tradeUuid := hkeyed .makerBuy tradeUuid data hdata
    exact .inl ⟨congrArg FatCrabMakerAccessEnum.buy huuid, _, rfl⟩
  · have huuid : data.order.tradeUuid = tradeUuid := hkeyed .makerSell tradeUuid data hdata
    exact .inr ⟨congrArg FatCrabMakerAccessEnum.sell huuid, _, rfl⟩

theorem rebuilt_taker_uuid {book : Book} (hkeyed : book.Keyed)
    {n3xbMakers n3xbTakers : Uuid → Bool} {network : Network} {tradeUuid : Uuid}
    {taker : FatCrabTakerEnum}
    (htaker : (rebuilt n3xbMakers n3xbTakers network book).takers tradeUuid = some taker) :
    taker.newAccessor = .buy tradeUuid ∧ (∃ buy, taker = .buy buy) ∨
      taker.newAccessor = .sell tradeUuid ∧ ∃ sell, taker = .sell sell := by
  rcases eq_of_merged htaker with ⟨data, hdata, rfl⟩ | ⟨data, hdata, rfl⟩
  · have huuid : data.orderEnvelope.order.tradeUuid = tradeUuid :=
      hkeyed .takerBuy tradeUuid data hdata
    exact .inl ⟨congrArg FatCrabTakerAccessEnum.buy huuid, _, rfl⟩
  · have huuid : data.orderEnvelope.order.tradeUuid = tradeUuid :=
      hkeyed .takerSell tradeUuid data hdata
    exact .inr ⟨congrArg FatCrabTakerAccessEnum.sell huuid, _, rfl⟩

theorem matched_rebuilt {book : Book} (hkeyed : book.Keyed)
    (n3xbMakers n3xbTakers : Uuid → Bool) (network : Network) :
    (rebuilt n3xbMakers n3xbTakers network book).Matched := by
  let trades := rebuilt n3xbMakers n3xbTakers network book
  have hmakerAccess : ∀ tradeUuid, trades.makerAccessors tradeUuid =
      (trades.makers tradeUuid).map FatCrabMakerEnum.newAccessor := fun _ => rfl
  have htakerAccess : ∀ tradeUuid, trades.takerAccessors tradeUuid =
      (trades.takers tradeUuid).map FatCrabTakerEnum.newAccessor := fun _ => rfl
  have hmakers : ∀ tradeUuid,
      (trades.makerAccessors tradeUuid = some (.buy tradeUuid) ↔
        ∃ maker, trades.makers tradeUuid = some (.buy maker)) ∧
      (trades.makerAccessors tradeUuid = some (.sell tradeUuid) ↔
        ∃ maker, trades.makers tradeUuid = some (.sell maker)) := by
    intro tradeUuid
    rw [hmakerAccess]
    cases hmaker : trades.makers tradeUuid with
    | none => simp
    | some maker =>
        rcases rebuilt_maker_uuid hkeyed hmaker with ⟨haccess, buy, rfl⟩ | ⟨haccess, sell, rfl⟩
        · simp [haccess]
        · simp [haccess]
  have htakers : ∀ tradeUuid,
      (trades.takerAccessors tradeUuid = some (.buy tradeUuid) ↔
        ∃ taker, trades.takers tradeUuid = some (.buy taker)) ∧
      (trades.takerAccessors tradeUuid = some (.sell tradeUuid) ↔
        ∃ taker, trades.takers tradeUuid = some (.sell taker)) := by
    intro tradeUuid
    rw [htakerAccess]
    cases htaker : trades.takers tradeUuid with
    | none => simp
    | some taker =>
        rcases rebuilt_taker_uuid hkeyed htaker with ⟨haccess, buy, rfl⟩ | ⟨haccess, sell, rfl⟩
        · simp [haccess]
        · simp [haccess]
  exact ⟨fun _ => Option.isSome_map, fun tradeUuid => (hmakers tradeUuid).1,
    fun tradeUuid => (hmakers tradeUuid).2, fun _ => Option.isSome_map,
    fun tradeUuid => (htakers tradeUuid).1, fun tradeUuid => (htakers tradeUuid).2⟩

/-- The files of the four directories, the trades of the running session with the file and
the persister of each, and the book: every trade created so far, with its data at its last
shutdown or, before that, at its creation. -/
structure Archive (Json : Type) where
  disk : TradeStore → FileName → Option Json
  live : (kind : TradeStore) → UuidMap (FileName × Persister kind.Data Json)
  book : Book
  running : Bool

/-- Put an entry under a kind and a trade. -/
def put {F : TradeStore → Type} (kind : TradeStore) (tradeUuid : Uuid) (value : F kind)
    (maps : (kind : TradeStore) → UuidMap (F kind)) : (kind : TradeStore) → UuidMap (F kind) :=
  Function.update maps kind ((maps kind).insert tradeUuid value)

section Put

variable {F : TradeStore → Type} {kind other : TradeStore} {tradeUuid otherUuid : Uuid}
  {value : F kind} {maps : (kind : TradeStore) → UuidMap (F kind)}

omit [Bitcoin] in
@[simp] theorem put_self : put kind tradeUuid value maps kind tradeUuid = some value := by
  unfold put UuidMap.insert
  rw [Function.update_self, Function.update_self]

omit [Bitcoin] in
theorem put_of_ne (hne : ¬(other = kind ∧ otherUuid = tradeUuid)) :
    put kind tradeUuid value maps other otherUuid = maps other otherUuid := by
  unfold put UuidMap.insert
  rcases eq_or_ne other kind with rfl | hother
  · rw [Function.update_self, Function.update_of_ne fun h => hne ⟨rfl, h⟩]
  · rw [Function.update_of_ne hother]

omit [Bitcoin] in
theorem isSome_put :
    (put kind tradeUuid value maps other otherUuid).isSome ↔
      other = kind ∧ otherUuid = tradeUuid ∨ (maps other otherUuid).isSome := by
  by_cases hsame : other = kind ∧ otherUuid = tradeUuid
  · obtain ⟨rfl, rfl⟩ := hsame
    simp
  · rw [put_of_ne hsame]
    simp [hsame]

end Put

namespace Archive

variable {Json : Type} (formats : Formats Json) (network : Network)

/-- An empty directory. -/
def empty : Archive Json :=
  ⟨fun _ _ => none, fun _ => .empty, fun _ => .empty, false⟩

/-- What a file holds after a write, if it is still there. -/
def write (kind : TradeStore) (path : FileName) (content : Option Json)
    (disk : TradeStore → FileName → Option Json) : TradeStore → FileName → Option Json :=
  Function.update disk kind (Function.update (disk kind) path content)

/-- A listing of a directory, in whatever order. -/
def Lists (files : Listing Json) (disk : FileName → Option Json) : Prop :=
  ∀ path json, (path, json) ∈ files ↔ disk path = some json

/-- The trades of a session that begins: their persisters are about to write nothing. -/
def resumed (disk : TradeStore → FileName → Option Json) (trades : Trades) :
    (kind : TradeStore) → UuidMap (FileName × Persister kind.Data Json) :=
  fun kind tradeUuid => (trades.ofKind kind tradeUuid).map fun (path, data) =>
    (path, ⟨data, disk kind path, [], .receiving, .idle⟩)

/-- The book when a session ends. -/
def closed (live : (kind : TradeStore) → UuidMap (FileName × Persister kind.Data Json))
    (book : Book) : Book :=
  fun kind tradeUuid => match live kind tradeUuid with
    | some (_, persister) => some persister.store
    | none => book kind tradeUuid

/-- One step: a trade is created under a uuid of its own, a trade or its persister goes on,
a file that is not named after a trade changes, or a session ends or begins. -/
inductive Step : Archive Json → Archive Json → Prop where
  | create {archive : Archive Json} {kind : TradeStore} (data : kind.Data)
      (hrunning : archive.running = true)
      (hnew : ∀ other, other.isMaker = kind.isMaker →
        archive.book other (kind.tradeUuid data) = none) :
      Step archive { archive with
        live := put kind (kind.tradeUuid data) (.ofTrade (kind.tradeUuid data),
          .new data (archive.disk kind (.ofTrade (kind.tradeUuid data)))) archive.live
        book := put kind (kind.tradeUuid data) data archive.book }
  | trade {archive : Archive Json} {kind : TradeStore} {tradeUuid : Uuid} {path : FileName}
      {before after : Persister kind.Data Json}
      (hlive : archive.live kind tradeUuid = some (path, before))
      (hstep : Persister.Step (formats.toJson kind) kind.set before after) :
      Step archive { archive with
        live := put kind tradeUuid (path, after) archive.live
        disk := write kind path after.file archive.disk }
  | other {archive : Archive Json} (kind : TradeStore) (path : FileName) (content : Option Json)
      (hname : formats.tradeOf path = none) :
      Step archive { archive with
        disk := write kind path content archive.disk }
  | shutdown {archive : Archive Json} (hrunning : archive.running = true)
      (hterminated : ∀ kind tradeUuid path persister,
        archive.live kind tradeUuid = some (path, persister) → persister.owner = .terminated) :
      Step archive ⟨archive.disk, fun _ => .empty, closed archive.live archive.book, false⟩
  | start {archive : Archive Json} {dirs : TradeStore → Listing Json} {trades : Trades}
      (n3xbMakers n3xbTakers : Uuid → Bool) (hstopped : archive.running = false)
      (hlists : ∀ kind, Lists (dirs kind) (archive.disk kind))
      (hrestore : restore formats n3xbMakers n3xbTakers network dirs = some trades) :
      Step archive ⟨archive.disk, resumed archive.disk trades, archive.book, true⟩

/-- What the sessions on an empty directory can come to. -/
def Reachable : Archive Json → Prop := Relation.ReflTransGen (Step formats network) empty

/-- A trade of the running session: its file is named after it and shows its store, except
for what its persister is still going to write. -/
structure Attached (disk : TradeStore → FileName → Option Json) (book : Book)
    (kind : TradeStore) (tradeUuid : Uuid) (path : FileName)
    (persister : Persister kind.Data Json) : Prop where
  filed : path = .ofTrade tradeUuid
  booked : (book kind tradeUuid).isSome
  named : kind.tradeUuid persister.store = tradeUuid
  file : persister.file = disk kind path
  orderly : persister.Orderly
  faithful : persister.mirror.Faithful (formats.toJson kind)

/-- What holds of an archive at every moment. -/
structure Orderly (archive : Archive Json) : Prop where
  apart : archive.book.Apart
  keyed : archive.book.Keyed
  named : ∀ kind path tradeUuid json, archive.disk kind path = some json →
    formats.tradeOf path = some tradeUuid →
      path = .ofTrade tradeUuid ∧ (archive.book kind tradeUuid).isSome
  live : ∀ kind tradeUuid path persister, archive.live kind tradeUuid = some (path, persister) →
    Attached formats archive.disk archive.book kind tradeUuid path persister
  resting : ∀ kind tradeUuid, archive.live kind tradeUuid = none →
    archive.disk kind (.ofTrade tradeUuid) =
      (archive.book kind tradeUuid).map (formats.toJson kind)
  stopped : archive.running = false → ∀ kind tradeUuid, archive.live kind tradeUuid = none

section Write

variable {kind other : TradeStore} {path otherPath : FileName} {content : Option Json}
  {disk : TradeStore → FileName → Option Json}

omit [Bitcoin] in
@[simp] theorem write_self : write kind path content disk kind path = content := by
  unfold write
  rw [Function.update_self, Function.update_self]

omit [Bitcoin] in
theorem write_of_ne (hne : ¬(other = kind ∧ otherPath = path)) :
    write kind path content disk other otherPath = disk other otherPath := by
  unfold write
  rcases eq_or_ne other kind with rfl | hother
  · rw [Function.update_self, Function.update_of_ne fun h => hne ⟨rfl, h⟩]
  · rw [Function.update_of_ne hother]

end Write

variable {formats} {network} {archive next : Archive Json}

/-- Two trades have two files. -/
theorem ofTrade_injective (formats : Formats Json) {first second : Uuid}
    (hsame : FileName.ofTrade first = .ofTrade second) : first = second := by
  have hfirst := formats.tradeOf_ofTrade first
  rw [hsame, formats.tradeOf_ofTrade] at hfirst
  exact (Option.some.inj hfirst).symm

theorem orderly_empty : (empty : Archive Json).Orderly formats := by
  constructor
  · intro kind other tradeUuid _ hbooked
    cases hbooked
  · intro kind tradeUuid data hbooked
    cases hbooked
  · intro kind path tradeUuid json hdisk
    cases hdisk
  · intro kind tradeUuid path persister hlive
    cases hlive
  · intro kind tradeUuid _
    rfl
  · intro _ kind tradeUuid
    rfl

/-- One step of a persister keeps the uuid of its trade. -/
theorem tradeUuid_step {kind : TradeStore} {before after : Persister kind.Data Json}
    (hstep : Persister.Step (formats.toJson kind) kind.set before after) :
    kind.tradeUuid after.store = kind.tradeUuid before.store := by
  cases hstep with
  | set setter _ _ => exact kind.tradeUuid_set setter before.store
  | _ => rfl

/-- A trade is attached still if its file is the same and the book has it still. -/
theorem Attached.frame {disk written : TradeStore → FileName → Option Json} {book longer : Book}
    {kind : TradeStore} {tradeUuid : Uuid} {path : FileName}
    {persister : Persister kind.Data Json}
    (hattached : Attached formats disk book kind tradeUuid path persister)
    (hdisk : written kind (.ofTrade tradeUuid) = disk kind (.ofTrade tradeUuid))
    (hbook : (book kind tradeUuid).isSome → (longer kind tradeUuid).isSome) :
    Attached formats written longer kind tradeUuid path persister := by
  obtain ⟨rfl, hbooked, hnamed, hfile, horderly, hfaithful⟩ := hattached
  exact ⟨rfl, hbook hbooked, hnamed, hfile.trans hdisk.symm, horderly, hfaithful⟩

theorem Orderly.create (horderly : archive.Orderly formats) {kind : TradeStore}
    (data : kind.Data)
    (hnew : ∀ other, other.isMaker = kind.isMaker →
      archive.book other (kind.tradeUuid data) = none)
    (hrunning : archive.running = true) :
    Orderly formats { archive with
      live := put kind (kind.tradeUuid data) (.ofTrade (kind.tradeUuid data),
        .new data (archive.disk kind (.ofTrade (kind.tradeUuid data)))) archive.live
      book := put kind (kind.tradeUuid data) data archive.book } := by
  have hopened : Persister.Opened (formats.toJson kind)
      (.new data (archive.disk kind (.ofTrade (kind.tradeUuid data)))) := .new data _
  have hgrows : ∀ other tradeUuid, (archive.book other tradeUuid).isSome →
      (put kind (kind.tradeUuid data) data archive.book other tradeUuid).isSome :=
    fun other tradeUuid hbooked => isSome_put.mpr (.inr hbooked)
  constructor
  · intro first second tradeUuid hside hfirst hsecond
    -- n3xB gave the trade a uuid that no trade of its side has
    rcases isSome_put.mp hfirst with ⟨rfl, rfl⟩ | hold
    · rcases isSome_put.mp hsecond with ⟨rfl, -⟩ | hold
      · rfl
      · rw [hnew second hside.symm] at hold
        cases hold
    · rcases isSome_put.mp hsecond with ⟨rfl, rfl⟩ | hboth
      · rw [hnew first hside] at hold
        cases hold
      · exact horderly.apart first second tradeUuid hside hold hboth
  · intro other tradeUuid booked hbooked
    dsimp only at hbooked
    by_cases hsame : other = kind ∧ tradeUuid = kind.tradeUuid data
    · obtain ⟨rfl, rfl⟩ := hsame
      rw [put_self] at hbooked
      rw [← Option.some.inj hbooked]
    · rw [put_of_ne hsame] at hbooked
      exact horderly.keyed other tradeUuid booked hbooked
  · intro other path tradeUuid json hdisk hname
    obtain ⟨hpath, hbooked⟩ := horderly.named other path tradeUuid json hdisk hname
    exact ⟨hpath, hgrows other tradeUuid hbooked⟩
  · intro other tradeUuid path persister hlive
    dsimp only at hlive
    by_cases hsame : other = kind ∧ tradeUuid = kind.tradeUuid data
    · obtain ⟨rfl, rfl⟩ := hsame
      rw [put_self] at hlive
      cases hlive
      refine ⟨rfl, ?_, rfl, rfl, hopened.orderly, hopened.faithful⟩
      exact isSome_put.mpr (.inl ⟨rfl, rfl⟩)
    · rw [put_of_ne hsame] at hlive
      exact (horderly.live other tradeUuid path persister hlive).frame rfl (hgrows other tradeUuid)
  · intro other tradeUuid hlive
    dsimp only at hlive ⊢
    by_cases hsame : other = kind ∧ tradeUuid = kind.tradeUuid data
    · obtain ⟨rfl, rfl⟩ := hsame
      rw [put_self] at hlive
      cases hlive
    · rw [put_of_ne hsame] at hlive ⊢
      exact horderly.resting other tradeUuid hlive
  · intro hstopped
    rw [hrunning] at hstopped
    cases hstopped

/-- The persister of a live trade goes on; every other trade keeps its file. -/
theorem Orderly.trade (horderly : archive.Orderly formats) {kind : TradeStore}
    {tradeUuid : Uuid} {path : FileName} {before after : Persister kind.Data Json}
    (hlive : archive.live kind tradeUuid = some (path, before))
    (hstep : Persister.Step (formats.toJson kind) kind.set before after) :
    Orderly formats { archive with
      live := put kind tradeUuid (path, after) archive.live
      disk := write kind path after.file archive.disk } := by
  obtain ⟨rfl, hbooked, hnamed, hfile, hbefore, hfaithful⟩ :=
    horderly.live kind tradeUuid path before hlive
  have hother : ∀ other otherUuid, ¬(other = kind ∧ otherUuid = tradeUuid) →
      write kind (.ofTrade tradeUuid) after.file archive.disk other (.ofTrade otherUuid) =
        archive.disk other (.ofTrade otherUuid) := by
    intro other otherUuid hne
    exact write_of_ne fun h => hne ⟨h.1, ofTrade_injective formats h.2⟩
  constructor
  · exact horderly.apart
  · exact horderly.keyed
  · intro other otherPath otherUuid json hdisk hname
    dsimp only at hdisk
    by_cases hsame : other = kind ∧ otherPath = .ofTrade tradeUuid
    · obtain ⟨rfl, rfl⟩ := hsame
      rw [formats.tradeOf_ofTrade] at hname
      cases hname
      exact ⟨rfl, hbooked⟩
    · rw [write_of_ne hsame] at hdisk
      exact horderly.named other otherPath otherUuid json hdisk hname
  · intro other otherUuid otherPath persister hother'
    dsimp only at hother'
    by_cases hsame : other = kind ∧ otherUuid = tradeUuid
    · obtain ⟨rfl, rfl⟩ := hsame
      rw [put_self] at hother'
      cases hother'
      -- the persister itself says how its file and store stay together
      refine ⟨rfl, hbooked, (tradeUuid_step hstep).trans hnamed, ?_, hstep.orderly hbefore,
        hstep.faithful hbefore hfaithful⟩
      exact write_self.symm
    · rw [put_of_ne hsame] at hother'
      have hattached := horderly.live other otherUuid otherPath persister hother'
      exact hattached.frame (hother other otherUuid hsame) id
  · intro other otherUuid hresting
    dsimp only at hresting ⊢
    by_cases hsame : other = kind ∧ otherUuid = tradeUuid
    · obtain ⟨rfl, rfl⟩ := hsame
      rw [put_self] at hresting
      cases hresting
    · rw [put_of_ne hsame] at hresting
      rw [hother other otherUuid hsame]
      exact horderly.resting other otherUuid hresting
  · intro hstopped
    rw [horderly.stopped hstopped kind tradeUuid] at hlive
    cases hlive

/-- A file that no trade is named after is nobody's. -/
theorem Orderly.other (horderly : archive.Orderly formats) (kind : TradeStore) (path : FileName)
    (content : Option Json) (hname : formats.tradeOf path = none) :
    Orderly formats { archive with disk := write kind path content archive.disk } := by
  have hother : ∀ other tradeUuid,
      write kind path content archive.disk other (.ofTrade tradeUuid) =
        archive.disk other (.ofTrade tradeUuid) := by
    intro other tradeUuid
    refine write_of_ne fun h => ?_
    rw [← h.2, formats.tradeOf_ofTrade] at hname
    cases hname
  constructor
  · exact horderly.apart
  · exact horderly.keyed
  · intro other otherPath tradeUuid json hdisk hnamed
    have hne : ¬(other = kind ∧ otherPath = path) := by
      intro h
      rw [h.2, hname] at hnamed
      cases hnamed
    dsimp only at hdisk
    rw [write_of_ne hne] at hdisk
    exact horderly.named other otherPath tradeUuid json hdisk hnamed
  · intro other tradeUuid otherPath persister hlive
    have hattached := horderly.live other tradeUuid otherPath persister hlive
    exact hattached.frame (hother other tradeUuid) id
  · intro other tradeUuid hlive
    dsimp only
    rw [hother]
    exact horderly.resting other tradeUuid hlive
  · exact horderly.stopped

/-- The files of a trader that is shut down hold its book. -/
theorem Orderly.holds (horderly : archive.Orderly formats) (hstopped : archive.running = false)
    {dirs : TradeStore → Listing Json}
    (hlists : ∀ kind, Lists (dirs kind) (archive.disk kind)) :
    Holds formats dirs archive.book := by
  have hresting := fun kind tradeUuid =>
    horderly.resting kind tradeUuid (horderly.stopped hstopped kind tradeUuid)
  constructor
  · intro kind tradeUuid data hdata
    rw [hlists kind, hresting, hdata]
    rfl
  · intro kind file hfile tradeUuid hname
    have hdisk := (hlists kind file.1 file.2).mp hfile
    obtain ⟨hpath, hbooked⟩ := horderly.named kind file.1 tradeUuid file.2 hdisk hname
    obtain ⟨data, hdata⟩ := Option.isSome_iff_exists.mp hbooked
    refine ⟨hpath, data, hdata, ?_⟩
    rw [hpath, hresting, hdata] at hdisk
    exact (Option.some.inj hdisk).symm

theorem Orderly.isSome_closed (horderly : archive.Orderly formats) (kind : TradeStore)
    (tradeUuid : Uuid) :
    (closed archive.live archive.book kind tradeUuid).isSome =
      (archive.book kind tradeUuid).isSome := by
  unfold closed
  cases hlive : archive.live kind tradeUuid with
  | none => rfl
  | some entry =>
      obtain ⟨path, persister⟩ := entry
      exact (horderly.live kind tradeUuid path persister hlive).booked.symm

/-- Once every persister is terminated the files show the stores. -/
theorem Orderly.shutdown (horderly : archive.Orderly formats)
    (hterminated : ∀ kind tradeUuid path persister,
      archive.live kind tradeUuid = some (path, persister) → persister.owner = .terminated) :
    Orderly formats ⟨archive.disk, fun _ => .empty, closed archive.live archive.book, false⟩ := by
  constructor
  · intro first second tradeUuid hside hfirst hsecond
    rw [horderly.isSome_closed] at hfirst hsecond
    exact horderly.apart first second tradeUuid hside hfirst hsecond
  · intro kind tradeUuid data hclosed
    dsimp only [closed] at hclosed
    cases hlive : archive.live kind tradeUuid with
    | none =>
        rw [hlive] at hclosed
        exact horderly.keyed kind tradeUuid data hclosed
    | some entry =>
        obtain ⟨path, persister⟩ := entry
        rw [hlive] at hclosed
        rw [← Option.some.inj hclosed]
        exact (horderly.live kind tradeUuid path persister hlive).named
  · intro kind path tradeUuid json hdisk hname
    dsimp only
    rw [horderly.isSome_closed]
    exact horderly.named kind path tradeUuid json hdisk hname
  · intro kind tradeUuid path persister hlive
    cases hlive
  · intro kind tradeUuid _
    dsimp only [closed]
    cases hlive : archive.live kind tradeUuid with
    | none => exact horderly.resting kind tradeUuid hlive
    | some entry =>
        obtain ⟨path, persister⟩ := entry
        -- its thread has ended, so the file shows the store it had last
        obtain ⟨rfl, -, -, hfile, hbefore, hfaithful⟩ :=
          horderly.live kind tradeUuid path persister hlive
        rw [← hfile]
        exact Persister.file_of_terminated hbefore hfaithful
          (hterminated kind tradeUuid _ persister hlive)
  · intro _ kind tradeUuid
    rfl

/-- The trades of a session that begins show the files that they were read from. -/
theorem Orderly.start (horderly : archive.Orderly formats) (hstopped : archive.running = false)
    {dirs : TradeStore → Listing Json} {trades : Trades} {n3xbMakers n3xbTakers : Uuid → Bool}
    (hlists : ∀ kind, Lists (dirs kind) (archive.disk kind))
    (hrestore : restore formats n3xbMakers n3xbTakers network dirs = some trades) :
    Orderly formats ⟨archive.disk, resumed archive.disk trades, archive.book, true⟩ := by
  have hholds := (horderly.holds hstopped hlists).restore n3xbMakers n3xbTakers network
  have hresting := fun kind tradeUuid =>
    horderly.resting kind tradeUuid (horderly.stopped hstopped kind tradeUuid)
  rw [hholds] at hrestore
  cases hrestore
  constructor
  · exact horderly.apart
  · exact horderly.keyed
  · exact horderly.named
  · intro kind tradeUuid path persister hlive
    dsimp only [resumed] at hlive
    rw [ofKind_rebuilt horderly.apart] at hlive
    by_cases hrestored : (if kind.isMaker then n3xbMakers else n3xbTakers) tradeUuid = true
    · rw [if_pos hrestored] at hlive
      cases hdata : archive.book kind tradeUuid with
      | none =>
          rw [hdata] at hlive
          cases hlive
      | some data =>
          rw [hdata] at hlive
          cases hlive
          have hfile : archive.disk kind (.ofTrade tradeUuid) =
              -- the file was at rest, so it is what the book shows
              some (formats.toJson kind data) := by
            rw [hresting, hdata]
            rfl
          have hopened : Persister.Opened (formats.toJson kind)
              ⟨data, archive.disk kind (.ofTrade tradeUuid), [], .receiving, .idle⟩ := by
            rw [hfile]
            exact .restore data
          refine ⟨rfl, ?_, horderly.keyed kind tradeUuid data hdata, rfl, hopened.orderly,
            hopened.faithful⟩
          dsimp only
          rw [hdata]
          rfl
    · rw [if_neg hrestored] at hlive
      cases hlive
  · intro kind tradeUuid _
    exact hresting kind tradeUuid
  · intro hrunning
    cases hrunning

theorem Step.orderly (hstep : Step formats network archive next)
    (horderly : archive.Orderly formats) : next.Orderly formats := by
  cases hstep with
  | create data hrunning hnew => exact horderly.create data hnew hrunning
  | trade hlive hstep => exact horderly.trade hlive hstep
  | other kind path content hname => exact horderly.other kind path content hname
  | shutdown hrunning hterminated => exact horderly.shutdown hterminated
  | start n3xbMakers n3xbTakers hstopped hlists hrestore =>
      exact horderly.start hstopped hlists hrestore

theorem Reachable.orderly (hreachable : Reachable formats network archive) :
    archive.Orderly formats := by
  induction hreachable with
  | refl => exact orderly_empty
  | tail _ hstep ih => exact hstep.orderly ih

variable {dirs : TradeStore → Listing Json}

/-- Whatever the sessions before, a restart after a clean shutdown finds exactly the trades
of the book that n3xB restored, each in its role, with its file and with its data at the
last shutdown. Files that are not named after a trade make no difference. -/
theorem restart_fidelity (hreachable : Reachable formats network archive)
    (hstopped : archive.running = false)
    (hlists : ∀ kind, Lists (dirs kind) (archive.disk kind))
    (n3xbMakers n3xbTakers : Uuid → Bool) :
    ∃ trades, restore formats n3xbMakers n3xbTakers network dirs = some trades ∧
      (∀ tradeUuid, (trades.makers tradeUuid).isSome = true ↔
        n3xbMakers tradeUuid = true ∧ ((archive.book .makerBuy tradeUuid).isSome ∨
          (archive.book .makerSell tradeUuid).isSome)) ∧
      (∀ tradeUuid, (trades.takers tradeUuid).isSome = true ↔
        n3xbTakers tradeUuid = true ∧ ((archive.book .takerBuy tradeUuid).isSome ∨
          (archive.book .takerSell tradeUuid).isSome)) ∧
      (∀ kind tradeUuid, trades.ofKind kind tradeUuid =
        if (if kind.isMaker then n3xbMakers else n3xbTakers) tradeUuid then
          (archive.book kind tradeUuid).map fun data => (.ofTrade tradeUuid, data)
        else none) ∧
      trades.Matched ∧
      restore formats n3xbMakers n3xbTakers network
        (fun kind => (dirs kind).filter fun file => (formats.tradeOf file.1).isSome) =
          some trades := by
  have horderly := hreachable.orderly
  have hholds := horderly.holds hstopped hlists
  have hrestored := hholds.restore n3xbMakers n3xbTakers network
  refine ⟨_, hrestored, fun tradeUuid => isSome_merged, fun tradeUuid => isSome_merged, ?_, ?_, ?_⟩
  · exact ofKind_rebuilt horderly.apart n3xbMakers n3xbTakers network
  · exact matched_rebuilt horderly.keyed n3xbMakers n3xbTakers network
  · rw [← hrestored]
    unfold restore restoreMakerTakers restoreBuyMakers restoreSellMakers restoreBuyTakers
      restoreSellTakers
    simp only [restoreTrades_filter]

/-- A live trade goes through a run of its persister, and nothing else moves. -/
theorem steps_of_persister {kind : TradeStore} {tradeUuid : Uuid} {path : FileName}
    {before after : Persister kind.Data Json}
    (hlive : archive.live kind tradeUuid = some (path, before))
    (hdisk : archive.disk kind path = before.file)
    (hrun : Relation.ReflTransGen (Persister.Step (formats.toJson kind) kind.set) before after) :
    Relation.ReflTransGen (Step formats network) archive { archive with
      live := put kind tradeUuid (path, after) archive.live
      disk := write kind path after.file archive.disk } := by
  induction hrun with
  | refl =>
      have hput : put kind tradeUuid (path, before) archive.live = archive.live := by
        unfold put UuidMap.insert
        rw [← hlive, Function.update_eq_self, Function.update_eq_self]
      have hwrite : write kind path before.file archive.disk = archive.disk := by
        unfold write
        rw [← hdisk, Function.update_eq_self, Function.update_eq_self]
      rw [hput, hwrite]
  | @tail middle last _ hstep ih =>
      have hput : put kind tradeUuid (path, last) (put kind tradeUuid (path, middle) archive.live) =
          put kind tradeUuid (path, last) archive.live := by
        unfold put UuidMap.insert
        rw [Function.update_self, Function.update_idem, Function.update_idem]
      have hwrite : write kind path last.file (write kind path middle.file archive.disk) =
          write kind path last.file archive.disk := by
        unfold write
        rw [Function.update_self, Function.update_idem, Function.update_idem]
      let reached : Archive Json := { archive with
        live := put kind tradeUuid (path, middle) archive.live
        disk := write kind path middle.file archive.disk }
      have hlast : Step formats network reached { reached with
          live := put kind tradeUuid (path, last) reached.live
          disk := write kind path last.file reached.disk } := .trade put_self hstep
      dsimp only [reached] at hlast
      rw [hput, hwrite] at hlast
      exact ih.tail hlast

end Archive

end FatCrabTrader

end Sessions

section Sample

open Sample FatCrabTrader

namespace Sample

/-- What a hexadecimal digit stands for. -/
def digitValue (digit : Char) : ℕ :=
  if digit.isDigit then digit.toNat - '0'.toNat else digit.toNat - 'a'.toNat + 10

def hexValue (digits : List Char) : ℕ :=
  digits.foldl (fun value digit => 16 * value + digitValue digit) 0

theorem digitValue_digitChar : ∀ digit : Fin 16, digitValue (Nat.digitChar digit) = digit := by
  decide

theorem hexValue_hexDigits (size n : ℕ) : hexValue (hexDigits size n) = n % 16 ^ size := by
  induction size generalizing n with
  | zero =>
      rw [pow_zero, Nat.mod_one]
      rfl
  | succ size ih =>
      have hlast : digitValue (Nat.digitChar (n % 16)) = n % 16 :=
        digitValue_digitChar ⟨n % 16, Nat.mod_lt n (by decide)⟩
      have hrest : hexValue (hexDigits size (n / 16)) = n / 16 % 16 ^ size := ih (n / 16)
      unfold hexValue at hrest ⊢
      rw [hexDigits, List.foldl_append, hrest, List.foldl_cons, List.foldl_nil, hlast, pow_succ',
        Nat.mod_mul]
      ring

theorem dash_notMem (size n : ℕ) : '-' ∉ hexDigits size n := by
  have hdigit : ∀ digit : Fin 16, '-' ≠ Nat.digitChar digit := by decide
  induction size generalizing n with
  | zero => exact List.not_mem_nil
  | succ size ih =>
      rw [hexDigits, List.mem_append, List.mem_singleton]
      rintro (hrest | hlast)
      · exact ih (n / 16) hrest
      · exact hdigit ⟨n % 16, Nat.mod_lt n (by decide)⟩ hlast

/-- Reads a uuid only from the text that it prints. -/
def parseUuid (text : String) : Option Uuid :=
  let uuid : Uuid := ⟨BitVec.ofNat 128 (hexValue (text.toList.filter (· ≠ '-')))⟩
  if uuid.display = text then some uuid else none

/-- Without its dashes the text of a uuid is its digits. -/
theorem filter_display (uuid : Uuid) :
    uuid.display.toList.filter (· ≠ '-') = hexDigits 32 uuid.bits.toNat := by
  let digits := hexDigits 32 uuid.bits.toNat
  have hlength : digits.length = 32 := length_hexDigits 32 _
  have hgroup : ∀ start size : ℕ,
      ((digits.drop start).take size).filter (· ≠ '-') = (digits.drop start).take size := by
    intro start size
    rw [List.filter_eq_self]
    intro digit hdigit
    have hmem := List.mem_of_mem_drop (List.mem_of_mem_take hdigit)
    have hne : digit ≠ '-' := fun h => dash_notMem 32 _ (h ▸ hmem)
    exact decide_eq_true hne
  have hsplit : ∀ start size : ℕ,
      (digits.drop start).take size ++ digits.drop (start + size) = digits.drop start := by
    intro start size
    rw [← List.drop_drop]
    exact List.take_append_drop size (digits.drop start)
  have hdash : "-".toList.filter (· ≠ '-') = [] := by decide
  have hlast : (digits.drop 20).take 12 = digits.drop 20 := by
    rw [List.take_of_length_le]
    rw [List.length_drop, hlength]
  have hjoined : uuid.display.toList.filter (· ≠ '-') =
      (digits.drop 0).take 8 ++ (digits.drop 8).take 4 ++ (digits.drop 12).take 4 ++
        (digits.drop 16).take 4 ++ (digits.drop 20).take 12 := by
    unfold Uuid.display
    simp only [toString, String.toList_append, String.toList_ofList, List.filter_append, hdash,
      List.append_nil]
    rw [hgroup, hgroup, hgroup, hgroup, hgroup]
  rw [hjoined, hlast, List.append_assoc, List.append_assoc, List.append_assoc, hsplit 16 4,
    hsplit 12 4, hsplit 8 4, hsplit 0 8]
  rfl

theorem parse_display (uuid : Uuid) : parseUuid uuid.display = some uuid := by
  have hvalue : BitVec.ofNat 128 (hexValue (uuid.display.toList.filter (· ≠ '-'))) =
      uuid.bits := by
    have hlt : uuid.bits.toNat < 16 ^ 32 := uuid.bits.isLt
    rw [filter_display, hexValue_hexDigits, Nat.mod_eq_of_lt hlt, BitVec.ofNat_toNat,
      BitVec.setWidth_eq]
  unfold parseUuid
  rw [hvalue]
  simp

/-- A file that keeps the store it was written for. -/
abbrev Json : Type := Σ kind : TradeStore, kind.Data

def formats : Formats Json where
  parseUuid := parseUuid
  toJson kind data := ⟨kind, data⟩
  fromJson kind json := if hkind : json.1 = kind then some (hkind ▸ json.2) else none
  parse_display := parse_display
  from_to _ _ := dif_pos rfl

/-! ## A session in which a Buy maker posts its order -/

section Session

open Archive TradeStore

def postedPath : FileName := .ofTrade ⟨7⟩

def postedJson : Json := ⟨.makerBuy, posted⟩

def terminatedPersister : Persister FatCrabMakerBuyData Json :=
  ⟨posted, some postedJson, [], .ended, .terminated⟩

def startedArchive : Archive Json where
  disk := fun _ _ => none
  live := resumed (fun _ _ => none) ⟨.empty, .empty, .empty, .empty⟩
  book := fun _ => .empty
  running := true

def openedArchive : Archive Json := { startedArchive with
  live := put .makerBuy ⟨7⟩ (postedPath, .new created none) startedArchive.live
  book := put .makerBuy ⟨7⟩ created startedArchive.book }

def servedArchive : Archive Json := { openedArchive with
  live := put .makerBuy ⟨7⟩ (postedPath, terminatedPersister) openedArchive.live
  disk := write .makerBuy postedPath (some postedJson) openedArchive.disk }

def endedArchive : Archive Json where
  disk := servedArchive.disk
  live := fun _ => .empty
  book := closed servedArchive.live servedArchive.book
  running := false

def postedDirs (kind : TradeStore) : Listing Json :=
  if kind = .makerBuy then [(postedPath, postedJson)] else []

theorem step_started : Step formats .regtest empty startedArchive := by
  let none : TradeStore → Listing Json := fun _ => []
  have hlists : ∀ kind, Lists (none kind) ((empty : Archive Json).disk kind) := by
    intro kind path json
    simp [none, empty]
  exact .start (fun _ => false) (fun _ => false) rfl hlists rfl

theorem step_opened : Step formats .regtest startedArchive openedArchive :=
  @Step.create _ _ formats .regtest startedArchive .makerBuy created rfl fun _ _ => rfl

theorem steps_served :
    Relation.ReflTransGen (Step formats .regtest) openedArchive servedArchive := by
  have hlive : openedArchive.live .makerBuy ⟨7⟩ = some (postedPath, .new created none) := by
    dsimp only [openedArchive]
    rw [put_self]
  exact @steps_of_persister _ _ formats .regtest openedArchive .makerBuy ⟨7⟩ postedPath
    (.new created none) terminatedPersister hlive rfl (posted_run _)

theorem owner_served (kind : TradeStore) (tradeUuid : Uuid) (path : FileName)
    (persister : Persister kind.Data Json)
    (hlive : servedArchive.live kind tradeUuid = some (path, persister)) :
    persister.owner = .terminated := by
  dsimp only [servedArchive] at hlive
  by_cases hsame : kind = .makerBuy ∧ tradeUuid = ⟨7⟩
  · obtain ⟨rfl, rfl⟩ := hsame
    rw [put_self] at hlive
    cases hlive
    rfl
  -- the session began with no trade, so no other is live
  · have hnone : startedArchive.live kind tradeUuid = none := by
      cases kind <;> rfl
    dsimp only [openedArchive] at hlive
    rw [put_of_ne hsame, put_of_ne hsame, hnone] at hlive
    cases hlive

theorem reachable_ended : Reachable formats .regtest endedArchive :=
  .trans (.head step_started (.head step_opened steps_served))
    (.single (.shutdown rfl owner_served))

theorem lists_posted (kind : TradeStore) :
    Lists (postedDirs kind) (endedArchive.disk kind) := by
  intro path json
  dsimp only [postedDirs, endedArchive, servedArchive]
  by_cases hsame : kind = .makerBuy ∧ path = postedPath
  · obtain ⟨rfl, rfl⟩ := hsame
    rw [write_self]
    simp [eq_comm]
  · rw [write_of_ne hsame]
    have hnot : (path, json) ∉ if kind = .makerBuy then [(postedPath, postedJson)] else [] := by
      split
      · next hkind =>
          intro hmem
          exact hsame ⟨hkind, congrArg Prod.fst (List.mem_singleton.mp hmem)⟩
      · exact List.not_mem_nil
    simp [hnot, openedArchive, startedArchive]

theorem book_ended : endedArchive.book .makerBuy ⟨7⟩ = some posted := by
  dsimp only [endedArchive, closed, servedArchive]
  rw [put_self]
  rfl

end Session

end Sample

namespace FatCrabTrader.Archive

open TradeStore

/-- A session in which a Buy maker posts its order, and the restart that finds it. -/
theorem restart_fidelity_posted : ∃ (archive : Archive Json)
    (dirs : TradeStore → Listing Json) (trades : Trades),
      Reachable formats .regtest archive ∧
        restore formats (· = ⟨7⟩) (fun _ => false) .regtest dirs = some trades ∧
        trades.ofKind .makerBuy ⟨7⟩ = some (.ofTrade ⟨7⟩, posted) := by
  obtain ⟨trades, hfound, -, -, hkind, -, -⟩ :=
    restart_fidelity reachable_ended rfl lists_posted (· = ⟨7⟩) fun _ => false
  refine ⟨endedArchive, postedDirs, trades, reachable_ended, hfound, ?_⟩
  rw [hkind, book_ended]
  rfl

end FatCrabTrader.Archive

end Sample

end FatCrabTrading
