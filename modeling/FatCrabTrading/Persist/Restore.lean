import FatCrabTrading.Maker.Maker
import FatCrabTrading.Persist.Stores
import FatCrabTrading.Taker.Taker
import Mathlib.Logic.Function.Basic

/-! # Restoring the trades of a trader

Each of the four stores has a directory of its own with one file for each trade, named by
its uuid. A restart reads the directories; what a file is called tells the trade, where it
lies tells the role, and only trades that n3xB restored as well are started again.
-/

namespace FatCrabTrading

/-- The name of a file. A name that is not Unicode may still have a stem that is. -/
inductive FileName where
  | unicode (text : String)
  | other (bytes : List UInt8) (stem : Option String)
  deriving DecidableEq

namespace FileName

/-- `file_stem` and `to_str`: the name up to its last dot, or all of it if there is no other
character before that dot. -/
def stem : FileName → Option String
  | .unicode text =>
      match text.toList.reverse.dropWhile (· ≠ '.') with
      | [] => some text
      | _ :: before => some (if before = [] then text else String.ofList before.reverse)
  | .other _ stem => stem

/-- `{}.json` with the trade's uuid. -/
def ofTrade (tradeUuid : Uuid) : FileName := .unicode (tradeUuid.display ++ ".json")

theorem stem_ofTrade (tradeUuid : Uuid) : (ofTrade tradeUuid).stem = some tradeUuid.display := by
  have hdisplay : tradeUuid.display.toList ≠ [] := by
    simp +decide [Uuid.display]
  simp [stem, ofTrade, hdisplay]

/-- No two trades share a file name. -/
theorem ofTrade_inj {first second : Uuid} (hname : ofTrade first = ofTrade second) :
    first = second := by
  have htext := congrArg String.toList (FileName.unicode.inj hname)
  simp only [String.toList_append] at htext
  exact Uuid.display_inj (String.toList_inj.mp (List.append_cancel_right htext))

end FileName

/-- `HashMap` by uuid. -/
abbrev UuidMap (τ : Type) := Uuid → Option τ

namespace UuidMap

variable {τ : Type}

def empty : UuidMap τ := fun _ => none

def insert (tradeUuid : Uuid) (trade : τ) (trades : UuidMap τ) : UuidMap τ :=
  Function.update trades tradeUuid (some trade)

/-- The entries of both, those of the second in place of those of the first. -/
def extend (first second : UuidMap τ) : UuidMap τ := fun tradeUuid =>
  (second tradeUuid).or (first tradeUuid)

theorem extend_empty (trades : UuidMap τ) : empty.extend trades = trades := by
  funext tradeUuid
  exact Option.or_none

/-- Two maps of the same trades are merged trade by trade. -/
theorem extend_if (present : Uuid → Bool) (first second : UuidMap τ) :
    (UuidMap.extend (fun tradeUuid => if present tradeUuid then first tradeUuid else none)
      fun tradeUuid => if present tradeUuid then second tradeUuid else none) =
      fun tradeUuid => if present tradeUuid then (second tradeUuid).or (first tradeUuid)
        else none := by
  funext tradeUuid
  unfold extend
  dsimp only
  split <;> rfl

end UuidMap

section Restore

variable [Bitcoin]

/-- What the uuid crate and the derived serializers do: a uuid is read back from the text
that it prints, and a store from the text that was written for it. -/
structure Formats (Json : Type) where
  parseUuid : String → Option Uuid
  toJson : (kind : TradeStore) → kind.Data → Json
  fromJson : (kind : TradeStore) → Json → Option kind.Data
  parse_display : ∀ tradeUuid, parseUuid tradeUuid.display = some tradeUuid
  from_to : ∀ kind data, fromJson kind (toJson kind data) = some data

/-- A maker that was started, with the file that its persister writes. -/
structure FatCrabMaker where
  actor : FatCrabMakerActor
  dataPath : FileName

structure FatCrabTaker where
  actor : FatCrabTakerActor
  dataPath : FileName

inductive FatCrabMakerEnum where
  | buy (maker : FatCrabMaker)
  | sell (maker : FatCrabMaker)

inductive FatCrabTakerEnum where
  | buy (taker : FatCrabTaker)
  | sell (taker : FatCrabTaker)

/-- An accessor, by the trade whose task it reaches. -/
inductive FatCrabMakerAccessEnum where
  | buy (tradeUuid : Uuid)
  | sell (tradeUuid : Uuid)

inductive FatCrabTakerAccessEnum where
  | buy (tradeUuid : Uuid)
  | sell (tradeUuid : Uuid)

/-- The accessor of a maker, for its role. -/
def FatCrabMakerEnum.newAccessor : FatCrabMakerEnum → FatCrabMakerAccessEnum
  | .buy maker => .buy maker.actor.tradeUuid
  | .sell maker => .sell maker.actor.tradeUuid

def FatCrabTakerEnum.newAccessor : FatCrabTakerEnum → FatCrabTakerAccessEnum
  | .buy taker => .buy taker.actor.tradeUuid
  | .sell taker => .sell taker.actor.tradeUuid

namespace FatCrabMaker

/-- `FatCrabMaker::<MakerBuy>::restore`, from the store read back. -/
def restoreBuy (network : Network) (dataPath : FileName) (data : FatCrabMakerBuyData) :
    FatCrabMaker :=
  ⟨⟨.buy (.restore data network), data.order.tradeUuid, none⟩, dataPath⟩

/-- `FatCrabMaker::<MakerSell>::restore`. -/
def restoreSell (network : Network) (dataPath : FileName) (data : FatCrabMakerSellData) :
    FatCrabMaker :=
  ⟨⟨.sell (.restore data network), data.order.tradeUuid, none⟩, dataPath⟩

end FatCrabMaker

namespace FatCrabTaker

/-- `FatCrabTaker::<TakerBuy>::restore`. -/
def restoreBuy (network : Network) (dataPath : FileName) (data : FatCrabTakerBuyData) :
    FatCrabTaker :=
  ⟨⟨.buy (.restore data network), data.orderEnvelope.order.tradeUuid, none⟩, dataPath⟩

/-- `FatCrabTaker::<TakerSell>::restore`. -/
def restoreSell (network : Network) (dataPath : FileName) (data : FatCrabTakerSellData) :
    FatCrabTaker :=
  ⟨⟨.sell (.restore data network), data.orderEnvelope.order.tradeUuid, none⟩, dataPath⟩

end FatCrabTaker

variable {Json τ : Type} (formats : Formats Json)

/-- The files that `read_dir` yields, with what they hold. -/
abbrev Listing (Json : Type) := List (FileName × Json)

namespace Formats

/-- The trade that a file is named after. -/
def tradeOf (name : FileName) : Option Uuid := name.stem.bind formats.parseUuid

@[simp] theorem tradeOf_ofTrade (tradeUuid : Uuid) :
    formats.tradeOf (.ofTrade tradeUuid) = some tradeUuid := by
  unfold tradeOf
  rw [FileName.stem_ofTrade, Option.bind_some, formats.parse_display]

end Formats

namespace FatCrabTrader

/-- One file of a directory. A file that is not named after a trade that n3xB restored is
passed over; `none` is the panic over a store that cannot be read back. -/
def restoreTrade (n3xb : Uuid → Bool) (restore : FileName → Json → Option τ)
    (file : FileName × Json) : Option (Option (Uuid × τ)) :=
  match file.1.stem with
  | none => some none
  | some stem =>
      match formats.parseUuid stem with
      | none => some none
      | some tradeUuid =>
          if n3xb tradeUuid then
            match restore file.1 file.2 with
            | some trade => some (some (tradeUuid, trade))
            | none => none
          else
            some none

/-- The loop over the files of a directory. -/
def restoreTrades (n3xb : Uuid → Bool) (restore : FileName → Json → Option τ) :
    Listing Json → UuidMap τ → Option (UuidMap τ)
  | [], trades => some trades
  | file :: rest, trades => do
      match ← restoreTrade formats n3xb restore file with
      | some (tradeUuid, trade) => restoreTrades n3xb restore rest (trades.insert tradeUuid trade)
      | none => restoreTrades n3xb restore rest trades

def restoreBuyMakers (n3xbMakers : Uuid → Bool) (network : Network) (files : Listing Json) :
    Option (UuidMap FatCrabMakerEnum) :=
  restoreTrades formats n3xbMakers (fun path json =>
    (formats.fromJson .makerBuy json).map fun data =>
      .buy (FatCrabMaker.restoreBuy network path data)) files .empty

def restoreSellMakers (n3xbMakers : Uuid → Bool) (network : Network) (files : Listing Json) :
    Option (UuidMap FatCrabMakerEnum) :=
  restoreTrades formats n3xbMakers (fun path json =>
    (formats.fromJson .makerSell json).map fun data =>
      .sell (FatCrabMaker.restoreSell network path data)) files .empty

def restoreBuyTakers (n3xbTakers : Uuid → Bool) (network : Network) (files : Listing Json) :
    Option (UuidMap FatCrabTakerEnum) :=
  restoreTrades formats n3xbTakers (fun path json =>
    (formats.fromJson .takerBuy json).map fun data =>
      .buy (FatCrabTaker.restoreBuy network path data)) files .empty

def restoreSellTakers (n3xbTakers : Uuid → Bool) (network : Network) (files : Listing Json) :
    Option (UuidMap FatCrabTakerEnum) :=
  restoreTrades formats n3xbTakers (fun path json =>
    (formats.fromJson .takerSell json).map fun data =>
      .sell (FatCrabTaker.restoreSell network path data)) files .empty

/-- The four directories, each read once. -/
def restoreMakerTakers (n3xbMakers n3xbTakers : Uuid → Bool) (network : Network)
    (dirs : TradeStore → Listing Json) :
    Option (UuidMap FatCrabMakerEnum × UuidMap FatCrabTakerEnum) := do
  let buyMakers ← restoreBuyMakers formats n3xbMakers network (dirs .makerBuy)
  let sellMakers ← restoreSellMakers formats n3xbMakers network (dirs .makerSell)
  let buyTakers ← restoreBuyTakers formats n3xbTakers network (dirs .takerBuy)
  let sellTakers ← restoreSellTakers formats n3xbTakers network (dirs .takerSell)
  return (buyMakers.extend sellMakers, buyTakers.extend sellTakers)

/-- The maps of a trader that `restore` fills. -/
structure Trades where
  makers : UuidMap FatCrabMakerEnum
  takers : UuidMap FatCrabTakerEnum
  makerAccessors : UuidMap FatCrabMakerAccessEnum
  takerAccessors : UuidMap FatCrabTakerAccessEnum

def restore (n3xbMakers n3xbTakers : Uuid → Bool) (network : Network)
    (dirs : TradeStore → Listing Json) : Option Trades := do
  let (makers, takers) ← restoreMakerTakers formats n3xbMakers n3xbTakers network dirs
  let makerAccessors := fun tradeUuid => (makers tradeUuid).map FatCrabMakerEnum.newAccessor
  let takerAccessors := fun tradeUuid => (takers tradeUuid).map FatCrabTakerEnum.newAccessor
  return ⟨UuidMap.empty.extend makers, UuidMap.empty.extend takers,
    UuidMap.empty.extend makerAccessors, UuidMap.empty.extend takerAccessors⟩

/-! ## What the loop finds -/

variable {formats} {n3xb : Uuid → Bool} {read : FileName → Json → Option τ}

theorem restoreTrade_eq (file : FileName × Json) :
    restoreTrade formats n3xb read file =
      match formats.tradeOf file.1 with
      | none => some none
      | some tradeUuid =>
          if n3xb tradeUuid then (read file.1 file.2).map fun trade => some (tradeUuid, trade)
          else some none := by
  unfold restoreTrade Formats.tradeOf
  cases file.1.stem with
  | none => rfl
  | some stem =>
      dsimp only [Option.bind_some]
      cases formats.parseUuid stem with
      | none => rfl
      | some tradeUuid =>
          dsimp only
          cases read file.1 file.2 <;> rfl

/-- Files that are not named after a trade change nothing. -/
theorem restoreTrades_filter (files : Listing Json) (trades : UuidMap τ) :
    restoreTrades formats n3xb read (files.filter fun file => (formats.tradeOf file.1).isSome)
      trades = restoreTrades formats n3xb read files trades := by
  induction files generalizing trades with
  | nil => rfl
  | cons file rest ih =>
      cases hname : formats.tradeOf file.1 with
      | none =>
          rw [List.filter_cons_of_neg (by simp [hname]), ih, restoreTrades, restoreTrade_eq, hname]
          rfl
      | some tradeUuid =>
          rw [List.filter_cons_of_pos (by simp [hname]), restoreTrades, restoreTrades]
          congr 1
          funext found
          cases found with
          | none => exact ih trades
          | some entry => exact ih _

/-- Some file is named after the trade. -/
def Filed (formats : Formats Json) (files : Listing Json) (tradeUuid : Uuid) : Prop :=
  ∃ file ∈ files, formats.tradeOf file.1 = some tradeUuid

theorem filed_cons {file : FileName × Json} {rest : Listing Json} {tradeUuid : Uuid} :
    Filed formats (file :: rest) tradeUuid ↔
      formats.tradeOf file.1 = some tradeUuid ∨ Filed formats rest tradeUuid :=
  List.exists_mem_cons_iff ..

/-- If every file of a trade that n3xB restored reads as expected, the loop finds these
trades and no others. -/
theorem restoreTrades_spec {expected : UuidMap τ} {files : Listing Json}
    (hfiles : ∀ file ∈ files, ∀ tradeUuid, formats.tradeOf file.1 = some tradeUuid →
      n3xb tradeUuid = true →
        read file.1 file.2 = expected tradeUuid ∧ (expected tradeUuid).isSome = true)
    (trades : UuidMap τ) :
    ∃ found, restoreTrades formats n3xb read files trades = some found ∧
      ∀ tradeUuid,
        (n3xb tradeUuid = true ∧ Filed formats files tradeUuid →
          found tradeUuid = expected tradeUuid) ∧
        (¬(n3xb tradeUuid = true ∧ Filed formats files tradeUuid) →
          found tradeUuid = trades tradeUuid) := by
  induction files generalizing trades with
  | nil =>
      refine ⟨trades, rfl, fun tradeUuid => ⟨?_, fun _ => rfl⟩⟩
      rintro ⟨-, file, hfile, -⟩
      cases hfile
  | cons file rest ih =>
      have hrest := ih fun other hother => hfiles other (List.mem_cons_of_mem file hother)
      simp only [filed_cons]
      rw [restoreTrades, restoreTrade_eq]
      cases hname : formats.tradeOf file.1 with
      | none =>
          -- the file is not named after a trade
          simp only [reduceCtorEq, false_or]
          exact hrest trades
      | some named =>
          by_cases hrestored : n3xb named = true
          · obtain ⟨hread, hsome⟩ := hfiles file List.mem_cons_self named hname hrestored
            obtain ⟨trade, htrade⟩ := Option.isSome_iff_exists.mp hsome
            obtain ⟨found, hfound, hspec⟩ := hrest (trades.insert named trade)
            refine ⟨found, ?_, fun tradeUuid => ?_⟩
            · rw [← hfound]
              simp only [hrestored, if_true, hread, htrade]
              rfl
            obtain ⟨hin, hout⟩ := hspec tradeUuid
            rcases eq_or_ne tradeUuid named with rfl | hother
            -- a later file of the same trade reads the same
            · refine ⟨fun _ => ?_, fun hnot => absurd ⟨hrestored, .inl rfl⟩ hnot⟩
              by_cases hlater : Filed formats rest tradeUuid
              · exact hin ⟨hrestored, hlater⟩
              · rw [hout fun h => hlater h.2, htrade]
                exact Function.update_self ..
            · have hskip : some named ≠ some tradeUuid := fun h => hother (Option.some.inj h).symm
              simp only [hskip, false_or]
              refine ⟨hin, fun hnot => ?_⟩
              rw [hout hnot]
              exact Function.update_of_ne hother ..
          · obtain ⟨found, hfound, hspec⟩ := hrest trades
            -- n3xB did not restore the trade, so its file is passed over
            refine ⟨found, ?_, fun tradeUuid => ?_⟩
            · rw [← hfound]
              simp only [hrestored]
              rfl
            obtain ⟨hin, hout⟩ := hspec tradeUuid
            refine ⟨?_, fun hnot => hout fun h => hnot ⟨h.1, .inr h.2⟩⟩
            rintro ⟨hpresent, hnamed | hlater⟩
            · rw [← Option.some.inj hnamed] at hpresent
              exact absurd hpresent hrestored
            · exact hin ⟨hpresent, hlater⟩

/-! ## What a restart rebuilds -/

/-- The trades of a trader, each with its data, by kind. -/
abbrev Book := (kind : TradeStore) → UuidMap kind.Data

/-- Every trade of the book has its file, in the directory of its kind and with its data;
no other file is named after a trade. -/
structure Holds (formats : Formats Json) (dirs : TradeStore → Listing Json) (book : Book) :
    Prop where
  filed : ∀ kind tradeUuid data, book kind tradeUuid = some data →
    (.ofTrade tradeUuid, formats.toJson kind data) ∈ dirs kind
  booked : ∀ kind, ∀ file ∈ dirs kind, ∀ tradeUuid, formats.tradeOf file.1 = some tradeUuid →
    file.1 = .ofTrade tradeUuid ∧
      ∃ data, book kind tradeUuid = some data ∧ file.2 = formats.toJson kind data

/-- The trades of a book that n3xB restored, in their role and with their data. -/
def rebuilt (n3xbMakers n3xbTakers : Uuid → Bool) (network : Network) (book : Book) : Trades :=
  let makers := fun tradeUuid =>
    if n3xbMakers tradeUuid then
      ((book .makerSell tradeUuid).map fun data =>
        .sell (FatCrabMaker.restoreSell network (.ofTrade tradeUuid) data)).or
      ((book .makerBuy tradeUuid).map fun data =>
        .buy (FatCrabMaker.restoreBuy network (.ofTrade tradeUuid) data))
    else none
  let takers := fun tradeUuid =>
    if n3xbTakers tradeUuid then
      ((book .takerSell tradeUuid).map fun data =>
        .sell (FatCrabTaker.restoreSell network (.ofTrade tradeUuid) data)).or
      ((book .takerBuy tradeUuid).map fun data =>
        .buy (FatCrabTaker.restoreBuy network (.ofTrade tradeUuid) data))
    else none
  ⟨makers, takers, fun tradeUuid => (makers tradeUuid).map FatCrabMakerEnum.newAccessor,
    fun tradeUuid => (takers tradeUuid).map FatCrabTakerEnum.newAccessor⟩

variable {dirs : TradeStore → Listing Json} {book : Book}

/-- Each of the four loops finds the trades of its directory that n3xB restored. -/
theorem Holds.restoreTrades (hholds : Holds formats dirs book) (kind : TradeStore)
    (n3xb : Uuid → Bool) (start : FileName → kind.Data → τ) :
    FatCrabTrader.restoreTrades formats n3xb
        (fun path json => (formats.fromJson kind json).map (start path)) (dirs kind) .empty =
      some fun tradeUuid =>
        if n3xb tradeUuid then (book kind tradeUuid).map (start (.ofTrade tradeUuid))
        else none := by
  let expected : UuidMap τ := fun tradeUuid =>
    (book kind tradeUuid).map (start (.ofTrade tradeUuid))
  let read : FileName → Json → Option τ := fun path json =>
    (formats.fromJson kind json).map (start path)
  have hfiles : ∀ file ∈ dirs kind, ∀ tradeUuid, formats.tradeOf file.1 = some tradeUuid →
      n3xb tradeUuid = true →
        read file.1 file.2 = expected tradeUuid ∧ (expected tradeUuid).isSome = true := by
    intro file hfile tradeUuid hname _
    obtain ⟨hpath, data, hdata, hjson⟩ := hholds.booked kind file hfile tradeUuid hname
    simp only [read, expected, hpath, hjson, formats.from_to, hdata, Option.map_some,
      Option.isSome_some, and_self]
  obtain ⟨found, hfound, hspec⟩ :=
    @restoreTrades_spec _ _ _ formats n3xb read expected _ hfiles .empty
  rw [hfound]
  congr 1
  funext tradeUuid
  obtain ⟨hin, hout⟩ := hspec tradeUuid
  by_cases hrestored : n3xb tradeUuid = true
  · rw [if_pos hrestored]
    cases hdata : book kind tradeUuid with
    | some data =>
        have hfile := hholds.filed kind tradeUuid data hdata
        rw [hin ⟨hrestored, _, hfile, formats.tradeOf_ofTrade tradeUuid⟩]
        simp only [expected, hdata]
    | none =>
        -- no file either, since every file of the directory is booked
        rw [hout]
        · rfl
        · rintro ⟨-, file, hfile, hname⟩
          obtain ⟨-, data, hfound, -⟩ := hholds.booked kind file hfile tradeUuid hname
          rw [hdata] at hfound
          cases hfound
  · rw [if_neg hrestored, hout fun h => hrestored h.1]
    rfl

/-- The four directories together give the book back, as far as n3xB restored it. -/
theorem Holds.restore (hholds : Holds formats dirs book) (n3xbMakers n3xbTakers : Uuid → Bool)
    (network : Network) :
    FatCrabTrader.restore formats n3xbMakers n3xbTakers network dirs =
      some (rebuilt n3xbMakers n3xbTakers network book) := by
  have hbuyMakers := hholds.restoreTrades .makerBuy n3xbMakers fun path data =>
    FatCrabMakerEnum.buy (.restoreBuy network path data)
  have hsellMakers := hholds.restoreTrades .makerSell n3xbMakers fun path data =>
    FatCrabMakerEnum.sell (.restoreSell network path data)
  have hbuyTakers := hholds.restoreTrades .takerBuy n3xbTakers fun path data =>
    FatCrabTakerEnum.buy (.restoreBuy network path data)
  have hsellTakers := hholds.restoreTrades .takerSell n3xbTakers fun path data =>
    FatCrabTakerEnum.sell (.restoreSell network path data)
  unfold FatCrabTrader.restore restoreMakerTakers restoreBuyMakers restoreSellMakers
    restoreBuyTakers restoreSellTakers
  rw [hbuyMakers, hsellMakers, hbuyTakers, hsellTakers]
  simp only [Option.bind_eq_bind, Option.bind_some, Option.pure_def, UuidMap.extend_empty,
    UuidMap.extend_if]
  rfl

end FatCrabTrader

end Restore

end FatCrabTrading
