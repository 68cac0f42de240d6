import FatCrabTrading.Purse.Ledger
import FatCrabTrading.Sample

/-! # Conservation of the ledger

What was granted is what is in the table and what has left it. An id leaves once, by the
answer to a request that freed it or paid from it, and with the amount that it was granted;
a request that is answered by an error moves nothing.
-/

namespace FatCrabTrading

open Effect

section Conservation

variable [Bitcoin]

/-- The entries of the table. -/
def PurseData.live (data : PurseData) : List (Uuid × ℕ) :=
  data.allocatedFunds.entries.map fun entry => (entry.1, entry.2)

namespace PurseData

omit [Bitcoin]

theorem sum_live (data : PurseData) : (data.live.map Prod.snd).sum = data.allocated := by
  unfold live allocated
  rw [List.map_map]
  rfl

/-- An id that is not in the table comes on top. -/
theorem live_allocateFunds {data : PurseData} {uuid : Uuid}
    (hnone : data.getAllocatedFunds uuid = none) (amount : ℕ) (height : Option ℕ) :
    (data.allocateFunds uuid amount height).live = (uuid, amount) :: data.live := by
  have hnot : uuid ∉ data.allocatedFunds := AList.lookup_eq_none.mp hnone
  unfold live allocateFunds
  rw [AList.entries_insert_of_notMem hnot]
  rfl

/-- An id in the table can be taken out of it. -/
theorem live_deallocateFunds {data : PurseData} {uuid : Uuid} {amount : ℕ}
    (hfound : data.getAllocatedFunds uuid = some amount) (height : Option ℕ) :
    data.live.Perm ((uuid, amount) :: (data.deallocateFunds uuid height).live) := by
  obtain ⟨before, after, hentries, hafter⟩ := entries_deallocateFunds height hfound
  unfold live
  rw [hafter, hentries, List.map_append, List.map_cons, List.map_append]
  exact List.perm_middle

end PurseData

/-! ## Sums over what was granted -/

/-- The amount that was granted under an id. -/
def share (granted : List (Uuid × ℕ)) (fundsId : Uuid) : ℕ := (granted.lookup fundsId).getD 0

omit [Bitcoin] in
theorem share_of_mem {granted : List (Uuid × ℕ)} (hnodup : (granted.map Prod.fst).Nodup)
    {fundsId : Uuid} {sats : ℕ} (hgrant : (fundsId, sats) ∈ granted) :
    share granted fundsId = sats := by
  obtain ⟨before, after, rfl⟩ := List.append_of_mem hgrant
  have hnew : fundsId ∉ before.map Prod.fst := by
    rw [List.map_append, List.nodup_append] at hnodup
    exact fun hmem => hnodup.2.2 _ hmem _ List.mem_cons_self rfl
  have hlookup : (before ++ (fundsId, sats) :: after).lookup fundsId = some sats := by
    refine List.lookup_eq_some_iff.mpr ⟨before, after, rfl, fun grant hmem => ?_⟩
    have hne : fundsId ≠ grant.1 := fun heq => hnew (heq ▸ List.mem_map_of_mem hmem)
    exact bne_iff_ne.mpr hne
  unfold share
  rw [hlookup, Option.getD_some]

omit [Bitcoin] in
theorem share_cons_of_ne {granted : List (Uuid × ℕ)} {fundsId other : Uuid} (hne : other ≠ fundsId)
    (sats : ℕ) : share ((fundsId, sats) :: granted) other = share granted other := by
  have hbeq : (other == fundsId) = false := by simpa using hne
  unfold share
  simp only [List.lookup_cons, hbeq]

namespace Purse

/-- The ids that have left the table. -/
def left (purse : Purse) : List Uuid := purse.broadcasts.map Prod.fst ++ purse.freed

/-- What was granted is in the table or has left it. -/
def Accounted (purse : Purse) : Prop :=
  purse.granted.Perm (purse.actor.data.live ++
    purse.left.map fun fundsId => (fundsId, share purse.granted fundsId))

variable {purse : Purse} {answers : WalletAnswers}

theorem Accounted.mem_granted (haccounted : purse.Accounted) {fundsId : Uuid}
    (hleft : fundsId ∈ purse.left) :
    (fundsId, share purse.granted fundsId) ∈ purse.granted :=
  haccounted.mem_iff.mpr
    (List.mem_append_right _ (List.mem_map_of_mem hleft))

theorem Accounted.allocate (haccounted : purse.Accounted) (hsound : purse.Sound) {fundsId : Uuid}
    (hfresh : ∀ sats, (fundsId, sats) ∉ purse.granted) (sats : ℕ) :
    (purse.allocate fundsId sats).Accounted := by
  have hnone : purse.actor.data.getAllocatedFunds fundsId = none := by
    by_contra hsome
    obtain ⟨found, hfound⟩ := Option.ne_none_iff_exists'.mp hsome
    exact hfresh found (hsound.backed fundsId found hfound)
  have hlive : (purse.allocate fundsId sats).actor.data.live =
      (fundsId, sats) :: purse.actor.data.live :=
    PurseData.live_allocateFunds hnone sats _
  -- the share of an id that left is not the new one's
  have hshares : (purse.left.map fun other =>
      (other, share ((fundsId, sats) :: purse.granted) other)) =
        purse.left.map fun other => (other, share purse.granted other) := by
    refine List.map_congr_left fun other hleft => ?_
    have hne : other ≠ fundsId := by
      rintro rfl
      exact hfresh _ (haccounted.mem_granted hleft)
    rw [share_cons_of_ne hne]
  have hstep : ((fundsId, sats) :: purse.granted).Perm
      ((fundsId, sats) :: purse.actor.data.live ++
        purse.left.map fun other => (other, share purse.granted other)) := haccounted.cons _
  rw [← hshares, ← hlive] at hstep
  exact hstep

/-- An entry that leaves the table moves to what has left it. -/
theorem Accounted.leave (haccounted : purse.Accounted) (hsound : purse.Sound) {fundsId : Uuid}
    {sats : ℕ} (hlookup : purse.lookup fundsId = some sats) {after : Purse}
    (hdata : after.actor.data = (purse.deallocate fundsId).actor.data)
    (hgranted : after.granted = purse.granted) (hleft : after.left.Perm (fundsId :: purse.left)) :
    after.Accounted := by
  have hshare : share purse.granted fundsId = sats :=
    share_of_mem hsound.grantedOnce (hsound.backed fundsId sats hlookup)
  have hlive : purse.actor.data.live.Perm ((fundsId, sats) :: after.actor.data.live) := by
    rw [hdata]
    exact PurseData.live_deallocateFunds hlookup _
  unfold Accounted
  rw [hgranted]
  calc purse.granted.Perm (purse.actor.data.live ++
        purse.left.map fun other => (other, share purse.granted other)) := haccounted
    _ |>.Perm ((fundsId, sats) :: after.actor.data.live ++
        purse.left.map fun other => (other, share purse.granted other)) := hlive.append_right _
    _ |>.Perm (after.actor.data.live ++ (fundsId, sats) ::
        purse.left.map fun other => (other, share purse.granted other)) := List.perm_middle.symm
    _ |>.Perm (after.actor.data.live ++
        after.left.map fun other => (other, share purse.granted other)) := by
      have hmap := hleft.map fun other => (other, share purse.granted other)
      rw [List.map_cons, hshare] at hmap
      exact hmap.symm.append_left _

end Purse

/-! ## The log of the requests -/

/-- The answer `Err`, to any request. -/
def PurseRequest.refusal (error : FatCrabError) : (request : PurseRequest) → request.Reply
  | .getMnemonic => .error error
  | .getRxAddress => .error error
  | .getBalances => .error error
  | .allocateFunds _ => .error error
  | .freeFunds _ => .error error
  | .sendFunds _ _ => .error error
  | .getHeight => .error error
  | .getTxConf _ => .error error
  | .syncBlockchain => .error error
  | .shutdown => .error error

namespace Purse.Asked

/-- The id and the amount that an answer granted. -/
def granted : Asked → Option (Uuid × ℕ)
  | ⟨.allocateFunds sats, some (.ok fundsId)⟩ => some (fundsId, sats)
  | _ => none

/-- The id that a successful `FreeFunds` gave back. -/
def freed : Asked → Option Uuid
  | ⟨.freeFunds fundsId, some (.ok _)⟩ => some fundsId
  | _ => none

/-- The id that a successful `SendFunds` paid from. -/
def paid : Asked → Option Uuid
  | ⟨.sendFunds fundsId _, some (.ok _)⟩ => some fundsId
  | _ => none

/-- An answer that changes no allocation. -/
structure Idle (asked : Asked) : Prop where
  granted : asked.granted = none
  freed : asked.freed = none
  paid : asked.paid = none

theorem idle_of_readOnly {request : PurseRequest} (hreadOnly : request.readOnly = true)
    (reply : Option request.Reply) : Idle ⟨request, reply⟩ := by
  cases request with
  | allocateFunds sats => cases hreadOnly
  | freeFunds fundsId => cases hreadOnly
  | sendFunds fundsId address => cases hreadOnly
  | _ => exact ⟨rfl, rfl, rfl⟩

theorem idle_none (request : PurseRequest) : Idle ⟨request, none⟩ := by
  cases request <;> exact ⟨rfl, rfl, rfl⟩

end Purse.Asked

namespace Purse

variable {purse after : Purse} {answers : WalletAnswers}

/-- What one request makes of the ledger. -/
inductive Moved (purse : Purse) : Asked → Purse → Prop where
  | kept {asked : Asked} {after : Purse} (hsame : purse.SameFunds after) (hidle : asked.Idle) :
      Moved purse asked after
  | granted (fundsId : Uuid) (sats : ℕ) :
      Moved purse ⟨.allocateFunds sats, some (.ok fundsId)⟩ (purse.allocate fundsId sats)
  | freed {fundsId : Uuid} {sats : ℕ} (hlookup : purse.lookup fundsId = some sats) :
      Moved purse ⟨.freeFunds fundsId, some (.ok ())⟩
        { purse.deallocate fundsId with freed := fundsId :: purse.freed }
  | paid {fundsId : Uuid} {sats : ℕ} {address : Address} {tx : Tx}
      (hlookup : purse.lookup fundsId = some sats)
      (hrecipients : tx.recipients = [(Bitcoin.scriptPubkey address, sats)]) :
      Moved purse ⟨.sendFunds fundsId address, some (.ok tx.txid)⟩
        { purse.deallocate fundsId with broadcasts := (fundsId, tx) :: purse.broadcasts }

theorem sameFunds_deallocate {fundsId : Uuid} (hnone : purse.lookup fundsId = none) :
    purse.SameFunds (purse.deallocate fundsId) := by
  refine ⟨?_, rfl, rfl, rfl, rfl⟩
  have hnot : fundsId ∉ purse.actor.data.allocatedFunds.keys := AList.lookup_eq_none.mp hnone
  apply AList.ext
  exact List.kerase_of_notMem_keys hnot

/-- Every served request makes one of these moves. -/
theorem moved_of_serve (request : PurseRequest) :
    purse.Moved ⟨request, (purse.serve answers request).1⟩ (purse.serve answers request).2 := by
  by_cases hserving : purse.status = .serving
  swap
  · rw [serve_of_not_serving hserving]
    exact .kept (.refl purse) (Asked.idle_none request)
  by_cases hreadOnly : request.readOnly = true
  · exact .kept (serve_readOnly hreadOnly) (Asked.idle_of_readOnly hreadOnly _)
  cases request with
  | allocateFunds sats =>
      rw [serve_allocateFunds hserving]
      split
      next => exact .kept ⟨rfl, rfl, rfl, rfl, rfl⟩ (Asked.idle_none _)
      next => exact .kept (.refl purse) ⟨rfl, rfl, rfl⟩
      next => exact .granted _ sats
  | freeFunds fundsId =>
      rw [serve_freeFunds hserving]
      split
      next hsome =>
        obtain ⟨sats, hlookup⟩ := Option.isSome_iff_exists.mp hsome
        exact .freed hlookup
      next hnone =>
        rw [Option.not_isSome_iff_eq_none] at hnone
        exact .kept (sameFunds_deallocate hnone) ⟨rfl, rfl, rfl⟩
  | sendFunds fundsId address =>
      rw [serve_sendFunds hserving]
      split
      next => exact .kept (.refl purse) ⟨rfl, rfl, rfl⟩
      next sats hlookup =>
        split
        next => exact .kept (.refl purse) ⟨rfl, rfl, rfl⟩
        next tx hpay => exact .paid hlookup (WalletAnswers.pay_recipients hpay)
  | _ => exact absurd rfl hreadOnly

/-- The ledger of a refused request is as it was. -/
theorem Moved.same_of_refusal {request : PurseRequest} {error : FatCrabError}
    (hmoved : purse.Moved ⟨request, some (request.refusal error)⟩ after) :
    purse.SameFunds after := by
  generalize hasked : (⟨request, some (request.refusal error)⟩ : Asked) = asked at hmoved
  cases hmoved with
  | kept hsame hidle => exact hsame
  | granted => cases hasked
  | freed => cases hasked
  | paid => cases hasked

theorem SameFunds.left (hsame : purse.SameFunds after) : after.left = purse.left := by
  unfold Purse.left
  rw [hsame.broadcasts, hsame.freed]

theorem Accounted.congr (haccounted : purse.Accounted) (hsame : purse.SameFunds after) :
    after.Accounted := by
  unfold Accounted PurseData.live at haccounted ⊢
  rw [hsame.allocatedFunds, hsame.left, hsame.granted]
  exact haccounted

theorem Accounted.moved (haccounted : purse.Accounted) (hsound : purse.Sound) {asked : Asked}
    (hfresh : ∀ fundsId sats, asked.granted = some (fundsId, sats) →
      ∀ found, (fundsId, found) ∉ purse.granted)
    (hmoved : purse.Moved asked after) : after.Accounted := by
  cases hmoved with
  | kept hsame hidle => exact haccounted.congr hsame
  | granted fundsId sats => exact haccounted.allocate hsound (hfresh fundsId sats rfl) sats
  | freed hlookup =>
      refine haccounted.leave hsound hlookup rfl rfl ?_
      exact List.perm_middle
  | paid hlookup hrecipients => exact haccounted.leave hsound hlookup rfl rfl (.refl _)

/-- A purse that was opened without a file, with the requests that it answered since, the
last one first. -/
inductive Logged : Purse → List Asked → Prop where
  | opened (overflowChecks : Bool) (network : Network) (height : ℕ) :
      Logged ⟨⟨overflowChecks, .new network height⟩, .serving, [], [], []⟩ []
  | served {purse : Purse} {log : List Asked} {answers : WalletAnswers} {request : PurseRequest}
      (hlogged : Logged purse log) (hdraws : purse.DrawsFresh answers request) :
      Logged (purse.serve answers request).2
        (⟨request, (purse.serve answers request).1⟩ :: log)

/-- The record of a purse says what its log says. -/
structure Records (purse : Purse) (log : List Asked) : Prop where
  granted : purse.granted = log.filterMap Asked.granted
  freed : purse.freed = log.filterMap Asked.freed
  paid : purse.broadcasts.map Prod.fst = log.filterMap Asked.paid

theorem Records.moved {log : List Asked} (hrecords : purse.Records log) {asked : Asked}
    (hmoved : purse.Moved asked after) : after.Records (asked :: log) := by
  obtain ⟨hgranted, hfreed, hpaid⟩ := hrecords
  cases hmoved with
  | kept hsame hidle =>
      constructor
      · rw [hsame.granted, hgranted, List.filterMap_cons_none hidle.granted]
      · rw [hsame.freed, hfreed, List.filterMap_cons_none hidle.freed]
      · rw [hsame.broadcasts, hpaid, List.filterMap_cons_none hidle.paid]
  | granted fundsId sats => exact ⟨congrArg (List.cons (fundsId, sats)) hgranted, hfreed, hpaid⟩
  | @freed fundsId _ hlookup => exact ⟨hgranted, congrArg (List.cons fundsId) hfreed, hpaid⟩
  | @paid fundsId _ _ _ hlookup hrecipients =>
      exact ⟨hgranted, hfreed, congrArg (List.cons fundsId) hpaid⟩

/-- A granted id is the one that was drawn. -/
theorem granted_of_serve {request : PurseRequest} {fundsId : Uuid} {sats : ℕ}
    (hgranted : Asked.granted ⟨request, (purse.serve answers request).1⟩ =
      some (fundsId, sats)) : request = .allocateFunds sats ∧ fundsId = answers .newV4 := by
  cases request with
  | allocateFunds asked =>
      generalize hserve : purse.serve answers (.allocateFunds asked) = served at hgranted
      obtain ⟨reply, after⟩ := served
      match reply, hgranted with
      | some (.ok drawn), hgranted =>
          cases hgranted
          exact ⟨rfl, (serve_allocateFunds_ok hserve).1⟩
  | _ => cases hgranted

theorem fresh_of_granted {request : PurseRequest} (hdraws : purse.DrawsFresh answers request)
    {fundsId : Uuid} {sats : ℕ}
    (hgranted : Asked.granted ⟨request, (purse.serve answers request).1⟩ =
      some (fundsId, sats)) (found : ℕ) : (fundsId, found) ∉ purse.granted := by
  obtain ⟨rfl, rfl⟩ := granted_of_serve hgranted
  exact hdraws sats rfl found

variable {log : List Asked}

theorem sound_opened (overflowChecks : Bool) (network : Network) (height : ℕ) :
    Sound ⟨⟨overflowChecks, .new network height⟩, .serving, [], [], []⟩ := by
  refine ⟨.nil, ?_, nofun, .nil, nofun, nofun⟩
  intro fundsId sats hlookup
  have hnone := PurseData.getAllocatedFunds_new fundsId height network
  cases hnone.symm.trans hlookup

theorem Logged.sound (hlogged : Logged purse log) : purse.Sound := by
  induction hlogged with
  | opened overflowChecks network height => exact sound_opened overflowChecks network height
  | served _ hdraws ih => exact ih.serve hdraws

theorem Logged.accounted (hlogged : Logged purse log) : purse.Accounted := by
  induction hlogged with
  | opened => exact .nil
  | served hlogged hdraws ih =>
      exact ih.moved hlogged.sound (fun _ _ hgranted => fresh_of_granted hdraws hgranted)
        (moved_of_serve _)

theorem Logged.records (hlogged : Logged purse log) : purse.Records log := by
  induction hlogged with
  | opened => exact ⟨rfl, rfl, rfl⟩
  | served _ _ ih => exact ih.moved (moved_of_serve _)

/-- The ledger of a purse adds up with the answers it gave, and the next request keeps to
the rules too. -/
structure Conserves (purse : Purse) (log : List Asked) : Prop where
  total : ∃ total,
    purse.actor.data.totalFundsAllocated purse.actor.overflowChecks = some total ∧
      total + ((log.filterMap Asked.freed).map (share (log.filterMap Asked.granted))).sum +
          ((log.filterMap Asked.paid).map (share (log.filterMap Asked.granted))).sum =
        ((log.filterMap Asked.granted).map Prod.snd).sum
  leavesOnce : (log.filterMap Asked.paid ++ log.filterMap Asked.freed).Nodup
  held : ∀ fundsId sats, (fundsId, sats) ∈ log.filterMap Asked.granted →
    purse.lookup fundsId =
      if fundsId ∈ log.filterMap Asked.paid ++ log.filterMap Asked.freed then none else some sats
  backed : ∀ fundsId sats, purse.lookup fundsId = some sats →
    (fundsId, sats) ∈ log.filterMap Asked.granted
  leaves : ∀ answers request, purse.DrawsFresh answers request → ∀ fundsId sats,
    purse.lookup fundsId = some sats →
      (purse.serve answers request).2.lookup fundsId = some sats ∨
        (purse.serve answers request).2.lookup fundsId = none ∧
          (Asked.freed ⟨request, (purse.serve answers request).1⟩ = some fundsId ∨
            Asked.paid ⟨request, (purse.serve answers request).1⟩ = some fundsId ∧
              ∃ tx script, tx.recipients = [(script, sats)] ∧
                (purse.serve answers request).2.broadcasts = (fundsId, tx) :: purse.broadcasts)
  refused : ∀ answers request error,
    (purse.serve answers request).1 = some (request.refusal error) →
      purse.SameFunds (purse.serve answers request).2

/-- What an entry of the table can become. -/
theorem Moved.leaves (hsound : purse.Sound) {asked : Asked}
    (hfresh : ∀ fundsId sats, asked.granted = some (fundsId, sats) →
      ∀ found, (fundsId, found) ∉ purse.granted)
    (hmoved : purse.Moved asked after) {fundsId : Uuid} {sats : ℕ}
    (hlookup : purse.lookup fundsId = some sats) :
    after.lookup fundsId = some sats ∨ after.lookup fundsId = none ∧
      (asked.freed = some fundsId ∨ asked.paid = some fundsId ∧
        ∃ tx script, tx.recipients = [(script, sats)] ∧
          after.broadcasts = (fundsId, tx) :: purse.broadcasts) := by
  cases hmoved with
  | kept hsame hidle =>
      left
      rw [hsame.lookup, hlookup]
  | granted drawn amount =>
      left
      have hne : fundsId ≠ drawn := by
        rintro rfl
        -- an id that is drawn again would replace its entry
        exact hfresh fundsId amount rfl sats (hsound.backed fundsId sats hlookup)
      rw [lookup_allocate, if_neg hne, hlookup]
  | @freed asked amount hfound =>
      change (purse.deallocate asked).lookup fundsId = some sats ∨
        (purse.deallocate asked).lookup fundsId = none ∧ _
      rw [lookup_deallocate]
      by_cases heq : fundsId = asked
      · subst heq
        rw [if_pos rfl]
        exact .inr ⟨rfl, .inl rfl⟩
      · rw [if_neg heq]
        exact .inl hlookup
  | @paid asked amount address tx hfound hrecipients =>
      change (purse.deallocate asked).lookup fundsId = some sats ∨
        (purse.deallocate asked).lookup fundsId = none ∧ _
      rw [lookup_deallocate]
      by_cases heq : fundsId = asked
      · subst heq
        cases hfound.symm.trans hlookup
        rw [if_pos rfl]
        exact .inr ⟨rfl, .inr ⟨rfl, tx, _, hrecipients, rfl⟩⟩
      · rw [if_neg heq]
        exact .inl hlookup

theorem Sound.left_nodup (hsound : purse.Sound) (haccounted : purse.Accounted) :
    purse.left.Nodup := by
  have hkeys := haccounted.map Prod.fst
  rw [List.map_append, List.map_map] at hkeys
  have hnodup := hkeys.nodup_iff.mp hsound.grantedOnce
  have hid : purse.left.map (Prod.fst ∘ fun fundsId => (fundsId, share purse.granted fundsId)) =
      purse.left := by
    rw [show (Prod.fst ∘ fun fundsId => (fundsId, share purse.granted fundsId)) = id from rfl,
      List.map_id]
  rw [hid] at hnodup
  exact (List.nodup_append.mp hnodup).2.1

theorem Sound.lookup_of_granted (hsound : purse.Sound) {fundsId : Uuid} {sats : ℕ}
    (hgrant : (fundsId, sats) ∈ purse.granted) :
    purse.lookup fundsId = if fundsId ∈ purse.left then none else some sats := by
  by_cases hleft : fundsId ∈ purse.left
  · rw [if_pos hleft]
    rcases List.mem_append.mp hleft with hpaid | hfreed
    · obtain ⟨⟨_, tx⟩, hbroadcast, rfl⟩ := List.mem_map.mp hpaid
      exact (hsound.paid _ tx hbroadcast).1
    · exact (hsound.spent _ hfreed).1
  · rw [if_neg hleft]
    obtain ⟨hunpaid, hunfreed⟩ := not_or.mp (mt List.mem_append.mpr hleft)
    exact hsound.kept fundsId sats hgrant hunpaid hunfreed

theorem Accounted.total (haccounted : purse.Accounted) :
    purse.actor.data.allocated + (purse.left.map (share purse.granted)).sum =
      (purse.granted.map Prod.snd).sum := by
  have hsum := (haccounted.map Prod.snd).sum_eq
  rw [List.map_append, List.sum_append, List.map_map, PurseData.sum_live] at hsum
  exact hsum.symm

/-- After any requests, with any answers of the wallet and the chain, the ledger holds
what was granted and neither freed nor paid. An id leaves it once, by a successful request
and with its amount, and a request that is answered by an error moves nothing. -/
theorem Logged.conserves (hlogged : Logged purse log)
    (hfits : purse.actor.data.allocated < 2 ^ 64) : purse.Conserves log := by
  obtain ⟨hgranted, hfreed, hpaid⟩ := hlogged.records
  have hleft : purse.left = log.filterMap Asked.paid ++ log.filterMap Asked.freed := by
    unfold left
    rw [hfreed, hpaid]
  constructor
  · refine ⟨purse.actor.data.allocated, ?_, ?_⟩
    · unfold PurseData.totalFundsAllocated u64
      rw [if_pos hfits]
    · have htotal := hlogged.accounted.total
      rw [hleft, hgranted, List.map_append, List.sum_append] at htotal
      omega
  · rw [← hleft]
    exact hlogged.sound.left_nodup hlogged.accounted
  · intro fundsId sats hgrant
    rw [← hleft]
    rw [← hgranted] at hgrant
    exact hlogged.sound.lookup_of_granted hgrant
  · intro fundsId sats hlookup
    rw [← hgranted]
    exact hlogged.sound.backed fundsId sats hlookup
  · intro answers request hdraws fundsId sats hlookup
    exact (moved_of_serve request).leaves hlogged.sound
      (fun _ _ hgrant => fresh_of_granted hdraws hgrant) hlookup
  · intro answers request error hrefused
    have hmoved := @moved_of_serve _ purse answers request
    rw [hrefused] at hmoved
    exact hmoved.same_of_refusal

end Purse

end Conservation

section Sample

open Sample

namespace Purse

/-- Sixty of a hundred sats are granted and paid. -/
theorem conserves_paid : ∃ purse : Purse, ∃ log : List Asked,
    log.filterMap Asked.paid = [⟨1⟩] ∧ purse.Conserves log := by
  let opened : Purse := ⟨⟨true, .new .regtest 100⟩, .serving, [], [], []⟩
  have hopened : Logged opened [] := .opened true .regtest 100
  have hgranted := @Logged.served _ _ _ (Sample.wallet ⟨1⟩) (.allocateFunds 60) hopened
    (fun _ _ _ => nofun)
  have hpaid := @Logged.served _ _ _ (Sample.wallet ⟨2⟩) (.sendFunds ⟨1⟩ SampleAddress.bob)
    hgranted nofun
  exact ⟨_, _, by decide +kernel, hpaid.conserves (by decide +kernel)⟩

end Purse

end Sample

end FatCrabTrading
