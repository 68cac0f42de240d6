import FatCrabTrading.Purse.Service

/-! # The record of the purse

How each request changes the purse, and what then holds of the purse after any
requests: an id that left the table never comes back.
-/

namespace FatCrabTrading

open Effect

variable [Bitcoin]

/-- Requests that are not about allocations. -/
def PurseRequest.readOnly : PurseRequest → Bool
  | .allocateFunds _ | .freeFunds _ | .sendFunds _ _ => false
  | _ => true

namespace Purse

variable {answers : WalletAnswers} {purse : Purse}

theorem serve_of_not_serving (hstatus : purse.status ≠ .serving) (request : PurseRequest) :
    purse.serve answers request = (none, purse) :=
  if_neg hstatus

theorem serve_of_serving (hserving : purse.status = .serving) (request : PurseRequest) :
    purse.serve answers request = purse.settle request
      ((PurseActor.handle request).exec (walletEnvironment answers) purse.actor []) :=
  if_pos hserving

/-- The purse after an id left its table. -/
def deallocate (fundsId : Uuid) (purse : Purse) : Purse :=
  { purse with
    actor.data := purse.actor.data.deallocateFunds fundsId (some purse.actor.data.height) }

theorem serve_sendFunds (hserving : purse.status = .serving) (fundsId : Uuid)
    (address : Address) :
    purse.serve answers (.sendFunds fundsId address) =
      match purse.lookup fundsId with
      | none => (some (.error (fundsNotFound fundsId)), purse)
      | some sats =>
          match answers.pay purse.actor.data.network [(Bitcoin.scriptPubkey address, sats)] with
          | .error error => (some (.error (.bdk error)), purse)
          | .ok tx => (some (.ok tx.txid),
              { purse.deallocate fundsId with
                broadcasts := (fundsId, tx) :: purse.broadcasts }) := by
  rw [serve_of_serving hserving]
  simp only [PurseActor.handle, PurseActor.exec_sendFunds, lookup]
  cases purse.actor.data.getAllocatedFunds fundsId with
  | none => rfl
  | some sats =>
      cases hpay : answers.pay purse.actor.data.network
          [(Bitcoin.scriptPubkey address, sats)] with
      | error error =>
          simp only [hpay]
          rfl
      | ok tx =>
          simp only [hpay]
          rfl

/-- A purse that serves answers every payment, by a transaction id or an error. -/
theorem serve_sendFunds_reply (hserving : purse.status = .serving) (fundsId : Uuid)
    (address : Address) :
    ∃ reply, (purse.serve answers (.sendFunds fundsId address)).1 = some reply := by
  rw [serve_sendFunds hserving]
  split
  next => exact ⟨_, rfl⟩
  next => split <;> exact ⟨_, rfl⟩

theorem serve_freeFunds (hserving : purse.status = .serving) (fundsId : Uuid) :
    purse.serve answers (.freeFunds fundsId) =
      if (purse.lookup fundsId).isSome then
        (some (.ok ()), { purse.deallocate fundsId with freed := fundsId :: purse.freed })
      else
        (some (.error (fundsNotFound fundsId)), purse.deallocate fundsId) := by
  rw [serve_of_serving hserving]
  simp only [PurseActor.handle, PurseActor.exec_freeFunds, lookup]
  by_cases hfound : (purse.actor.data.getAllocatedFunds fundsId).isSome
  · simp only [hfound, if_true]
    rfl
  · simp only [hfound]
    rfl

/-- The purse after a fresh id entered its table. -/
def allocate (fundsId : Uuid) (sats : ℕ) (purse : Purse) : Purse :=
  { purse with
    actor.data := purse.actor.data.allocateFunds fundsId sats (some purse.actor.data.height)
    granted := (fundsId, sats) :: purse.granted }

/-- The answer to a request for `sats`, or a panic of the balance computation. -/
def grants (answers : WalletAnswers) (purse : Purse) (sats : ℕ) : Option Bool :=
  match answers .getBalance with
  | .error _ => none
  | .ok balance => (purse.actor.allocatable balance).map fun allocatable => sats ≤ allocatable

theorem serve_allocateFunds (hserving : purse.status = .serving) (sats : ℕ) :
    purse.serve answers (.allocateFunds sats) =
      match purse.grants answers sats with
      | none => (none, { purse with status := .dead })
      | some false => (some (.error (.simple "Insufficient Funds")), purse)
      | some true => (some (.ok (answers .newV4)), purse.allocate (answers .newV4) sats) := by
  rw [serve_of_serving hserving]
  simp only [PurseActor.handle, PurseActor.exec_allocateFunds, grants]
  cases answers .getBalance with
  | error error => rfl
  | ok balance =>
      cases hallocatable : purse.actor.allocatable balance with
      | none =>
          simp only [hallocatable]
          rfl
      | some allocatable =>
          by_cases hless : allocatable < sats
          · simp only [hallocatable, hless, Option.map_some, not_le.mpr hless, decide_false]
            rfl
          · simp only [hallocatable, hless, Option.map_some, not_lt.mp hless, decide_true]
            rfl

/-- The purse keeps its table and its record; its task and its height may change. -/
structure SameFunds (before after : Purse) : Prop where
  allocatedFunds : after.actor.data.allocatedFunds = before.actor.data.allocatedFunds
  network : after.actor.data.network = before.actor.data.network
  granted : after.granted = before.granted
  broadcasts : after.broadcasts = before.broadcasts
  freed : after.freed = before.freed

theorem SameFunds.refl (purse : Purse) : purse.SameFunds purse := ⟨rfl, rfl, rfl, rfl, rfl⟩

theorem SameFunds.lookup {before after : Purse} (h : before.SameFunds after) (fundsId : Uuid) :
    after.lookup fundsId = before.lookup fundsId := by
  unfold Purse.lookup PurseData.getAllocatedFunds
  rw [h.allocatedFunds]

theorem settle_readOnly {request : PurseRequest} (hreadOnly : request.readOnly = true)
    {result : Program.Result PurseActor (List Tx) request.Reply} {height : ℕ}
    (hstore : result.store = { purse.actor with data.height := height }) :
    purse.SameFunds (purse.settle request result).2 := by
  obtain ⟨outcome, store, sent⟩ := result
  subst hstore
  cases request with
  | allocateFunds sats => cases hreadOnly
  | freeFunds fundsId => cases hreadOnly
  | sendFunds fundsId address => cases hreadOnly
  | _ => cases outcome <;> constructor <;> rfl

/-- Nothing but a sync writes to the store. -/
theorem handle_untouched {request : PurseRequest} (hreadOnly : request.readOnly = true)
    (hsync : request ≠ .syncBlockchain) (self : PurseActor) :
    ((PurseActor.handle request).exec (walletEnvironment answers) self []).store = self := by
  cases request with
  | allocateFunds sats => cases hreadOnly
  | freeFunds fundsId => cases hreadOnly
  | sendFunds fundsId address => cases hreadOnly
  | getMnemonic =>
      cases hmnemonic : answers .fromEntropy <;>
        simp [PurseActor.handle, PurseActor.getMnemonic, hmnemonic]
  | getRxAddress =>
      cases haddress : answers .getAddress <;>
        simp [PurseActor.handle, PurseActor.getRxAddress, haddress]
  | getBalances =>
      cases hbalance : answers .getBalance with
      | error error => simp [PurseActor.handle, PurseActor.getBalances, hbalance]
      | ok balance =>
          cases htotal : self.data.totalFundsAllocated self.overflowChecks <;>
            simp [PurseActor.handle, PurseActor.getBalances, hbalance, htotal]
  | getHeight =>
      cases hheight : answers .getHeight <;>
        simp [PurseActor.handle, PurseActor.getHeight, hheight]
  | getTxConf txid =>
      rcases hdetails : answers (.getTx txid) with error | _ | _ | confHeight
      · simp [PurseActor.handle, PurseActor.getTxConf, hdetails]
      · simp [PurseActor.handle, PurseActor.getTxConf, hdetails]
      · simp [PurseActor.handle, PurseActor.getTxConf, hdetails]
      · by_cases hless : self.data.height < confHeight <;>
          simp [PurseActor.handle, PurseActor.getTxConf, hdetails, hless]
  | syncBlockchain => exact absurd rfl hsync
  | shutdown => simp [PurseActor.handle, PurseActor.shutdown]

/-- A sync writes the height and nothing else. -/
theorem handle_readOnly {request : PurseRequest} (hreadOnly : request.readOnly = true)
    (self : PurseActor) : ∃ height,
      ((PurseActor.handle request).exec (walletEnvironment answers) self []).store =
        { self with data.height := height } := by
  by_cases hsync : request = .syncBlockchain
  · subst hsync
    simp only [PurseActor.handle, PurseActor.exec_syncBlockchain]
    cases answers .sync with
    | error error => exact ⟨self.data.height, rfl⟩
    | ok =>
        cases answers .getHeight with
        | error error => exact ⟨self.data.height, rfl⟩
        | ok height => exact ⟨height, rfl⟩
  · refine ⟨self.data.height, ?_⟩
    rw [handle_untouched hreadOnly hsync]

theorem serve_readOnly {request : PurseRequest} (hreadOnly : request.readOnly = true) :
    purse.SameFunds (purse.serve answers request).2 := by
  by_cases hserving : purse.status = .serving
  · rw [serve_of_serving hserving]
    obtain ⟨height, hstore⟩ := handle_readOnly hreadOnly purse.actor
    exact settle_readOnly hreadOnly hstore
  · rw [serve_of_not_serving hserving]
    exact .refl purse

/-! ## What each request adds to the record -/

theorem granted_serve {request : PurseRequest} (hrequest : ∀ sats, request ≠ .allocateFunds sats) :
    (purse.serve answers request).2.granted = purse.granted := by
  by_cases hserving : purse.status = .serving
  · cases request with
    | allocateFunds sats => exact absurd rfl (hrequest sats)
    | freeFunds fundsId =>
        rw [serve_freeFunds hserving]
        split <;> rfl
    | sendFunds fundsId address =>
        rw [serve_sendFunds hserving]
        split
        next => rfl
        next => split <;> rfl
    | _ => exact (serve_readOnly rfl).granted
  · rw [serve_of_not_serving hserving]

theorem broadcasts_serve {request : PurseRequest}
    (hrequest : ∀ fundsId address, request ≠ .sendFunds fundsId address) :
    (purse.serve answers request).2.broadcasts = purse.broadcasts := by
  by_cases hserving : purse.status = .serving
  · cases request with
    | allocateFunds sats =>
        rw [serve_allocateFunds hserving]
        split <;> rfl
    | freeFunds fundsId =>
        rw [serve_freeFunds hserving]
        split <;> rfl
    | sendFunds fundsId address => exact absurd rfl (hrequest fundsId address)
    | _ => exact (serve_readOnly rfl).broadcasts
  · rw [serve_of_not_serving hserving]

theorem freed_serve {request : PurseRequest} (hrequest : ∀ fundsId, request ≠ .freeFunds fundsId) :
    (purse.serve answers request).2.freed = purse.freed := by
  by_cases hserving : purse.status = .serving
  · cases request with
    | allocateFunds sats =>
        rw [serve_allocateFunds hserving]
        split <;> rfl
    | freeFunds fundsId => exact absurd rfl (hrequest fundsId)
    | sendFunds fundsId address =>
        rw [serve_sendFunds hserving]
        split
        next => rfl
        next => split <;> rfl
    | _ => exact (serve_readOnly rfl).freed
  · rw [serve_of_not_serving hserving]

/-- A request for funds grants the new id and says so, or does neither. -/
theorem serve_allocateFunds_cases (sats : ℕ) :
    ((purse.serve answers (.allocateFunds sats)).1 = some (.ok (answers .newV4)) ∧
      (purse.serve answers (.allocateFunds sats)).2.granted =
        (answers .newV4, sats) :: purse.granted) ∨
    ((∀ fundsId, (purse.serve answers (.allocateFunds sats)).1 ≠ some (.ok fundsId)) ∧
      (purse.serve answers (.allocateFunds sats)).2.granted = purse.granted) := by
  by_cases hserving : purse.status = .serving
  · rw [serve_allocateFunds hserving]
    split
    next => exact .inr ⟨nofun, rfl⟩
    next => exact .inr ⟨nofun, rfl⟩
    next => exact .inl ⟨rfl, rfl⟩
  · rw [serve_of_not_serving hserving]
    exact .inr ⟨nofun, rfl⟩

/-- A payment reaches the chain and is answered by its id, or neither. -/
theorem serve_sendFunds_cases (fundsId : Uuid) (address : Address) :
    (∃ tx sats, purse.lookup fundsId = some sats ∧
      tx.recipients = [(Bitcoin.scriptPubkey address, sats)] ∧
      (purse.serve answers (.sendFunds fundsId address)).1 = some (.ok tx.txid) ∧
      (purse.serve answers (.sendFunds fundsId address)).2.broadcasts =
        (fundsId, tx) :: purse.broadcasts) ∨
    ((∀ txid, (purse.serve answers (.sendFunds fundsId address)).1 ≠ some (.ok txid)) ∧
      (purse.serve answers (.sendFunds fundsId address)).2.broadcasts = purse.broadcasts) := by
  by_cases hserving : purse.status = .serving
  · have hserve := @serve_sendFunds _ answers purse hserving fundsId address
    cases hlookup : purse.lookup fundsId with
    | none =>
        rw [hlookup] at hserve
        rw [hserve]
        exact .inr ⟨nofun, rfl⟩
    | some sats =>
        rw [hlookup] at hserve
        cases hpay : answers.pay purse.actor.data.network
            [(Bitcoin.scriptPubkey address, sats)] with
        | error error =>
            simp only [hpay] at hserve
            rw [hserve]
            exact .inr ⟨nofun, rfl⟩
        | ok tx =>
            simp only [hpay] at hserve
            rw [hserve]
            exact .inl ⟨tx, sats, rfl, WalletAnswers.pay_recipients hpay, rfl, rfl⟩
  · rw [serve_of_not_serving hserving]
    exact .inr ⟨nofun, rfl⟩

/-- Freeing an id is answered by `Ok` exactly if the id was there. -/
theorem serve_freeFunds_cases (fundsId : Uuid) :
    ((purse.serve answers (.freeFunds fundsId)).1 = some (.ok ()) ∧
      (purse.serve answers (.freeFunds fundsId)).2.freed = fundsId :: purse.freed) ∨
    ((purse.serve answers (.freeFunds fundsId)).1 ≠ some (.ok ()) ∧
      (purse.serve answers (.freeFunds fundsId)).2.freed = purse.freed) := by
  by_cases hserving : purse.status = .serving
  · rw [serve_freeFunds hserving]
    split
    next => exact .inl ⟨rfl, rfl⟩
    next => exact .inr ⟨nofun, rfl⟩
  · rw [serve_of_not_serving hserving]
    exact .inr ⟨nofun, rfl⟩

section Served

variable {request : PurseRequest} {reply : Option request.Reply} {after : Purse} {fundsId : Uuid}

theorem mem_granted_of_serve (hserve : purse.serve answers request = (reply, after))
    {grant : Uuid × ℕ} (hgrant : grant ∈ purse.granted) : grant ∈ after.granted := by
  obtain rfl := congrArg Prod.snd hserve
  cases request with
  | allocateFunds sats =>
      rcases @serve_allocateFunds_cases _ answers purse sats with ⟨-, hgranted⟩ | ⟨-, hgranted⟩
      · rw [hgranted]
        exact List.mem_cons_of_mem _ hgrant
      · rw [hgranted]
        exact hgrant
  | _ =>
      rw [granted_serve]
      · exact hgrant
      · exact nofun

theorem mem_broadcasts_of_serve (hserve : purse.serve answers request = (reply, after))
    {broadcast : Uuid × Tx} (hbroadcast : broadcast ∈ purse.broadcasts) :
    broadcast ∈ after.broadcasts := by
  obtain rfl := congrArg Prod.snd hserve
  cases request with
  | sendFunds fundsId address =>
      rcases @serve_sendFunds_cases _ answers purse fundsId address with
        ⟨tx, sats, -, -, -, hbroadcasts⟩ | ⟨-, hbroadcasts⟩
      · rw [hbroadcasts]
        exact List.mem_cons_of_mem _ hbroadcast
      · rw [hbroadcasts]
        exact hbroadcast
  | _ =>
      rw [broadcasts_serve]
      · exact hbroadcast
      · exact nofun

theorem mem_freed_of_serve (hserve : purse.serve answers request = (reply, after))
    (hfreed : fundsId ∈ purse.freed) : fundsId ∈ after.freed := by
  obtain rfl := congrArg Prod.snd hserve
  cases request with
  | freeFunds asked =>
      rcases @serve_freeFunds_cases _ answers purse asked with ⟨-, hnew⟩ | ⟨-, hsame⟩
      · rw [hnew]
        exact List.mem_cons_of_mem _ hfreed
      · rw [hsame]
        exact hfreed
  | _ =>
      rw [freed_serve]
      · exact hfreed
      · exact nofun

theorem serve_allocateFunds_ok {sats : ℕ}
    (hserve : purse.serve answers (.allocateFunds sats) = (some (.ok fundsId), after)) :
    fundsId = answers .newV4 ∧ (fundsId, sats) ∈ after.granted := by
  rcases @serve_allocateFunds_cases _ answers purse sats with ⟨hreply, hgranted⟩ | ⟨hnot, -⟩
  · rw [hserve] at hreply hgranted
    cases hreply
    refine ⟨rfl, ?_⟩
    dsimp only at hgranted
    rw [hgranted]
    exact List.mem_cons_self
  · exact absurd (congrArg Prod.fst hserve) (hnot fundsId)

theorem serve_sendFunds_ok {address : Address} {txid : Txid}
    (hserve : purse.serve answers (.sendFunds fundsId address) = (some (.ok txid), after)) :
    ∃ tx sats, purse.lookup fundsId = some sats ∧ (fundsId, tx) ∈ after.broadcasts ∧
      tx.txid = txid ∧ tx.recipients = [(Bitcoin.scriptPubkey address, sats)] := by
  rcases @serve_sendFunds_cases _ answers purse fundsId address with
    ⟨tx, sats, hlookup, hpaid, hreply, hbroadcasts⟩ | ⟨hnot, -⟩
  · rw [hserve] at hreply hbroadcasts
    cases hreply
    refine ⟨tx, sats, hlookup, ?_, rfl, hpaid⟩
    dsimp only at hbroadcasts
    rw [hbroadcasts]
    exact List.mem_cons_self
  · exact absurd (congrArg Prod.fst hserve) (hnot txid)

theorem serve_freeFunds_ok
    (hserve : purse.serve answers (.freeFunds fundsId) = (some (.ok ()), after)) :
    fundsId ∈ after.freed := by
  rcases @serve_freeFunds_cases _ answers purse fundsId with ⟨-, hfreed⟩ | ⟨hnot, -⟩
  · rw [hserve] at hfreed
    dsimp only at hfreed
    rw [hfreed]
    exact List.mem_cons_self
  · exact absurd (congrArg Prod.fst hserve) hnot

/-- A request together with its answer. -/
abbrev Asked : Type := Σ request : PurseRequest, Option request.Reply

/-- A new broadcast is the payment just requested. -/
theorem broadcast_of_serve (hserve : purse.serve answers request = (reply, after)) {tx : Tx}
    (hbroadcast : (fundsId, tx) ∈ after.broadcasts) : (fundsId, tx) ∈ purse.broadcasts ∨
      ∃ address sats, (⟨request, reply⟩ : Asked) =
          ⟨.sendFunds fundsId address, some (.ok tx.txid)⟩ ∧
        tx.recipients = [(Bitcoin.scriptPubkey address, sats)] := by
  obtain rfl := congrArg Prod.fst hserve
  obtain rfl := congrArg Prod.snd hserve
  cases request with
  | sendFunds asked address =>
      rcases @serve_sendFunds_cases _ answers purse asked address with
        ⟨sent, sats, -, hpaid, hreply, hbroadcasts⟩ | ⟨-, hbroadcasts⟩
      · rw [hbroadcasts] at hbroadcast
        rcases List.mem_cons.mp hbroadcast with heq | hold
        · cases heq
          refine .inr ⟨address, sats, ?_, hpaid⟩
          rw [hreply]
        · exact .inl hold
      · rw [hbroadcasts] at hbroadcast
        exact .inl hbroadcast
  | _ =>
      rw [broadcasts_serve] at hbroadcast
      · exact .inl hbroadcast
      · exact nofun

/-- A newly freed id is the one just asked for. -/
theorem freed_of_serve (hserve : purse.serve answers request = (reply, after))
    (hfreed : fundsId ∈ after.freed) : fundsId ∈ purse.freed ∨
      (⟨request, reply⟩ : Asked) = ⟨.freeFunds fundsId, some (.ok ())⟩ := by
  obtain rfl := congrArg Prod.fst hserve
  obtain rfl := congrArg Prod.snd hserve
  cases request with
  | freeFunds asked =>
      rcases @serve_freeFunds_cases _ answers purse asked with ⟨hreply, hnew⟩ | ⟨-, hsame⟩
      · rw [hnew] at hfreed
        rcases List.mem_cons.mp hfreed with rfl | hold
        · right
          rw [hreply]
        · exact .inl hold
      · rw [hsame] at hfreed
        exact .inl hfreed
  | _ =>
      rw [freed_serve] at hfreed
      · exact .inl hfreed
      · exact nofun

end Served

/-! ## What holds of every purse -/

/-- Every id is granted once. While it is in the table it was neither paid nor freed,
and it was paid at most once, with the sats granted. -/
structure Sound (purse : Purse) : Prop where
  grantedOnce : (purse.granted.map Prod.fst).Nodup
  backed : ∀ fundsId sats, purse.lookup fundsId = some sats → (fundsId, sats) ∈ purse.granted
  kept : ∀ fundsId sats, (fundsId, sats) ∈ purse.granted →
    fundsId ∉ purse.broadcasts.map Prod.fst → fundsId ∉ purse.freed →
      purse.lookup fundsId = some sats
  paidOnce : (purse.broadcasts.map Prod.fst).Nodup
  paid : ∀ fundsId tx, (fundsId, tx) ∈ purse.broadcasts → purse.lookup fundsId = none ∧
    ∃ script sats, tx.recipients = [(script, sats)] ∧ (fundsId, sats) ∈ purse.granted
  spent : ∀ fundsId ∈ purse.freed, purse.lookup fundsId = none ∧
    ∃ sats, (fundsId, sats) ∈ purse.granted

/-- Only what the lookups and the record say matters. -/
theorem Sound.congr {before after : Purse} (hsound : before.Sound)
    (hlookup : ∀ fundsId, after.lookup fundsId = before.lookup fundsId)
    (hgranted : after.granted = before.granted)
    (hbroadcasts : after.broadcasts = before.broadcasts) (hfreed : after.freed = before.freed) :
    after.Sound := by
  obtain ⟨hgrantedOnce, hbacked, hkept, hpaidOnce, hpaid, hspent⟩ := hsound
  constructor
  · rw [hgranted]
    exact hgrantedOnce
  · intro fundsId sats
    rw [hlookup, hgranted]
    exact hbacked fundsId sats
  · intro fundsId sats
    rw [hlookup, hgranted, hbroadcasts, hfreed]
    exact hkept fundsId sats
  · rw [hbroadcasts]
    exact hpaidOnce
  · intro fundsId tx
    rw [hlookup, hgranted, hbroadcasts]
    exact hpaid fundsId tx
  · intro fundsId
    rw [hlookup, hgranted, hfreed]
    exact hspent fundsId

theorem SameFunds.sound {before after : Purse} (h : before.SameFunds after)
    (hsound : before.Sound) : after.Sound :=
  hsound.congr h.lookup h.granted h.broadcasts h.freed

@[simp] theorem lookup_allocate (fundsId other : Uuid) (sats : ℕ) (purse : Purse) :
    (purse.allocate fundsId sats).lookup other =
      if other = fundsId then some sats else purse.lookup other :=
  PurseData.getAllocatedFunds_allocateFunds ..

@[simp] theorem lookup_deallocate (fundsId other : Uuid) (purse : Purse) :
    (purse.deallocate fundsId).lookup other =
      if other = fundsId then none else purse.lookup other :=
  PurseData.getAllocatedFunds_deallocateFunds ..

theorem lookup_deallocate_of_none {fundsId : Uuid} (hnone : purse.lookup fundsId = none)
    (other : Uuid) : (purse.deallocate fundsId).lookup other = purse.lookup other := by
  rw [lookup_deallocate]
  split
  next h => rw [h, hnone]
  next => rfl

theorem lookup_deallocate_self (fundsId : Uuid) :
    (purse.deallocate fundsId).lookup fundsId = none := by
  rw [lookup_deallocate, if_pos rfl]

theorem lookup_deallocate_of_ne {fundsId other : Uuid} (hne : other ≠ fundsId) :
    (purse.deallocate fundsId).lookup other = purse.lookup other := by
  rw [lookup_deallocate, if_neg hne]

/-- What is left in the table was granted. -/
theorem Sound.backed_deallocate (hsound : purse.Sound) {fundsId other : Uuid} {sats : ℕ}
    (hfound : (purse.deallocate fundsId).lookup other = some sats) :
    (other, sats) ∈ purse.granted := by
  rw [lookup_deallocate] at hfound
  split at hfound
  next => cases hfound
  next => exact hsound.backed other sats hfound

/-- What is not in the table after an id left it was not there before, or is the id. -/
theorem lookup_deallocate_none {fundsId other : Uuid} (hnone : purse.lookup other = none) :
    (purse.deallocate fundsId).lookup other = none := by
  rw [lookup_deallocate, hnone, ite_self]

theorem Sound.allocate (hsound : purse.Sound) {fundsId : Uuid}
    (hfresh : ∀ sats, (fundsId, sats) ∉ purse.granted) (sats : ℕ) :
    (purse.allocate fundsId sats).Sound := by
  have hnew : fundsId ∉ purse.granted.map Prod.fst := by
    intro hmem
    obtain ⟨⟨_, found⟩, hgrant, rfl⟩ := List.mem_map.mp hmem
    exact hfresh found hgrant
  have hold : ∀ other found, (other, found) ∈ purse.granted →
      (purse.allocate fundsId sats).lookup other = purse.lookup other := by
    intro other found hgrant
    rw [lookup_allocate, if_neg]
    intro heq
    exact hfresh found (heq ▸ hgrant)
  refine ⟨List.nodup_cons.mpr ⟨hnew, hsound.grantedOnce⟩, ?_, ?_, hsound.paidOnce, ?_, ?_⟩
  · intro other found hlookup
    rw [lookup_allocate] at hlookup
    split at hlookup
    next heq =>
      cases hlookup
      exact heq ▸ List.mem_cons_self
    next => exact List.mem_cons_of_mem _ (hsound.backed other found hlookup)
  · intro other found hgrant hunpaid hunfreed
    rcases List.mem_cons.mp hgrant with heq | hgrant
    · cases heq
      rw [lookup_allocate, if_pos rfl]
    · rw [hold other found hgrant]
      exact hsound.kept other found hgrant hunpaid hunfreed
  · intro other tx hbroadcast
    obtain ⟨hnone, script, found, hrecipients, hgrant⟩ := hsound.paid other tx hbroadcast
    rw [hold other found hgrant]
    exact ⟨hnone, script, found, hrecipients, List.mem_cons_of_mem _ hgrant⟩
  · intro other hfreed
    obtain ⟨hnone, found, hgrant⟩ := hsound.spent other hfreed
    rw [hold other found hgrant]
    exact ⟨hnone, found, List.mem_cons_of_mem _ hgrant⟩

theorem Sound.free (hsound : purse.Sound) {fundsId : Uuid} {sats : ℕ}
    (hlookup : purse.lookup fundsId = some sats) :
    { purse.deallocate fundsId with freed := fundsId :: purse.freed }.Sound := by
  refine ⟨hsound.grantedOnce, ?_, ?_, hsound.paidOnce, ?_, ?_⟩
  · exact fun other found hfound => hsound.backed_deallocate hfound
  · intro other found hgrant hunpaid hunfreed
    obtain ⟨hne, hunfreed⟩ := not_or.mp (mt List.mem_cons.mpr hunfreed)
    exact (lookup_deallocate_of_ne hne).trans (hsound.kept other found hgrant hunpaid hunfreed)
  · intro other tx hbroadcast
    obtain ⟨hnone, hpaid⟩ := hsound.paid other tx hbroadcast
    exact ⟨lookup_deallocate_none hnone, hpaid⟩
  · intro other hfreed
    rcases List.mem_cons.mp hfreed with rfl | hfreed
    · exact ⟨lookup_deallocate_self other, sats, hsound.backed other sats hlookup⟩
    · obtain ⟨hnone, hgrant⟩ := hsound.spent other hfreed
      exact ⟨lookup_deallocate_none hnone, hgrant⟩

theorem Sound.pay (hsound : purse.Sound) {fundsId : Uuid} {sats : ℕ} {script : Script} {tx : Tx}
    (hlookup : purse.lookup fundsId = some sats) (hrecipients : tx.recipients = [(script, sats)]) :
    { purse.deallocate fundsId with broadcasts := (fundsId, tx) :: purse.broadcasts }.Sound := by
  have hunpaid : fundsId ∉ purse.broadcasts.map Prod.fst := by
    intro hmem
    obtain ⟨⟨_, other⟩, hbroadcast, rfl⟩ := List.mem_map.mp hmem
    have hnone := (hsound.paid _ other hbroadcast).1
    rw [hlookup] at hnone
    cases hnone
  refine ⟨hsound.grantedOnce, ?_, ?_, List.nodup_cons.mpr ⟨hunpaid, hsound.paidOnce⟩, ?_, ?_⟩
  · exact fun other found hfound => hsound.backed_deallocate hfound
  · intro other found hgrant hunpaid hunfreed
    obtain ⟨hne, hunpaid⟩ := not_or.mp (mt List.mem_cons.mpr hunpaid)
    exact (lookup_deallocate_of_ne hne).trans (hsound.kept other found hgrant hunpaid hunfreed)
  · intro other otherTx hbroadcast
    rcases List.mem_cons.mp hbroadcast with heq | hbroadcast
    · cases heq
      exact ⟨lookup_deallocate_self _, script, sats, hrecipients, hsound.backed _ sats hlookup⟩
    · obtain ⟨hnone, hpaid⟩ := hsound.paid other otherTx hbroadcast
      exact ⟨lookup_deallocate_none hnone, hpaid⟩
  · intro other hfreed
    obtain ⟨hnone, hgrant⟩ := hsound.spent other hfreed
    exact ⟨lookup_deallocate_none hnone, hgrant⟩

/-- Serving a request keeps the purse sound, as long as a new id is fresh. -/
theorem Sound.serve (hsound : purse.Sound) {request : PurseRequest}
    (hdraws : purse.DrawsFresh answers request) : (purse.serve answers request).2.Sound := by
  by_cases hreadOnly : request.readOnly = true
  · exact (serve_readOnly hreadOnly).sound hsound
  by_cases hserving : purse.status = .serving
  · cases request with
    | allocateFunds sats =>
        rw [serve_allocateFunds hserving]
        split
        next => exact hsound.congr (fun _ => rfl) rfl rfl rfl
        next => exact hsound
        next => exact hsound.allocate (hdraws sats rfl) sats
    | freeFunds fundsId =>
        rw [serve_freeFunds hserving]
        split
        next hsome =>
          obtain ⟨sats, hlookup⟩ := Option.isSome_iff_exists.mp hsome
          exact hsound.free hlookup
        next hnone =>
          rw [Option.not_isSome_iff_eq_none] at hnone
          exact hsound.congr (lookup_deallocate_of_none hnone) rfl rfl rfl
    | sendFunds fundsId address =>
        rw [serve_sendFunds hserving]
        split
        next => exact hsound
        next sats hlookup =>
          split
          next => exact hsound
          next tx hpay => exact hsound.pay hlookup (WalletAnswers.pay_recipients hpay)
    | _ => exact absurd rfl hreadOnly
  · rw [serve_of_not_serving hserving]
    exact hsound

/-- The network of the purse is fixed when it is opened. -/
theorem network_serve (request : PurseRequest) :
    (purse.serve answers request).2.actor.data.network = purse.actor.data.network := by
  by_cases hreadOnly : request.readOnly = true
  · exact (serve_readOnly hreadOnly).network
  by_cases hserving : purse.status = .serving
  · cases request with
    | allocateFunds sats =>
        rw [serve_allocateFunds hserving]
        split <;> rfl
    | freeFunds fundsId =>
        rw [serve_freeFunds hserving]
        split <;> rfl
    | sendFunds fundsId address =>
        rw [serve_sendFunds hserving]
        split
        next => rfl
        next => split <;> rfl
    | _ => exact absurd rfl hreadOnly
  · rw [serve_of_not_serving hserving]

end Purse

end FatCrabTrading
