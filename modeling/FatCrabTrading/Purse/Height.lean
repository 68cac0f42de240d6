import FatCrabTrading.Purse.Ledger
import FatCrabTrading.Sample

/-! # The height of the purse

The purse keeps the last known height and its wallet keeps the confirmations that it
learned in a sync. A sync request reads the height after the sync. Opening the purse reads
it before, or takes it from the file, which is written for allocations only.
-/

namespace FatCrabTrading

open Effect

section Height

variable [Bitcoin]

/-- The height that a purse opens with: the file's, else what `get_height` answers, or 0. -/
def openingHeight (file : Option PurseData) (height : Except BdkError ℕ) : ℕ :=
  match file with
  | some data => data.height
  | none => height.toOption.getD 0

omit [Bitcoin] in
/-- `PurseData::new`, with the store that is in the file. -/
def PurseData.openWith (file : Option PurseData) (network : Network) (height : ℕ) : PurseData :=
  match file with
  | some data => data
  | none => .new network height

/-- `PurseActor::new`. It panics if the file is of another network or the sync fails. -/
def PurseActor.new (overflowChecks : Bool) (network : Network) (file : Option PurseData)
    (height : Except BdkError ℕ) (synced : Except BdkError Unit) : Option PurseActor :=
  let data := PurseData.openWith file network (height.toOption.getD 0)
  if data.network = network then
    match synced with
    | .ok _ => some ⟨overflowChecks, data⟩
    | .error _ => none
  else
    none

omit [Bitcoin] in
theorem PurseActor.height_new {overflowChecks : Bool} {network : Network}
    {file : Option PurseData} {height : Except BdkError ℕ} {synced : Except BdkError Unit}
    {actor : PurseActor} (hnew : new overflowChecks network file height synced = some actor) :
    actor.data.height = openingHeight file height := by
  unfold new at hnew
  dsimp only at hnew
  split at hnew
  next hnetwork =>
    split at hnew
    next =>
      cases hnew
      cases file with
      | none => rfl
      | some data => rfl
    next => cases hnew
  next => cases hnew

/-- The requests that queue the store to be written. `set_height` does not. -/
def PurseRequest.queues : (request : PurseRequest) → request.Reply → Bool
  | .allocateFunds _, .ok _ => true
  | .freeFunds _, _ => true
  | .sendFunds _ _, .ok _ => true
  | _, _ => false

namespace Purse

variable {purse : Purse} {answers : WalletAnswers}

/-! ## What requests do to the height -/

theorem serve_syncBlockchain (hserving : purse.status = .serving) :
    purse.serve answers .syncBlockchain =
      match answers .sync, answers .getHeight with
      | .error error, _ => (some (.error (.bdk error)), purse)
      | .ok _, .error _ => (none, { purse with status := .dead })
      | .ok _, .ok height =>
          (some (.ok ()), { purse with actor.data := purse.actor.data.setHeight height }) := by
  rw [serve_of_serving hserving]
  simp only [PurseActor.handle, PurseActor.exec_syncBlockchain]
  cases answers .sync with
  | error error => rfl
  | ok =>
      cases answers .getHeight with
      | error error => rfl
      | ok height => rfl

/-- Only a sync changes the height. -/
theorem height_serve {request : PurseRequest} (hsync : request ≠ .syncBlockchain) :
    (purse.serve answers request).2.actor.data.height = purse.actor.data.height := by
  by_cases hserving : purse.status = .serving
  swap
  · rw [serve_of_not_serving hserving]
  by_cases hreadOnly : request.readOnly = true
  · rw [serve_of_serving hserving, settle_actor, handle_untouched hreadOnly hsync]
  cases request with
  | allocateFunds sats =>
      rw [serve_allocateFunds hserving]
      split <;> rfl
  | freeFunds fundsId =>
      rw [serve_freeFunds hserving]
      split <;> rfl
  | sendFunds fundsId address =>
      rw [serve_sendFunds hserving]
      split
      next => rfl
      next => split <;> rfl
  | _ => exact absurd rfl hreadOnly

/-- A confirmed transaction has a number of confirmations, unless the height is below it. -/
theorem serve_getTxConf (hserving : purse.status = .serving) {txid : Txid} {confHeight : ℕ}
    (hconfirmed : answers (.getTx txid) = .ok (some (some confHeight)))
    (hle : confHeight ≤ purse.actor.data.height) :
    (purse.serve answers (.getTxConf txid)).1 =
      some (.ok (purse.actor.data.height - confHeight + 1)) := by
  rw [serve_of_serving hserving]
  have hexec : (PurseActor.handle (.getTxConf txid)).exec (walletEnvironment answers)
      purse.actor [] =
        ⟨.done (.ok (purse.actor.data.height - confHeight + 1)), purse.actor, []⟩ := by
    simp [PurseActor.handle, PurseActor.getTxConf, hconfirmed, not_lt.mpr hle]
  rw [hexec]
  rfl

end Purse

/-! ## Runs over restarts -/

/-- The purse while it is open, its file with a request to write it, the confirmations
that its wallet knows, and the height of the chain. -/
structure PurseSession where
  purse : Option Purse
  file : Option PurseData
  queued : Bool
  known : Txid → Option ℕ
  chain : ℕ

namespace PurseSession

/-- No purse was opened yet. -/
def new (chain : ℕ) : PurseSession := ⟨none, none, false, fun _ => none, chain⟩

/-- What happens in a session. An opening comes with what the chain answered before its
sync, and with the confirmations that the sync found. -/
inductive Event where
  | opened (height : Except BdkError ℕ) (known : Txid → Option ℕ)
  | served
  | written
  | closed
  | mined

/-- A sync that is over at the height `synced` learns no confirmation above it. -/
inductive Step : PurseSession → Event → PurseSession → Prop where
  | opened {session : PurseSession} {overflowChecks : Bool} {network : Network}
      {height : Except BdkError ℕ} {known : Txid → Option ℕ} {actor : PurseActor}
      {synced chain : ℕ} (hclosed : session.purse = none)
      (hheight : ∀ number, height = .ok number → session.chain ≤ number ∧ number ≤ synced)
      (hchain : session.chain ≤ synced ∧ synced ≤ chain)
      (hactor : PurseActor.new overflowChecks network session.file height (.ok ()) = some actor)
      (hknown : ∀ txid confHeight, known txid = some confHeight → confHeight ≤ synced) :
      Step session (.opened height known)
        ⟨some ⟨actor, .serving, [], [], []⟩, session.file, true, known, chain⟩
  | served {session : PurseSession} {purse after : Purse} {answers : WalletAnswers}
      {request : PurseRequest} {reply : Option request.Reply} {known : Txid → Option ℕ}
      {synced chain : ℕ} (hpurse : session.purse = some purse)
      (hserving : purse.status = .serving) (hrequest : request ≠ .shutdown)
      (hserve : purse.serve answers request = (reply, after))
      (hwallet : ∀ txid confHeight, answers (.getTx txid) = .ok (some (some confHeight)) ↔
        session.known txid = some confHeight)
      (hheight : ∀ number, answers .getHeight = .ok number → synced ≤ number ∧ number ≤ chain)
      (hchain : session.chain ≤ synced ∧ synced ≤ chain)
      (hknown : known = session.known ∨ request = .syncBlockchain ∧ answers .sync = .ok () ∧
        ∀ txid confHeight, known txid = some confHeight →
          session.known txid = some confHeight ∨ confHeight ≤ synced) :
      Step session .served ⟨some after, session.file,
        session.queued || reply.elim false request.queues, known, chain⟩
  | written {session : PurseSession} {purse : Purse} (hpurse : session.purse = some purse)
      (hqueued : session.queued = true) :
      Step session .written { session with file := some purse.actor.data, queued := false }
  | closed {session : PurseSession} {purse after : Purse} {answers : WalletAnswers}
      (hpurse : session.purse = some purse)
      (hserve : purse.serve answers .shutdown = (some (.ok ()), after)) :
      -- `terminate` waits for a queued write
      Step session .closed ⟨none,
        if session.queued then some after.actor.data else session.file, false, fun _ => none,
        session.chain⟩
  | mined {session : PurseSession} {chain : ℕ} (hchain : session.chain ≤ chain) :
      Step session .mined { session with chain := chain }

/-- An opening whose sync finds no confirmation above the height that it starts with. -/
def Timely (session : PurseSession) : Event → Prop
  | .opened height known => ∀ txid confHeight, known txid = some confHeight →
      confHeight ≤ openingHeight session.file height
  | _ => True

/-- A step whose event is timely. -/
def TimelyStep (session next : PurseSession) : Prop :=
  ∃ event, session.Timely event ∧ Step session event next

/-- No known confirmation is above the chain, nor above the height of an open purse. -/
structure KeepsUp (session : PurseSession) : Prop where
  chain : ∀ txid confHeight, session.known txid = some confHeight → confHeight ≤ session.chain
  purse : ∀ purse, session.purse = some purse → purse.status = .serving →
    ∀ txid confHeight, session.known txid = some confHeight →
      confHeight ≤ purse.actor.data.height

variable {session next : PurseSession}

theorem keepsUp_new (chain : ℕ) : (new chain).KeepsUp := ⟨nofun, nofun⟩

/-- After a sync request the height was read last. -/
theorem height_of_sync {purse : Purse} {answers : WalletAnswers} {synced : ℕ}
    (hserving : purse.status = .serving) (hok : answers .sync = .ok ())
    (hheight : ∀ number, answers .getHeight = .ok number → synced ≤ number)
    (hafter : (purse.serve answers .syncBlockchain).2.status = .serving) :
    synced ≤ (purse.serve answers .syncBlockchain).2.actor.data.height := by
  rw [Purse.serve_syncBlockchain hserving, hok] at hafter ⊢
  cases hnumber : answers .getHeight with
  | error error =>
      rw [hnumber] at hafter
      cases hafter
  | ok number => exact hheight number hnumber

/-- A failed sync leaves the purse alone. -/
theorem serve_sync_error {purse : Purse} {answers : WalletAnswers} {error : BdkError}
    (hserving : purse.status = .serving) (herror : answers .sync = .error error) :
    (purse.serve answers .syncBlockchain).2 = purse := by
  rw [Purse.serve_syncBlockchain hserving, herror]

/-- Only a sync that went well changes the height. -/
theorem height_of_not_synced {purse : Purse} {answers : WalletAnswers} {request : PurseRequest}
    (hserving : purse.status = .serving)
    (hnot : ¬(request = .syncBlockchain ∧ answers .sync = .ok ())) :
    (purse.serve answers request).2.actor.data.height = purse.actor.data.height := by
  by_cases hrequest : request = .syncBlockchain
  · subst hrequest
    cases hreply : answers .sync with
    | ok => exact absurd ⟨rfl, hreply⟩ hnot
    | error error => rw [serve_sync_error hserving hreply]
  · exact Purse.height_serve hrequest

theorem TimelyStep.keepsUp (hstep : TimelyStep session next) (hkeeps : session.KeepsUp) :
    next.KeepsUp := by
  obtain ⟨event, htimely, hstep⟩ := hstep
  obtain ⟨hbelow, hheight⟩ := hkeeps
  cases hstep with
  | opened hclosed _ hchain hactor hknown =>
      -- the height that the opening starts with is not read from the wallet
      constructor
      · intro txid confHeight hconf
        exact (hknown txid confHeight hconf).trans hchain.2
      · intro purse hpurse _ txid confHeight hconf
        cases hpurse
        rw [PurseActor.height_new hactor]
        exact htimely txid confHeight hconf
  | @served purse after answers request reply known synced chain hpurse hserving hrequest hserve
      hwallet hnumber hchain hknown =>
      obtain rfl := congrArg Prod.snd hserve
      -- everything known is below the height at which the last sync was over
      have hsynced : ∀ txid confHeight, known txid = some confHeight → confHeight ≤ synced := by
        intro txid confHeight hconf
        rcases hknown with rfl | ⟨-, -, hlearned⟩
        · exact (hbelow txid confHeight hconf).trans hchain.1
        · rcases hlearned txid confHeight hconf with hold | hnew
          · exact (hbelow txid confHeight hold).trans hchain.1
          · exact hnew
      constructor
      · intro txid confHeight hconf
        exact (hsynced txid confHeight hconf).trans hchain.2
      · intro found hfound hafter txid confHeight hconf
        cases hfound
        by_cases hsync : request = .syncBlockchain ∧ answers .sync = .ok ()
        · obtain ⟨rfl, hok⟩ := hsync
          exact (hsynced txid confHeight hconf).trans
            (height_of_sync hserving hok (fun number h => (hnumber number h).1) hafter)
        · have hsame : known = session.known := by
            rcases hknown with hsame | ⟨rfl, hok, -⟩
            · exact hsame
            · exact absurd ⟨rfl, hok⟩ hsync
          rw [hsame] at hconf
          rw [height_of_not_synced hserving hsync]
          exact hheight purse hpurse hserving txid confHeight hconf
  | written hpurse hqueued => exact ⟨hbelow, hheight⟩
  | closed hpurse hserve => exact ⟨nofun, nofun⟩
  | mined hchain =>
      exact ⟨fun txid confHeight hconf => (hbelow txid confHeight hconf).trans hchain, hheight⟩

theorem keepsUp_of_run {chain : ℕ}
    (hrun : Relation.ReflTransGen TimelyStep (new chain) session) : session.KeepsUp := by
  induction hrun with
  | refl => exact keepsUp_new chain
  | tail _ hstep ih => exact hstep.keepsUp ih

/-- In every run whose openings are timely, over any requests, restarts and blocks, the
height of an open purse is at least that of every confirmation its wallet knows, and the
number of confirmations is what it answers. -/
theorem keeps_up {chain : ℕ} (hrun : Relation.ReflTransGen TimelyStep (new chain) session)
    {purse : Purse} (hpurse : session.purse = some purse) (hserving : purse.status = .serving)
    {txid : Txid} {confHeight : ℕ} (hknown : session.known txid = some confHeight) :
    confHeight ≤ purse.actor.data.height ∧
      ∀ answers : WalletAnswers, answers (.getTx txid) = .ok (some (some confHeight)) →
        (purse.serve answers (.getTxConf txid)).1 =
          some (.ok (purse.actor.data.height - confHeight + 1)) := by
  have hle := (keepsUp_of_run hrun).purse purse hpurse hserving txid confHeight hknown
  exact ⟨hle, fun answers hconfirmed => Purse.serve_getTxConf hserving hconfirmed hle⟩

end PurseSession

end Height

section Sample

open Sample

namespace PurseSession

/-- The wallet of a purse that knows one confirmation. -/
def knowing (confHeight : ℕ) : Txid → Option ℕ :=
  fun txid => if txid = SampleTxid.first then some confHeight else none

theorem le_of_knowing {confHeight : ℕ} {txid : Txid} {found : ℕ}
    (hknown : knowing confHeight txid = some found) : found = confHeight := by
  unfold knowing at hknown
  split at hknown
  next => exact (Option.some.inj hknown).symm
  next => cases hknown

/-- A purse that was opened at height 100. -/
def purseAt100 : Purse := ⟨⟨true, .new .regtest 100⟩, .serving, [], [], []⟩

/-- The first opening of a purse, at height 100, with what its sync found. -/
theorem opened_step {confHeight : ℕ} (hle : confHeight ≤ 100) :
    Step (new 100) (.opened (.ok 100) (knowing confHeight))
      ⟨some purseAt100, none, true, knowing confHeight, 100⟩ :=
  @Step.opened _ _ true .regtest (.ok 100) _ _ 100 100 rfl (by simp [new]) ⟨le_rfl, le_rfl⟩
    rfl (fun _ _ hknown => (le_of_knowing hknown).le.trans hle)

/-- A wallet on a node at some height, which answers for what it knows of transactions. -/
def walletAt (height : ℕ) (known : Txid → Option ℕ) : WalletAnswers
  | .getHeight => .ok height
  | .getTx txid => .ok ((known txid).map some)
  | call => Sample.wallet ⟨1⟩ call

theorem walletAt_getTx {height confHeight : ℕ} {known : Txid → Option ℕ} (txid : Txid) :
    walletAt height known (.getTx txid) = .ok (some (some confHeight)) ↔
      known txid = some confHeight := by
  simp [walletAt]

/-- One confirmation at 100 and another at 105. -/
def knowingBoth (txid : Txid) : Option ℕ := if txid = SampleTxid.first then some 100 else some 105

theorem le_of_knowingBoth {txid : Txid} {found : ℕ} (hknown : knowingBoth txid = some found) :
    found ≤ 105 := by
  unfold knowingBoth at hknown
  split at hknown <;> cases hknown <;> decide

/-- The purse that was opened at height 100, after a sync at height 105. -/
def purseAt105 : Purse := ⟨⟨true, (PurseData.new .regtest 100).setHeight 105⟩, .serving, [], [], []⟩

/-- A purse that is synced at height 105, where it finds a second confirmation, is shut down
and opens again. -/
theorem timely_reopened : Relation.ReflTransGen TimelyStep (new 100)
    ⟨some purseAt105, some purseAt105.actor.data, true, knowingBoth, 107⟩ := by
  let opened : PurseSession := ⟨some purseAt100, none, true, knowing 100, 100⟩
  let grown : PurseSession := { opened with chain := 105 }
  let synced : PurseSession := ⟨some purseAt105, none, true, knowingBoth, 105⟩
  let shut : PurseSession := ⟨none, some purseAt105.actor.data, false, fun _ => none, 105⟩
  have hopened : TimelyStep (new 100) opened :=
    ⟨.opened (.ok 100) (knowing 100), fun _ _ hknown => (le_of_knowing hknown).le,
      opened_step le_rfl⟩
  have hgrown : TimelyStep opened grown := ⟨.mined, trivial, .mined (by decide)⟩
  have hsynced : TimelyStep grown synced := by
    refine ⟨.served, trivial, ?_⟩
    refine @Step.served _ grown purseAt100 purseAt105 (walletAt 105 (knowing 100)) .syncBlockchain
      (some (.ok ())) knowingBoth 105 105 rfl rfl nofun rfl
      (fun txid _ => walletAt_getTx txid) ?_ ⟨by decide, le_rfl⟩ (.inr ⟨rfl, rfl, ?_⟩)
    · rintro number ⟨⟩
      exact ⟨le_rfl, le_rfl⟩
    · exact fun _ _ hknown => .inr (le_of_knowingBoth hknown)
  have hshut : TimelyStep synced shut := by
    let ended : Purse := { purseAt105 with status := .ended }
    have hserve : purseAt105.serve (Sample.wallet ⟨1⟩) .shutdown = (some (.ok ()), ended) := rfl
    exact ⟨.closed, trivial, @Step.closed _ synced purseAt105 ended _ rfl hserve⟩
  -- the file shows the height of the last sync
  have hreopened : TimelyStep shut _ :=
    ⟨.opened (.ok 106) knowingBoth, fun _ _ hknown => le_of_knowingBoth hknown,
      @Step.opened _ shut true .regtest (.ok 106) knowingBoth purseAt105.actor 107 107 rfl
        (by simp [shut]) ⟨by decide, le_rfl⟩ rfl
        fun _ _ hknown => (le_of_knowingBoth hknown).trans (by decide)⟩
  exact ((((Relation.ReflTransGen.single hopened).tail hgrown).tail hsynced).tail hshut).tail
    hreopened

theorem keeps_up_reopened : 105 ≤ purseAt105.actor.data.height ∧
    ∀ answers : WalletAnswers, answers (.getTx SampleTxid.second) = .ok (some (some 105)) →
      (purseAt105.serve answers (.getTxConf SampleTxid.second)).1 =
        some (.ok (purseAt105.actor.data.height - 105 + 1)) :=
  keeps_up timely_reopened rfl rfl rfl

/-- A purse is shut down at height 100. Its transaction is confirmed in the next block, and
the purse opens again with the height that is in its file. -/
theorem falls_behind : ∃ session purse, ∃ txid confHeight,
    Relation.ReflTransGen (fun before after => ∃ event, Step before event after) (new 100)
      session ∧ session.purse = some purse ∧ purse.status = .serving ∧
      session.known txid = some confHeight ∧ ¬ confHeight ≤ purse.actor.data.height := by
  let data : PurseData := .new .regtest 100
  let opened : PurseSession := ⟨some purseAt100, none, true, knowing 99, 100⟩
  let shut : PurseSession := ⟨none, some data, false, fun _ => none, 100⟩
  let reopened : PurseSession := ⟨some purseAt100, some data, true, knowing 101, 101⟩
  have hopened : Step (new 100) (.opened (.ok 100) (knowing 99)) opened :=
    opened_step (by decide)
  have hserve : purseAt100.serve (Sample.wallet ⟨1⟩) .shutdown =
      (some (.ok ()), { purseAt100 with status := .ended }) := rfl
  have hclosed : Step opened .closed shut := .closed rfl hserve
  have hmined : Step shut .mined { shut with chain := 101 } := .mined (by decide)
  have hreopened : Step { shut with chain := 101 } (.opened (.ok 101) (knowing 101)) reopened :=
    @Step.opened _ _ true .regtest (.ok 101) _ _ 101 101 rfl (by simp) ⟨le_rfl, le_rfl⟩ rfl
      (fun _ _ hknown => (le_of_knowing hknown).le)
  refine ⟨reopened, _, SampleTxid.first, 101, ?_, rfl, rfl, rfl, by decide⟩
  exact .tail (.tail (.tail (.single ⟨_, hopened⟩) ⟨_, hclosed⟩) ⟨_, hmined⟩) ⟨_, hreopened⟩

end PurseSession

end Sample

end FatCrabTrading
