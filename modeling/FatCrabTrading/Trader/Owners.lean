import FatCrabTrading.Trader.Reservations

/-! # The table of the purse, as its owners know it

The purse knows ids and sats only. What it has allocated is still exactly what the Buy makers,
the Sell takers and the application's withdrawals were granted, and have neither paid nor freed:
no request of somebody else touches a reservation, and no shutdown of the purse. This holds of
a withdrawal that was refused its payment as well, though nobody is left to free its funds.
-/

namespace FatCrabTrading

open Effect Program

section Owners

variable [Bitcoin]

/-- A new grant is the allocation just requested. -/
theorem Purse.granted_cases_of_serve {answers : WalletAnswers} {request : PurseRequest}
    {reply : Option request.Reply} {purse after : Purse} {fundsId : Uuid} {sats : ℕ}
    (hserve : purse.serve answers request = (reply, after))
    (hgrant : (fundsId, sats) ∈ after.granted) : (fundsId, sats) ∈ purse.granted ∨
      (⟨request, reply⟩ : Asked) = ⟨.allocateFunds sats, some (.ok fundsId)⟩ := by
  obtain rfl := congrArg Prod.fst hserve
  obtain rfl := congrArg Prod.snd hserve
  cases request with
  | allocateFunds asked =>
      rcases @serve_allocateFunds_cases _ answers purse asked with ⟨hreply, hnew⟩ | ⟨-, hsame⟩
      · rw [hnew] at hgrant
        rcases List.mem_cons.mp hgrant with heq | hold
        · cases heq
          right
          rw [hreply]
        · exact .inl hold
      · rw [hsame] at hgrant
        exact .inl hgrant
  | _ =>
      rw [granted_serve] at hgrant
      · exact .inl hgrant
      · exact nofun

namespace Agent

/-- The agent was answered that the funds of this id are paid, or that they are free. -/
def LetGo (fundsId : Uuid) (agent : Agent) : Prop :=
  (∃ address txid, agent.Made (.purse (.sendFunds fundsId address)) (some (.ok txid))) ∨
    agent.Made (.purse (.freeFunds fundsId)) (some (.ok ()))

section Kept

variable {network : Network} {agent : Agent} {fundsId : Uuid} {sats : ℕ}

/-- Whoever frees an id owns it. -/
theorem Kept.owns_of_freed (hkept : agent.Kept network) {reply : Option (Except FatCrabError Unit)}
    (hmade : agent.Made (.purse (.freeFunds fundsId)) reply) : ∃ sats, agent.Owns fundsId sats := by
  cases agent with
  | vacant => exact hmade.elim
  | maker actor =>
      obtain ⟨store, hentry⟩ := hmade
      obtain ⟨later, past, hhistory⟩ := List.append_of_mem hentry
      rcases hkept with ⟨terms, -, hkept, -⟩ | ⟨terms, -, ⟨haudited, -⟩, -⟩
      · have haudited := hkept.1
        rw [hhistory] at haudited
        exact ⟨_, (owns_buyMaker hkept).mpr ⟨haudited.split.symm, rfl⟩⟩
      · rw [hhistory] at haudited
        exact haudited.split.elim
  | taker actor =>
      obtain ⟨store, hentry⟩ := hmade
      obtain ⟨later, past, hhistory⟩ := List.append_of_mem hentry
      rcases hkept with ⟨terms, -, ⟨haudited, -⟩, -⟩ | ⟨terms, -, hkept, -⟩
      · rw [hhistory] at haudited
        exact haudited.split.elim
      · have haudited := hkept.1
        rw [hhistory] at haudited
        exact ⟨_, (owns_sellTaker hkept).mpr ⟨haudited.split.symm, rfl⟩⟩
  | wallet actor =>
      obtain ⟨store, hentry⟩ := hmade
      obtain ⟨later, past, hhistory⟩ := List.append_of_mem hentry
      have haudited := hkept.1
      rw [WalletClient.Kept, hhistory] at haudited
      exact haudited.split.elim

/-- Only a withdrawal asks for an allocation while its task runs, and it owns the answer. -/
theorem Kept.owns_of_allocated (hkept : agent.Kept network)
    (hmade : agent.Made (.purse (.allocateFunds sats)) (some (.ok fundsId))) :
    agent.Owns fundsId sats := by
  cases agent with
  | vacant => exact hmade.elim
  | maker actor =>
      obtain ⟨store, hentry⟩ := hmade
      obtain ⟨later, past, hhistory⟩ := List.append_of_mem hentry
      rcases hkept with ⟨terms, -, ⟨haudited, -⟩, -⟩ | ⟨terms, -, ⟨haudited, -⟩, -⟩ <;>
        rw [hhistory] at haudited <;>
        exact haudited.split.elim
  | taker actor =>
      obtain ⟨store, hentry⟩ := hmade
      obtain ⟨later, past, hhistory⟩ := List.append_of_mem hentry
      rcases hkept with ⟨terms, -, ⟨haudited, -⟩, -⟩ | ⟨terms, -, ⟨haudited, -⟩, -⟩ <;>
        rw [hhistory] at haudited <;>
        exact haudited.split.elim
  | wallet actor => exact hmade

end Kept

end Agent

namespace Trader

variable {trader next : Trader}

/-! ## Every grant has an owner -/

section Creation

variable {order : FatCrabOrder} {orderEnvelope : FatCrabOrderEnvelope}
  {fatcrabRxAddr : Option String} {answers : WalletAnswers} {around : Surroundings}
  {fundsId : Uuid} {sats : ℕ}

/-- What was granted while a maker was created is the maker's. -/
theorem granted_createMaker (hgrant : (fundsId, sats) ∈
      (trader.createMaker order fatcrabRxAddr answers around).environment.purse.granted) :
    (fundsId, sats) ∈ trader.purse.granted ∨
      (startMaker (trader.createMaker order fatcrabRxAddr answers around).outcome).Owns
        fundsId sats := by
  cases htype : order.orderType with
  | buy =>
      cases fatcrabRxAddr with
      | none =>
          left
          simpa [createMaker, FatCrabMakerActor.new, htype] using hgrant
      | some address =>
          rcases hserve : trader.purse.serve answers (.allocateFunds order.sats) with
            ⟨_ | error | granted, after⟩
          all_goals
            have hafter : (fundsId, sats) ∈ after.granted := by
              simpa [createMaker, FatCrabMakerActor.new, FatCrabMakerBuyActor.new, htype, hserve]
                using hgrant
            refine (Purse.granted_cases_of_serve hserve hafter).imp_right fun hasked => ?_
            cases hasked
          -- the maker is created with the id that was granted
          simp [createMaker, FatCrabMakerActor.new, FatCrabMakerBuyActor.new, htype, hserve,
            startMaker, Agent.Owns, Actor.launch, FatCrabMakerBuyData.new]
  | sell =>
      rcases hserve : trader.purse.serve answers .getRxAddress with ⟨_ | error | address, after⟩
      all_goals
        have hafter : (fundsId, sats) ∈ after.granted := by
          simpa [createMaker, FatCrabMakerActor.new, FatCrabMakerSellActor.new, htype, hserve]
            using hgrant
        refine (Purse.granted_cases_of_serve hserve hafter).imp_right fun hasked => ?_
        cases hasked

theorem granted_createTaker (hgrant : (fundsId, sats) ∈
      (trader.createTaker orderEnvelope fatcrabRxAddr answers around).environment.purse.granted) :
    (fundsId, sats) ∈ trader.purse.granted ∨
      (startTaker (trader.createTaker orderEnvelope fatcrabRxAddr answers around).outcome).Owns
        fundsId sats := by
  cases htype : orderEnvelope.order.orderType with
  | sell =>
      cases fatcrabRxAddr with
      | none =>
          left
          simpa [createTaker, FatCrabTakerActor.new, htype] using hgrant
      | some address =>
          rcases hserve : trader.purse.serve answers (.allocateFunds orderEnvelope.order.sats) with
            ⟨_ | error | granted, after⟩
          all_goals
            have hafter : (fundsId, sats) ∈ after.granted := by
              simpa [createTaker, FatCrabTakerActor.new, FatCrabTakerSellActor.new, htype, hserve]
                using hgrant
            refine (Purse.granted_cases_of_serve hserve hafter).imp_right fun hasked => ?_
            cases hasked
          simp [createTaker, FatCrabTakerActor.new, FatCrabTakerSellActor.new, htype, hserve,
            startTaker, Agent.Owns, Actor.launch, FatCrabTakerSellData.new]
  | buy =>
      rcases hserve : trader.purse.serve answers .getRxAddress with ⟨_ | error | address, after⟩
      all_goals
        have hafter : (fundsId, sats) ∈ after.granted := by
          simpa [createTaker, FatCrabTakerActor.new, FatCrabTakerBuyActor.new, htype, hserve]
            using hgrant
        refine (Purse.granted_cases_of_serve hserve hafter).imp_right fun hasked => ?_
        cases hasked

end Creation

section Step

variable {fundsId : Uuid} {sats : ℕ}

/-- A request that a step makes grants an id only as its answer. -/
theorem granted_of_answers {before after : Purse} {move : Move}
    (hanswers : before.Answers move after) (hgrant : (fundsId, sats) ∈ after.granted) :
    (fundsId, sats) ∈ before.granted ∨
      move = .call (.purse (.allocateFunds sats)) (some (.ok fundsId)) := by
  cases move with
  | other =>
      obtain rfl := hanswers
      exact .inl hgrant
  | call c reply =>
      cases c with
      | purse request =>
          obtain ⟨answers, -, hserve⟩ := hanswers
          refine (Purse.granted_cases_of_serve hserve hgrant).imp_right fun hasked => ?_
          cases hasked
          rfl
      | n3xb request | notify notifTx notif | respond rsp | terminate =>
          obtain rfl := hanswers
          exact .inl hgrant

/-- Whatever is granted in a step, some agent owns it after the step. -/
theorem Step.granted (hround : Bitcoin.RoundTrip) (hconsistent : trader.Consistent)
    (hstep : Step trader next) (hgrant : (fundsId, sats) ∈ next.purse.granted) :
    (fundsId, sats) ∈ trader.purse.granted ∨ ∃ slot, (next.agents slot).Owns fundsId sats := by
  cases hstep with
  | @act slot move agent purse hstep hanswers =>
      refine (granted_of_answers hanswers hgrant).imp_right fun hmove => ⟨slot, ?_⟩
      dsimp only
      rw [Function.update_self]
      have hkept := hstep.kept hround (hconsistent.kept slot)
      exact hkept.owns_of_allocated (hstep.made_iff.mpr (.inr hmove))
  | @newMaker slot _ _ _ _ _ hvacant hfresh hresult =>
      subst hresult
      refine (granted_createMaker hgrant).imp_right fun howns => ⟨slot, ?_⟩
      dsimp only
      rw [Function.update_self]
      exact howns
  | @newTaker slot _ _ _ _ _ hvacant hfresh hresult =>
      subst hresult
      refine (granted_createTaker hgrant).imp_right fun howns => ⟨slot, ?_⟩
      dsimp only
      rw [Function.update_self]
      exact howns
  | newWallet hvacant => exact .inl hgrant
  | abandon => exact .inl hgrant
  | reopen height hended => exact .inl hgrant

/-- Every grant has an owner, and what an agent was told is free is free. -/
structure Owned (trader : Trader) : Prop where
  owner : ∀ fundsId sats, (fundsId, sats) ∈ trader.purse.granted →
    ∃ slot, (trader.agents slot).Owns fundsId sats
  freed : ∀ slot fundsId,
    (trader.agents slot).Made (.purse (.freeFunds fundsId)) (some (.ok ())) →
      fundsId ∈ trader.purse.freed

theorem owned_new (overflowChecks : Bool) (network : Network) (height : ℕ) :
    (new overflowChecks network height).Owned :=
  ⟨nofun, fun _ _ => False.elim⟩

theorem Owned.step (hround : Bitcoin.RoundTrip) (hconsistent : trader.Consistent)
    (howned : trader.Owned) (hstep : Step trader next) : next.Owned := by
  have hextends := hstep.extends_purse hround hconsistent
  refine ⟨fun fundsId sats hgrant => ?_, fun slot fundsId hmade => ?_⟩
  · rcases hstep.granted hround hconsistent hgrant with hold | hnew
    · obtain ⟨slot, howns⟩ := howned.owner fundsId sats hold
      exact ⟨slot, hstep.owns_of_owns hround hconsistent howns⟩
    · exact hnew
  · rcases hstep.at_slot slot with hsame | ⟨move, hmove, hanswers⟩ | ⟨-, -, -, hunused⟩
    · rw [hsame] at hmade
      exact hextends.freed fundsId (howned.freed slot fundsId hmade)
    · rcases hmove.made_iff.mp hmade with hold | rfl
      · exact hextends.freed fundsId (howned.freed slot fundsId hold)
      · obtain ⟨answers, -, hserve⟩ := hanswers
        exact Purse.serve_freeFunds_ok hserve
    · exact absurd hmade (hunused _ _)

theorem Reachable.owned (hround : Bitcoin.RoundTrip) (hreachable : trader.Reachable) :
    trader.Consistent ∧ trader.Owned := by
  obtain ⟨overflowChecks, network, height, hsteps⟩ := hreachable
  induction hsteps with
  | refl => exact ⟨consistent_new _ _ _, owned_new _ _ _⟩
  | tail _ hstep ih => exact ⟨ih.1.step hround hstep, ih.2.step hround ih.1 hstep⟩

end Step

/-! ## What is still reserved -/

variable {fundsId : Uuid} {sats : ℕ}

/-- An id that its owner has let go is not in the table. -/
theorem Owned.lookup_of_letGo (howned : trader.Owned) (hconsistent : trader.Consistent)
    {slot : ℕ} (hgone : (trader.agents slot).LetGo fundsId) :
    trader.purse.lookup fundsId = none := by
  rcases hgone with ⟨address, txid, hsent⟩ | hfreed
  · obtain ⟨tx, -, hbroadcast, -⟩ := hconsistent.sent slot fundsId address txid hsent
    exact (hconsistent.sound.paid fundsId tx hbroadcast).1
  · exact (hconsistent.sound.spent fundsId (howned.freed slot fundsId hfreed)).1

/-- An id that its owner has not let go is in the table: only the owner could have paid from
it or freed it. -/
theorem Consistent.lookup_of_owns (hconsistent : trader.Consistent) {slot : ℕ}
    (howns : (trader.agents slot).Owns fundsId sats)
    (hkeeps : ¬(trader.agents slot).LetGo fundsId) : trader.purse.lookup fundsId = some sats := by
  apply hconsistent.sound.kept fundsId sats (hconsistent.granted slot fundsId sats howns)
  · intro hpaid
    obtain ⟨⟨_, tx⟩, hbroadcast, rfl⟩ := List.mem_map.mp hpaid
    obtain ⟨other, address, _, hmade, -⟩ := hconsistent.caused _ tx hbroadcast
    obtain ⟨paid, howns'⟩ := (hconsistent.kept other).owns_of_sent hmade
    obtain rfl := hconsistent.apart other slot _ _ _ howns' howns
    exact hkeeps (.inl ⟨address, tx.txid, hmade⟩)
  · intro hfreed
    obtain ⟨other, hmade⟩ := hconsistent.freed fundsId hfreed
    obtain ⟨_, howns'⟩ := (hconsistent.kept other).owns_of_freed hmade
    obtain rfl := hconsistent.apart other slot _ _ _ howns' howns
    exact hkeeps (.inr hmade)

/-- Whoever frees an id that it has not let go finds it in the table. -/
theorem Consistent.lookup_of_frees (hround : Bitcoin.RoundTrip) (hconsistent : trader.Consistent)
    {slot : ℕ} {move : Move} {agent : Agent} (hstep : (trader.agents slot).Step move agent)
    {reply : Option (Except FatCrabError Unit)}
    (hmove : move = .call (.purse (.freeFunds fundsId)) reply)
    (hkeeps : ¬(trader.agents slot).LetGo fundsId) : trader.purse.lookup fundsId ≠ none := by
  have hkept := hconsistent.kept slot
  have hmade : agent.Made (.purse (.freeFunds fundsId)) reply := hstep.made_iff.mpr (.inr hmove)
  obtain ⟨sats, howns⟩ := (hstep.kept hround hkept).owns_of_freed hmade
  rcases hstep.owns hround hkept howns with hold | hallocated
  · rw [hconsistent.lookup_of_owns hold hkeeps]
    exact Option.some_ne_none sats
  · cases hmove.symm.trans hallocated

/-- In every reachable state the purse has allocated exactly what its owners have not let go:
each entry of the table is the reservation of one maker, taker or withdrawal. -/
theorem reserved_iff (hround : Bitcoin.RoundTrip) (hreachable : trader.Reachable) :
    trader.purse.lookup fundsId = some sats ↔
      ∃ slot, (trader.agents slot).Owns fundsId sats ∧
        ¬(trader.agents slot).LetGo fundsId ∧
        ∀ other, (∃ sats, (trader.agents other).Owns fundsId sats) → other = slot := by
  obtain ⟨hconsistent, howned⟩ := hreachable.owned hround
  constructor
  · intro hlookup
    obtain ⟨slot, howns⟩ := howned.owner fundsId sats (hconsistent.sound.backed _ _ hlookup)
    refine ⟨slot, howns, fun hgone => ?_, fun other hother => ?_⟩
    · cases hlookup.symm.trans (howned.lookup_of_letGo hconsistent hgone)
    · obtain ⟨_, hother⟩ := hother
      exact hconsistent.apart other slot _ _ _ hother howns
  · intro hreserved
    obtain ⟨slot, howns, hkeeps, -⟩ := hreserved
    exact hconsistent.lookup_of_owns howns hkeeps

end Trader

end Owners

section Sample

open scoped Sample

/-- The Buy maker of `Sample.unpaid` has completed its trade, and its sats are still its own. -/
theorem Trader.reserved_iff_unpaid : ∃ slot, (Sample.unpaid.agents slot).Owns ⟨1⟩ 50 ∧
    ¬(Sample.unpaid.agents slot).LetGo ⟨1⟩ ∧
    ∀ other, (∃ sats, (Sample.unpaid.agents other).Owns ⟨1⟩ sats) → other = slot := by
  have hreachable : Sample.unpaid.Reachable := (reachable_new true .regtest 100).play _
  exact (reserved_iff Sample.roundTrip hreachable).mp (by decide +kernel)

end Sample

end FatCrabTrading
