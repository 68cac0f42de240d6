import FatCrabTrading.Effect.Actor

/-! # What an actor takes in

A message adds to a part of the store, or leaves it, and it may be owed a call that its
handler makes before the actor takes the next one. If every handler does so, the part can be
read off the messages alone.
-/

namespace Effect

open Program

variable {σ Msg τ α : Type} {I : Interface}

def Entry.isCall : Entry σ Msg I → Bool
  | .called _ _ _ => true
  | .received _ _ => false

/-- Among what was observed since a message, a call that settles it comes before the next. -/
def History.Settled (settles : Entry σ Msg I → Bool) (later : History σ Msg I) : Prop :=
  ∃ rest entry turn, later = rest ++ entry :: turn ∧ settles entry = true ∧
    ∀ call ∈ turn, call.isCall = true

theorem History.Settled.cons {settles : Entry σ Msg I → Bool} {later : History σ Msg I}
    (hsettled : Settled settles later) (entry : Entry σ Msg I) :
    Settled settles (entry :: later) := by
  obtain ⟨rest, settling, turn, rfl, hsettles, hturn⟩ := hsettled
  exact ⟨entry :: rest, settling, turn, rfl, hsettles, hturn⟩

/-- The part of a store that messages add to, what each of them adds, and the calls that
settle what it is owed. -/
structure Intake (σ Msg : Type) (I : Interface) (τ : Type) where
  view : σ → τ
  take : Msg → σ → τ → τ
  due : Msg → σ → Option (Entry σ Msg I → Bool)

namespace Intake

variable (intake : Intake σ Msg I τ)

/-- What all the messages so far come to. -/
def total (start : τ) : History σ Msg I → τ
  | [] => start
  | .received message store :: past => intake.take message store (total start past)
  | .called _ _ _ :: past => total start past

/-- What the last message is still owed. -/
def owing : History σ Msg I → Option (Entry σ Msg I → Bool)
  | [] => none
  | .received message store :: _ => intake.due message store
  | .called c reply store :: past =>
      (owing past).filter fun settles => !settles (.called c reply store)

/-- No message was taken while the one before it was owed anything. -/
def Prompt : History σ Msg I → Prop
  | [] => True
  | .received _ _ :: past => intake.owing past = none ∧ Prompt past
  | .called _ _ _ :: past => Prompt past

@[simp] theorem total_received (start : τ) (message : Msg) (store : σ) (past : History σ Msg I) :
    intake.total start (.received message store :: past) =
      intake.take message store (intake.total start past) := rfl

@[simp] theorem total_called (start : τ) (c : I.Call) (reply : I.Reply c) (store : σ)
    (past : History σ Msg I) :
    intake.total start (.called c reply store :: past) = intake.total start past := rfl

@[simp] theorem owing_received (message : Msg) (store : σ) (past : History σ Msg I) :
    intake.owing (.received message store :: past) = intake.due message store := rfl

@[simp] theorem owing_called (c : I.Call) (reply : I.Reply c) (store : σ)
    (past : History σ Msg I) :
    intake.owing (.called c reply store :: past) =
      (intake.owing past).filter fun settles => !settles (.called c reply store) := rfl

@[simp] theorem prompt_received (message : Msg) (store : σ) (past : History σ Msg I) :
    intake.Prompt (.received message store :: past) ↔
      intake.owing past = none ∧ intake.Prompt past := Iff.rfl

@[simp] theorem prompt_called (c : I.Call) (reply : I.Reply c) (store : σ)
    (past : History σ Msg I) :
    intake.Prompt (.called c reply store :: past) ↔ intake.Prompt past := Iff.rfl

/-- The store has what came in, in full, and every message had its due. -/
structure Balanced (start : τ) (history : History σ Msg I) (store : σ) : Prop where
  view : intake.view store = intake.total start history
  settled : intake.owing history = none
  prompt : intake.Prompt history

/-- All that came in is there, and each message was settled in its turn. -/
structure Complete (start : τ) (history : History σ Msg I) (store : σ) : Prop where
  view : intake.view store = intake.total start history
  settled : ∀ later message before past, history = later ++ .received message before :: past →
    ∀ settles ∈ intake.due message before, History.Settled settles later

/-- A program that serves a message as it should. -/
def Serves (program : Program σ I α) (message : Msg) (history : History σ Msg I) (store : σ) :
    Prop :=
  program.Safe (fun _ _ => True) (fun _ _ => True)
    (fun history after _ => intake.view after = intake.take message store (intake.view store) ∧
      intake.owing history = none) (.received message store :: history) store

/-- Every handler serves its message, and nothing else touches what was taken in. -/
structure Fits (code : Behaviour σ Msg I) : Prop where
  start : code.start.Only (fun before after => intake.view after = intake.view before) fun _ => True
  handle : ∀ message history store, intake.Serves (code.handle message) message history store
  restore : ∀ store, intake.view (code.restore store) = intake.view store

variable {intake}

/-- A message was settled, or its turn goes on and it is still owed what it was. -/
theorem settled_or_owing {later past : History σ Msg I} {message : Msg} {before : σ}
    {settles : Entry σ Msg I → Bool} (hdue : intake.due message before = some settles)
    (hprompt : intake.Prompt (later ++ .received message before :: past)) :
    History.Settled settles later ∨
      intake.owing (later ++ .received message before :: past) = some settles ∧
        ∀ call ∈ later, call.isCall = true := by
  induction later with
  | nil => exact .inr ⟨hdue, List.forall_mem_nil _⟩
  | cons entry later ih =>
      cases entry with
      | received next store =>
          obtain ⟨hnone, hprompt⟩ := hprompt
          rcases ih hprompt with hsettled | ⟨howing, -⟩
          · exact .inl (hsettled.cons _)
          · cases hnone.symm.trans howing
      | called c reply store =>
          rcases ih hprompt with hsettled | ⟨howing, hturn⟩
          · exact .inl (hsettled.cons _)
          cases hentry : settles (.called c reply store) with
          | true => exact .inl ⟨[], _, later, rfl, hentry, hturn⟩
          | false =>
              refine .inr ⟨?_, List.forall_mem_cons.mpr ⟨rfl, hturn⟩⟩
              rw [List.cons_append, owing_called, howing]
              simp [hentry]

theorem Balanced.complete {start : τ} {history : History σ Msg I} {store : σ}
    (hbalanced : intake.Balanced start history store) : intake.Complete start history store := by
  obtain ⟨hview, hsettled, hprompt⟩ := hbalanced
  refine ⟨hview, ?_⟩
  rintro later message before past rfl settles hdue
  rcases settled_or_owing hdue hprompt with hdone | ⟨howing, -⟩
  · exact hdone
  · cases hsettled.symm.trans howing

/-- A program that touches nothing of the part serves what adds nothing and is owed nothing. -/
theorem serves_of_only {program : Program σ I α} {message : Msg} {history : History σ Msg I}
    {store : σ}
    (honly : program.Only
      (fun before after => intake.view after = intake.view before) fun _ => True)
    (htake : intake.take message store (intake.view store) = intake.view store)
    (hdue : intake.due message store = none) : intake.Serves program message history store := by
  unfold Serves
  rw [htake]
  refine honly.safe (fun _ _ _ => trivial) (fun _ _ _ h => h) ?_ ?_ ⟨rfl, hdue⟩
  · rintro past before after ⟨hview, howing⟩ hsame
    exact ⟨hsame.trans hview, howing⟩
  · rintro past later c reply ⟨hview, howing⟩ -
    exact ⟨hview, by simp [howing]⟩

variable (intake) in
/-- Calls are no messages: they change neither what came in nor what was owing before. -/
theorem safe_counting {program : Program σ I α} {post : History σ Msg I → σ → α → Prop}
    {history : History σ Msg I} {store : σ} (start : τ)
    (hsafe : program.Safe (fun _ _ => True) (fun _ _ => True) post history store) :
    program.Safe (fun _ _ => True) (fun _ _ => True) (fun later after value =>
      post later after value ∧ intake.total start later = intake.total start history ∧
        (intake.Prompt later ↔ intake.Prompt history)) history store := by
  induction program generalizing history store with
  | pure value => exact ⟨hsafe, rfl, Iff.rfl⟩
  | panic => trivial
  | get next ih => exact ih store hsafe
  | modify f next ih => exact ⟨trivial, ih hsafe.2⟩
  | call c next ih =>
      intro reply _
      exact ⟨trivial, ih reply (hsafe reply trivial).2⟩

variable {code : Behaviour σ Msg I} {start : τ}

/-- A program that touches nothing of the part, and serves no message, changes no balance. -/
theorem Balanced.safe {program : Program σ I α} {history : History σ Msg I} {store : σ}
    (hbalanced : intake.Balanced start history store)
    (honly : program.Only
      (fun before after => intake.view after = intake.view before) fun _ => True) :
    program.Safe (fun _ _ => True) (fun _ _ => True)
      (fun history store _ => intake.Balanced start history store) history store := by
  refine honly.safe (fun _ _ _ => trivial) (fun _ _ _ h => h) ?_ ?_ hbalanced
  · rintro past before after ⟨hbefore, hsettled, hprompt⟩ hsame
    exact ⟨hsame.trans hbefore, hsettled, hprompt⟩
  · rintro past after c reply ⟨hafter, hsettled, hprompt⟩ -
    exact ⟨hafter, by simp [hsettled], hprompt⟩

/-- What is taken in, and what is owed, is balanced between two messages. -/
theorem Fits.invariant (hfits : intake.Fits code) (start : τ) :
    ActorInvariant code (fun _ _ => True) (fun _ _ => True) (intake.Balanced start) where
  receive := by
    rintro message history store ⟨hview, hsettled, hprompt⟩ -
    have hserves := safe_counting intake start (hfits.handle message history store)
    refine ⟨trivial, hserves.mono ?_⟩
    rintro later after flow ⟨⟨hafter, howing⟩, htotal, hlater⟩
    refine ⟨?_, howing, hlater.mpr ⟨hsettled, hprompt⟩⟩
    rw [hafter, htotal, hview, total_received]
  restart := by
    rintro history store ⟨hview, hsettled, hprompt⟩
    have hrestored : intake.Balanced start history (code.restore store) :=
      ⟨(hfits.restore store).trans hview, hsettled, hprompt⟩
    exact ⟨trivial, hrestored.safe hfits.start⟩

/-- Whenever no handler runs, all that came in is there and was settled. -/
theorem Fits.complete (hfits : intake.Fits code) {store : σ} {actor : Actor σ Msg I}
    (hrun : Actor.Steps code (.launch code store) actor)
    (hrests : actor.task = .idle ∨ actor.task = .ended) :
    intake.Complete (intake.view store) actor.history actor.store := by
  have hlaunched : intake.Balanced (intake.view store) [] store := ⟨rfl, rfl, trivial⟩
  have hbalanced := hrun.rests (hfits.invariant _) trivial (hlaunched.safe hfits.start) hrests
  exact hbalanced.complete

end Intake

end Effect
