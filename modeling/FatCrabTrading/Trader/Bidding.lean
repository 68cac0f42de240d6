import FatCrabTrading.Maker.Lifecycle
import FatCrabTrading.Trader.Settlement

/-! # Many takers of one order

A Sell order may be taken by any number of traders, each of whom allocates what it would have
to pay. The maker picks one offer. Whatever the channel does to the messages, no more takers
pay than offers were accepted, and whoever pays was accepted and pays the maker.
-/

namespace FatCrabTrading

open Effect

section Bidding

variable [Bitcoin]

/-- n3xB brings an acceptance to the taker whose offer it names. -/
def TradeMessage.Reaches (offerId : String) : TradeMessage → Prop
  | .peer _ => True
  | .acceptance response => response.offerEventId = offerId

instance (offerId : String) (message : TradeMessage) : Decidable (message.Reaches offerId) := by
  unfold TradeMessage.Reaches
  split <;> infer_instance

/-- The trader of a maker, and those of the takers of its order. -/
structure Bidding (ι : Type) where
  maker : Trader
  takers : ι → Trader

namespace Bidding

variable {ι : Type}

/-- Where the parties stand in their traders, and the event ids of the takers' offers. -/
structure Seats (ι : Type) where
  maker : ℕ
  taker : ι → ℕ
  offerId : ι → String
  distinct : Function.Injective offerId

def makerAgent (bidding : Bidding ι) (seats : Seats ι) : Agent :=
  bidding.maker.agents seats.maker

def takerAgent (bidding : Bidding ι) (seats : Seats ι) (bidder : ι) : Agent :=
  (bidding.takers bidder).agents (seats.taker bidder)

variable [DecidableEq ι]

/-- One step of the maker's trader or of a taker's. What a party hears in the step was sent
to it before. -/
inductive Step (seats : Seats ι) : Bidding ι → Bidding ι → Prop where
  | maker {bidding : Bidding ι} {next} (hstep : bidding.maker.Step next)
      (hchannel : ∀ message ∈ (next.agents seats.maker).heard,
        message ∈ (bidding.makerAgent seats).heard ∨
          ∃ bidder, message ∈ (bidding.takerAgent seats bidder).sent) :
      Step seats bidding { bidding with maker := next }
  | taker (bidder : ι) {bidding : Bidding ι} {next} (hstep : (bidding.takers bidder).Step next)
      (hchannel : ∀ message ∈ (next.agents (seats.taker bidder)).heard,
        message ∈ (bidding.takerAgent seats bidder).heard ∨
          message ∈ (bidding.makerAgent seats).sent ∧ message.Reaches (seats.offerId bidder)) :
      Step seats bidding { bidding with takers := Function.update bidding.takers bidder next }

def Steps (seats : Seats ι) : Bidding ι → Bidding ι → Prop :=
  Relation.ReflTransGen (Step seats)

/-- Traders that begin on empty directories. -/
structure Begins (bidding : Bidding ι) : Prop where
  maker : ∃ overflowChecks network height, bidding.maker = .new overflowChecks network height
  takers : ∀ bidder, ∃ overflowChecks network height,
    bidding.takers bidder = .new overflowChecks network height

def Reachable (seats : Seats ι) (bidding : Bidding ι) : Prop :=
  ∃ first : Bidding ι, first.Begins ∧ Steps seats first bidding

end Bidding

/-! ## The maker's run -/

/-- What the maker here observed. -/
def Agent.makerHistory : Agent → History FatCrabMakerActor MakerMsg tradeInterface
  | .maker actor => actor.history
  | _ => []

/-- A maker of a trader runs its code from some store on. -/
def Agent.Launched : Agent → Prop
  | .maker actor => ∃ self,
      Actor.Steps FatCrabMakerActor.code (.launch FatCrabMakerActor.code self) actor
  | _ => True

theorem Agent.Step.launched {before after : Agent} {move : Move} (hstep : before.Step move after)
    (hlaunched : before.Launched) : after.Launched := by
  cases hstep with
  | maker hstep =>
      obtain ⟨self, hrun⟩ := hlaunched
      exact ⟨self, hrun.tail ⟨_, hstep⟩⟩
  | taker hstep => trivial
  | wallet hstep => trivial

theorem Trader.Step.launched {trader next : Trader} (hstep : trader.Step next) {slot : ℕ}
    (hlaunched : (trader.agents slot).Launched) : (next.agents slot).Launched := by
  cases hstep with
  | act hstep _ => exact Agent.holds_update hstep.launched hlaunched
  | newMaker =>
      refine Agent.holds_update (fun _ => ?_) hlaunched
      unfold startMaker
      split
      next maker _ => exact ⟨maker, .refl⟩
      next => trivial
  | newTaker =>
      refine Agent.holds_update (fun _ => ?_) hlaunched
      unfold startTaker
      split <;> trivial
  | newWallet => exact Agent.holds_update (fun _ => trivial) hlaunched
  | abandon => exact hlaunched
  | reopen => exact hlaunched

namespace FatCrabMakerActor

/-- The offer that a call asks n3xB to accept. -/
def acceptedId : Entry FatCrabMakerActor MakerMsg tradeInterface → Option String
  | .called (.n3xb (.acceptOffer response)) _ _ => some response.offerEventId
  | _ => none

theorem isSome_acceptedId (entry : Entry FatCrabMakerActor MakerMsg tradeInterface) :
    (acceptedId entry).isSome = asksAccept entry := by
  cases entry with
  | received message store => rfl
  | called c reply store =>
      cases c with
      | n3xb request => cases request <;> rfl
      | _ => rfl

/-- There are as many accepted offers as there were calls to accept one. -/
theorem length_acceptedIds (history : History FatCrabMakerActor MakerMsg tradeInterface) :
    (history.filterMap acceptedId).length = asked history := by
  rw [List.length_filterMap_eq_countP]
  exact List.countP_congr fun entry _ => by rw [isSome_acceptedId]

end FatCrabMakerActor

/-- A maker whose requests keep to the order asks for one acceptance at most. -/
theorem Agent.Launched.asked_le_one {agent : Agent} (hlaunched : agent.Launched)
    (horderly : agent.makerHistory.Always FatCrabMakerActor.Orderly) :
    FatCrabMakerActor.asked agent.makerHistory ≤ 1 := by
  cases agent with
  | maker actor =>
      obtain ⟨self, hrun⟩ := hlaunched
      have hsettled : FatCrabMakerActor.Settled [] self := ⟨⟨trivial, Nat.zero_le 1⟩, fun _ => rfl⟩
      have hstart : (Actor.launch FatCrabMakerActor.code self).Holds FatCrabMakerActor.Orderly
          FatCrabMakerActor.Tidy FatCrabMakerActor.Settled :=
        ⟨hsettled.1, FatCrabMakerActor.settled_start hsettled⟩
      obtain ⟨⟨-, hasked⟩, -⟩ :=
        Actor.Steps.holds FatCrabMakerActor.settled_invariant hrun horderly hstart
      exact hasked
  | vacant | taker actor | wallet actor => exact Nat.zero_le 1

theorem Agent.mem_acceptedIds {agent : Agent} {maker : FatCrabMakerSellActor}
    (hmaker : agent.sellMaker = some maker) {response : TradeResponse}
    (hsent : .acceptance response ∈ agent.sent) :
    response.offerEventId ∈ agent.makerHistory.filterMap FatCrabMakerActor.acceptedId := by
  unfold sellMaker at hmaker
  split at hmaker
  next =>
    obtain ⟨reply, store, hentry⟩ := made_of_acceptance hsent
    exact List.mem_filterMap.mpr ⟨_, hentry, rfl⟩
  next => cases hmaker

namespace Bidding

variable {ι : Type} {seats : Seats ι} {bidding next : Bidding ι}

/-- Each trader is consistent, and what a party heard was sent to it. -/
structure Honest (seats : Seats ι) (bidding : Bidding ι) : Prop where
  maker : bidding.maker.Consistent
  takers : ∀ bidder, (bidding.takers bidder).Consistent
  launched : (bidding.makerAgent seats).Launched
  toMaker : ∀ message ∈ (bidding.makerAgent seats).heard,
    ∃ bidder, message ∈ (bidding.takerAgent seats bidder).sent
  toTaker : ∀ bidder, ∀ message ∈ (bidding.takerAgent seats bidder).heard,
    message ∈ (bidding.makerAgent seats).sent ∧ message.Reaches (seats.offerId bidder)

theorem Begins.honest (hbegins : bidding.Begins) : bidding.Honest seats := by
  obtain ⟨⟨overflowChecks, network, height, hmaker⟩, htakers⟩ := hbegins
  refine ⟨?_, fun bidder => ?_, ?_, fun message hheard => ?_, fun bidder message hheard => ?_⟩
  · rw [hmaker]
    exact Trader.consistent_new overflowChecks network height
  · obtain ⟨overflowChecks, network, height, htaker⟩ := htakers bidder
    rw [htaker]
    exact Trader.consistent_new overflowChecks network height
  · unfold makerAgent
    rw [hmaker]
    trivial
  · unfold makerAgent at hheard
    rw [hmaker] at hheard
    cases hheard
  · obtain ⟨overflowChecks, network, height, htaker⟩ := htakers bidder
    unfold takerAgent at hheard
    rw [htaker] at hheard
    cases hheard

section Runs

variable [DecidableEq ι]

theorem Step.honest (hround : Bitcoin.RoundTrip) (hstep : Step seats bidding next)
    (hhonest : bidding.Honest seats) : next.Honest seats := by
  cases hstep with
  | maker hstep hchannel =>
      refine ⟨hhonest.maker.step hround hstep, hhonest.takers, hstep.launched hhonest.launched,
        ?_, ?_⟩
      · intro message hheard
        rcases hchannel message hheard with hbefore | hsent
        · exact hhonest.toMaker message hbefore
        · exact hsent
      · intro bidder message hheard
        obtain ⟨hsent, hreaches⟩ := hhonest.toTaker bidder message hheard
        exact ⟨(hstep.remembers seats.maker).1 hsent, hreaches⟩
  | @taker moving _ after hstep hchannel =>
      refine ⟨hhonest.maker, ?_, hhonest.launched, ?_, ?_⟩
      · intro bidder
        dsimp only
        rcases eq_or_ne bidder moving with rfl | hne
        · rw [Function.update_self]
          exact (hhonest.takers bidder).step hround hstep
        · rw [Function.update_of_ne hne]
          exact hhonest.takers bidder
      · intro message hheard
        obtain ⟨bidder, hsent⟩ := hhonest.toMaker message hheard
        refine ⟨bidder, ?_⟩
        unfold takerAgent at hsent ⊢
        dsimp only
        rcases eq_or_ne bidder moving with rfl | hne
        · rw [Function.update_self]
          exact (hstep.remembers (seats.taker bidder)).1 hsent
        · rw [Function.update_of_ne hne]
          exact hsent
      · intro bidder message hheard
        unfold takerAgent at hheard
        dsimp only at hheard
        rcases eq_or_ne bidder moving with rfl | hne
        · rw [Function.update_self] at hheard
          rcases hchannel message hheard with hbefore | hsent
          · exact hhonest.toTaker bidder message hbefore
          · exact hsent
        · rw [Function.update_of_ne hne] at hheard
          exact hhonest.toTaker bidder message hheard

theorem Reachable.honest (hround : Bitcoin.RoundTrip) (hreachable : bidding.Reachable seats) :
    bidding.Honest seats := by
  obtain ⟨first, hbegins, hsteps⟩ := hreachable
  induction hsteps with
  | refl => exact hbegins.honest
  | tail _ hstep ih => exact hstep.honest hround ih

/-- A run of the maker's trader, if what it heard by the end was sent. -/
theorem steps_maker {later : Trader} (hsteps : bidding.maker.Steps later)
    (hchannel : ∀ message ∈ (later.agents seats.maker).heard,
      message ∈ (bidding.makerAgent seats).heard ∨
        ∃ bidder, message ∈ (bidding.takerAgent seats bidder).sent) :
    Steps seats bidding { bidding with maker := later } := by
  induction hsteps with
  | refl => exact .refl
  | tail hfirst hstep ih =>
      refine .tail (ih fun message hheard => ?_) (.maker hstep fun message hheard => ?_)
      · exact hchannel message ((hstep.remembers seats.maker).2 hheard)
      · exact (hchannel message hheard).imp_left (Trader.heard_of_steps hfirst)

/-- A run of a taker's trader, in the same way. -/
theorem steps_taker (bidder : ι) {later : Trader}
    (hsteps : (bidding.takers bidder).Steps later)
    (hchannel : ∀ message ∈ (later.agents (seats.taker bidder)).heard,
      message ∈ (bidding.takerAgent seats bidder).heard ∨
        message ∈ (bidding.makerAgent seats).sent ∧ message.Reaches (seats.offerId bidder)) :
    Steps seats bidding { bidding with takers := Function.update bidding.takers bidder later } := by
  induction hsteps with
  | refl =>
      rw [Function.update_eq_self]
      exact .refl
  | @tail middle last hfirst hstep ih =>
      have hbefore := ih fun message hheard =>
        hchannel message ((hstep.remembers (seats.taker bidder)).2 hheard)
      have hmoves : (Function.update bidding.takers bidder middle bidder).Step last := by
        rw [Function.update_self]
        exact hstep
      have hagain : Step seats
          { bidding with takers := Function.update bidding.takers bidder middle }
          { bidding with takers :=
              Function.update (Function.update bidding.takers bidder middle) bidder last } := by
        refine .taker bidder hmoves fun message hheard => ?_
        refine (hchannel message hheard).imp_left fun hearlier => ?_
        unfold takerAgent
        dsimp only
        rw [Function.update_self]
        exact Trader.heard_of_steps hfirst hearlier
      rw [Function.update_idem] at hagain
      exact hbefore.tail hagain

end Runs

/-! ## What a sale comes to -/

/-- A taker whose purse has paid for the order. -/
def Paid (seats : Seats ι) (bidding : Bidding ι) (bidder : ι) : Prop :=
  ∃ taker tx, (bidding.takerAgent seats bidder).sellTaker = some taker ∧
    (taker.data.btcFundsId, tx) ∈ (bidding.takers bidder).purse.broadcasts

/-- The offers that the maker asked n3xB to accept. -/
def acceptedIds (seats : Seats ι) (bidding : Bidding ι) : List String :=
  (bidding.makerAgent seats).makerHistory.filterMap FatCrabMakerActor.acceptedId

/-- Whoever stands in the place of a taker takes a Sell order. -/
def AllSell (seats : Seats ι) (bidding : Bidding ι) : Prop :=
  ∀ bidder, bidding.takerAgent seats bidder ≠ .vacant →
    (bidding.takerAgent seats bidder).sellTaker.isSome

/-- What a Sell order comes to. Every taker pays at most once, in full and to the maker's
address. Only the accepted ones pay, so there are no more payers than acceptances, and one at
most if the maker's requests keep to the order of its lifecycle. The transaction id that the
maker holds is that of a payment. -/
structure Sale (seats : Seats ι) (bidding : Bidding ι) (maker : FatCrabMakerSellActor) : Prop where
  full : ∀ bidder taker, (bidding.takerAgent seats bidder).sellTaker = some taker →
    (bidding.takers bidder).purse.Remits taker.data.btcFundsId taker.data.orderEnvelope.order.sats
      maker.data.btcRxAddr none
  accepted : ∀ bidder, bidding.Paid seats bidder →
    seats.offerId bidder ∈ bidding.acceptedIds seats
  limited : ∀ payers : List ι, payers.Nodup → (∀ bidder ∈ payers, bidding.Paid seats bidder) →
    payers.length ≤ FatCrabMakerActor.asked (bidding.makerAgent seats).makerHistory
  sole : (bidding.makerAgent seats).makerHistory.Always FatCrabMakerActor.Orderly →
    ∀ first second, bidding.Paid seats first → bidding.Paid seats second → first = second
  told : bidding.AllSell seats → ∀ txid, maker.data.peerBtcTxid = some txid →
    ∃ bidder taker, (bidding.takerAgent seats bidder).sellTaker = some taker ∧
      (bidding.takers bidder).purse.Pays taker.data.btcFundsId taker.data.orderEnvelope.order.sats
        maker.data.btcRxAddr txid

variable {maker : FatCrabMakerSellActor}

/-- The address in an acceptance that a taker read is the maker's own, and the acceptance
was meant for this taker. -/
theorem Honest.accepted (hround : Bitcoin.RoundTrip) (hhonest : bidding.Honest seats)
    (hmaker : (bidding.makerAgent seats).sellMaker = some maker) {bidder : ι} {address : Address}
    (haccepted : (bidding.takerAgent seats bidder).AcceptedAddress address) :
    Bitcoin.addressToString address = maker.data.btcRxAddr ∧
      seats.offerId bidder ∈ bidding.acceptedIds seats := by
  obtain ⟨response, text, network, hheard, hspecifics, hon⟩ := haccepted
  obtain ⟨hsent, hreaches⟩ := hhonest.toTaker bidder _ hheard
  obtain ⟨own, hown, hnamed⟩ :=
    (hhonest.maker.kept seats.maker).acceptance_of_sellMaker hround hmaker hsent
  rw [hspecifics] at hnamed
  cases hnamed
  have hread := (addressOn_eq_some.mp hon).1
  rw [hround.address] at hread
  rw [← Option.some.inj hread]
  refine ⟨hown, ?_⟩
  rw [← hreaches]
  exact Agent.mem_acceptedIds hmaker hsent

/-- A taker that has paid was accepted. -/
theorem Honest.accepted_of_paid (hround : Bitcoin.RoundTrip) (hhonest : bidding.Honest seats)
    (hmaker : (bidding.makerAgent seats).sellMaker = some maker) {bidder : ι}
    (hpaid : bidding.Paid seats bidder) : seats.offerId bidder ∈ bidding.acceptedIds seats := by
  obtain ⟨taker, tx, htaker, hbroadcast⟩ := hpaid
  obtain ⟨payer, hpayer, hfunds, -, hsupplied⟩ := Agent.payer_of_sellTaker htaker
  have hpays := (hhonest.takers bidder).paysOnce hpayer
  rw [← hfunds] at hbroadcast
  obtain ⟨address, -, -, haddress⟩ := hpays.agreed tx hbroadcast
  exact (hhonest.accepted hround hmaker (hsupplied _ _ haddress)).2

/-- The transaction that the maker holds is the payment of one of the takers. -/
theorem Honest.told (hround : Bitcoin.RoundTrip) (hhonest : bidding.Honest seats)
    (hmaker : (bidding.makerAgent seats).sellMaker = some maker) (hsellers : bidding.AllSell seats)
    {txid : Txid} (htxid : maker.data.peerBtcTxid = some txid) :
    ∃ bidder taker, (bidding.takerAgent seats bidder).sellTaker = some taker ∧
      (bidding.takers bidder).purse.Pays taker.data.btcFundsId taker.data.orderEnvelope.order.sats
        maker.data.btcRxAddr txid := by
  obtain ⟨message, hheard, hread⟩ :=
    (hhonest.maker.kept seats.maker).heard_of_sellMaker hmaker htxid
  obtain ⟨bidder, hsent⟩ := hhonest.toMaker _ hheard
  have htaken : bidding.takerAgent seats bidder ≠ .vacant := by
    intro hvacant
    rw [hvacant] at hsent
    cases hsent
  obtain ⟨taker, htaker⟩ := Option.isSome_iff_exists.mp (hsellers bidder htaken)
  obtain ⟨paid, address, hmade, haddress, hmessage⟩ :=
    ((hhonest.takers bidder).kept (seats.taker bidder)).peer_of_sellTaker htaker hsent
  cases hmessage
  rw [hround.txid] at hread
  cases hread
  refine ⟨bidder, taker, htaker, ?_⟩
  rw [← (hhonest.accepted hround hmaker haddress).1]
  exact (hhonest.takers bidder).pays (Agent.owns_of_sellTaker htaker) hmade

/-- Offers have distinct ids, so distinct payers were accepted by distinct calls. -/
theorem Honest.length_le_asked (hround : Bitcoin.RoundTrip) (hhonest : bidding.Honest seats)
    (hmaker : (bidding.makerAgent seats).sellMaker = some maker) {payers : List ι}
    (hnodup : payers.Nodup) (hpaid : ∀ bidder ∈ payers, bidding.Paid seats bidder) :
    payers.length ≤ FatCrabMakerActor.asked (bidding.makerAgent seats).makerHistory := by
  have hids : (payers.map seats.offerId).Nodup := hnodup.map seats.distinct
  have hsubset : payers.map seats.offerId ⊆ bidding.acceptedIds seats := by
    intro offerId hmem
    obtain ⟨bidder, hbidder, rfl⟩ := List.mem_map.mp hmem
    exact hhonest.accepted_of_paid hround hmaker (hpaid bidder hbidder)
  calc payers.length = (payers.map seats.offerId).length := (List.length_map _).symm
    _ ≤ (bidding.acceptedIds seats).length := (List.subperm_of_subset hids hsubset).length_le
    _ = FatCrabMakerActor.asked _ := FatCrabMakerActor.length_acceptedIds _

theorem Honest.sole (hround : Bitcoin.RoundTrip) (hhonest : bidding.Honest seats)
    (hmaker : (bidding.makerAgent seats).sellMaker = some maker)
    (horderly : (bidding.makerAgent seats).makerHistory.Always FatCrabMakerActor.Orderly)
    {first second : ι} (hfirst : bidding.Paid seats first) (hsecond : bidding.Paid seats second) :
    first = second := by
  by_contra hne
  have hpair : [first, second].Nodup := by simpa using hne
  have hpaid : ∀ bidder ∈ [first, second], bidding.Paid seats bidder := by
    intro bidder hbidder
    rcases List.mem_pair.mp hbidder with rfl | rfl
    · exact hfirst
    · exact hsecond
  have htwo : 2 ≤ FatCrabMakerActor.asked _ := hhonest.length_le_asked hround hmaker hpair hpaid
  have hone := hhonest.launched.asked_le_one horderly
  omega

/-- However many take a Sell order, whatever their users and the maker's ask for, and however
messages are delayed, reordered, lost and repeated: only accepted takers pay, each at most
once, in full and to the maker. -/
theorem sale_of_reachable [DecidableEq ι] (hround : Bitcoin.RoundTrip)
    (hreachable : bidding.Reachable seats)
    (hmaker : (bidding.makerAgent seats).sellMaker = some maker) : bidding.Sale seats maker := by
  have hhonest := hreachable.honest hround
  refine ⟨?_, fun bidder => hhonest.accepted_of_paid hround hmaker,
    fun payers => hhonest.length_le_asked hround hmaker,
    fun horderly first second => hhonest.sole hround hmaker horderly,
    fun hsellers txid => hhonest.told hround hmaker hsellers⟩
  intro bidder taker htaker
  obtain ⟨payer, hpayer, hfunds, hsats, hsupplied⟩ := Agent.payer_of_sellTaker htaker
  rw [← hfunds, ← hsats]
  refine (hhonest.takers bidder).remits hpayer (fun txid address haddress => ?_) nofun
  exact (hhonest.accepted hround hmaker (hsupplied _ _ haddress)).1

end Bidding

end Bidding

section Sold

open scoped Sample

/-- A Sell maker posts its order and accepts an offer. -/
def Sample.selling : Trader :=
  (Trader.new true .regtest 100).play [
    Sample.turn (.newMaker 0 (Sample.order .sell) none) ⟨1⟩,
    Sample.turn (.resume 0) ⟨1⟩,
    Sample.turn (.tellMaker 0 (.request .postNewOrder)) ⟨1⟩,
    Sample.turn (.tellMaker 0 (.notif (.ok (.offer Sample.offer.envelope)))) ⟨1⟩,
    Sample.turn (.tellMaker 0 (.request (.tradeResponse .accept Sample.offer))) ⟨1⟩]

/-- A Sell taker takes the order. -/
def Sample.offering : Trader :=
  (Trader.new true .regtest 100).play [
    Sample.turn (.newTaker 0 (Sample.orderEnvelope .sell) (some "npub1taker")) ⟨2⟩,
    Sample.turn (.resume 0) ⟨3⟩,
    Sample.turn (.tellTaker 0 (.request .takeOrder)) ⟨3⟩]

/-- It is accepted, and pays. -/
def Sample.remitting : Trader :=
  Sample.offering.play [
    Sample.turn (.tellTaker 0 (.notif (.ok (.tradeRsp
      ⟨"response", acceptTradeRsp Sample.offer SampleAddress.alice.text⟩)))) ⟨3⟩]

/-- The maker is told of the payment. -/
def Sample.sold : Trader :=
  Sample.selling.play [
    Sample.turn (.tellMaker 0 (.notif (.ok (.peer
      ⟨"peer", .fatCrabPeerMessage ⟨"npub1taker", SampleTxid.first.text⟩⟩)))) ⟨1⟩]

def Sample.seats : Bidding.Seats Bool where
  maker := 0
  taker _ := 0
  offerId accepted := if accepted then "offer" else "late offer"
  distinct := by
    intro first second
    cases first <;> cases second <;> simp

/-- Two took the order, and one of them was accepted. -/
def Sample.contested : Bidding Bool where
  maker := Sample.sold
  takers := Function.update (Function.update (fun _ => .new true .regtest 100) false
    Sample.offering) true Sample.remitting

theorem Sample.reachable_contested : Sample.contested.Reachable Sample.seats := by
  refine ⟨⟨.new true .regtest 100, fun _ => .new true .regtest 100⟩,
    ⟨⟨_, _, _, rfl⟩, fun _ => ⟨_, _, _, rfl⟩⟩, ?_⟩
  have hselling := @Bidding.steps_maker _ Bool Sample.seats
    ⟨.new true .regtest 100, fun _ => .new true .regtest 100⟩ _ Sample.selling
    (Trader.steps_play _) (by decide +kernel)
  have hoffering := @Bidding.steps_taker _ Bool Sample.seats
    ⟨Sample.selling, fun _ => .new true .regtest 100⟩ _ false Sample.offering
    (Trader.steps_play _) (by decide +kernel)
  have hremitting := @Bidding.steps_taker _ Bool Sample.seats
    ⟨Sample.selling, Function.update (fun _ => .new true .regtest 100) false Sample.offering⟩ _ true
    Sample.remitting ((Trader.steps_play _).trans (Trader.steps_play _)) (by decide +kernel)
  have hheard : ∀ message ∈ (Sample.sold.agents 0).heard,
      message ∈ (Sample.remitting.agents 0).sent := by decide +kernel
  have hsold := @Bidding.steps_maker _ Bool Sample.seats
    { Sample.contested with maker := Sample.selling } _ Sample.sold (Trader.steps_play _)
    fun message hmessage => .inr ⟨true, hheard message hmessage⟩
  exact ((hselling.trans hoffering).trans hremitting).trans hsold

theorem Bidding.sale_of_reachable_contested : ∃ maker,
    (Sample.contested.makerAgent Sample.seats).sellMaker = some maker ∧
    (Sample.contested.makerAgent Sample.seats).makerHistory.Always FatCrabMakerActor.Orderly ∧
    maker.data.peerBtcTxid = some SampleTxid.first ∧
    Sample.contested.acceptedIds Sample.seats = ["offer"] ∧
    (Sample.contested.takers true).purse.broadcasts.length = 1 ∧
    Sample.contested.Sale Sample.seats maker := by
  obtain ⟨maker, hmaker⟩ : ∃ maker,
      (Sample.contested.makerAgent Sample.seats).sellMaker = some maker :=
    Option.isSome_iff_exists.mp (by decide +kernel)
  have htxid : (Sample.contested.makerAgent Sample.seats).sellMaker.map (·.data.peerBtcTxid) =
      some (some SampleTxid.first) := by decide +kernel
  rw [hmaker] at htxid
  exact ⟨maker, hmaker, by decide +kernel, Option.some.inj htxid, by decide +kernel,
    by decide +kernel, sale_of_reachable Sample.roundTrip Sample.reachable_contested hmaker⟩

end Sold

end FatCrabTrading
