import FatCrabTrading.Trader.Payments

/-! # What two parties of a trade believe

A trade joins a maker of one trader and a taker of another, who know of each other only what
a channel brings. It may delay, reorder, lose and repeat what was sent, but makes nothing
up. Whoever holds a transaction id of the other side is being paid by it.
-/

namespace FatCrabTrading

open Effect

section Notices

variable [Bitcoin]

/-- What goes through the channel of a trade: messages to the peer, and acceptances of an
offer. Refusals may come from n3xB itself and bind nobody. -/
inductive TradeMessage where
  | peer (message : SerdeGeneric)
  | acceptance (response : TradeResponse)
  deriving DecidableEq

/-- The request that hands a message to n3xB. -/
def TradeMessage.request : TradeMessage → N3xbRequest
  | .peer message => .sendPeerMessage message
  | .acceptance response => .acceptOffer response

/-- What a call hands to n3xB, whatever n3xB answers. -/
def sentMessage {σ Msg : Type} : Entry σ Msg tradeInterface → Option TradeMessage
  | .called (.n3xb (.sendPeerMessage message)) _ _ => some (.peer message)
  | .called (.n3xb (.acceptOffer response)) _ _ => some (.acceptance response)
  | _ => none

/-- What n3xB brings to a maker. -/
def FatCrabMakerActor.heardMessage :
    Entry FatCrabMakerActor MakerMsg tradeInterface → Option TradeMessage
  | .received (.notif (.ok (.peer envelope))) _ => some (.peer envelope.message)
  | _ => none

/-- What n3xB brings to a taker. -/
def FatCrabTakerActor.heardMessage :
    Entry FatCrabTakerActor TakerMsg tradeInterface → Option TradeMessage
  | .received (.notif (.ok (.peer envelope))) _ => some (.peer envelope.message)
  | .received (.notif (.ok (.tradeRsp envelope))) _ =>
      if envelope.tradeRsp.tradeResponse = .accepted then
        some (.acceptance envelope.tradeRsp)
      else
        none
  | _ => none

namespace Agent

def sent : Agent → List TradeMessage
  | .vacant => []
  | .maker actor => actor.history.filterMap sentMessage
  | .taker actor => actor.history.filterMap sentMessage
  | .wallet actor => actor.history.filterMap sentMessage

def heard : Agent → List TradeMessage
  | .maker actor => actor.history.filterMap FatCrabMakerActor.heardMessage
  | .taker actor => actor.history.filterMap FatCrabTakerActor.heardMessage
  | _ => []

section Messages

variable {agent before after : Agent} {move : Move}

theorem made_of_sentMessage {σ Msg : Type} {history : History σ Msg tradeInterface}
    {message : TradeMessage} (hsent : message ∈ history.filterMap sentMessage) :
    ∃ reply, FatCrabTrading.Made (.n3xb message.request) reply history := by
  obtain ⟨entry, hentry, hmessage⟩ := List.mem_filterMap.mp hsent
  unfold sentMessage at hmessage
  split at hmessage
  next reply store =>
    cases hmessage
    exact ⟨reply, store, hentry⟩
  next reply store =>
    cases hmessage
    exact ⟨reply, store, hentry⟩
  next => cases hmessage

theorem made_of_mem_sent {message : TradeMessage} (hsent : message ∈ agent.sent) :
    ∃ reply, agent.Made (.n3xb message.request) reply := by
  cases agent with
  | vacant => cases hsent
  | maker actor | taker actor | wallet actor => exact made_of_sentMessage hsent

theorem made_of_peer {message : SerdeGeneric} (hsent : .peer message ∈ agent.sent) :
    ∃ reply, agent.Made (.n3xb (.sendPeerMessage message)) reply :=
  made_of_mem_sent hsent

theorem made_of_acceptance {response : TradeResponse}
    (hsent : .acceptance response ∈ agent.sent) :
    ∃ reply, agent.Made (.n3xb (.acceptOffer response)) reply :=
  made_of_mem_sent hsent

/-- What was observed stays observed. -/
theorem mem_of_step {σ Msg : Type} {code : Behaviour σ Msg tradeInterface}
    {first second : Actor σ Msg tradeInterface} {action : Action Msg tradeInterface}
    (hstep : Actor.Step code first action second)
    (observe : Entry σ Msg tradeInterface → Option TradeMessage) {message : TradeMessage}
    (hmessage : message ∈ first.history.filterMap observe) :
    message ∈ second.history.filterMap observe := by
  obtain ⟨entry, hentry, hobserved⟩ := List.mem_filterMap.mp hmessage
  refine List.mem_filterMap.mpr ⟨entry, ?_, hobserved⟩
  rw [hstep.history]
  cases action with
  | receive message => exact List.mem_cons_of_mem _ hentry
  | call c reply => exact List.mem_cons_of_mem _ hentry
  | silent => exact hentry

theorem Step.sent (hstep : Step before move after) {message : TradeMessage}
    (hsent : message ∈ before.sent) : message ∈ after.sent := by
  cases hstep with
  | maker hstep => exact mem_of_step hstep _ hsent
  | taker hstep => exact mem_of_step hstep _ hsent
  | wallet hstep => exact mem_of_step hstep _ hsent

theorem Step.heard (hstep : Step before move after) {message : TradeMessage}
    (hheard : message ∈ before.heard) : message ∈ after.heard := by
  cases hstep with
  | maker hstep => exact mem_of_step hstep _ hheard
  | taker hstep => exact mem_of_step hstep _ hheard
  | wallet hstep => exact hheard

end Messages

/-- The Buy maker here, whatever its task does. -/
def buyMaker : Agent → Option FatCrabMakerBuyActor
  | .maker ⟨⟨.buy buy, _, _⟩, _, _⟩ => some buy
  | _ => none

def sellMaker : Agent → Option FatCrabMakerSellActor
  | .maker ⟨⟨.sell sell, _, _⟩, _, _⟩ => some sell
  | _ => none

def buyTaker : Agent → Option FatCrabTakerBuyActor
  | .taker ⟨⟨.buy buy, _, _⟩, _, _⟩ => some buy
  | _ => none

def sellTaker : Agent → Option FatCrabTakerSellActor
  | .taker ⟨⟨.sell sell, _, _⟩, _, _⟩ => some sell
  | _ => none

end Agent

/-- What an agent of a trader sent and heard, it sent and heard. -/
theorem Trader.Step.remembers {trader next : Trader} (hstep : trader.Step next) (slot : ℕ)
    {message : TradeMessage} :
    (message ∈ (trader.agents slot).sent → message ∈ (next.agents slot).sent) ∧
      (message ∈ (trader.agents slot).heard → message ∈ (next.agents slot).heard) := by
  -- a slot where nothing was started remembers nothing
  have hvacant : ∀ {other agent}, trader.agents other = .vacant →
      (message ∈ (trader.agents slot).sent →
        message ∈ (Function.update trader.agents other agent slot).sent) ∧
      (message ∈ (trader.agents slot).heard →
        message ∈ (Function.update trader.agents other agent slot).heard) := by
    intro other agent hother
    rcases eq_or_ne slot other with rfl | hne
    · rw [hother]
      exact ⟨nofun, nofun⟩
    · rw [Function.update_of_ne hne]
      exact ⟨id, id⟩
  cases hstep with
  | @act other _ _ _ hstep _ =>
      dsimp only
      exact ⟨@Agent.holds_update _ (message ∈ ·.sent) _ _ _ _ hstep.sent,
        @Agent.holds_update _ (message ∈ ·.heard) _ _ _ _ hstep.heard⟩
  | newMaker hother _ _ => exact hvacant hother
  | newTaker hother _ _ => exact hvacant hother
  | newWallet hother => exact hvacant hother
  | abandon => exact ⟨id, id⟩
  | reopen => exact ⟨id, id⟩

theorem Trader.heard_of_steps {trader later : Trader} (hsteps : trader.Steps later) {slot : ℕ}
    {message : TradeMessage} (hheard : message ∈ (trader.agents slot).heard) :
    message ∈ (later.agents slot).heard := by
  induction hsteps with
  | refl => exact hheard
  | tail _ hstep ih => exact (hstep.remembers slot).2 ih

/-- The two traders of a trade. -/
structure Counterparties where
  maker : Trader
  taker : Trader

namespace Counterparties

/-- One step of either side. What its party of the trade hears in the step, the other party
has sent before. -/
inductive Step (makerSlot takerSlot : ℕ) : Counterparties → Counterparties → Prop where
  | maker {parties next} (hstep : parties.maker.Step next)
      (hchannel : ∀ message ∈ (next.agents makerSlot).heard,
        message ∈ (parties.maker.agents makerSlot).heard ∨
          message ∈ (parties.taker.agents takerSlot).sent) :
      Step makerSlot takerSlot parties { parties with maker := next }
  | taker {parties next} (hstep : parties.taker.Step next)
      (hchannel : ∀ message ∈ (next.agents takerSlot).heard,
        message ∈ (parties.taker.agents takerSlot).heard ∨
          message ∈ (parties.maker.agents makerSlot).sent) :
      Step makerSlot takerSlot parties { parties with taker := next }

def Steps (makerSlot takerSlot : ℕ) : Counterparties → Counterparties → Prop :=
  Relation.ReflTransGen (Step makerSlot takerSlot)

/-- What two traders that began on empty directories can come to. -/
def Reachable (makerSlot takerSlot : ℕ) (parties : Counterparties) : Prop :=
  ∃ overflowChecks network height overflowChecks' network' height',
    Steps makerSlot takerSlot
      ⟨.new overflowChecks network height, .new overflowChecks' network' height'⟩ parties

/-- Each side is consistent, and what a party heard the other one sent. -/
structure Honest (makerSlot takerSlot : ℕ) (parties : Counterparties) : Prop where
  maker : parties.maker.Consistent
  taker : parties.taker.Consistent
  toMaker : ∀ message ∈ (parties.maker.agents makerSlot).heard,
    message ∈ (parties.taker.agents takerSlot).sent
  toTaker : ∀ message ∈ (parties.taker.agents takerSlot).heard,
    message ∈ (parties.maker.agents makerSlot).sent

variable {makerSlot takerSlot : ℕ} {parties next : Counterparties}

/-- A run of the maker's side, if the taker had sent what it heard by the end. -/
theorem steps_maker {later : Trader} (hsteps : parties.maker.Steps later)
    (hchannel : ∀ message ∈ (later.agents makerSlot).heard,
      message ∈ (parties.maker.agents makerSlot).heard ∨
        message ∈ (parties.taker.agents takerSlot).sent) :
    Steps makerSlot takerSlot parties { parties with maker := later } := by
  induction hsteps with
  | refl => exact .refl
  | tail hfirst hstep ih =>
      refine .tail (ih fun message hheard => ?_) (.maker hstep fun message hheard => ?_)
      · exact hchannel message ((hstep.remembers makerSlot).2 hheard)
      · exact (hchannel message hheard).imp_left (Trader.heard_of_steps hfirst)

/-- A run of the taker's side, in the same way. -/
theorem steps_taker {later : Trader} (hsteps : parties.taker.Steps later)
    (hchannel : ∀ message ∈ (later.agents takerSlot).heard,
      message ∈ (parties.taker.agents takerSlot).heard ∨
        message ∈ (parties.maker.agents makerSlot).sent) :
    Steps makerSlot takerSlot parties { parties with taker := later } := by
  induction hsteps with
  | refl => exact .refl
  | tail hfirst hstep ih =>
      refine .tail (ih fun message hheard => ?_) (.taker hstep fun message hheard => ?_)
      · exact hchannel message ((hstep.remembers takerSlot).2 hheard)
      · exact (hchannel message hheard).imp_left (Trader.heard_of_steps hfirst)

theorem Step.honest (hround : Bitcoin.RoundTrip) (hstep : Step makerSlot takerSlot parties next)
    (hhonest : parties.Honest makerSlot takerSlot) : next.Honest makerSlot takerSlot := by
  cases hstep with
  | maker hstep hchannel =>
      refine ⟨hhonest.maker.step hround hstep, hhonest.taker, ?_, ?_⟩
      · intro message hheard
        rcases hchannel message hheard with hbefore | hsent
        · exact hhonest.toMaker message hbefore
        · exact hsent
      · intro message hheard
        exact (hstep.remembers makerSlot).1 (hhonest.toTaker message hheard)
  | taker hstep hchannel =>
      refine ⟨hhonest.maker, hhonest.taker.step hround hstep, ?_, ?_⟩
      · intro message hheard
        exact (hstep.remembers takerSlot).1 (hhonest.toMaker message hheard)
      · intro message hheard
        rcases hchannel message hheard with hbefore | hsent
        · exact hhonest.toTaker message hbefore
        · exact hsent

theorem Reachable.honest (hround : Bitcoin.RoundTrip)
    (hreachable : parties.Reachable makerSlot takerSlot) : parties.Honest makerSlot takerSlot := by
  obtain ⟨overflowChecks, network, height, overflowChecks', network', height', hsteps⟩ :=
    hreachable
  induction hsteps with
  | refl =>
      exact ⟨Trader.consistent_new overflowChecks network height,
        Trader.consistent_new overflowChecks' network' height', nofun, nofun⟩
  | tail _ hstep ih => exact hstep.honest hround ih

end Counterparties

/-- A transaction that a purse put on the chain: all that was allocated under an id, to the
address of a text. -/
def Purse.Pays (purse : Purse) (fundsId : Uuid) (sats : ℕ) (text : String) (txid : Txid) : Prop :=
  (fundsId, sats) ∈ purse.granted ∧ ∃ address tx, Bitcoin.addressToString address = text ∧
    (fundsId, tx) ∈ purse.broadcasts ∧ tx.txid = txid ∧
    tx.recipients = [(Bitcoin.scriptPubkey address, sats)]

/-! ## What each party sends, and what made it believe -/

namespace Agent

variable {agent : Agent} {network : Network}

/-- A printed address is read back as itself. -/
theorem printed_of_parse (hround : Bitcoin.RoundTrip) {text : String} {address : Address}
    (hprinted : ∃ address, text = Bitcoin.addressToString address)
    (hparse : parseAddress text network = some address) :
    Bitcoin.addressToString address = text := by
  obtain ⟨found, rfl⟩ := hprinted
  rw [parseAddress_eq] at hparse
  have hread := (addressOn_eq_some.mp hparse).1
  rw [hround.address] at hread
  rw [Option.some.inj hread]

/-- A Buy taker asks to be paid at its own address. -/
theorem Kept.peer_of_buyTaker (hround : Bitcoin.RoundTrip) (hkept : agent.Kept network)
    {taker : FatCrabTakerBuyActor} (htaker : agent.buyTaker = some taker) {message : SerdeGeneric}
    (hsent : .peer message ∈ agent.sent) : ∃ address txid,
      Bitcoin.addressToString address = taker.data.btcRxAddr ∧
        message = .fatCrabPeerMessage ⟨Bitcoin.addressToString address, txid⟩ := by
  unfold buyTaker at htaker
  split at htaker
  next found uuid notifTx task history =>
    cases htaker
    rcases hkept with ⟨terms, hbelongs, ⟨haudited, hterms, -⟩, -⟩ | ⟨terms, -, ⟨-, hterms⟩, -⟩
    · obtain ⟨reply, store, hentry⟩ := made_of_peer hsent
      obtain ⟨later, past, hhistory⟩ := List.append_of_mem hentry
      dsimp only at hhistory haudited
      rw [hhistory] at haudited
      obtain ⟨address, txid, hparse, hmessage⟩ := haudited.split
      obtain rfl := hterms
      exact ⟨address, txid, printed_of_parse hround hbelongs.printed hparse, hmessage⟩
    · exact hterms.elim
  next => cases htaker

/-- A Sell maker asks to be paid at its own address. -/
theorem Kept.acceptance_of_sellMaker (hround : Bitcoin.RoundTrip) (hkept : agent.Kept network)
    {maker : FatCrabMakerSellActor} (hmaker : agent.sellMaker = some maker)
    {response : TradeResponse} (hsent : .acceptance response ∈ agent.sent) : ∃ address,
      Bitcoin.addressToString address = maker.data.btcRxAddr ∧
        response.tradeEngineSpecifics =
          some (.fatCrabMakeTradeRspSpecifics ⟨Bitcoin.addressToString address⟩) := by
  unfold sellMaker at hmaker
  split at hmaker
  next found uuid notifTx task history =>
    cases hmaker
    rcases hkept with ⟨terms, -, ⟨-, hterms⟩, -⟩ | ⟨terms, hbelongs, ⟨haudited, hterms, -⟩, -⟩
    · exact hterms.elim
    · obtain ⟨reply, store, hentry⟩ := made_of_acceptance hsent
      obtain ⟨later, past, hhistory⟩ := List.append_of_mem hentry
      dsimp only at hhistory haudited
      rw [hhistory] at haudited
      obtain ⟨address, hparse, hspecifics⟩ := haudited.split
      obtain rfl := hterms
      exact ⟨address, printed_of_parse hround hbelongs.printed hparse, hspecifics⟩
  next => cases hmaker

/-- An address that a Buy maker read in a peer message. -/
def HeardAddress (agent : Agent) (address : Address) : Prop :=
  ∃ message network, .peer (.fatCrabPeerMessage message) ∈ agent.heard ∧
    addressOn network message.receiveAddress = some address

/-- An address that a Sell taker read in an acceptance. -/
def AcceptedAddress (agent : Agent) (address : Address) : Prop :=
  ∃ response text network, .acceptance response ∈ agent.heard ∧
    response.tradeEngineSpecifics = some (.fatCrabMakeTradeRspSpecifics ⟨text⟩) ∧
    addressOn network text = some address

theorem heardAddress_of_mem {actor : Actor FatCrabMakerActor MakerMsg tradeInterface}
    {entry : Entry FatCrabMakerActor MakerMsg tradeInterface} (hentry : entry ∈ actor.history)
    {address : Address} (haddress : FatCrabMakerActor.peerAddress network entry = some address) :
    (Agent.maker actor).HeardAddress address := by
  obtain ⟨envelope, message, store, rfl, hmessage, hon⟩ :=
    FatCrabMakerActor.received_of_peerAddress haddress
  refine ⟨message, network, List.mem_filterMap.mpr ⟨_, hentry, ?_⟩, hon⟩
  rw [FatCrabMakerActor.heardMessage, hmessage]

/-- A Buy maker names a transaction only after it paid with it, to an address it had heard. -/
theorem Kept.peer_of_buyMaker (hkept : agent.Kept network) {maker : FatCrabMakerBuyActor}
    (hmaker : agent.buyMaker = some maker) {message : SerdeGeneric}
    (hsent : .peer message ∈ agent.sent) : ∃ txid address,
      agent.Made (.purse (.sendFunds maker.data.btcFundsId address)) (some (.ok txid)) ∧
        agent.HeardAddress address ∧ message =
          .fatCrabPeerMessage ⟨maker.data.fatcrabRxAddr, Bitcoin.txidToString txid⟩ := by
  unfold buyMaker at hmaker
  split at hmaker
  next found uuid notifTx task history =>
    cases hmaker
    rcases hkept with ⟨terms, -, ⟨haudited, hterms, -⟩, -⟩ | ⟨terms, -, ⟨-, hterms⟩, -⟩
    · obtain rfl := hterms
      obtain ⟨reply, store, hentry⟩ := made_of_peer hsent
      obtain ⟨later, past, hhistory⟩ := List.append_of_mem hentry
      dsimp only at hhistory
      subst hhistory
      obtain ⟨txid, ⟨address, paying, hpaid⟩, hmessage⟩ := haudited.split
      have hmade := List.mem_append_right later
        (List.mem_cons_of_mem (.called (.n3xb (.sendPeerMessage message)) reply store) hpaid)
      refine ⟨txid, address, ⟨paying, hmade⟩, ?_, hmessage⟩
      -- the payment was audited too, and its address was read before
      obtain ⟨after, before, hsplit⟩ := List.append_of_mem hmade
      dsimp only at haudited
      rw [hsplit] at haudited
      obtain ⟨-, hlast⟩ := haudited.split
      obtain ⟨entry, hmem, haddress⟩ := FatCrabMakerActor.mem_of_lastPeerAddress hlast
      refine heardAddress_of_mem ?_ haddress
      dsimp only
      rw [hsplit]
      exact List.mem_append_right after (List.mem_cons_of_mem _ hmem)
    · exact hterms.elim
  next => cases hmaker

/-- A Sell taker names a transaction only after it paid with it, to an address that an
acceptance had named. -/
theorem Kept.peer_of_sellTaker (hkept : agent.Kept network) {taker : FatCrabTakerSellActor}
    (htaker : agent.sellTaker = some taker) {message : SerdeGeneric}
    (hsent : .peer message ∈ agent.sent) : ∃ txid address,
      agent.Made (.purse (.sendFunds taker.data.btcFundsId address)) (some (.ok txid)) ∧
        agent.AcceptedAddress address ∧ message =
          .fatCrabPeerMessage ⟨taker.data.fatcrabRxAddr, Bitcoin.txidToString txid⟩ := by
  unfold sellTaker at htaker
  split at htaker
  next found uuid notifTx task history =>
    cases htaker
    rcases hkept with ⟨terms, -, ⟨-, hterms⟩, -⟩ | ⟨terms, -, ⟨haudited, hterms⟩, -⟩
    · exact hterms.elim
    · obtain rfl := hterms
      obtain ⟨reply, store, hentry⟩ := made_of_peer hsent
      obtain ⟨later, past, hhistory⟩ := List.append_of_mem hentry
      dsimp only at hhistory
      subst hhistory
      obtain ⟨txid, ⟨address, paying, hpaid⟩, hmessage⟩ := haudited.split
      have hmade := List.mem_append_right later
        (List.mem_cons_of_mem (.called (.n3xb (.sendPeerMessage message)) reply store) hpaid)
      refine ⟨txid, address, ⟨paying, hmade⟩, ?_, hmessage⟩
      obtain ⟨after, before, hsplit⟩ := List.append_of_mem hmade
      dsimp only at haudited
      rw [hsplit] at haudited
      obtain ⟨-, hlast⟩ := haudited.split
      obtain ⟨text, htext, hon⟩ := Option.bind_eq_some_iff.mp hlast
      obtain ⟨envelope, heard, hmem, hrsp⟩ := FatCrabTakerActor.received_of_lastAcceptText htext
      obtain ⟨haccepted, hspecifics⟩ := FatCrabTradeRsp.specifics_of_accept hrsp
      have hheard : .received (.notif (.ok (.tradeRsp envelope))) heard ∈
          later ++ .called (.n3xb (.sendPeerMessage message)) reply store :: past := by
        rw [hsplit]
        exact List.mem_append_right after (List.mem_cons_of_mem _ hmem)
      refine ⟨envelope.tradeRsp, text, taker.network,
        List.mem_filterMap.mpr ⟨_, hheard, ?_⟩, hspecifics, hon⟩
      rw [FatCrabTakerActor.heardMessage, if_pos haccepted]
  next => cases htaker

/-- A Buy maker that was told of fatcrabs stores an address that it had heard. -/
theorem Kept.address_of_inbound (hkept : agent.Kept network) {maker : FatCrabMakerBuyActor}
    (hmaker : agent.buyMaker = some maker) (hstate : maker.data.state = .inboundFcNotified) :
    ∃ address, maker.data.peerBtcAddr = some (Bitcoin.addressToString address) ∧
      agent.HeardAddress address := by
  unfold buyMaker at hmaker
  split at hmaker
  next found uuid notifTx task history =>
    cases hmaker
    rcases hkept with ⟨terms, -, ⟨-, -, hpeer, haddressed⟩, -⟩ | ⟨terms, -, ⟨-, hterms⟩, -⟩
    · obtain ⟨text, htext⟩ := Option.ne_none_iff_exists'.mp (haddressed hstate)
      obtain ⟨address, rfl, entry, hmem, haddress⟩ := hpeer text htext
      exact ⟨address, htext, heardAddress_of_mem hmem haddress⟩
    · exact hterms.elim
  next => cases hmaker

/-- Whose message a stored transaction id stands in. -/
def HeardOf (agent : Agent) (txid : Txid) : Prop :=
  ∃ message : FatCrabPeerMessage, .peer (.fatCrabPeerMessage message) ∈ agent.heard ∧
    Bitcoin.txidFromStr message.txid = some txid

theorem message_of_messageTxid {envelope : PeerEnvelope} {txid : Txid}
    (htxid : messageTxid envelope = some txid) : ∃ message : FatCrabPeerMessage,
      envelope.message = .fatCrabPeerMessage message ∧
        Bitcoin.txidFromStr message.txid = some txid := by
  obtain ⟨message, hmessage, hread⟩ := Option.bind_eq_some_iff.mp htxid
  refine ⟨message, ?_, hread⟩
  cases hcontent : envelope.message <;> rw [hcontent] at hmessage <;> cases hmessage
  rfl

theorem Kept.heard_of_buyTaker (hkept : agent.Kept network) {taker : FatCrabTakerBuyActor}
    (htaker : agent.buyTaker = some taker) {txid : Txid}
    (htxid : taker.data.peerBtcTxid = some txid) : agent.HeardOf txid := by
  unfold buyTaker at htaker
  split at htaker
  next found uuid notifTx task history =>
    cases htaker
    rcases hkept with ⟨terms, -, ⟨-, -, hheard⟩, -⟩ | ⟨terms, -, ⟨-, hterms⟩, -⟩
    · obtain ⟨envelope, store, hentry, htells⟩ := hheard txid htxid
      obtain ⟨message, hmessage, hread⟩ := message_of_messageTxid htells
      refine ⟨message, List.mem_filterMap.mpr ⟨_, hentry, ?_⟩, hread⟩
      rw [FatCrabTakerActor.heardMessage, hmessage]
    · exact hterms.elim
  next => cases htaker

theorem Kept.heard_of_sellMaker (hkept : agent.Kept network) {maker : FatCrabMakerSellActor}
    (hmaker : agent.sellMaker = some maker) {txid : Txid}
    (htxid : maker.data.peerBtcTxid = some txid) : agent.HeardOf txid := by
  unfold sellMaker at hmaker
  split at hmaker
  next found uuid notifTx task history =>
    cases hmaker
    rcases hkept with ⟨terms, -, ⟨-, hterms⟩, -⟩ | ⟨terms, -, ⟨-, -, hheard⟩, -⟩
    · exact hterms.elim
    · obtain ⟨envelope, store, hentry, htells⟩ := hheard txid htxid
      obtain ⟨message, hmessage, hread⟩ := message_of_messageTxid htells
      refine ⟨message, List.mem_filterMap.mpr ⟨_, hentry, ?_⟩, hread⟩
      rw [FatCrabMakerActor.heardMessage, hmessage]
  next => cases hmaker

theorem owns_of_buyMaker {maker : FatCrabMakerBuyActor} (hmaker : agent.buyMaker = some maker) :
    agent.Owns maker.data.btcFundsId maker.data.order.sats := by
  unfold buyMaker at hmaker
  split at hmaker
  next =>
    cases hmaker
    exact ⟨rfl, rfl⟩
  next => cases hmaker

theorem owns_of_sellTaker {taker : FatCrabTakerSellActor}
    (htaker : agent.sellTaker = some taker) :
    agent.Owns taker.data.btcFundsId taker.data.orderEnvelope.order.sats := by
  unfold sellTaker at htaker
  split at htaker
  next =>
    cases htaker
    exact ⟨rfl, rfl⟩
  next => cases htaker

end Agent

/-- An owner that was answered by a transaction id has paid all that it owns. -/
theorem Trader.Consistent.pays {trader : Trader} (hconsistent : trader.Consistent) {slot : ℕ}
    {fundsId : Uuid} {sats : ℕ} (howns : (trader.agents slot).Owns fundsId sats)
    {address : Address} {txid : Txid}
    (hmade : (trader.agents slot).Made (.purse (.sendFunds fundsId address)) (some (.ok txid))) :
    trader.purse.Pays fundsId sats (Bitcoin.addressToString address) txid := by
  obtain ⟨tx, paid, hbroadcast, htxid, hpaid⟩ := hconsistent.sent slot _ _ _ hmade
  obtain ⟨script, hrecipients⟩ := hconsistent.recipients howns hbroadcast
  rw [hpaid] at hrecipients
  cases hrecipients
  exact ⟨hconsistent.granted slot _ _ howns, address, tx, rfl, hbroadcast, htxid, hpaid⟩

namespace Counterparties

variable {makerSlot takerSlot : ℕ} {parties : Counterparties}

/-- The only address that a Buy maker can have heard is the taker's own. -/
theorem Honest.address_of_buyTaker (hround : Bitcoin.RoundTrip)
    (hhonest : parties.Honest makerSlot takerSlot) {taker : FatCrabTakerBuyActor}
    (htaker : (parties.taker.agents takerSlot).buyTaker = some taker) {address : Address}
    (hheard : (parties.maker.agents makerSlot).HeardAddress address) :
    Bitcoin.addressToString address = taker.data.btcRxAddr := by
  obtain ⟨message, network, hheard, hon⟩ := hheard
  have hsent := hhonest.toMaker _ hheard
  obtain ⟨own, txid, hown, hmessage⟩ :=
    (hhonest.taker.kept takerSlot).peer_of_buyTaker hround htaker hsent
  cases hmessage
  have hread := (addressOn_eq_some.mp hon).1
  rw [hround.address] at hread
  rw [← Option.some.inj hread, hown]

/-- The only address that a Sell taker can have read is the maker's own. -/
theorem Honest.address_of_sellMaker (hround : Bitcoin.RoundTrip)
    (hhonest : parties.Honest makerSlot takerSlot) {maker : FatCrabMakerSellActor}
    (hmaker : (parties.maker.agents makerSlot).sellMaker = some maker) {address : Address}
    (haccepted : (parties.taker.agents takerSlot).AcceptedAddress address) :
    Bitcoin.addressToString address = maker.data.btcRxAddr := by
  obtain ⟨response, text, network, hheard, hspecifics, hon⟩ := haccepted
  have hsent := hhonest.toTaker _ hheard
  obtain ⟨own, hown, hown'⟩ :=
    (hhonest.maker.kept makerSlot).acceptance_of_sellMaker hround hmaker hsent
  rw [hspecifics] at hown'
  cases hown'
  have hread := (addressOn_eq_some.mp hon).1
  rw [hround.address] at hread
  rw [← Option.some.inj hread, hown]

theorem Honest.buyTaker_paid (hround : Bitcoin.RoundTrip)
    (hhonest : parties.Honest makerSlot takerSlot) {maker : FatCrabMakerBuyActor}
    (hmaker : (parties.maker.agents makerSlot).buyMaker = some maker)
    {taker : FatCrabTakerBuyActor}
    (htaker : (parties.taker.agents takerSlot).buyTaker = some taker) {txid : Txid}
    (htxid : taker.data.peerBtcTxid = some txid) :
    parties.maker.purse.Pays maker.data.btcFundsId maker.data.order.sats taker.data.btcRxAddr
      txid := by
  obtain ⟨message, hheard, hread⟩ :=
    (hhonest.taker.kept takerSlot).heard_of_buyTaker htaker htxid
  have hsent := hhonest.toTaker _ hheard
  obtain ⟨paid, address, hmade, haddress, hmessage⟩ :=
    (hhonest.maker.kept makerSlot).peer_of_buyMaker hmaker hsent
  cases hmessage
  rw [hround.txid] at hread
  cases hread
  rw [← hhonest.address_of_buyTaker hround htaker haddress]
  exact hhonest.maker.pays (Agent.owns_of_buyMaker hmaker) hmade

theorem Honest.sellMaker_paid (hround : Bitcoin.RoundTrip)
    (hhonest : parties.Honest makerSlot takerSlot) {maker : FatCrabMakerSellActor}
    (hmaker : (parties.maker.agents makerSlot).sellMaker = some maker)
    {taker : FatCrabTakerSellActor}
    (htaker : (parties.taker.agents takerSlot).sellTaker = some taker) {txid : Txid}
    (htxid : maker.data.peerBtcTxid = some txid) :
    parties.taker.purse.Pays taker.data.btcFundsId taker.data.orderEnvelope.order.sats
      maker.data.btcRxAddr txid := by
  obtain ⟨message, hheard, hread⟩ :=
    (hhonest.maker.kept makerSlot).heard_of_sellMaker hmaker htxid
  have hsent := hhonest.toMaker _ hheard
  obtain ⟨paid, address, hmade, haddress, hmessage⟩ :=
    (hhonest.taker.kept takerSlot).peer_of_sellTaker htaker hsent
  cases hmessage
  rw [hround.txid] at hread
  cases hread
  rw [← hhonest.address_of_sellMaker hround hmaker haddress]
  exact hhonest.taker.pays (Agent.owns_of_sellTaker htaker) hmade

/-- Between two parties that run this code, a transaction id that one holds is a payment of
the other: all that was allocated, to the holder's own address. And a Buy maker that was
told of fatcrabs knows the taker's own address. -/
theorem notices_authentic (hround : Bitcoin.RoundTrip)
    (hreachable : parties.Reachable makerSlot takerSlot) :
    (∀ maker taker, (parties.maker.agents makerSlot).buyMaker = some maker →
      (parties.taker.agents takerSlot).buyTaker = some taker →
      (∀ txid, taker.data.peerBtcTxid = some txid →
        parties.maker.purse.Pays maker.data.btcFundsId maker.data.order.sats
          taker.data.btcRxAddr txid) ∧
      (maker.data.state = .inboundFcNotified →
        maker.data.peerBtcAddr = some taker.data.btcRxAddr)) ∧
    ∀ maker taker, (parties.maker.agents makerSlot).sellMaker = some maker →
      (parties.taker.agents takerSlot).sellTaker = some taker →
      ∀ txid, maker.data.peerBtcTxid = some txid →
        parties.taker.purse.Pays taker.data.btcFundsId taker.data.orderEnvelope.order.sats
          maker.data.btcRxAddr txid := by
  have hhonest := hreachable.honest hround
  refine ⟨fun maker taker hmaker htaker => ⟨fun txid htxid => ?_, fun hstate => ?_⟩,
    fun maker taker hmaker htaker txid htxid => ?_⟩
  · exact hhonest.buyTaker_paid hround hmaker htaker htxid
  · obtain ⟨address, hstored, hheard⟩ :=
      (hhonest.maker.kept makerSlot).address_of_inbound hmaker hstate
    rw [hstored, hhonest.address_of_buyTaker hround htaker hheard]
  · exact hhonest.sellMaker_paid hround hmaker htaker htxid

end Counterparties

end Notices

section Heard

open scoped Sample

def Sample.turn (turn : Turn) (fundsId : Uuid) : Turn × WalletAnswers × Surroundings :=
  (turn, Sample.wallet fundsId, Sample.surroundings)

/-- A Buy maker accepts an offer. -/
def Sample.accepting : Trader :=
  (Trader.new true .regtest 100).play [
    Sample.turn (.newMaker 0 (Sample.order .buy) (some "npub1maker")) ⟨1⟩,
    Sample.turn (.resume 0) ⟨2⟩,
    Sample.turn (.tellMaker 0 (.request (.tradeResponse .accept Sample.offer))) ⟨2⟩]

/-- A Buy taker hears of it, and says where it is to be paid. -/
def Sample.asking : Trader :=
  (Trader.new true .regtest 100).play [
    Sample.turn (.newTaker 0 (Sample.orderEnvelope .buy) none) ⟨1⟩,
    Sample.turn (.resume 0) ⟨1⟩,
    Sample.turn (.tellTaker 0 (.request .takeOrder)) ⟨1⟩,
    Sample.turn (.tellTaker 0 (.notif (.ok (.tradeRsp
      ⟨"response", acceptTradeRsp Sample.offer "npub1maker"⟩)))) ⟨1⟩,
    Sample.turn (.tellTaker 0 (.request (.releaseNotifyPeer (some "fatcrab txid")))) ⟨1⟩]

/-- The maker pays. -/
def Sample.paying : Trader :=
  Sample.accepting.play [
    Sample.turn (.tellMaker 0 (.notif (.ok (.peer
      ⟨"peer", .fatCrabPeerMessage ⟨SampleAddress.alice.text, "fatcrab txid"⟩⟩)))) ⟨2⟩,
    Sample.turn (.tellMaker 0 (.request (.releaseNotifyPeer none))) ⟨2⟩]

/-- The taker is told of the payment. -/
def Sample.told : Trader :=
  Sample.asking.play [
    Sample.turn (.tellTaker 0 (.notif (.ok (.peer
      ⟨"peer", .fatCrabPeerMessage ⟨"npub1maker", SampleTxid.first.text⟩⟩)))) ⟨1⟩]

theorem Sample.reachable_told :
    Counterparties.Reachable 0 0 ⟨Sample.paying, Sample.told⟩ := by
  refine ⟨true, .regtest, 100, true, .regtest, 100, ?_⟩
  have haccepting := @Counterparties.steps_maker _ 0 0
    ⟨.new true .regtest 100, .new true .regtest 100⟩ Sample.accepting
    (Trader.steps_play _) (by decide +kernel)
  have hasking := @Counterparties.steps_taker _ 0 0
    ⟨Sample.accepting, .new true .regtest 100⟩ Sample.asking (Trader.steps_play _)
    (by decide +kernel)
  have hpaying := @Counterparties.steps_maker _ 0 0 ⟨Sample.accepting, Sample.asking⟩
    Sample.paying (Trader.steps_play _) (by decide +kernel)
  have htold := @Counterparties.steps_taker _ 0 0 ⟨Sample.paying, Sample.asking⟩ Sample.told
    (Trader.steps_play _) (by decide +kernel)
  exact ((haccepting.trans hasking).trans hpaying).trans htold

theorem Counterparties.notices_authentic_told : ∃ maker taker,
    (Sample.paying.agents 0).buyMaker = some maker ∧
    (Sample.told.agents 0).buyTaker = some taker ∧
    taker.data.peerBtcTxid = some SampleTxid.first ∧
    Sample.paying.purse.Pays maker.data.btcFundsId maker.data.order.sats taker.data.btcRxAddr
      SampleTxid.first := by
  obtain ⟨maker, hmaker⟩ : ∃ maker, (Sample.paying.agents 0).buyMaker = some maker :=
    Option.isSome_iff_exists.mp (by decide +kernel)
  obtain ⟨taker, htaker⟩ : ∃ taker, (Sample.told.agents 0).buyTaker = some taker :=
    Option.isSome_iff_exists.mp (by decide +kernel)
  have htxid : (Sample.told.agents 0).buyTaker.map (·.data.peerBtcTxid) =
      some (some SampleTxid.first) := by decide +kernel
  rw [htaker] at htxid
  have hstored := Option.some.inj htxid
  obtain ⟨hbuy, -⟩ := notices_authentic Sample.roundTrip Sample.reachable_told
  exact ⟨maker, taker, hmaker, htaker, hstored, (hbuy maker taker hmaker htaker).1 _ hstored⟩

end Heard

end FatCrabTrading
