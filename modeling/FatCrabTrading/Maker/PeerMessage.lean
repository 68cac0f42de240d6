import FatCrabTrading.Maker.Maker
import FatCrabTrading.Sample

/-! # Peer messages at a maker

A peer message is chosen by the peer: its dynamic type, its address and its
transaction id are arbitrary. The handler unwraps the downcast and, for a Buy maker,
the parse of the address, so such a message ends the maker's task.
-/

namespace FatCrabTrading

open Effect Program

section PeerMessage

variable [Bitcoin]

namespace FatCrabMakerActor

/-- The message carries what the role needs: an address of the network for a Buy maker, a
transaction id for a Sell maker. -/
def Usable (self : FatCrabMakerActor) (message : FatCrabPeerMessage) : Prop :=
  match self.inner with
  | .buy buy => ∃ address, addressOn buy.network message.receiveAddress = some address
  | .sell _ => ∃ txid, Bitcoin.txidFromStr message.txid = some txid

/-- The message can be read as far as the role unwraps it. -/
def Readable (self : FatCrabMakerActor) (message : FatCrabPeerMessage) : Prop :=
  match self.inner with
  | .buy _ => ∃ address, Bitcoin.addressFromStr message.receiveAddress = some address
  | .sell _ => True

/-- The listener, if there is one, takes the notification of the message. -/
def Heard (answers : (c : TradeCall) → c.Reply) (self : FatCrabMakerActor)
    (envelope : FatCrabPeerEnvelope) : Prop :=
  ∀ notifTx, self.notifTx = some notifTx →
    answers (.notify notifTx (.maker (.peer self.peerNotifState envelope))) = true

/-- Serving the message ends without a panic, and a message of no use leaves the maker as
it was. -/
def Harmless (self : FatCrabMakerActor) (envelope : PeerEnvelope)
    (next : Actor FatCrabMakerActor MakerMsg tradeInterface) : Prop :=
  next.task = .idle ∧
    ((∀ message, envelope.message.asFatCrabPeerMessage = some message → ¬ self.Usable message) →
      next.store = self)

/-- In `AcceptedOffer`, the message is of the library's type, can be read, and a listener
of a usable message is there. -/
def Endures (answers : (c : TradeCall) → c.Reply) (self : FatCrabMakerActor)
    (envelope : PeerEnvelope) : Prop :=
  self.state = .acceptedOffer → ∃ message,
    envelope.message.asFatCrabPeerMessage = some message ∧ self.Readable message ∧
      (self.Usable message → self.Heard answers ⟨message, envelope⟩)

section Deliver

attribute [local simp] Actor.deliver code handle handleNotif handlePeerNotif
  Actor.settle setState peerNotifState Actor.recording Flow.task

variable {answers : (c : TradeCall) → c.Reply} {self : FatCrabMakerActor}
  {history : History FatCrabMakerActor MakerMsg tradeInterface} {envelope : PeerEnvelope}

/-- The maker after the peer message was served. -/
def afterPeer (answers : (c : TradeCall) → c.Reply) (envelope : PeerEnvelope)
    (self : FatCrabMakerActor) (history : History FatCrabMakerActor MakerMsg tradeInterface) :
    Actor FatCrabMakerActor MakerMsg tradeInterface :=
  Actor.deliver code answers (.notif (.ok (.peer envelope))) ⟨self, .idle, history⟩

theorem afterPeer_of_ne (hstate : self.state ≠ .acceptedOffer) :
    (afterPeer answers envelope self history).task = .idle ∧
      (afterPeer answers envelope self history).store = self := by
  simp [afterPeer, hstate]

theorem afterPeer_foreign (hstate : self.state = .acceptedOffer)
    (hforeign : envelope.message.asFatCrabPeerMessage = none) :
    (afterPeer answers envelope self history).task = .dead := by
  simp [afterPeer, hstate, hforeign]

variable {message : FatCrabPeerMessage}

theorem afterPeer_unreadable (hstate : self.state = .acceptedOffer)
    (hmessage : envelope.message.asFatCrabPeerMessage = some message)
    (hunreadable : ¬ self.Readable message) :
    (afterPeer answers envelope self history).task = .dead := by
  obtain ⟨inner, uuid, notifTx⟩ := self
  cases inner with
  | buy buy =>
      have hparse : Bitcoin.addressFromStr message.receiveAddress = none := by
        rw [Option.eq_none_iff_forall_ne_some]
        exact fun address haddress => hunreadable ⟨address, haddress⟩
      simp only [state_buy] at hstate
      simp [afterPeer, FatCrabMakerBuyActor.handlePeerNotif, hstate, hmessage, hparse]
  | sell sell => exact absurd trivial hunreadable

theorem afterPeer_useless (hstate : self.state = .acceptedOffer)
    (hmessage : envelope.message.asFatCrabPeerMessage = some message)
    (hreadable : self.Readable message) (huseless : ¬ self.Usable message) :
    (afterPeer answers envelope self history).task = .idle ∧
      (afterPeer answers envelope self history).store = self := by
  obtain ⟨inner, uuid, notifTx⟩ := self
  cases inner with
  | buy buy =>
      obtain ⟨address, hparse⟩ := hreadable
      have hinvalid : Bitcoin.isValidForNetwork address buy.network = false := by
        rw [← Bool.not_eq_true]
        exact fun hvalid => huseless ⟨address, addressOn_eq_some.mpr ⟨hparse, hvalid⟩⟩
      simp only [state_buy] at hstate
      simp [afterPeer, FatCrabMakerBuyActor.handlePeerNotif, hstate, hmessage, hparse, hinvalid]
  | sell sell =>
      have hparse : Bitcoin.txidFromStr message.txid = none := by
        rw [Option.eq_none_iff_forall_ne_some]
        exact fun txid htxid => huseless ⟨txid, htxid⟩
      simp only [state_sell] at hstate
      simp [afterPeer, FatCrabMakerSellActor.handlePeerNotif, hstate, hmessage, hparse]

/-- The task goes on once nobody is there to hear of the message, or somebody has. -/
theorem afterPeer_usable (hstate : self.state = .acceptedOffer)
    (hmessage : envelope.message.asFatCrabPeerMessage = some message)
    (husable : self.Usable message) :
    (afterPeer answers envelope self history).task = .idle ↔
      self.Heard answers ⟨message, envelope⟩ := by
  obtain ⟨inner, uuid, notifTx⟩ := self
  cases inner with
  | buy buy =>
      obtain ⟨address, haddress⟩ := husable
      obtain ⟨hparse, hvalid⟩ := addressOn_eq_some.mp haddress
      simp only [state_buy] at hstate
      cases notifTx with
      | none =>
          simp [afterPeer, FatCrabMakerBuyActor.handlePeerNotif, hstate, hmessage, hparse, hvalid,
            Heard]
      | some listener =>
          simp [afterPeer, FatCrabMakerBuyActor.handlePeerNotif, hstate, hmessage, hparse, hvalid,
            Heard]
          cases answers (.notify listener
            (.maker (.peer .inboundFcNotified ⟨message, envelope⟩))) <;> simp
  | sell sell =>
      obtain ⟨txid, hparse⟩ := husable
      simp only [state_sell] at hstate
      cases notifTx with
      | none =>
          simp [afterPeer, FatCrabMakerSellActor.handlePeerNotif, hstate, hmessage, hparse, Heard]
      | some listener =>
          simp [afterPeer, FatCrabMakerSellActor.handlePeerNotif, hstate, hmessage, hparse, Heard]
          cases answers (.notify listener
            (.maker (.peer .inboundBtcNotified ⟨message, envelope⟩))) <;> simp

end Deliver

/-- A message that can be used can be read. -/
theorem Usable.readable {self : FatCrabMakerActor} {message : FatCrabPeerMessage}
    (husable : self.Usable message) : self.Readable message := by
  obtain ⟨inner, uuid, notifTx⟩ := self
  cases inner with
  | buy buy =>
      obtain ⟨address, haddress⟩ := husable
      exact ⟨address, (addressOn_eq_some.mp haddress).1⟩
  | sell sell => trivial

/-- A maker that waits, in any state and with any history, serves a peer message without
harm exactly if the message can be read and its listener is there. -/
theorem peer_harmless_iff (answers : (c : TradeCall) → c.Reply) (self : FatCrabMakerActor)
    (history : History FatCrabMakerActor MakerMsg tradeInterface) (envelope : PeerEnvelope) :
    self.Harmless envelope
        (Actor.deliver code answers (.notif (.ok (.peer envelope))) ⟨self, .idle, history⟩) ↔
      self.Endures answers envelope := by
  change self.Harmless envelope (afterPeer answers envelope self history) ↔ _
  by_cases hstate : self.state = .acceptedOffer
  swap
  · obtain ⟨htask, hstore⟩ := @afterPeer_of_ne _ answers self history envelope hstate
    exact ⟨fun _ hstate' => absurd hstate' hstate, fun _ => ⟨htask, fun _ => hstore⟩⟩
  cases hmessage : envelope.message.asFatCrabPeerMessage with
  | none =>
      have hdead := @afterPeer_foreign _ answers self history envelope hstate hmessage
      constructor
      · rintro ⟨hidle, -⟩
        rw [hdead] at hidle
        cases hidle
      · intro hendures
        obtain ⟨message, hsome, -⟩ := hendures hstate
        rw [hmessage] at hsome
        cases hsome
  | some message =>
      have hendures : self.Endures answers envelope ↔ self.Readable message ∧
          (self.Usable message → self.Heard answers ⟨message, envelope⟩) := by
        simp only [Endures, hstate, hmessage, forall_const, Option.some.injEq, exists_eq_left']
      have hharmless : self.Harmless envelope (afterPeer answers envelope self history) ↔
          (afterPeer answers envelope self history).task = .idle ∧ (¬ self.Usable message →
            (afterPeer answers envelope self history).store = self) := by
        simp only [Harmless, hmessage, Option.some.injEq, forall_eq']
      rw [hendures, hharmless]
      by_cases husable : self.Usable message
      · simp only [husable, husable.readable, afterPeer_usable hstate hmessage husable,
          not_true_eq_false, false_imp_iff, and_true, true_and, forall_const]
      by_cases hreadable : self.Readable message
      · simp only [husable, hreadable, afterPeer_useless hstate hmessage hreadable husable,
          not_false_eq_true, forall_const, and_self, false_imp_iff]
      · simp only [hreadable, afterPeer_unreadable hstate hmessage hreadable, reduceCtorEq,
          false_and]

end FatCrabMakerActor

end PeerMessage

section Sample

open Sample

namespace FatCrabMakerActor

/-- Bob's offer is accepted, and a message of another application arrives. -/
theorem killed_by_peer : ∃ actor : Actor FatCrabMakerActor MakerMsg tradeInterface,
    Actor.Steps code (.launch code buyMaker) actor ∧ actor.task = .idle ∧
      ∃ envelope : PeerEnvelope,
        (actor.deliver code obliging (.notif (.ok (.peer envelope)))).task = .dead := by
  refine ⟨_, Actor.steps_opened_deliverAll obliging buyMaker
    [(obliging, .request .postNewOrder), (obliging, .request (.tradeResponse .accept offer))],
    ?_, ⟨"peer", .other "Greeting"⟩, ?_⟩
  · decide +kernel
  · decide +kernel

end FatCrabMakerActor

end Sample

end FatCrabTrading
