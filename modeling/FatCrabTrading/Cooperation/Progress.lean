import FatCrabTrading.Cooperation.Maker
import FatCrabTrading.Cooperation.Taker

/-! # Each side of a cooperative trade gets on

A user who asks for the next step gets it: the handler makes the call that begins the next
phase. An offer that was not responded to can still be responded to, and a Sell taker that
was accepted does not wait before it has paid.
-/

namespace FatCrabTrading

open Effect

/-- Phases in the order in which they follow each other. -/
def MakerPhase.rank : MakerPhase → ℕ
  | .fresh => 0
  | .posted => 1
  | .offered => 2
  | .accepted => 3
  | .rejected => 3
  | .notified => 4
  | .released => 5

def TakerPhase.rank : TakerPhase → ℕ
  | .fresh => 0
  | .taken => 1
  | .accepted => 2
  | .rejected => 2
  | .sent => 3
  | .notified => 4

variable [Bitcoin]

/-! ## The maker -/

namespace FatCrabMakerActor

variable {orderType : FatCrabOrderType} {network : Network}
  {history : History FatCrabMakerActor MakerMsg tradeInterface} {self : FatCrabMakerActor}

/-- What a maker observes never leads back to an earlier phase. -/
theorem rank_le_cons {entry : Entry FatCrabMakerActor MakerMsg tradeInterface}
    (hrelies : Relies orderType network entry history)
    (hguarantees : Guarantees orderType network entry history) :
    (phase history).rank ≤ (phase (entry :: history)).rank := by
  rw [phase_cons]
  unfold milestone
  split
  next => simp [hguarantees.2, MakerPhase.rank]
  next => simp [hrelies.1, MakerPhase.rank]
  next => simp [hguarantees.2.1, MakerPhase.rank]
  next => simp [hguarantees.2.1, MakerPhase.rank]
  next => simp [hrelies.1, MakerPhase.rank]
  next => simp [hguarantees.2.1, MakerPhase.rank]
  next => exact Nat.le_refl _

/-- The offer is not responded to before it is accepted or rejected. -/
def Unanswered (history : History FatCrabMakerActor MakerMsg tradeInterface) : Prop :=
  (phase history).rank ≤ MakerPhase.offered.rank → responded history = false

theorem Unanswered.cons {entry : Entry FatCrabMakerActor MakerMsg tradeInterface}
    (hunanswered : Unanswered history) (hentry : asksResponse entry = false)
    (hrelies : Relies orderType network entry history)
    (hguarantees : Guarantees orderType network entry history) :
    Unanswered (entry :: history) := by
  intro hearly
  rw [responded_cons, hentry, Bool.false_or]
  exact hunanswered ((rank_le_cons hrelies hguarantees).trans hearly)

/-- What a handler has come to when it returns, as long as its calls succeed. -/
def Reaches (orderType : FatCrabOrderType) (network : Network) {α : Type}
    (program : Handler FatCrabMakerActor α)
    (history : History FatCrabMakerActor MakerMsg tradeInterface) (self : FatCrabMakerActor)
    (post : History FatCrabMakerActor MakerMsg tradeInterface → FatCrabMakerActor → Prop) : Prop :=
  program.Meets (Relies orderType network) (fun _ _ => True) (fun history self _ =>
    post history self) history self

section Reaches

attribute [local simp] Reaches Relies milestone TradeCall.Succeeds PurseRequest.Succeeds

/-- A response is made before the maker waits again. -/
theorem reaches_tradeResponse (hround : Bitcoin.RoundTrip)
    (hcooperates : Cooperates orderType network history self)
    (tradeRspType : FatCrabTradeRspType) (offerEnvelope : FatCrabOfferEnvelope) :
    Reaches orderType network (handleRequest (.tradeResponse tradeRspType offerEnvelope)) history
      self fun history _ => phase history = match tradeRspType with
        | .accept => .accepted
        | .reject => .rejected := by
  obtain ⟨inner, uuid, notifTx⟩ := self
  obtain ⟨hplays, -, -, -⟩ := hcooperates
  cases inner with
  | buy buy =>
      cases tradeRspType with
      | accept | reject => simp [handleRequest, FatCrabMakerBuyActor.tradeResponse]
  | sell sell =>
      cases orderType with
      | buy => exact hplays.elim
      | sell =>
          obtain ⟨hnetwork, hprinted⟩ := hplays
          obtain ⟨address, hparse, -, -⟩ := hprinted.parse hround
          rw [← hnetwork] at hparse
          cases tradeRspType with
          | accept | reject =>
              simp [handleRequest, FatCrabMakerSellActor.tradeResponse, hparse]

theorem reaches_registerNotifTx (tx : NotifTx) :
    Reaches orderType network (handleRequest (.registerNotifTx tx)) history self
      fun after self => phase after = phase history ∧ self.notifTx.isSome := by
  simp [handleRequest, registerNotifTx, setNotifTx]

theorem reaches_postNewOrder :
    Reaches orderType network (handleRequest .postNewOrder) history self
      fun history _ => phase history = .posted := by
  obtain ⟨inner, uuid, notifTx⟩ := self
  cases inner <;> simp [handleRequest, postNewOrder, setState]

/-- The payment, if the maker is to make one, comes before the message. -/
theorem reaches_releaseNotifyPeer (hround : Bitcoin.RoundTrip)
    (hcooperates : Cooperates orderType network history self) (hphase : phase history = .notified)
    (fatcrabTxid : String) :
    Reaches orderType network (handleRequest (.releaseNotifyPeer (some fatcrabTxid))) history self
      fun history _ => phase history = .released := by
  obtain ⟨inner, uuid, notifTx⟩ := self
  obtain ⟨hplays, -, -, -⟩ := hcooperates
  cases inner with
  | buy buy =>
      cases orderType with
      | sell => exact hplays.elim
      | buy =>
          obtain ⟨hnetwork, haddressed⟩ := hplays
          obtain ⟨text, htext, hprinted⟩ := haddressed hphase
          obtain ⟨address, hparse, -, -⟩ := hprinted.parse hround
          rw [← hnetwork] at hparse
          simp [handleRequest, FatCrabMakerBuyActor.releaseNotifyPeer, htext, hparse]
  | sell sell =>
      cases orderType with
      | buy => exact hplays.elim
      | sell =>
          obtain ⟨hnetwork, hprinted⟩ := hplays
          obtain ⟨address, hparse, -, -⟩ := hprinted.parse hround
          rw [← hnetwork] at hparse
          simp [handleRequest, FatCrabMakerSellActor.notifyPeer, hparse]

theorem reaches_tradeComplete :
    Reaches orderType network (handleRequest .tradeComplete) history self
      fun after self => phase after = phase history ∧ self.state = .tradeCompleted := by
  obtain ⟨inner, uuid, notifTx⟩ := self
  cases inner with
  | buy buy => simp [handleRequest, FatCrabMakerBuyActor.tradeComplete]
  | sell sell => simp [handleRequest, FatCrabMakerSellActor.tradeComplete]

end Reaches

/-- A maker that waits can respond to the offer that it waits with. -/
theorem contract_unanswered (hround : Bitcoin.RoundTrip) :
    Contract code (Relies orderType network) (Guarantees orderType network)
      (fun history self => Cooperates orderType network history self ∧ Unanswered history) := by
  apply (contract hround).and
  intro message history self hcooperates hunanswered hrelies
  obtain ⟨hguarantees, hhandler⟩ :=
    (contract hround).receive message history self hcooperates hrelies
  have hothers : asksResponse (.received message self) = false →
      (code.handle message).Meets (Relies orderType network) (fun _ _ => True)
        (fun history _ _ => Unanswered history) (.received message self :: history) self := by
    intro hmessage
    exact hhandler.keep
      (fun c reply store past hrelies hguarantees hpast => hpast.cons rfl hrelies hguarantees)
      (hunanswered.cons hmessage hrelies hguarantees)
  cases message with
  | notif result => exact hothers rfl
  | request request =>
      cases request with
      | tradeResponse tradeRspType offerEnvelope =>
          -- its handler does not return in this phase
          have hobserved : Cooperates orderType network
              (.received (.request (.tradeResponse tradeRspType offerEnvelope)) self :: history)
              self := hcooperates.observe rfl
          have hreaches := reaches_tradeResponse hround hobserved tradeRspType offerEnvelope
          refine (Program.meets_bind ..).mpr (hreaches.mono fun history _ _ hphase hearly => ?_)
          rw [hphase] at hearly
          cases tradeRspType <;> exact absurd hearly (by decide)
      | _ => exact hothers rfl

end FatCrabMakerActor

/-! ## The taker -/

namespace FatCrabTakerActor

variable {orderType : FatCrabOrderType} {network : Network}
  {history : History FatCrabTakerActor TakerMsg tradeInterface} {self : FatCrabTakerActor}

/-- What a taker observes never leads back to an earlier phase. -/
theorem rank_le_cons {entry : Entry FatCrabTakerActor TakerMsg tradeInterface}
    (hrelies : Relies orderType network entry history)
    (hguarantees : Guarantees orderType network entry history) :
    (phase history).rank ≤ (phase (entry :: history)).rank := by
  rw [phase_cons]
  unfold milestone
  split
  next => simp [hguarantees.2.1, TakerPhase.rank]
  next =>
    rw [hrelies.1]
    split <;> decide
  next => simp [hguarantees.2.1, TakerPhase.rank]
  next => simp [hrelies.1, TakerPhase.rank]
  next => exact Nat.le_refl _

/-- A Sell taker has paid and told the maker by the time it waits again. -/
def Remits (orderType : FatCrabOrderType)
    (history : History FatCrabTakerActor TakerMsg tradeInterface) : Prop :=
  orderType = .sell → phase history ≠ .accepted

theorem Remits.cons {entry : Entry FatCrabTakerActor TakerMsg tradeInterface}
    (hremits : Remits orderType history) (hentry : milestone entry ≠ some .accepted) :
    Remits orderType (entry :: history) := by
  intro hsell hphase
  rw [phase_cons] at hphase
  cases hmilestone : milestone entry with
  | none =>
      rw [hmilestone] at hphase
      exact hremits hsell hphase
  | some reached =>
      rw [hmilestone] at hphase
      obtain rfl : reached = .accepted := hphase
      exact hentry hmilestone

/-- No call leads to the phase in which the taker was accepted. -/
theorem milestone_called_ne (c : TradeCall) (reply : c.Reply) (store : FatCrabTakerActor) :
    milestone (.called c reply store) ≠ some .accepted := by
  unfold milestone
  split <;> simp_all

/-- What a handler has come to when it returns, as long as its calls succeed. -/
def Reaches (orderType : FatCrabOrderType) (network : Network) {α : Type}
    (program : Handler FatCrabTakerActor α)
    (history : History FatCrabTakerActor TakerMsg tradeInterface) (self : FatCrabTakerActor)
    (post : History FatCrabTakerActor TakerMsg tradeInterface → FatCrabTakerActor → Prop) : Prop :=
  program.Meets (Relies orderType network) (fun _ _ => True) (fun history self _ =>
    post history self) history self

section Reaches

attribute [local simp] Reaches Relies milestone TradeCall.Succeeds PurseRequest.Succeeds

theorem reaches_registerNotifTx (tx : NotifTx) :
    Reaches orderType network (handleRequest (.registerNotifTx tx)) history self
      fun after self => phase after = phase history ∧ self.notifTx.isSome := by
  simp [handleRequest, registerNotifTx, setNotifTx, withNotifTx]

theorem reaches_takeOrder :
    Reaches orderType network (handleRequest .takeOrder) history self
      fun history _ => phase history = .taken := by
  obtain ⟨inner, uuid, notifTx⟩ := self
  cases inner <;> simp [handleRequest, takeOrder, setState]

/-- Only a Buy taker is asked to release. -/
theorem reaches_releaseNotifyPeer (hround : Bitcoin.RoundTrip)
    (hcooperates : Cooperates .buy network history self) (txid : String) :
    Reaches .buy network (handleRequest (.releaseNotifyPeer (some txid))) history self
      fun history _ => phase history = .sent := by
  obtain ⟨inner, uuid, notifTx⟩ := self
  obtain ⟨hplays, -, -⟩ := hcooperates
  cases inner with
  | sell sell => exact hplays.elim
  | buy buy =>
      obtain ⟨hnetwork, hprinted, -⟩ := hplays
      obtain ⟨address, hparse, -, -⟩ := hprinted.parse hround
      rw [← hnetwork] at hparse
      simp [handleRequest, FatCrabTakerBuyActor.notifyPeer, hparse]

theorem reaches_tradeComplete :
    Reaches orderType network (handleRequest .tradeComplete) history self
      fun after self => phase after = phase history ∧ self.state = .tradeCompleted := by
  obtain ⟨inner, uuid, notifTx⟩ := self
  cases inner with
  | buy buy => simp [handleRequest, FatCrabTakerBuyActor.tradeComplete]
  | sell sell => simp [handleRequest, FatCrabTakerSellActor.tradeComplete]

/-- The payment and the message to the maker come with the acceptance. -/
theorem reaches_handleTradeRspNotif (hround : Bitcoin.RoundTrip)
    {envelope : TradeResponseEnvelope}
    (hcooperates : Cooperates .sell network history self) (hphase : phase history = .taken)
    (hresponse : envelope.tradeRsp.Accepts .sell network ∨ envelope.tradeRsp.Rejects) :
    Reaches .sell network (handleTradeRspNotif envelope)
      (.received (.notif (.ok (.tradeRsp envelope))) self :: history) self
      fun history _ => phase history ≠ .accepted := by
  obtain ⟨inner, uuid, notifTx⟩ := self
  obtain ⟨hplays, hshows, hlistening⟩ := hcooperates
  rw [hphase] at hshows hlistening
  obtain ⟨listener, rfl⟩ := Option.isSome_iff_exists.mp (hlistening (by decide))
  cases inner with
  | buy buy => exact hplays.elim
  | sell sell =>
      obtain ⟨hnetwork, hinner⟩ := hplays
      have hstate : sell.data.state = .submittedOffer := hshows
      have hlistener : sell.notifTx = some listener := hinner
      rcases hresponse with ⟨receiveAddress, haccept, hprinted⟩ | hreject
      · obtain ⟨address, rfl, hvalid⟩ := hprinted rfl
        have hparse := hround.address address
        rw [← hnetwork] at hvalid
        simp [handleTradeRspNotif, FatCrabTakerSellActor.handleTradeRspNotif,
          FatCrabTakerSellActor.releaseBtcNotifyPeer, FatCrabTakerSellActor.notifyTradeRsp,
          hstate, hlistener, haccept, hparse, hvalid]
      · have hrejected : FatCrabTradeRsp.fromN3xbTradeRsp envelope.tradeRsp = some .reject :=
          hreject
        simp [handleTradeRspNotif, FatCrabTakerSellActor.handleTradeRspNotif,
          FatCrabTakerSellActor.notifyTradeRsp, hstate, hlistener, hrejected]

end Reaches

/-- A taker that waits is a Buy taker, or it waits for something else than its user. -/
theorem contract_remits (hround : Bitcoin.RoundTrip) :
    Contract code (Relies orderType network) (Guarantees orderType network)
      (fun history self => Cooperates orderType network history self ∧
        Remits orderType history) := by
  apply (contract hround).and
  intro message history self hcooperates hremits hrelies
  obtain ⟨hguarantees, hhandler⟩ :=
    (contract hround).receive message history self hcooperates hrelies
  have hothers : milestone (.received message self) ≠ some .accepted →
      (code.handle message).Meets (Relies orderType network) (fun _ _ => True)
        (fun history _ _ => Remits orderType history) (.received message self :: history) self := by
    intro hmessage
    exact hhandler.keep (fun c reply store past _ _ hpast =>
      hpast.cons (milestone_called_ne c reply store))
      (hremits.cons hmessage)
  cases message with
  | request request => exact hothers nofun
  | notif result =>
      cases result with
      | error error => exact hothers nofun
      | ok notif =>
          cases notif with
          | peer envelope => exact hothers nofun
          | tradeRsp envelope =>
              obtain ⟨hphase, hresponse⟩ := hrelies
              cases orderType with
              | buy => exact hhandler.keep (fun _ _ _ _ _ _ _ => nofun) nofun
              | sell =>
                  have hreaches := reaches_handleTradeRspNotif hround hcooperates hphase hresponse
                  exact (Program.meets_bind ..).mpr
                    (hreaches.mono fun history _ _ hphase _ => hphase)

end FatCrabTakerActor

end FatCrabTrading
