import FatCrabTrading.Purse.Ledger

/-! # A handler in its surroundings

One handler of a maker or a taker is run to its end against the purse of its trader.
Each of its requests to the purse is served in full; n3xB, the listener and the
requester answer as they are at the time.
-/

namespace FatCrabTrading

open Effect

/-- What n3xB answers, which listeners are there, and whether the requester waits. -/
structure Surroundings where
  n3xb : N3xbRequest → Except N3xbError Unit
  listening : NotifTx → Bool
  waiting : Bool

variable [Bitcoin]

/-- The purse after some requests of a handler, and what was observed of its calls. -/
structure Served (σ Msg : Type) where
  purse : Purse
  history : History σ Msg tradeInterface

/-- The purse serves with some answers of the wallet; the rest answers for itself. -/
def served {σ Msg : Type} (wallet : WalletAnswers) (around : Surroundings) :
    Program.Environment σ tradeInterface (Served σ Msg)
  | store, ⟨purse, history⟩, .purse request =>
      let (reply, purse) := purse.serve wallet request
      (reply, ⟨purse, .called (.purse request) reply store :: history⟩)
  | store, ⟨purse, history⟩, .n3xb request =>
      (around.n3xb request, ⟨purse, .called (.n3xb request) (around.n3xb request) store :: history⟩)
  | store, ⟨purse, history⟩, .notify notifTx notif =>
      (around.listening notifTx,
        ⟨purse, .called (.notify notifTx notif) (around.listening notifTx) store :: history⟩)
  | store, ⟨purse, history⟩, .respond rsp =>
      (around.waiting, ⟨purse, .called (.respond rsp) around.waiting store :: history⟩)
  | store, ⟨purse, history⟩, .terminate =>
      ((), ⟨purse, .called .terminate () store :: history⟩)

section Served

variable {σ Msg : Type} (wallet : WalletAnswers) (around : Surroundings) (store : σ)
  (environment : Served σ Msg)

@[simp] theorem served_purse_fst (request : PurseRequest) :
    (served wallet around store environment (.purse request)).1 =
      (environment.purse.serve wallet request).1 := rfl

@[simp] theorem served_purse_snd (request : PurseRequest) :
    (served wallet around store environment (.purse request)).2 =
      ⟨(environment.purse.serve wallet request).2,
        .called (.purse request) (environment.purse.serve wallet request).1 store ::
          environment.history⟩ := rfl

@[simp] theorem served_n3xb (request : N3xbRequest) :
    served wallet around store environment (.n3xb request) =
      (around.n3xb request, ⟨environment.purse,
        .called (.n3xb request) (around.n3xb request) store :: environment.history⟩) := rfl

@[simp] theorem served_notify (notifTx : NotifTx) (notif : TradeNotif) :
    served wallet around store environment (.notify notifTx notif) =
      (around.listening notifTx, ⟨environment.purse,
        .called (.notify notifTx notif) (around.listening notifTx) store ::
          environment.history⟩) := rfl

@[simp] theorem served_respond (rsp : Rsp) :
    served wallet around store environment (.respond rsp) =
      (around.waiting, ⟨environment.purse,
        .called (.respond rsp) around.waiting store :: environment.history⟩) := rfl

@[simp] theorem served_terminate :
    served wallet around store environment .terminate =
      ((), ⟨environment.purse, .called .terminate () store :: environment.history⟩) := rfl

end Served

end FatCrabTrading
