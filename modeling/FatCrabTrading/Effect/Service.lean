import Mathlib.Data.List.Nodup
import Mathlib.Data.List.TakeWhile
import Mathlib.Logic.Function.Basic
import Mathlib.Logic.Relation

/-! # Calls through a queue

Clients share a server. A client that asks for something waits for the reply. Its request
goes into a bounded queue, is served in its turn, and the reply is kept until the client
takes it; a client may also give up. When the server's receiver goes, the requests in the
queue go with it. To the server and to every client this is as if each request were served
at once.
-/

namespace Effect

/-- What clients ask of a server. A client that asks goes on with the reply; `work` is what
it does on its own. A server that is not open replies to nothing, which clients see as
`gone`. It fails if a client has left before its reply, and may be opened anew once it is
closed. -/
structure Service (Client Server : Type) where
  Query : Type
  Reply : Query → Type
  asks : Client → Option ((query : Query) × (Reply query → Client))
  work : Client → Client → Prop
  serve : Server → (query : Query) → Reply query → Server → Prop
  isOpen : Server → Bool
  gone : (query : Query) → Reply query
  fail : Server → Server
  renew : Server → Server → Prop

variable {Client Server ι : Type}

namespace Service

/-! ## Every request is served at once -/

/-- A server and its clients. -/
structure Direct (Client Server ι : Type) where
  server : Server
  clients : ι → Client

/-- Where a client's call is: nowhere, in the line, answered so that the client can go on
as `next`, or given up by the client. -/
inductive Slip (Client : Type) where
  | none
  | waiting
  | answered (next : Client)
  | left

def Slip.isWaiting : Slip Client → Bool
  | .waiting => true
  | .none | .answered _ | .left => false

theorem Slip.eq_waiting {slip : Slip Client} (hwaiting : slip.isWaiting = true) :
    slip = .waiting := by
  cases slip with
  | waiting => rfl
  | none | answered next | left => cases hwaiting

/-- A server, its clients, the line of those who wait for it, and their calls. -/
structure Queued (Client Server ι : Type) where
  server : Server
  clients : ι → Client
  line : List ι
  slips : ι → Slip Client

variable [DecidableEq ι] (service : Service Client Server)

/-- One step of a client, with the server's reply if it asks and the server is there, or of
the server. -/
inductive Direct.Step : Direct Client Server ι → Direct Client Server ι → Prop where
  | work {direct : Direct Client Server ι} {slot next}
      (hwork : service.work (direct.clients slot) next) :
      Step direct { direct with clients := Function.update direct.clients slot next }
  | ask {direct : Direct Client Server ι} {slot query resume reply server}
      (hasks : service.asks (direct.clients slot) = some ⟨query, resume⟩)
      (hserve : service.serve direct.server query reply server) :
      Step direct ⟨server, Function.update direct.clients slot (resume reply)⟩
  | refuse {direct : Direct Client Server ι} {slot query resume}
      (hasks : service.asks (direct.clients slot) = some ⟨query, resume⟩)
      (hclosed : service.isOpen direct.server = false) :
      Step direct { direct with
        clients := Function.update direct.clients slot (resume (service.gone query)) }
  | fail {direct : Direct Client Server ι} :
      Step direct { direct with server := service.fail direct.server }
  | renew {direct : Direct Client Server ι} {server}
      (hclosed : service.isOpen direct.server = false)
      (hrenew : service.renew direct.server server) :
      Step direct { direct with server := server }

/-- Any number of steps. -/
def Direct.Steps : Direct Client Server ι → Direct Client Server ι → Prop :=
  Relation.ReflTransGen (Direct.Step service)

/-! ## Requests wait in a line -/

/-- What a client goes on with if its request is dropped. -/
def dismiss (client : Client) : Client :=
  match service.asks client with
  | some ⟨query, resume⟩ => resume (service.gone query)
  | none => client

/-- A client goes on in this way with some reply to what it asks. -/
def Replied (client next : Client) : Prop :=
  ∃ query resume reply, service.asks client = some ⟨query, resume⟩ ∧ next = resume reply

theorem replied_dismiss {client : Client} (hasks : (service.asks client).isSome) :
    service.Replied client (service.dismiss client) := by
  obtain ⟨⟨query, resume⟩, hasks⟩ := Option.isSome_iff_exists.mp hasks
  refine ⟨query, resume, service.gone query, hasks, ?_⟩
  unfold dismiss
  rw [hasks]

/-- A closed server refuses any number of clients. -/
theorem Direct.steps_dismiss {service : Service Client Server} {direct : Direct Client Server ι}
    (hclosed : service.isOpen direct.server = false) {slots : List ι} (honce : slots.Nodup)
    (hasking : ∀ slot ∈ slots, (service.asks (direct.clients slot)).isSome) :
    Direct.Steps service direct ⟨direct.server, fun slot =>
      if slot ∈ slots then service.dismiss (direct.clients slot) else direct.clients slot⟩ := by
  induction slots generalizing direct with
  | nil => exact .refl
  | cons first rest ih =>
      obtain ⟨hnot, hrest⟩ := List.nodup_cons.mp honce
      obtain ⟨⟨query, resume⟩, hasks⟩ :=
        Option.isSome_iff_exists.mp (hasking first List.mem_cons_self)
      have hdismiss : service.dismiss (direct.clients first) = resume (service.gone query) := by
        unfold dismiss
        rw [hasks]
      have hstep : Direct.Step service direct
          ⟨direct.server, Function.update direct.clients first (resume (service.gone query))⟩ :=
        .refuse hasks hclosed
      have hother : ∀ slot ∈ rest, slot ≠ first := fun slot hslot heq => hnot (heq ▸ hslot)
      have htail := @ih ⟨direct.server,
        Function.update direct.clients first (resume (service.gone query))⟩ hclosed hrest (by
          intro slot hslot
          dsimp only
          rw [Function.update_of_ne (hother slot hslot)]
          exact hasking slot (List.mem_cons_of_mem _ hslot))
      have heq : (fun slot => if slot ∈ first :: rest then service.dismiss (direct.clients slot)
            else direct.clients slot) = fun slot => if slot ∈ rest then
              service.dismiss (Function.update direct.clients first
                (resume (service.gone query)) slot)
            else Function.update direct.clients first (resume (service.gone query)) slot := by
        ext slot
        rcases eq_or_ne slot first with rfl | hne
        · rw [if_pos List.mem_cons_self, if_neg hnot, Function.update_self, hdismiss]
        · rw [Function.update_of_ne hne]
          simp only [List.mem_cons, hne, false_or]
      rw [heq]
      exact .head hstep htail

namespace Queued

/-- The receiver is dropped with all that is in the line. -/
def close (queued : Queued Client Server ι) : Queued Client Server ι :=
  { queued with
    line := []
    slips := fun slot => match queued.slips slot with
      | .waiting => .answered (service.dismiss (queued.clients slot))
      | slip => slip }

/-- A server that is not open any more has dropped its receiver. -/
def lapse (queued : Queued Client Server ι) : Queued Client Server ι :=
  if service.isOpen queued.server then queued else queued.close service

/-- The server takes the first request of the line. It fails on a reply that its client does
not wait for. -/
inductive Turn : Queued Client Server ι → Queued Client Server ι → Prop where
  | serve {queued : Queued Client Server ι} {slot rest query resume reply server}
      (hline : queued.line = slot :: rest) (hwaiting : queued.slips slot = .waiting)
      (hasks : service.asks (queued.clients slot) = some ⟨query, resume⟩)
      (hserve : service.serve queued.server query reply server) :
      Turn queued (lapse service ⟨server, queued.clients, rest,
        Function.update queued.slips slot (.answered (resume reply))⟩)
  | serveLeft {queued : Queued Client Server ι} {slot rest query resume reply server}
      (hline : queued.line = slot :: rest) (hleft : queued.slips slot = .left)
      (hasks : service.asks (queued.clients slot) = some ⟨query, resume⟩)
      (hserve : service.serve queued.server query reply server) :
      Turn queued (lapse service ⟨service.fail server, queued.clients, rest, queued.slips⟩)

/-- One step of a client, of the server or of the one who renews it. A request is sent once
there is room for it. -/
inductive Step (capacity : ℕ) : Queued Client Server ι → Queued Client Server ι → Prop where
  | work {queued : Queued Client Server ι} {slot next} (hfree : queued.slips slot = .none)
      (hwork : service.work (queued.clients slot) next) :
      Step capacity queued
        { queued with clients := Function.update queued.clients slot next }
  | send {queued : Queued Client Server ι} {slot query resume}
      (hfree : queued.slips slot = .none)
      (hasks : service.asks (queued.clients slot) = some ⟨query, resume⟩)
      (hopen : service.isOpen queued.server = true) (hroom : queued.line.length < capacity) :
      Step capacity queued { queued with
        line := queued.line ++ [slot]
        slips := Function.update queued.slips slot .waiting }
  | refuse {queued : Queued Client Server ι} {slot query resume}
      (hfree : queued.slips slot = .none)
      (hasks : service.asks (queued.clients slot) = some ⟨query, resume⟩)
      (hclosed : service.isOpen queued.server = false) :
      Step capacity queued { queued with
        clients := Function.update queued.clients slot (resume (service.gone query)) }
  | turn {queued next : Queued Client Server ι} (hturn : Turn service queued next) :
      Step capacity queued next
  | collect {queued : Queued Client Server ι} {slot next}
      (hanswered : queued.slips slot = .answered next) :
      Step capacity queued { queued with
        clients := Function.update queued.clients slot next
        slips := Function.update queued.slips slot .none }
  | leave {queued : Queued Client Server ι} (slot : ι) :
      Step capacity queued { queued with slips := Function.update queued.slips slot .left }
  | renew {queued : Queued Client Server ι} {server}
      (hclosed : service.isOpen queued.server = false)
      (hrenew : service.renew queued.server server) :
      Step capacity queued { queued with server := server }

/-- Any number of steps. -/
def Steps (capacity : ℕ) : Queued Client Server ι → Queued Client Server ι → Prop :=
  Relation.ReflTransGen (Step service capacity)

/-- The line holds those whose request is under way, once each, and nobody stands before a
closed server. A reply that is kept for a client is one to its request. -/
structure Orderly (capacity : ℕ) (queued : Queued Client Server ι) : Prop where
  once : queued.line.Nodup
  room : queued.line.length ≤ capacity
  asking : ∀ slot ∈ queued.line, (queued.slips slot = .waiting ∨ queued.slips slot = .left) ∧
    (service.asks (queued.clients slot)).isSome
  waiting : ∀ slot, queued.slips slot = .waiting → slot ∈ queued.line
  replied : ∀ slot next, queued.slips slot = .answered next →
    service.Replied (queued.clients slot) next
  closed : service.isOpen queued.server = false → queued.line = []

variable {service} {capacity : ℕ} {queued next later : Queued Client Server ι} {slot : ι}

section Lapse

omit [DecidableEq ι]

/-- A server and its clients before anyone has asked. -/
def begin (direct : Direct Client Server ι) : Queued Client Server ι :=
  ⟨direct.server, direct.clients, [], fun _ => .none⟩

theorem orderly_begin (direct : Direct Client Server ι) :
    Orderly service capacity (begin direct) := by
  refine ⟨List.nodup_nil, Nat.zero_le _, ?_, ?_, ?_, fun _ => rfl⟩
  · intro slot hslot
    cases hslot
  · intro slot hwaiting
    cases hwaiting
  · intro slot next hanswered
    cases hanswered

@[simp] theorem server_lapse (queued : Queued Client Server ι) :
    (queued.lapse service).server = queued.server := by
  unfold lapse close
  split <;> rfl

@[simp] theorem clients_lapse (queued : Queued Client Server ι) :
    (queued.lapse service).clients = queued.clients := by
  unfold lapse close
  split <;> rfl

theorem lapse_of_isOpen (hopen : service.isOpen queued.server = true) :
    queued.lapse service = queued :=
  if_pos hopen

theorem line_lapse (queued : Queued Client Server ι) :
    (queued.lapse service).line = queued.line ∨ (queued.lapse service).line = [] := by
  unfold lapse close
  split
  next => exact .inl rfl
  next => exact .inr rfl

/-- The line of an open server is orderly if it is once the server has lapsed. -/
theorem Orderly.lapse (once : queued.line.Nodup) (room : queued.line.length ≤ capacity)
    (asking : ∀ slot ∈ queued.line, (queued.slips slot = .waiting ∨ queued.slips slot = .left) ∧
      (service.asks (queued.clients slot)).isSome)
    (waiting : ∀ slot, queued.slips slot = .waiting → slot ∈ queued.line)
    (replied : ∀ slot next, queued.slips slot = .answered next →
      service.Replied (queued.clients slot) next) :
    Orderly service capacity (queued.lapse service) := by
  unfold Queued.lapse
  split
  next hopen =>
    refine ⟨once, room, asking, waiting, replied, fun hclosed => ?_⟩
    rw [hopen] at hclosed
    cases hclosed
  next hclosed =>
    refine ⟨List.nodup_nil, Nat.zero_le _, ?_, ?_, ?_, fun _ => rfl⟩
    · intro slot hslot
      cases hslot
    · intro slot hwaiting
      unfold close at hwaiting
      dsimp only at hwaiting
      split at hwaiting
      next => cases hwaiting
      next hne => exact absurd hwaiting hne
    · intro slot next hanswered
      unfold close at hanswered
      dsimp only at hanswered
      split at hanswered
      next hwaiting =>
        cases hanswered
        exact service.replied_dismiss (asking slot (waiting slot hwaiting)).2
      next => exact replied slot next hanswered

/-- Only a client whose request is under way, or who has left, stands in the line. -/
theorem Orderly.ne_of_mem (horderly : Orderly service capacity queued) {other : ι}
    (hother : other ∈ queued.line) (hwaiting : queued.slips slot ≠ .waiting)
    (hleft : queued.slips slot ≠ .left) : other ≠ slot := by
  rintro rfl
  exact (horderly.asking _ hother).1.elim hwaiting hleft

/-- Whoever waits stands in what is left of the line once one who left is out of it. -/
theorem Orderly.waiting_left (horderly : Orderly service capacity queued) {rest : List ι}
    (hline : queued.line = slot :: rest) (hleft : queued.slips slot = .left) (other : ι)
    (hother : queued.slips other = .waiting) : other ∈ rest := by
  have hmem := horderly.waiting other hother
  rw [hline] at hmem
  apply (List.mem_cons.mp hmem).resolve_left
  rintro rfl
  rw [hleft] at hother
  cases hother

end Lapse

/-- A slip that is not the new one is that of another client, as it was. -/
theorem of_update_slip {slips : ι → Slip Client} {other : ι} {new slip : Slip Client}
    (hslip : Function.update slips slot new other = slip) (hnew : new ≠ slip) :
    other ≠ slot ∧ slips other = slip := by
  rcases eq_or_ne other slot with rfl | hne
  · rw [Function.update_self] at hslip
    exact absurd hslip hnew
  · rw [Function.update_of_ne hne] at hslip
    exact ⟨hne, hslip⟩

/-- The others in the line stay as they are when the first is answered. -/
theorem Orderly.asking_answered (horderly : Orderly service capacity queued) {rest : List ι}
    (hline : queued.line = slot :: rest) (slip : Slip Client) (other : ι) (hother : other ∈ rest) :
    (Function.update queued.slips slot slip other = .waiting ∨
      Function.update queued.slips slot slip other = .left) ∧
        (service.asks (queued.clients other)).isSome := by
  have ⟨once, _, asking, _, _, _⟩ := horderly
  rw [hline] at once asking
  obtain ⟨hnot, -⟩ := List.nodup_cons.mp once
  have hne : other ≠ slot := fun heq => hnot (heq ▸ hother)
  rw [Function.update_of_ne hne]
  exact asking other (List.mem_cons_of_mem _ hother)

/-- Whoever still waits stands in what is left of the line once the first is answered. -/
theorem Orderly.waiting_answered (horderly : Orderly service capacity queued) {rest : List ι}
    (hline : queued.line = slot :: rest) (after : Client) (other : ι)
    (hother : Function.update queued.slips slot (.answered after) other = .waiting) :
    other ∈ rest := by
  obtain ⟨hne, hother⟩ := of_update_slip hother (by simp)
  have hmem := horderly.waiting other hother
  rw [hline] at hmem
  exact (List.mem_cons.mp hmem).resolve_left hne

/-- A client that is not under way changes without disturbing the line. -/
theorem Orderly.update (horderly : Orderly service capacity queued) (next : Client)
    (hwaiting : queued.slips slot ≠ .waiting)
    (hleft : queued.slips slot ≠ .left) :
    Orderly service capacity { queued with
      clients := Function.update queued.clients slot next
      slips := Function.update queued.slips slot .none } := by
  refine ⟨horderly.once, horderly.room, ?_, ?_, ?_, horderly.closed⟩
  · intro other hother
    have hne := horderly.ne_of_mem hother hwaiting hleft
    dsimp only
    rw [Function.update_of_ne hne, Function.update_of_ne hne]
    exact horderly.asking other hother
  · intro other hother
    obtain ⟨-, hsame⟩ := of_update_slip hother (by simp)
    exact horderly.waiting other hsame
  · intro other after hother
    obtain ⟨hne, hsame⟩ := of_update_slip hother (by simp)
    dsimp only
    rw [Function.update_of_ne hne]
    exact horderly.replied other after hsame

theorem Turn.orderly (hturn : Turn service queued next)
    (horderly : Orderly service capacity queued) : Orderly service capacity next := by
  have ⟨once, room, asking, waiting, replied, closed⟩ := horderly
  cases hturn with
  | @serve changed rest query resume reply server hline hwaiting hasks hserve =>
      rw [hline] at once room
      refine Orderly.lapse (List.nodup_cons.mp once).2 (Nat.le_of_succ_le room)
        (horderly.asking_answered hline _) (horderly.waiting_answered hline _) ?_
      intro other after hother
      dsimp only at hother ⊢
      rcases eq_or_ne other changed with rfl | hne
      · rw [Function.update_self] at hother
        cases hother
        exact ⟨query, resume, reply, hasks, rfl⟩
      · rw [Function.update_of_ne hne] at hother
        exact replied other after hother
  | @serveLeft changed rest query resume reply server hline hleft hasks hserve =>
      rw [hline] at once room asking
      exact Orderly.lapse (List.nodup_cons.mp once).2 (Nat.le_of_succ_le room)
        (fun other hother => asking other (List.mem_cons_of_mem _ hother))
        (horderly.waiting_left hline hleft) replied

theorem Step.orderly (hstep : Step service capacity queued next)
    (horderly : Orderly service capacity queued) : Orderly service capacity next := by
  have ⟨once, room, asking, waiting, replied, closed⟩ := horderly
  cases hstep with
  | @work changed after hfree hwork =>
      have hupdated := horderly.update after (by rw [hfree]; nofun) (by rw [hfree]; nofun)
      rw [← hfree, Function.update_eq_self] at hupdated
      exact hupdated
  | @send changed query resume hfree hasks hopen hroom =>
      have hnot : changed ∉ queued.line := by
        intro hmem
        exact horderly.ne_of_mem hmem (by rw [hfree]; nofun) (by rw [hfree]; nofun) rfl
      refine ⟨?_, ?_, ?_, ?_, ?_, fun hclosed => ?_⟩
      · exact once.append (List.nodup_singleton _) (by simpa using hnot)
      · rw [List.length_append]
        exact hroom
      · intro other hother
        dsimp only
        rcases eq_or_ne other changed with rfl | hne
        · rw [Function.update_self, hasks]
          exact ⟨.inl rfl, rfl⟩
        · rw [Function.update_of_ne hne]
          rcases List.mem_append.mp hother with hline | hlast
          · exact asking other hline
          · exact absurd (List.mem_singleton.mp hlast) hne
      · intro other hother
        dsimp only at hother
        rcases eq_or_ne other changed with rfl | hne
        · exact List.mem_append_right _ (List.mem_singleton_self _)
        · rw [Function.update_of_ne hne] at hother
          exact List.mem_append_left _ (waiting other hother)
      · intro other after hother
        obtain ⟨-, hsame⟩ := of_update_slip hother (by simp)
        exact replied other after hsame
      · rw [hopen] at hclosed
        cases hclosed
  | @refuse changed query resume hfree hasks hclosed =>
      have hupdated := horderly.update (resume (service.gone query)) (by rw [hfree]; nofun)
        (by rw [hfree]; nofun)
      rw [← hfree, Function.update_eq_self] at hupdated
      exact hupdated
  | turn hturn => exact hturn.orderly horderly
  | @collect changed after hanswered =>
      exact horderly.update after (by rw [hanswered]; nofun) (by rw [hanswered]; nofun)
  | leave changed =>
      refine ⟨once, room, ?_, ?_, ?_, closed⟩
      · intro other hother
        dsimp only
        rcases eq_or_ne other changed with rfl | hne
        · rw [Function.update_self]
          exact ⟨.inr rfl, (asking other hother).2⟩
        · rw [Function.update_of_ne hne]
          exact asking other hother
      · intro other hother
        obtain ⟨-, hsame⟩ := of_update_slip hother (by simp)
        exact waiting other hsame
      · intro other after hother
        obtain ⟨-, hsame⟩ := of_update_slip hother (by simp)
        exact replied other after hsame
  | renew hclosed hrenew =>
      exact ⟨once, room, asking, waiting, replied, fun _ => closed hclosed⟩

theorem Steps.orderly (hsteps : Steps service capacity queued later)
    (horderly : Orderly service capacity queued) : Orderly service capacity later := by
  induction hsteps with
  | refl => exact horderly
  | tail _ hstep ih => exact hstep.orderly ih

/-- What the server keeps while it serves, fails or is renewed, it keeps whatever stands in
the line. -/
theorem Steps.server_holds {P : Server → Prop} (hsteps : Steps service capacity queued later)
    (hserve : ∀ server query reply after, service.serve server query reply after → P server →
      P after)
    (hfail : ∀ server, P server → P (service.fail server))
    (hrenew : ∀ server after, service.renew server after → P server → P after)
    (hholds : P queued.server) : P later.server := by
  induction hsteps with
  | refl => exact hholds
  | tail _ hstep ih =>
      cases hstep with
      | turn hturn =>
          cases hturn with
          | serve hline hwaiting hasks hserved =>
              rw [server_lapse]
              exact hserve _ _ _ _ hserved ih
          | serveLeft hline hleft hasks hserved =>
              rw [server_lapse]
              exact hfail _ (hserve _ _ _ _ hserved ih)
      | renew hclosed hrenewed => exact hrenew _ _ hrenewed ih
      | _ => exact ih

/-! ## The line does not show -/

/-- A client is where it is or, once its reply is there, where it goes on. Nothing is said of
a client that has left and is not in the line any more. -/
def ShowsAt (queued : Queued Client Server ι) (direct : Direct Client Server ι) (slot : ι) : Prop :=
  match queued.slips slot with
  | .none | .waiting => direct.clients slot = queued.clients slot
  | .answered next => direct.clients slot = next
  | .left => slot ∈ queued.line → direct.clients slot = queued.clients slot

/-- The server is the same, and every client is shown. -/
structure Shows (queued : Queued Client Server ι) (direct : Direct Client Server ι) : Prop where
  server : direct.server = queued.server
  client : ∀ slot, ShowsAt queued direct slot

section ShowsAt

omit [DecidableEq ι]

variable {direct after : Direct Client Server ι}

theorem showsAt_none (hslip : queued.slips slot = .none) :
    ShowsAt queued direct slot ↔ direct.clients slot = queued.clients slot := by
  unfold ShowsAt
  rw [hslip]

theorem showsAt_waiting (hslip : queued.slips slot = .waiting) :
    ShowsAt queued direct slot ↔ direct.clients slot = queued.clients slot := by
  unfold ShowsAt
  rw [hslip]

theorem showsAt_answered {client : Client} (hslip : queued.slips slot = .answered client) :
    ShowsAt queued direct slot ↔ direct.clients slot = client := by
  unfold ShowsAt
  rw [hslip]

theorem showsAt_left (hslip : queued.slips slot = .left) :
    ShowsAt queued direct slot ↔
      (slot ∈ queued.line → direct.clients slot = queued.clients slot) := by
  unfold ShowsAt
  rw [hslip]

/-- A client that is not concerned by a step is shown as before. -/
theorem ShowsAt.congr (hshows : ShowsAt queued direct slot)
    (hslip : next.slips slot = queued.slips slot)
    (hclient : next.clients slot = queued.clients slot)
    (hshown : after.clients slot = direct.clients slot)
    (hline : slot ∈ next.line → slot ∈ queued.line) : ShowsAt next after slot := by
  unfold ShowsAt at hshows ⊢
  rw [hslip, hclient, hshown]
  split at hshows
  next => exact hshows
  next => exact hshows
  next => exact hshows
  next => exact fun hmem => hshows (hline hmem)

end ShowsAt

omit [DecidableEq ι] in
theorem shows_begin (direct : Direct Client Server ι) : Shows (begin direct) direct :=
  ⟨rfl, fun _ => rfl⟩

/-- Replies that are dropped with the line are those of a closed server. -/
theorem Shows.lapse {direct : Direct Client Server ι}
    (hshows : Shows queued direct) (once : queued.line.Nodup)
    (asking : ∀ slot ∈ queued.line, (queued.slips slot = .waiting ∨ queued.slips slot = .left) ∧
      (service.asks (queued.clients slot)).isSome)
    (waiting : ∀ slot, queued.slips slot = .waiting → slot ∈ queued.line) :
    ∃ after, Direct.Steps service direct after ∧ Shows (queued.lapse service) after := by
  unfold Queued.lapse
  split
  next => exact ⟨direct, .refl, hshows⟩
  next hclosed =>
    obtain ⟨hserver, hclient⟩ := hshows
    let slots := queued.line.filter fun slot => (queued.slips slot).isWaiting
    have hslots : ∀ slot ∈ slots, slot ∈ queued.line ∧ queued.slips slot = .waiting := by
      intro slot hslot
      obtain ⟨hline, hwaiting⟩ := List.mem_filter.mp hslot
      exact ⟨hline, Slip.eq_waiting hwaiting⟩
    refine ⟨_, @Direct.steps_dismiss _ _ _ _ service direct ?_ slots (once.filter _) ?_,
      hserver, ?_⟩
    · rw [hserver]
      exact Bool.eq_false_iff.mpr hclosed
    · intro slot hslot
      obtain ⟨hline, hwaiting⟩ := hslots slot hslot
      rw [(showsAt_waiting hwaiting).mp (hclient slot)]
      exact (asking slot hline).2
    · intro slot
      have hsame := hclient slot
      have hnot : queued.slips slot ≠ .waiting → slot ∉ slots :=
        fun hne hmem => hne (hslots slot hmem).2
      unfold ShowsAt at hsame ⊢
      unfold close
      dsimp only
      cases hslip : queued.slips slot with
      | none =>
          rw [hslip] at hsame
          rw [if_neg (hnot (by rw [hslip]; nofun))]
          exact hsame
      | waiting =>
          rw [hslip] at hsame
          have hmem : slot ∈ slots :=
            List.mem_filter.mpr ⟨waiting slot hslip, by rw [hslip]; rfl⟩
          rw [if_pos hmem, hsame]
      | answered next =>
          rw [hslip] at hsame
          rw [if_neg (hnot (by rw [hslip]; nofun))]
          exact hsame
      | left => exact nofun

/-- When the server takes a request, it may be served at once as well. -/
theorem Turn.shown (hturn : Turn service queued next)
    (horderly : Orderly service capacity queued) {direct : Direct Client Server ι}
    (hshows : Shows queued direct) :
    ∃ after, Direct.Steps service direct after ∧ Shows next after := by
  have ⟨once, room, asking, waiting, replied, closed⟩ := horderly
  have ⟨hserver, hclient⟩ := hshows
  cases hturn with
  | @serve changed rest query resume reply server hline hwaiting hasks hserve =>
      have hsame := (showsAt_waiting hwaiting).mp (hclient changed)
      rw [← hsame] at hasks
      rw [← hserver] at hserve
      rw [hline] at once
      have hasked : Direct.Step service direct _ := .ask hasks hserve
      have hmiddle : Shows ⟨server, queued.clients, rest,
            Function.update queued.slips changed (.answered (resume reply))⟩
          ⟨server, Function.update direct.clients changed (resume reply)⟩ := by
        refine ⟨rfl, fun slot => ?_⟩
        rcases eq_or_ne slot changed with rfl | hne
        · exact (showsAt_answered (Function.update_self ..)).mpr (Function.update_self ..)
        · refine (hclient slot).congr (Function.update_of_ne hne ..) rfl
            (Function.update_of_ne hne ..) fun hmem => ?_
          rw [hline]
          exact List.mem_cons_of_mem _ hmem
      obtain ⟨after, hsteps, hafter⟩ := hmiddle.lapse (List.nodup_cons.mp once).2
        (horderly.asking_answered hline _) (horderly.waiting_answered hline _)
      exact ⟨after, .head hasked hsteps, hafter⟩
  | @serveLeft changed rest query resume reply server hline hleft hasks hserve =>
      rw [hline] at once asking
      obtain ⟨hnot, hrest⟩ := List.nodup_cons.mp once
      have hsame := (showsAt_left hleft).mp (hclient changed) (hline ▸ List.mem_cons_self)
      rw [← hsame] at hasks
      rw [← hserver] at hserve
      have hasked : Direct.Step service direct _ := .ask hasks hserve
      have hmiddle : Shows ⟨service.fail server, queued.clients, rest, queued.slips⟩
          ⟨service.fail server, Function.update direct.clients changed (resume reply)⟩ := by
        refine ⟨rfl, fun slot => ?_⟩
        rcases eq_or_ne slot changed with rfl | hne
        · exact (showsAt_left (by exact hleft)).mpr fun hmem => absurd hmem hnot
        · refine (hclient slot).congr rfl rfl (Function.update_of_ne hne ..) fun hmem => ?_
          rw [hline]
          exact List.mem_cons_of_mem _ hmem
      obtain ⟨after, hsteps, hafter⟩ := hmiddle.lapse hrest
        (fun slot hslot => asking slot (List.mem_cons_of_mem _ hslot))
        (horderly.waiting_left hline hleft)
      exact ⟨after, .head hasked (.head .fail hsteps), hafter⟩

/-- Each step through the line is some steps in which each request is served at once. -/
theorem Step.shown (hstep : Step service capacity queued next)
    (horderly : Orderly service capacity queued) {direct : Direct Client Server ι}
    (hshows : Shows queued direct) :
    ∃ after, Direct.Steps service direct after ∧ Shows next after := by
  have ⟨once, room, asking, waiting, replied, closed⟩ := horderly
  have ⟨hserver, hclient⟩ := hshows
  cases hstep with
  | @work changed after hfree hwork =>
      have hsame := (showsAt_none hfree).mp (hclient changed)
      rw [← hsame] at hwork
      refine ⟨_, .single (.work hwork), hserver, fun slot => ?_⟩
      rcases eq_or_ne slot changed with rfl | hne
      · apply (showsAt_none (by exact hfree)).mpr
        dsimp only
        rw [Function.update_self, Function.update_self]
      · exact (hclient slot).congr rfl (Function.update_of_ne hne ..)
          (Function.update_of_ne hne ..) id
  | @send changed query resume hfree hasks hopen hroom =>
      have hsame := (showsAt_none hfree).mp (hclient changed)
      refine ⟨direct, .refl, hserver, fun slot => ?_⟩
      rcases eq_or_ne slot changed with rfl | hne
      · exact (showsAt_waiting (Function.update_self ..)).mpr hsame
      · refine (hclient slot).congr (Function.update_of_ne hne ..) rfl rfl fun hmem => ?_
        exact (List.mem_append.mp hmem).resolve_right fun hlast => hne (List.mem_singleton.mp hlast)
  | @refuse changed query resume hfree hasks hclosed =>
      have hsame := (showsAt_none hfree).mp (hclient changed)
      rw [← hsame] at hasks
      rw [← hserver] at hclosed
      refine ⟨_, .single (.refuse hasks hclosed), hserver, fun slot => ?_⟩
      rcases eq_or_ne slot changed with rfl | hne
      · apply (showsAt_none (by exact hfree)).mpr
        dsimp only
        rw [Function.update_self, Function.update_self]
      · exact (hclient slot).congr rfl (Function.update_of_ne hne ..)
          (Function.update_of_ne hne ..) id
  | turn hturn => exact hturn.shown horderly hshows
  | @collect changed after hanswered =>
      have hsame := (showsAt_answered hanswered).mp (hclient changed)
      refine ⟨direct, .refl, hserver, fun slot => ?_⟩
      rcases eq_or_ne slot changed with rfl | hne
      · apply (showsAt_none (Function.update_self ..)).mpr
        dsimp only
        rw [Function.update_self, hsame]
      · exact (hclient slot).congr (Function.update_of_ne hne ..) (Function.update_of_ne hne ..)
          rfl id
  | leave changed =>
      refine ⟨direct, .refl, hserver, fun slot => ?_⟩
      rcases eq_or_ne slot changed with rfl | hne
      · refine (showsAt_left (Function.update_self ..)).mpr fun hmem => ?_
        have hsame := hclient slot
        rcases (asking slot hmem).1 with hslip | hslip
        · exact (showsAt_waiting hslip).mp hsame
        · exact (showsAt_left hslip).mp hsame hmem
      · exact (hclient slot).congr (Function.update_of_ne hne ..) rfl rfl id
  | renew hclosed hrenew =>
      rw [← hserver] at hclosed hrenew
      exact ⟨_, .single (.renew hclosed hrenew), rfl, hclient⟩

/-- So is a whole run. -/
theorem Steps.shown (hsteps : Steps service capacity queued later)
    (horderly : Orderly service capacity queued) {direct : Direct Client Server ι}
    (hshows : Shows queued direct) :
    ∃ after, Direct.Steps service direct after ∧ Shows later after := by
  induction hsteps with
  | refl => exact ⟨direct, .refl, hshows⟩
  | @tail middle later hbefore hstep ih =>
      obtain ⟨between, hbetween, hmiddle⟩ := ih
      obtain ⟨after, hafter, hlater⟩ :=
        hstep.shown (Steps.orderly hbefore horderly) hmiddle
      exact ⟨after, hbetween.trans hafter, hlater⟩

/-! ## Nobody is overtaken twice -/

/-- A run in which a client stands in the line throughout, with the number of turns that the
server took. -/
inductive Waits (service : Service Client Server) (capacity : ℕ) (slot : ι) :
    Queued Client Server ι → ℕ → Queued Client Server ι → Prop where
  | here {queued : Queued Client Server ι} (hmem : slot ∈ queued.line) :
      Waits service capacity slot queued 0 queued
  | turn {first queued next : Queued Client Server ι} {turns}
      (hwaits : Waits service capacity slot first turns queued)
      (hturn : Turn service queued next) (hmem : slot ∈ next.line) :
      Waits service capacity slot first (turns + 1) next
  | step {first queued next : Queued Client Server ι} {turns}
      (hwaits : Waits service capacity slot first turns queued)
      (hstep : Step service capacity queued next) (hother : ¬Turn service queued next)
      (hmem : slot ∈ next.line) : Waits service capacity slot first turns next

/-- A turn takes the first of the line and, if it closes the server, all the others. -/
theorem Turn.line (hturn : Turn service queued next) :
    ∃ head rest, queued.line = head :: rest ∧ (next.line = rest ∨ next.line = []) := by
  cases hturn with
  | serve hline hwaiting hasks hserve => exact ⟨_, _, hline, line_lapse _⟩
  | serveLeft hline hleft hasks hserve => exact ⟨_, _, hline, line_lapse _⟩

theorem Turn.clients (hturn : Turn service queued next) : next.clients = queued.clients := by
  cases hturn with
  | serve hline hwaiting hasks hserve => exact clients_lapse _
  | serveLeft hline hleft hasks hserve => exact clients_lapse _

/-- Any other step leaves the line, or puts somebody at its end. -/
theorem Step.line (hstep : Step service capacity queued next)
    (hother : ¬Turn service queued next) :
    next.line = queued.line ∨ ∃ last, next.line = queued.line ++ [last] := by
  cases hstep with
  | @send changed query resume hfree hasks hopen hroom => exact .inr ⟨changed, rfl⟩
  | turn hturn => exact absurd hturn hother
  | _ => exact .inl rfl

theorem Waits.mem {turns : ℕ}
    (hwaits : Waits service capacity slot queued turns later) : slot ∈ queued.line := by
  induction hwaits with
  | here hmem => exact hmem
  | turn hwaits hturn hmem ih => exact ih
  | step hwaits hstep hother hmem ih => exact ih

/-- Whoever stands in the line moves up with each turn, and never moves back. -/
theorem Waits.place {turns : ℕ} (hwaits : Waits service capacity slot queued turns later)
    (horderly : Orderly service capacity queued) :
    Orderly service capacity later ∧ slot ∈ later.line ∧
      later.line.idxOf slot + turns = queued.line.idxOf slot := by
  induction hwaits with
  | here hmem => exact ⟨horderly, hmem, rfl⟩
  | @turn middle next turns hwaits hturn hmem ih =>
      obtain ⟨hmiddle, -, hplace⟩ := ih
      refine ⟨hturn.orderly hmiddle, hmem, ?_⟩
      obtain ⟨head, rest, hline, hnext | hnext⟩ := hturn.line
      · have honce := hmiddle.once
        rw [hline] at honce hplace
        rw [hnext] at hmem ⊢
        have hne : head ≠ slot := fun heq => (List.nodup_cons.mp honce).1 (heq ▸ hmem)
        rw [List.idxOf_cons_ne _ hne] at hplace
        omega
      · rw [hnext] at hmem
        cases hmem
  | @step middle next turns hwaits hstep hother hmem ih =>
      obtain ⟨hmiddle, hmember, hplace⟩ := ih
      refine ⟨hstep.orderly hmiddle, hmem, ?_⟩
      rcases hstep.line hother with hline | ⟨last, hline⟩
      · rw [hline]
        exact hplace
      · rw [hline, List.idxOf_append_of_mem hmember]
        exact hplace

/-- No more than those before it are served while a client waits. -/
theorem Waits.turns_lt {turns : ℕ} (hwaits : Waits service capacity slot queued turns later)
    (horderly : Orderly service capacity queued) : turns < capacity := by
  obtain ⟨hlater, hmem, hplace⟩ := hwaits.place horderly
  have hroom := horderly.room
  have hindex := List.idxOf_lt_length_of_mem hwaits.mem
  omega

/-- Whoever stands in the line does not move. -/
theorem Waits.client {turns : ℕ} (hwaits : Waits service capacity slot queued turns later)
    (horderly : Orderly service capacity queued) : later.clients slot = queued.clients slot := by
  induction hwaits with
  | here hmem => rfl
  | turn hwaits hturn hmem ih => rw [hturn.clients, ih]
  | @step middle next turns hwaits hstep hother hmem ih =>
      obtain ⟨hmiddle, hmember, -⟩ := hwaits.place horderly
      have hslip := (hmiddle.asking slot hmember).1
      rw [← ih]
      cases hstep with
      | @work changed after hfree hwork =>
          refine Function.update_of_ne ?_ ..
          rintro rfl
          simp [hfree] at hslip
      | @refuse changed query resume hfree hasks hclosed =>
          refine Function.update_of_ne ?_ ..
          rintro rfl
          simp [hfree] at hslip
      | @collect changed after hanswered =>
          refine Function.update_of_ne ?_ ..
          rintro rfl
          simp [hanswered] at hslip
      | turn hturn => exact absurd hturn hother
      | send hfree hasks hopen hroom => rfl
      | leave changed => rfl
      | renew hclosed hrenew => rfl

/-- A client that is taken from the line has its reply, if the server is still there. -/
theorem Turn.taken (hturn : Turn service queued next) (hwaiting : queued.slips slot = .waiting)
    (hmem : slot ∈ queued.line) (hgone : slot ∉ next.line)
    (hopen : service.isOpen next.server = true) :
    ∃ query resume reply, service.asks (queued.clients slot) = some ⟨query, resume⟩ ∧
      service.serve queued.server query reply next.server ∧
        next.slips slot = .answered (resume reply) := by
  cases hturn with
  | @serve head rest query resume reply server hline hslip hasks hserve =>
      rw [server_lapse] at hopen ⊢
      rw [lapse_of_isOpen hopen] at hgone ⊢
      rw [hline] at hmem
      obtain rfl : slot = head := (List.mem_cons.mp hmem).resolve_right hgone
      exact ⟨query, resume, reply, hasks, hserve, Function.update_self ..⟩
  | @serveLeft head rest query resume reply server hline hleft hasks hserve =>
      rw [server_lapse] at hopen
      rw [lapse_of_isOpen hopen] at hgone
      rw [hline] at hmem
      obtain rfl : slot = head := (List.mem_cons.mp hmem).resolve_right hgone
      rw [hleft] at hwaiting
      cases hwaiting

/-! ## Everybody is served -/

/-- A server that is ready for some queries replies to that many, and properly. It stays open
unless a query closes it. -/
structure Provides (service : Service Client Server) (ready : ℕ → Server → Prop)
    (proper : (query : service.Query) → service.Reply query → Prop)
    (closes : service.Query → Prop) : Prop where
  serve : ∀ number server query, service.isOpen server = true → ready (number + 1) server →
    ∃ reply after, service.serve server query reply after ∧ proper query reply ∧
      (¬closes query → service.isOpen after = true ∧ ready number after)

/-- A turn of the server, or a step that leaves it and all other clients as they are. -/
def Advance (service : Service Client Server) (capacity : ℕ) (slot : ι)
    (queued next : Queued Client Server ι) : Prop :=
  Turn service queued next ∨ Step service capacity queued next ∧ next.server = queued.server ∧
    ∀ other, other ≠ slot → next.clients other = queued.clients other ∧
      next.slips other = queued.slips other

/-- Any number of turns, and of steps of one client. -/
def Advances (service : Service Client Server) (capacity : ℕ) (slot : ι) :
    Queued Client Server ι → Queued Client Server ι → Prop :=
  Relation.ReflTransGen (Advance service capacity slot)

theorem advances_of_turns (hturns : Relation.ReflTransGen (Turn service) queued later) :
    Advances service capacity slot queued later :=
  hturns.lift id fun _ _ hturn => .inl hturn

/-- A client waits, and what it asks for does not close the server. -/
def Mild (service : Service Client Server) (closes : service.Query → Prop)
    (queued : Queued Client Server ι) (slot : ι) : Prop :=
  queued.slips slot = .waiting ∧
    ∀ query resume, service.asks (queued.clients slot) = some ⟨query, resume⟩ → ¬closes query

variable {ready : ℕ → Server → Prop}
  {proper : (query : service.Query) → service.Reply query → Prop}
  {closes : service.Query → Prop}

/-- What the server leaves once it has taken some clients from the front of the line. -/
structure Passed (service : Service Client Server) (before : List ι)
    (queued later : Queued Client Server ι) : Prop where
  turns : Relation.ReflTransGen (Turn service) queued later
  clients : later.clients = queued.clients
  slips : ∀ other ∉ before, later.slips other = queued.slips other
  isOpen : service.isOpen later.server = true

omit [DecidableEq ι] in
theorem Orderly.not_mem_before (horderly : Orderly service capacity queued)
    {before rest : List ι} (hline : queued.line = before ++ slot :: rest) : slot ∉ before := by
  have honce := horderly.once
  rw [hline, List.nodup_middle, List.nodup_cons] at honce
  exact fun hmem => honce.1 (List.mem_append_left rest hmem)

/-- An open server that is ready for them takes those who stand before the others. -/
theorem Orderly.pass (hprovides : Provides service ready proper closes)
    (horderly : Orderly service capacity queued)
    (hopen : service.isOpen queued.server = true) {before rest : List ι} {spare : ℕ}
    (hline : queued.line = before ++ rest)
    (hmild : ∀ other ∈ before, queued.Mild service closes other)
    (hready : ready (before.length + spare) queued.server) :
    ∃ later, Passed service before queued later ∧ later.line = rest ∧
      ready spare later.server := by
  induction before generalizing queued with
  | nil =>
      rw [List.length_nil, Nat.zero_add] at hready
      exact ⟨queued, ⟨.refl, rfl, fun _ _ => rfl, hopen⟩, hline, hready⟩
  | cons head before ih =>
      obtain ⟨hwaiting, hcloses⟩ := hmild head List.mem_cons_self
      rw [List.cons_append] at hline
      obtain ⟨⟨query, resume⟩, hasks⟩ :=
        Option.isSome_iff_exists.mp (horderly.asking head (hline ▸ List.mem_cons_self)).2
      rw [List.length_cons, Nat.add_right_comm] at hready
      obtain ⟨reply, server, hserve, -, hafter⟩ := hprovides.serve _ _ query hopen hready
      obtain ⟨hstill, hnext⟩ := hafter (hcloses query resume hasks)
      have hturn := Turn.serve hline hwaiting hasks hserve
      rw [lapse_of_isOpen hstill] at hturn
      -- whoever is still in the line is not the first
      have honce := horderly.once
      rw [hline] at honce
      have hother : ∀ other ∈ before, other ≠ head := by
        rintro other hmem rfl
        exact (List.nodup_cons.mp honce).1 (List.mem_append_left rest hmem)
      obtain ⟨later, hpassed, hrest, hspare⟩ := ih (hturn.orderly horderly) hstill rfl
        (by
          intro other hmem
          unfold Mild
          dsimp only
          rw [Function.update_of_ne (hother other hmem)]
          exact hmild other (List.mem_cons_of_mem head hmem)) hnext
      refine ⟨later, ⟨.head hturn hpassed.turns, hpassed.clients, ?_, hpassed.isOpen⟩, hrest,
        hspare⟩
      intro other hnot
      obtain ⟨hne, hnot⟩ := List.ne_and_not_mem_of_not_mem_cons hnot
      exact (hpassed.slips other hnot).trans (Function.update_of_ne hne ..)

omit [DecidableEq ι] in
theorem slips_lapse_answered {client : Client} (hslip : queued.slips slot = .answered client) :
    (queued.lapse service).slips slot = .answered client := by
  unfold Queued.lapse close
  split
  next => exact hslip
  next =>
    dsimp only
    rw [hslip]

/-- The first of the line is replied to, and goes on. -/
theorem goesOn_of_first (hprovides : Provides service ready proper closes)
    (hopen : service.isOpen queued.server = true) {rest : List ι} {number : ℕ} {query resume}
    (hline : queued.line = slot :: rest) (hwaiting : queued.slips slot = .waiting)
    (hasks : service.asks (queued.clients slot) = some ⟨query, resume⟩)
    (hready : ready (number + 1) queued.server) :
    ∃ later reply, Advances service capacity slot queued later ∧ proper query reply ∧
      later.slips slot = .none ∧
        later.clients = Function.update queued.clients slot (resume reply) := by
  obtain ⟨reply, server, hserve, hproper, -⟩ := hprovides.serve _ _ query hopen hready
  have hturn := Turn.serve hline hwaiting hasks hserve
  have hanswered := @slips_lapse_answered _ _ _ service ⟨server, queued.clients, rest,
    Function.update queued.slips slot (.answered (resume reply))⟩ slot _ (Function.update_self ..)
  have hcollect : Step service capacity _ _ := .collect hanswered
  refine ⟨_, reply, .tail (.single (.inl hturn)) (.inr ⟨hcollect, rfl, ?_⟩), hproper,
    Function.update_self .., ?_⟩
  · intro other hother
    exact ⟨Function.update_of_ne hother .., Function.update_of_ne hother ..⟩
  · rw [clients_lapse]

/-- A client that has asked goes on with a proper reply, if the server is ready for those
before it and for it. -/
theorem Orderly.replies_waiting (hprovides : Provides service ready proper closes)
    (horderly : Orderly service capacity queued)
    (hopen : service.isOpen queued.server = true) {before rest : List ι} {spare : ℕ}
    (hline : queued.line = before ++ slot :: rest)
    (hready : ready (before.length + (spare + 1)) queued.server) {query resume}
    (hasks : service.asks (queued.clients slot) = some ⟨query, resume⟩)
    (hwaiting : queued.slips slot = .waiting)
    (hmild : ∀ other ∈ before, queued.Mild service closes other) :
    ∃ later reply, Advances service capacity slot queued later ∧ proper query reply ∧
      later.slips slot = .none ∧
        later.clients = Function.update queued.clients slot (resume reply) := by
  have hnot := horderly.not_mem_before hline
  obtain ⟨middle, hpassed, hrest, hspare⟩ := horderly.pass hprovides hopen hline hmild hready
  rw [← hpassed.slips slot hnot] at hwaiting
  rw [← hpassed.clients] at hasks ⊢
  obtain ⟨later, reply, hsteps, hgoes⟩ :=
    goesOn_of_first hprovides hpassed.isOpen hrest hwaiting hasks hspare
  exact ⟨later, reply, (advances_of_turns hpassed.turns).trans hsteps, hgoes⟩

/-- So does one that has yet to ask, once the line was taken. -/
theorem Orderly.replies_free (hprovides : Provides service ready proper closes)
    (hcapacity : 0 < capacity) (horderly : Orderly service capacity queued)
    (hopen : service.isOpen queued.server = true)
    (hready : ready (queued.line.length + 1) queued.server) {query resume}
    (hasks : service.asks (queued.clients slot) = some ⟨query, resume⟩)
    (hfree : queued.slips slot = .none)
    (hmild : ∀ other ∈ queued.line, queued.Mild service closes other) :
    ∃ later reply, Advances service capacity slot queued later ∧ proper query reply ∧
      later.slips slot = .none ∧
        later.clients = Function.update queued.clients slot (resume reply) := by
  have hnot : slot ∉ queued.line := fun hmem =>
    horderly.ne_of_mem hmem (by rw [hfree]; nofun) (by rw [hfree]; nofun) rfl
  obtain ⟨middle, hpassed, hempty, hspare⟩ :=
    horderly.pass hprovides hopen (List.append_nil _).symm hmild hready
  rw [← hpassed.slips slot hnot] at hfree
  rw [← hpassed.clients] at hasks ⊢
  -- the line is empty, so there is room
  have hsend : Step service capacity middle _ :=
    .send hfree hasks hpassed.isOpen (by rw [hempty]; exact hcapacity)
  have hadvance : Advance service capacity slot middle _ :=
    .inr ⟨hsend, rfl, fun other hother => ⟨rfl, Function.update_of_ne hother ..⟩⟩
  have hfirst : middle.line ++ [slot] = [slot] := by
    rw [hempty]
    rfl
  obtain ⟨later, reply, hsteps, hgoes⟩ := @goesOn_of_first _ _ _ _ _ capacity
    ⟨middle.server, middle.clients, middle.line ++ [slot],
      Function.update middle.slips slot .waiting⟩ slot _ _ _ hprovides hpassed.isOpen _ 0 _ _
    hfirst (Function.update_self ..) hasks hspare
  exact ⟨later, reply, (advances_of_turns hpassed.turns).trans (.head hadvance hsteps), hgoes⟩

/-- A client whose request is not yet replied to goes on with a proper reply, by its own steps
and turns of the server, if the server is open and ready for the line and for one more, and
those before it wait for replies to requests that do not close the server. -/
theorem Orderly.replies (hprovides : Provides service ready proper closes)
    (hcapacity : 0 < capacity) (horderly : Orderly service capacity queued)
    (hopen : service.isOpen queued.server = true)
    (hready : ready (queued.line.length + 1) queued.server) {query resume}
    (hasks : service.asks (queued.clients slot) = some ⟨query, resume⟩)
    (hslip : queued.slips slot = .none ∨ queued.slips slot = .waiting)
    (hmild : ∀ other ∈ queued.line.takeWhile (· ≠ slot), queued.Mild service closes other) :
    ∃ later reply, Advances service capacity slot queued later ∧ proper query reply ∧
      later.slips slot = .none ∧
        later.clients = Function.update queued.clients slot (resume reply) := by
  have hbefore {before : List ι} (hnot : slot ∉ before) :
      ∀ other ∈ before, decide (other ≠ slot) = true := by
    intro other hother
    exact decide_eq_true fun heq => hnot (heq ▸ hother)
  rcases hslip with hfree | hwaiting
  · have hnot : slot ∉ queued.line := fun hmem =>
      horderly.ne_of_mem hmem (by rw [hfree]; nofun) (by rw [hfree]; nofun) rfl
    rw [List.takeWhile_eq_self_iff.mpr (hbefore hnot)] at hmild
    exact horderly.replies_free hprovides hcapacity hopen hready hasks hfree hmild
  · obtain ⟨before, rest, hline⟩ := List.append_of_mem (horderly.waiting slot hwaiting)
    have hnot := horderly.not_mem_before hline
    have hfront : queued.line.takeWhile (· ≠ slot) = before := by
      rw [hline, List.takeWhile_append_of_pos (hbefore hnot), List.takeWhile_cons_of_neg (by simp),
        List.append_nil]
    rw [hfront] at hmild
    rw [hline, List.length_append, List.length_cons, Nat.add_assoc] at hready
    exact horderly.replies_waiting hprovides hopen hline hready hasks hwaiting hmild

end Queued

end Service

end Effect
