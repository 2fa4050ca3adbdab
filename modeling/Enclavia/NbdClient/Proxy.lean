import Enclavia.NbdClient.Kernel
import Enclavia.NbdClient.ReplyStages
import Enclavia.NbdClient.RequestStages
import Mathlib.Logic.Function.Basic
import Mathlib.Logic.Relation

open interaction enclavia.synchronizer

namespace enclavia.nbd_client

def PIN_QUEUE : Nat := 64

/-- What the tasks of a running client share: the kernel with the bytes that it has written and the request proxy has
not read, the tables, and the queues. -/
structure Shared where
  kernel : Kernel
  unread : List UInt8
  inflight : Std.ExtTreeMap UInt64 UInt32
  gate : PinGate
  watch : RegionWatch
  jobs : List (Nat × PinJob)
  nudges : Nat
  received : Nat
  floors : Nat → Nat
  begun : List Nat
  job : Option Nat
  settled : List Nat
  pins : List (Nat × Bytes32)
  refusals : List Nat
  request : RequestStage
  pin : PinStage
  reply : ReplyStage

def Shared.new (boot_commitment : Bytes32) : Shared where
  kernel := .new
  unread := []
  inflight := ∅
  gate := .new
  watch := .new boot_commitment
  jobs := []
  nudges := 0
  received := 0
  floors := fun _ => 0
  begun := []
  job := none
  settled := []
  pins := []
  refusals := []
  request := .waiting
  pin := .idle
  reply := ⟨.selecting, [], ∅⟩

section Effects

variable (gone : Prop) (s : Shared)

inductive RequestPerforms : (effect : RequestEffect) → RequestAnswer effect → Shared → Prop
  | read_exact {n : Nat} (hready : n ≤ s.unread.length) :
      RequestPerforms (.read_exact n) (.ok (s.unread.take n)) { s with unread := s.unread.drop n }
  | read_fails {n : Nat} {e : IoError} : RequestPerforms (.read_exact n) (.error e) s
  | inflight_insert {h : UInt64} {l : UInt32} :
      RequestPerforms (.inflight_insert h l) () { s with inflight := s.inflight.insert h l }
  | watch_read {h : UInt64} {o : Nat} :
      RequestPerforms (.watch_read h o) ()
        { s with watch := s.watch.watch_read h o, floors := Function.update s.floors s.received s.watch.newest }
  | gate_begin {h : UInt64} : RequestPerforms (.gate_begin h) () { s with gate := s.gate.begin h }
  | write_header {b : List UInt8} : RequestPerforms (.write_header b) (.ok ()) { s with received := s.received + 1 }
  | header_fails {b : List UInt8} {e : IoError} : RequestPerforms (.write_header b) (.error e) s
  | write_payload {b : List UInt8} : RequestPerforms (.write_payload b) (.ok ()) s
  | payload_fails {b : List UInt8} {e : IoError} : RequestPerforms (.write_payload b) (.error e) s
  | begin_pending {h : UInt64} {c : Bytes32} :
      RequestPerforms (.begin_pending h c) ()
        { s with watch := s.watch.begin_pending h c, begun := s.begun ++ [s.received - 1] }
  | send {j : PinJob} (hroom : s.jobs.length < PIN_QUEUE) :
      RequestPerforms (.send j) true { s with jobs := s.jobs ++ [(s.received - 1, j)] }
  | send_refused {j : PinJob} (hgone : gone) : RequestPerforms (.send j) false s
  | flush : RequestPerforms .flush (.ok ()) s
  | flush_fails {e : IoError} : RequestPerforms .flush (.error e) s

inductive PinPerforms : (effect : PinEffect) → PinAnswer effect → Shared → Prop
  | recv {n : Nat} {j : PinJob} {l : List (Nat × PinJob)} (hjobs : s.jobs = (n, j) :: l) :
      PinPerforms .recv (some j) { s with jobs := l, job := some n }
  | recv_closed (hgone : gone) (hjobs : s.jobs = []) : PinPerforms .recv none s
  | pin_ok {c : Bytes32} {n : Nat} (hjob : s.job = some n) :
      PinPerforms (.pin c) (.ok ()) { s with pins := s.pins ++ [(n, c)] }
  | pin_refused {c : Bytes32} {n : Nat} {r : String} (hjob : s.job = some n) :
      PinPerforms (.pin c) (.error r) { s with refusals := s.refusals ++ [n] }
  | commit {h : UInt64} : PinPerforms (.commit h) () { s with watch := s.watch.commit h }
  | finish_ok {h : UInt64} :
      PinPerforms (.finish_ok h) ()
        { s with gate := s.gate.finish_ok h, settled := s.settled ++ s.job.toList, job := none }
  | finish_err {h : UInt64} {r : String} :
      PinPerforms (.finish_err h r) () { s with gate := s.gate.finish_err h r }
  | nudge : PinPerforms .nudge () { s with nudges := s.nudges + 1 }

inductive ReplyPerforms : (effect : ReplyEffect) → ReplyAnswer effect → Shared → Prop
  | select_read {n : Nat} {o : Bool} {b : List UInt8} (hlength : b.length ≤ n) :
      ReplyPerforms (.select n o) (.read (.ok b)) s
  | select_fails {n : Nat} {o : Bool} {e : IoError} : ReplyPerforms (.select n o) (.read (.error e)) s
  | select_nudge {n : Nat} (hnudges : 0 < s.nudges) :
      ReplyPerforms (.select n true) (.nudge (some ())) { s with nudges := s.nudges - 1 }
  | select_closed {n : Nat} (hgone : gone) (hnudges : s.nudges = 0) : ReplyPerforms (.select n true) (.nudge none) s
  | keys {k l : List UInt64} (hperm : l.Perm k) : ReplyPerforms (.keys k) l s
  | inflight_remove {h : UInt64} :
      ReplyPerforms (.inflight_remove h) s.inflight[h]? { s with inflight := s.inflight.erase h }
  | read_payload_offset {h : UInt64} :
      ReplyPerforms (.read_payload_offset h) (s.watch.read_payload_offset h) s
  | drop_read {h : UInt64} : ReplyPerforms (.drop_read h) () { s with watch := s.watch.drop_read h }
  | read_exact {n : Nat} {b : List UInt8} (hlength : b.length = n) : ReplyPerforms (.read_exact n) (.ok b) s
  | read_fails {n : Nat} {e : IoError} : ReplyPerforms (.read_exact n) (.error e) s
  | verify_read {h : UInt64} {r : List UInt8} :
      ReplyPerforms (.verify_read h r) (s.watch.verify_read h r).1 { s with watch := (s.watch.verify_read h r).2 }
  | gate_check {h : UInt64} :
      ReplyPerforms (.gate_check h) (s.gate.check h).1 { s with gate := (s.gate.check h).2 }
  | write_header {b : List UInt8} :
      ReplyPerforms (.write_header b) (.ok ()) { s with kernel := s.kernel.receive b }
  | header_fails {b : List UInt8} {e : IoError} : ReplyPerforms (.write_header b) (.error e) s
  | write_payload {b : List UInt8} :
      ReplyPerforms (.write_payload b) (.ok ()) { s with kernel := s.kernel.receive b }
  | payload_fails {b : List UInt8} {e : IoError} : ReplyPerforms (.write_payload b) (.error e) s
  | flush : ReplyPerforms .flush (.ok ()) s
  | flush_fails {e : IoError} : ReplyPerforms .flush (.error e) s

end Effects

structure Proxy where
  shared : Shared
  requester : RequestProc (Round Unit)
  actor : PinProc (Round Unit)
  pump : ReplyProc (Round Pump)

inductive Label where
  | issue (request : NbdRequest)
  | request (event : Event RequestAnswer)
  | pin (event : Event PinAnswer)
  | reply (event : Event ReplyAnswer)
  | again

namespace Proxy

variable (data_offset : UInt64)

def new (boot_commitment : Bytes32) : Proxy where
  shared := .new boot_commitment
  requester := request_proxy data_offset
  actor := pin_actor
  pump := gated_reply_proxy .new

def Over {E : Type} {R : E → Type} {σ : Type} (program : Program E R (Round σ)) : Prop :=
  ∃ result, program = .ret (.over result)

/-- One step of the client: the kernel issues a request under a handle that is not in use, or one task has one of
its effects. -/
inductive Step (s : Proxy) : Label → Proxy → Prop
  | issue {r : NbdRequest} (hfree : ∀ n, ¬s.shared.kernel.User r.handle n) :
      Step s (.issue r) { s with
        shared.kernel := s.shared.kernel.issue r
        shared.unread := s.shared.unread ++ (r.header ++ r.payload) }
  | request {e : RequestEffect} {k : RequestAnswer e → RequestProc (Round Unit)} {a : RequestAnswer e} {t : Shared}
      (hprogram : s.requester = .act e k) (hperforms : RequestPerforms (Over s.actor) s.shared e a t) :
      Step s (.request ⟨e, a⟩) { s with
        shared := { t with request := t.request.advance e a }
        requester := k a }
  | pin {e : PinEffect} {k : PinAnswer e → PinProc (Round Unit)} {a : PinAnswer e} {t : Shared}
      (hprogram : s.actor = .act e k) (hperforms : PinPerforms (Over s.requester) s.shared e a t) :
      Step s (.pin ⟨e, a⟩) { s with
        shared := { t with pin := t.pin.advance e a }
        actor := k a }
  | reply {e : ReplyEffect} {k : ReplyAnswer e → ReplyProc (Round Pump)} {a : ReplyAnswer e} {t : Shared}
      (hprogram : s.pump = .act e k) (hperforms : ReplyPerforms (Over s.actor) s.shared e a t) :
      Step s (.reply ⟨e, a⟩) { s with
        shared := { t with reply := t.reply.advance e a }
        pump := k a }
  | request_again (hprogram : s.requester = .ret (.again ())) :
      Step s .again { s with
        shared.request := .waiting
        requester := request_proxy data_offset }
  | pin_again (hprogram : s.actor = .ret (.again ())) : Step s .again { s with actor := pin_actor }
  | reply_again {p : Pump} (hprogram : s.pump = .ret (.again p)) :
      Step s .again { s with
        shared.reply := ⟨.selecting, p.header, p.stashed⟩
        pump := gated_reply_proxy p }

/-- The states that a client comes to in runs whose steps all meet a condition. -/
def Reaches (C : Proxy → Label → Prop) (boot_commitment : Bytes32) : Proxy → Prop :=
  Relation.ReflTransGen (fun s s' => ∃ label, C s label ∧ Step data_offset s label s')
    (new data_offset boot_commitment)

variable {data_offset} in
theorem Reaches.step {C : Proxy → Label → Prop} {boot_commitment : Bytes32} {s s' : Proxy} {label : Label}
    (hreaches : Reaches data_offset C boot_commitment s) (hstep : Step data_offset s label s')
      (hcondition : C s label) :
    Reaches data_offset C boot_commitment s' :=
  .tail hreaches ⟨label, hcondition, hstep⟩

end Proxy

end enclavia.nbd_client
