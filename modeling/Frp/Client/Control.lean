import Mathlib.Logic.Basic

/-! The shutdown of a client `Control`: its `reader`, `writer`, `msgHandler` and `worker`
goroutines as program counters over the channels they share, under every interleaving. -/
namespace Frp.Client

/-- A channel as its users see it: the values in its buffer and whether it is closed. -/
structure Chan where
  buf : Nat := 0
  closed : Bool := false
  deriving DecidableEq

def chanCap : Nat := 100

def sendOnClosedChannel : String := "send on closed channel"
def closeOfClosedChannel : String := "close of closed channel"

inductive SendResult where
  | sent (c : Chan)
  | blocked
  | panicked

def Chan.send (c : Chan) (cap : Nat) : SendResult :=
  if c.closed then .panicked
  else if c.buf < cap then .sent { c with buf := c.buf + 1 } else .blocked

inductive RecvResult where
  | received (c : Chan)
  | closed
  | blocked

def Chan.recv (c : Chan) : RecvResult :=
  if 0 < c.buf then .received { c with buf := c.buf - 1 }
  else if c.closed then .closed else .blocked

def Chan.close (c : Chan) : Option Chan :=
  if c.closed then none else some { c with closed := true }

/-- Where `reader` is: not started, at `msg.ReadMsg`, at `ctl.readCh <- m`, at its deferred
`close(ctl.closedCh)`, at its deferred `readerShutdown.Done()`, returned. -/
inductive ReaderPc where
  | idle | read | send | closeClosedCh | done | finished
  deriving DecidableEq

/-- Where `writer` is: not started, at `crypto.NewWriter`, at `<-ctl.sendCh`, at
`msg.WriteMsg`, at its deferred `writerShutdown.Done()`, returned. -/
inductive WriterPc where
  | idle | newWriter | recv | write | done | finished
  deriving DecidableEq

/-- Where `msgHandler` is: not started, at its `select`, at `ctl.sendCh <- &msg.Ping{}`, at its
deferred `msgHandlerShutdown.Done()`, returned. -/
inductive MsgHandlerPc where
  | idle | select | sendPing | done | finished
  deriving DecidableEq

inductive WorkerPc where
  | spawnMsgHandler | spawnReader | spawnWriter | waitClosed | closeReadCh | waitReader
  | waitMsgHandler | closeSendCh | waitWriter | pmClose | vmClose | closeClosedDoneCh
  | closeSession | finished
  deriving DecidableEq

def WorkerPc.rank : WorkerPc → Nat
  | .spawnMsgHandler => 0 | .spawnReader => 1 | .spawnWriter => 2 | .waitClosed => 3
  | .closeReadCh => 4 | .waitReader => 5 | .waitMsgHandler => 6 | .closeSendCh => 7
  | .waitWriter => 8 | .pmClose => 9 | .vmClose => 10 | .closeClosedDoneCh => 11
  | .closeSession => 12 | .finished => 13

def WorkerPc.past (pc w : WorkerPc) : Bool := w.rank < pc.rank

/-- The goroutines and what they share. `readerShutdown` and the others are the flags
`shutdown.Done()` sets and `WaitDone()` waits for (golib's `shutdown.Shutdown`, outside src/);
`pmClosed` and `vmClosed` record the calls of `ctl.pm.Close()` and `ctl.vm.Close()`; `panics`
lists the runtime errors raised, recovered or not. -/
structure Control where
  reader : ReaderPc := .idle
  writer : WriterPc := .idle
  msgHandler : MsgHandlerPc := .idle
  worker : WorkerPc := .spawnMsgHandler
  sendCh : Chan := {}
  readCh : Chan := {}
  closedCh : Chan := {}
  closedDoneCh : Chan := {}
  readerShutdown : Bool := false
  writerShutdown : Bool := false
  msgHandlerShutdown : Bool := false
  pmClosed : Bool := false
  vmClosed : Bool := false
  connClosed : Bool := false
  panics : List String := []

def Control.init : Control := {}

inductive ReadResult where
  | msg | eof | err

/-- One step of `reader`. A read on a closed connection fails; a panic runs the deferred
calls. -/
def Control.readerStep (s : Control) (r : ReadResult) : Option Control :=
  match s.reader with
  | .read =>
    match if s.connClosed then .err else r with
    | .msg => some { s with reader := .send }
    | .eof => some { s with reader := .closeClosedCh }
    | .err => some { s with reader := .closeClosedCh, connClosed := true }
  | .send =>
    match s.readCh.send chanCap with
    | .sent c => some { s with readCh := c, reader := .read }
    | .blocked => none
    | .panicked =>
      some { s with reader := .closeClosedCh, panics := s.panics ++ [sendOnClosedChannel] }
  | .closeClosedCh =>
    match s.closedCh.close with
    | some c => some { s with closedCh := c, reader := .done }
    | none => some { s with reader := .done, panics := s.panics ++ [closeOfClosedChannel] }
  | .done => some { s with readerShutdown := true, reader := .finished }
  | .idle | .finished => none

/-- One step of `writer`; `ok` is whether the call it makes succeeds. A write on a closed
connection fails. -/
def Control.writerStep (s : Control) (ok : Bool) : Option Control :=
  match s.writer with
  | .newWriter =>
    if ok then some { s with writer := .recv }
    else some { s with writer := .done, connClosed := true }
  | .recv =>
    match s.sendCh.recv with
    | .received c => some { s with sendCh := c, writer := .write }
    | .closed => some { s with writer := .done }
    | .blocked => none
  | .write =>
    if ok && !s.connClosed then some { s with writer := .recv } else some { s with writer := .done }
  | .done => some { s with writerShutdown := true, writer := .finished }
  | .idle | .finished => none

/-- The case of the `select` of `msgHandler` that fires: a tick of `hbSend`, a tick of
`hbCheck` (with whether the last `Pong` is older than the heartbeat timeout), or `readCh`. -/
inductive HandlerEvent where
  | hbSend
  | hbCheck (timeout : Bool)
  | recv

/-- One step of `msgHandler`. Handling a message (`go ctl.HandleReqWorkConn`,
`HandleNewProxyResp`, a `Pong`) touches none of the four channels. -/
def Control.msgHandlerStep (s : Control) (e : HandlerEvent) : Option Control :=
  match s.msgHandler, e with
  | .select, .hbSend => some { s with msgHandler := .sendPing }
  | .select, .hbCheck true => some { s with msgHandler := .done, connClosed := true }
  | .select, .hbCheck false => some s
  | .select, .recv =>
    match s.readCh.recv with
    | .received c => some { s with readCh := c }
    | .closed => some { s with msgHandler := .done }
    | .blocked => none
  | .sendPing, _ =>
    match s.sendCh.send chanCap with
    | .sent c => some { s with sendCh := c, msgHandler := .select }
    | .blocked => none
    | .panicked =>
      some { s with msgHandler := .done, panics := s.panics ++ [sendOnClosedChannel] }
  | .done, _ => some { s with msgHandlerShutdown := true, msgHandler := .finished }
  | .idle, _ | .finished, _ => none

/-- One step of `worker`. It has no `recover`: a panic ends it. -/
def Control.workerStep (s : Control) : Option Control :=
  match s.worker with
  | .spawnMsgHandler => some { s with msgHandler := .select, worker := .spawnReader }
  | .spawnReader => some { s with reader := .read, worker := .spawnWriter }
  | .spawnWriter => some { s with writer := .newWriter, worker := .waitClosed }
  | .waitClosed =>
    match s.closedCh.recv with
    | .received c => some { s with closedCh := c, worker := .closeReadCh }
    | .closed => some { s with worker := .closeReadCh }
    | .blocked => none
  | .closeReadCh =>
    match s.readCh.close with
    | some c => some { s with readCh := c, worker := .waitReader }
    | none => some { s with worker := .finished, panics := s.panics ++ [closeOfClosedChannel] }
  | .waitReader => if s.readerShutdown then some { s with worker := .waitMsgHandler } else none
  | .waitMsgHandler =>
    if s.msgHandlerShutdown then some { s with worker := .closeSendCh } else none
  | .closeSendCh =>
    match s.sendCh.close with
    | some c => some { s with sendCh := c, worker := .waitWriter }
    | none => some { s with worker := .finished, panics := s.panics ++ [closeOfClosedChannel] }
  | .waitWriter => if s.writerShutdown then some { s with worker := .pmClose } else none
  | .pmClose => some { s with pmClosed := true, worker := .vmClose }
  | .vmClose => some { s with vmClosed := true, worker := .closeClosedDoneCh }
  | .closeClosedDoneCh =>
    match s.closedDoneCh.close with
    | some c => some { s with closedDoneCh := c, worker := .closeSession }
    | none => some { s with worker := .finished, panics := s.panics ++ [closeOfClosedChannel] }
  | .closeSession => some { s with worker := .finished }
  | .finished => none

inductive Action where
  | reader (r : ReadResult)
  | writer (ok : Bool)
  | msgHandler (e : HandlerEvent)
  | worker

def Control.step (s : Control) : Action → Option Control
  | .reader r => s.readerStep r
  | .writer ok => s.writerStep ok
  | .msgHandler e => s.msgHandlerStep e
  | .worker => s.workerStep

inductive Control.Reachable : Control → Prop
  | init : Control.Reachable .init
  | step {s s' : Control} (a : Action) : Control.Reachable s → s.step a = some s' →
      Control.Reachable s'

def ReaderPc.exited : ReaderPc → Bool
  | .done | .finished => true
  | _ => false

def waitedFor (reader : ReaderPc) (msgHandler : MsgHandlerPc) (writer : WriterPc) :
    WorkerPc → Prop
  | .waitClosed => reader.exited
  | .waitReader => reader = .finished
  | .waitMsgHandler => msgHandler = .finished
  | .waitWriter => writer = .finished
  | _ => True

def unstarted (reader : ReaderPc) (msgHandler : MsgHandlerPc) (writer : WriterPc) :
    WorkerPc → Prop
  | .spawnMsgHandler => msgHandler = .idle
  | .spawnReader => reader = .idle
  | .spawnWriter => writer = .idle
  | _ => True

/-- What every interleaving keeps: no panic; each channel is closed, and each shutdown flag
set, exactly when the goroutine that does it has got past that statement; `worker` is past a
wait only once what it waits for has happened, and a goroutine runs only once `worker` has
started it. -/
structure Control.Inv (s : Control) : Prop where
  panics : s.panics = []
  closedCh : s.closedCh = { closed := s.reader.exited }
  readerShutdown : s.readerShutdown = (s.reader == .finished)
  msgHandlerShutdown : s.msgHandlerShutdown = (s.msgHandler == .finished)
  writerShutdown : s.writerShutdown = (s.writer == .finished)
  readCh : s.readCh.closed = s.worker.past .closeReadCh
  sendCh : s.sendCh.closed = s.worker.past .closeSendCh
  closedDoneCh : s.closedDoneCh = { closed := s.worker.past .closeClosedDoneCh }
  pmClosed : s.pmClosed = s.worker.past .pmClose
  vmClosed : s.vmClosed = s.worker.past .vmClose
  waited : ∀ x, s.worker.past x → waitedFor s.reader s.msgHandler s.writer x
  notYet : ∀ x, s.worker.past x = false → unstarted s.reader s.msgHandler s.writer x

variable {s s' : Control}

theorem WorkerPc.rank_injective {x y : WorkerPc} (h : x.rank = y.rank) : x = y := by
  revert h; cases x <;> cases y <;> decide

theorem WorkerPc.past_mono {pc w w' : WorkerPc} (h : pc.past w) (hw : w'.rank ≤ w.rank) :
    pc.past w' := by
  simp only [WorkerPc.past, decide_eq_true_eq] at *
  omega

variable {r : ReaderPc} {m : MsgHandlerPc} {wr : WriterPc}

theorem waited_next {pc w : WorkerPc} (h : ∀ x, pc.past x → waitedFor r m wr x)
    (hpc : waitedFor r m wr pc) (hw : w.rank = pc.rank + 1) (x : WorkerPc) (hx : w.past x) :
    waitedFor r m wr x := by
  by_cases hx' : pc.past x
  · exact h x hx'
  · simp only [WorkerPc.past, decide_eq_true_eq] at hx hx'
    rwa [WorkerPc.rank_injective (show x.rank = pc.rank by omega)]

theorem notYet_next {pc w : WorkerPc} (h : ∀ x, pc.past x = false → unstarted r m wr x)
    (hw : w.rank = pc.rank + 1) (x : WorkerPc) (hx : w.past x = false) : unstarted r m wr x :=
  h x (by simp only [WorkerPc.past, decide_eq_false_iff_not] at hx ⊢; omega)

theorem Control.Inv.readCh_open (hi : s.Inv) (h : s.reader.exited = false) :
    s.readCh.closed = false := by
  rw [hi.readCh]
  cases hw : s.worker.past .closeReadCh
  · rfl
  · simpa [waitedFor, h] using hi.waited _ (@WorkerPc.past_mono _ _ .waitClosed hw (by decide))

theorem Control.Inv.sendCh_open (hi : s.Inv) (h : s.msgHandler ≠ .finished) :
    s.sendCh.closed = false := by
  rw [hi.sendCh]
  cases hw : s.worker.past .closeSendCh
  · rfl
  · exact absurd (hi.waited _ (@WorkerPc.past_mono _ _ .waitMsgHandler hw (by decide))) h

/-! ### One step of each goroutine -/

theorem Control.Inv.readerStep_eq (hi : s.Inv) {r : ReadResult} (h : s.readerStep r = some s') :
    ∃ p buf conn, s.reader ≠ .idle ∧ s.reader ≠ .finished ∧
      (s.reader.exited → p.exited) ∧
      s' = { s with reader := p, readCh := { s.readCh with buf := buf },
                    closedCh := { closed := p.exited }, readerShutdown := p == .finished,
                    connClosed := conn } := by
  have hc := hi.closedCh
  have hs := hi.readerShutdown
  unfold Control.readerStep Chan.send Chan.close at h
  cases hpc : s.reader <;> simp only [hpc] at h hc hs
  · cases h
  · split at h <;> cases h <;> exact ⟨_, _, _, nofun, nofun, nofun, by rw [hc, hs]; rfl⟩
  · have ho := hi.readCh_open (by rw [hpc]; rfl)
    by_cases hb : s.readCh.buf < chanCap <;>
      simp only [ho, hb, Bool.false_eq_true, if_false, if_true, reduceCtorEq] at h
    cases h
    exact ⟨.read, s.readCh.buf + 1, s.connClosed, nofun, nofun, nofun,
      by rw [hc, hs, ← ho]; rfl⟩
  · simp only [hc, ReaderPc.exited, Bool.false_eq_true, if_false] at h
    cases h; exact ⟨.done, _, _, nofun, nofun, fun _ => rfl, by rw [hs]; rfl⟩
  · cases h; exact ⟨.finished, _, _, nofun, nofun, fun _ => rfl, by rw [hc]; rfl⟩
  · cases h

theorem Control.Inv.readerStep (hi : s.Inv) {r : ReadResult} (h : s.readerStep r = some s') :
    s'.Inv := by
  obtain ⟨p, buf, conn, hidle, hfin, hexit, rfl⟩ := hi.readerStep_eq h
  refine { hi with closedCh := rfl, readerShutdown := rfl, waited := fun x hx => ?_,
                   notYet := fun x hx => ?_ }
  · have := hi.waited x hx
    cases x <;> first | exact hexit this | exact absurd this hfin | exact this
  · have := hi.notYet x hx
    cases x <;> first | exact absurd this hidle | exact this

theorem Control.Inv.writerStep_eq (hi : s.Inv) {ok : Bool} (h : s.writerStep ok = some s') :
    ∃ p buf conn, s.writer ≠ .idle ∧ s.writer ≠ .finished ∧
      s' = { s with writer := p, sendCh := { s.sendCh with buf := buf },
                    writerShutdown := p == .finished, connClosed := conn } := by
  have hs := hi.writerShutdown
  unfold Control.writerStep Chan.recv at h
  cases hpc : s.writer <;> simp only [hpc] at h hs
  · cases h
  · split at h <;> cases h <;> exact ⟨_, _, _, nofun, nofun, by rw [hs]; rfl⟩
  · by_cases hb : 0 < s.sendCh.buf
    · simp only [hb, if_true] at h
      cases h; exact ⟨.write, _, _, nofun, nofun, by rw [hs]; rfl⟩
    · cases hc : s.sendCh.closed <;>
        simp only [hb, hc, if_true, if_false, Bool.false_eq_true, reduceCtorEq] at h
      cases h; exact ⟨.done, s.sendCh.buf, _, nofun, nofun, by rw [hs]; rfl⟩
  · split at h <;> cases h
    · exact ⟨.recv, s.sendCh.buf, _, nofun, nofun, by rw [hs]; rfl⟩
    · exact ⟨.done, s.sendCh.buf, _, nofun, nofun, by rw [hs]; rfl⟩
  · cases h; exact ⟨.finished, s.sendCh.buf, _, nofun, nofun, rfl⟩
  · cases h

theorem Control.Inv.writerStep (hi : s.Inv) {ok : Bool} (h : s.writerStep ok = some s') :
    s'.Inv := by
  obtain ⟨p, buf, conn, hidle, hfin, rfl⟩ := hi.writerStep_eq h
  refine { hi with writerShutdown := rfl, waited := fun x hx => ?_, notYet := fun x hx => ?_ }
  · have := hi.waited x hx
    cases x <;> first | exact absurd this hfin | exact this
  · have := hi.notYet x hx
    cases x <;> first | exact absurd this hidle | exact this

theorem Control.Inv.msgHandlerStep_eq (hi : s.Inv) {e : HandlerEvent}
    (h : s.msgHandlerStep e = some s') :
    ∃ p rbuf sbuf conn, s.msgHandler ≠ .idle ∧ s.msgHandler ≠ .finished ∧
      s' = { s with msgHandler := p, readCh := { s.readCh with buf := rbuf },
                    sendCh := { s.sendCh with buf := sbuf }, msgHandlerShutdown := p == .finished,
                    connClosed := conn } := by
  have hs := hi.msgHandlerShutdown
  unfold Control.msgHandlerStep Chan.recv Chan.send at h
  cases hpc : s.msgHandler <;> simp only [hpc] at h hs
  · cases h
  · cases e with
    | hbSend =>
      cases h; exact ⟨.sendPing, s.readCh.buf, s.sendCh.buf, _, nofun, nofun, by rw [hs]; rfl⟩
    | hbCheck t =>
      cases t <;> cases h
      · exact ⟨.select, s.readCh.buf, s.sendCh.buf, _, nofun, nofun, by rw [← hs, ← hpc]⟩
      · exact ⟨.done, s.readCh.buf, s.sendCh.buf, _, nofun, nofun, by rw [hs]; rfl⟩
    | recv =>
      by_cases hb : 0 < s.readCh.buf
      · simp only [hb, if_true] at h
        cases h; exact ⟨.select, _, s.sendCh.buf, _, nofun, nofun, by rw [hs]⟩
      · cases hc : s.readCh.closed <;>
          simp only [hb, hc, if_true, if_false, Bool.false_eq_true, reduceCtorEq] at h
        cases h; exact ⟨.done, s.readCh.buf, s.sendCh.buf, _, nofun, nofun, by rw [hs]; rfl⟩
  · have ho := hi.sendCh_open (by rw [hpc]; nofun)
    by_cases hb : s.sendCh.buf < chanCap <;>
      simp only [ho, hb, Bool.false_eq_true, if_false, if_true, reduceCtorEq] at h
    cases h
    exact ⟨.select, s.readCh.buf, s.sendCh.buf + 1, _, nofun, nofun, by rw [hs, ← ho]; rfl⟩
  · cases h; exact ⟨.finished, s.readCh.buf, s.sendCh.buf, _, nofun, nofun, rfl⟩
  · cases h

theorem Control.Inv.msgHandlerStep (hi : s.Inv) {e : HandlerEvent}
    (h : s.msgHandlerStep e = some s') : s'.Inv := by
  obtain ⟨p, rbuf, sbuf, conn, hidle, hfin, rfl⟩ := hi.msgHandlerStep_eq h
  refine { hi with msgHandlerShutdown := rfl, waited := fun x hx => ?_,
                   notYet := fun x hx => ?_ }
  · have := hi.waited x hx
    cases x <;> first | exact absurd this hfin | exact this
  · have := hi.notYet x hx
    cases x <;> first | exact absurd this hidle | exact this

theorem Control.Inv.workerStep (hi : s.Inv) (h : s.workerStep = some s') : s'.Inv := by
  obtain ⟨reader, writer, msgHandler, worker, sendCh, readCh, closedCh, closedDoneCh, rs, ws, ms,
    pm, vm, conn, panics⟩ := s
  cases worker <;> simp only [Control.workerStep] at h
  case spawnMsgHandler =>
    cases h
    refine { hi with msgHandlerShutdown := ?_, waited := fun x hx => ?_, notYet := fun x hx => ?_ }
    · rw [hi.msgHandlerShutdown, hi.notYet .spawnMsgHandler rfl]; rfl
    · cases x <;> trivial
    · have := hi.notYet x
      cases x <;> first | trivial | exact this rfl
  case spawnReader =>
    cases h
    refine { hi with closedCh := ?_, readerShutdown := ?_, waited := fun x hx => ?_,
                     notYet := fun x hx => ?_ }
    · rw [hi.closedCh, hi.notYet .spawnReader rfl]; rfl
    · rw [hi.readerShutdown, hi.notYet .spawnReader rfl]; rfl
    · cases x <;> trivial
    · have := hi.notYet x
      cases x <;> first | trivial | exact this rfl
  case spawnWriter =>
    cases h
    refine { hi with writerShutdown := ?_, waited := fun x hx => ?_, notYet := fun x hx => ?_ }
    · rw [hi.writerShutdown, hi.notYet .spawnWriter rfl]; rfl
    · cases x <;> trivial
    · cases x <;> trivial
  case waitClosed =>
    have hc : closedCh.recv = if reader.exited then .closed else .blocked := by
      rw [show closedCh = { closed := reader.exited } from hi.closedCh]; rfl
    cases hx : reader.exited <;>
      simp only [hc, hx, if_false, if_true, Bool.false_eq_true, reduceCtorEq] at h
    cases h
    exact { hi with waited := waited_next hi.waited hx (by rfl),
                    notYet := notYet_next hi.notYet (by rfl) }
  case closeReadCh =>
    have ho : readCh.closed = false := hi.readCh
    simp only [Chan.close, ho, Bool.false_eq_true, if_false] at h
    cases h
    exact { hi with readCh := rfl, waited := waited_next hi.waited trivial (by rfl),
                    notYet := notYet_next hi.notYet (by rfl) }
  case waitReader =>
    split at h <;> cases h
    have hf : reader = .finished := beq_iff_eq.mp (‹rs = true› ▸ hi.readerShutdown).symm
    exact { hi with waited := waited_next hi.waited hf (by rfl),
                    notYet := notYet_next hi.notYet (by rfl) }
  case waitMsgHandler =>
    split at h <;> cases h
    have hf : msgHandler = .finished :=
      beq_iff_eq.mp (‹ms = true› ▸ hi.msgHandlerShutdown).symm
    exact { hi with waited := waited_next hi.waited hf (by rfl),
                    notYet := notYet_next hi.notYet (by rfl) }
  case closeSendCh =>
    have ho : sendCh.closed = false := hi.sendCh
    simp only [Chan.close, ho, Bool.false_eq_true, if_false] at h
    cases h
    exact { hi with sendCh := rfl, waited := waited_next hi.waited trivial (by rfl),
                    notYet := notYet_next hi.notYet (by rfl) }
  case waitWriter =>
    split at h <;> cases h
    have hf : writer = .finished := beq_iff_eq.mp (‹ws = true› ▸ hi.writerShutdown).symm
    exact { hi with waited := waited_next hi.waited hf (by rfl),
                    notYet := notYet_next hi.notYet (by rfl) }
  case pmClose =>
    cases h
    exact { hi with pmClosed := rfl, waited := waited_next hi.waited trivial (by rfl),
                    notYet := notYet_next hi.notYet (by rfl) }
  case vmClose =>
    cases h
    exact { hi with vmClosed := rfl, waited := waited_next hi.waited trivial (by rfl),
                    notYet := notYet_next hi.notYet (by rfl) }
  case closeClosedDoneCh =>
    have hc : closedDoneCh = { closed := false } := hi.closedDoneCh
    subst hc
    simp only [Chan.close] at h
    cases h
    exact { hi with closedDoneCh := rfl, waited := waited_next hi.waited trivial (by rfl),
                    notYet := notYet_next hi.notYet (by rfl) }
  case closeSession =>
    cases h
    exact { hi with waited := waited_next hi.waited trivial (by rfl),
                    notYet := notYet_next hi.notYet (by rfl) }
  case finished => cases h

theorem Control.Inv.step (hi : s.Inv) {a : Action} (h : s.step a = some s') : s'.Inv := by
  cases a with
  | reader r => exact hi.readerStep h
  | writer ok => exact hi.writerStep h
  | msgHandler e => exact hi.msgHandlerStep h
  | worker => exact hi.workerStep h

def Control.run (s : Control) : List Action → Option Control
  | [] => some s
  | a :: as => (s.step a).bind (·.run as)

theorem Control.Reachable.run (h : s.Reachable) {as : List Action} (hs : s.run as = some s') :
    s'.Reachable := by
  induction as generalizing s with
  | nil => cases hs; exact h
  | cons a as ih =>
    obtain ⟨t, ht, hs⟩ := Option.bind_eq_some.mp hs
    exact ih (.step a h ht) hs

theorem Control.Reachable.inv (h : s.Reachable) : s.Inv := by
  induction h with
  | init =>
    exact ⟨rfl, rfl, rfl, rfl, rfl, rfl, rfl, rfl, rfl, rfl,
      fun x hx => absurd hx (by cases x <;> decide), fun x _ => by cases x <;> trivial⟩
  | step a _ h ih => exact ih.step h

/-- In every interleaving no goroutine sends on or closes a closed channel (each would raise a
panic), and `closedDoneCh` is closed only after `reader`, `msgHandler` and `writer` have
returned and `pm.Close()` and `vm.Close()` have been called. -/
theorem control_shutdown_safe (h : s.Reachable) :
    s.panics = [] ∧ (s.closedDoneCh.closed → s.reader = .finished ∧ s.msgHandler = .finished ∧
      s.writer = .finished ∧ s.pmClosed ∧ s.vmClosed) := by
  have hi := h.inv
  refine ⟨hi.panics, fun hd => ?_⟩
  have hw : s.worker.past .closeClosedDoneCh := by rw [hi.closedDoneCh] at hd; exact hd
  exact ⟨hi.waited .waitReader (WorkerPc.past_mono hw (by decide)),
    hi.waited .waitMsgHandler (WorkerPc.past_mono hw (by decide)),
    hi.waited .waitWriter (WorkerPc.past_mono hw (by decide)),
    hi.pmClosed ▸ WorkerPc.past_mono hw (by decide),
    hi.vmClosed ▸ WorkerPc.past_mono hw (by decide)⟩

def eofShutdown : List Action :=
  [.worker, .worker, .worker, .reader .eof, .reader .eof, .reader .eof, .worker, .worker,
   .msgHandler .recv, .msgHandler .recv, .worker, .worker, .worker, .writer true, .writer true,
   .writer true, .worker, .worker, .worker, .worker, .worker]

theorem control_shutdown_safe_of_eof :
    (Control.init.run eofShutdown).isSome ∧
      ((Control.init.run eofShutdown).getD .init).closedDoneCh.closed ∧
      ((Control.init.run eofShutdown).getD .init).panics = [] ∧
      (((Control.init.run eofShutdown).getD .init).closedDoneCh.closed →
        ((Control.init.run eofShutdown).getD .init).reader = .finished ∧
        ((Control.init.run eofShutdown).getD .init).msgHandler = .finished ∧
        ((Control.init.run eofShutdown).getD .init).writer = .finished ∧
        ((Control.init.run eofShutdown).getD .init).pmClosed ∧
        ((Control.init.run eofShutdown).getD .init).vmClosed) :=
  ⟨rfl, rfl, control_shutdown_safe (@Control.Reachable.run _ _ .init eofShutdown rfl)⟩

end Frp.Client
