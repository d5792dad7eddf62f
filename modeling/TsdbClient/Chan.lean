import TsdbClient.Wire

/-!
# A Go channel between one sender and its readers

`Chan` is a buffered channel as the sender (`subscribe`) and the goroutines that read it see it:
the buffered values, the readers blocked in a receive, the values the readers took, and whether it
is closed. The runtime keeps two facts, carried as fields: a reader only blocks on an empty buffer
(`idle`), and the buffer holds at most `cap` values (`bounded`).

* `Chan.trySend` : `select { case ch <- m: default: }`, which panics on a closed channel;
* `Chan.close`, `Chan.recv`, `Chan.leave` : `close(ch)`, a receive, and a blocked reader giving up;
* `trySend_open`, `recv_log`, `leave_log` : the readers' values followed by the buffer (`Chan.log`)
  grow only by the value sent, so the channel delivers what was sent, in order.
-/

namespace Tsdb

set_option autoImplicit false

variable {Msg : Type}

/-- A buffered channel of capacity `cap`. -/
structure Chan (Msg : Type) where
  cap : Nat
  buf : List Msg
  waiting : Nat
  received : List Msg
  closed : Bool
  idle : 0 < waiting → buf = []
  bounded : buf.length ≤ cap

/-- A send would not block: a reader is waiting, or the buffer has room. -/
def Chan.ready (ch : Chan Msg) : Bool := 0 < ch.waiting || ch.buf.length < ch.cap

/-- `select { case ch <- m: default: }`: the channel after the send, `none` when the `default`
branch runs, a panic on a closed channel. A waiting reader takes `m` at once. -/
def Chan.trySend (ch : Chan Msg) (m : Msg) : Except Panic (Option (Chan Msg)) :=
  if ch.closed then .error .sendOnClosed
  else if h : 0 < ch.waiting then
    .ok (some
      { ch with
        waiting := ch.waiting - 1
        received := ch.received ++ [m]
        buf := []
        idle := fun _ => rfl
        bounded := Nat.zero_le _ })
  else if hb : ch.buf.length < ch.cap then
    .ok (some
      { ch with
        buf := ch.buf ++ [m]
        idle := fun h' => absurd h' h
        bounded := by simp only [List.length_append, List.length_singleton]; omega })
  else .ok none

/-- `close(ch)`: the blocked readers wake up with the zero value; a closed channel panics. -/
def Chan.close (ch : Chan Msg) : Except Panic (Chan Msg) :=
  if ch.closed then .error .closeOfClosed
  else .ok { ch with closed := true, waiting := 0, idle := fun h => absurd h (Nat.lt_irrefl 0) }

/-- A reader's receive: the oldest buffered value, or the zero value of a closed empty channel,
or it blocks. -/
def Chan.recv (ch : Chan Msg) : Chan Msg :=
  match hb : ch.buf with
  | m :: rest =>
    { ch with
      buf := rest
      received := ch.received ++ [m]
      idle := fun h => absurd (ch.idle h) (by simp [hb])
      bounded := by have := ch.bounded; simp only [hb, List.length_cons] at this; omega }
  | [] =>
    if ch.closed then ch
    else { ch with waiting := ch.waiting + 1, idle := fun _ => hb }

/-- A blocked reader gives up (its `select` took another case). -/
def Chan.leave (ch : Chan Msg) : Chan Msg :=
  { ch with waiting := ch.waiting - 1, idle := fun h => ch.idle (by omega) }

/-- Everything the channel has accepted: what the readers took, then what is buffered. -/
def Chan.log (ch : Chan Msg) : List Msg := ch.received ++ ch.buf

theorem Chan.not_ready_iff (ch : Chan Msg) :
    ch.ready = false ↔ ch.waiting = 0 ∧ ch.buf.length = ch.cap := by
  have := ch.bounded
  simp only [Chan.ready, Bool.or_eq_false_iff, decide_eq_false_iff_not, Nat.not_lt]
  omega

theorem Chan.trySend_open {ch : Chan Msg} (h : ch.closed = false) (m : Msg) :
    ∃ r, ch.trySend m = .ok r ∧ (r.isSome = ch.ready) ∧
      ∀ ch', r = some ch' → ch'.log = ch.log ++ [m] ∧ ch'.closed = false ∧ ch'.cap = ch.cap := by
  unfold Chan.trySend
  simp only [h, Bool.false_eq_true, if_false]
  split_ifs with hw hb
  · refine ⟨_, rfl, by simp [Chan.ready, hw], ?_⟩
    rintro _ ⟨⟩
    simp [Chan.log, ch.idle hw, h]
  · refine ⟨_, rfl, by simp [Chan.ready, hb], ?_⟩
    rintro _ ⟨⟩
    simp [Chan.log, h]
  · refine ⟨_, rfl, by simp [Chan.ready, hw, hb], ?_⟩
    rintro _ ⟨⟩

theorem Chan.close_open {ch : Chan Msg} (h : ch.closed = false) :
    ∃ ch', ch.close = .ok ch' ∧ ch'.closed = true ∧ ch'.log = ch.log := by
  simp [Chan.close, h, Chan.log]

@[simp] theorem Chan.recv_log (ch : Chan Msg) : ch.recv.log = ch.log := by
  unfold Chan.recv
  split
  · rename_i m rest hb
    simp [Chan.log, hb]
  · split_ifs <;> rfl

@[simp] theorem Chan.recv_closed (ch : Chan Msg) : ch.recv.closed = ch.closed := by
  unfold Chan.recv
  split
  · rfl
  · split_ifs <;> rfl

@[simp] theorem Chan.recv_cap (ch : Chan Msg) : ch.recv.cap = ch.cap := by
  unfold Chan.recv
  split
  · rfl
  · split_ifs <;> rfl

@[simp] theorem Chan.leave_log (ch : Chan Msg) : ch.leave.log = ch.log := rfl

@[simp] theorem Chan.leave_closed (ch : Chan Msg) : ch.leave.closed = ch.closed := rfl

@[simp] theorem Chan.leave_cap (ch : Chan Msg) : ch.leave.cap = ch.cap := rfl

end Tsdb
