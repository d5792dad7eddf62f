import TsdbClient.Chan
import TsdbClient.Escape
import TsdbClient.Transport

/-!
# The subscription bridge: `tsdbClient.subscribe`

`subscribe` checks its arguments, creates a consumer, subscribes it to the topic, and then loops:
when `ctx` is done it unsubscribes and, if that succeeds, closes `chMessage` and returns `nil`;
otherwise it polls once and forwards a message with a send that drops it when `chMessage` cannot
take it, returns an error event, and ignores anything else. On every return the deferred
`Unsubscribe` and `Close` run, in that order.

A run is a list of `Tick`s: passes of the loop, with what the context, `Poll` and the explicit
`Unsubscribe` gave, interleaved with the moves of the goroutines reading `chMessage`.

* `start`, `Bridge.step`, `Bridge.run` : the set-up and the system's steps;
* `exitOf`, `exitStatus`, `pollsOf`, `exitCalls`, `polledOf` : what a run's script decides, on an
  open or a closed `chMessage`;
* `RunSpec`, `Bridge.run_spec` : what a run from the loop does, by induction over its ticks;
* `subscribeOutcome`, `subscribe_run_close` : a call on an open `chMessage`, early returns included,
  never panics, `chMessage` is closed exactly when `subscribe` returns `nil`, and nothing is sent on
  it after that;
* `subscribe_run_sent` : the values sent are a subsequence of the messages polled, a message is
  dropped only when `chMessage` cannot take it, and the readers receive the values sent in order;
* `subscribe_calls` : the calls on the consumer, also when the caller passed a closed `chMessage`
  and the loop panics; a cancellation makes two `Unsubscribe` calls;
* `consumerConfig` : the configuration `newConsumer` builds; `consumerConfig_scheme` : its
  `ws.url` turns an `http://` address into `ws://` and keeps an `https://` one, since the
  replacement rewrites every `http:` in the address.

The goroutines reading `chMessage` only receive from it: only the caller, before the call, or
`subscribe` itself closes it.
-/

namespace Tsdb

set_option autoImplicit false

variable {Msg : Type}

/-- `taosPollTimeoutMs`. -/
def taosPollTimeoutMs : Nat := 5000

/-- A call `subscribe` makes on its consumer (`taosConsumer`). -/
inductive Call where
  | subscribe (topic : String)
  | poll (timeoutMs : Nat)
  | unsubscribe
  | close
  deriving DecidableEq, Repr

/-- What `Poll` returns: `nil`, a `TSDBSubscribedMessage`, an `error`, or a value of another type. -/
inductive Event (Msg : Type) where
  | none
  | message (m : Msg)
  | error (e : Error)
  | other

/-- One pass of the loop: `ctx.Done()` was ready and the explicit `Unsubscribe` returned
`unsubscribe`, or it was not and `Poll` returned `ev`. -/
inductive Iteration (Msg : Type) where
  | cancel (unsubscribe : Option Error)
  | poll (ev : Event Msg)

/-- A step of the system: a pass of the loop, a receive by a reader of `chMessage`, or a blocked
reader giving up. -/
inductive Tick (Msg : Type) where
  | loop (i : Iteration Msg)
  | recv
  | leave

/-- Where `subscribe` is: in its loop, returned with an error (`none` is `nil`), or panicked. -/
inductive Status where
  | running
  | returned (err : Option Error)
  | panicked (p : Panic)

/-- The state of a call of `subscribe` once its consumer is subscribed: `chMessage`, the calls made
on the consumer, the messages `Poll` returned and the values sent on `chMessage`. -/
structure Bridge (Msg : Type) where
  ch : Chan Msg
  calls : List Call
  polled : List Msg
  sent : List Msg
  status : Status

/-- `subscribe` up to its loop, given the error of `newConsumer` and of the consumer's `Subscribe`
(`none` for success): an early return gives its error and the consumer calls made. -/
def start (topic : String) (chMessage : Option (Chan Msg)) (newConsumer subscribe : Option Error) :
    Except (Error × List Call) (Bridge Msg) :=
  if topic.length = 0 then .error (.new "invalid args: topic is empty", [])
  else match chMessage with
  | none => .error (.new "invalid args: chMessage is nil", [])
  | some ch =>
    match newConsumer with
    | some e => .error (e, [])
    | none =>
      match subscribe with
      | some e => .error (e, [.subscribe topic, .close])
      | none => .ok ⟨ch, [.subscribe topic], [], [], .running⟩

/-- A return from the loop: `calls` made on the way, then the deferred `Unsubscribe` and `Close`. -/
def Bridge.exit (s : Bridge Msg) (calls : List Call) (status : Status) : Bridge Msg :=
  { s with calls := s.calls ++ calls ++ [.unsubscribe, .close], status := status }

/-- One pass of the `for` loop. -/
def Bridge.iterate (s : Bridge Msg) : Iteration Msg → Bridge Msg
  | .cancel (some e) => s.exit [.unsubscribe] (.returned (some e))
  | .cancel none =>
    match s.ch.close with
    | .ok ch => { s with ch := ch }.exit [.unsubscribe] (.returned none)
    | .error p => s.exit [.unsubscribe] (.panicked p)
  | .poll ev =>
    let s := { s with calls := s.calls ++ [.poll taosPollTimeoutMs] }
    match ev with
    | .message m =>
      match s.ch.trySend m with
      | .ok (some ch) => { s with ch := ch, polled := s.polled ++ [m], sent := s.sent ++ [m] }
      | .ok none => { s with polled := s.polled ++ [m] }
      | .error p => s.exit [] (.panicked p)
    | .error e => s.exit [] (.returned (some e))
    | .none => s
    | .other => s

/-- A step of the system; the loop's passes stop once `subscribe` has returned. -/
def Bridge.step (s : Bridge Msg) : Tick Msg → Bridge Msg
  | .loop i =>
    match s.status with
    | .running => s.iterate i
    | _ => s
  | .recv => { s with ch := s.ch.recv }
  | .leave => { s with ch := s.ch.leave }

/-- The state after a run. -/
def Bridge.run (s : Bridge Msg) (ts : List (Tick Msg)) : Bridge Msg := ts.foldl Bridge.step s

@[simp] theorem Bridge.run_nil (s : Bridge Msg) : s.run [] = s := rfl

@[simp] theorem Bridge.run_cons (s : Bridge Msg) (t : Tick Msg) (ts : List (Tick Msg)) :
    s.run (t :: ts) = (s.step t).run ts := rfl

theorem Bridge.run_append (s : Bridge Msg) (ts us : List (Tick Msg)) :
    s.run (ts ++ us) = (s.run ts).run us := List.foldl_append _ _ _ _

/-! ## What the script decides

`closed` says whether `chMessage` was closed when `subscribe` was called: nothing but `subscribe`
itself closes it, so a run sees it closed from the start or not until the loop closes it. On a
closed `chMessage` the first message polled panics in its send, and a cancellation whose
`Unsubscribe` succeeds panics in `close`. -/

/-- Whether a pass ends the loop: a cancellation, an error event, or a message on a closed
`chMessage`. -/
def Iteration.ends (closed : Bool) : Iteration Msg → Bool
  | .cancel _ => true
  | .poll (.error _) => true
  | .poll (.message _) => closed
  | .poll _ => false

/-- The pass at which the loop ends: the first one that `Iteration.ends`. -/
def exitOf (closed : Bool) : List (Tick Msg) → Option (Iteration Msg)
  | [] => none
  | .loop i :: ts => if i.ends closed then some i else exitOf closed ts
  | _ :: ts => exitOf closed ts

/-- The status that pass leaves: `nil` or the failure of the explicit `Unsubscribe`, or the error
event; on a closed `chMessage`, the panic of `close` or of the send. -/
def exitStatus (closed : Bool) : Option (Iteration Msg) → Status
  | some (.cancel none) => if closed then .panicked .closeOfClosed else .returned none
  | some (.cancel (some e)) => .returned (some e)
  | some (.poll (.error e)) => .returned (some e)
  | some (.poll (.message _)) => if closed then .panicked .sendOnClosed else .running
  | _ => .running

/-- The number of `Poll` calls: one for each pass until the loop ends, the last pass's included
when it polled. -/
def pollsOf (closed : Bool) : List (Tick Msg) → Nat
  | [] => 0
  | .loop (.cancel _) :: _ => 0
  | .loop (.poll (.error _)) :: _ => 1
  | .loop (.poll (.message _)) :: ts => if closed then 1 else pollsOf closed ts + 1
  | .loop (.poll _) :: ts => pollsOf closed ts + 1
  | _ :: ts => pollsOf closed ts

/-- The calls after the last `Poll`: on a cancellation the explicit `Unsubscribe`, then the deferred
`Unsubscribe` and `Close`; after an error event or a panicking send the deferred ones. -/
def exitCalls : Option (Iteration Msg) → List Call
  | none => []
  | some (.cancel _) => [.unsubscribe, .unsubscribe, .close]
  | some (.poll _) => [.unsubscribe, .close]

/-- The messages `Poll` returns and the loop goes on from, until it ends. -/
def polledOf (closed : Bool) : List (Tick Msg) → List Msg
  | [] => []
  | .loop (.cancel _) :: _ => []
  | .loop (.poll (.error _)) :: _ => []
  | .loop (.poll (.message m)) :: ts => if closed then [] else m :: polledOf closed ts
  | .loop (.poll _) :: ts => polledOf closed ts
  | _ :: ts => polledOf closed ts

theorem exitStatus_ne_panicked (x : Option (Iteration Msg)) (p : Panic) :
    exitStatus false x ≠ .panicked p := by
  rcases x with _ | ((_ | _) | (_ | _ | _ | _)) <;> simp [exitStatus]

theorem exitStatus_eq_nil (closed : Bool) (x : Option (Iteration Msg)) :
    exitStatus closed x = .returned none ↔ closed = false ∧ x = some (.cancel none) := by
  rcases x with _ | ((_ | _) | (_ | _ | _ | _)) <;> cases closed <;> simp [exitStatus]

/-! ## A step -/

section Step

variable {s : Bridge Msg}

@[simp] theorem Bridge.exit_status (calls : List Call) (st : Status) : (s.exit calls st).status = st :=
  rfl

@[simp] theorem Bridge.exit_ch (calls : List Call) (st : Status) : (s.exit calls st).ch = s.ch := rfl

theorem Bridge.step_of_not_running (h : s.status ≠ .running) (i : Iteration Msg) :
    s.step (.loop i) = s := by
  cases hs : s.status <;> simp_all [Bridge.step]

theorem Bridge.step_of_running (h : s.status = .running) (i : Iteration Msg) :
    s.step (.loop i) = s.iterate i := by
  simp [Bridge.step, h]

theorem Bridge.iterate_cancel_none (h : s.ch.closed = false) :
    ∃ ch, s.iterate (.cancel none) = { s with ch := ch }.exit [.unsubscribe] (.returned none) ∧
      ch.closed = true ∧ ch.log = s.ch.log := by
  obtain ⟨ch, hc, hclosed, hlog⟩ := Chan.close_open h
  exact ⟨ch, by simp [Bridge.iterate, hc], hclosed, hlog⟩

theorem Bridge.iterate_message (h : s.ch.closed = false) (m : Msg) :
    ∃ ch, s.iterate (.poll (.message m)) =
        { s with
          ch := ch
          calls := s.calls ++ [.poll taosPollTimeoutMs]
          polled := s.polled ++ [m]
          sent := s.sent ++ if s.ch.ready then [m] else [] } ∧
      ch.closed = false ∧ ch.log = s.ch.log ++ if s.ch.ready then [m] else [] := by
  obtain ⟨r, hr, hready, hch⟩ := Chan.trySend_open h m
  simp only [Bridge.iterate, hr]
  rcases r with _ | ch
  · have : s.ch.ready = false := by simpa using hready.symm
    exact ⟨s.ch, by simp [this], h, by simp [this]⟩
  · have : s.ch.ready = true := by simpa using hready.symm
    obtain ⟨hlog, hclosed, -⟩ := hch ch rfl
    exact ⟨ch, by simp [this], hclosed, by simp [this, hlog]⟩

theorem Bridge.iterate_cancel_none_closed (h : s.ch.closed = true) :
    s.iterate (.cancel none) = s.exit [.unsubscribe] (.panicked .closeOfClosed) := by
  simp [Bridge.iterate, Chan.close, h]

theorem Bridge.iterate_message_closed (h : s.ch.closed = true) (m : Msg) :
    s.iterate (.poll (.message m)) =
      { s with calls := s.calls ++ [Call.poll taosPollTimeoutMs] }.exit [] (.panicked .sendOnClosed) := by
  simp [Bridge.iterate, Chan.trySend, h]

theorem Bridge.run_of_not_running (h : s.status ≠ .running) :
    ∀ ts : List (Tick Msg), (s.run ts).status = s.status ∧ (s.run ts).calls = s.calls ∧
      (s.run ts).polled = s.polled ∧ (s.run ts).sent = s.sent ∧
      (s.run ts).ch.closed = s.ch.closed ∧ (s.run ts).ch.log = s.ch.log := by
  intro ts
  induction ts generalizing s with
  | nil => simp
  | cons t ts ih =>
    cases t with
    | loop i => rw [Bridge.run_cons, Bridge.step_of_not_running h]; exact ih h
    | recv => simpa [Bridge.step] using ih (s := { s with ch := s.ch.recv }) h
    | leave => simpa [Bridge.step] using ih (s := { s with ch := s.ch.leave }) h

end Step

/-! ## A run -/

/-- What a run from a running state does, `chMessage` closed (`c`) or open: its script decides the
status, whether `chMessage` is closed, the calls and the messages polled; the values sent are a
subsequence `d` of the messages polled, and `chMessage` delivers exactly `d` more. -/
structure RunSpec (c : Bool) (s : Bridge Msg) (ts : List (Tick Msg)) (s' : Bridge Msg) : Prop where
  status : s'.status = exitStatus c (exitOf c ts)
  closed : s'.ch.closed = true ↔ c = true ∨ exitOf c ts = some (.cancel none)
  calls : s'.calls =
    s.calls ++ List.replicate (pollsOf c ts) (.poll taosPollTimeoutMs) ++ exitCalls (exitOf c ts)
  polled : s'.polled = s.polled ++ polledOf c ts
  sent : ∃ d, s'.sent = s.sent ++ d ∧ s'.ch.log = s.ch.log ++ d ∧ d.Sublist (polledOf c ts)

/-- A step that does not leave the loop passes a `RunSpec` of the rest of the run back to the whole
run: it made `Poll` calls and polled messages as the script says and sent `δ`. -/
theorem RunSpec.cons {c : Bool} {s s' x : Bridge Msg} {t : Tick Msg} {ts : List (Tick Msg)}
    (h : RunSpec c s' ts x) (δ : List Msg) (hexit : exitOf c (t :: ts) = exitOf c ts)
    (hcalls : s'.calls ++ List.replicate (pollsOf c ts) (.poll taosPollTimeoutMs) =
      s.calls ++ List.replicate (pollsOf c (t :: ts)) (.poll taosPollTimeoutMs))
    (hpolled : s'.polled ++ polledOf c ts = s.polled ++ polledOf c (t :: ts))
    (hsent : s'.sent = s.sent ++ δ) (hlog : s'.ch.log = s.ch.log ++ δ)
    (hsub : ∀ d : List Msg, d.Sublist (polledOf c ts) → (δ ++ d).Sublist (polledOf c (t :: ts))) :
    RunSpec c s (t :: ts) x where
  status := hexit ▸ h.status
  closed := hexit ▸ h.closed
  calls := by rw [h.calls, hcalls, hexit]
  polled := by rw [h.polled, hpolled]
  sent := by
    obtain ⟨d, h1, h2, h3⟩ := h.sent
    exact ⟨δ ++ d, by simp [h1, hsent], by simp [h2, hlog], hsub d h3⟩

/-- The last pass of the loop: the rest of the run changes none of what `RunSpec` reads. -/
theorem RunSpec.exit {c : Bool} {s s' : Bridge Msg} {t : Tick Msg} {ts : List (Tick Msg)}
    {i : Iteration Msg} (hexit : exitOf c (t :: ts) = some i) (hpolledOf : polledOf c (t :: ts) = [])
    (hnr : s'.status ≠ .running) (hstatus : s'.status = exitStatus c (some i))
    (hclosed : s'.ch.closed = true ↔ c = true ∨ i = .cancel none)
    (hcalls : s'.calls = s.calls ++
      List.replicate (pollsOf c (t :: ts)) (.poll taosPollTimeoutMs) ++ exitCalls (some i))
    (hpolled : s'.polled = s.polled) (hsent : s'.sent = s.sent) (hlog : s'.ch.log = s.ch.log) :
    RunSpec c s (t :: ts) (s'.run ts) := by
  obtain ⟨e1, e2, e3, e4, e5, e6⟩ := Bridge.run_of_not_running hnr ts
  refine ⟨by rw [e1, hstatus, hexit], by rw [e5, hclosed, hexit]; simp, by rw [e2, hcalls, hexit],
    by rw [e3, hpolled, hpolledOf]; simp, ⟨[], by simp [e4, hsent], by simp [e6, hlog], by simp⟩⟩

/-- On an open `chMessage` the run closes it exactly on the cancellation. -/
theorem RunSpec.closed_iff {s s' : Bridge Msg} {ts : List (Tick Msg)} (h : RunSpec false s ts s') :
    s'.ch.closed = true ↔ exitOf false ts = some (.cancel none) := by
  simpa using h.closed

theorem RunSpec.open_of_ne {s s' : Bridge Msg} {ts : List (Tick Msg)} (h : RunSpec false s ts s')
    (hne : exitOf false ts ≠ some (.cancel none)) : s'.ch.closed = false := by
  rw [← Bool.not_eq_true, h.closed_iff]
  exact hne

theorem Bridge.run_spec (ts : List (Tick Msg)) : ∀ s : Bridge Msg,
    s.status = .running → RunSpec s.ch.closed s ts (s.run ts) := by
  induction ts with
  | nil =>
    intro s hs
    exact ⟨by simp [hs, exitOf, exitStatus], by simp [exitOf], by simp [pollsOf, exitCalls, exitOf],
      by simp [polledOf], ⟨[], by simp, by simp, by simp⟩⟩
  | cons t ts ih =>
    intro s hs
    rw [Bridge.run_cons]
    cases t with
    | recv =>
      have h := ih (s.step .recv) hs
      rw [show (s.step .recv).ch.closed = s.ch.closed by simp [Bridge.step]] at h
      exact h.cons [] rfl rfl rfl (by simp [Bridge.step]) (by simp [Bridge.step])
        (fun d h => by simpa using h)
    | leave =>
      have h := ih (s.step .leave) hs
      rw [show (s.step .leave).ch.closed = s.ch.closed by simp [Bridge.step]] at h
      exact h.cons [] rfl rfl rfl (by simp [Bridge.step]) (by simp [Bridge.step])
        (fun d h => by simpa using h)
    | loop i =>
      rw [Bridge.step_of_running hs]
      rcases i with (_ | e) | (_ | m | e | _)
      · cases hc : s.ch.closed
        · -- cancellation, `Unsubscribe` succeeds: `chMessage` is closed
          obtain ⟨ch, heq, hclosed, hlog⟩ := Bridge.iterate_cancel_none hc
          rw [heq]
          exact RunSpec.exit rfl rfl (by simp) rfl (by simp [hclosed])
            (by simp [Bridge.exit, pollsOf, exitCalls]) rfl rfl hlog
        · -- the same on a closed `chMessage`: `close` panics
          rw [Bridge.iterate_cancel_none_closed hc]
          exact RunSpec.exit rfl rfl (by simp) rfl (by simp [hc])
            (by simp [Bridge.exit, pollsOf, exitCalls]) rfl rfl rfl
      · -- cancellation, `Unsubscribe` fails
        exact RunSpec.exit rfl rfl (by simp [Bridge.iterate]) rfl (by simp [Bridge.iterate])
          (by simp [Bridge.iterate, Bridge.exit, pollsOf, exitCalls]) rfl rfl rfl
      · -- `Poll` returned nil
        exact (ih (s.iterate (.poll .none)) hs).cons [] rfl
          (by simp [Bridge.iterate, pollsOf, List.replicate_succ]) rfl (by simp [Bridge.iterate])
          (by simp [Bridge.iterate]) (fun d h => by simpa [polledOf] using h)
      · cases hc : s.ch.closed
        · -- a message: sent when `chMessage` can take it, dropped otherwise
          obtain ⟨ch, heq, hclosed, hlog⟩ := Bridge.iterate_message hc m
          rw [heq]
          have h := ih { s with
            ch := ch
            calls := s.calls ++ [.poll taosPollTimeoutMs]
            polled := s.polled ++ [m]
            sent := s.sent ++ if s.ch.ready then [m] else [] } hs
          rw [show ch.closed = false from hclosed] at h
          refine h.cons (if s.ch.ready then [m] else []) rfl
            (by simp [pollsOf, List.replicate_succ]) (by simp [polledOf]) rfl hlog (fun d h => ?_)
          simp only [polledOf, Bool.false_eq_true, if_false]
          split_ifs
          · exact h.cons₂ m
          · exact h.cons m
        · -- a message on a closed `chMessage`: the send panics
          rw [Bridge.iterate_message_closed hc]
          exact RunSpec.exit rfl (by simp [polledOf]) (by simp) rfl (by simp [hc])
            (by simp [Bridge.exit, pollsOf, exitCalls]) rfl rfl rfl
      · -- an error event: returned
        exact RunSpec.exit rfl rfl (by simp [Bridge.iterate]) rfl (by simp [Bridge.iterate])
          (by simp [Bridge.iterate, Bridge.exit, pollsOf, exitCalls]) rfl rfl rfl
      · -- a value of another type
        exact (ih (s.iterate (.poll .other)) hs).cons [] rfl
          (by simp [Bridge.iterate, pollsOf, List.replicate_succ]) rfl (by simp [Bridge.iterate])
          (by simp [Bridge.iterate]) (fun d h => by simpa [polledOf] using h)

/-! ## A call of `subscribe` -/

section Subscribe

variable {topic : String} {ch : Chan Msg} {newConsumer subscribe : Option Error} {s0 : Bridge Msg}

theorem start_eq_ok (h : start topic (some ch) newConsumer subscribe = .ok s0) :
    newConsumer = none ∧ subscribe = none ∧ s0 = ⟨ch, [.subscribe topic], [], [], .running⟩ := by
  unfold start at h
  split_ifs at h
  cases newConsumer <;> cases subscribe <;> simp_all

theorem start_run_spec (h : start topic (some ch) newConsumer subscribe = .ok s0)
    (ts : List (Tick Msg)) :
    s0.ch = ch ∧ s0.polled = [] ∧ s0.sent = [] ∧ RunSpec ch.closed s0 ts (s0.run ts) := by
  obtain ⟨-, -, rfl⟩ := start_eq_ok h
  exact ⟨rfl, rfl, rfl, Bridge.run_spec ts ⟨ch, [.subscribe topic], [], [], .running⟩ rfl⟩

/-- The loop's run: it never panics, closes `chMessage` exactly when it returns `nil`, and once
`chMessage` is closed nothing is sent on it and it stays closed. -/
theorem loop_run_close (h : start topic (some ch) newConsumer subscribe = .ok s0)
    (hopen : ch.closed = false) (ts : List (Tick Msg)) :
    (∀ p, (s0.run ts).status ≠ .panicked p) ∧
    ((s0.run ts).ch.closed = true ↔ (s0.run ts).status = .returned none) ∧
    ((s0.run ts).status = .returned none ↔ exitOf false ts = some (.cancel none)) ∧
    (∀ e, exitOf false ts = some (.poll (.error e)) →
      (s0.run ts).status = .returned (some e) ∧ (s0.run ts).ch.closed = false) ∧
    (∀ e, exitOf false ts = some (.cancel (some e)) →
      (s0.run ts).status = .returned (some e) ∧ (s0.run ts).ch.closed = false) ∧
    (∀ us, (s0.run ts).ch.closed = true →
      ((s0.run ts).run us).ch.closed = true ∧ ((s0.run ts).run us).sent = (s0.run ts).sent) := by
  have hs : RunSpec false s0 ts (s0.run ts) := hopen ▸ (start_run_spec h ts).2.2.2
  have hnil : (s0.run ts).status = .returned none ↔ exitOf false ts = some (.cancel none) := by
    simp [hs.status, exitStatus_eq_nil]
  refine ⟨fun p => hs.status ▸ exitStatus_ne_panicked _ p, hs.closed_iff.trans hnil.symm, hnil,
    fun e he => ⟨by simp [hs.status, he, exitStatus], hs.open_of_ne (by simp [he])⟩,
    fun e he => ⟨by simp [hs.status, he, exitStatus], hs.open_of_ne (by simp [he])⟩, fun us hc => ?_⟩
  have hnr : (s0.run ts).status ≠ .running := by
    rw [hs.closed_iff.trans hnil.symm] at hc
    simp [hc]
  obtain ⟨-, -, -, hsent, hclosed, -⟩ := Bridge.run_of_not_running hnr us
  exact ⟨hclosed.trans hc, hsent⟩

/-- What a call of `subscribe` run on `ts` leaves: its status and `chMessage`. An early return
gives the error of `start` and leaves `chMessage` as the caller passed it. -/
def subscribeOutcome (topic : String) (chMessage : Option (Chan Msg))
    (newConsumer subscribe : Option Error) (ts : List (Tick Msg)) : Status × Option (Chan Msg) :=
  match start topic chMessage newConsumer subscribe with
  | .error (e, _) => (.returned (some e), chMessage)
  | .ok s0 => ((s0.run ts).status, some (s0.run ts).ch)

/-- `subscribe` reaches its loop exactly with a topic, a channel, a consumer and a subscription. -/
theorem start_ok_iff {chMessage : Option (Chan Msg)} :
    (∃ s0, start topic chMessage newConsumer subscribe = .ok s0) ↔
      topic.length ≠ 0 ∧ chMessage.isSome ∧ newConsumer = none ∧ subscribe = none := by
  unfold start
  rcases chMessage with _ | ch <;> cases newConsumer <;> cases subscribe <;> split_ifs <;> simp_all

/-- Every call of `subscribe`, early returns included: it never panics, closes `chMessage` exactly
when it returns `nil`, which it does exactly when its loop saw the cancellation and the explicit
`Unsubscribe` succeeded; in the loop, an error event and a failed `Unsubscribe` are returned with
`chMessage` open, and once `chMessage` is closed nothing is sent on it. -/
theorem subscribe_run_close {chMessage : Option (Chan Msg)}
    (hopen : ∀ ch, chMessage = some ch → ch.closed = false) (ts : List (Tick Msg)) :
    (∀ p, (subscribeOutcome topic chMessage newConsumer subscribe ts).1 ≠ .panicked p) ∧
    ((∃ ch, (subscribeOutcome topic chMessage newConsumer subscribe ts).2 = some ch ∧
        ch.closed = true) ↔
      (subscribeOutcome topic chMessage newConsumer subscribe ts).1 = .returned none) ∧
    ((subscribeOutcome topic chMessage newConsumer subscribe ts).1 = .returned none ↔
      topic.length ≠ 0 ∧ chMessage.isSome ∧ newConsumer = none ∧ subscribe = none ∧
        exitOf false ts = some (.cancel none)) ∧
    ∀ s0, start topic chMessage newConsumer subscribe = .ok s0 →
      (∀ e, exitOf false ts = some (.poll (.error e)) →
        (s0.run ts).status = .returned (some e) ∧ (s0.run ts).ch.closed = false) ∧
      (∀ e, exitOf false ts = some (.cancel (some e)) →
        (s0.run ts).status = .returned (some e) ∧ (s0.run ts).ch.closed = false) ∧
      (∀ us, (s0.run ts).ch.closed = true →
        ((s0.run ts).run us).ch.closed = true ∧ ((s0.run ts).run us).sent = (s0.run ts).sent) := by
  rcases hst : start topic chMessage newConsumer subscribe with ⟨e, calls⟩ | s0
  · -- an early return: an error, with `chMessage` as it was
    have hfail : ¬(topic.length ≠ 0 ∧ chMessage.isSome ∧ newConsumer = none ∧ subscribe = none) :=
      fun h => by obtain ⟨s0, h⟩ := start_ok_iff.mpr h; simp [hst] at h
    simp only [subscribeOutcome, hst]
    refine ⟨fun p => by simp, ⟨fun ⟨ch, hch, hc⟩ => by simp [hopen ch hch] at hc, by simp⟩,
      ⟨by simp, fun h => absurd ⟨h.1, h.2.1, h.2.2.1, h.2.2.2.1⟩ hfail⟩, fun _ h => by cases h⟩
  · -- the loop, on the channel the caller passed
    obtain ⟨ch, rfl⟩ : ∃ ch, chMessage = some ch := Option.isSome_iff_exists.mp
      (start_ok_iff.mp ⟨s0, hst⟩).2.1
    have htopic := (start_ok_iff.mp ⟨s0, hst⟩).1
    obtain ⟨rfl, rfl, -⟩ := start_eq_ok hst
    have hl := loop_run_close hst (hopen ch rfl) ts
    simp only [subscribeOutcome, hst, Option.some.injEq, exists_eq_left', Option.isSome_some, ne_eq,
      htopic, not_false_eq_true, true_and, Except.ok.injEq, forall_eq']
    exact ⟨hl.1, hl.2.1, hl.2.2.1, hl.2.2.2⟩

/-- A channel with room for one value, open, with no reader waiting. -/
def exampleChan : Chan Nat := ⟨1, [], 0, [], false, fun h => absurd h (Nat.lt_irrefl 0), by simp⟩

/-- `subscribe` on the topic `t` and `exampleChan`, up to its loop. -/
def exampleBridge : Bridge Nat := ⟨exampleChan, [.subscribe "t"], [], [], .running⟩

theorem subscribe_run_close_example :
    (∀ ch, some exampleChan = some ch → ch.closed = false) ∧
    ((subscribeOutcome "t" (some exampleChan) none none [.loop (.cancel none)]).1 = .returned none ↔
      "t".length ≠ 0 ∧ (some exampleChan).isSome ∧ (none : Option Error) = none ∧
        (none : Option Error) = none ∧
        exitOf false ([.loop (.cancel none)] : List (Tick Nat)) = some (.cancel none)) :=
  have hopen : ∀ ch, some exampleChan = some ch → ch.closed = false := fun _ h => by cases h; rfl
  ⟨hopen, (@subscribe_run_close Nat "t" none none (some exampleChan) hopen [.loop (.cancel none)]).2.2.1⟩

theorem subscribe_run_sent (h : start topic (some ch) newConsumer subscribe = .ok s0)
    (hopen : ch.closed = false) (ts : List (Tick Msg)) :
    (s0.run ts).polled = polledOf false ts ∧ (s0.run ts).sent.Sublist (s0.run ts).polled ∧
    (s0.run ts).ch.log = ch.log ++ (s0.run ts).sent ∧
    ∀ m, (s0.run ts).status = .running →
      (s0.run (ts ++ [.loop (.poll (.message m))])).sent = (s0.run ts).sent ++
        if (s0.run ts).ch.waiting = 0 ∧ (s0.run ts).ch.buf.length = (s0.run ts).ch.cap then []
        else [m] := by
  obtain ⟨hch, hpolled, hsent0, hs⟩ := start_run_spec h ts
  rw [hopen] at hs
  obtain ⟨d, hsent, hlog, hsub⟩ := hs.sent
  refine ⟨by simpa [hpolled] using hs.polled, by simpa [hs.polled, hsent, hpolled, hsent0] using hsub,
    by simpa [hsent, hch, hsent0] using hlog, fun m hr => ?_⟩
  have hc : (s0.run ts).ch.closed = false :=
    hs.open_of_ne fun he => by simp [hs.status, he, exitStatus] at hr
  obtain ⟨ch', heq, -, -⟩ := Bridge.iterate_message hc m
  rw [Bridge.run_append, Bridge.run_cons, Bridge.step_of_running hr, heq, Bridge.run_nil]
  by_cases hready : (s0.run ts).ch.ready <;> simp [hready, ← Chan.not_ready_iff]

theorem subscribe_run_sent_example :
    start "t" (some exampleChan) none none = .ok exampleBridge ∧ exampleChan.closed = false ∧
    (exampleBridge.run [.loop (.poll (.message 7))]).sent.Sublist
      (exampleBridge.run [.loop (.poll (.message 7))]).polled :=
  ⟨rfl, rfl, (@subscribe_run_sent Nat "t" exampleChan none none exampleBridge rfl rfl
    [.loop (.poll (.message 7))]).2.1⟩

/-- On a cancellation the explicit `Unsubscribe` is followed by the deferred one. -/
theorem subscribe_cancel_unsubscribes_twice :
    start "t" (some exampleChan) none none = .ok exampleBridge ∧
    (exampleBridge.run [.loop (.cancel none)]).calls =
      [.subscribe "t", .unsubscribe, .unsubscribe, .close] :=
  ⟨rfl, rfl⟩

theorem subscribe_calls (htopic : topic.length ≠ 0) (ts : List (Tick Msg)) :
    (∀ e, start topic (some ch) none (some e) = .error (e, [.subscribe topic, .close])) ∧
    ∃ s0, start topic (some ch) none none = .ok s0 ∧
      (s0.run ts).calls = .subscribe topic ::
        List.replicate (pollsOf ch.closed ts) (.poll taosPollTimeoutMs) ++
          exitCalls (exitOf ch.closed ts) := by
  refine ⟨fun e => by simp [start, htopic], ⟨ch, [.subscribe topic], [], [], .running⟩,
    by simp [start, htopic], ?_⟩
  simpa using (Bridge.run_spec ts _ rfl).calls

theorem subscribe_calls_example :
    "t".length ≠ 0 ∧
    ∃ s0, start "t" (some exampleChan) none none = .ok s0 ∧
      (s0.run [.loop (.poll .none), .loop (.cancel none)]).calls = .subscribe "t" ::
        List.replicate (pollsOf exampleChan.closed
          ([.loop (.poll .none), .loop (.cancel none)] : List (Tick Nat))) (.poll taosPollTimeoutMs) ++
        exitCalls (exitOf exampleChan.closed
          ([.loop (.poll .none), .loop (.cancel none)] : List (Tick Nat))) :=
  ⟨by decide, (@subscribe_calls Nat "t" exampleChan (by decide)
    [.loop (.poll .none), .loop (.cancel none)]).2⟩

/-- On a closed `chMessage` the first message polled panics the send; the deferred `Unsubscribe` and
`Close` still run. -/
example : (Bridge.run ⟨⟨1, [], 0, [], true, fun h => absurd h (Nat.lt_irrefl 0), by simp⟩,
      [.subscribe "t"], [], [], .running⟩
      [.loop (.poll .none), .loop (.poll (.message 7)), .loop (.poll (.message 8))]).calls =
    [.subscribe "t", .poll 5000, .poll 5000, .unsubscribe, .close] := rfl

end Subscribe

/-! ## The consumer's configuration -/

/-- The `tmqcommon.ConfigMap` that `newConsumer` passes to `tmq.NewConsumer`, given the name
`os.Hostname` returned and the number `rand.Intn(86400)` drew. -/
def consumerConfig (dbAddr dbUser dbPass topic hostname : String) (n : Nat) :
    List (String × String) :=
  [("ws.url", replaceAll dbAddr "http:" "ws:" ++ "/rest/tmq"),
    ("td.connect.user", dbUser),
    ("td.connect.pass", dbPass),
    ("group.id", topic),
    ("client.id", "iot_" ++ hostname ++ "-" ++ toString n),
    ("auto.offset.reset", "latest"),
    ("enable.auto.commit", "true")]

theorem consumerConfig_wsURL (dbAddr dbUser dbPass topic hostname : String) (n : Nat) :
    (consumerConfig dbAddr dbUser dbPass topic hostname n).lookup "ws.url" =
      some (replaceAll dbAddr "http:" "ws:" ++ "/rest/tmq") := by
  simp [consumerConfig, List.lookup]

/-- A library whose `url.Parse` reads the address `https://db:6041`. -/
def httpsLib : Lib where
  parseURL := fun _ => .ok ⟨"https", none, "db:6041", "", []⟩
  mediaType := id
  decode := fun _ => .error .eof
  parseTime := fun _ => none

theorem consumerConfig_scheme (dbUser dbPass topic hostname : String) (n : Nat) (r : String)
    (hr : ¬ "http:".toList <:+: r.toList) :
    (consumerConfig ("http://" ++ r) dbUser dbPass topic hostname n).lookup "ws.url" =
        some ("ws://" ++ r ++ "/rest/tmq") ∧
      (consumerConfig ("https://" ++ r) dbUser dbPass topic hostname n).lookup "ws.url" =
        some ("https://" ++ r ++ "/rest/tmq") := by
  have hr' : ¬ "http:".toList <:+: '/' :: '/' :: r.toList := by
    simpa [List.infix_cons_iff] using hr
  have hs : ¬ "http:".toList <:+: "https://".toList ++ r.toList := by
    simpa [List.infix_cons_iff] using hr
  simp only [consumerConfig_wsURL, replaceAll, Option.some.injEq]
  constructor
  · have e : ("http://" ++ r).toList = "http:".toList ++ '/' :: '/' :: r.toList := by simp
    rw [e, replaceScan_prefix (by decide), replaceScan_of_not_infix hr']
    exact String.ext (by simp)
  · rw [show ("https://" ++ r).toList = "https://".toList ++ r.toList by simp,
      replaceScan_of_not_infix hs]
    exact String.ext (by simp)

/-- `NewHTTPClient` accepts `https://db:6041`, and `newConsumer` keeps its scheme. -/
theorem consumerConfig_scheme_example :
    newHTTPClient httpsLib { addr := "https://db:6041" } =
      .ok ⟨⟨"https", none, "db:6041", "", []⟩, "", "", "TDEngineDBClient", ""⟩ ∧
    ¬ "http:".toList <:+: "db:6041".toList ∧
    (consumerConfig ("http://" ++ "db:6041") "root" "taosdata" "t" "h" 1).lookup "ws.url" =
      some ("ws://" ++ "db:6041" ++ "/rest/tmq") ∧
    (consumerConfig ("https://" ++ "db:6041") "root" "taosdata" "t" "h" 1).lookup "ws.url" =
      some ("https://" ++ "db:6041" ++ "/rest/tmq") :=
  ⟨rfl, by decide, consumerConfig_scheme "root" "taosdata" "t" "h" 1 "db:6041" (by decide)⟩

/-- An `http:` after the scheme is rewritten too. -/
example : (consumerConfig "http://db:6041/?next=http://x" "root" "taosdata" "t" "h" 1).lookup "ws.url" =
    some "ws://db:6041/?next=ws://x/rest/tmq" := by decide

end Tsdb
