import WebAudioCapture.ControlRestart
import WebAudioCapture.FrameQueue
import WebAudioCapture.Lifetime
import WebAudioCapture.Lib.Monitor

/-!
# The waits

The queue, an alarm, the connection and a stop each have a mutex and a
condition variable. What their waiters wait for, and who changes it.
-/

namespace WebAudioCapture

variable {β : Type}

/-! ## The queue's wait -/

/-- What threads other than the consumer do with the queue's lock. -/
inductive QueueWrite (β : Type) where
  | push (frame : List β)
  | close
  | size
  deriving DecidableEq, Repr

namespace FrameQueue

def write (q : FrameQueue β) : QueueWrite β → Option (FrameQueue β)
  | .push frame => (q.push frame).map Prod.fst
  | .close => some q.close
  | .size => some q

/-- `pop` waits until the queue is ready; its argument is the caller's buffer.
A push that is refused returns before it notifies. -/
def waits : Monitor.Design (FrameQueue β) Unit (QueueWrite β) (List β) where
  awaits := fun _ q => q.ready
  leave := fun _ out q => (q.pop out).map Prod.fst
  change := fun op q => q.write op
  locked := fun _ => true
  wakes
    | .push _, q => if q.accepts then .one else .none
    | .close, _ => .all
    | .size, _ => .none

theorem push_unready {q q' : FrameQueue β} {frame : List β} {discarded : Nat}
    (pushed : q.push frame = some (q', discarded)) (refused : q.accepts = false) : q' = q := by
  have shut : (q.closed || q.slotBytes == 0) = true := by
    cases closed : q.closed with
    | true => rfl
    | false => simpa [accepts, closed] using refused
  rw [push, if_pos shut] at pushed
  cases pushed
  rfl

theorem pop_unready {q q' : FrameQueue β} {out : List β} {p : Popped β}
    (popped : q.pop out = some (q', p)) (ready : q'.ready = true) : q.ready = true := by
  unfold pop at popped
  dsimp only at popped
  split at popped
  · cases popped
    exact ready
  · rename_i some
    simp only [FrameQueue.ready, Bool.or_eq_true, decide_eq_true_eq]
    exact .inl (Nat.pos_of_ne_zero some)

theorem waits_guarded : Monitor.Guarded (waits (β := β)) () := by
  constructor
  · intro op q q' changed unready ready
    refine ⟨rfl, ?_⟩
    cases op with
    | push frame =>
      obtain ⟨⟨q', discarded⟩, pushed, rfl⟩ := Option.map_eq_some_iff.mp changed
      cases accepts : q.accepts with
      | false =>
        rw [push_unready pushed accepts] at ready
        exact absurd (unready.symm.trans ready) Bool.false_ne_true
      | true =>
        refine .inr ⟨?_, fun _ => rfl⟩
        simp only [waits, accepts, if_true]
    | close => exact .inl rfl
    | size =>
      cases changed
      exact absurd (unready.symm.trans ready) Bool.false_ne_true
  · intro _ out q q' left ready
    obtain ⟨⟨q', p⟩, popped, rfl⟩ := Option.map_eq_some_iff.mp left
    exact pop_unready popped ready

/-- A consumer never sleeps in `pop` beside a frame or a closed queue: if it
does, a `push` or a `close` is about to notify it. Any number of threads push,
close and ask for the size. -/
theorem pop_heard {κ : Type} [DecidableEq κ]
    {s : Monitor.State (FrameQueue β) Unit κ (QueueWrite β)}
    (run : Steps.Reach (Monitor.step waits) Steps.Any Monitor.Quiet s)
    (blocked : s.waiter () = .blocked) (ready : s.data.ready = true) :
    Monitor.Awaking waits s () :=
  (waits_guarded.summoned run blocked ready).awaking blocked

/-- A consumer asleep in `pop`, and a thread that has just closed the queue. -/
theorem pop_heard_once : ∃ s : Monitor.State (FrameQueue UInt8) Unit Unit (QueueWrite UInt8),
    Steps.Reach (Monitor.step waits) Steps.Any Monitor.Quiet s ∧ s.waiter () = .blocked ∧
    s.data.closed = true ∧ Monitor.Awaking waits s () := by
  have run : Steps.Reach (Monitor.step waits) Steps.Any Monitor.Quiet _ :=
    .exec (.start (s := { data := smallHandle.queue }) ⟨rfl, fun _ => rfl, fun _ => rfl⟩)
      (Steps.meets_any _ _
        [.enter (), .take (), .test (), .register (), .begin () .close, .change ()]) rfl
  exact ⟨_, run, rfl, rfl, pop_heard run rfl rfl⟩

end FrameQueue

/-! ## An alarm's wait -/

/-- What threads other than its waiter do with an alarm's lock. -/
inductive AlarmWrite (α : Type) where
  | ring (value : α)
  | tryRing (value : α)
  | reset
  deriving DecidableEq, Repr

namespace Alarm

variable {α : Type}

def write (alarm : Alarm α) : AlarmWrite α → Alarm α
  | .ring value => alarm.ring value
  | .tryRing value => (alarm.tryRing value).1
  | .reset => alarm.reset

/-- The end of `wait`, which takes the value if there is one. -/
def finish (alarm : Alarm α) : Alarm α := if alarm.raised then alarm.take.1 else alarm

/-- Only one waiter is meant to wait, but more could. -/
def waits (ω : Type) : Monitor.Design (Alarm α) ω (AlarmWrite α) Unit where
  awaits := fun _ alarm => alarm.raised
  leave := fun _ _ alarm => some alarm.finish
  change := fun op alarm => some (alarm.write op)
  locked := fun _ => true
  wakes
    | .ring _, _ => .all
    | .tryRing value, alarm => if (alarm.tryRing value).2 then .all else .none
    | .reset, _ => .none

theorem waits_guarded {ω : Type} [DecidableEq ω] (w : ω) :
    Monitor.Guarded (waits (α := α) ω) w := by
  constructor
  · intro op a b changed lowered raised
    cases changed
    refine ⟨rfl, .inl ?_⟩
    cases op with
    | ring value => rfl
    | tryRing value =>
      have rung : (a.tryRing value).2 = true := by
        have free : a.raised = false := lowered
        rw [tryRing, free, if_neg Bool.false_ne_true]
      simp only [waits, rung, if_true]
    | reset => cases raised
  · intro _ _ a b left raised
    cases left
    simp only [waits, finish] at raised ⊢
    split at raised
    · assumption
    · exact raised

/-- Nobody waits for a value that is there, whatever rings, retries and resets
come in between. -/
theorem wait_heard {ω κ : Type} [DecidableEq ω] [Fintype ω] [DecidableEq κ] (w : ω)
    {s : Monitor.State (Alarm α) ω κ (AlarmWrite α)}
    (run : Steps.Reach (Monitor.step (waits ω)) Steps.Any Monitor.Quiet s)
    (blocked : s.waiter w = .blocked) (raised : s.data.raised = true) :
    Monitor.Awaking (waits ω) s w :=
  ((waits_guarded w).summoned run blocked raised).awaking blocked

/-- A waiter asleep, and a callback that has just rung. -/
theorem wait_heard_once : ∃ s : Monitor.State (Alarm Bool) Unit Unit (AlarmWrite Bool),
    Steps.Reach (Monitor.step (waits Unit)) Steps.Any Monitor.Quiet s ∧ s.waiter () = .blocked ∧
    s.data.value = true ∧ Monitor.Awaking (waits Unit) s () := by
  have run : Steps.Reach (Monitor.step (waits Unit)) Steps.Any Monitor.Quiet _ :=
    .exec (.start (s := { data := make false }) ⟨rfl, fun _ => rfl, fun _ => rfl⟩)
      (Steps.meets_any _ _
        [.enter (), .take (), .test (), .register (), .begin () (.tryRing true), .change ()]) rfl
  exact ⟨_, run, rfl, rfl, wait_heard () run rfl rfl⟩

/-! ## What an alarm hands over -/

/-- The values put into an alarm, and those its waiters came away with. -/
structure Mail (α : Type) where
  rung : List α := []
  taken : List α := []

def pending (alarm : Alarm α) : List α := if alarm.raised then [alarm.value] else []

/-- What a write puts into the alarm. -/
def puts (alarm : Alarm α) : AlarmWrite α → List α
  | .ring value => [value]
  | .tryRing value => if (alarm.tryRing value).2 then [value] else []
  | .reset => []

def noteMail {ω κ : Type} (s : Monitor.State (Alarm α) ω κ (AlarmWrite α)) :
    Monitor.Label ω κ (AlarmWrite α) Unit → Monitor.State (Alarm α) ω κ (AlarmWrite α) →
      Mail α → Mail α
  | .change k, _, g =>
    match s.writer k with
    | .inside op => { g with rung := g.rung ++ s.data.puts op }
    | _ => g
  | .leave _ _, _, g => { g with taken := g.taken ++ s.data.pending }
  | _, _, g => g

/-- Only `try_ring` is used, as in the queries. -/
def Tries {ω κ : Type} (s : Monitor.State (Alarm α) ω κ (AlarmWrite α)) :
    Monitor.Label ω κ (AlarmWrite α) Unit → Prop
  | .change k => ∃ value, s.writer k = .inside (.tryRing value)
  | _ => True

theorem tryRing_pending (alarm : Alarm α) (value : α) :
    (alarm.write (.tryRing value)).pending = alarm.pending ++ alarm.puts (.tryRing value) := by
  cases raised : alarm.raised with
  | true => simp [write, puts, pending, tryRing, raised]
  | false => simp [write, puts, pending, tryRing, raised]

/-- A write replaces what is pending, adds to it or discards it. -/
theorem write_pending (alarm : Alarm α) (op : AlarmWrite α) {taken rung : List α}
    (h : (taken ++ alarm.pending).Sublist rung) :
    (taken ++ (alarm.write op).pending).Sublist (rung ++ alarm.puts op) := by
  have old : taken.Sublist rung := (List.sublist_append_left taken _).trans h
  cases op with
  | ring value => exact old.append (List.Sublist.refl [value])
  | tryRing value =>
    rw [tryRing_pending, ← List.append_assoc]
    exact h.append (List.Sublist.refl _)
  | reset =>
    have empty : (alarm.write .reset).pending = [] := rfl
    rw [empty, List.append_nil]
    exact old.trans (List.sublist_append_left rung _)

theorem finish_pending (alarm : Alarm α) : alarm.finish.pending = [] := by
  unfold finish pending
  cases raised : alarm.raised with
  | true => rfl
  | false => simp only [Bool.false_eq_true, if_false, raised]

/-- An alarm hands over what is rung in order and each value at most once, to
whichever waiter comes; with `try_ring` alone nothing rung is lost. -/
theorem mail_handed_over {ω κ : Type} [DecidableEq ω] [Fintype ω] [DecidableEq κ]
    {ok : Monitor.State (Alarm α) ω κ (AlarmWrite α) →
      Monitor.Label ω κ (AlarmWrite α) Unit → Prop}
    {p : Monitor.State (Alarm α) ω κ (AlarmWrite α) × Mail α}
    (run : Steps.Watched (Monitor.step (waits ω)) noteMail ok
      (fun s => Monitor.Quiet s ∧ s.data.raised = false) {} p) :
    p.2.taken.Sublist p.2.rung ∧
      ((∀ s l, ok s l → Tries s l) → p.2.rung = p.2.taken ++ p.1.data.pending) := by
  have both : (p.2.taken ++ p.1.data.pending).Sublist p.2.rung ∧
      ((∀ s l, ok s l → Tries s l) → p.2.rung = p.2.taken ++ p.1.data.pending) := by
    apply Steps.Watched.invariant (fun s g => (g.taken ++ s.data.pending).Sublist g.rung ∧
      ((∀ s l, ok s l → Tries s l) → g.rung = g.taken ++ s.data.pending)) ?_ ?_ run
    · intro s ⟨_, lowered⟩
      have empty : s.data.pending = [] := by
        rw [pending, lowered, if_neg Bool.false_ne_true]
      rw [empty]
      exact ⟨List.Sublist.refl _, fun _ => rfl⟩
    · intro s l t g _ ⟨handed, kept⟩ meets taken
      cases Monitor.step_moves _ taken with
      | change k op data at_ changed =>
        cases changed
        simp only [noteMail, at_]
        refine ⟨write_pending s.data op handed, fun tries => ?_⟩
        obtain ⟨value, trying⟩ := tries s _ meets
        rw [at_] at trying
        cases trying
        rw [kept tries, tryRing_pending, List.append_assoc]
      | leave w arg data at_ left =>
        cases left
        simp only [noteMail, finish_pending, List.append_nil]
        exact ⟨handed, kept⟩
      | _ => exact ⟨handed, kept⟩
  exact ⟨(List.sublist_append_left _ _).trans both.1, both.2⟩

/-- One value rung, and a second that came too late; the first is taken. -/
theorem mail_handed_over_once :
    ∃ p : Monitor.State (Alarm Nat) Unit Unit (AlarmWrite Nat) × Mail Nat,
      Steps.Watched (Monitor.step (waits Unit)) noteMail Tries
        (fun s => Monitor.Quiet s ∧ s.data.raised = false) {} p ∧
      p.2.rung = [1] ∧ p.2.taken.Sublist p.2.rung ∧ p.2.rung = p.2.taken ++ p.1.data.pending := by
  have rung : (Steps.exec (Steps.watch (Monitor.step (waits Unit)) noteMail)
      (({ data := make 0 } : Monitor.State (Alarm Nat) Unit Unit (AlarmWrite Nat)), {})
      [.begin () (.tryRing 1), .change (), .notify () none, .begin () (.tryRing 2), .change (),
        .enter (), .take (), .test (), .leave () ()]).map (·.2.rung) = some [1] := rfl
  obtain ⟨p, ran, rung⟩ := Option.map_eq_some_iff.mp rung
  have run : Steps.Watched (Monitor.step (waits Unit)) noteMail Tries
      (fun s => Monitor.Quiet s ∧ s.data.raised = false) {} p := by
    refine .exec (.start ⟨⟨⟨rfl, fun _ => rfl, fun _ => rfl⟩, rfl⟩, rfl⟩) ?_ ran
    exact ⟨trivial, ⟨1, rfl⟩, trivial, trivial, ⟨2, rfl⟩, trivial, trivial, trivial, trivial,
      trivial⟩
  obtain ⟨handed, kept⟩ := mail_handed_over run
  exact ⟨p, run, rung, handed, kept fun _ _ tries => tries⟩

end Alarm

/-! ## The connection's wait -/

/-- What threads other than the one in `init` do under `_state_lock`. -/
inductive ConnectionWrite where
  | stateCallback (delivery : Delivery)
  | release
  | ready
  deriving DecidableEq, Repr

namespace Control

def write (c : Control) : ConnectionWrite → Control
  | .stateCallback delivery => c.deliver delivery
  | .release => c.release
  | .ready => c

/-- `state_callback` notifies unless the context is still on its way. -/
def notifies : ContextState → Bool
  | .ready | .failed | .terminated => true
  | _ => false

/-- `init` waits for the connection, and looks at what it found. -/
def waits : Monitor.Design Control Unit ConnectionWrite Unit where
  awaits := fun _ c => c.ready || c.failed
  leave := fun _ _ c => some c.awaitConnection.1
  change := fun op c => some (c.write op)
  locked := fun _ => true
  wakes
    | .stateCallback delivery, _ => if notifies delivery.state then .all else .none
    | .release, _ => .none
    | .ready, _ => .none

theorem deliver_unnotified {c : Control} {delivery : Delivery}
    (quiet : notifies delivery.state = false) :
    (c.deliver delivery).ready = c.ready ∧ (c.deliver delivery).failed = c.failed := by
  cases delivery with
  | current state => cases state <;> first | exact ⟨rfl, rfl⟩ | cases quiet
  | stale state => cases state <;> first | exact ⟨rfl, rfl⟩ | cases quiet

theorem awaitConnection_flags (c : Control) :
    c.awaitConnection.1.ready = c.ready ∧ c.awaitConnection.1.failed = c.failed := by
  unfold awaitConnection
  split
  · exact ⟨rfl, rfl⟩
  · split
    · exact ⟨rfl, rfl⟩
    · exact ⟨rfl, rfl⟩

theorem waits_guarded : Monitor.Guarded waits () := by
  constructor
  · intro op c c' changed unmet found
    cases changed
    refine ⟨rfl, .inl ?_⟩
    cases op with
    | stateCallback delivery =>
      cases told : notifies delivery.state with
      | true => simp only [waits, told, if_true]
      | false =>
        obtain ⟨ready, failed⟩ := deliver_unnotified (c := c) told
        have same : (waits.awaits () (c.write (.stateCallback delivery))) = waits.awaits () c := by
          simp only [waits, write, ready, failed]
        rw [same, unmet] at found
        cases found
    | release =>
      simp only [waits, write, release, Bool.false_or, Bool.or_eq_false_iff] at unmet found
      rw [unmet.2] at found
      cases found
    | ready => exact absurd (unmet.symm.trans found) Bool.false_ne_true
  · intro _ _ c c' left found
    cases left
    obtain ⟨ready, failed⟩ := c.awaitConnection_flags
    simpa only [waits, ready, failed] using found

/-- `init` does not sleep beside a connection that is ready or has failed,
whatever the state callbacks of this and earlier contexts. -/
theorem connection_heard {κ : Type} [DecidableEq κ]
    {s : Monitor.State Control Unit κ ConnectionWrite}
    (run : Steps.Reach (Monitor.step waits) Steps.Any Monitor.Quiet s)
    (blocked : s.waiter () = .blocked) (found : (s.data.ready || s.data.failed) = true) :
    Monitor.Awaking waits s () :=
  (waits_guarded.summoned run blocked found).awaking blocked

/-- `init` asleep, and a callback that has just found the context ready. -/
theorem connection_heard_once : ∃ s : Monitor.State Control Unit Unit ConnectionWrite,
    Steps.Reach (Monitor.step waits) Steps.Any Monitor.Quiet s ∧ s.waiter () = .blocked ∧
    s.data.ready = true ∧ Monitor.Awaking waits s () := by
  have run : Steps.Reach (Monitor.step waits) Steps.Any Monitor.Quiet _ :=
    .exec (.start (s := { data := { ctx := some .connecting } })
        ⟨rfl, fun _ => rfl, fun _ => rfl⟩)
      (Steps.meets_any _ _ [.enter (), .take (), .test (), .register (),
        .begin () (.stateCallback (.current .ready)), .change ()]) rfl
  exact ⟨_, run, rfl, rfl, connection_heard run rfl rfl⟩

end Control

/-! ## The waits of a stop -/

/-- Who waits on `stop_cv`: the capture thread in `wait_for_stop`, the reader in
`sleep_interruptible`, and the join of a stop. -/
inductive StopWaiter where
  | retry
  | sleep
  | join
  deriving DecidableEq, Repr

instance : Fintype StopWaiter := ⟨{.retry, .sleep, .join}, fun w => by cases w <;> decide⟩

/-- The stores that decide what they wait for: `stop_requested` in a stop,
`running` at the end of `capture_loop`, the two of a start, and `running` at the
end of a stop. -/
inductive StopWrite where
  | request
  | leave
  | arm
  | raise
  | lower
  deriving DecidableEq, Repr

namespace Capture

def stopWrite (c : Capture β) : StopWrite → Capture β
  | .request => { c with stopRequested := true }
  | .leave => { c with running := false }
  | .arm => { c with stopRequested := false }
  | .raise => { c with running := true }
  | .lower => { c with running := false }

/-- Only a stop request is stored with `stop_lock` held; a start, and the end of
a stop, notify nobody. -/
def stopWaits : Monitor.Design (Capture β) StopWaiter StopWrite Unit where
  awaits
    | .retry, c => c.stopRequested
    | .sleep, c => c.stopRequested
    | .join, c => !c.running
  leave := fun _ _ c => some c
  change := fun op c => some (c.stopWrite op)
  locked
    | .request => true
    | _ => false
  wakes
    | .request, _ => .all
    | .leave, _ => .all
    | _, _ => .none

theorem stopWaits_guarded {w : StopWaiter} (asks : w ≠ .join) :
    Monitor.Guarded (stopWaits (β := β)) w := by
  have awaits : ∀ c : Capture β, stopWaits.awaits w c = c.stopRequested := by
    intro c
    cases w with
    | retry => rfl
    | sleep => rfl
    | join => exact absurd rfl asks
  constructor
  · intro op c c' changed unmet found
    cases changed
    rw [awaits] at unmet found
    cases op with
    | request => exact ⟨rfl, .inl rfl⟩
    | arm => cases found
    | leave | raise | lower => exact absurd (unmet.symm.trans found) Bool.false_ne_true
  · intro _ _ c c' left found
    cases left
    exact found

end Capture

/-- The store a step of a handle's life makes. -/
def Lifetime.stopWrite (s : Lifetime β) : LifetimeLabel β → Option StopWrite
  | .run =>
    match s.caller with
    | .requesting => some .request
    | .arming => some .arm
    | .raising => some .raise
    | .lowering => some .lower
    | _ => none
  | .thread i _ => if s.threads[i]?.any (fun t => t.pc == .exiting) then some .leave else none
  | _ => none

/-- What they wait for. -/
def Capture.stops (c : Capture β) : Bool × Bool := (c.stopRequested, c.running)

theorem CaptureThread.moves_stored {c c' : Capture β} {t t' : CaptureThread β} {now : Int}
    (moved : t.Moves c now c' t') :
    c'.stops = if t.pc = .exiting then (c.stopWrite .leave).stops else c.stops := by
  cases moved with
  | push c' at_ pushed =>
    obtain ⟨_, _, rfl⟩ := Option.map_eq_some_iff.mp pushed
    exact (if_neg (by rw [at_]; rintro ⟨⟩)).symm
  | raise next at_ =>
    obtain ⟨at_ | at_, _⟩ | ⟨at_, _⟩ := at_
    · exact (if_neg (by rw [at_]; rintro ⟨⟩)).symm
    · exact (if_neg (by rw [at_]; rintro ⟨⟩)).symm
    · exact (if_neg (by rw [at_]; rintro ⟨⟩)).symm
  | leave at_ => rw [if_pos at_]; rfl
  | loop at_ | unresolved _ _ _ at_ | resolve _ _ _ _ at_ | publish _ at_ | refuse _ _ at_
  | openStream _ _ at_ | read _ at_ | lose _ _ at_ | check at_ | schedule at_
  | checked _ _ _ _ at_ | retried _ _ at_ | notify at_ =>
    exact (if_neg (by rw [at_]; rintro ⟨⟩)).symm

/-- Nothing else changes what they wait for. -/
theorem Lifetime.step_stored [Zero β] {s t : Lifetime β} {l : LifetimeLabel β}
    (taken : s.step l = some t) :
    t.capture.stops =
      match s.stopWrite l with
      | some op => (s.capture.stopWrite op).stops
      | none => s.capture.stops := by
  cases step_moves taken with
  | thread i input th th' c at_ moved =>
    have stops := CaptureThread.moves_stored moved
    simp only [stopWrite, at_, Option.any_some, beq_iff_eq]
    by_cases leaving : th.pc = .exiting
    · rw [if_pos leaving] at stops ⊢
      exact stops
    · rw [if_neg leaving] at stops ⊢
      exact stops
  | reads c r at_ stepped =>
    obtain ⟨_, _, _, _, rfl⟩ := Reader.moves_shape (Reader.step_moves stepped)
    simp only [stopWrite, at_]
    rfl
  | connect env control status at_ made =>
    unfold connected
    split
    · rfl
    · rfl
  | resolve defaultSink monitor found at_ answer =>
    obtain ⟨control, _ | target⟩ := found
    · rfl
    · rfl
  | refuse at_ | begin at_ | publish _ at_ | arm at_ | raise at_ | spawn at_ | overwrite at_
  | request at_ | close at_ | pass at_ | wait _ at_ | see _ at_ | abandon _ at_ | join _ at_
  | lower at_ =>
    simp only [stopWrite, at_]
    rfl
  | _ => rfl

/-- A stop request is never slept through, by the capture thread between two
attempts or by a reader waiting for its deadline; the join of a stop can sleep
through the end of its thread. Any number of threads stop, start and leave; in the
life of a handle these stores are all that changes what they wait for. -/
theorem Capture.stop_heard_iff [Zero β] {κ : Type} [DecidableEq κ] [Inhabited κ] (w : StopWaiter) :
    ((∀ s : Monitor.State (Capture β) StopWaiter κ StopWrite,
      Steps.Reach (Monitor.step stopWaits) Steps.Any Monitor.Quiet s →
        ¬ Monitor.Lost stopWaits s w) ↔ w ≠ .join) ∧
    ∀ (s t : Lifetime β) (l : LifetimeLabel β), s.step l = some t →
      t.capture.stops =
        match s.stopWrite l with
        | some op => (s.capture.stopWrite op).stops
        | none => s.capture.stops := by
  refine ⟨⟨?_, ?_⟩, fun s t l taken => Lifetime.step_stored taken⟩
  · rintro never rfl
    obtain ⟨s, run, lost⟩ := Monitor.unlocked_lost (d := stopWaits) (w := .join) (default : κ)
      .leave ({ config := {}, running := true } : Capture β) rfl rfl rfl rfl
    exact never s (.trans (.start ⟨rfl, fun _ => rfl, fun _ => rfl⟩) run) lost
  · intro asks s run
    exact (stopWaits_guarded asks).not_lost run

end WebAudioCapture
