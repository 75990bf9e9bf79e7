import WebAudioCapture.ClockRange
import WebAudioCapture.Drift

/-!
# The cadence of a session

A fixed-rate reader and everyone else, under a clock that does not go back, are
a cadence: nobody but the reader changes its pacing. So is every session of a
fixed-rate handle.
-/

namespace WebAudioCapture

variable {β : Type}

/-- What a cadence leaves out of its record. -/
def Cadence.consumer (u : Cadence β) : Consumer β :=
  { capture := u.capture, reader := u.reader, clock := u.clock }

namespace Consumer

variable [Zero β] {s : Consumer β}

/-- Others change what is not the reader's pacing. -/
theorem others_step {u : Cadence β} {c : Capture β} (same : u.capture.SamePacing c) :
    ∃ k v, Cadence.IntTimeout u k ∧ u.step k = some v ∧
      v.consumer = { u.consumer with capture := c } := by
  refine ⟨.others c, { u with capture := c }, trivial, ?_, rfl⟩
  simp only [Cadence.step, if_pos same]

theorem step_cadence {u : Cadence β} {l : ConsumerLabel β} (timely : Timely u.consumer l)
    (taken : u.consumer.step l = some s) :
    ∃ k v, Cadence.IntTimeout u k ∧ u.step k = some v ∧ v.consumer = s := by
  cases step_moves taken with
  | clock now =>
    obtain ⟨elapsed, later⟩ := Int.eq_ofNat_of_zero_le (Int.sub_nonneg.mpr timely)
    have reads : u.clock + elapsed = now := by
      simp only [Cadence.consumer] at later
      omega
    refine ⟨.tick elapsed, _, trivial, rfl, ?_⟩
    simp only [Cadence.consumer, reads]
  | call args idle =>
    let entered : Reader β :=
      { pc := .entered, dst := args.dst, capacityFrames := args.capacityFrames, info := args.info
        timeoutMs := args.timeoutMs }
    refine ⟨.call args, { u with reader := entered }, timely, ?_, rfl⟩
    simp only [Cadence.step, Reader.call, show u.reader.isIdle = true from idle, if_true,
      Option.map_some, entered]
  | read c r moved =>
    simp only [step, Option.map_eq_some_iff, Prod.exists] at taken
    obtain ⟨c', r', stepped, same⟩ := taken
    refine ⟨.read, u.note c' r', trivial, ?_, same⟩
    simp only [Cadence.step, show u.reader.step u.capture u.clock = _ from stepped, Option.map_some]
  | push frame queue discarded pushed => exact others_step ⟨rfl, rfl, rfl⟩
  | close => exact others_step ⟨rfl, rfl, rfl⟩
  | raise => exact others_step ⟨rfl, rfl, rfl⟩
  | aside c => exact others_step ⟨rfl, rfl, rfl⟩

/-- A new fixed-rate handle, seen from the reader. -/
def FreshFixed (s : Consumer β) : Prop := Fresh s ∧ s.capture.config.fixedRate = true

theorem start_cadence (h : FreshFixed s) : ∃ u : Cadence β, Cadence.Fresh u ∧ u.consumer = s := by
  obtain ⟨⟨c, other, clock, created, rfl⟩, fixed⟩ := h
  obtain ⟨storage, shape, _⟩ := created.shape
  have unset : c.deadlineValid = false := by rw [shape]
  exact ⟨{ capture := c.besides other, clock }, ⟨fixed, unset, rfl⟩, rfl⟩

theorem reach_cadence (run : Steps.Reach step Timely FreshFixed s) :
    ∃ u, Steps.Reach Cadence.step Cadence.IntTimeout Cadence.Fresh u ∧ u.consumer = s := by
  induction run with
  | start fresh =>
    obtain ⟨u, begun, shown⟩ := start_cadence fresh
    exact ⟨u, .start begun, shown⟩
  | next _ timely taken ih =>
    obtain ⟨u, before, rfl⟩ := ih
    obtain ⟨k, v, calls, moved, shown⟩ := step_cadence timely taken
    exact ⟨v, before.next calls moved, shown⟩

end Consumer

/-- Every session of a fixed-rate handle is a cadence. -/
theorem Session.reach_cadence [Zero β] {s : Session β}
    (run : Steps.Reach Session.step IntTimeouts
      (fun s => Fresh s ∧ s.capture.config.fixedRate = true) s) :
    ∃ u, Steps.Reach Cadence.step Cadence.IntTimeout Cadence.Fresh u ∧ u.consumer = s.consumer :=
  Consumer.reach_cadence (reach_timely (fun _ h => ⟨start_consumer h.1, h.2⟩) run)

/-- The frame of a session is never due more than a period away. -/
theorem Session.deadline_near [Zero β] {s : Session β}
    (run : Steps.Reach Session.step IntTimeouts
      (fun s => Fresh s ∧ s.capture.config.fixedRate = true) s)
    (valid : s.capture.deadlineValid = true) :
    s.capture.nextDeadline ≤ s.clock + s.capture.config.period := by
  obtain ⟨u, reached, shown⟩ := reach_cadence run
  have reachable : Cadence.Reachable u :=
    reached.simulate id (fun _ fresh => fresh) fun _ l _ _ taken => .inr ⟨l, taken⟩
  have near := Cadence.Reachable.near reachable
  obtain ⟨capture, _, clock⟩ := Consumer.mk.inj shown
  rw [← capture] at valid ⊢
  rw [← clock]
  exact near valid

end WebAudioCapture
