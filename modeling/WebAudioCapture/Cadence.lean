import WebAudioCapture.Lib.Pacer
import WebAudioCapture.ReadFrame

/-!
# The cadence of fixed-rate output

A reader on a handle whose other fields anyone may change at any time, under a
clock that never goes back. What it hands out is paced by a `Pacer`.
-/

namespace WebAudioCapture

variable {β : Type}

/-- A reader with the clock it reads, what it has delivered and the reading
its pacing began at. -/
structure Cadence (β : Type) where
  capture : Capture β
  reader : Reader β := {}
  clock : Int
  first : Option Int := none
  deliveries : List Handout := []

inductive CadenceLabel (β : Type) where
  | tick (elapsed : Nat)
  | call (args : ReadArgs β)
  | read
  | others (c : Capture β)

/-- Nobody but the reader changes these; the configuration does not change. -/
def Capture.SamePacing (c c' : Capture β) : Prop :=
  c'.config = c.config ∧ c'.nextDeadline = c.nextDeadline ∧ c'.deadlineValid = c.deadlineValid

instance (c c' : Capture β) : Decidable (c.SamePacing c') := inferInstanceAs (Decidable (_ ∧ _))

theorem Capture.startPacing_valid (c : Capture β) (now : Int) :
    (c.startPacing now).deadlineValid = true := by
  unfold startPacing
  split
  · assumption
  · rfl

theorem Config.period_nonneg (config : Config) : 0 ≤ config.period :=
  Int.mul_nonneg (Int.natCast_nonneg _) (by decide)

namespace Cadence

/-- The record after a step of the reader. -/
def note (s : Cadence β) (capture : Capture β) (reader : Reader β) : Cadence β :=
  { s with
    capture, reader
    first := if !s.capture.deadlineValid && capture.deadlineValid then some s.clock else s.first
    deliveries :=
      if reader.pc = .returned 1 then
        s.deliveries ++ [⟨s.reader.now, s.clock, capture.nextDeadline⟩]
      else s.deliveries }

def step [Zero β] (s : Cadence β) : CadenceLabel β → Option (Cadence β)
  | .tick elapsed => some { s with clock := s.clock + elapsed }
  | .call args => (s.reader.call args).map fun reader => { s with reader }
  | .read => (s.reader.step s.capture s.clock).map fun (capture, reader) => s.note capture reader
  | .others c => if s.capture.SamePacing c then some { s with capture := c } else none

/-- A fixed-rate handle none of whose frames was ever due. -/
def Fresh (s : Cadence β) : Prop :=
  s.capture.config.fixedRate = true ∧ s.capture.deadlineValid = false ∧
  s = { capture := s.capture, clock := s.clock }

abbrev Reachable [Zero β] (s : Cadence β) : Prop := Steps.Reach step Steps.Any Fresh s

/-- Where the reader stands on a frame that is due. -/
def onDueFrame : ReadPc → Bool
  | .due | .draining _ | .closing _ => true
  | _ => false

/-- Where a fixed-rate reader never stands. -/
def passThrough : ReadPc → Bool
  | .popping _ | .emptyHanded | .stamping | .reporting _ => true
  | _ => false

/-- The reading that found a frame due is past the deadline. -/
structure OnTime (s : Cadence β) : Prop where
  fixed : s.capture.config.fixedRate = true
  paced : passThrough s.reader.pc = false
  due : onDueFrame s.reader.pc = true → s.capture.deadlineValid = true ∧
    s.capture.nextDeadline ≤ s.reader.now ∧ s.reader.now ≤ s.clock

/-- The pacer the reader is. -/
def pacer (s : Cadence β) : Pacer :=
  { period := s.capture.config.period
    deadline := if s.capture.deadlineValid then some s.capture.nextDeadline else none
    first := s.first
    log := s.deliveries }

/-- What a step of the reader does to the pacing: nothing, or it finds its
frame due or not yet due, or it delivers it. -/
inductive Pace (s : Cadence β) (c : Capture β) (r : Reader β) : Prop
  | same (pacing : s.capture.SamePacing c) (pending : r.pc ≠ .returned 1)
      (due : onDueFrame r.pc = true → onDueFrame s.reader.pc = true ∧ r.now = s.reader.now)
  | looked (shape : c = s.capture.startPacing s.clock) (pending : r.pc ≠ .returned 1)
      (due : onDueFrame r.pc = true → c.nextDeadline ≤ r.now ∧ r.now = s.clock)
  | delivered (shape : c = s.capture.advance s.clock) (done : r.pc = .returned 1)
      (due : onDueFrame s.reader.pc = true)

theorem read_pace [Zero β] {s : Cadence β} {c : Capture β} {r : Reader β} (h : OnTime s)
    (moved : s.reader.Moves s.capture s.clock c r) : passThrough r.pc = false ∧ Pace s c r := by
  have fixed := h.fixed
  have paced := h.paced
  have refl : s.capture.SamePacing s.capture := ⟨rfl, rfl, rfl⟩
  cases moved with
  | refuse status at_ refused =>
    refine ⟨rfl, .same refl ?_ (by rintro ⟨⟩)⟩
    intro done
    have one : status.code = 1 := ReadPc.returned.inj done
    omega
  | accept timeoutMs at_ running given enough => exact ⟨rfl, .same refl (by rintro ⟨⟩) (by rintro ⟨⟩)⟩
  | begin at_ => exact ⟨rfl, .same refl (by rintro ⟨⟩) (by rintro ⟨⟩)⟩
  | wait at_ pass => rw [fixed] at pass; cases pass
  | early next at_ fixed soon leads =>
    obtain rfl | ⟨wait, _, rfl⟩ := leads
    · exact ⟨rfl, .looked rfl (by rintro ⟨⟩) (by rintro ⟨⟩)⟩
    · exact ⟨rfl, .looked rfl (by rintro ⟨⟩) (by rintro ⟨⟩)⟩
  | reach at_ fixed passed => exact ⟨rfl, .looked rfl (by rintro ⟨⟩) fun _ => ⟨passed, rfl⟩⟩
  | again at_ => exact ⟨rfl, .same refl (by rintro ⟨⟩) (by rintro ⟨⟩)⟩
  | expire at_ late => rw [at_] at paced; cases paced
  | shut d p at_ popped closed =>
    obtain ⟨_, _, _, _, rfl⟩ := Reader.pop_queue popped
    exact ⟨rfl, .same ⟨rfl, rfl, rfl⟩ (by rintro ⟨⟩) (by rintro ⟨⟩)⟩
  | popWaiting d p wait at_ popped open_ => rw [at_] at paced; cases paced
  | popDue d p at_ popped open_ =>
    obtain ⟨_, _, _, _, rfl⟩ := Reader.pop_queue popped
    exact ⟨rfl, .same ⟨rfl, rfl, rfl⟩ (by rintro ⟨⟩) fun _ => ⟨by rw [at_]; rfl, rfl⟩⟩
  | drain result dst at_ filled =>
    exact ⟨rfl, .same ⟨rfl, rfl, rfl⟩ (by rintro ⟨⟩) fun _ => ⟨by rw [at_]; rfl, rfl⟩⟩
  | close flags at_ => exact ⟨rfl, .delivered rfl rfl (by rw [at_]; rfl)⟩
  | stamp at_ => rw [at_] at paced; cases paced
  | tell ns at_ => rw [at_] at paced; cases paced

theorem step_onTime [Zero β] {s t : Cadence β} {l : CadenceLabel β} (h : OnTime s)
    (taken : s.step l = some t) : OnTime t := by
  obtain ⟨fixed, paced, due⟩ := h
  cases l with
  | tick elapsed =>
    cases taken
    refine ⟨fixed, paced, fun at_ => ?_⟩
    obtain ⟨valid, passed, read⟩ := due at_
    exact ⟨valid, passed, by dsimp only; omega⟩
  | call args =>
    simp only [step, Reader.call, Option.map_eq_some_iff] at taken
    obtain ⟨reader, called, rfl⟩ := taken
    split at called
    · cases called
      exact ⟨fixed, rfl, (by rintro ⟨⟩)⟩
    · cases called
  | others c =>
    simp only [step] at taken
    split at taken
    · rename_i same
      cases taken
      obtain ⟨config, deadline, valid⟩ := same
      refine ⟨by rw [config]; exact fixed, paced, fun at_ => ?_⟩
      rw [deadline, valid]
      exact due at_
    · cases taken
  | read =>
    simp only [step, Option.map_eq_some_iff] at taken
    obtain ⟨⟨c, r⟩, moved, rfl⟩ := taken
    obtain ⟨paced', pace⟩ := read_pace ⟨fixed, paced, due⟩ (Reader.step_moves moved)
    cases pace with
    | same pacing pending later =>
      obtain ⟨config, deadline, valid⟩ := pacing
      refine ⟨by rw [note, config]; exact fixed, paced', fun at_ => ?_⟩
      obtain ⟨before, now⟩ := later at_
      simp only [note, deadline, valid, now]
      exact due before
    | looked shape pending later =>
      refine ⟨?_, paced', fun at_ => ?_⟩
      · simp only [note, shape, Capture.startPacing_config]
        exact fixed
      · obtain ⟨passed, now⟩ := later at_
        refine ⟨?_, passed, Int.le_of_eq now⟩
        simp only [note, shape, Capture.startPacing_valid]
    | delivered shape done before =>
      refine ⟨?_, paced', fun at_ => ?_⟩
      · simp only [note, shape]
        exact fixed
      · simp only [note, done] at at_
        cases at_

theorem Reachable.onTime [Zero β] {s : Cadence β} (h : Reachable s) : OnTime s := by
  apply Steps.Reach.invariant OnTime ?_ ?_ h
  · rintro s ⟨fixed, _, shape⟩
    refine ⟨fixed, ?_, fun at_ => ?_⟩
    · rw [shape]; rfl
    · rw [shape] at at_; cases at_
  · intro s l t _ onTime _ taken
    exact step_onTime onTime taken

/-- Every step of the reader is a move of its pacer or none. -/
theorem read_follows [Zero β] {s : Cadence β} {c : Capture β} {r : Reader β} (h : OnTime s)
    (moved : s.reader.Moves s.capture s.clock c r) :
    (s.note c r).pacer = s.pacer ∨ ∃ move, s.pacer.step move = some (s.note c r).pacer := by
  obtain ⟨_, pace⟩ := read_pace h moved
  cases pace with
  | same pacing pending _ =>
    obtain ⟨config, deadline, valid⟩ := pacing
    left
    simp only [pacer, note, config, deadline, valid, if_neg pending, Bool.not_and_self,
      Bool.false_eq_true, if_false]
  | looked shape pending _ =>
    cases valid : s.capture.deadlineValid with
    | true =>
      left
      simp only [pacer, note, shape, Capture.startPacing, valid, if_true, if_neg pending,
        Bool.not_true, Bool.false_and, Bool.false_eq_true, if_false]
    | false =>
      right
      refine ⟨.begin s.clock, ?_⟩
      simp only [Pacer.step, pacer, note, shape, Capture.startPacing, valid, if_neg pending,
        Bool.not_false, Bool.and_self, Bool.false_eq_true, if_false, if_true]
  | delivered shape done before =>
    obtain ⟨valid, passed, read⟩ := h.due before
    right
    refine ⟨.hand s.reader.now s.clock, ?_⟩
    simp only [Pacer.step, pacer, note, shape, done, Capture.advance, valid, if_true,
      Bool.not_true, Bool.false_and, Bool.false_eq_true, if_false, passed, read, and_self,
      Pacer.next]

theorem step_follows [Zero β] {s t : Cadence β} {l : CadenceLabel β} (h : OnTime s)
    (taken : s.step l = some t) :
    t.pacer = s.pacer ∨ ∃ move, s.pacer.step move = some t.pacer := by
  cases l with
  | tick elapsed => cases taken; exact .inl rfl
  | call args =>
    simp only [step, Option.map_eq_some_iff] at taken
    obtain ⟨reader, _, rfl⟩ := taken
    exact .inl rfl
  | others c =>
    simp only [step] at taken
    split at taken
    · rename_i same
      cases taken
      obtain ⟨config, deadline, valid⟩ := same
      simp only [pacer, config, deadline, valid, true_or]
    · cases taken
  | read =>
    simp only [step, Option.map_eq_some_iff] at taken
    obtain ⟨⟨c, r⟩, moved, rfl⟩ := taken
    exact read_follows h (Reader.step_moves moved)

theorem Reachable.paced [Zero β] {s : Cadence β} (h : Reachable s) : s.pacer.Reachable := by
  apply Steps.Reach.simulate pacer ?_ ?_ h
  · rintro s ⟨_, notValid, shape⟩
    refine ⟨s.capture.config.period, Config.period_nonneg _, ?_⟩
    rw [shape]
    simp only [pacer, notValid, Bool.false_eq_true, if_false]
  · intro s l t reached taken
    exact step_follows (Reachable.onTime reached) taken

/-- Fixed-rate output never runs above real time. Every delivery leaves the
deadline between its closing reading and one period later; the `k + 1`-th
delivery after one that ended at reading `a` is due no earlier than `a` plus
`k` periods, and delivery `n` no earlier than `n + 1` periods after the first
pacing iteration. -/
theorem never_above_real_time [Zero β] (s : Cadence β) (run : Reachable s) :
    (∀ d ∈ s.deliveries, d.after ≤ d.deadline ∧ d.deadline ≤ d.after + s.capture.config.period) ∧
    (∀ (i k : Nat) d e, s.deliveries[i]? = some d → s.deliveries[i + k + 1]? = some e →
      d.after + k * s.capture.config.period ≤ e.due) ∧
    ∀ t, s.first = some t → ∀ (n : Nat) e, s.deliveries[n]? = some e →
      t + (n + 1) * s.capture.config.period ≤ e.due :=
  have spaced := run.paced.spaced
  ⟨spaced.bounded, spaced.spaced, spaced.counted⟩

/-- One frame of silence, asked for at reading 0 and delivered one period
later. -/
theorem first_frame_after_a_period : ∃ s : Cadence UInt8, Reachable s ∧ s.first = some 0 ∧
    s.capture.config.period = 20000 ∧ s.deliveries = [⟨20000, 20000, 40000⟩] ∧
    0 + 1 * 20000 ≤ (20000 : Int) := by
  have ran : Steps.exec step
      { capture := { config := { channels := 1, frameSamples := 1, format := .s16le }
                     running := true, queue := { slotBytes := 2, capacity := 1 } }
        clock := 0 }
      [.call ⟨some [7, 7], 1, none, 1000⟩, .read, .read, .read, .tick 20000, .read, .read, .read,
        .read, .read] = some
      ({ capture := { config := { channels := 1, frameSamples := 1, format := .s16le }
                      running := true, queue := { slotBytes := 2, capacity := 1 }
                      nextDeadline := 40000, deadlineValid := true }
         reader := { pc := .returned 1, dst := some [0, 0], capacityFrames := 1, timeoutMs := 1000
                     callDeadline := 1000000000, now := 20000 }
         clock := 20000, first := some 0, deliveries := [⟨20000, 20000, 40000⟩] } :
        Cadence UInt8) := by rfl
  have run : Reachable _ := Steps.Reach.exec (.start ⟨rfl, rfl, rfl⟩) (Steps.meets_any _ _ _) ran
  have spaced := (never_above_real_time _ run).2.2 0 rfl 0 ⟨20000, 20000, 40000⟩ rfl
  exact ⟨_, run, rfl, rfl, rfl, spaced⟩

end Cadence
end WebAudioCapture
