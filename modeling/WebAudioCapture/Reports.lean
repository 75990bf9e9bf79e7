import WebAudioCapture.Consumer
import WebAudioCapture.Patience

/-!
# What a read reports

The infos a reader is given over the life of a handle, and the time its calls
take: the words their flags can be, their timestamps against each other, and
how long a call has waited that comes back with nothing.
-/

namespace WebAudioCapture

variable {β : Type}

/-- The flags of a captured frame. -/
def plainMarks : List FrameFlags := [0, frameDiscontinuity, reopenFlags]

/-- The flags of synthesized silence. -/
def silentMarks : List FrameFlags := plainMarks.map (· ||| (frameSilence ||| frameUnderrun))

/-- What a handle can report. -/
def Config.marks (config : Config) : List FrameFlags :=
  if config.fixedRate then plainMarks ++ silentMarks else plainMarks

theorem Config.plain_marks {config : Config} {flags : FrameFlags} (h : flags ∈ plainMarks) :
    flags ∈ config.marks := by
  unfold marks
  split
  · exact List.mem_append_left _ h
  · exact h

/-- Where a call stands only with fixed-rate output. -/
def ReadPc.isPaced : ReadPc → Bool
  | .sleeping _ | .due | .draining _ | .closing _ => true
  | _ => false

/-- Where a call waits for a frame. -/
def ReadPc.isWaiting : ReadPc → Bool
  | .looping | .popping _ | .emptyHanded | .sleeping _ => true
  | _ => false

theorem timestamp_toNat {ns : Int} (nonneg : 0 ≤ ns) (small : ns < 2 ^ 64) :
    ((timestamp ns).toNat : Int) = ns := by
  rw [timestamp, UInt64.toNat_ofNat', Int.emod_eq_of_lt nonneg small]
  omega

namespace Reader

variable {c : Capture β} {r : Reader β} {now : Int}

/-- The flags a call puts together. -/
theorem flagsFor_words (flags : c.pendingFlags = 0 ∨ c.pendingFlags = reopenFlags) (result : Int) :
    (result = 0 → r.flagsFor c result ∈ silentMarks) ∧
      (result ≠ 0 → r.flagsFor c result ∈ plainMarks) := by
  unfold flagsFor dropFlag silenceFlags
  constructor
  · intro nothing
    rw [if_pos nothing]
    obtain flags | flags := flags
    · rw [flags]; split <;> decide
    · rw [flags]; split <;> decide
  · intro something
    rw [if_neg something]
    obtain flags | flags := flags
    · rw [flags]; split <;> decide
    · rw [flags]; split <;> decide

/-- A call that gives up before its frame is due has come to its deadline, to
within the microsecond durations are cut to. -/
theorem look_expired (expired : (r.look c now).2.pc = .returned 0) :
    r.callDeadline < now + microsecond := by
  unfold look at expired
  dsimp only at expired
  split at expired
  · cases expired
  · split at expired
    · rename_i soon
      split at expired
      · rename_i spent
        apply Int.lt_of_not_ge
        intro later
        have whole : toMicroseconds microsecond ≤ toMicroseconds (r.callDeadline - now) :=
          toMicroseconds_mono (by omega)
        have one : toMicroseconds microsecond = 1 := rfl
        have early : 0 ≤ toMicroseconds ((c.startPacing now).nextDeadline - now) :=
          toMicroseconds_nonneg (by omega)
        unfold sleepFor at spent
        dsimp only at spent
        split at spent
        · omega
        · omega
      · cases expired
    · cases expired

/-- A call is admitted with its timeout, or none if that is negative. -/
theorem enter_patience (admitted : (r.enter c).pc = .admitted) :
    (r.enter c).timeoutMs = max r.timeoutMs 0 := by
  by_cases none : r.dst.isNone = true
  · rw [enter, if_pos none] at admitted
    cases admitted
  by_cases down : (!c.running) = true
  · rw [enter, if_neg none, if_pos down] at admitted
    cases admitted
  by_cases short : r.capacityFrames < c.config.frameSamples
  · rw [enter, if_neg none, if_neg down, if_pos short] at admitted
    cases admitted
  rw [enter, if_neg none, if_neg down, if_neg short]
  dsimp only
  split
  · omega
  · omega

section
variable [Zero β] {c' : Capture β} {r' : Reader β}

theorem step_entered (taken : r.step c now = some (c', r')) (at_ : r.pc = .entered) :
    r' = r.enter c := by
  simp only [step, at_, Option.some.injEq, Prod.mk.injEq] at taken
  exact taken.2.symm

theorem step_looping (taken : r.step c now = some (c', r')) (at_ : r.pc = .looping) :
    r' = (r.look c now).2 := by
  simp only [step, at_, Option.some.injEq] at taken
  rw [taken]

end
end Reader

namespace Consumer

/-- The infos filled in so far, newest first; the reading the last call began
at and the timeout it was given. -/
structure Receipts where
  infos : List FrameInfo := []
  begun : Int := 0
  timeoutMs : Int := 0
  deriving DecidableEq, Repr

def noteReceipt (s : Consumer β) (l : ConsumerLabel β) (t : Consumer β) (g : Receipts) :
    Receipts :=
  match l with
  | .call args => { g with begun := s.clock, timeoutMs := args.timeoutMs }
  | .read =>
    if t.reader.pc = .returned 1 then { g with infos := t.reader.info.toList ++ g.infos } else g
  | _ => g

/-- The clock does not go back. -/
def Forward (s : Consumer β) : ConsumerLabel β → Prop
  | .clock now => s.clock ≤ now
  | _ => True

instance (s : Consumer β) (l : ConsumerLabel β) : Decidable (Forward s l) :=
  match l with
  | .clock _ => inferInstanceAs (Decidable (_ ≤ _))
  | .call _ | .read | .push _ | .close | .raise | .aside _ => .isTrue trivial

/-- The infos after a step of the reader that filled one in or not. -/
theorem noteReceipt_read {s t : Consumer β} {g : Receipts} (later : t.reader.pc ≠ .returned 1) :
    noteReceipt s .read t g = g := if_neg later

theorem noteReceipt_delivered {s t : Consumer β} {g : Receipts} (now : t.reader.pc = .returned 1) :
    noteReceipt s .read t g = { g with infos := t.reader.info.toList ++ g.infos } := if_pos now

/-! ## The flags -/

/-- The flags pending, drained and reported. -/
structure Marked (s : Consumer β) (g : Receipts) : Prop where
  pending : s.capture.pendingFlags = 0 ∨ s.capture.pendingFlags = reopenFlags
  paced : s.reader.pc.isPaced = true → s.capture.config.fixedRate = true
  closing : ∀ flags, s.reader.pc = .closing flags → flags ∈ s.capture.config.marks
  reported : ∀ i ∈ g.infos, i.flags ∈ s.capture.config.marks

section
variable [Zero β] {s t : Consumer β} {g : Receipts} {l : ConsumerLabel β}

omit [Zero β] in
/-- A step of the reader that drains and reports nothing. -/
theorem Marked.keep {c : Capture β} {r : Reader β} (h : Marked s g)
    (pending : c.pendingFlags = s.capture.pendingFlags) (config : c.config = s.capture.config)
    (paced : r.pc.isPaced = true → s.capture.config.fixedRate = true)
    (open_ : ∀ flags, r.pc ≠ .closing flags) (silent : r.pc = .returned 1 → r.info = none) :
    Marked { s with capture := c, reader := r }
      (noteReceipt s .read { s with capture := c, reader := r } g) := by
  have same : (noteReceipt s .read { s with capture := c, reader := r } g).infos = g.infos := by
    by_cases returned : r.pc = .returned 1
    · rw [noteReceipt_delivered returned]
      exact congrArg (·.toList ++ g.infos) (silent returned)
    · rw [noteReceipt_read returned]
  refine ⟨pending ▸ h.pending, config ▸ paced, fun flags at_ => absurd at_ (open_ flags), ?_⟩
  rw [same]
  exact config ▸ h.reported

omit [Zero β] in
/-- A step that fills in the caller's info. -/
theorem Marked.report {c : Capture β} {ns : Int} {flags : FrameFlags} (h : Marked s g)
    (pending : c.pendingFlags = 0 ∨ c.pendingFlags = reopenFlags)
    (config : c.config = s.capture.config) (marks : flags ∈ s.capture.config.marks) :
    let t := { s with capture := c, reader := (s.reader.report ns flags).finish 1 }
    Marked t (noteReceipt s .read t g) := by
  refine ⟨pending, by rintro ⟨⟩, by rintro _ ⟨⟩, ?_⟩
  rw [noteReceipt_delivered rfl]
  intro i at_
  dsimp only at at_ ⊢
  rw [config]
  obtain new | old := List.mem_append.mp at_
  · rw [Option.mem_toList] at new
    obtain ⟨_, _, rfl⟩ := Option.map_eq_some_iff.mp new
    exact marks
  · exact h.reported i old

theorem read_marked {c : Capture β} {r : Reader β} (h : Marked s g)
    (moved : s.reader.Moves s.capture s.clock c r) :
    Marked { s with capture := c, reader := r }
      (noteReceipt s .read { s with capture := c, reader := r } g) := by
  have began := Session.startPacing_shared s.capture s.clock
  have config := Reader.moves_config moved
  cases moved with
  | refuse status at_ refused =>
    refine h.keep rfl rfl (by rintro ⟨⟩) (by rintro _ ⟨⟩) fun returned => ?_
    have one := ReadPc.returned.inj returned
    omega
  | accept timeoutMs at_ | begin at_ | wait at_ pass | again at_ =>
    exact h.keep rfl rfl (by rintro ⟨⟩) (by rintro _ ⟨⟩) (by rintro ⟨⟩)
  | early next at_ fixed soon leads =>
    refine h.keep began.2 config (fun _ => fixed) ?_ ?_
    · rintro _ rfl
      obtain ⟨⟨⟩⟩ | ⟨_, _, ⟨⟩⟩ := leads
    · rintro rfl
      obtain ⟨⟨⟩⟩ | ⟨_, _, ⟨⟩⟩ := leads
  | reach at_ fixed passed =>
    exact h.keep began.2 config (fun _ => fixed) (by rintro _ ⟨⟩) (by rintro ⟨⟩)
  | expire at_ late => exact h.keep rfl rfl (by rintro ⟨⟩) (by rintro _ ⟨⟩) (by rintro ⟨⟩)
  | shut d p at_ popped closed =>
    obtain ⟨_, queue, _, _, rfl⟩ := Reader.pop_queue popped
    exact h.keep rfl rfl (by rintro ⟨⟩) (by rintro _ ⟨⟩) (by rintro ⟨⟩)
  | popWaiting d p wait at_ popped open_ =>
    obtain ⟨_, queue, _, _, rfl⟩ := Reader.pop_queue popped
    refine h.keep rfl rfl ?_ ?_ ?_
    · intro paced
      dsimp only [Reader.keep, Reader.afterPop] at paced
      repeat' split at paced
      all_goals cases paced
    · intro flags at_
      dsimp only [Reader.keep, Reader.afterPop] at at_
      repeat' split at at_
      all_goals cases at_
    · intro returned
      dsimp only [Reader.keep, Reader.afterPop] at returned ⊢
      repeat' split at returned
      · cases returned
      · cases returned
      · exact Option.not_isSome_iff_eq_none.mp ‹_›
  | popDue d p at_ popped open_ =>
    obtain ⟨_, queue, _, _, rfl⟩ := Reader.pop_queue popped
    exact h.keep rfl rfl (fun _ => h.paced (at_ ▸ rfl)) (by rintro _ ⟨⟩) (by rintro ⟨⟩)
  | drain result dst at_ filled =>
    have fixed := h.paced (at_ ▸ rfl)
    refine ⟨.inl rfl, fun _ => fixed, ?_, ?_⟩
    · intro flags at_
      cases ReadPc.closing.inj at_
      obtain ⟨silent, plain⟩ := Reader.flagsFor_words (r := s.reader) h.pending result
      by_cases nothing : result = 0
      · have words : s.capture.config.marks = plainMarks ++ silentMarks := if_pos fixed
        change _ ∈ s.capture.config.marks
        rw [words]
        exact List.mem_append_right _ (silent nothing)
      · exact Config.plain_marks (plain nothing)
    · rw [noteReceipt_read (by rintro ⟨⟩)]
      exact h.reported
  | close flags at_ => exact h.report h.pending rfl (h.closing flags at_)
  | stamp at_ => exact h.keep rfl rfl (by rintro ⟨⟩) (by rintro _ ⟨⟩) (by rintro ⟨⟩)
  | tell ns at_ =>
    have plain := (Reader.flagsFor_words (r := s.reader) h.pending 1).2 (by decide)
    exact h.report (.inl rfl) rfl (Config.plain_marks plain)

theorem step_marked (h : Marked s g) (moved : Moves s l t) : Marked t (noteReceipt s l t g) := by
  cases moved with
  | read c r moved => exact read_marked h moved
  | raise =>
    refine ⟨.inr ?_, h.paced, h.closing, h.reported⟩
    have pending := h.pending
    dsimp only [Capture.raiseReopen]
    obtain none | raised := pending
    · rw [none]; rfl
    · rw [raised]; rfl
  | call args idle => exact ⟨h.pending, by rintro ⟨⟩, by rintro _ ⟨⟩, h.reported⟩
  | clock now | push frame queue discarded pushed | close | aside c =>
    exact ⟨h.pending, h.paced, h.closing, h.reported⟩

theorem fresh_marked (h : Fresh s) : Marked s {} := by
  obtain ⟨c, other, clock, created, rfl⟩ := h
  obtain ⟨_, shape, _⟩ := created.shape
  refine ⟨.inl ?_, by rintro ⟨⟩, by rintro _ ⟨⟩, by rintro _ ⟨⟩⟩
  exact congrArg Capture.pendingFlags shape

end

/-! ## The timestamps -/

/-- The infos are in order, and so is one being filled in. -/
structure Ordered (s : Consumer β) (g : Receipts) : Prop where
  now : 0 ≤ s.clock
  sorted : s.clock < 2 ^ 64 →
    g.infos.Pairwise fun later earlier => earlier.timestampNs ≤ later.timestampNs
  past : s.clock < 2 ^ 64 → ∀ i ∈ g.infos, (i.timestampNs.toNat : Int) ≤ s.clock
  stamped : ∀ ns, s.reader.pc = .reporting ns → 0 ≤ ns ∧ ns ≤ s.clock ∧
    (s.clock < 2 ^ 64 → ∀ i ∈ g.infos, (i.timestampNs.toNat : Int) ≤ ns)

section
variable [Zero β] {s t : Consumer β} {g : Receipts} {l : ConsumerLabel β}

omit [Zero β] in
/-- A step that reports nothing. -/
theorem Ordered.keep {c : Capture β} {r : Reader β} (h : Ordered s g)
    (silent : r.pc = .returned 1 → r.info = none)
    (stamped : ∀ ns, r.pc = .reporting ns → ns = s.clock) :
    Ordered { s with capture := c, reader := r }
      (noteReceipt s .read { s with capture := c, reader := r } g) := by
  have same : (noteReceipt s .read { s with capture := c, reader := r } g).infos = g.infos := by
    by_cases returned : r.pc = .returned 1
    · rw [noteReceipt_delivered returned]
      exact congrArg (·.toList ++ g.infos) (silent returned)
    · rw [noteReceipt_read returned]
  refine ⟨h.now, ?_, ?_, ?_⟩
  · rw [same]
    exact h.sorted
  · rw [same]
    exact h.past
  · rw [same]
    intro ns at_
    cases stamped ns at_
    exact ⟨h.now, Int.le_refl _, h.past⟩

omit [Zero β] in
/-- A step that reports at `ns`. -/
theorem Ordered.report {c : Capture β} {ns : Int} {flags : FrameFlags} (h : Ordered s g)
    (nonneg : 0 ≤ ns) (begun : ns ≤ s.clock)
    (before : s.clock < 2 ^ 64 → ∀ i ∈ g.infos, (i.timestampNs.toNat : Int) ≤ ns) :
    let t := { s with capture := c, reader := (s.reader.report ns flags).finish 1 }
    Ordered t (noteReceipt s .read t g) := by
  refine ⟨h.now, ?_, ?_, by rintro _ ⟨⟩⟩
  · intro small
    rw [noteReceipt_delivered rfl]
    refine List.pairwise_append.mpr ⟨Option.pairwise_toList, h.sorted small, ?_⟩
    intro new at_new old at_old
    obtain ⟨_, _, rfl⟩ := Option.map_eq_some_iff.mp (Option.mem_toList.mp at_new)
    have stamp := timestamp_toNat nonneg (Int.lt_of_le_of_lt begun small)
    have earlier := before small old at_old
    rw [UInt64.le_iff_toNat_le]
    dsimp only
    omega
  · intro small
    rw [noteReceipt_delivered rfl]
    intro i at_
    obtain new | old := List.mem_append.mp at_
    · obtain ⟨_, _, rfl⟩ := Option.map_eq_some_iff.mp (Option.mem_toList.mp new)
      dsimp only
      rw [timestamp_toNat nonneg (Int.lt_of_le_of_lt begun small)]
      exact begun
    · exact h.past small i old

theorem read_ordered {c : Capture β} {r : Reader β} (h : Ordered s g)
    (moved : s.reader.Moves s.capture s.clock c r) :
    Ordered { s with capture := c, reader := r }
      (noteReceipt s .read { s with capture := c, reader := r } g) := by
  cases moved with
  | refuse status at_ refused =>
    refine h.keep (fun returned => ?_) (by rintro _ ⟨⟩)
    have one := ReadPc.returned.inj returned
    omega
  | accept timeoutMs at_ | begin at_ | wait at_ pass | again at_ | reach at_ fixed passed
  | expire at_ late | shut d p at_ popped closed | popDue d p at_ popped open_
  | drain result dst at_ filled => exact h.keep (by rintro ⟨⟩) (by rintro _ ⟨⟩)
  | early next at_ fixed soon leads =>
    refine h.keep ?_ ?_
    · rintro rfl
      obtain ⟨⟨⟩⟩ | ⟨_, _, ⟨⟩⟩ := leads
    · rintro _ rfl
      obtain ⟨⟨⟩⟩ | ⟨_, _, ⟨⟩⟩ := leads
  | popWaiting d p wait at_ popped open_ =>
    refine h.keep ?_ ?_
    · intro returned
      dsimp only [Reader.keep, Reader.afterPop] at returned ⊢
      repeat' split at returned
      · cases returned
      · cases returned
      · exact Option.not_isSome_iff_eq_none.mp ‹_›
    · intro ns at_
      dsimp only [Reader.keep, Reader.afterPop] at at_
      repeat' split at at_
      all_goals cases at_
  | stamp at_ => exact h.keep (by rintro ⟨⟩) fun ns at_ => (ReadPc.reporting.inj at_).symm
  | close flags at_ => exact h.report h.now (Int.le_refl _) h.past
  | tell ns at_ =>
    obtain ⟨nonneg, begun, before⟩ := h.stamped ns at_
    exact h.report nonneg begun before

theorem step_ordered (h : Ordered s g) (forward : Forward s l) (moved : Moves s l t) :
    Ordered t (noteReceipt s l t g) := by
  cases moved with
  | read c r moved => exact read_ordered h moved
  | clock now =>
    have later : s.clock ≤ now := forward
    refine ⟨Int.le_trans h.now later, fun small => h.sorted (Int.lt_of_le_of_lt later small), ?_, ?_⟩
    · intro small i at_
      exact Int.le_trans (h.past (Int.lt_of_le_of_lt later small) i at_) later
    · intro ns at_
      obtain ⟨nonneg, begun, before⟩ := h.stamped ns at_
      exact ⟨nonneg, Int.le_trans begun later, fun small => before (Int.lt_of_le_of_lt later small)⟩
  | call args idle => exact ⟨h.now, h.sorted, h.past, by rintro _ ⟨⟩⟩
  | push frame queue discarded pushed | close | raise | aside c =>
    exact ⟨h.now, h.sorted, h.past, h.stamped⟩

end

/-- Whatever the other threads do, and however often the handle is started and
stopped, the flags reported are one of six words, three of them with silence and
only with fixed-rate output; and the timestamps never go back, nor past the clock. -/
theorem reports_sound [Zero β] {p : Consumer β × Receipts}
    (run : Steps.Watched step noteReceipt Forward (fun s => Fresh s ∧ 0 ≤ s.clock) {} p)
    (small : p.1.clock < 2 ^ 64) :
    (∀ i ∈ p.2.infos, i.flags ∈ p.1.capture.config.marks ∧
      (i.timestampNs.toNat : Int) ≤ p.1.clock) ∧
    p.2.infos.Pairwise fun later earlier => earlier.timestampNs ≤ later.timestampNs := by
  have both : Marked p.1 p.2 ∧ Ordered p.1 p.2 := by
    apply Steps.Watched.invariant (fun s g => Marked s g ∧ Ordered s g) ?_ ?_ run
    · rintro s ⟨fresh, nonneg⟩
      refine ⟨fresh_marked fresh, nonneg, fun _ => .nil, (by rintro _ _ ⟨⟩), ?_⟩
      obtain ⟨c, other, clock, _, rfl⟩ := fresh
      rintro _ ⟨⟩
    · rintro s l t g _ ⟨marked, ordered⟩ forward taken
      have moved := step_moves taken
      exact ⟨step_marked marked moved, step_ordered ordered forward moved⟩
  obtain ⟨marked, ordered⟩ := both
  exact ⟨fun i at_ => ⟨marked.reported i at_, ordered.past small i at_⟩, ordered.sorted small⟩

/-- A reopen reported with a frame, and silence a period later. -/
def twoReports : List (ConsumerLabel UInt8) :=
  [.call ⟨some [7, 7], 1, some ⟨0, 0, 0⟩, 1000⟩, .read, .read, .read, .push [5, 5], .raise,
    .clock 20000, .read, .read, .read, .read, .read,
    .call ⟨some [7, 7], 1, some ⟨0, 0, 0⟩, 1000⟩, .read, .read, .read,
    .clock 40000, .read, .read, .read, .read, .read]

theorem reports_sound_once : ∃ p : Consumer UInt8 × Receipts,
    Steps.Watched step noteReceipt Forward (fun s => Fresh s ∧ 0 ≤ s.clock) {} p ∧
    p.2.infos = [⟨40000, frameSilence ||| frameUnderrun, 0⟩, ⟨20000, reopenFlags, 0⟩] ∧
    p.2.infos.Pairwise fun later earlier => earlier.timestampNs ≤ later.timestampNs := by
  have ran : (Steps.exec (Steps.watch step noteReceipt) (small, {}) twoReports).map
      (fun p => (p.2.infos, p.1.clock)) =
        some ([⟨40000, frameSilence ||| frameUnderrun, 0⟩, ⟨20000, reopenFlags, 0⟩], 40000) := by
    decide +kernel
  obtain ⟨p, ran, seen⟩ := Option.map_eq_some_iff.mp ran
  obtain ⟨infos, clock⟩ := Prod.mk.inj seen
  have run : Steps.Watched step noteReceipt Forward (fun s => Fresh s ∧ 0 ≤ s.clock) {} p :=
    .exec (.start ⟨⟨small_fresh, Int.le_refl _⟩, rfl⟩) (by decide +kernel) ran
  exact ⟨p, run, infos, (reports_sound run (by rw [clock]; decide)).2⟩

/-! ## Calls that give up -/

/-- The reading at which the last call may give up. -/
def Receipts.until_ (g : Receipts) : Int := g.begun + max g.timeoutMs 0 * millisecond

/-- What a call owes to its timeout, by where it stands. -/
structure Waits (s : Consumer β) (g : Receipts) : Prop where
  begun : g.begun ≤ s.clock
  entered : s.reader.pc = .entered → s.reader.timeoutMs = g.timeoutMs
  admitted : s.reader.pc = .admitted → s.reader.timeoutMs = max g.timeoutMs 0
  waiting : s.reader.pc.isWaiting = true → g.until_ ≤ s.reader.callDeadline
  gaveUp : s.reader.pc = .returned 0 → g.until_ < s.clock + microsecond ∧
    (s.capture.config.fixedRate = false → g.until_ ≤ s.clock)

section
variable [Zero β] {s t : Consumer β} {g : Receipts} {l : ConsumerLabel β}

omit [Zero β] in
/-- What a step of the reader must keep. -/
theorem Waits.move {c : Capture β} {r : Reader β} (h : Waits s g)
    (config : c.config = s.capture.config) (entered : r.pc ≠ .entered)
    (admitted : r.pc = .admitted → r.timeoutMs = max g.timeoutMs 0)
    (waiting : r.pc.isWaiting = true → g.until_ ≤ r.callDeadline)
    (gaveUp : r.pc = .returned 0 → g.until_ < s.clock + microsecond ∧
      (s.capture.config.fixedRate = false → g.until_ ≤ s.clock)) :
    Waits { s with capture := c, reader := r }
      (noteReceipt s .read { s with capture := c, reader := r } g) := by
  by_cases returned : r.pc = .returned 1
  · rw [noteReceipt_delivered returned]
    exact ⟨h.begun, fun at_ => absurd at_ entered, admitted, waiting, config ▸ gaveUp⟩
  · rw [noteReceipt_read returned]
    exact ⟨h.begun, fun at_ => absurd at_ entered, admitted, waiting, config ▸ gaveUp⟩

theorem read_waits {c : Capture β} {r : Reader β} (h : Waits s g)
    (taken : s.reader.step s.capture s.clock = some (c, r)) :
    Waits { s with capture := c, reader := r }
      (noteReceipt s .read { s with capture := c, reader := r } g) := by
  have moved := Reader.step_moves taken
  have config := Reader.moves_config moved
  cases moved with
  | refuse status at_ refused =>
    refine h.move config (by rintro ⟨⟩) (by rintro ⟨⟩) (by rintro ⟨⟩) fun returned => ?_
    have zero := ReadPc.returned.inj returned
    omega
  | accept timeoutMs at_ running given enough =>
    refine h.move config (by rintro ⟨⟩) (fun admitted => ?_) (by rintro ⟨⟩) (by rintro ⟨⟩)
    have entered := Reader.step_entered taken at_
    rw [entered] at admitted ⊢
    rw [Reader.enter_patience admitted, h.entered at_]
  | begin at_ =>
    refine h.move config (by rintro ⟨⟩) (by rintro ⟨⟩) (fun _ => ?_) (by rintro ⟨⟩)
    dsimp only
    rw [h.admitted at_]
    exact Int.add_le_add_right h.begun _
  | wait at_ pass =>
    exact h.move config (by rintro ⟨⟩) (by rintro ⟨⟩) (fun _ => h.waiting (at_ ▸ rfl))
      (by rintro ⟨⟩)
  | early next at_ fixed soon leads =>
    have patience : g.until_ ≤ s.reader.callDeadline := h.waiting (at_ ▸ rfl)
    refine h.move config ?_ ?_ (fun _ => patience) fun gaveUp => ⟨?_, fun pass => ?_⟩
    · rintro rfl
      obtain ⟨⟨⟩⟩ | ⟨_, _, ⟨⟩⟩ := leads
    · rintro rfl
      obtain ⟨⟨⟩⟩ | ⟨_, _, ⟨⟩⟩ := leads
    · have looked := Reader.step_looping taken at_
      rw [looked] at gaveUp
      exact Int.lt_of_le_of_lt patience (Reader.look_expired gaveUp)
    · rw [fixed] at pass
      cases pass
  | reach at_ fixed passed =>
    exact h.move config (by rintro ⟨⟩) (by rintro ⟨⟩) (by rintro ⟨⟩) (by rintro ⟨⟩)
  | again at_ =>
    refine h.move config (by rintro ⟨⟩) (by rintro ⟨⟩) (fun _ => h.waiting ?_) (by rintro ⟨⟩)
    obtain at_ | ⟨wait, at_⟩ := at_
    · rw [at_]; rfl
    · rw [at_]; rfl
  | expire at_ late =>
    have past : g.until_ ≤ s.clock := Int.le_trans (h.waiting (at_ ▸ rfl)) late
    exact h.move config (by rintro ⟨⟩) (by rintro ⟨⟩) (by rintro ⟨⟩) fun _ =>
      ⟨Int.lt_of_le_of_lt past (Int.lt_add_of_pos_right _ (by decide)), fun _ => past⟩
  | popWaiting d p wait at_ popped open_ =>
    refine h.move config ?_ ?_ (fun _ => h.waiting (at_ ▸ rfl)) ?_
    · intro next
      dsimp only [Reader.keep, Reader.afterPop] at next
      repeat' split at next
      all_goals cases next
    · intro next
      dsimp only [Reader.keep, Reader.afterPop] at next
      repeat' split at next
      all_goals cases next
    · intro next
      dsimp only [Reader.keep, Reader.afterPop] at next
      repeat' split at next
      all_goals cases next
  | shut d p at_ popped closed | popDue d p at_ popped open_ | drain result dst at_ filled
  | close flags at_ | stamp at_ | tell ns at_ =>
    exact h.move config (by rintro ⟨⟩) (by rintro ⟨⟩) (by rintro ⟨⟩) (by rintro ⟨⟩)

theorem step_waits (h : Waits s g) (forward : Forward s l) (taken : s.step l = some t) :
    Waits t (noteReceipt s l t g) := by
  cases l with
  | read =>
    simp only [step, Option.map_eq_some_iff, Prod.exists] at taken
    obtain ⟨c, r, moved, rfl⟩ := taken
    exact read_waits h moved
  | call args =>
    simp only [step, Reader.call, Option.map_eq_some_iff] at taken
    obtain ⟨reader, called, rfl⟩ := taken
    split at called
    · cases called
      exact ⟨Int.le_refl _, fun _ => rfl, by rintro ⟨⟩, by rintro ⟨⟩, by rintro ⟨⟩⟩
    · cases called
  | clock now =>
    cases taken
    have later : s.clock ≤ now := forward
    refine ⟨Int.le_trans h.begun later, h.entered, h.admitted, h.waiting, fun at_ => ?_⟩
    obtain ⟨nearly, past⟩ := h.gaveUp at_
    exact ⟨Int.lt_of_lt_of_le nearly (Int.add_le_add_right later _),
      fun pass => Int.le_trans (past pass) later⟩
  | push frame =>
    simp only [step, Capture.pushFrame, Option.map_map, Option.map_eq_some_iff, Prod.exists] at taken
    obtain ⟨queue, discarded, pushed, rfl⟩ := taken
    exact ⟨h.begun, h.entered, h.admitted, h.waiting, h.gaveUp⟩
  | close | raise | aside c =>
    cases taken
    exact ⟨h.begun, h.entered, h.admitted, h.waiting, h.gaveUp⟩

/-- A call that comes back with nothing has waited for all of its timeout, to
within the microsecond durations are cut to; exactly so in pass-through mode. -/
theorem gives_up_late {p : Consumer β × Receipts}
    (run : Steps.Watched step noteReceipt Forward (fun s => Fresh s ∧ 0 ≤ s.clock) {} p)
    (nothing : p.1.reader.pc = .returned 0) :
    p.2.begun + max p.2.timeoutMs 0 * millisecond < p.1.clock + microsecond ∧
      (p.1.capture.config.fixedRate = false →
        p.2.begun + max p.2.timeoutMs 0 * millisecond ≤ p.1.clock) := by
  have waits : Waits p.1 p.2 := by
    apply Steps.Watched.invariant Waits ?_ ?_ run
    · rintro s ⟨⟨c, other, clock, _, rfl⟩, nonneg⟩
      exact ⟨nonneg, by rintro ⟨⟩, by rintro ⟨⟩, by rintro ⟨⟩, by rintro ⟨⟩⟩
    · intro s l t g _ waits forward taken
      exact step_waits waits forward taken
  exact waits.gaveUp nothing

end

/-- A call with no time to wait, made before its frame is due. -/
theorem gives_up_late_once : ∃ p : Consumer UInt8 × Receipts,
    Steps.Watched step noteReceipt Forward (fun s => Fresh s ∧ 0 ≤ s.clock) {} p ∧
    p.1.reader.pc = .returned 0 ∧ p.2.timeoutMs = -1 ∧
    p.2.begun + max p.2.timeoutMs 0 * millisecond < p.1.clock + microsecond := by
  have ran : (Steps.exec (Steps.watch step noteReceipt) (small, {})
      [.clock 500, .call ⟨some [7, 7], 1, some ⟨0, 0, 0⟩, -1⟩, .read, .read, .read]).map
        (fun p => (p.2.timeoutMs, p.1.reader.pc)) = some (-1, .returned 0) := by decide +kernel
  obtain ⟨p, ran, seen⟩ := Option.map_eq_some_iff.mp ran
  obtain ⟨timeout, nothing⟩ := Prod.mk.inj seen
  have run : Steps.Watched step noteReceipt Forward (fun s => Fresh s ∧ 0 ≤ s.clock) {} p :=
    .exec (.start ⟨⟨small_fresh, Int.le_refl _⟩, rfl⟩) (by decide +kernel) ran
  exact ⟨p, run, nothing, timeout, (gives_up_late run nothing).1⟩

end Consumer
end WebAudioCapture
