import WebAudioCapture.Session

/-!
# The steps of a session

What each step does to what the parties share, the queue and the flags, and to
the record.
-/

namespace WebAudioCapture

variable {β : Type}

namespace Session

/-- The steps of the reader, seen from the queue and the flags. -/
inductive ReadEffect (s : Session β) (c : Capture β) (r : Reader β) : Prop
  | quiet (queue : c.queue = s.capture.queue) (flags : c.pendingFlags = s.capture.pendingFlags)
      (takes : s.reader.pc.takes = false) (drains : s.reader.pc.drains = false)
      (phase : r.pc.phase = s.reader.pc.phase) (going : r.pc ≠ .returned 1)
      (total : r.totalDiscarded = s.reader.totalDiscarded)
  | nothing (flags : c.pendingFlags = s.capture.pendingFlags)
      (takes : s.reader.pc.takes = true) (drains : s.reader.pc.drains = false)
      (empty : s.capture.queue.count = 0) (count : c.queue.count = 0)
      (dropped : c.queue.dropped = 0) (phase : r.pc.phase = .away ∨ r.pc.phase = .undrained) (going : r.pc ≠ .returned 1)
      (total : s.reader.totalDiscarded = 0 → r.totalDiscarded = 0)
  | frame (flags : c.pendingFlags = s.capture.pendingFlags)
      (takes : s.reader.pc.takes = true) (drains : s.reader.pc.drains = false)
      (some : 0 < s.capture.queue.count) (count : c.queue.count = s.capture.queue.count - 1)
      (dropped : c.queue.dropped = 0) (phase : r.pc.phase = .undrained ∨ r.pc = .returned 1 ∧ s.reader.info = none)
      (total : s.reader.totalDiscarded = 0 → r.totalDiscarded = sizeT s.capture.queue.dropped)
  | drain (queue : c.queue = s.capture.queue) (flags : c.pendingFlags = 0)
      (takes : s.reader.pc.takes = false) (drains : s.reader.pc.drains = true) (result : Int)
      (phase : r.pc.phase = .drained (s.reader.flagsFor s.capture result))
      (going : r.pc ≠ .returned 1) (total : r.totalDiscarded = s.reader.totalDiscarded)
  | tell (queue : c.queue = s.capture.queue) (flags : c.pendingFlags = 0)
      (takes : s.reader.pc.takes = false) (drains : s.reader.pc.drains = true)
      (returned : r.pc = .returned 1)
      (info : ∀ i, r.info = some i → i.flags = s.reader.flagsFor s.capture 1)
  | close (drained : FrameFlags) (queue : c.queue = s.capture.queue)
      (flags : c.pendingFlags = s.capture.pendingFlags)
      (takes : s.reader.pc.takes = false) (drains : s.reader.pc.drains = false)
      (phase : s.reader.pc.phase = .drained drained) (returned : r.pc = .returned 1)
      (info : ∀ i, r.info = some i → i.flags = drained)

theorem report_flags {r : Reader β} {ns : Int} {flags : FrameFlags} {i : FrameInfo}
    (h : (r.report ns flags).info = some i) : i.flags = flags := by
  simp only [Reader.report, Option.map_eq_some_iff] at h
  obtain ⟨_, _, rfl⟩ := h
  rfl

theorem startPacing_shared (c : Capture β) (now : Int) :
    (c.startPacing now).queue = c.queue ∧ (c.startPacing now).pendingFlags = c.pendingFlags := by
  unfold Capture.startPacing
  split
  · exact ⟨rfl, rfl⟩
  · exact ⟨rfl, rfl⟩

theorem read_effect [Zero β] {s : Session β} {c : Capture β} {r : Reader β}
    (counted : s.capture.queue.Counted) (moved : s.reader.Moves s.capture s.clock c r) :
    c.queue.Counted ∧ c.queue.closed = s.capture.queue.closed ∧
      r.info.isSome = s.reader.info.isSome ∧ ReadEffect s c r := by
  cases moved with
  | refuse status at_ refused =>
    refine ⟨counted, rfl, rfl, .quiet rfl rfl ?_ ?_ ?_ ?_ rfl⟩
    · rw [at_]; rfl
    · rw [at_]; rfl
    · rw [at_]; rfl
    · intro done
      have one : status.code = 1 := ReadPc.returned.inj done
      omega
  | accept timeoutMs at_ running given enough =>
    exact ⟨counted, rfl, rfl, .quiet rfl rfl (at_ ▸ rfl) (at_ ▸ rfl) (at_ ▸ rfl) (by rintro ⟨⟩) rfl⟩
  | begin at_ =>
    exact ⟨counted, rfl, rfl, .quiet rfl rfl (at_ ▸ rfl) (at_ ▸ rfl) (at_ ▸ rfl) (by rintro ⟨⟩) rfl⟩
  | wait at_ pass =>
    exact ⟨counted, rfl, rfl, .quiet rfl rfl (at_ ▸ rfl) (at_ ▸ rfl) (at_ ▸ rfl) (by rintro ⟨⟩) rfl⟩
  | early next at_ fixed soon leads =>
    obtain ⟨queue, flags⟩ := startPacing_shared s.capture s.clock
    rw [queue]
    refine ⟨counted, rfl, rfl, ?_⟩
    obtain rfl | ⟨wait, _, rfl⟩ := leads
    · exact .quiet queue flags (at_ ▸ rfl) (at_ ▸ rfl) (at_ ▸ rfl) (by rintro ⟨⟩) rfl
    · exact .quiet queue flags (at_ ▸ rfl) (at_ ▸ rfl) (at_ ▸ rfl) (by rintro ⟨⟩) rfl
  | reach at_ fixed passed =>
    obtain ⟨queue, flags⟩ := startPacing_shared s.capture s.clock
    rw [queue]
    refine ⟨counted, rfl, rfl, ?_⟩
    exact .quiet queue flags (at_ ▸ rfl) (at_ ▸ rfl) (at_ ▸ rfl) (by rintro ⟨⟩) rfl
  | again at_ =>
    refine ⟨counted, rfl, rfl, ?_⟩
    obtain at_ | ⟨wait, at_⟩ := at_
    · exact .quiet rfl rfl (at_ ▸ rfl) (at_ ▸ rfl) (at_ ▸ rfl) (by rintro ⟨⟩) rfl
    · exact .quiet rfl rfl (at_ ▸ rfl) (at_ ▸ rfl) (at_ ▸ rfl) (by rintro ⟨⟩) rfl
  | expire at_ late =>
    exact ⟨counted, rfl, rfl, .quiet rfl rfl (at_ ▸ rfl) (at_ ▸ rfl) (at_ ▸ rfl) (by rintro ⟨⟩) rfl⟩
  | shut d p at_ popped closed =>
    obtain ⟨dst, queue, _, taken, rfl⟩ := Reader.pop_queue popped
    obtain ⟨counted, dropped, shut, _, from_⟩ := FrameQueue.pop_counted counted taken
    refine ⟨counted, shut, rfl, ?_⟩
    cases from_ with
    | nothing empty result discarded count =>
      obtain at_ | ⟨wait, at_⟩ := at_
      · exact .nothing rfl (at_ ▸ rfl) (at_ ▸ rfl) empty count dropped (.inl rfl) (by rintro ⟨⟩) id
      · exact .nothing rfl (at_ ▸ rfl) (at_ ▸ rfl) empty count dropped (.inl rfl) (by rintro ⟨⟩) id
    | frame some result discarded count => omega
  | popWaiting d p wait at_ popped open_ =>
    obtain ⟨dst, queue, _, taken, rfl⟩ := Reader.pop_queue popped
    obtain ⟨counted, dropped, shut, _, from_⟩ := FrameQueue.pop_counted counted taken
    refine ⟨counted, shut, rfl, ?_⟩
    cases from_ with
    | nothing empty result discarded count =>
      have none : p.result = 0 := by omega
      refine .nothing rfl (at_ ▸ rfl) (at_ ▸ rfl) empty count dropped (.inl ?_) ?_ (fun zero => ?_)
      · simp only [Reader.keep, Reader.afterPop, none, if_true]; rfl
      · simp only [Reader.keep, Reader.afterPop, none, if_true]; rintro ⟨⟩
      · simp only [Reader.keep, zero, discarded]; rfl
    | frame some result discarded count =>
      refine .frame rfl (at_ ▸ rfl) (at_ ▸ rfl) some count dropped ?_ (fun zero => ?_)
      · cases given : s.reader.info with
        | none => exact .inr ⟨by simp [Reader.keep, Reader.afterPop, result, given], rfl⟩
        | some i => exact .inl (by simp [Reader.keep, Reader.afterPop, result, given, ReadPc.phase])
      · simp only [Reader.keep, zero, discarded, Nat.zero_add]
  | popDue d p at_ popped open_ =>
    obtain ⟨dst, queue, _, taken, rfl⟩ := Reader.pop_queue popped
    obtain ⟨counted, dropped, shut, _, from_⟩ := FrameQueue.pop_counted counted taken
    refine ⟨counted, shut, rfl, ?_⟩
    cases from_ with
    | nothing empty result discarded count =>
      refine .nothing rfl (at_ ▸ rfl) (at_ ▸ rfl) empty count dropped (.inr rfl) (by rintro ⟨⟩)
        (fun zero => ?_)
      simp only [Reader.keep, zero, discarded]; rfl
    | frame some result discarded count =>
      refine .frame rfl (at_ ▸ rfl) (at_ ▸ rfl) some count dropped (.inl rfl) (fun zero => ?_)
      simp only [Reader.keep, zero, discarded, Nat.zero_add]
  | drain result dst at_ filled =>
    exact ⟨counted, rfl, rfl, .drain rfl rfl (at_ ▸ rfl) (at_ ▸ rfl) result rfl (by rintro ⟨⟩) rfl⟩
  | close flags at_ =>
    refine ⟨counted, rfl, ?_, .close flags rfl rfl (at_ ▸ rfl) (at_ ▸ rfl) (at_ ▸ rfl) rfl ?_⟩
    · simp only [Reader.finish, Reader.report, Option.isSome_map]
    · exact fun i given => report_flags given
  | stamp at_ =>
    exact ⟨counted, rfl, rfl, .quiet rfl rfl (at_ ▸ rfl) (at_ ▸ rfl) (at_ ▸ rfl) (by rintro ⟨⟩) rfl⟩
  | tell ns at_ =>
    refine ⟨counted, rfl, ?_, .tell rfl rfl (at_ ▸ rfl) (at_ ▸ rfl) rfl ?_⟩
    · simp only [Reader.finish, Reader.report, Option.isSome_map]
    · exact fun i given => report_flags given

/-- The steps of the capture thread, seen from the queue, the flags and the
record. -/
inductive CaptureEffect (s : Session β) (c : Capture β) (t : CaptureThread β) : Prop
  | quiet (queue : c.queue = s.capture.queue) (flags : c.pendingFlags = s.capture.pendingFlags)
      (note : s.noteCapture c t = { s with capture := c, thread := t })
      (from_ : s.thread.pc ≠ .flagReopen) (pc : t.pc ≠ .flagReopen)
      (had : t.hadStream = s.thread.hadStream) (mic : t.mic = s.thread.mic ∨ t.mic = none)
  | opened (queue : c.queue = s.capture.queue) (flags : c.pendingFlags = s.capture.pendingFlags)
      (note : s.noteCapture c t = { s with capture := c, thread := t, opens := s.opens + 1 })
      (closed : s.thread.mic = none) (had : t.hadStream = true) (mic : t.mic.isSome = true)
      (from_ : s.thread.pc ≠ .flagReopen)
      (pc : t.pc = if s.thread.hadStream then .flagReopen else .reading)
  | failed (queue : c.queue = s.capture.queue)
      (flags : c.pendingFlags = s.capture.pendingFlags ||| reopenFlags)
      (note : s.noteCapture c t = { s with capture := c, thread := t })
      (from_ : s.thread.pc = .flagOpenFailure ∨ s.thread.pc = .flagReadFailure)
      (pc : t.pc ≠ .flagReopen) (had : t.hadStream = s.thread.hadStream)
      (closed : s.thread.mic = none) (mic : t.mic = none)
  | reopened (queue : c.queue = s.capture.queue)
      (flags : c.pendingFlags = s.capture.pendingFlags ||| reopenFlags)
      (note : s.noteCapture c t = { s with capture := c, thread := t, reopened := true })
      (from_ : s.thread.pc = .flagReopen) (pc : t.pc ≠ .flagReopen)
      (had : t.hadStream = s.thread.hadStream) (mic : t.mic = s.thread.mic)
      (live : s.thread.mic.isSome = true)
  | pushed (queue : s.capture.queue.PushedOnto c.queue)
      (flags : c.pendingFlags = s.capture.pendingFlags)
      (note : s.noteCapture c t =
        { s with
          capture := c, thread := t
          captured :=
            if s.capture.queue.accepts then s.captured ++ [⟨s.opens, s.thread.buffer⟩]
            else s.captured })
      (from_ : s.thread.pc ≠ .flagReopen) (pc : t.pc ≠ .flagReopen)
      (had : t.hadStream = s.thread.hadStream) (mic : t.mic = s.thread.mic)
      (live : s.thread.mic.isSome = true)

/-- Where the record keeps nothing of a step. -/
def unrecorded : CapturePc → Bool
  | .opening _ | .flagReopen | .pushing => false
  | _ => true

/-- A step from there that leaves the queue and the flags alone. -/
theorem CaptureEffect.of_unrecorded {s : Session β} {c : Capture β} {t : CaptureThread β}
    (from_ : unrecorded s.thread.pc = true) (queue : c.queue = s.capture.queue)
    (flags : c.pendingFlags = s.capture.pendingFlags) (pc : t.pc ≠ .flagReopen)
    (had : t.hadStream = s.thread.hadStream) (mic : t.mic = s.thread.mic ∨ t.mic = none) :
    CaptureEffect s c t := by
  refine .quiet queue flags ?_ ?_ pc had mic
  · unfold noteCapture
    split
    · rename_i at_
      rw [at_] at from_
      cases from_
    · rename_i at_
      rw [at_] at from_
      cases from_
    · rename_i at_
      rw [at_] at from_
      cases from_
    · rfl
  · intro at_
    rw [at_] at from_
    cases from_

theorem capture_effect {s : Session β} {c : Capture β} {t : CaptureThread β}
    (counted : s.capture.queue.Counted) (consistent : s.thread.Consistent)
    (moved : s.thread.Moves s.capture s.clock c t) :
    c.queue.Counted ∧ CaptureEffect s c t := by
  have closed : ∀ pc, s.thread.pc = pc → CaptureThread.streaming pc = some false →
      s.thread.mic = none := by
    intro pc at_ off
    exact Option.not_isSome_iff_eq_none.mp (by rw [consistent false (at_ ▸ off)]; rintro ⟨⟩)
  have live : ∀ pc, s.thread.pc = pc → CaptureThread.streaming pc = some true →
      s.thread.mic.isSome = true := by
    intro pc at_ on
    exact consistent true (at_ ▸ on)
  cases moved with
  | loop at_ =>
    refine ⟨counted, .of_unrecorded (at_ ▸ rfl) rfl rfl ?_ rfl (.inl rfl)⟩
    simp only [CaptureThread.goto, CaptureThread.top]
    split
    · rintro ⟨⟩
    · split <;> rintro ⟨⟩
  | refuse target message at_ =>
    have none := closed _ at_ rfl
    refine ⟨counted, .quiet rfl rfl ?_ (by rw [at_]; rintro ⟨⟩) (by rintro ⟨⟩) rfl (.inl rfl)⟩
    simp only [noteCapture, at_, CaptureThread.goto, none, Option.isSome_none, Bool.false_eq_true,
      if_false]
  | openStream target mic at_ source =>
    refine ⟨counted, .opened rfl rfl ?_ (closed _ at_ rfl) rfl rfl (by rw [at_]; rintro ⟨⟩) rfl⟩
    simp only [noteCapture, at_, Option.isSome_some, if_true]
  | raise next at_ =>
    obtain ⟨at_, rfl⟩ | ⟨at_, rfl⟩ := at_
    · have none : s.thread.mic = Option.none := by
        obtain at_ | at_ := at_
        · exact closed _ at_ rfl
        · exact closed _ at_ rfl
      refine ⟨counted, .failed rfl rfl ?_ at_ (by rintro ⟨⟩) rfl none none⟩
      obtain at_ | at_ := at_
      · simp only [noteCapture, at_]
      · simp only [noteCapture, at_]
    · exact ⟨counted, .reopened rfl rfl (by simp only [noteCapture, at_]) at_ (by rintro ⟨⟩) rfl rfl
        (live _ at_ rfl)⟩
  | lose bytes message at_ on whole =>
    exact ⟨counted, .of_unrecorded (at_ ▸ rfl) rfl rfl (by rintro ⟨⟩) rfl (.inr rfl)⟩
  | push c' at_ pushed =>
    simp only [Capture.pushFrame, Option.map_eq_some_iff, Prod.exists] at pushed
    obtain ⟨queue, discarded, took, rfl⟩ := pushed
    obtain ⟨counted, onto⟩ := FrameQueue.push_counted counted took
    exact ⟨counted, .pushed onto rfl (by simp only [noteCapture, at_]) (by rw [at_]; rintro ⟨⟩) (by rintro ⟨⟩)
      rfl rfl (live _ at_ rfl)⟩
  | check at_ =>
    refine ⟨counted, .of_unrecorded (at_ ▸ rfl) rfl rfl ?_ rfl (.inl rfl)⟩
    simp only [CaptureThread.goto]
    split <;> rintro ⟨⟩
  | checked control found defaultSink monitor at_ answer =>
    refine ⟨counted, .of_unrecorded (at_ ▸ rfl) rfl rfl (by rintro ⟨⟩) rfl ?_⟩
    dsimp only
    split
    · exact .inr rfl
    · exact .inl rfl
  | retried until_ next at_ leads =>
    refine ⟨counted, .of_unrecorded (at_ ▸ rfl) rfl rfl ?_ rfl (.inl rfl)⟩
    obtain ⟨_, rfl⟩ | ⟨_, _, rfl⟩ := leads
    · rintro ⟨⟩
    · rintro ⟨⟩
  | unresolved _ _ _ at_ | resolve _ _ _ _ at_ | publish _ at_ | read _ at_ | schedule at_
  | leave at_ | notify at_ =>
    exact ⟨counted, .of_unrecorded (at_ ▸ rfl) rfl rfl (by rintro ⟨⟩) rfl (.inl rfl)⟩

/-- What a step of the session does, the queue, the flags and the record
apart from the party that took it. -/
inductive StepEffect (s t : Session β) : SessionLabel β → Prop
  | aside (l : SessionLabel β) (c : Capture β) (clock : Int)
      (queue : c.queue = s.capture.queue ∨ c.queue = s.capture.queue.close)
      (flags : c.pendingFlags = s.capture.pendingFlags)
      (to_ : t = { s with capture := c, clock }) : StepEffect s t l
  | call (args : ReadArgs β) (idle : s.reader.isIdle = true)
      (to_ : t = { s with reader :=
        { pc := .entered, dst := args.dst, capacityFrames := args.capacityFrames
          info := args.info, timeoutMs := args.timeoutMs } }) : StepEffect s t (.call args)
  | read (c : Capture β) (r : Reader β) (busy : s.reader.isIdle = false)
      (counted : c.queue.Counted) (informed : r.info.isSome = s.reader.info.isSome)
      (effect : ReadEffect s c r) (to_ : t = s.noteRead c r) : StepEffect s t .read
  | capture (input : CaptureInput β) (c : Capture β) (th : CaptureThread β)
      (counted : c.queue.Counted) (consistent : th.Consistent) (effect : CaptureEffect s c th)
      (to_ : t = s.noteCapture c th) : StepEffect s t (.capture input)

theorem step_effect [Zero β] {s t : Session β} {l : SessionLabel β} (counted : s.capture.queue.Counted)
    (consistent : s.thread.Consistent) (taken : s.step l = some t) : StepEffect s t l := by
  cases step_moves taken with
  | tick elapsed => exact .aside _ s.capture (s.clock + elapsed) (.inl rfl) rfl rfl
  | call args idle => exact .call args idle rfl
  | read c r busy moved =>
    obtain ⟨counted, _, informed, effect⟩ := read_effect counted moved
    exact .read c r busy counted informed effect rfl
  | capture input c th moved =>
    obtain ⟨counted, effect⟩ := capture_effect counted consistent moved
    exact .capture input c th counted (CaptureThread.moves_consistent consistent moved) effect rfl
  | requestStop =>
    exact .aside _ { s.capture with stopRequested := true } s.clock (.inl rfl) rfl rfl
  | closeQueue asked =>
    exact .aside _ { s.capture with queue := s.capture.queue.close } s.clock (.inr rfl) rfl rfl
  | callback delivery =>
    exact .aside _ { s.capture with control := s.capture.control.deliver delivery } s.clock
      (.inl rfl) rfl rfl

end Session
end WebAudioCapture
