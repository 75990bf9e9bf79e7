import WebAudioCapture.Accessors
import WebAudioCapture.Holes
import WebAudioCapture.Wav

/-!
# The recorder

`webacap-dump` at work: it asks for frames until its time is up or a call
fails, writes each one out and counts, while the capture thread and everyone
else go on. What it leaves behind is compared with what was captured.
-/

namespace WebAudioCapture

/-- Where the recorder stands: the capture started, before its deadline test, in
a call, past its loop, or with its file closed. -/
inductive DumpPc where
  | opened
  | testing
  | reading
  | leaving
  | closed
  deriving DecidableEq, Repr

structure Dump where
  session : Session UInt8
  info : FormatInfo := {}
  buffer : List UInt8 := []
  out : File := {}
  dataOffset : Nat := 0
  frames : UInt64 := 0
  silent : UInt64 := 0
  gaps : UInt64 := 0
  dropped : UInt64 := 0
  pc : DumpPc := .opened
  deriving DecidableEq, Repr

/-- `prepare` is given what the buffer's memory holds, `test` whether the
deadline has passed. -/
inductive DumpLabel where
  | beside (l : SessionLabel UInt8)
  | prepare (buffer : List UInt8)
  | test (late : Bool)
  | answer
  | finish
  deriving DecidableEq, Repr

def SessionLabel.isCall {β : Type} : SessionLabel β → Bool
  | .call _ => true
  | _ => false

namespace Dump

/-- `frame_bytes`. -/
def frameBytes (info : FormatInfo) : Nat :=
  sizeT (sizeT (info.frameSamples.toNat * info.channels.toNat) * sampleBytes info.format)

/-- The arguments of its calls. -/
def args (s : Dump) : ReadArgs UInt8 :=
  { dst := some s.buffer, capacityFrames := s.info.frameSamples, info := some ⟨0, 0, 0⟩
    timeoutMs := 1000 }

/-- Write the frame in the buffer, and count it. -/
def save (s : Dump) (frame : FrameInfo) : Dump :=
  { s with
    out := s.out.write (s.buffer.take (frameBytes s.info))
    frames := s.frames + 1
    silent := if frame.flags.has frameSilence then s.silent + 1 else s.silent
    gaps := if frame.flags.has frameDiscontinuity then s.gaps + 1 else s.gaps
    dropped := s.dropped + frame.droppedFrames.toUInt64
    pc := .testing }

/-- What becomes of a call that has returned `result`. -/
def heed (s : Dump) (result : Int) : Dump :=
  let s := { s with buffer := s.session.reader.dst.getD s.buffer }
  if result < 0 then { s with pc := .leaving }
  else if result = 0 then { s with pc := .testing }
  else s.save (s.session.reader.info.getD ⟨0, 0, 0⟩)

/-- The format in hand, and the header written. -/
def prepare (s : Dump) (info : FormatInfo) (buffer : List UInt8) : Dump :=
  let out := writeHeader info {}
  { s with info, buffer, out, dataOffset := out.pos, pc := .testing }

def step (s : Dump) : DumpLabel → Option Dump
  | .beside l =>
    if l.isCall then none else (s.session.step l).map fun session => { s with session }
  | .prepare buffer =>
    match s.pc, Capture.getFormat (some s.session.capture) true with
    | .opened, (.ok, some info) =>
      if buffer.length = frameBytes info then some (s.prepare info buffer) else none
    | _, _ => none
  | .test late =>
    if s.pc = .testing then
      if late then some { s with pc := .leaving }
      else (s.session.step (.call s.args)).map fun session => { s with session, pc := .reading }
    else none
  | .answer =>
    match s.pc, s.session.reader.pc with
    | .reading, .returned result => some (s.heed result)
    | _, _ => none
  | .finish =>
    if s.pc = .leaving then some { s with out := patchSizes s.out s.dataOffset, pc := .closed }
    else none

/-- A session of a fresh handle whose queue has all of its storage, and a recorder
that has just started it. -/
def Started (s : Dump) : Prop := ∃ session, Session.Roomy session ∧ s = { session }

/-- The handle the recorder asks for is such a one: it changes nothing of the default
configuration but the sink, and the queue of that has all of its storage. -/
theorem defaults_started {alloc : Allocator} {memory text : Bool} {sink : Option String}
    {c : Capture UInt8}
    (made : Capture.create alloc memory text (some { configDefaults with sink }) true =
      .ok (.ok, some c)) (control : Control) (target : Target) (clock : Int) :
    Started { session := .start c control target clock } := by
  obtain ⟨queue, rfl, _, _, _, _, given⟩ := Capture.create_inv made
  have small : (Config.resolve (some configDefaults)).queueBytes < 2 ^ 64 := by decide +kernel
  obtain ⟨_, _, stored, _⟩ := FrameQueue.init_ok given
  refine ⟨_, ⟨_, control, target, clock, ⟨alloc, memory, text, _, made⟩, ?_, rfl⟩, rfl⟩
  exact Nat.le_of_eq (stored.trans (sizeT_of_lt small)).symm

/-! ## What a step can do -/

inductive Moves (s : Dump) : DumpLabel → Dump → Prop
  | beside (l : SessionLabel UInt8) (session : Session UInt8) (other : l.isCall = false)
      (taken : s.session.step l = some session) : Moves s (.beside l) { s with session }
  | prepare (buffer : List UInt8) (at_ : s.pc = .opened)
      (whole : buffer.length = frameBytes s.session.capture.formatInfo) :
      Moves s (.prepare buffer) (s.prepare s.session.capture.formatInfo buffer)
  | expire (at_ : s.pc = .testing) : Moves s (.test true) { s with pc := .leaving }
  | call (session : Session UInt8) (at_ : s.pc = .testing)
      (taken : s.session.step (.call s.args) = some session) :
      Moves s (.test false) { s with session, pc := .reading }
  | answer (result : Int) (at_ : s.pc = .reading)
      (returned : s.session.reader.pc = .returned result) : Moves s .answer (s.heed result)
  | finish (at_ : s.pc = .leaving) :
      Moves s .finish { s with out := patchSizes s.out s.dataOffset, pc := .closed }

theorem step_moves {s t : Dump} {l : DumpLabel} (taken : s.step l = some t) : Moves s l t := by
  cases l with
  | beside l =>
    simp only [step] at taken
    split at taken
    · cases taken
    · rename_i other
      obtain ⟨session, moved, rfl⟩ := Option.map_eq_some_iff.mp taken
      exact .beside l session (Bool.eq_false_iff.mpr other) moved
  | prepare buffer =>
    simp only [step, Capture.getFormat] at taken
    split at taken
    · rename_i at_ same
      cases same
      split at taken
      · rename_i whole
        cases taken
        exact .prepare buffer at_ whole
      · cases taken
    · cases taken
  | test late =>
    simp only [step] at taken
    split at taken
    · rename_i at_
      cases late with
      | true =>
        cases taken
        exact .expire at_
      | false =>
        obtain ⟨session, moved, rfl⟩ := Option.map_eq_some_iff.mp taken
        exact .call session at_ moved
    · cases taken
  | answer =>
    simp only [step] at taken
    split at taken
    · rename_i at_ returned
      cases taken
      exact .answer _ at_ returned
    · cases taken
  | finish =>
    simp only [step] at taken
    split at taken
    · rename_i at_
      cases taken
      exact .finish at_
    · cases taken

end Dump

/-! ## The session under it -/

namespace Reader

variable {β : Type}

theorem pop_room {c c' : Capture β} {r : Reader β} {p : FrameQueue.Popped β}
    (popped : r.pop c = some (c', p)) : some p.out.length = r.dst.map List.length := by
  obtain ⟨dst, queue, given, taken, _⟩ := pop_queue popped
  rw [given]
  unfold FrameQueue.pop at taken
  dsimp only at taken
  split at taken
  · cases taken
    rfl
  · simp only [Option.map_eq_some_iff, Prod.mk.injEq] at taken
    obtain ⟨out, copied, _, rfl⟩ := taken
    obtain ⟨_, _, stored⟩ := Option.bind_eq_some_iff.mp copied
    exact congrArg some (Blocks.store_length stored).1

/-- The call goes on or has returned, and keeps its buffer, of the size it is,
and its place for the info. -/
structure Kept (r r' : Reader β) : Prop where
  called : r'.pc ≠ .idle
  room : r'.dst.map List.length = r.dst.map List.length
  capacity : r'.capacityFrames = r.capacityFrames
  info : r'.info.isSome = r.info.isSome

theorem moves_kept [Zero β] {c c' : Capture β} {r r' : Reader β} {now : Int}
    (moved : r.Moves c now c' r') : r.Kept r' := by
  cases moved with
  | popWaiting d p wait at_ popped open_ =>
    refine ⟨?_, pop_room popped, rfl, rfl⟩
    dsimp only [keep, afterPop]
    repeat' split
    all_goals rintro ⟨⟩
  | popDue d p at_ popped open_ => exact ⟨by rintro ⟨⟩, pop_room popped, rfl, rfl⟩
  | early next at_ fixed soon leads =>
    obtain rfl | ⟨_, _, rfl⟩ := leads
    · exact ⟨by rintro ⟨⟩, rfl, rfl, rfl⟩
    · exact ⟨by rintro ⟨⟩, rfl, rfl, rfl⟩
  | close flags at_ => exact ⟨by rintro ⟨⟩, rfl, rfl, Option.isSome_map⟩
  | tell ns at_ => exact ⟨by rintro ⟨⟩, rfl, rfl, Option.isSome_map⟩
  | drain result dst at_ filled =>
    refine ⟨by rintro ⟨⟩, ?_, rfl, rfl⟩
    split at filled
    · simp only [silence, Option.bind_eq_some_iff, Option.map_eq_some_iff] at filled
      obtain ⟨old, given, new, stored, same⟩ := filled
      cases congrArg Reader.dst same
      rw [given]
      exact congrArg some (Blocks.store_length stored).1
    · cases congrArg Reader.dst (Option.some.inj filled)
      rfl
  | _ => exact ⟨by rintro ⟨⟩, rfl, rfl, rfl⟩

/-- A call returns 1 or nothing positive. -/
theorem moves_result [Zero β] {c c' : Capture β} {r r' : Reader β} {now result : Int}
    (moved : r.Moves c now c' r') (returned : r'.pc = .returned result) : result ≤ 0 ∨ result = 1 := by
  cases moved with
  | refuse status at_ refused =>
    cases returned
    exact .inl (Int.le_of_lt refused)
  | early next at_ fixed soon leads =>
    obtain rfl | ⟨_, _, rfl⟩ := leads
    · cases returned
      exact .inl (Int.le_refl _)
    · cases returned
  | expire at_ late =>
    cases returned
    exact .inl (Int.le_refl _)
  | shut d p at_ popped closed =>
    cases returned
    exact .inl (by decide)
  | popWaiting d p wait at_ popped open_ =>
    dsimp only [keep, afterPop] at returned
    repeat' split at returned
    all_goals cases returned
    exact .inr rfl
  | close flags at_ =>
    cases returned
    exact .inr rfl
  | tell ns at_ =>
    cases returned
    exact .inr rfl
  | _ => cases returned

end Reader

namespace Session

variable {β : Type}

/-- What was handed over, as bytes. -/
def audio [Zero β] (s : Session β) (e : Handed) : List β :=
  match e.frame with
  | some n => ((s.captured[n]?).map Recording.bytes).getD []
  | none => List.replicate s.capture.config.frameBytes 0

/-- A session in which every call asks for the info, with its ledger. -/
structure Kept [Zero β] (s : Session β) (g : Ledger β) : Prop where
  sound : Sound s
  conserved : Conserved s g
  asked : Asked s
  described : s.capture.config.DescribedBy s.capture.formatInfo
  size : s.capture.config.frameBytes = s.capture.config.size
  format : Capture.supportedFormat s.capture.config.format = true
  same : g.outputs.map (fun o => (o.frame, o.info)) = s.handed.map fun e => (e.frame, e.info)
  informed : ∀ e ∈ s.handed, e.info.isSome = true
  numbered : s.captured.length < 2 ^ 32 → Numbered s

section
variable [Zero β] {s t : Session β} {g : Ledger β} {l : SessionLabel β}

theorem moves_described (moved : Moves s l t)
    (h : s.capture.config.DescribedBy s.capture.formatInfo) :
    t.capture.config.DescribedBy t.capture.formatInfo := by
  have republished : ∀ c : Capture β, s.capture.Republishes c →
      c.config.DescribedBy c.formatInfo := by
    rintro c ⟨config, same | new⟩
    · rw [config, same]
      exact h
    · rw [config]
      exact new
  cases moved with
  | read c r busy moved => exact republished c (Reader.moves_republishes moved)
  | capture input c th moved =>
    rw [noteCapture_capture]
    exact republished c (CaptureThread.moves_republishes moved)
  | _ => exact h

/-- What a step other than a call does to the caller, and to what it has been
handed. -/
inductive Delivers (s t : Session β) (g g' : Ledger β) : Prop
  | still (reader : t.reader = s.reader) (handed : t.handed = s.handed)
      (outputs : g'.outputs = g.outputs)
  | going (busy : s.reader.isIdle = false) (kept : s.reader.Kept t.reader)
      (going : ∀ result, t.reader.pc = .returned result → result ≤ 0)
      (handed : t.handed = s.handed) (outputs : g'.outputs = g.outputs)
  | hands (o : Output β) (e : Handed) (busy : s.reader.isIdle = false)
      (kept : s.reader.Kept t.reader) (returned : t.reader.pc = .returned 1)
      (handed : t.handed = s.handed ++ [e]) (outputs : g'.outputs = g.outputs ++ [o])
      (same : o.frame = e.frame ∧ o.info = e.info)
      (told : o.out = t.reader.dst.getD [] ∧ o.info = t.reader.info)

theorem moves_delivers (moved : Moves s l t) (other : l.isCall = false) :
    Delivers s t g (g.note s l t) := by
  cases moved with
  | call args idle => cases other
  | read c r busy moved =>
    have kept := Reader.moves_kept moved
    by_cases returned : r.pc = .returned 1
    · exact .hands _ _ busy kept returned (if_pos returned) (if_pos returned) ⟨rfl, rfl⟩ ⟨rfl, rfl⟩
    · refine .going busy kept (fun result back => ?_) (if_neg returned) (if_neg returned)
      refine (Reader.moves_result moved back).resolve_right fun one => returned ?_
      rw [← one]
      exact back
  | capture input c th moved =>
    refine .still (noteCapture_reader s c th) (noteCapture_handed s c th) ?_
    simp only [Ledger.note, Ledger.noteCapture]
    repeat' split
    all_goals rfl
  | tick elapsed | requestStop | closeQueue asked | callback delivery => exact .still rfl rfl rfl

theorem step_kept (h : Kept s g) (informed : Informed s l) (taken : s.step l = some t) :
    Kept t (g.note s l t) := by
  have moved := step_moves taken
  have effect := step_effect h.sound.queue h.sound.thread taken
  have config := moves_config moved
  refine ⟨step_sound h.sound effect, step_conserved h.conserved h.sound moved,
    step_asked informed h.asked effect, moves_described moved h.described, by rw [config]; exact h.size,
    by rw [config]; exact h.format, ?_, ?_, fun few => ?_⟩
  · cases call : l.isCall with
    | true =>
      cases moved with
      | call args idle => exact h.same
      | _ => cases call
    | false =>
      cases moves_delivers (g := g) moved call with
      | still _ handed outputs => rw [handed, outputs]; exact h.same
      | going _ _ _ handed outputs => rw [handed, outputs]; exact h.same
      | hands o e _ _ _ handed outputs same =>
        rw [handed, outputs, List.map_append, List.map_append, h.same, List.map_singleton,
          List.map_singleton, same.1, same.2]
  · cases call : l.isCall with
    | true =>
      cases moved with
      | call args idle => exact h.informed
      | _ => cases call
    | false =>
      cases moves_delivers (g := g) moved call with
      | still _ handed => rw [handed]; exact h.informed
      | going _ _ _ handed => rw [handed]; exact h.informed
      | hands o e busy kept _ handed _ same told =>
        rw [handed]
        intro e' at_
        obtain old | new := List.mem_append.mp at_
        · exact h.informed e' old
        · rw [List.mem_singleton.mp new, ← same.2, told.2, kept.info]
          exact h.asked busy
  · have before := Nat.lt_of_le_of_lt (moves_captured moved).length_le few
    exact step_numbered (h.numbered before) h.sound before h.asked moved

theorem roomy_kept (h : Roomy s) : Kept s {} := by
  have sound := fresh_sound (roomy_fresh h)
  have conserved := roomy_conserved h
  have numbered := fresh_numbered (roomy_fresh h)
  obtain ⟨c, control, target, clock, created, room, rfl⟩ := h
  exact ⟨sound, conserved, by rintro ⟨⟩, c.publishFormat_described target, created.frameBytes_eq,
    created.accepted.2, rfl, by rintro _ ⟨⟩, fun _ => numbered⟩

/-- An output is what its entry stands for. -/
theorem Kept.audio_eq (h : Kept s g) : s.handed.map s.audio =
    g.outputs.map (·.out.take s.capture.config.frameBytes) := by
  have whole : ∀ o ∈ g.outputs, o.out.take s.capture.config.frameBytes =
      s.audio ⟨o.frame, o.info, 0⟩ := by
    intro o at_
    obtain ⟨payload, size, out, is⟩ := (h.conserved.honest o at_).payload
    rw [out, ← size, List.take_left]
    unfold audio
    cases real : o.frame with
    | none =>
      rw [real] at is
      exact is
    | some n =>
      rw [real] at is
      obtain ⟨f, at_, bytes⟩ := is
      dsimp only
      rw [at_, bytes]
      rfl
  have told : (g.outputs.map fun o => (o.frame, o.info)).map (fun e => s.audio ⟨e.1, e.2, 0⟩) =
      (s.handed.map fun e => (e.frame, e.info)).map fun e => s.audio ⟨e.1, e.2, 0⟩ :=
    congrArg (List.map _) h.same
  rw [List.map_map, List.map_map] at told
  rw [List.map_congr_left whole]
  exact told.symm

/-- A frame handed over was captured. -/
theorem Kept.recorded (h : Kept s g) :
    ∀ e ∈ s.handed, ∀ n, e.frame = some n → n < s.captured.length := by
  intro e at_ n real
  have there : (e.frame, e.info) ∈ g.outputs.map fun o => (o.frame, o.info) := by
    rw [h.same]
    exact List.mem_map_of_mem at_
  obtain ⟨o, member, entry⟩ := List.mem_map.mp there
  obtain ⟨payload, _, _, is⟩ := (h.conserved.honest o member).payload
  rw [(Prod.mk.inj entry).1, real] at is
  obtain ⟨f, recorded, _⟩ := is
  exact (List.getElem?_eq_some_iff.mp recorded).1

end
end Session

/-! ## The recorder's loop -/

namespace Dump

/-- What the recorder has been told of a frame. -/
def said (o : Session.Output UInt8) : FrameInfo := o.info.getD ⟨0, 0, 0⟩

/-- The bytes it writes of a frame. -/
def written (info : FormatInfo) (o : Session.Output UInt8) : List UInt8 :=
  o.out.take (frameBytes info)

/-- The counts are those of the frames `os`. -/
structure Counts (s : Dump) (os : List (Session.Output UInt8)) : Prop where
  frames : s.frames = .ofNat os.length
  silent : s.silent = .ofNat (os.countP fun o => (said o).flags.has frameSilence)
  gaps : s.gaps = .ofNat (os.countP fun o => (said o).flags.has frameDiscontinuity)
  dropped : s.dropped = .ofNat (os.map fun o => (said o).droppedFrames.toNat).sum

/-- The file so far is a header and the frames `os`. -/
structure Writes (s : Dump) (os : List (Session.Output UInt8)) : Prop where
  counts : Counts s os
  offset : s.dataOffset = (writeHeader s.info {}).pos
  out : s.out = (os.map (written s.info)).foldl File.write (writeHeader s.info {})

/-- The format is known, and the buffer is made for it. -/
structure Ready (s : Dump) : Prop where
  described : s.session.capture.config.DescribedBy s.info
  buffer : s.buffer.length = frameBytes s.info

/-- A call was made, with the whole buffer. -/
structure Lent (s : Dump) : Prop where
  called : s.session.reader.pc ≠ .idle
  room : s.session.reader.dst.map List.length = some (frameBytes s.info)
  capacity : s.session.reader.capacityFrames = s.info.frameSamples

inductive Standing (s : Dump) (g : Session.Ledger UInt8) : Prop
  | opened (at_ : s.pc = .opened) (idle : s.session.reader.isIdle = true)
      (nothing : g.outputs = []) (counts : Counts s [])
  | between (at_ : s.pc = .testing ∨ s.pc = .leaving) (idle : s.session.reader.isIdle = true)
      (ready : Ready s) (writes : Writes s g.outputs)
  | calling (at_ : s.pc = .reading)
      (going : ∀ result, s.session.reader.pc = .returned result → result ≤ 0) (ready : Ready s)
      (lent : Lent s) (writes : Writes s g.outputs)
  | answered (os : List (Session.Output UInt8)) (o : Session.Output UInt8) (at_ : s.pc = .reading)
      (returned : s.session.reader.pc = .returned 1) (ready : Ready s) (lent : Lent s)
      (writes : Writes s os) (outputs : g.outputs = os ++ [o])
      (told : o.out = s.session.reader.dst.getD [] ∧ o.info = s.session.reader.info)
  | closed (at_ : s.pc = .closed) (idle : s.session.reader.isIdle = true) (ready : Ready s)
      (counts : Counts s g.outputs) (out : s.out = recording s.info (g.outputs.map (written s.info)))

theorem returned_idle {β : Type} {r : Reader β} {result : Int} (returned : r.pc = .returned result) :
    r.isIdle = true := by
  rw [Reader.isIdle, returned]

section
variable {s : Dump} {g g' : Session.Ledger UInt8} {t : Session UInt8}
  {os : List (Session.Output UInt8)}

/-- The counts are of what has been counted, whatever else changes. -/
theorem Counts.aside {session : Session UInt8} {info : FormatInfo} {buffer : List UInt8} {out : File}
    {dataOffset : Nat} {pc : DumpPc} (h : Counts s os) :
    Counts { s with session, info, buffer, out, dataOffset, pc } os :=
  ⟨h.frames, h.silent, h.gaps, h.dropped⟩

theorem Writes.aside {session : Session UInt8} {buffer : List UInt8} {pc : DumpPc}
    (h : Writes s os) : Writes { s with session, buffer, pc } os :=
  ⟨h.counts.aside, h.offset, h.out⟩

/-- A step beside the recorder. -/
theorem beside_standing (h : Standing s g) (delivers : Session.Delivers s.session t g g')
    (config : t.capture.config = s.session.capture.config) :
    Standing { s with session := t } g' := by
  have ready : Ready s → Ready { s with session := t } := fun r => ⟨config ▸ r.described, r.buffer⟩
  have lent : s.session.reader.Kept t.reader → Lent s → Lent { s with session := t } :=
    fun kept l => ⟨kept.called, kept.room.trans l.room, kept.capacity.trans l.capacity⟩
  have stays : t.reader = s.session.reader → Lent s → Lent { s with session := t } :=
    fun reader l => ⟨reader ▸ l.called, reader ▸ l.room, reader ▸ l.capacity⟩
  have busy : s.session.reader.isIdle = true → s.session.reader.isIdle = false → False := by
    intro idle busy
    rw [idle] at busy
    cases busy
  cases h with
  | opened at_ idle nothing none =>
    cases delivers with
    | still reader _ outputs =>
      exact .opened at_ (reader ▸ idle) (outputs.trans nothing) none.aside
    | going b => exact (busy idle b).elim
    | hands _ _ b => exact (busy idle b).elim
  | between at_ idle r w =>
    cases delivers with
    | still reader _ outputs => exact .between at_ (reader ▸ idle) (ready r) (outputs ▸ w.aside)
    | going b => exact (busy idle b).elim
    | hands _ _ b => exact (busy idle b).elim
  | calling at_ going r l w =>
    cases delivers with
    | still reader _ outputs =>
      exact .calling at_ (reader ▸ going) (ready r) (stays reader l) (outputs ▸ w.aside)
    | going _ kept going _ outputs =>
      exact .calling at_ going (ready r) (lent kept l) (outputs ▸ w.aside)
    | hands o e _ kept returned _ outputs _ told =>
      exact .answered g.outputs o at_ returned (ready r) (lent kept l) w.aside outputs told
  | answered os o at_ returned r l w outputs told =>
    cases delivers with
    | still reader _ same =>
      exact .answered os o at_ (reader ▸ returned) (ready r) (stays reader l) w.aside
        (same.trans outputs) (reader ▸ told)
    | going b => exact (busy (returned_idle returned) b).elim
    | hands _ _ b => exact (busy (returned_idle returned) b).elim
  | closed at_ idle r c out =>
    cases delivers with
    | still reader _ outputs =>
      exact .closed at_ (reader ▸ idle) (ready r) (outputs ▸ c.aside) (outputs ▸ out)
    | going b => exact (busy idle b).elim
    | hands _ _ b => exact (busy idle b).elim

/-- One more frame in the file and in the counts. -/
theorem Writes.save {os : List (Session.Output UInt8)} {o : Session.Output UInt8} (h : Writes s os)
    (whole : o.out = s.buffer) : Writes (s.save (said o)) (os ++ [o]) := by
  have one : ∀ p : Session.Output UInt8 → Bool, (os ++ [o]).countP p =
      if p o then os.countP p + 1 else os.countP p := by
    intro p
    rw [List.countP_append, List.countP_singleton]
    split <;> rfl
  have succ : ∀ n, UInt64.ofNat (n + 1) = UInt64.ofNat n + 1 := fun n => UInt64.ofNat_add n 1
  refine ⟨⟨?_, ?_, ?_, ?_⟩, h.offset, ?_⟩
  · rw [List.length_append, List.length_singleton, succ, ← h.counts.frames]
    rfl
  · rw [one, apply_ite UInt64.ofNat, succ, ← h.counts.silent]
    rfl
  · rw [one, apply_ite UInt64.ofNat, succ, ← h.counts.gaps]
    rfl
  · rw [List.map_append, List.sum_append, List.map_singleton, List.sum_singleton, UInt64.ofNat_add,
      ← h.counts.dropped, UInt64.ofNat_uInt32ToNat]
    rfl
  · rw [List.map_append, List.map_singleton, List.foldl_concat]
    change s.out.write (s.buffer.take (frameBytes s.info)) = _
    rw [h.out, ← whole]
    rfl

theorem heed_standing {result : Int} (h : Standing s g) (at_ : s.pc = .reading)
    (returned : s.session.reader.pc = .returned result) : Standing (s.heed result) g := by
  have idle := returned_idle returned
  have elsewhere : ∀ {P : Prop} {pc : DumpPc}, s.pc = pc → pc ≠ .reading → P := by
    intro P pc there other
    exact absurd (there.symm.trans at_) other
  cases h with
  | opened there => exact elsewhere there (by rintro ⟨⟩)
  | between there =>
    obtain there | there := there
    · exact elsewhere there (by rintro ⟨⟩)
    · exact elsewhere there (by rintro ⟨⟩)
  | closed there => exact elsewhere there (by rintro ⟨⟩)
  | calling _ going ready lent writes =>
    obtain ⟨dst, given, length⟩ := Option.map_eq_some_iff.mp lent.room
    have buffer : (s.session.reader.dst.getD s.buffer).length = frameBytes s.info := by
      rw [given]
      exact length
    have done := going result returned
    unfold heed
    dsimp only
    by_cases failed : result < 0
    · rw [if_pos failed]
      exact .between (.inr rfl) idle ⟨ready.described, buffer⟩ writes.aside
    · rw [if_neg failed, if_pos (by omega)]
      exact .between (.inl rfl) idle ⟨ready.described, buffer⟩ writes.aside
  | answered os o _ one ready lent writes outputs told =>
    obtain ⟨dst, given, length⟩ := Option.map_eq_some_iff.mp lent.room
    have delivered : result = 1 := ReadPc.returned.inj (returned.symm.trans one)
    have buffer : (s.session.reader.dst.getD s.buffer).length = frameBytes s.info := by
      rw [given]
      exact length
    have whole : o.out = s.session.reader.dst.getD s.buffer := by
      rw [told.1, given]
      rfl
    have lent : Writes { s with buffer := s.session.reader.dst.getD s.buffer } os := writes.aside
    have saved := lent.save whole
    rw [← outputs] at saved
    have heeded : s.heed result =
        { s with buffer := s.session.reader.dst.getD s.buffer }.save (said o) := by
      rw [delivered, said, told.2]
      rfl
    rw [heeded]
    exact .between (.inl rfl) idle ⟨ready.described, buffer⟩ saved

end

theorem informed_beside {β : Type} {s : Session β} {l : SessionLabel β} (other : l.isCall = false) :
    Session.Informed s l := by
  cases l with
  | call args => cases other
  | _ => trivial

theorem step_standing {s t : Dump} {g : Session.Ledger UInt8} {l : DumpLabel}
    (kept : Session.Kept s.session g) (h : Standing s g) (moved : Moves s l t) :
    ∃ g', Session.Kept t.session g' ∧ Standing t g' := by
  cases moved with
  | beside l session other taken =>
    have moved := Session.step_moves taken
    exact ⟨_, Session.step_kept kept (informed_beside other) taken,
      beside_standing h (Session.moves_delivers moved other) (Session.moves_config moved)⟩
  | prepare buffer at_ whole =>
    refine ⟨g, kept, ?_⟩
    cases h with
    | opened _ idle nothing counts =>
      refine .between (.inl rfl) idle ⟨kept.described, whole⟩ ?_
      rw [nothing]
      exact ⟨counts.aside, rfl, rfl⟩
    | between there => simp only [at_, reduceCtorEq, or_self] at there
    | calling there | answered _ _ there | closed there =>
      rw [at_] at there
      cases there
  | expire at_ =>
    refine ⟨g, kept, ?_⟩
    cases h with
    | between _ idle ready writes =>
      exact .between (.inr rfl) idle ⟨ready.described, ready.buffer⟩ writes.aside
    | opened there | calling there | answered _ _ there | closed there =>
      rw [at_] at there
      cases there
  | call session at_ taken =>
    refine ⟨_, Session.step_kept (l := .call s.args) kept rfl taken, ?_⟩
    cases h with
    | between _ idle ready writes =>
      cases Session.step_moves taken with
      | call args idle =>
        refine .calling rfl (by rintro _ ⟨⟩) ⟨ready.described, ready.buffer⟩
          ⟨by rintro ⟨⟩, ?_, rfl⟩ writes.aside
        exact congrArg some ready.buffer
    | opened there | calling there | answered _ _ there | closed there =>
      rw [at_] at there
      cases there
  | answer result at_ returned =>
    refine ⟨g, ?_, heed_standing h at_ returned⟩
    have same : (s.heed result).session = s.session := by
      unfold heed
      dsimp only
      repeat' split
      all_goals rfl
    rw [same]
    exact kept
  | finish at_ =>
    refine ⟨g, kept, ?_⟩
    cases h with
    | between _ idle ready writes =>
      refine .closed rfl idle ⟨ready.described, ready.buffer⟩ writes.counts.aside ?_
      change patchSizes s.out s.dataOffset = _
      rw [writes.out, writes.offset]
      rfl
    | opened there | calling there | answered _ _ there | closed there =>
      rw [at_] at there
      cases there

theorem reach_standing {s : Dump} (run : Steps.Reach step Steps.Any Started s) :
    ∃ g, Session.Kept s.session g ∧ Standing s g := by
  apply Steps.Reach.invariant (fun s => ∃ g, Session.Kept s.session g ∧ Standing s g) ?_ ?_ run
  · rintro s ⟨session, roomy, rfl⟩
    refine ⟨{}, Session.roomy_kept roomy, .opened rfl ?_ rfl ⟨rfl, rfl, rfl, rfl⟩⟩
    obtain ⟨c, control, target, clock, _, _, rfl⟩ := roomy
    rfl
  · rintro s l t _ ⟨g, kept, standing⟩ _ taken
    exact step_standing kept standing (step_moves taken)

/-! ## What it leaves behind -/

/-- The recorder and the library mean the same by a frame. -/
theorem frameBytes_eq {config : Config} {info : FormatInfo} (described : config.DescribedBy info)
    (supported : Capture.supportedFormat config.format = true) :
    frameBytes info = config.frameBytes := by
  have sample : sampleBytes config.format = Config.bytesPerSample config.format := by
    cases at_ : config.format with
    | other value => rw [at_] at supported; cases supported
    | _ => rfl
  rw [frameBytes, described.frameSamples, described.channels, described.format, sample]
  rfl

/-- Everything handed to the recorder, one frame after the other. -/
def tape (s : Dump) : List UInt8 := (s.session.handed.map s.session.audio).flatten

section
variable {s : Dump} {g : Session.Ledger UInt8}

/-- What holds of the outputs in the ledger holds of the entries of the session. -/
theorem countP_handed (kept : Session.Kept s.session g) (p : Option FrameInfo → Bool) :
    g.outputs.countP (fun o => p o.info) = s.session.handed.countP fun e => p e.info := by
  have same := congrArg (List.countP fun e => p e.2) kept.same
  rwa [List.countP_map, List.countP_map] at same

theorem silent_handed (kept : Session.Kept s.session g) :
    g.outputs.countP (fun o => (said o).flags.has frameSilence) =
      s.session.handed.countP fun e => e.frame.isNone := by
  have same := congrArg (List.countP fun e => e.1.isNone) kept.same
  rw [List.countP_map, List.countP_map] at same
  refine Eq.trans (List.countP_congr fun o at_ => ?_) same
  have informed : o.info.isSome = true := by
    have there : (o.frame, o.info) ∈ s.session.handed.map fun e => (e.frame, e.info) := by
      rw [← kept.same]
      exact List.mem_map_of_mem at_
    obtain ⟨e, member, entry⟩ := List.mem_map.mp there
    rw [← (Prod.mk.inj entry).2]
    exact kept.informed e member
  obtain ⟨i, given⟩ := Option.isSome_iff_exists.mp informed
  have marked := ((kept.conserved.honest o at_).marked i given).1
  rw [said, given, Option.getD_some, marked]
  rfl

theorem told_handed (kept : Session.Kept s.session g) :
    (g.outputs.map fun o => (said o).droppedFrames.toNat).sum =
      (s.session.handed.map Session.told).sum := by
  have same := congrArg (List.map fun e : Option Nat × Option FrameInfo =>
    (e.2.getD ⟨0, 0, 0⟩).droppedFrames.toNat) kept.same
  rw [List.map_map, List.map_map] at same
  have each : ∀ e : Handed, (e.info.getD ⟨0, 0, 0⟩).droppedFrames.toNat = Session.told e := by
    intro e
    rw [Session.told]
    cases e.info <;> rfl
  refine (congrArg List.sum same).trans (congrArg List.sum ?_)
  exact List.map_congr_left fun e _ => each e

/-- The drops counted, the frames in the file and those still waiting are all
that were captured. -/
theorem dropped_handed (kept : Session.Kept s.session g) (counts : Counts s g.outputs)
    (idle : s.session.reader.isIdle = true) (few : s.session.captured.length < 2 ^ 32) :
    s.dropped.toNat + (s.session.handed.filterMap Handed.frame).length +
      s.session.capture.queue.dropped + s.session.capture.queue.count =
        s.session.captured.length := by
  have enough := kept.sound.enough
  have away := Session.idle_away idle
  obtain ⟨told, place⟩ := kept.numbered few
  have total := told.total
  have dropped := counts.dropped
  rw [told_handed kept] at dropped
  cases place with
  | away at_ none head =>
    unfold Session.headNumber at head
    have small : (s.session.handed.map Session.told).sum < 2 ^ 64 := by omega
    rw [dropped, UInt64.toNat_ofNat', Nat.mod_eq_of_lt small]
    omega
  | starved at_ => exact absurd away at_
  | loaded n at_ => exact absurd away at_

/-- What the file holds when the recorder is done, and what it has counted: behind
the header the frames it was handed, each a captured one or silence that is
counted as such, in the order of their capture; it is a WAV unless it is too long
for one; and the drops it has counted are the captured frames it misses. -/
theorem records_all (run : Steps.Reach step Steps.Any Started s) (closed : s.pc = .closed) :
    s.out.bytes = Wav.header (formatOf s.info) ((36 + s.tape.length) % 2 ^ 32)
      (s.tape.length % 2 ^ 32) ++ s.tape ∧
    Wav.parse s.out.bytes =
      (if fits : 36 + s.tape.length < 2 ^ 32 then some ⟨formatOf s.info, s.tape, fits⟩ else none) ∧
    s.tape.length = s.session.handed.length * s.session.capture.config.size ∧
    (∀ e ∈ s.session.handed, ∀ n, e.frame = some n → n < s.session.captured.length) ∧
    s.session.capture.config.DescribedBy s.info ∧
    (s.session.handed.filterMap Handed.frame).Pairwise (· < ·) ∧
    s.frames = .ofNat s.session.handed.length ∧
    s.silent = .ofNat (s.session.handed.countP fun e => e.frame.isNone) ∧
    s.gaps = .ofNat (s.session.handed.countP fun e =>
      (e.info.getD ⟨0, 0, 0⟩).flags.has frameDiscontinuity) ∧
    (s.session.captured.length < 2 ^ 32 →
      s.dropped.toNat + (s.session.handed.filterMap Handed.frame).length +
        s.session.capture.queue.dropped + s.session.capture.queue.count =
          s.session.captured.length) := by
  obtain ⟨g, kept, standing⟩ := reach_standing run
  cases standing with
  | opened there | calling there | answered _ _ there =>
    rw [closed] at there
    cases there
  | between there => simp only [closed, reduceCtorEq, or_self] at there
  | closed _ idle ready counts out =>
    have bytes := frameBytes_eq ready.described kept.format
    have payloads : g.outputs.map (written s.info) = s.session.handed.map s.session.audio := by
      rw [kept.audio_eq, ← bytes]
      rfl
    have outputs : g.outputs.length = s.session.handed.length := by
      have same := congrArg List.length kept.same
      rwa [List.length_map, List.length_map] at same
    have sizes : ∀ payload ∈ s.session.handed.map s.session.audio,
        payload.length = s.session.capture.config.size := by
      intro payload at_
      rw [kept.audio_eq] at at_
      obtain ⟨o, member, rfl⟩ := List.mem_map.mp at_
      obtain ⟨payload, size, out, _⟩ := (kept.conserved.honest o member).payload
      rw [out, ← size, List.take_left, size]
      exact kept.size
    refine ⟨?_, ?_, ?_, kept.recorded, ready.described, ?_, ?_, ?_, ?_,
      dropped_handed kept counts idle⟩
    · rw [out, payloads]
      exact recording_bytes s.info _
    · rw [out, payloads]
      exact parse_recording s.info _
    · rw [tape, List.length_flatten, List.map_congr_left sizes, List.map_const', List.sum_replicate,
        List.length_map]
      rfl
    · have ordered := (List.pairwise_append.mp kept.conserved.ordered).1
      have same := congrArg (List.filterMap Prod.fst) kept.same
      rw [List.filterMap_map, List.filterMap_map] at same
      exact same ▸ ordered
    · rw [counts.frames, outputs]
    · rw [counts.silent, silent_handed kept]
    · rw [counts.gaps]
      exact congrArg _ (countP_handed kept fun info =>
        (info.getD ⟨0, 0, 0⟩).flags.has frameDiscontinuity)

/-- The call in progress, and the library's own thread, always have room for the
next step. -/
theorem never_overruns (run : Steps.Reach step Steps.Any Started s) :
    (s.pc ≠ .opened → s.buffer.length = frameBytes s.info) ∧
    (s.pc = .reading → s.session.reader.isIdle = false → (s.step (.beside .read)).isSome = true) ∧
    (s.pc = .reading → s.session.reader.isIdle = true → (s.step .answer).isSome = true) ∧
    (s.session.thread.pc = .pushing → (s.step (.beside (.capture .run))).isSome = true) := by
  obtain ⟨g, kept, standing⟩ := reach_standing run
  have sized : s.session.capture.Sized :=
    ⟨kept.conserved.queue, kept.conserved.slot, kept.size⟩
  have ready : s.pc ≠ .opened → Ready s := by
    intro begun
    cases standing with
    | opened at_ => exact absurd at_ begun
    | between _ _ ready | calling _ _ ready | answered _ _ _ _ ready | closed _ _ ready =>
      exact ready
  have lent : s.pc = .reading → Lent s := by
    intro reading
    cases standing with
    | calling _ _ _ lent | answered _ _ _ _ _ lent => exact lent
    | between at_ => simp only [reading, reduceCtorEq, or_self] at at_
    | opened at_ | closed at_ =>
      rw [reading] at at_
      cases at_
  refine ⟨fun begun => (ready begun).buffer, fun reading busy => ?_, fun reading idle => ?_,
    fun pushing => ?_⟩
  · obtain ⟨described, _⟩ := ready (by rw [reading]; rintro ⟨⟩)
    obtain ⟨_, room, capacity⟩ := lent reading
    obtain ⟨dst, given, length⟩ := Option.map_eq_some_iff.mp room
    rw [frameBytes_eq described kept.format] at length
    have holds : s.session.capture.config.Holds s.session.reader.dst :=
      ⟨dst, given, Nat.le_of_eq length.symm⟩
    have provided : s.session.reader.Provided s.session.capture.config := by
      unfold Reader.Provided
      split
      · trivial
      · trivial
      · intro dst' same
        rw [given] at same
        cases same
        rw [Config.Fits, capacity, described.frameSamples, length, kept.size]
        exact Nat.le_refl _
      · exact holds
    have defined : (s.session.reader.step s.session.capture s.session.clock).isSome = true :=
      Reader.step_defined sized provided busy
    simpa only [step, SessionLabel.isCall, Session.step, Option.isSome_map, Bool.false_eq_true,
      if_false] using defined
  · cases at_ : s.session.reader.pc with
    | idle => exact absurd at_ (lent reading).called
    | returned result => simp only [step, reading, at_, Option.isSome_some]
    | _ => rw [Reader.isIdle, at_] at idle; cases idle
  · have defined : (s.session.thread.step s.session.capture s.session.clock .run).isSome = true :=
      CaptureThread.push_defined sized kept.conserved.buffer pushing
    simpa only [step, SessionLabel.isCall, Session.step, Option.isSome_map, Bool.false_eq_true,
      if_false] using defined

end

/-- One turn of the loop that waits a period for its frame. -/
def turn : List DumpLabel :=
  .test false :: Session.readFirst.tail.map .beside ++ [.answer]

/-- A captured frame, then silence a period later. -/
def brief : List DumpLabel :=
  .prepare [9, 9] :: (Session.openAttempt none ++ Session.recordFrame 5).map .beside ++ turn ++
    turn ++ [.test true, .finish]

theorem records_all_once : ∃ s : Dump, Steps.Reach step Steps.Any Started s ∧ s.pc = .closed ∧
    s.tape = [5, 5, 0, 0] ∧ (Wav.parse s.out.bytes).map Wav.data = some s.tape := by
  have ran : (Steps.exec step { session := Session.small } brief).map (fun s => (s.pc, s.tape)) =
      some (.closed, [5, 5, 0, 0]) := by decide +kernel
  obtain ⟨s, ran, seen⟩ := Option.map_eq_some_iff.mp ran
  obtain ⟨closed, tape⟩ := Prod.mk.inj seen
  have run : Steps.Reach step Steps.Any Started s :=
    .exec (.start ⟨_, Session.small_roomy, rfl⟩) (Steps.meets_any ..) ran
  have fits : 36 + s.tape.length < 2 ^ 32 := by rw [tape]; decide
  obtain ⟨_, parsed, _⟩ := records_all run closed
  refine ⟨s, run, closed, tape, ?_⟩
  rw [parsed, dif_pos fits]
  rfl

theorem never_overruns_once : ∃ s : Dump, Steps.Reach step Steps.Any Started s ∧ s.pc = .reading ∧
    (s.step (.beside .read)).isSome = true := by
  have ran : (Steps.exec step { session := Session.small } [.prepare [9, 9], .test false]).map
      (fun s => (s.pc, s.session.reader.isIdle)) = some (.reading, false) := by decide +kernel
  obtain ⟨s, ran, seen⟩ := Option.map_eq_some_iff.mp ran
  obtain ⟨reading, busy⟩ := Prod.mk.inj seen
  have run : Steps.Reach step Steps.Any Started s :=
    .exec (.start ⟨_, Session.small_roomy, rfl⟩) (Steps.meets_any ..) ran
  exact ⟨s, run, reading, (never_overruns run).2.1 reading busy⟩

end Dump
end WebAudioCapture
