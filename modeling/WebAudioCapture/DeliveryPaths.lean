import WebAudioCapture.Consumer

/-!
# The two delivery paths

A frame is handed out by the fixed-rate path or by the pass-through path. Both
pop the same frame and make the same report of it, but only the fixed-rate path
drains the pending flags when there is no info to put them in.
-/

namespace WebAudioCapture

variable {β : Type}

/-- What a report says of gaps. -/
def FrameInfo.gaps (info : FrameInfo) : FrameFlags × UInt32 := (info.flags, info.droppedFrames)

/-- The reader as a call with these arguments begins. -/
def ReadArgs.begin (args : ReadArgs β) : Reader β :=
  { pc := .entered, dst := args.dst, capacityFrames := args.capacityFrames, info := args.info
    timeoutMs := args.timeoutMs }

/-- The handle without fixed-rate output. -/
def Capture.passThrough (c : Capture β) : Capture β :=
  { c with config := { c.config with fixedRate := false } }

/-! ## A call alone on its handle -/

/-- A step of the call at a clock reading; nobody else takes any. -/
def Reader.alone [Zero β] (p : Capture β × Reader β) (now : Int) : Option (Capture β × Reader β) :=
  p.2.step p.1 now

/-- A call on `c` that delivers, and what it leaves. -/
structure Delivers [Zero β] (c : Capture β) (args : ReadArgs β) (c' : Capture β) (r : Reader β) :
    Prop where
  run : Steps.Reach Reader.alone Steps.Any (· = (c, args.begin)) (c', r)
  returned : r.pc = .returned 1

/-- The call has popped the first frame of the queue, with the drops before it. -/
def Took (c : Capture β) (args : ReadArgs β) (c' : Capture β) (r : Reader β) : Prop :=
  ∃ dst p, args.dst = some dst ∧ c.queue.pop dst = some (c'.queue, p) ∧ r.dst = some p.out ∧
    r.totalDiscarded = sizeT p.discarded

/-- The gaps a call that has these drops has to report. -/
def Capture.gapsFor (c : Capture β) (totalDiscarded : Nat) : FrameFlags × UInt32 :=
  (c.pendingFlags ||| dropFlag totalDiscarded, UInt32.ofNat totalDiscarded)

/-- What a call that delivered has done. -/
structure Done (c : Capture β) (args : ReadArgs β) (c' : Capture β) (r : Reader β) : Prop where
  took : Took c args c' r
  told : r.info.map FrameInfo.gaps = args.info.map fun _ => c.gapsFor r.totalDiscarded
  flags : c'.pendingFlags =
    if c.config.fixedRate = true ∨ args.info.isSome = true then 0 else c.pendingFlags

/-- Where a call alone on its handle stands. -/
def Standing (c : Capture β) (args : ReadArgs β) (p : Capture β × Reader β) : Prop :=
  match p.2.pc with
  | .entered | .admitted | .looping | .sleeping _ =>
    p.1.queue = c.queue ∧ p.1.pendingFlags = c.pendingFlags ∧ p.2.dst = args.dst ∧
      p.2.totalDiscarded = 0
  | .due =>
    p.1.queue = c.queue ∧ p.1.pendingFlags = c.pendingFlags ∧ p.2.dst = args.dst ∧
      p.2.totalDiscarded = 0 ∧ c.config.fixedRate = true
  | .popping _ =>
    p.1.queue = c.queue ∧ p.1.pendingFlags = c.pendingFlags ∧ p.2.dst = args.dst ∧
      p.2.totalDiscarded = 0 ∧ c.config.fixedRate = false
  | .draining result => result = 1 ∧ c.config.fixedRate = true ∧ Took c args p.1 p.2 ∧
      p.1.pendingFlags = c.pendingFlags
  | .closing flags => flags = (c.gapsFor p.2.totalDiscarded).1 ∧ c.config.fixedRate = true ∧
      Took c args p.1 p.2 ∧ p.1.pendingFlags = 0
  | .stamping | .reporting _ => args.info.isSome = true ∧ Took c args p.1 p.2 ∧
      p.1.pendingFlags = c.pendingFlags
  | .returned result => result = 1 → Done c args p.1 p.2
  | .idle | .emptyHanded => False

/-- A call alone on a handle with a frame queued, on its way. -/
structure Alone (c : Capture β) (args : ReadArgs β) (p : Capture β × Reader β) : Prop where
  config : p.1.config = c.config
  info : p.2.isIdle = false → p.2.info = args.info
  standing : Standing c args p

theorem FrameQueue.pop_some {q q' : FrameQueue β} {out : List β} {p : Popped β}
    (some : 0 < q.count) (popped : q.pop out = .some (q', p)) : p.result = 1 := by
  simp only [pop, if_neg (Nat.ne_of_gt some), Option.map_eq_some_iff] at popped
  obtain ⟨_, _, rfl, rfl⟩ := popped
  rfl

/-- The pop of a frame, with the drops before it. -/
theorem pop_took {c d d' : Capture β} {args : ReadArgs β} {r : Reader β} {p : FrameQueue.Popped β}
    (queued : 0 < c.queue.count) (same : d.queue = c.queue) (dst_eq : r.dst = args.dst)
    (none : r.totalDiscarded = 0) (popped : r.pop d = some (d', p)) (next : ReadPc) :
    ∃ queue, d' = { d with queue } ∧ p.result = 1 ∧ Took c args { d with queue } (r.keep p next) := by
  obtain ⟨dst, queue, given, taken, rfl⟩ := Reader.pop_queue popped
  rw [same] at taken
  refine ⟨queue, rfl, FrameQueue.pop_some queued taken, dst, p, dst_eq.symm.trans given, taken, rfl, ?_⟩
  simp only [Reader.keep, none, Nat.zero_add]

theorem flagsFor_one (c : Capture β) (r : Reader β) :
    r.flagsFor c 1 = (c.gapsFor r.totalDiscarded).1 := by
  simp only [Reader.flagsFor, Capture.gapsFor, silenceFlags, if_neg (show ¬(1 : Int) = 0 by decide)]
  exact BitVec.or_zero

section
variable [Zero β] {c : Capture β} {args : ReadArgs β}

theorem alone_moves {p q : Capture β × Reader β} {now : Int} (queued : 0 < c.queue.count)
    (h : Alone c args p) (stepped : Reader.alone p now = some q) : Alone c args q := by
  obtain ⟨d, r⟩ := p
  obtain ⟨d', r'⟩ := q
  obtain ⟨config, info, standing⟩ := h
  have busy := Reader.step_busy stepped
  have moved := Reader.step_moves stepped
  replace info := info busy
  have config' := (Reader.moves_config moved).trans config
  dsimp only at config info moved
  cases moved with
  | refuse status at_ refused =>
    refine ⟨config', (by rintro ⟨⟩), fun one => ?_⟩
    omega
  | accept timeoutMs at_ running given enough =>
    rw [Standing, at_] at standing
    exact ⟨config', fun _ => info, standing⟩
  | begin at_ =>
    rw [Standing, at_] at standing
    exact ⟨config', fun _ => info, standing⟩
  | wait at_ pass =>
    rw [Standing, at_] at standing
    obtain ⟨queue, flags, dst, total⟩ := standing
    exact ⟨config', fun _ => info, queue, flags, dst, total, config ▸ pass⟩
  | early next at_ fixed soon leads =>
    rw [Standing, at_] at standing
    obtain ⟨same_queue, same_flags⟩ := Session.startPacing_shared d now
    obtain ⟨queue, flags, dst, total⟩ := standing
    obtain rfl | ⟨wait, _, rfl⟩ := leads
    · exact ⟨config', (by rintro ⟨⟩), (by rintro ⟨⟩)⟩
    · exact ⟨config', fun _ => info, same_queue.trans queue, same_flags.trans flags, dst, total⟩
  | reach at_ fixed passed =>
    rw [Standing, at_] at standing
    obtain ⟨same_queue, same_flags⟩ := Session.startPacing_shared d now
    obtain ⟨queue, flags, dst, total⟩ := standing
    exact ⟨config', fun _ => info, same_queue.trans queue, same_flags.trans flags, dst, total,
      config ▸ fixed⟩
  | again at_ =>
    obtain at_ | ⟨wait, at_⟩ := at_
    · rw [Standing, at_] at standing
      exact standing.elim
    · rw [Standing, at_] at standing
      exact ⟨config', fun _ => info, standing⟩
  | expire at_ late =>
    rw [Standing, at_] at standing
    exact standing.elim
  | shut _ p at_ popped closed =>
    obtain ⟨dst, queue, given, taken, rfl⟩ := Reader.pop_queue popped
    have same : d.queue = c.queue := by
      obtain at_ | ⟨wait, at_⟩ := at_
      · rw [Standing, at_] at standing
        exact standing.1
      · rw [Standing, at_] at standing
        exact standing.1
    have one := FrameQueue.pop_some (by rw [same]; exact queued) taken
    omega
  | popWaiting _ p wait at_ popped open_ =>
    rw [Standing, at_] at standing
    obtain ⟨same, flags, dst_eq, total, pass⟩ := standing
    obtain ⟨queue, rfl, one, took⟩ := pop_took queued same dst_eq total popped (r.afterPop p.result)
    cases given : args.info with
    | none =>
      have done : r.afterPop p.result = .returned 1 := by
        simp only [Reader.afterPop, one, info, given]
        rfl
      rw [done] at took ⊢
      refine ⟨config, (by rintro ⟨⟩), fun _ => ⟨took, ?_, ?_⟩⟩
      · simp only [Reader.keep, info, given, Option.map_none]
      · rw [given, pass, if_neg (by decide)]
        exact flags
    | some asked =>
      have stamping : r.afterPop p.result = .stamping := by
        simp only [Reader.afterPop, one, info, given]
        rfl
      rw [stamping] at took ⊢
      exact ⟨config, fun _ => info, by rw [given]; rfl, took, flags⟩
  | popDue _ p at_ popped open_ =>
    rw [Standing, at_] at standing
    obtain ⟨same, flags, dst_eq, total, fixed⟩ := standing
    obtain ⟨queue, rfl, one, took⟩ :=
      pop_took queued same dst_eq total popped (.draining p.result)
    exact ⟨config, fun _ => info, one, fixed, took, flags⟩
  | drain result dst at_ filled =>
    rw [Standing, at_] at standing
    obtain ⟨rfl, fixed, took, flags⟩ := standing
    obtain rfl : dst = r.dst := by
      rw [if_neg (by decide)] at filled
      exact (congrArg Reader.dst (Option.some.inj filled)).symm
    refine ⟨config, fun _ => info, ?_, fixed, took, rfl⟩
    rw [flagsFor_one]
    exact congrArg (· ||| dropFlag r.totalDiscarded) flags
  | close flags at_ =>
    rw [Standing, at_] at standing
    obtain ⟨rfl, fixed, took, flags⟩ := standing
    refine ⟨config', (by rintro ⟨⟩), fun _ => ⟨took, ?_, ?_⟩⟩
    · simp only [Reader.finish, Reader.report, info, Option.map_map]
      rfl
    · rw [if_pos (.inl fixed)]
      exact flags
  | stamp at_ =>
    rw [Standing, at_] at standing
    exact ⟨config', fun _ => info, standing⟩
  | tell ns at_ =>
    rw [Standing, at_] at standing
    obtain ⟨asked, took, flags⟩ := standing
    refine ⟨config', (by rintro ⟨⟩), fun _ => ⟨took, ?_, ?_⟩⟩
    · have same : d.gapsFor r.totalDiscarded = c.gapsFor r.totalDiscarded := by
        simp only [Capture.gapsFor, show d.pendingFlags = c.pendingFlags from flags]
      rw [flagsFor_one, same]
      simp only [Reader.finish, Reader.report, info, Option.map_map]
      rfl
    · rw [if_pos (.inr asked)]
      rfl

theorem Delivers.done {c' : Capture β} {r : Reader β} (queued : 0 < c.queue.count)
    (h : Delivers c args c' r) : Done c args c' r := by
  have alone : Alone c args (c', r) := by
    apply Steps.Reach.invariant (Alone c args) ?_ ?_ h.run
    · rintro _ rfl
      exact ⟨rfl, fun _ => rfl, rfl, rfl, rfl, rfl⟩
    · intro p now q _ alone _ stepped
      exact alone_moves queued alone stepped
  have standing := alone.standing
  rw [Standing, h.returned] at standing
  exact standing rfl

end

/-! ## Two handles -/

/-- A fixed-rate handle and a pass-through one with the same frames and flags. -/
structure Twins (c e : Capture β) : Prop where
  fixed : c.config.fixedRate = true
  pass : e.config.fixedRate = false
  queue : c.queue = e.queue
  flags : c.pendingFlags = e.pendingFlags

theorem passThrough_twins {c : Capture β} (fixed : c.config.fixedRate = true) :
    Twins c c.passThrough := ⟨fixed, rfl, rfl, rfl⟩

/-- Two calls have written the same bytes and report the same gaps. -/
def SameFrame (r r' : Reader β) : Prop :=
  r.dst = r'.dst ∧ r.info.map FrameInfo.gaps = r'.info.map FrameInfo.gaps

/-- There is an info for the pending flags, or there are no flags. -/
def Clean (c : Capture β) (args : ReadArgs β) : Prop := args.info.isSome = true ∨ c.pendingFlags = 0

section
variable [Zero β] {c e c' e' : Capture β} {args : ReadArgs β} {r r' : Reader β}

theorem Twins.same_frame (twins : Twins c e) (queued : 0 < c.queue.count)
    (paced : Delivers c args c' r) (passed : Delivers e args e' r') :
    SameFrame r r' ∧ c'.queue = e'.queue := by
  obtain ⟨⟨dst, p, given, popped, dst_eq, total⟩, told, _⟩ := paced.done queued
  obtain ⟨⟨dst', p', given', popped', dst_eq', total'⟩, told', _⟩ :=
    passed.done (by rw [← twins.queue]; exact queued)
  rw [given] at given'
  cases given'
  rw [← twins.queue, popped] at popped'
  obtain ⟨queue, rfl⟩ := Prod.mk.inj (Option.some.inj popped')
  refine ⟨⟨dst_eq.trans dst_eq'.symm, ?_⟩, queue⟩
  rw [told, told', total, total', Capture.gapsFor, Capture.gapsFor, twins.flags]

/-- The flags the two calls leave are the same exactly when the call was clean. -/
theorem Twins.flags_iff (twins : Twins c e) (queued : 0 < c.queue.count)
    (paced : Delivers c args c' r) (passed : Delivers e args e' r') :
    c'.pendingFlags = e'.pendingFlags ↔ Clean c args := by
  have drained := (paced.done queued).flags
  have kept := (passed.done (by rw [← twins.queue]; exact queued)).flags
  rw [if_pos (.inl twins.fixed)] at drained
  rw [twins.pass, ← twins.flags] at kept
  rw [drained, kept, Clean]
  by_cases asked : args.info.isSome = true
  · simp only [asked, or_true, if_true, true_or]
  · simp only [asked, or_self, if_false, false_or, Bool.false_eq_true]
    exact eq_comm

theorem Delivers.config (h : Delivers c args c' r) : c'.config = c.config := by
  apply Steps.Reach.invariant (fun p : Capture β × Reader β => p.1.config = c.config) ?_ ?_ h.run
  · rintro _ rfl
    rfl
  · intro p now q _ same _ stepped
    exact (Reader.moves_config (Reader.step_moves stepped)).trans same

theorem Twins.after (twins : Twins c e) (queued : 0 < c.queue.count) (clean : Clean c args)
    (paced : Delivers c args c' r) (passed : Delivers e args e' r') : Twins c' e' where
  fixed := by rw [paced.config]; exact twins.fixed
  pass := by rw [passed.config]; exact twins.pass
  queue := (twins.same_frame queued paced passed).2
  flags := (twins.flags_iff queued paced passed).mpr clean

end

/-- Two handles after the same frames, the same failures and the same calls,
each of which delivered in both, with the calls. -/
inductive Successive [Zero β] (c e : Capture β) :
    Capture β → Capture β → List (Reader β × Reader β) → Prop
  | start : Successive c e c e []
  | push {d f d' f' log} (frame : List β) : Successive c e d f log →
      d.pushFrame frame = some d' → f.pushFrame frame = some f' → Successive c e d' f' log
  | raise {d f log} : Successive c e d f log → Successive c e d.raiseReopen f.raiseReopen log
  | read {d f d' f' log r r'} (args : ReadArgs β) : Successive c e d f log →
      0 < d.queue.count → Clean d args → Delivers d args d' r → Delivers f args f' r' →
      Successive c e d' f' (log ++ [(r, r')])

theorem Twins.push {c e c' e' : Capture β} {frame : List β} (twins : Twins c e)
    (pushed : c.pushFrame frame = some c') (pushed' : e.pushFrame frame = some e') :
    Twins c' e' := by
  simp only [Capture.pushFrame, Option.map_eq_some_iff] at pushed pushed'
  obtain ⟨⟨queue, _⟩, took, rfl⟩ := pushed
  obtain ⟨⟨queue', _⟩, took', rfl⟩ := pushed'
  rw [← twins.queue, took] at took'
  cases took'
  exact ⟨twins.fixed, twins.pass, rfl, twins.flags⟩

theorem Twins.raise {c e : Capture β} (twins : Twins c e) : Twins c.raiseReopen e.raiseReopen := by
  refine ⟨twins.fixed, twins.pass, twins.queue, ?_⟩
  simp only [Capture.raiseReopen, twins.flags]

theorem Successive.twins [Zero β] {c e d f : Capture β} {log : List (Reader β × Reader β)}
    (twins : Twins c e) (run : Successive c e d f log) :
    Twins d f ∧ ∀ p ∈ log, SameFrame p.1 p.2 := by
  induction run with
  | start => exact ⟨twins, by rintro _ ⟨⟩⟩
  | push frame _ pushed pushed' ih => exact ⟨ih.1.push pushed pushed', ih.2⟩
  | raise _ ih => exact ⟨ih.1.raise, ih.2⟩
  | read args _ queued clean paced passed ih =>
    refine ⟨ih.1.after queued clean paced passed, fun p at_ => ?_⟩
    obtain old | new := List.mem_append.mp at_
    · exact ih.2 p old
    · rw [List.mem_singleton.mp new]
      exact (ih.1.same_frame queued paced passed).1

/-- Two calls that deliver a frame write the same bytes, report the same gaps
and leave the same queue, and they leave the same flags exactly when there was an
info for them or there were none. As long as every call is like that, all
reports of the two handles are the same. -/
theorem delivery_paths_agree_iff [Zero β] {c e : Capture β} (twins : Twins c e) :
    (∀ args c' r e' r', 0 < c.queue.count → Delivers c args c' r → Delivers e args e' r' →
      (SameFrame r r' ∧ c'.queue = e'.queue ∧ c'.pendingFlags = e'.pendingFlags ↔ Clean c args)) ∧
    ∀ d f log, Successive c e d f log → ∀ p ∈ log, SameFrame p.1 p.2 := by
  refine ⟨fun args c' r e' r' queued paced passed => ?_, fun d f log run => (run.twins twins).2⟩
  obtain ⟨same, queue⟩ := twins.same_frame queued paced passed
  rw [← twins.flags_iff queued paced passed]
  exact ⟨fun agree => agree.2.2, fun flags => ⟨same, queue, flags⟩⟩

/-- The small handle after a failure, with two frames queued and one due. -/
def twoFrames : Capture UInt8 :=
  { smallHandle with
    running := true, pendingFlags := reopenFlags, deadlineValid := true
    queue := { smallHandle.queue with storage := [1, 1, 2, 2], count := 2 } }

def unfilled : FrameInfo := ⟨0, 0, 0⟩

/-- A call for one frame. -/
def oneFrame (info : Option FrameInfo) : ReadArgs UInt8 :=
  { dst := some [7, 7], capacityFrames := 1, info, timeoutMs := 1000 }

theorem delivers_of {c c' : Capture UInt8} {args : ReadArgs UInt8} {r : Reader UInt8}
    (readings : List Int) (returned : r.pc = .returned 1)
    (run : Steps.exec Reader.alone (c, args.begin) readings = some (c', r)) :
    Delivers c args c' r :=
  ⟨Steps.Reach.exec (.start rfl) (Steps.meets_any _ _ _) run, returned⟩

/-- With an info both report the reopen. -/
theorem delivery_paths_agree_informed : ∃ c' r e' r',
    Delivers twoFrames (oneFrame (some unfilled)) c' r ∧
    Delivers twoFrames.passThrough (oneFrame (some unfilled)) e' r' ∧
    (r.info.map FrameInfo.gaps, c'.pendingFlags) = (some (reopenFlags, 0), 0) ∧
    SameFrame r r' ∧ c'.queue = e'.queue ∧ c'.pendingFlags = e'.pendingFlags := by
  obtain ⟨c', r, e', r', run, run', returned, returned', told⟩ : ∃ c' r e' r',
      Steps.exec Reader.alone (twoFrames, (oneFrame (some unfilled)).begin) [0, 0, 0, 0, 0, 0] =
        some (c', r) ∧
      Steps.exec Reader.alone (twoFrames.passThrough, (oneFrame (some unfilled)).begin)
        [0, 0, 0, 0, 0, 0] = some (e', r') ∧
      r.pc = .returned 1 ∧ r'.pc = .returned 1 ∧
      (r.info.map FrameInfo.gaps, c'.pendingFlags) = (some (reopenFlags, 0), 0) :=
    ⟨_, _, _, _, rfl, rfl, rfl, rfl, rfl⟩
  have paced := delivers_of _ returned run
  have passed := delivers_of _ returned' run'
  have agree := (delivery_paths_agree_iff (passThrough_twins rfl)).1 (oneFrame (some unfilled))
    c' r e' r' (by decide) paced passed
  exact ⟨c', r, e', r', paced, passed, told, agree.mpr (.inl rfl)⟩

/-- Without one, only the pass-through path reports the reopen with the next frame. -/
theorem flags_lost : ∃ c' r e' r' c'' s e'' s',
    Delivers twoFrames (oneFrame none) c' r ∧
    Delivers twoFrames.passThrough (oneFrame none) e' r' ∧
    c'.pendingFlags = 0 ∧ e'.pendingFlags = reopenFlags ∧
    Delivers c' (oneFrame (some unfilled)) c'' s ∧ Delivers e' (oneFrame (some unfilled)) e'' s' ∧
    s.info.map FrameInfo.gaps = some (0, 0) ∧ s'.info.map FrameInfo.gaps = some (reopenFlags, 0) := by
  obtain ⟨c', r, e', r', c'', s, e'', s', run, run', next, next', rest⟩ : ∃ c' r e' r' c'' s e'' s',
      Steps.exec Reader.alone (twoFrames, (oneFrame none).begin) [0, 0, 0, 0, 0, 0] =
        some (c', r) ∧
      Steps.exec Reader.alone (twoFrames.passThrough, (oneFrame none).begin) [0, 0, 0, 0] =
        some (e', r') ∧
      Steps.exec Reader.alone (c', (oneFrame (some unfilled)).begin)
        [20000, 20000, 20000, 20000, 20000, 20000] = some (c'', s) ∧
      Steps.exec Reader.alone (e', (oneFrame (some unfilled)).begin)
        [20000, 20000, 20000, 20000, 20000, 20000] = some (e'', s') ∧
      r.pc = .returned 1 ∧ r'.pc = .returned 1 ∧ s.pc = .returned 1 ∧ s'.pc = .returned 1 ∧
      c'.pendingFlags = 0 ∧ e'.pendingFlags = reopenFlags ∧
      s.info.map FrameInfo.gaps = some (0, 0) ∧
      s'.info.map FrameInfo.gaps = some (reopenFlags, 0) :=
    ⟨_, _, _, _, _, _, _, _, rfl, rfl, rfl, rfl, rfl, rfl, rfl, rfl, rfl, rfl, rfl, rfl⟩
  obtain ⟨done, done', done_next, done_next', drained, kept, silent, told⟩ := rest
  exact ⟨c', r, e', r', c'', s, e'', s', delivers_of _ done run, delivers_of _ done' run', drained,
    kept, delivers_of _ done_next next, delivers_of _ done_next' next', silent, told⟩

end WebAudioCapture
