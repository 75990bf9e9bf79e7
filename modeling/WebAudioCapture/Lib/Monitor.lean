import Mathlib.Data.Fintype.Basic
import Mathlib.Logic.Function.Basic
import WebAudioCapture.Lib.Steps

/-!
# Condition variables

A state behind a mutex and a condition variable. A waiter evaluates its
predicate with the lock held, and lets the lock go as it registers. A writer
changes the state, under the lock or not, and notifies after that. A registered
waiter may also wake by itself, or because its time is up.
-/

namespace Monitor

/-- Which of the registered waiters a notification wakes. -/
inductive Wake where
  | none
  | one
  | all
  deriving DecidableEq, Repr

/-- What waiters `ω` wait for and do with the lock once their wait is over, and
what operations `ι` do to a state `σ`. -/
structure Design (σ ω ι α : Type) where
  awaits : ω → σ → Bool
  leave : ω → α → σ → Option σ
  change : ι → σ → Option σ
  locked : ι → Bool
  wakes : ι → σ → Wake

/-- Where a waiter stands. The lock is held while `testing`, `registering` and
`leaving`; `late` says that its time is up. -/
inductive Place where
  | away
  | contending (late : Bool)
  | testing (late : Bool)
  | registering
  | blocked
  | leaving
  deriving DecidableEq, Repr

/-- Where a writer stands. -/
inductive Work (ι : Type) where
  | idle
  | inside (op : ι)
  | notifying (wake : Wake)
  deriving DecidableEq, Repr

structure State (σ ω κ ι : Type) where
  data : σ
  lock : Option (ω ⊕ κ) := none
  waiter : ω → Place := fun _ => .away
  writer : κ → Work ι := fun _ => .idle

/-- `stir` is a wake-up by itself, `expire` the end of the waiter's time. -/
inductive Label (ω κ ι α : Type) where
  | enter (w : ω)
  | take (w : ω)
  | test (w : ω)
  | register (w : ω)
  | stir (w : ω)
  | expire (w : ω)
  | leave (w : ω) (arg : α)
  | begin (k : κ) (op : ι)
  | change (k : κ)
  | notify (k : κ) (chosen : Option ω)

namespace Place

def holds : Place → Bool
  | .testing _ | .registering | .leaving => true
  | _ => false

def notified : Place → Place
  | .blocked => .contending false
  | p => p

theorem notified_blocked (p : Place) : p.notified ≠ .blocked := by
  cases p <;> rintro ⟨⟩

theorem notified_of_unregistered {p : Place} (h : p ≠ .blocked) : p.notified = p := by
  cases p with
  | blocked => exact absurd rfl h
  | _ => rfl

theorem notified_holds (p : Place) : p.notified.holds = p.holds := by
  cases p <;> rfl

theorem notified_registering {p : Place} (h : p.notified = .registering) : p = .registering := by
  cases p with
  | registering => rfl
  | _ => cases h

end Place

section
variable {σ ω κ ι α : Type} [DecidableEq ω] [DecidableEq κ]

namespace State

def moveTo (s : State σ ω κ ι) (w : ω) (p : Place) : State σ ω κ ι :=
  { s with waiter := Function.update s.waiter w p }

def workAt (s : State σ ω κ ι) (k : κ) (work : Work ι) : State σ ω κ ι :=
  { s with writer := Function.update s.writer k work }

/-- A notification that reaches the chosen waiters. -/
def notify (s : State σ ω κ ι) (reaches : ω → Bool) : State σ ω κ ι :=
  { s with waiter := fun w => if reaches w then (s.waiter w).notified else s.waiter w }

/-- A notification may choose this waiter, or nobody if nobody is registered. -/
def Chooses (s : State σ ω κ ι) (wake : Wake) (chosen : Option ω) : Prop :=
  match wake, chosen with
  | .one, some w => s.waiter w = .blocked
  | .one, none => ∀ w, s.waiter w ≠ .blocked
  | _, chosen => chosen = none

instance [Fintype ω] (s : State σ ω κ ι) (wake : Wake) (chosen : Option ω) :
    Decidable (s.Chooses wake chosen) := by
  unfold Chooses
  split <;> infer_instance

end State

def Wake.reaches (wake : Wake) (chosen : Option ω) (w : ω) : Bool :=
  match wake with
  | .none => false
  | .one => chosen == some w
  | .all => true

variable (d : Design σ ω ι α)

def step [Fintype ω] (s : State σ ω κ ι) : Label ω κ ι α → Option (State σ ω κ ι)
  | .enter w => if s.waiter w = .away then some (s.moveTo w (.contending false)) else none
  | .take w =>
    match s.waiter w, s.lock with
    | .contending late, none => some { s.moveTo w (.testing late) with lock := some (.inl w) }
    | _, _ => none
  | .test w =>
    match s.waiter w with
    | .testing late =>
      some (s.moveTo w (if d.awaits w s.data || late then .leaving else .registering))
    | _ => none
  | .register w =>
    if s.waiter w = .registering then some { s.moveTo w .blocked with lock := none } else none
  | .stir w => if s.waiter w = .blocked then some (s.moveTo w (.contending false)) else none
  | .expire w => if s.waiter w = .blocked then some (s.moveTo w (.contending true)) else none
  | .leave w arg =>
    if s.waiter w = .leaving then
      (d.leave w arg s.data).map fun data => { s.moveTo w .away with data, lock := none }
    else none
  | .begin k op =>
    match s.writer k, d.locked op, s.lock with
    | .idle, false, _ => some (s.workAt k (.inside op))
    | .idle, true, none => some { s.workAt k (.inside op) with lock := some (.inr k) }
    | _, _, _ => none
  | .change k =>
    match s.writer k with
    | .inside op =>
      (d.change op s.data).map fun data =>
        { s.workAt k (.notifying (d.wakes op s.data)) with
          data
          lock := if d.locked op then none else s.lock }
    | _ => none
  | .notify k chosen =>
    match s.writer k with
    | .notifying wake =>
      if s.Chooses wake chosen then some ((s.workAt k .idle).notify (wake.reaches chosen)) else none
    | _ => none

/-- Nobody waits, works or holds the lock. -/
def Quiet (s : State σ ω κ ι) : Prop :=
  s.lock = none ∧ (∀ w, s.waiter w = .away) ∧ ∀ k, s.writer k = .idle

/-! ## What a step can do -/

inductive Moves (s : State σ ω κ ι) : Label ω κ ι α → State σ ω κ ι → Prop
  | enter (w : ω) (at_ : s.waiter w = .away) :
      Moves s (.enter w) (s.moveTo w (.contending false))
  | take (w : ω) (late : Bool) (at_ : s.waiter w = .contending late) (free : s.lock = none) :
      Moves s (.take w) { s.moveTo w (.testing late) with lock := some (.inl w) }
  | found (w : ω) (late : Bool) (at_ : s.waiter w = .testing late)
      (over_ : (d.awaits w s.data || late) = true) : Moves s (.test w) (s.moveTo w .leaving)
  | missed (w : ω) (late : Bool) (at_ : s.waiter w = .testing late)
      (unmet : d.awaits w s.data = false) : Moves s (.test w) (s.moveTo w .registering)
  | register (w : ω) (at_ : s.waiter w = .registering) :
      Moves s (.register w) { s.moveTo w .blocked with lock := none }
  | stir (w : ω) (at_ : s.waiter w = .blocked) :
      Moves s (.stir w) (s.moveTo w (.contending false))
  | expire (w : ω) (at_ : s.waiter w = .blocked) :
      Moves s (.expire w) (s.moveTo w (.contending true))
  | leave (w : ω) (arg : α) (data : σ) (at_ : s.waiter w = .leaving)
      (left : d.leave w arg s.data = some data) :
      Moves s (.leave w arg) { s.moveTo w .away with data, lock := none }
  | begin (k : κ) (op : ι) (lock : Option (ω ⊕ κ)) (at_ : s.writer k = .idle)
      (takes : d.locked op = false ∧ lock = s.lock ∨
        d.locked op = true ∧ s.lock = none ∧ lock = some (.inr k)) :
      Moves s (.begin k op) { s.workAt k (.inside op) with lock }
  | change (k : κ) (op : ι) (data : σ) (at_ : s.writer k = .inside op)
      (changed : d.change op s.data = some data) :
      Moves s (.change k)
        { s.workAt k (.notifying (d.wakes op s.data)) with
          data
          lock := if d.locked op then none else s.lock }
  | notify (k : κ) (wake : Wake) (chosen : Option ω) (at_ : s.writer k = .notifying wake)
      (chooses : s.Chooses wake chosen) :
      Moves s (.notify k chosen) ((s.workAt k .idle).notify (wake.reaches chosen))

theorem step_moves [Fintype ω] {s t : State σ ω κ ι} {l : Label ω κ ι α}
    (taken : step d s l = some t) : Moves d s l t := by
  unfold step at taken
  split at taken
  · split at taken
    · rename_i w at_
      cases taken
      exact .enter w at_
    · cases taken
  · split at taken
    · rename_i w _ _ late at_ free
      cases taken
      exact .take w late at_ free
    · cases taken
  · split at taken
    · rename_i w _ late at_
      cases taken
      cases over_ : d.awaits w s.data || late with
      | true => exact .found w late at_ over_
      | false => exact .missed w late at_ (Bool.or_eq_false_iff.mp over_).1
    · cases taken
  · split at taken
    · rename_i w at_
      cases taken
      exact .register w at_
    · cases taken
  · split at taken
    · rename_i w at_
      cases taken
      exact .stir w at_
    · cases taken
  · split at taken
    · rename_i w at_
      cases taken
      exact .expire w at_
    · cases taken
  · split at taken
    · rename_i w arg at_
      obtain ⟨data, left, rfl⟩ := Option.map_eq_some_iff.mp taken
      exact .leave w arg data at_ left
    · cases taken
  · split at taken
    · rename_i k op _ _ _ at_ unlocked
      cases taken
      exact .begin k op s.lock at_ (.inl ⟨unlocked, rfl⟩)
    · rename_i k op _ _ _ at_ locked free
      cases taken
      exact .begin k op _ at_ (.inr ⟨locked, free, rfl⟩)
    · cases taken
  · split at taken
    · rename_i k _ op at_
      obtain ⟨data, changed, rfl⟩ := Option.map_eq_some_iff.mp taken
      exact .change k op data at_ changed
    · cases taken
  · split at taken
    · rename_i k chosen _ wake at_
      split at taken
      · rename_i chooses
        cases taken
        exact .notify k wake chosen at_ chooses
      · cases taken
    · cases taken

/-! ## Who holds the lock -/

/-- Inside an operation that is done under the lock. -/
def Inside (s : State σ ω κ ι) (k : κ) : Prop := ∃ op, s.writer k = .inside op ∧ d.locked op = true

/-- Whoever is where the lock is held holds it. -/
structure Exclusive (s : State σ ω κ ι) : Prop where
  waiter : ∀ w, (s.waiter w).holds = true → s.lock = some (.inl w)
  writer : ∀ k, Inside d s k → s.lock = some (.inr k)

variable {d} {s t : State σ ω κ ι} {w : ω} {k : κ}

omit [DecidableEq ω] [DecidableEq κ] in
theorem Quiet.exclusive (h : Quiet s) : Exclusive d s := by
  constructor
  · intro w holds
    rw [h.2.1 w] at holds
    cases holds
  · rintro k ⟨op, inside, _⟩
    rw [h.2.2 k] at inside
    cases inside

omit [DecidableEq κ] in
/-- The others, when one waiter moves. -/
theorem moveTo_waiter (s : State σ ω κ ι) (w : ω) (p : Place) (v : ω) :
    (s.moveTo w p).waiter v = if v = w then p else s.waiter v := by
  simp only [State.moveTo, Function.update_apply]

omit [DecidableEq ω] in
theorem workAt_writer (s : State σ ω κ ι) (k : κ) (work : Work ι) (j : κ) :
    (s.workAt k work).writer j = if j = k then work else s.writer j := by
  simp only [State.workAt, Function.update_apply]

omit [DecidableEq κ] in
/-- A waiter that gets the lock, keeps it or lets it go. -/
theorem Exclusive.move (h : Exclusive d s) {p : Place} {lock : Option (ω ⊕ κ)} {data : σ}
    (own : p.holds = true → lock = some (.inl w))
    (others : lock = s.lock ∨ s.lock = none ∨ s.lock = some (.inl w)) :
    Exclusive d { s.moveTo w p with lock, data } := by
  constructor
  · intro v holds
    simp only [moveTo_waiter] at holds
    split at holds
    · rename_i same
      rw [same]
      exact own holds
    · rename_i other
      have held := h.waiter v holds
      obtain same | free | mine := others
      · exact same.trans held
      · rw [held] at free; cases free
      · rw [held] at mine; cases mine; exact absurd rfl other
  · intro j inside
    have held := h.writer j inside
    obtain same | free | mine := others
    · exact same.trans held
    · rw [held] at free; cases free
    · rw [held] at mine; cases mine

omit [DecidableEq ω] in
/-- A writer that gets the lock, keeps it or lets it go. -/
theorem Exclusive.work (h : Exclusive d s) {work : Work ι} {lock : Option (ω ⊕ κ)} {data : σ}
    (own : ∀ op, work = .inside op → d.locked op = true → lock = some (.inr k))
    (others : lock = s.lock ∨ s.lock = none ∨ s.lock = some (.inr k)) :
    Exclusive d { s.workAt k work with lock, data } := by
  constructor
  · intro v holds
    have held := h.waiter v holds
    obtain same | free | mine := others
    · exact same.trans held
    · rw [held] at free; cases free
    · rw [held] at mine; cases mine
  · rintro j ⟨op, inside, locked⟩
    simp only [workAt_writer] at inside
    split at inside
    · rename_i same
      rw [same]
      exact own op inside locked
    · rename_i other
      have held := h.writer j ⟨op, inside, locked⟩
      obtain same | free | mine := others
      · exact same.trans held
      · rw [held] at free; cases free
      · rw [held] at mine; cases mine; exact absurd rfl other

theorem step_exclusive {l : Label ω κ ι α} (h : Exclusive d s) (moved : Moves d s l t) :
    Exclusive d t := by
  cases moved with
  | enter w at_ => exact h.move (by rintro ⟨⟩) (.inl rfl)
  | take w late at_ free => exact h.move (fun _ => rfl) (.inr (.inl free))
  | found w late at_ over_ => exact h.move (fun _ => h.waiter w (at_ ▸ rfl)) (.inl rfl)
  | missed w late at_ unmet => exact h.move (fun _ => h.waiter w (at_ ▸ rfl)) (.inl rfl)
  | register w at_ => exact h.move (by rintro ⟨⟩) (.inr (.inr (h.waiter w (at_ ▸ rfl))))
  | stir w at_ => exact h.move (by rintro ⟨⟩) (.inl rfl)
  | expire w at_ => exact h.move (by rintro ⟨⟩) (.inl rfl)
  | leave w arg data at_ left =>
    exact h.move (by rintro ⟨⟩) (.inr (.inr (h.waiter w (at_ ▸ rfl))))
  | begin k op lock at_ takes =>
    obtain ⟨unlocked, rfl⟩ | ⟨locked, free, rfl⟩ := takes
    · refine h.work ?_ (.inl rfl)
      rintro op' ⟨⟩ locked
      rw [unlocked] at locked
      cases locked
    · exact h.work (fun _ _ _ => rfl) (.inr (.inl free))
  | change k op data at_ changed =>
    refine h.work (by rintro op' ⟨⟩) ?_
    split
    · rename_i locked
      exact .inr (.inr (h.writer k ⟨op, at_, locked⟩))
    · exact .inl rfl
  | notify k wake chosen at_ chooses =>
    have idle : Exclusive d (s.workAt k .idle) := h.work (by rintro op' ⟨⟩) (.inl rfl)
    refine ⟨fun v holds => idle.waiter v ?_, idle.writer⟩
    dsimp only [State.notify] at holds
    split at holds
    · rwa [Place.notified_holds] at holds
    · exact holds

/-! ## Wake-ups are not lost -/

/-- A notification that wakes `w` whoever it chooses. -/
def Wake.Rouses (wake : Wake) (w : ω) : Prop := wake = .all ∨ wake = .one ∧ ∀ v : ω, v = w

/-- Nothing makes the predicate of `w` true but operations done under the lock
that then wake `w`. -/
structure Guarded (d : Design σ ω ι α) (w : ω) : Prop where
  change : ∀ op x y, d.change op x = some y → d.awaits w x = false → d.awaits w y = true →
    d.locked op = true ∧ (d.wakes op x).Rouses w
  leave : ∀ v arg x y, d.leave v arg x = some y → d.awaits w y = true → d.awaits w x = true

/-- A writer is about to notify, and its notification wakes `w`. -/
def Summoned (s : State σ ω κ ι) (w : ω) : Prop :=
  ∃ k wake, s.writer k = .notifying wake ∧ wake.Rouses w

/-- What `w` finds out of a predicate that has become true. -/
structure Heard (d : Design σ ω ι α) (s : State σ ω κ ι) (w : ω) : Prop where
  registering : s.waiter w = .registering → d.awaits w s.data = false
  blocked : s.waiter w = .blocked → d.awaits w s.data = true → Summoned s w

omit [DecidableEq ω] [DecidableEq κ] in
theorem Quiet.heard (h : Quiet s) (w : ω) : Heard d s w := by
  constructor
  · intro at_
    rw [h.2.1 w] at at_
    cases at_
  · intro at_
    rw [h.2.1 w] at at_
    cases at_

omit [DecidableEq κ] in
/-- The others' moves leave `w` as it was. -/
theorem Heard.move (h : Heard d s w) {v : ω} {p : Place} {lock : Option (ω ⊕ κ)} {data : σ}
    (same : d.awaits w data = true → d.awaits w s.data = true)
    (own : v = w → p ≠ .registering ∧ p ≠ .blocked) :
    Heard d { s.moveTo v p with lock, data } w := by
  constructor
  · intro at_
    simp only [moveTo_waiter] at at_
    split at at_
    · rename_i mine
      exact absurd at_ (own mine.symm).1
    · cases found : d.awaits w data with
      | false => rfl
      | true => exact (same found).symm.trans (h.registering at_)
  · intro at_ found
    simp only [moveTo_waiter] at at_
    split at at_
    · rename_i mine
      exact absurd at_ (own mine.symm).2
    · exact h.blocked at_ (same found)

omit [DecidableEq ω] in
theorem Summoned.work (h : Summoned s w) {work : Work ι} {lock : Option (ω ⊕ κ)} {data : σ}
    (quiet : ∀ wake, s.writer k ≠ .notifying wake) :
    Summoned { s.workAt k work with lock, data } w := by
  obtain ⟨j, wake, at_, rouses⟩ := h
  refine ⟨j, wake, ?_, rouses⟩
  simp only [workAt_writer]
  rw [if_neg, at_]
  rintro rfl
  exact quiet wake at_

/-- A notification that leaves `w` registered was not the one it waits for. -/
theorem Summoned.notify {wake : Wake} {chosen : Option ω} (h : Summoned s w)
    (at_ : s.writer k = .notifying wake) (chooses : s.Chooses wake chosen)
    (blocked : s.waiter w = .blocked) (left : wake.reaches chosen w = false) :
    Summoned ((s.workAt k .idle).notify (wake.reaches chosen)) w := by
  obtain ⟨j, wake', at_', rouses⟩ := h
  by_cases same : j = k
  · subst same
    rw [at_] at at_'
    cases at_'
    obtain rfl | ⟨rfl, only⟩ := rouses
    · cases left
    · cases chosen with
      | none => exact absurd blocked (chooses w)
      | some v =>
        rw [only v] at left
        simp only [Wake.reaches, beq_self_eq_true, Bool.true_eq_false] at left
  · refine ⟨j, wake', ?_, rouses⟩
    simp only [State.notify, workAt_writer, if_neg same, at_']

theorem step_heard {l : Label ω κ ι α} (guarded : Guarded d w) (exclusive : Exclusive d s)
    (h : Heard d s w) (moved : Moves d s l t) : Heard d t w := by
  cases moved with
  | enter v at_ => exact h.move id fun _ => ⟨by rintro ⟨⟩, by rintro ⟨⟩⟩
  | take v late at_ free => exact h.move id fun _ => ⟨by rintro ⟨⟩, by rintro ⟨⟩⟩
  | found v late at_ over_ => exact h.move id fun _ => ⟨by rintro ⟨⟩, by rintro ⟨⟩⟩
  | missed v late at_ unmet =>
    by_cases same : v = w
    · subst same
      refine ⟨fun _ => unmet, fun _ found => ?_⟩
      exact absurd (unmet.symm.trans found) Bool.false_ne_true
    · exact h.move id fun mine => absurd mine same
  | register v at_ =>
    by_cases same : v = w
    · subst same
      have unmet := h.registering at_
      refine ⟨fun _ => unmet, fun _ found => ?_⟩
      exact absurd (unmet.symm.trans found) Bool.false_ne_true
    · exact h.move id fun mine => absurd mine same
  | stir v at_ => exact h.move id fun _ => ⟨by rintro ⟨⟩, by rintro ⟨⟩⟩
  | expire v at_ => exact h.move id fun _ => ⟨by rintro ⟨⟩, by rintro ⟨⟩⟩
  | leave v arg data at_ left =>
    exact h.move (guarded.leave v arg _ _ left) fun _ => ⟨by rintro ⟨⟩, by rintro ⟨⟩⟩
  | begin k op lock at_ takes =>
    refine ⟨h.registering, fun at_' found => (h.blocked at_' found).work ?_⟩
    intro wake notifying
    rw [at_] at notifying
    cases notifying
  | change k op data at_ changed =>
    have inside : ∀ wake, s.writer k ≠ .notifying wake := by
      intro wake notifying
      rw [at_] at notifying
      cases notifying
    constructor
    · intro registering
      cases found : d.awaits w data with
      | false => rfl
      | true =>
        -- a change that `w` waits for holds the lock, and so does `w`
        have unmet := h.registering registering
        obtain ⟨locked, _⟩ := guarded.change op _ _ changed unmet found
        have theirs := exclusive.writer k ⟨op, at_, locked⟩
        have holds : (s.waiter w).holds = true := by
          rw [show s.waiter w = .registering from registering]; rfl
        have mine := exclusive.waiter w holds
        rw [theirs] at mine
        cases mine
    · intro blocked found
      cases before : d.awaits w s.data with
      | true => exact (h.blocked blocked before).work inside
      | false =>
        obtain ⟨_, rouses⟩ := guarded.change op _ _ changed before found
        exact ⟨k, _, by simp only [workAt_writer, if_true], rouses⟩
  | notify k wake chosen at_ chooses =>
    constructor
    · intro registering
      dsimp only [State.notify] at registering
      split at registering
      · exact h.registering (Place.notified_registering registering)
      · exact h.registering registering
    · intro blocked found
      dsimp only [State.notify] at blocked
      split at blocked
      · exact absurd blocked (Place.notified_blocked _)
      · rename_i left
        exact (h.blocked blocked found).notify at_ chooses blocked (Bool.eq_false_iff.mpr left)

variable [Fintype ω]

/-- A guarded waiter never sleeps through what it waits for: if it is registered
while its predicate holds, a notification that wakes it is on its way. -/
theorem Guarded.summoned (guarded : Guarded d w) {ok : State σ ω κ ι → Label ω κ ι α → Prop}
    (run : Steps.Reach (step d) ok Quiet s) (blocked : s.waiter w = .blocked)
    (found : d.awaits w s.data = true) : Summoned s w := by
  have both : Exclusive d s ∧ Heard d s w := by
    apply Steps.Reach.invariant (fun s => Exclusive d s ∧ Heard d s w) ?_ ?_ run
    · intro s quiet
      exact ⟨quiet.exclusive, quiet.heard w⟩
    · intro s l t _ ⟨exclusive, heard⟩ _ taken
      have moved := step_moves d taken
      exact ⟨step_exclusive exclusive moved, step_heard guarded exclusive heard moved⟩
  exact both.2.blocked blocked found

/-- A writer can notify at once, and once it has, `w` is awake. -/
def Awaking (d : Design σ ω ι α) (s : State σ ω κ ι) (w : ω) : Prop :=
  ∃ k, (∃ chosen t, step d s (.notify k chosen) = some t) ∧
    ∀ chosen t, step d s (.notify k chosen) = some t → t.waiter w = .contending false

theorem Summoned.awaking (h : Summoned s w) (blocked : s.waiter w = .blocked) : Awaking d s w := by
  obtain ⟨k, wake, at_, rouses⟩ := h
  refine ⟨k, ?_, ?_⟩
  · obtain rfl | ⟨rfl, only⟩ := rouses
    · exact ⟨none, _, by simp only [step, at_, State.Chooses, if_true]; rfl⟩
    · exact ⟨some w, _, by simp only [step, at_, State.Chooses, blocked, if_true]; rfl⟩
  · intro chosen t taken
    simp only [step, at_] at taken
    split at taken
    · rename_i chooses
      cases taken
      have reached : wake.reaches chosen w = true := by
        obtain rfl | ⟨rfl, only⟩ := rouses
        · rfl
        · cases chosen with
          | none => exact absurd blocked (chooses w)
          | some v => rw [only v]; exact beq_self_eq_true _
      simp only [State.notify, reached, if_true, State.workAt, blocked, Place.notified]
    · cases taken

/-! ## And when they can be -/

/-- Registered, with its predicate true and nobody about to notify. -/
structure Lost (d : Design σ ω ι α) (s : State σ ω κ ι) (w : ω) : Prop where
  blocked : s.waiter w = .blocked
  found : d.awaits w s.data = true
  unheard : ∀ k wake, s.writer k = .notifying wake → wake = .none

theorem Guarded.not_lost (guarded : Guarded d w)
    {ok : State σ ω κ ι → Label ω κ ι α → Prop} (run : Steps.Reach (step d) ok Quiet s) :
    ¬ Lost d s w := by
  intro lost
  obtain ⟨k, wake, at_, rouses⟩ := guarded.summoned run lost.blocked lost.found
  rw [lost.unheard k wake at_] at rouses
  obtain same | ⟨same, _⟩ := rouses
  · cases same
  · cases same

/-- Found the predicate false, and about to register. -/
def aboutToSleep (x : σ) (w : ω) : State σ ω κ ι :=
  { data := x, lock := some (.inl w), waiter := Function.update (fun _ => .away) w .registering }

theorem reach_aboutToSleep {x : σ} (unmet : d.awaits w x = false) :
    Steps.Reach (step d) Steps.Any (· = { data := x }) (aboutToSleep x w : State σ ω κ ι) := by
  refine Steps.Reach.exec (.start rfl) (Steps.meets_any _ _ [.enter w, .take w, .test w]) ?_
  simp only [Steps.exec, step, State.moveTo, Function.update_self, Function.update_idem, unmet,
    Bool.or_false, Bool.false_eq_true, if_true, if_false, Option.bind_some, aboutToSleep]

omit [DecidableEq κ] [Fintype ω] in
theorem aboutToSleep_unblocked (x : σ) (v : ω) :
    (aboutToSleep x w : State σ ω κ ι).waiter v ≠ .blocked := by
  dsimp only [aboutToSleep]
  by_cases same : v = w
  · rw [same, Function.update_self]
    rintro ⟨⟩
  · rw [Function.update_of_ne same]
    rintro ⟨⟩

/-- Nobody is registered yet, so a notification now is a notification of nobody. -/
theorem aboutToSleep_unheard {x y : σ} {op : ι} (k : κ) (unlocked : d.locked op = false)
    (changed : d.change op x = some y) :
    Steps.exec (step d) (aboutToSleep x w : State σ ω κ ι)
      [.begin k op, .change k, .notify k none] = some (aboutToSleep y w) := by
  have chooses : ((aboutToSleep y w : State σ ω κ ι).workAt k (.notifying (d.wakes op x))).Chooses
      (d.wakes op x) none := by
    unfold State.Chooses
    cases d.wakes op x with
    | none => rfl
    | one => exact fun v => aboutToSleep_unblocked (κ := κ) (ι := ι) y v
    | all => rfl
  have deaf : ∀ wake : Wake, (aboutToSleep y w : State σ ω κ ι).notify (wake.reaches none) =
      aboutToSleep y w := by
    intro wake
    refine congrArg (fun waiter => { (aboutToSleep y w : State σ ω κ ι) with waiter }) ?_
    funext v
    split
    · exact Place.notified_of_unregistered (aboutToSleep_unblocked y v)
    · rfl
  have begun : step d (aboutToSleep x w : State σ ω κ ι) (.begin k op) =
      some ((aboutToSleep x w).workAt k (.inside op)) := by
    simp only [step, unlocked, aboutToSleep]
  have done : step d ((aboutToSleep x w : State σ ω κ ι).workAt k (.inside op)) (.change k) =
      some ((aboutToSleep y w).workAt k (.notifying (d.wakes op x))) := by
    simp only [step, State.workAt, Function.update_self, Function.update_idem, aboutToSleep,
      changed, unlocked, Option.map_some, Bool.false_eq_true, if_false]
  have told : step d ((aboutToSleep y w : State σ ω κ ι).workAt k (.notifying (d.wakes op x)))
      (.notify k none) = some (aboutToSleep y w) := by
    have idle : (aboutToSleep y w : State σ ω κ ι).workAt k .idle = aboutToSleep y w :=
      congrArg (fun writer : κ → Work ι => { (aboutToSleep y w : State σ ω κ ι) with writer })
        (Function.update_eq_self k fun _ => .idle)
    have at_ : ((aboutToSleep y w : State σ ω κ ι).workAt k (.notifying (d.wakes op x))).writer k
        = .notifying (d.wakes op x) := Function.update_self ..
    have again : ((aboutToSleep y w : State σ ω κ ι).workAt k (.notifying (d.wakes op x))).workAt k
        .idle = (aboutToSleep y w).workAt k .idle := by
      simp only [State.workAt, Function.update_idem]
    simp only [step, at_, if_pos chooses, again, idle, deaf]
  rw [Steps.exec_cons _ begun, Steps.exec_cons _ done, Steps.exec_cons _ told]
  rfl

/-- An operation that makes the predicate true without the lock can do so
between a test of the predicate and the registration. -/
theorem unlocked_lost (k : κ) (op : ι) (x : σ) {y : σ} (unlocked : d.locked op = false)
    (changed : d.change op x = some y) (unmet : d.awaits w x = false)
    (found : d.awaits w y = true) :
    ∃ s : State σ ω κ ι, Steps.Reach (step d) Steps.Any (· = { data := x }) s ∧ Lost d s w := by
  have told := (reach_aboutToSleep unmet).exec (Steps.meets_any ..)
    (aboutToSleep_unheard k unlocked changed)
  have sleeps : step d (aboutToSleep y w : State σ ω κ ι) (.register w) =
      some { (aboutToSleep y w).moveTo w .blocked with lock := none } := by
    simp only [step, aboutToSleep, Function.update_self, if_true]
  refine ⟨_, .next told trivial sleeps, ?_, found, ?_⟩
  · exact Function.update_self ..
  · rintro j wake ⟨⟩

end
end Monitor
