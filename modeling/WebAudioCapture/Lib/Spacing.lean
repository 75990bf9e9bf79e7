import Mathlib.Tactic.Linarith

/-!
# Events that keep apart

Readings of a clock at which something happened, the last one first, no two of
them closer than a gap.
-/

namespace Spacing

/-- Each event at least `gap` after those before it. -/
abbrev Apart (gap : Int) (events : List Int) : Prop :=
  events.Pairwise fun late early => early + gap ≤ late

/-- `since + gap`, where the last event was at `since`, has passed by `now`. -/
def Rested (gap : Int) (events : List Int) (now : Int) : Prop :=
  ∀ last ∈ events.head?, last + gap ≤ now

variable {gap now : Int} {events : List Int}

theorem Rested.later (h : Rested gap events now) {now' : Int} (later : now ≤ now') :
    Rested gap events now' := fun last at_ => Int.le_trans (h last at_) later

/-- What keeps from the last event keeps from them all. -/
theorem Apart.rested (h : Apart gap events) (nonneg : 0 ≤ gap) (rested : Rested gap events now) :
    ∀ e ∈ events, e + gap ≤ now := by
  intro e at_
  cases events with
  | nil => cases at_
  | cons last rest =>
    have near : last + gap ≤ now := rested last rfl
    obtain rfl | old := List.mem_cons.mp at_
    · exact near
    · have apart := List.rel_of_pairwise_cons h old
      omega

theorem Apart.cons (h : Apart gap events) (nonneg : 0 ≤ gap) (rested : Rested gap events now) :
    Apart gap (now :: events) :=
  List.pairwise_cons.mpr ⟨h.rested nonneg rested, h⟩

/-- Events after `first` and until `now` leave room for one in each gap. -/
theorem Apart.count {first : Int} (h : Apart gap events) (nonneg : 0 ≤ gap)
    (begun : ∀ e ∈ events, first ≤ e) (past : ∀ e ∈ events, e ≤ now) (order : first ≤ now) :
    events.length * gap ≤ now - first + gap := by
  induction events generalizing now with
  | nil =>
    rw [List.length_nil]
    omega
  | cons last rest ih =>
    have near : last ≤ now := past last List.mem_cons_self
    cases rest with
    | nil =>
      simp only [List.length_cons, List.length_nil]
      omega
    | cons prior rest =>
      have apart := List.rel_of_pairwise_cons h List.mem_cons_self
      have older := begun prior (List.mem_cons_of_mem _ List.mem_cons_self)
      have before : ∀ e ∈ prior :: rest, e ≤ last - gap := by
        intro e at_
        have := List.rel_of_pairwise_cons h at_
        omega
      have room : first ≤ last - gap := by omega
      have count := ih h.of_cons (fun e at_ => begun e (List.mem_cons_of_mem _ at_)) before room
      rw [List.length_cons, Nat.cast_succ, Int.add_mul, Int.one_mul]
      omega

end Spacing
