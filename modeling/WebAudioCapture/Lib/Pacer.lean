import Mathlib.Tactic.Linarith
import WebAudioCapture.Lib.Steps

/-!
# Pacers

A pacer hands out one item per period: an item is handed out once the deadline
has passed, and the deadline then moves on by one period, or to one period from
now when that is already in the past. However late the items are handed out,
they never come closer together than the periods they stand for.
-/

/-- One item: the reading at which it was due, the reading after it was handed
out and the deadline that was set then. -/
structure Handout where
  due : Int
  after : Int
  deadline : Int
  deriving DecidableEq, Repr

structure Pacer where
  period : Int
  deadline : Option Int := none
  first : Option Int := none
  log : List Handout := []
  deriving DecidableEq, Repr

namespace Pacer

inductive Move where
  | begin (now : Int)
  | hand (due after : Int)

/-- The deadline after one, at reading `after`. -/
def next (period deadline after : Int) : Int :=
  if deadline + period < after then after + period else deadline + period

def step (p : Pacer) : Move → Option Pacer
  | .begin now =>
    match p.deadline with
    | none => some { p with deadline := some (now + p.period), first := some now }
    | some _ => none
  | .hand due after =>
    match p.deadline with
    | none => none
    | some deadline =>
      if deadline ≤ due ∧ due ≤ after then
        let deadline := next p.period deadline after
        some { p with deadline := some deadline, log := p.log ++ [⟨due, after, deadline⟩] }
      else none

/-- A pacer that has not begun. -/
def Fresh (p : Pacer) : Prop := ∃ period, 0 ≤ period ∧ p = { period }

abbrev Reachable (p : Pacer) : Prop := Steps.Reach step Steps.Any Fresh p

/-- The readings at which items are due keep `k` periods between an item and
the `k + 1`-th after it, and `n + 1` between the beginning and item `n`. -/
structure Spaced (p : Pacer) : Prop where
  period_nonneg : 0 ≤ p.period
  idle : p.deadline = none → p.first = none ∧ p.log = []
  bounded : ∀ d ∈ p.log, d.after ≤ d.deadline ∧ d.deadline ≤ d.after + p.period
  ahead : ∀ deadline, p.deadline = some deadline → ∀ (i k : Nat) d, p.log[i]? = some d →
    i + k + 1 = p.log.length → d.after + k * p.period ≤ deadline
  spaced : ∀ (i k : Nat) d e, p.log[i]? = some d → p.log[i + k + 1]? = some e →
    d.after + k * p.period ≤ e.due
  begun : ∀ deadline, p.deadline = some deadline → ∀ t, p.first = some t →
    t + (p.log.length + 1) * p.period ≤ deadline
  counted : ∀ t, p.first = some t → ∀ (n : Nat) e, p.log[n]? = some e →
    t + (n + 1) * p.period ≤ e.due

theorem next_bounds {period deadline after : Int} (late : deadline ≤ after) (h : 0 ≤ period) :
    after ≤ next period deadline after ∧ next period deadline after ≤ after + period ∧
    deadline + period ≤ next period deadline after := by
  unfold next
  split <;> omega

theorem fresh_spaced {p : Pacer} (h : Fresh p) : Spaced p := by
  obtain ⟨period, nonneg, rfl⟩ := h
  constructor
  · exact nonneg
  · exact fun _ => ⟨rfl, rfl⟩
  all_goals simp

theorem begin_spaced {p q : Pacer} {now : Int} (h : Spaced p) (taken : p.step (.begin now) = some q) :
    Spaced q := by
  cases idle : p.deadline with
  | some deadline => simp only [step, idle] at taken; cases taken
  | none =>
    obtain ⟨_, empty⟩ := h.idle idle
    simp only [step, idle, Option.some.injEq] at taken
    cases taken
    constructor
    · exact h.period_nonneg
    · intro impossible; cases impossible
    all_goals simp [empty]

theorem hand_spaced {p q : Pacer} {due after : Int} (h : Spaced p)
    (taken : p.step (.hand due after) = some q) : Spaced q := by
  have nonneg := h.period_nonneg
  cases set : p.deadline with
  | none => simp only [step, set] at taken; cases taken
  | some deadline =>
    simp only [step, set] at taken
    split at taken
    · rename_i passed
      cases taken
      obtain ⟨passed, ordered⟩ := passed
      obtain ⟨low, high, moved⟩ := next_bounds (Int.le_trans passed ordered) nonneg
      constructor
      · exact nonneg
      · intro impossible; cases impossible
      · intro d at_
        obtain earlier | new := List.mem_append.mp at_
        · exact h.bounded d earlier
        · rw [List.mem_singleton.mp new]
          exact ⟨low, high⟩
      · intro _ is i k d at_ last
        cases is
        rw [List.length_append, List.length_singleton] at last
        obtain new | ⟨k, rfl⟩ : k = 0 ∨ ∃ j, k = j + 1 := by cases k <;> simp
        · subst new
          rw [List.getElem?_append_right (by omega), show i - p.log.length = 0 by omega] at at_
          cases at_
          simpa using low
        · rw [List.getElem?_append_left (by omega)] at at_
          have before := h.ahead deadline set i k d at_ (by omega)
          push_cast
          linarith
      · intro i k d e earlier later
        by_cases old : i + k + 1 < p.log.length
        · rw [List.getElem?_append_left (by omega)] at earlier later
          exact h.spaced i k d e earlier later
        · have last := (List.getElem?_eq_some_iff.mp later).1
          rw [List.length_append, List.length_singleton] at last
          rw [List.getElem?_append_left (by omega)] at earlier
          rw [List.getElem?_append_right (by omega),
            show i + k + 1 - p.log.length = 0 by omega] at later
          cases later
          exact Int.le_trans (h.ahead deadline set i k d earlier (by omega)) passed
      · intro _ is t began
        cases is
        have before := h.begun deadline set t began
        rw [List.length_append, List.length_singleton]
        push_cast
        linarith
      · intro t began n e at_
        by_cases old : n < p.log.length
        · rw [List.getElem?_append_left old] at at_
          exact h.counted t began n e at_
        · have last := (List.getElem?_eq_some_iff.mp at_).1
          rw [List.length_append, List.length_singleton] at last
          rw [List.getElem?_append_right (by omega), show n - p.log.length = 0 by omega] at at_
          cases at_
          have before := h.begun deadline set t began
          rw [show n = p.log.length by omega]
          exact Int.le_trans before passed
    · cases taken

theorem Reachable.spaced {p : Pacer} (h : Reachable p) : Spaced p := by
  apply Steps.Reach.invariant Spaced ?_ ?_ h
  · intro p fresh
    exact fresh_spaced fresh
  · intro p move q _ spaced _ taken
    cases move with
    | begin now => exact begin_spaced spaced taken
    | hand due after => exact hand_spaced spaced taken

/-! ## Without resync -/

/-- The deadline item `n` is handed out against. -/
def deadlineFor (p : Pacer) : Nat → Option Int
  | 0 => p.first.map (· + p.period)
  | n + 1 => p.log[n]?.map Handout.deadline

/-- Item `n` was handed out when the deadline after it was past already. -/
def Resynced (p : Pacer) (n : Nat) : Prop :=
  ∃ deadline e, p.deadlineFor n = some deadline ∧ p.log[n]? = some e ∧ deadline + p.period < e.after

/-- Each deadline comes from the one before it. -/
structure Chained (p : Pacer) : Prop where
  current : p.deadline = p.deadlineFor p.log.length
  linked : ∀ (n : Nat) deadline e, p.deadlineFor n = some deadline → p.log[n]? = some e →
    e.deadline = next p.period deadline e.after

/-- An item handed out leaves the deadlines up to its own. -/
theorem deadlineFor_hand (p : Pacer) (deadline : Option Int) (e : Handout) {n : Nat}
    (old : n ≤ p.log.length) :
    { p with deadline, log := p.log ++ [e] }.deadlineFor n = p.deadlineFor n := by
  cases n with
  | zero => rfl
  | succ n => simp only [deadlineFor, List.getElem?_append_left (Nat.lt_of_succ_le old)]

theorem step_chained {p q : Pacer} {move : Move} (spaced : Spaced p) (h : Chained p)
    (taken : p.step move = some q) : Chained q := by
  cases move with
  | begin now =>
    cases idle : p.deadline with
    | some deadline => simp only [step, idle] at taken; cases taken
    | none =>
      obtain ⟨_, empty⟩ := spaced.idle idle
      simp only [step, idle, Option.some.injEq] at taken
      cases taken
      refine ⟨?_, ?_⟩
      · simp only [empty, List.length_nil, deadlineFor, Option.map_some]
      · simp only [empty, List.getElem?_nil]
        rintro _ _ _ _ ⟨⟩
  | hand due after =>
    cases set : p.deadline with
    | none => simp only [step, set] at taken; cases taken
    | some deadline =>
      simp only [step, set] at taken
      split at taken
      · cases taken
        refine ⟨?_, ?_⟩
        · simp only [List.length_append, List.length_singleton, deadlineFor,
            List.getElem?_concat_length, Option.map_some]
        · intro n before e was at_
          by_cases old : n < p.log.length
          · rw [deadlineFor_hand _ _ _ (Nat.le_of_lt old)] at was
            rw [List.getElem?_append_left old] at at_
            exact h.linked n before e was at_
          · have last := (List.getElem?_eq_some_iff.mp at_).1
            rw [List.length_append, List.length_singleton] at last
            obtain rfl : n = p.log.length := by omega
            rw [List.getElem?_concat_length] at at_
            rw [deadlineFor_hand _ _ _ (Nat.le_refl _), ← h.current, set] at was
            cases at_
            cases was
            rfl
      · cases taken

theorem Reachable.chained {p : Pacer} (h : Reachable p) : Chained p := by
  apply Steps.Reach.invariant Chained ?_ ?_ h
  · rintro p ⟨period, _, rfl⟩
    exact ⟨rfl, fun _ _ _ _ at_ => by simp at at_⟩
  · intro p move q reached chained _ taken
    exact step_chained (Reachable.spaced reached) chained taken

/-- As long as no item is late by more than a period, the deadline moves by one
period an item. -/
theorem Chained.advance {p : Pacer} (h : Chained p) {i k : Nat} {first last : Int}
    (from_ : p.deadlineFor i = some first) (to_ : p.deadlineFor (i + k) = some last)
    (prompt : ∀ j, i ≤ j → j < i + k → ¬p.Resynced j) : last = first + k * p.period := by
  induction k generalizing last with
  | zero =>
    rw [Nat.add_zero, from_] at to_
    cases to_
    simp
  | succ k ih =>
    obtain ⟨e, at_, rfl⟩ := Option.map_eq_some_iff.mp to_
    obtain ⟨deadline, was⟩ : ∃ deadline, p.deadlineFor (i + k) = some deadline := by
      have within := (List.getElem?_eq_some_iff.mp at_).1
      cases k with
      | zero => exact ⟨first, from_⟩
      | succ k =>
        have held : i + k < p.log.length := Nat.lt_trans (Nat.lt_succ_self _) within
        exact ⟨_, Option.map_eq_some_iff.mpr ⟨_, List.getElem?_eq_getElem held, rfl⟩⟩
    have before := ih was fun j low high => prompt j low (by omega)
    have moved := h.linked (i + k) deadline e was at_
    have soon : ¬deadline + p.period < e.after :=
      fun late => prompt (i + k) (by omega) (by omega) ⟨deadline, e, was, at_, late⟩
    rw [next, if_neg soon] at moved
    rw [moved, before]
    push_cast
    rw [Int.add_mul, Int.one_mul, Int.add_assoc]

end Pacer
