import WebAudioCapture.Lib.Steps

/-!
# A party that finishes

One party of a system, among others that take steps as they like. It finishes if
it has only so many steps to take, however many the others take between them, and
if it is never out of steps before it has reached its goal. The rule for it is a
measure that its own steps lower and no other raises.
-/

namespace Steps

variable {σ ι : Type}

/-- The party whose steps are `own` comes to its end, and no earlier than `goal`
holds: whatever the others have done, the goal is reached or the party has a step
to take, and each step it can take brings it nearer to its end. -/
inductive Finishes (step : σ → ι → Option σ) (own : ι → Prop) (goal : σ → Prop) : σ → Prop
  | intro {s : σ}
      (turn : ∀ t, Reach step (fun _ l => ¬own l) (· = s) t →
        goal t ∨ ∃ l u, own l ∧ step t l = some u)
      (leads : ∀ t l u, Reach step (fun _ l => ¬own l) (· = s) t → own l → step t l = some u →
        Finishes step own goal u) : Finishes step own goal s

variable {step : σ → ι → Option σ} {own : ι → Prop} {goal : σ → Prop}

/-- A party finishes if each of its steps lowers a measure that no other step
raises, and it has a step to take wherever the goal does not hold. -/
theorem Finishes.of_measure (inv : σ → Prop) (measure : σ → Nat)
    (keep : ∀ s l t, inv s → step s l = some t → inv t)
    (lowers : ∀ s l t, own l → step s l = some t → measure t < measure s)
    (stays : ∀ s l t, ¬own l → step s l = some t → measure t ≤ measure s)
    (turn : ∀ s, inv s → goal s ∨ ∃ l t, own l ∧ step s l = some t) {s : σ} (h : inv s) :
    Finishes step own goal s := by
  generalize measured : measure s = n
  induction n using Nat.strongRecOn generalizing s with
  | ind n ih =>
    have beside : ∀ t, Reach step (fun _ l => ¬own l) (· = s) t → inv t ∧ measure t ≤ n := by
      intro t between
      apply Reach.invariant (fun t => inv t ∧ measure t ≤ n) ?_ ?_ between
      · rintro _ rfl
        exact ⟨h, Nat.le_of_eq measured⟩
      · rintro t l u _ ⟨sound, most⟩ other taken
        exact ⟨keep t l u sound taken, Nat.le_trans (stays t l u other taken) most⟩
    refine .intro (fun t between => turn t (beside t between).1) fun t l u between mine taken => ?_
    obtain ⟨sound, most⟩ := beside t between
    have less := lowers t l u mine taken
    exact ih (measure u) (Nat.lt_of_lt_of_le less most) (keep t l u sound taken) rfl

end Steps
