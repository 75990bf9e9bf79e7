/-!
# Runs of a step function

A system is a step function `step : σ → ι → Option σ`: a state and a label
give the next state, or none when the label is not enabled. `Reach` collects
the states of runs whose steps all meet a condition, so a statement about
every run and one about every well-behaved run are the same rule.
-/

namespace Steps

variable {σ ι τ κ : Type}

/-- States reached from `start` by steps that each meet `ok`. -/
inductive Reach (step : σ → ι → Option σ) (ok : σ → ι → Prop) (start : σ → Prop) : σ → Prop
  | start {s : σ} : start s → Reach step ok start s
  | next {s t : σ} {l : ι} : Reach step ok start s → ok s l → step s l = some t →
      Reach step ok start t

/-- The condition every step meets. -/
def Any (_ : σ) (_ : ι) : Prop := True

instance (s : σ) (l : ι) : Decidable (Any s l) := .isTrue trivial

section
variable {step : σ → ι → Option σ} {ok : σ → ι → Prop} {start : σ → Prop}

/-- What holds at the start and survives each step holds in every state
reached. The step may use that its own starting state is reached. -/
theorem Reach.invariant (inv : σ → Prop) (first : ∀ s, start s → inv s)
    (keep : ∀ s l t, Reach step ok start s → inv s → ok s l → step s l = some t → inv t)
    {s : σ} (h : Reach step ok start s) : inv s := by
  induction h with
  | start h => exact first _ h
  | next reached meets taken ih => exact keep _ _ _ reached ih meets taken

/-- A run may be followed by another from where it ends. -/
theorem Reach.trans {s t : σ} (h : Reach step ok start s) (h' : Reach step ok (· = s) t) :
    Reach step ok start t := by
  induction h' with
  | start same => exact same ▸ h
  | next _ meets taken ih => exact .next ih meets taken

/-- A run may begin with a step. -/
theorem Reach.after {s t u : σ} {l : ι} (meets : ok s l) (taken : step s l = some t)
    (h : Reach step ok (· = t) u) : Reach step ok (· = s) u :=
  Reach.trans (.next (.start rfl) meets taken) h

/-- A run of `step` seen through `f` is a run of `step'` that may stand still. -/
theorem Reach.simulate {step' : τ → κ → Option τ} {start' : τ → Prop} (f : σ → τ)
    (first : ∀ s, start s → start' (f s))
    (follow : ∀ s l t, Reach step ok start s → step s l = some t →
      f t = f s ∨ ∃ k, step' (f s) k = some (f t))
    {s : σ} (h : Reach step ok start s) : Reach step' Any start' (f s) := by
  induction h with
  | start h => exact .start (first _ h)
  | next reached _ taken ih =>
    obtain same | ⟨k, moved⟩ := follow _ _ _ reached taken
    · rw [same]; exact ih
    · exact .next ih trivial moved

end

/-- Take the steps of a list of labels one after the other. -/
def exec (step : σ → ι → Option σ) : σ → List ι → Option σ
  | s, [] => some s
  | s, l :: ls => (step s l).bind fun t => exec step t ls

theorem exec_cons {step : σ → ι → Option σ} {s t : σ} {l : ι} (ls : List ι)
    (h : step s l = some t) : exec step s (l :: ls) = exec step t ls := by
  simp only [exec, h, Option.bind_some]

/-- Every step of the run meets `ok`. -/
def Meets (step : σ → ι → Option σ) (ok : σ → ι → Prop) : σ → List ι → Prop
  | _, [] => True
  | s, l :: ls => ok s l ∧ match step s l with
    | some t => Meets step ok t ls
    | none => True

instance decidableMeets (step : σ → ι → Option σ) (ok : σ → ι → Prop)
    [∀ s l, Decidable (ok s l)] : (s : σ) → (ls : List ι) → Decidable (Meets step ok s ls)
  | _, [] => .isTrue trivial
  | s, l :: ls =>
    have : Decidable (match step s l with
      | some t => Meets step ok t ls
      | none => True) :=
      match step s l with
      | some t => decidableMeets step ok t ls
      | none => .isTrue trivial
    inferInstanceAs (Decidable (_ ∧ _))

theorem Reach.exec {step : σ → ι → Option σ} {ok : σ → ι → Prop} {start : σ → Prop}
    {s t : σ} {ls : List ι} (h : Reach step ok start s) (meets : Meets step ok s ls)
    (run : exec step s ls = some t) : Reach step ok start t := by
  induction ls generalizing s with
  | nil => cases run; exact h
  | cons l ls ih =>
    cases taken : step s l with
    | none => simp only [Steps.exec, taken, Option.bind_none] at run; cases run
    | some u =>
      simp only [Steps.exec, taken, Option.bind_some] at run
      simp only [Meets, taken] at meets
      exact ih (.next h meets.1 taken) meets.2 run

/-- Labels that meet `ok` wherever they are taken. -/
theorem meets_all {step : σ → ι → Option σ} {ok : σ → ι → Prop} (s : σ) (ls : List ι)
    (h : ∀ l ∈ ls, ∀ s, ok s l) : Meets step ok s ls := by
  induction ls generalizing s with
  | nil => exact trivial
  | cons l ls ih =>
    have rest : ∀ l ∈ ls, ∀ s, ok s l := fun l at_ => h l (List.mem_cons_of_mem _ at_)
    refine ⟨h l List.mem_cons_self s, ?_⟩
    split
    · exact ih _ rest
    · exact trivial

theorem meets_any (step : σ → ι → Option σ) (s : σ) (ls : List ι) : Meets step Any s ls :=
  meets_all s ls fun _ _ _ => trivial

/-! ## Runs with a record beside them -/

section
variable {γ : Type}

/-- The steps of a system, with a record that `note` keeps of them. -/
def watch (step : σ → ι → Option σ) (note : σ → ι → σ → γ → γ) (p : σ × γ) (l : ι) :
    Option (σ × γ) :=
  (step p.1 l).map fun t => (t, note p.1 l t p.2)

/-- The watched runs of a system, their records starting from `blank`. -/
abbrev Watched (step : σ → ι → Option σ) (note : σ → ι → σ → γ → γ) (ok : σ → ι → Prop)
    (start : σ → Prop) (blank : γ) : σ × γ → Prop :=
  Reach (watch step note) (fun p => ok p.1) fun p => start p.1 ∧ p.2 = blank

variable {step : σ → ι → Option σ} {note : σ → ι → σ → γ → γ} {ok : σ → ι → Prop}
  {start : σ → Prop} {blank : γ}

theorem watch_eq_some {s t : σ} {g g' : γ} {l : ι}
    (h : watch step note (s, g) l = some (t, g')) : step s l = some t ∧ g' = note s l t g := by
  obtain ⟨u, taken, same⟩ := Option.map_eq_some_iff.mp h
  cases same
  exact ⟨taken, rfl⟩

/-- Watching adds no run. -/
theorem Watched.reach {p : σ × γ} (h : Watched step note ok start blank p) :
    Reach step ok start p.1 := by
  induction h with
  | start h => exact .start h.1
  | next _ meets taken ih => exact .next ih meets (watch_eq_some taken).1

theorem Watched.further {s t : σ} {g : γ} {l : ι} (h : Watched step note ok start blank (s, g))
    (meets : ok s l) (taken : step s l = some t) :
    Watched step note ok start blank (t, note s l t g) :=
  Reach.next h meets (by rw [watch, taken]; rfl)

/-- Watching takes no run away. -/
theorem Reach.watched (note : σ → ι → σ → γ → γ) (blank : γ) {s : σ} (h : Reach step ok start s) :
    ∃ g, Watched step note ok start blank (s, g) := by
  induction h with
  | start h => exact ⟨blank, .start ⟨h, rfl⟩⟩
  | @next s t l _ meets taken ih =>
    obtain ⟨g, run⟩ := ih
    exact ⟨note s l t g, run.further meets taken⟩

/-- The invariant rule, with the record in the invariant. -/
theorem Watched.invariant (inv : σ → γ → Prop) (first : ∀ s, start s → inv s blank)
    (keep : ∀ s l t g, Reach step ok start s → inv s g → ok s l → step s l = some t →
      inv t (note s l t g))
    {p : σ × γ} (h : Watched step note ok start blank p) : inv p.1 p.2 := by
  induction h with
  | start h => rw [h.2]; exact first _ h.1
  | @next p q l before meets taken ih =>
    obtain ⟨moved, noted⟩ := watch_eq_some taken
    rw [noted]
    exact keep _ _ _ _ (Watched.reach before) ih meets moved

/-- A watched run may begin with a step. -/
theorem Watched.after {s t : σ} {l : ι} {p : σ × γ} (meets : ok s l) (taken : step s l = some t)
    (h : Watched step note ok (· = t) (note s l t blank) p) :
    Watched step note ok (· = s) blank p := by
  induction h with
  | @start q same =>
    have here : q = (t, note s l t blank) := Prod.ext same.1 same.2
    rw [here]
    exact .further (.start ⟨rfl, rfl⟩) meets taken
  | next _ meets taken ih => exact .next ih meets taken

/-- A watched run seen through `f` is a watched run with the same record. -/
theorem Watched.simulate {step' : τ → κ → Option τ} {note' : τ → κ → τ → γ → γ}
    {ok' : τ → κ → Prop} {start' : τ → Prop} (f : σ → τ) (see : σ → σ → ι → κ)
    (first : ∀ s, start s → start' (f s))
    (follow : ∀ s l t, ok s l → step s l = some t →
      ok' (f s) (see s t l) ∧ step' (f s) (see s t l) = some (f t))
    {p : σ × γ}
    (h : Watched step (fun s l t => note' (f s) (see s t l) (f t)) ok start blank p) :
    Watched step' note' ok' start' blank (f p.1, p.2) := by
  induction h with
  | start h => exact .start ⟨first _ h.1, h.2⟩
  | @next p q l _ meets taken ih =>
    obtain ⟨moved, noted⟩ := watch_eq_some taken
    obtain ⟨meets', moved'⟩ := follow _ _ _ meets moved
    refine .next ih meets' ?_
    rw [watch, moved', noted]
    rfl

end

end Steps
