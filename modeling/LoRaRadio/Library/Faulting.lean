import Mathlib.Order.Defs.Unbundled
import Mathlib.Order.RelClasses
import LoRaRadio.Library.Lens

/-
  Computations that may throw and keep the state they
  reached.

  `Faulting ε σ` is exception over state: a throw does not
  undo the effects made before it, as in an imperative
  language.  `Post` is the weakest precondition with one
  postcondition for a normal return and one for a throw;
  `Keeps` is the special case of a relation between the
  states before and after, whatever the outcome.

  Main declarations:
    * `Faulting.exec`
    * `Faulting.Post` and its rules
    * `Faulting.Keeps` and its rules
    * `Faulting.zoom`
-/

------------------------------------------------------------
-- Computations
------------------------------------------------------------

namespace LoRaRadio

/- A computation over `σ` that returns or throws. -/
abbrev Faulting (ε σ : Type) :=
  ExceptT ε (StateM σ)

namespace Faulting

variable {ε σ τ α β : Type}

/- The computation given by its outcome on each state. -/
def mk
    (f : σ → Except ε α × σ) :
    Faulting ε σ α :=
  ExceptT.mk f

/- The outcome of a computation and the state it leaves. -/
def exec
    (m : Faulting ε σ α)
    (s : σ) :
    Except ε α × σ :=
  m.run s

/- Run `cleanup` if `m` throws, then throw again. -/
def onThrow
    (m : Faulting ε σ α)
    (cleanup : Faulting ε σ Unit) :
    Faulting ε σ α :=
  tryCatch m (fun e => do cleanup; throw e)

@[simp] theorem exec_mk
    (f : σ → Except ε α × σ)
    (s : σ) :
    exec (mk f) s = f s := rfl

/- A run of which only the outcome has been computed. -/
theorem exec_of_fst
    {m : Faulting ε σ α}
    {s : σ}
    {outcome : Except ε α}
    (hFst : (exec m s).1 = outcome) :
    exec m s = (outcome, (exec m s).2) :=
  Prod.ext hFst rfl

@[simp] theorem exec_pure
    (a : α)
    (s : σ) :
    exec (pure a : Faulting ε σ α) s = (.ok a, s) := rfl

@[simp] theorem exec_throw
    (e : ε)
    (s : σ) :
    exec (throw e : Faulting ε σ α) s =
      (.error e, s) := rfl

@[simp] theorem exec_get
    (s : σ) :
    exec (get : Faulting ε σ σ) s = (.ok s, s) := rfl

@[simp] theorem exec_modify
    (f : σ → σ)
    (s : σ) :
    exec (modify f : Faulting ε σ Unit) s =
      (.ok (), f s) := rfl

theorem exec_bind
    (m : Faulting ε σ α)
    (f : α → Faulting ε σ β)
    (s : σ) :
    exec (m >>= f) s =
      match exec m s with
      | (.ok a, s') => exec (f a) s'
      | (.error e, s') => (.error e, s') := by
  change
    (ExceptT.bindCont f (m s).1 (m s).2) = _
  change _ =
    match m s with
    | (.ok a, s') => exec (f a) s'
    | (.error e, s') => (.error e, s')
  rcases m s with ⟨a | a, s'⟩ <;> rfl

theorem exec_tryCatch
    (m : Faulting ε σ α)
    (handler : ε → Faulting ε σ α)
    (s : σ) :
    exec (tryCatch m handler) s =
      match exec m s with
      | (.ok a, s') => (.ok a, s')
      | (.error e, s') => exec (handler e) s' := by
  change
    exec (ExceptT.tryCatch m handler) s = _
  unfold ExceptT.tryCatch
  change
    ((match (exec m s).1 with
      | .ok a => pure (Except.ok a)
      | .error e => handler e :
        StateM σ (Except ε α)) (exec m s).2) = _
  rcases exec m s with ⟨e | a, s'⟩ <;> rfl

/- A sequence returns when both its parts do. -/
theorem exec_bind_ok
    {m : Faulting ε σ α}
    {f : α → Faulting ε σ β}
    {s s'' : σ}
    {b : β} :
    exec (m >>= f) s = (.ok b, s'') ↔
      ∃ a s', exec m s = (.ok a, s') ∧
        exec (f a) s' = (.ok b, s'') := by
  rw [exec_bind]
  rcases exec m s with ⟨e | a, s'⟩
  · simp
  · constructor
    · intro hRun
      exact ⟨a, s', rfl, hRun⟩
    · rintro ⟨a', s₁, hFirst, hRun⟩
      cases hFirst
      exact hRun

/- A guarded body returns, or its handler does. -/
theorem exec_tryCatch_ok
    {m : Faulting ε σ α}
    {handler : ε → Faulting ε σ α}
    {s s' : σ}
    {a : α} :
    exec (tryCatch m handler) s = (.ok a, s') ↔
      exec m s = (.ok a, s') ∨
        ∃ e s₁, exec m s = (.error e, s₁) ∧
          exec (handler e) s₁ = (.ok a, s') := by
  rw [exec_tryCatch]
  rcases exec m s with ⟨e | b, s₁⟩
  · constructor
    · intro hHandler
      exact .inr ⟨e, s₁, rfl, hHandler⟩
    · intro hCases
      rcases hCases with hBody | ⟨e', s', hBody, hHandler⟩
      · cases hBody
      · cases hBody
        exact hHandler
  · simp

/- A cleanup never makes a throwing body return. -/
theorem exec_onThrow_ok
    {m : Faulting ε σ α}
    {cleanup : Faulting ε σ Unit}
    {s s' : σ}
    {a : α} :
    exec (onThrow m cleanup) s = (.ok a, s') ↔
      exec m s = (.ok a, s') := by
  unfold onThrow
  rw [exec_tryCatch]
  rcases exec m s with ⟨e | b, s₁⟩
  · simp only [exec_bind, exec_throw]
    rcases exec cleanup s₁ with ⟨e' | u, s₂⟩ <;> simp
  · rfl

end Faulting

end LoRaRadio

------------------------------------------------------------
-- Postconditions
------------------------------------------------------------

namespace LoRaRadio

namespace Faulting

variable {ε σ τ α β : Type}

/-
  Running `m` from `s` returns in `Q` or throws in `E`.
-/
def Post
    (m : Faulting ε σ α)
    (Q : α → σ → Prop)
    (E : ε → σ → Prop)
    (s : σ) : Prop :=
  match exec m s with
  | (.ok a, s') => Q a s'
  | (.error e, s') => E e s'

@[simp] theorem post_pure
    (a : α)
    (Q : α → σ → Prop)
    (E : ε → σ → Prop)
    (s : σ) :
    Post (pure a) Q E s ↔ Q a s := Iff.rfl

@[simp] theorem post_throw
    (e : ε)
    (Q : α → σ → Prop)
    (E : ε → σ → Prop)
    (s : σ) :
    Post (throw e : Faulting ε σ α) Q E s ↔ E e s := Iff.rfl

@[simp] theorem post_get
    (Q : σ → σ → Prop)
    (E : ε → σ → Prop)
    (s : σ) :
    Post (get : Faulting ε σ σ) Q E s ↔ Q s s := Iff.rfl

@[simp] theorem post_modify
    (f : σ → σ)
    (Q : Unit → σ → Prop)
    (E : ε → σ → Prop)
    (s : σ) :
    Post (modify f : Faulting ε σ Unit) Q E s ↔
      Q () (f s) := Iff.rfl

@[simp] theorem post_bind
    (m : Faulting ε σ α)
    (f : α → Faulting ε σ β)
    (Q : β → σ → Prop)
    (E : ε → σ → Prop)
    (s : σ) :
    Post (m >>= f) Q E s ↔
      Post m (fun a s' => Post (f a) Q E s') E s := by
  unfold Post
  rw [exec_bind]
  rcases exec m s with ⟨a | a, s'⟩ <;> rfl

@[simp] theorem post_tryCatch
    (m : Faulting ε σ α)
    (handler : ε → Faulting ε σ α)
    (Q : α → σ → Prop)
    (E : ε → σ → Prop)
    (s : σ) :
    Post (tryCatch m handler) Q E s ↔
      Post m Q (fun e s' => Post (handler e) Q E s') s := by
  unfold Post
  rw [exec_tryCatch]
  rcases exec m s with ⟨a | a, s'⟩ <;> rfl

/- Postconditions speak about the run only. -/
theorem post_congr
    {m m' : Faulting ε σ α}
    {Q : α → σ → Prop}
    {E : ε → σ → Prop}
    {s : σ}
    (hRun : exec m s = exec m' s) :
    Post m Q E s ↔ Post m' Q E s := by
  unfold Post
  rw [hRun]

/- What is known of every return is a postcondition. -/
theorem post_of_ok
    {m : Faulting ε σ α}
    {Q : α → σ → Prop}
    {s : σ}
    (hOk : ∀ a s', exec m s = (.ok a, s') → Q a s') :
    Post m Q (fun _ _ => True) s := by
  unfold Post
  rcases hRun : exec m s with ⟨e | a, s'⟩
  · trivial
  · exact hOk a s' hRun

/- Both postconditions may be weakened. -/
theorem Post.mono
    {m : Faulting ε σ α}
    {Q Q' : α → σ → Prop}
    {E E' : ε → σ → Prop}
    {s : σ}
    (hPost : Post m Q E s)
    (hQ : ∀ a s', Q a s' → Q' a s')
    (hE : ∀ e s', E e s' → E' e s') :
    Post m Q' E' s := by
  unfold Post at *
  rcases hExec : exec m s with ⟨e | a, s'⟩
  · exact hE e s' (by simpa [hExec] using hPost)
  · exact hQ a s' (by simpa [hExec] using hPost)

/- Two facts about one run hold together. -/
theorem Post.and
    {m : Faulting ε σ α}
    {Q Q' : α → σ → Prop}
    {E E' : ε → σ → Prop}
    {s : σ}
    (hLeft : Post m Q E s)
    (hRight : Post m Q' E' s) :
    Post m (fun a s' => Q a s' ∧ Q' a s')
      (fun e s' => E e s' ∧ E' e s') s := by
  unfold Post at *
  rcases hExec : exec m s with ⟨e | a, s'⟩ <;>
    simp only [hExec] at hLeft hRight <;>
    exact ⟨hLeft, hRight⟩

/- A postcondition seen from a run that returned. -/
theorem Post.of_ok
    {m : Faulting ε σ α}
    {Q : α → σ → Prop}
    {E : ε → σ → Prop}
    {s s' : σ}
    {a : α}
    (hPost : Post m Q E s)
    (hRun : exec m s = (.ok a, s')) :
    Q a s' := by
  unfold Post at hPost
  rwa [hRun] at hPost

/- A postcondition seen from a run that threw. -/
theorem Post.of_error
    {m : Faulting ε σ α}
    {Q : α → σ → Prop}
    {E : ε → σ → Prop}
    {s s' : σ}
    {e : ε}
    (hPost : Post m Q E s)
    (hRun : exec m s = (.error e, s')) :
    E e s' := by
  unfold Post at hPost
  rwa [hRun] at hPost

/- A run that cannot throw returns. -/
theorem Post.returns
    {m : Faulting ε σ α}
    {Q : α → σ → Prop}
    {s : σ}
    (hPost : Post m Q (fun _ _ => False) s) :
    ∃ a s', exec m s = (.ok a, s') ∧ Q a s' := by
  unfold Post at hPost
  rcases hRun : exec m s with ⟨e | a, s'⟩
  · rw [hRun] at hPost
    exact hPost.elim
  · rw [hRun] at hPost
    exact ⟨a, s', rfl, hPost⟩

/- The state a run returns in, or what it throws. -/
def outcome
    (m : Faulting ε σ α)
    (s : σ) : Except ε σ :=
  match exec m s with
  | (.ok _, s') => .ok s'
  | (.error e, _) => .error e

theorem exec_of_outcome_ok
    {m : Faulting ε σ α}
    {s s' : σ}
    (hRun : outcome m s = .ok s') :
    ∃ a, exec m s = (.ok a, s') := by
  unfold outcome at hRun
  rcases hExec : exec m s with ⟨e | a, s₁⟩
  · rw [hExec] at hRun
    cases hRun
  · rw [hExec] at hRun
    cases hRun
    exact ⟨a, rfl⟩

theorem Post.of_outcome_ok
    {m : Faulting ε σ α}
    {Q : α → σ → Prop}
    {E : ε → σ → Prop}
    {s s' : σ}
    (hPost : Post m Q E s)
    (hRun : outcome m s = .ok s') :
    ∃ a, Q a s' := by
  rcases exec_of_outcome_ok hRun with ⟨a, hExec⟩
  exact ⟨a, hPost.of_ok hExec⟩

/- A rule for `onThrow`: the cleanup runs on a throw only. -/
theorem post_onThrow
    (m : Faulting ε σ α)
    (cleanup : Faulting ε σ Unit)
    (Q : α → σ → Prop)
    (E : ε → σ → Prop)
    (s : σ) :
    Post (onThrow m cleanup) Q E s ↔
      Post m Q
        (fun e s' =>
          Post cleanup (fun _ s'' => E e s'') E s') s := by
  unfold onThrow
  simp only [post_tryCatch, post_bind, post_throw]

end Faulting

end LoRaRadio

------------------------------------------------------------
-- State Relations
------------------------------------------------------------

namespace LoRaRadio

namespace Faulting

variable {ε σ τ α β : Type}
variable {R : σ → σ → Prop}

/-
  Every run of `m`, returning or throwing, relates the state
  before to the state after.
-/
def Keeps
    (R : σ → σ → Prop)
    (m : Faulting ε σ α) : Prop :=
  ∀ s, R s (exec m s).2

theorem Keeps.post
    {m : Faulting ε σ α}
    (hKeeps : Keeps R m)
    (s : σ) :
    Post m (fun _ s' => R s s') (fun _ s' => R s s') s := by
  have hRun := hKeeps s
  unfold Post
  rcases hExec : exec m s with ⟨e | a, s'⟩ <;>
    simpa [hExec] using hRun

theorem keeps_of_post
    {m : Faulting ε σ α}
    (hPost :
      ∀ s, Post m (fun _ s' => R s s')
        (fun _ s' => R s s') s) :
    Keeps R m := by
  intro s
  have hRun := hPost s
  unfold Post at hRun
  rcases hExec : exec m s with ⟨e | a, s'⟩ <;>
    simpa [hExec] using hRun

theorem Keeps.mono
    {R' : σ → σ → Prop}
    {m : Faulting ε σ α}
    (hKeeps : Keeps R m)
    (hImp : ∀ s s', R s s' → R' s s') :
    Keeps R' m :=
  fun s => hImp _ _ (hKeeps s)

theorem keeps_pure
    [Std.Refl R]
    (a : α) :
    Keeps R (pure a : Faulting ε σ α) :=
  fun s => Std.Refl.refl s

theorem keeps_throw
    [Std.Refl R]
    (e : ε) :
    Keeps R (throw e : Faulting ε σ α) :=
  fun s => Std.Refl.refl s

theorem keeps_get
    [Std.Refl R] :
    Keeps R (get : Faulting ε σ σ) :=
  fun s => Std.Refl.refl s

theorem keeps_modify
    {f : σ → σ}
    (hStep : ∀ s, R s (f s)) :
    Keeps R (modify f : Faulting ε σ Unit) :=
  hStep

theorem Keeps.bind
    [IsTrans σ R]
    {m : Faulting ε σ α}
    {f : α → Faulting ε σ β}
    (hFirst : Keeps R m)
    (hSecond : ∀ a, Keeps R (f a)) :
    Keeps R (m >>= f) := by
  intro s
  have hBefore := hFirst s
  rw [exec_bind]
  rcases hExec : exec m s with ⟨e | a, s'⟩
  · simpa [hExec] using hBefore
  · have hMiddle : R s s' := by
      simpa [hExec] using hBefore
    exact IsTrans.trans _ _ _ hMiddle (hSecond a s')

theorem Keeps.tryCatch
    [IsTrans σ R]
    {m : Faulting ε σ α}
    {handler : ε → Faulting ε σ α}
    (hBody : Keeps R m)
    (hHandler : ∀ e, Keeps R (handler e)) :
    Keeps R (tryCatch m handler) := by
  intro s
  have hBefore := hBody s
  rw [exec_tryCatch]
  rcases hExec : exec m s with ⟨e | a, s'⟩
  · have hMiddle : R s s' := by
      simpa [hExec] using hBefore
    exact IsTrans.trans _ _ _ hMiddle (hHandler e s')
  · simpa [hExec] using hBefore

theorem keeps_ite
    {c : Prop}
    [Decidable c]
    {m m' : Faulting ε σ α}
    (hThen : c → Keeps R m)
    (hElse : ¬ c → Keeps R m') :
    Keeps R (if c then m else m') := by
  by_cases hCond : c
  · simpa [hCond] using hThen hCond
  · simpa [hCond] using hElse hCond

/- A loop keeps what each of its rounds keeps. -/
theorem keeps_forM
    [Std.Refl R]
    [IsTrans σ R]
    {f : α → Faulting ε σ PUnit}
    (hRound : ∀ a, Keeps R (f a))
    (as : List α) :
    Keeps R (as.forM f) := by
  induction as with
  | nil => exact keeps_pure _
  | cons a as ih =>
      exact (hRound a).bind fun _ => ih

end Faulting

end LoRaRadio

------------------------------------------------------------
-- Unchanged Observations and Invariants
------------------------------------------------------------

namespace LoRaRadio

namespace Faulting

variable {ε σ τ α β : Type}

/- The observation `f` is the same in both states. -/
def Same
    (f : σ → τ)
    (s s' : σ) : Prop :=
  f s' = f s

instance
    (f : σ → τ) :
    Std.Refl (Same f) :=
  ⟨fun _ => rfl⟩

instance
    (f : σ → τ) :
    IsTrans σ (Same f) :=
  ⟨fun _ _ _ hFirst hSecond => hSecond.trans hFirst⟩

/- The predicate `I`, if it held before, holds after. -/
def Stays
    (I : σ → Prop)
    (s s' : σ) : Prop :=
  I s → I s'

instance
    (I : σ → Prop) :
    Std.Refl (Stays I) :=
  ⟨fun _ => id⟩

instance
    (I : σ → Prop) :
    IsTrans σ (Stays I) :=
  ⟨fun _ _ _ hFirst hSecond => hSecond ∘ hFirst⟩

/- A kept observation keeps what is known of it. -/
theorem Keeps.stays
    {f : σ → τ}
    {P : τ → Prop}
    {m : Faulting ε σ α}
    (hKeeps : Keeps (Same f) m) :
    Keeps (Stays fun s => P (f s)) m := by
  intro s hP
  have hSame : f (exec m s).2 = f s := hKeeps s
  rwa [hSame]

/- Whenever `m` returns, from any state, `P` holds. -/
def Ensures
    (P : σ → Prop)
    (m : Faulting ε σ α) : Prop :=
  ∀ s a s', exec m s = (.ok a, s') → P s'

/- What the last part of a sequence ensures holds. -/
theorem Ensures.bind
    {P : σ → Prop}
    {m : Faulting ε σ α}
    {f : α → Faulting ε σ β}
    (hSecond : ∀ a, Ensures P (f a)) :
    Ensures P (m >>= f) := by
  intro s b s' hRun
  rcases exec_bind_ok.mp hRun with ⟨a, s₁, -, hLast⟩
  exact hSecond a s₁ b s' hLast

/- What the first part ensures holds if the rest keeps it. -/
theorem Ensures.bind_keeps
    {P : σ → Prop}
    {m : Faulting ε σ α}
    {f : α → Faulting ε σ β}
    (hFirst : Ensures P m)
    (hRest : ∀ a, Keeps (Stays P) (f a)) :
    Ensures P (m >>= f) := by
  intro s b s' hRun
  rcases exec_bind_ok.mp hRun with ⟨a, s₁, hHead, hLast⟩
  have hKept := hRest a s₁ (hFirst s a s₁ hHead)
  rwa [hLast] at hKept

/- A kept relation, seen from a run with a known outcome. -/
theorem Keeps.of_exec
    {R : σ → σ → Prop}
    {m : Faulting ε σ α}
    {s s' : σ}
    {r : Except ε α}
    (hKeeps : Keeps R m)
    (hRun : exec m s = (r, s')) :
    R s s' := by
  have hKept := hKeeps s
  rwa [hRun] at hKept

end Faulting

end LoRaRadio

------------------------------------------------------------
-- Running on a Component of the State
------------------------------------------------------------

namespace LoRaRadio

namespace Faulting

variable {ε σ τ α β : Type}

/- Run a computation on one component of the state. -/
def zoom
    (l : Lens σ τ)
    (m : Faulting ε τ α) :
    Faulting ε σ α :=
  mk fun s =>
    let r := exec m (l.get s)
    (r.1, l.set r.2 s)

@[simp] theorem exec_zoom
    (l : Lens σ τ)
    (m : Faulting ε τ α)
    (s : σ) :
    exec (zoom l m) s =
      ((exec m (l.get s)).1,
        l.set (exec m (l.get s)).2 s) := rfl

theorem post_zoom
    (l : Lens σ τ)
    (m : Faulting ε τ α)
    (Q : α → σ → Prop)
    (E : ε → σ → Prop)
    (s : σ) :
    Post (zoom l m) Q E s ↔
      Post m (fun a t => Q a (l.set t s))
        (fun e t => E e (l.set t s)) (l.get s) := by
  unfold Post
  rw [exec_zoom]
  rcases exec m (l.get s) with ⟨e | a, t⟩ <;> rfl

theorem keeps_zoom
    {l : Lens σ τ}
    {R : σ → σ → Prop}
    {m : Faulting ε τ α}
    (hSet : ∀ t s, R s (l.set t s)) :
    Keeps R (zoom l m) :=
  fun s => hSet _ s

end Faulting

end LoRaRadio
