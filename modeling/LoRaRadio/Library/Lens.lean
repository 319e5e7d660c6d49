/-
  Components of a record that can be read and replaced.

  Main declarations:
    * `Lens`
    * `Lens.comp`
    * `Lens.Independent` and `Lens.Within`
-/

------------------------------------------------------------
-- Lenses
------------------------------------------------------------

namespace LoRaRadio

/- A component of `σ` that can be read and replaced. -/
structure Lens (σ τ : Type) where
  get : σ → τ
  set : τ → σ → σ
  get_set : ∀ t s, get (set t s) = t

attribute [simp] Lens.get_set

namespace Lens

variable {σ τ υ : Type}

/- A component of a component. -/
def comp
    (outer : Lens σ τ)
    (inner : Lens τ υ) :
    Lens σ υ where
  get s := inner.get (outer.get s)
  set u s := outer.set (inner.set u (outer.get s)) s
  get_set := by simp

end Lens

end LoRaRadio

------------------------------------------------------------
-- Independent Components
------------------------------------------------------------

namespace LoRaRadio

namespace Lens

variable {σ τ υ τ' υ' : Type}

/- Replacing the component `l` leaves the component `m`. -/
def Independent
    (l : Lens σ τ)
    (m : Lens σ υ) : Prop :=
  ∀ t s, m.get (l.set t s) = m.get s

/- The component `l` is a part of the component `p`. -/
structure Within
    (p : Lens σ τ)
    (l : Lens σ υ) : Prop where
  set : ∀ u s, ∃ t, l.set u s = p.set t s
  get : ∀ s s', p.get s = p.get s' → l.get s = l.get s'

theorem within_self
    (p : Lens σ τ) :
    Within p p :=
  ⟨fun t _ => ⟨t, rfl⟩, fun _ _ hSame => hSame⟩

theorem within_comp
    (p : Lens σ τ)
    (l : Lens τ υ) :
    Within p (p.comp l) :=
  ⟨fun _ _ => ⟨_, rfl⟩, fun _ _ hSame => congrArg l.get hSame⟩

/- Parts of independent components are independent. -/
theorem Independent.within
    {p : Lens σ τ}
    {q : Lens σ τ'}
    {l : Lens σ υ}
    {m : Lens σ υ'}
    (hApart : p.Independent q)
    (hLeft : p.Within l)
    (hRight : q.Within m) :
    l.Independent m := by
  intro u s
  rcases hLeft.set u s with ⟨t, hSet⟩
  rw [hSet]
  exact hRight.get _ _ (hApart t s)

end Lens

end LoRaRadio
