import Mathlib.Data.List.Basic

/-
  Cutting frames out of a stream.

  A recognizer looks at the front of what has arrived: it
  finds a frame, finds that none starts here, or needs more.
  A recognizer that never changes its mind when more arrives
  finds the same frames however the stream was cut into
  pieces.

  Main declarations:
    * `Scanning.Recognizer` and `Scanning.Stable`
    * `Scanning.scan`
    * `Scanning.scan_frames`
    * `Scanning.Resumes` and `Scanning.Resumes.of_frames`
-/

------------------------------------------------------------
-- Recognizers
------------------------------------------------------------

namespace LoRaRadio

namespace Scanning

variable {α : Type}

/- What a recognizer says about the front of a stream. -/
inductive Verdict
  | frame (size : Nat)
  | skip
  | more
deriving DecidableEq, Repr

abbrev Recognizer (α : Type) :=
  List α → Verdict

/-
  Frames and items to skip are there, and more input does
  not change what has been found.
-/
structure Stable
    (r : Recognizer α) : Prop where
  frame_fits :
    ∀ xs n, r xs = .frame n → 0 < n ∧ n ≤ xs.length
  skip_fits : ∀ xs, r xs = .skip → xs ≠ []
  frame_append :
    ∀ xs ys n, r xs = .frame n → r (xs ++ ys) = .frame n
  skip_append :
    ∀ xs ys, r xs = .skip → r (xs ++ ys) = .skip

/-
  The frames found by `fuel` verdicts, and what is left of
  the stream.
-/
def scanFrom
    (r : Recognizer α) :
    Nat → List α → List (List α) × List α
| 0, xs => ([], xs)
| fuel + 1, xs =>
    match r xs with
    | .more => ([], xs)
    | .skip => scanFrom r fuel xs.tail
    | .frame n =>
        let rest := scanFrom r fuel (xs.drop n)
        (xs.take n :: rest.1, rest.2)

/- All frames of a stream, and what is left of it. -/
def scan
    (r : Recognizer α)
    (xs : List α) : List (List α) × List α :=
  scanFrom r xs.length xs

end Scanning

end LoRaRadio

------------------------------------------------------------
-- Scanning to the End
------------------------------------------------------------

namespace LoRaRadio

namespace Scanning

variable {α : Type}
variable {r : Recognizer α}
variable {xs : List α}

theorem Stable.nil
    (hStable : Stable r) :
    r [] = .more := by
  cases hVerdict : r [] with
  | frame n =>
      have hFits := hStable.frame_fits [] n hVerdict
      exact absurd (Nat.lt_of_lt_of_le hFits.1 hFits.2)
        (Nat.lt_irrefl 0)
  | skip => exact absurd rfl (hStable.skip_fits [] hVerdict)
  | more => rfl

/- Every verdict that goes on takes something. -/
theorem Stable.length_lt
    (hStable : Stable r)
    {n : Nat}
    (hFrame : r xs = .frame n) :
    (xs.drop n).length < xs.length := by
  have hFits := hStable.frame_fits xs n hFrame
  rw [List.length_drop]
  omega

/- More verdicts than items make no difference. -/
theorem scanFrom_congr
    (hStable : Stable r)
    {fuel fuel' : Nat}
    (hEnough : xs.length ≤ fuel)
    (hEnough' : xs.length ≤ fuel') :
    scanFrom r fuel xs = scanFrom r fuel' xs := by
  induction fuel generalizing xs fuel' with
  | zero =>
      have hNil := List.length_eq_zero_iff.mp
        (Nat.le_zero.mp hEnough)
      subst hNil
      cases fuel' with
      | zero => rfl
      | succ fuel' =>
          unfold scanFrom
          rw [hStable.nil]
  | succ fuel ih =>
      cases fuel' with
      | zero =>
          have hNil := List.length_eq_zero_iff.mp
            (Nat.le_zero.mp hEnough')
          subst hNil
          unfold scanFrom
          rw [hStable.nil]
      | succ fuel' =>
          unfold scanFrom
          cases hVerdict : r xs with
          | more => rfl
          | skip =>
              have hTail : xs.tail.length < xs.length := by
                have hSome := List.length_pos_iff.mpr
                  (hStable.skip_fits xs hVerdict)
                rw [List.length_tail]
                omega
              exact ih (by omega) (by omega)
          | frame n =>
              have hDrop := hStable.length_lt hVerdict
              have hRest :
                  scanFrom r fuel (xs.drop n) =
                    scanFrom r fuel' (xs.drop n) :=
                ih (by omega) (by omega)
              dsimp only
              rw [hRest]

theorem scan_more
    (hVerdict : r xs = .more) :
    scan r xs = ([], xs) := by
  unfold scan
  cases xs with
  | nil => rfl
  | cons x xs =>
      rw [List.length_cons]
      unfold scanFrom
      rw [hVerdict]

section

variable (hStable : Stable r)
include hStable

theorem scan_skip
    (hVerdict : r xs = .skip) :
    scan r xs = scan r xs.tail := by
  cases xs with
  | nil => exact absurd rfl (hStable.skip_fits [] hVerdict)
  | cons x xs =>
      unfold scan
      rw [List.length_cons]
      conv => lhs; unfold scanFrom
      rw [hVerdict]
      rfl

theorem scan_frame
    {n : Nat}
    (hVerdict : r xs = .frame n) :
    scan r xs =
      (xs.take n :: (scan r (xs.drop n)).1,
        (scan r (xs.drop n)).2) := by
  have hDrop := hStable.length_lt hVerdict
  cases xs with
  | nil => cases hStable.nil.symm.trans hVerdict
  | cons x xs =>
      have hRest :
          scanFrom r xs.length ((x :: xs).drop n) =
            scan r ((x :: xs).drop n) :=
        scanFrom_congr hStable (Nat.le_of_lt_succ hDrop)
          (Nat.le_refl _)
      rw [← hRest]
      unfold scan
      rw [List.length_cons]
      conv => lhs; unfold scanFrom
      rw [hVerdict]

/- Frames that are sent one after the other are found. -/
theorem scan_frames
    {frames : List (List α)}
    (hFrames : ∀ f ∈ frames, r f = .frame f.length)
    (rest : List α) :
    scan r (frames.flatten ++ rest) =
      (frames ++ (scan r rest).1, (scan r rest).2) := by
  induction frames with
  | nil => rfl
  | cons f frames ih =>
      have hHead := hFrames f List.mem_cons_self
      have hTail := ih fun g hMem =>
        hFrames g (List.mem_cons_of_mem _ hMem)
      rw [List.flatten_cons, List.append_assoc,
        scan_frame hStable
          (hStable.frame_append f _ _ hHead),
        List.take_left, List.drop_left, hTail]
      rfl

end

end Scanning

end LoRaRadio

------------------------------------------------------------
-- Scanning in Steps
------------------------------------------------------------

namespace LoRaRadio

namespace Scanning

variable {α : Type}

/-
  Some verdicts lead from the stream `xs` to what is left of
  it, `ys`, and find the frames `found` on the way.
-/
inductive Resumes
    (r : Recognizer α) :
    List α → List (List α) → List α → Prop
  | refl (xs : List α) : Resumes r xs [] xs
  | skip
      {xs ys : List α}
      {found : List (List α)}
      (hVerdict : r xs = .skip)
      (hRest : Resumes r xs.tail found ys) :
      Resumes r xs found ys
  | frame
      {xs ys : List α}
      {found : List (List α)}
      {n : Nat}
      (hVerdict : r xs = .frame n)
      (hRest : Resumes r (xs.drop n) found ys) :
      Resumes r xs (xs.take n :: found) ys

variable {r : Recognizer α}
variable {xs ys zs : List α}
variable {found found' : List (List α)}

theorem resumes_skip
    (hVerdict : r xs = .skip) :
    Resumes r xs [] xs.tail :=
  .skip hVerdict (.refl _)

theorem resumes_frame
    {n : Nat}
    (hVerdict : r xs = .frame n) :
    Resumes r xs [xs.take n] (xs.drop n) :=
  .frame hVerdict (.refl _)

theorem Resumes.trans
    (hFirst : Resumes r xs found ys)
    (hSecond : Resumes r ys found' zs) :
    Resumes r xs (found ++ found') zs := by
  induction hFirst with
  | refl xs => exact hSecond
  | skip hVerdict _ ih => exact .skip hVerdict (ih hSecond)
  | frame hVerdict _ ih => exact .frame hVerdict (ih hSecond)

section

variable (hStable : Stable r)
include hStable

/- What arrives later does not change what was found. -/
theorem Resumes.append
    (hResumes : Resumes r xs found ys)
    (zs : List α) :
    Resumes r (xs ++ zs) found (ys ++ zs) := by
  induction hResumes with
  | refl xs => exact .refl _
  | skip hVerdict _ ih =>
      have hSome := hStable.skip_fits _ hVerdict
      apply Resumes.skip (hStable.skip_append _ _ hVerdict)
      rw [List.tail_append_of_ne_nil hSome]
      exact ih
  | frame hVerdict _ ih =>
      have hFits := hStable.frame_fits _ _ hVerdict
      have hStep :=
        Resumes.frame (hStable.frame_append _ zs _ hVerdict)
          (by
            rw [List.drop_append_of_le_length hFits.2]
            exact ih)
      rwa [List.take_append_of_le_length hFits.2] at hStep

/- The scan goes on where the verdicts have led. -/
theorem Resumes.scan_eq
    (hResumes : Resumes r xs found ys) :
    scan r xs =
      (found ++ (scan r ys).1, (scan r ys).2) := by
  induction hResumes with
  | refl xs => rfl
  | skip hVerdict _ ih =>
      rw [scan_skip hStable hVerdict, ih]
  | frame hVerdict _ ih =>
      rw [scan_frame hStable hVerdict, ih]
      rfl

theorem Resumes.finished
    (hResumes : Resumes r xs found ys)
    (hVerdict : r ys = .more) :
    scan r xs = (found, ys) := by
  rw [hResumes.scan_eq hStable, scan_more hVerdict,
    List.append_nil]

/-
  In front of a stream of frames, as far as it has arrived,
  is the first frame or a part of it, and after the frames
  nothing that is found.
-/
theorem front_of_frames
    {frames : List (List α)}
    {rest : List α}
    (hFrames : ∀ f ∈ frames, r f = .frame f.length)
    (hRest : ∀ zs, zs <+: rest → r zs = .more)
    (hArrived : xs <+: frames.flatten ++ rest) :
    r xs ≠ .skip ∧
      ∀ n, r xs = .frame n →
        ∃ f later tail,
          frames = f :: later ∧ n = f.length ∧
            xs = f ++ tail := by
  cases frames with
  | nil =>
      have hMore := hRest xs hArrived
      rw [hMore]
      exact ⟨nofun, nofun⟩
  | cons f later =>
      rcases hArrived with ⟨missing, hAll⟩
      rw [List.flatten_cons, List.append_assoc] at hAll
      have hFound : r (xs ++ missing) = .frame f.length := by
        rw [hAll]
        exact hStable.frame_append _ _ _
          (hFrames f List.mem_cons_self)
      constructor
      · intro hSkip
        rw [hStable.skip_append _ missing hSkip] at hFound
        cases hFound
      · intro n hFrame
        rw [hStable.frame_append _ missing n hFrame] at hFound
        cases hFound
        have hFits := (hStable.frame_fits _ _ hFrame).2
        have hPrefix : f <+: xs ++ missing := ⟨_, hAll.symm⟩
        rcases List.prefix_of_prefix_length_le hPrefix
          (List.prefix_append _ _) hFits with ⟨tail, hTail⟩
        exact ⟨f, later, tail, rfl, rfl, hTail.symm⟩

/-
  In such a stream every verdict but the last finds a frame:
  nothing is skipped.
-/
theorem Resumes.of_frames
    {frames : List (List α)}
    {rest : List α}
    (hFrames : ∀ f ∈ frames, r f = .frame f.length)
    (hRest : ∀ zs, zs <+: rest → r zs = .more)
    (hResumes : Resumes r xs found ys)
    (hArrived : xs <+: frames.flatten ++ rest) :
    r ys ≠ .skip := by
  induction hResumes generalizing frames with
  | refl xs =>
      exact (front_of_frames hStable hFrames hRest hArrived).1
  | skip hVerdict _ _ =>
      exact absurd hVerdict
        (front_of_frames hStable hFrames hRest hArrived).1
  | frame hVerdict _ ih =>
      rcases (front_of_frames hStable hFrames hRest hArrived).2
          _ hVerdict with ⟨f, later, tail, rfl, rfl, rfl⟩
      rw [List.flatten_cons, List.append_assoc] at hArrived
      rw [List.drop_left] at ih
      exact ih
        (fun g hMem => hFrames g (List.mem_cons_of_mem _ hMem))
        ((List.prefix_append_right_inj f).mp hArrived)

end

end Scanning

end LoRaRadio
