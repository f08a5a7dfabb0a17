import Mathlib.Data.List.Basic

/-!
# Library/Reactive — machines that answer every input with a list of outputs

A reactive machine is a total step `σ → ι → σ × List ω`.  `run` feeds it a list of inputs and
concatenates what it emits.  Two induction rules carry every run fact of the development:
`run_invariant` for the state alone and `run_history` for a relation between everything emitted so
far and the state.
-/

namespace Reactive

variable {σ ι ω : Type*} (step : σ → ι → σ × List ω)

/-- Feed the inputs in order: the state reached, and everything emitted on the way. -/
def run : σ → List ι → σ × List ω
  | s, [] => (s, [])
  | s, i :: is =>
    match step s i with
    | (s', out) =>
      match run s' is with
      | (t, rest) => (t, out ++ rest)

@[simp] theorem run_nil (s : σ) : run step s [] = (s, []) := rfl

@[simp] theorem run_cons (s : σ) (i : ι) (is : List ι) :
    run step s (i :: is)
      = ((run step (step s i).1 is).1, (step s i).2 ++ (run step (step s i).1 is).2) := rfl

theorem run_append (s : σ) (is js : List ι) :
    run step s (is ++ js)
      = ((run step (run step s is).1 js).1,
          (run step s is).2 ++ (run step (run step s is).1 js).2) := by
  induction is generalizing s with
  | nil => rfl
  | cons i is ih => simp only [List.cons_append, run_cons, ih, List.append_assoc]

theorem run_concat (s : σ) (is : List ι) (i : ι) :
    run step s (is ++ [i])
      = ((step (run step s is).1 i).1, (run step s is).2 ++ (step (run step s is).1 i).2) := by
  simp only [run_append, run_cons, run_nil, List.append_nil]

/-- **State rule.**  What every step keeps, every run keeps. -/
theorem run_invariant {I : σ → Prop} (hstep : ∀ s i, I s → I (step s i).1) {s : σ} (hs : I s)
    (is : List ι) : I (run step s is).1 := by
  induction is generalizing s with
  | nil => exact hs
  | cons i is ih => exact ih (hstep s i hs)

/-- **History rule.**  A relation between the outputs so far and the state, kept by every step,
holds of everything a run has emitted and the state it ends in. -/
theorem run_history {H : List ω → σ → Prop}
    (hstep : ∀ out s i, H out s → H (out ++ (step s i).2) (step s i).1) {out : List ω} {s : σ}
    (hs : H out s) (is : List ι) : H (out ++ (run step s is).2) (run step s is).1 := by
  induction is generalizing out s with
  | nil => simpa using hs
  | cons i is ih =>
    simpa only [run_cons, List.append_assoc] using ih (hstep out s i hs)

/-- **Output rule.**  All outputs of a run have a property exactly when those of each of its steps
have. -/
theorem forall_run_iff {P : ω → Prop} (s : σ) (is : List ι) :
    (∀ o ∈ (run step s is).2, P o)
      ↔ ∀ before i after, is = before ++ i :: after →
        ∀ o ∈ (step (run step s before).1 i).2, P o := by
  induction is generalizing s with
  | nil => exact ⟨fun _ before i after h => absurd h (by simp), fun _ => nofun⟩
  | cons i is ih =>
    rw [run_cons, List.forall_mem_append, ih]
    constructor
    · rintro ⟨hhead, htail⟩ before j after h
      cases before with
      | nil =>
        obtain ⟨rfl, rfl⟩ := List.cons.inj h
        exact hhead
      | cons b before =>
        obtain ⟨rfl, hrest⟩ := List.cons.inj h
        exact htail before j after hrest
    · intro h
      refine ⟨h [] i is rfl, fun before j after hsplit => ?_⟩
      exact h (i :: before) j after (congrArg (i :: ·) hsplit)

/-- **Refinement rule.**  A map of states that turns every step into a step of another machine with
the same outputs turns every run into a run of it. -/
theorem run_refines {τ : Type*} {step : σ → ι → σ × List ω} {spec : τ → ι → τ × List ω} {f : σ → τ}
    (h : ∀ s i, (step s i).map f id = spec (f s) i) (s : σ) (is : List ι) :
    (run step s is).map f id = run spec (f s) is := by
  induction is generalizing s with
  | nil => rfl
  | cons i is ih =>
    have hrest := ih (step s i).1
    rw [run_cons, run_cons, ← h s i]
    rw [Prod.map_fst, ← hrest]
    rfl

end Reactive
