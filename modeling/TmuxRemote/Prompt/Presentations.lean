import TmuxRemote.Prompt.Lifecycle

/-!
# Prompt/Presentations — the grammar of the event trace

A **presentation** is one prompt's time on show: a `present` at revision `1`, then `update`s of the
same id at revisions `2, 3, …`, and in the end a `gone`.  Whatever the calls, the trace is a
sequence of whole presentations with at most one more that is still open (`trace_presentations`),
and the stored instance is the one the open presentation showed last.
-/

namespace TmuxRemote

/-- One prompt's time on show: the instance of its `present` and those of its `update`s. -/
structure Presentation where
  first : PromptInstance
  updates : List PromptInstance
  firstRevision : first.revision = 1
  revisions : ∀ i inst, updates[i]? = some inst → inst.revision = UInt32.ofNat (i + 2)
  sameId : ∀ inst ∈ updates, inst.instanceId = first.instanceId

namespace Presentation

/-- The instance shown last. -/
def current (p : Presentation) : PromptInstance := p.updates.getLast?.getD p.first

/-- The events of a presentation that is still open. -/
def openEvents (p : Presentation) : List PromptEvent := .present p.first :: p.updates.map .update

/-- The events of a presentation that is over. -/
def closedEvents (p : Presentation) : List PromptEvent := p.openEvents ++ [.gone p.first.instanceId]

/-- A fresh presentation. -/
def start (inst : PromptInstance) (h : inst.revision = 1) : Presentation where
  first := inst
  updates := []
  firstRevision := h
  revisions := fun _ _ hi => by simp at hi
  sameId := fun _ hi => absurd hi List.not_mem_nil

theorem current_instanceId (p : Presentation) : p.current.instanceId = p.first.instanceId := by
  rw [current]
  cases hlast : p.updates.getLast? with
  | none => rfl
  | some inst => exact p.sameId inst (List.mem_of_getLast? hlast)

/-- The revision shown last counts the events so far. -/
theorem current_revision (p : Presentation) :
    p.current.revision = UInt32.ofNat (p.updates.length + 1) := by
  rw [current]
  rcases List.eq_nil_or_concat p.updates with hnil | ⟨front, inst, hconcat⟩
  · rw [hnil]
    exact p.firstRevision
  · have hlast : p.updates[front.length]? = some inst := by
      rw [hconcat, List.concat_eq_append, List.getElem?_concat_length]
    have hrev := p.revisions front.length inst hlast
    rw [hconcat, List.concat_eq_append, List.getLast?_concat, Option.getD_some, hrev,
      List.length_append, List.length_singleton]

/-- One more update. -/
def extend (p : Presentation) (inst : PromptInstance) (hid : inst.instanceId = p.first.instanceId)
    (hrev : inst.revision = p.current.revision + 1) : Presentation where
  first := p.first
  updates := p.updates ++ [inst]
  firstRevision := p.firstRevision
  revisions := by
    intro i upd hi
    rcases Nat.lt_or_ge i p.updates.length with hlt | hge
    · rw [List.getElem?_append_left hlt] at hi
      exact p.revisions i upd hi
    · rw [List.getElem?_append_right hge] at hi
      obtain ⟨hzero, rfl⟩ : i - p.updates.length = 0 ∧ inst = upd := by
        rw [List.getElem?_singleton] at hi
        split at hi
        · exact ⟨‹_›, Option.some.inj hi⟩
        · exact absurd hi (by simp)
      rw [hrev, p.current_revision, show i = p.updates.length by omega]
      exact (UInt32.ofNat_add _ 1).symm
  sameId := by
    intro upd hupd
    rcases List.mem_append.mp hupd with h | h
    · exact p.sameId upd h
    · rw [List.mem_singleton.mp h]
      exact hid

theorem openEvents_extend (p : Presentation) (inst : PromptInstance)
    (hid : inst.instanceId = p.first.instanceId) (hrev : inst.revision = p.current.revision + 1) :
    (p.extend inst hid hrev).openEvents = p.openEvents ++ [.update inst] := by
  rw [openEvents, openEvents, extend, List.map_append, List.cons_append]
  rfl

theorem current_extend (p : Presentation) (inst : PromptInstance)
    (hid : inst.instanceId = p.first.instanceId) (hrev : inst.revision = p.current.revision + 1) :
    (p.extend inst hid hrev).current = inst := by
  rw [current, extend, List.getLast?_concat]
  rfl

end Presentation

/-! ## Traces -/

/-- The trace is whole presentations and at most one open one, and the open one shows `shown`. -/
def Presented (trace : List PromptEvent) (shown : Option PromptInstance) : Prop :=
  ∃ (closed : List Presentation) (last : Option Presentation),
    trace = closed.flatMap Presentation.closedEvents ++ last.elim [] Presentation.openEvents
      ∧ shown = last.map Presentation.current

namespace Presented

variable {trace : List PromptEvent} {active inst : PromptInstance}

theorem nil : Presented [] none := ⟨[], none, rfl, rfl⟩

/-- With nothing on show, a `present` opens a presentation. -/
theorem present (h : Presented trace none) (hrev : inst.revision = 1) :
    Presented (trace ++ [.present inst]) (some inst) := by
  obtain ⟨closed, last, htrace, hshown⟩ := h
  obtain rfl : last = none := Option.map_eq_none_iff.mp hshown.symm
  refine ⟨closed, some (Presentation.start inst hrev), ?_, rfl⟩
  rw [htrace, Option.elim_none, List.append_nil]
  rfl

/-- An `update` carries the open presentation on. -/
theorem update (h : Presented trace (some active)) (hid : inst.instanceId = active.instanceId)
    (hrev : inst.revision = active.revision + 1) :
    Presented (trace ++ [.update inst]) (some inst) := by
  obtain ⟨closed, last, htrace, hshown⟩ := h
  obtain ⟨p, rfl, rfl⟩ := Option.map_eq_some_iff.mp hshown.symm
  refine ⟨closed, some (p.extend inst (hid.trans p.current_instanceId) hrev), ?_, ?_⟩
  · rw [htrace, Option.elim_some, Option.elim_some, p.openEvents_extend, List.append_assoc]
  · rw [Option.map_some, p.current_extend]

/-- A `gone` of the prompt on show closes its presentation. -/
theorem gone (h : Presented trace (some active)) :
    Presented (trace ++ [.gone active.instanceId]) none := by
  obtain ⟨closed, last, htrace, hshown⟩ := h
  obtain ⟨p, rfl, rfl⟩ := Option.map_eq_some_iff.mp hshown.symm
  refine ⟨closed ++ [p], none, ?_, rfl⟩
  rw [htrace, p.current_instanceId, Option.elim_some, Option.elim_none, List.append_nil,
    List.flatMap_append, List.flatMap_singleton, Presentation.closedEvents, List.append_assoc]

end Presented

/-! ## Every call keeps the grammar -/

namespace PromptPhase

variable {trace : List PromptEvent} {p : PromptPhase}

theorem absent_presented (h : Presented trace p.shown) (isHeld : Bool) :
    Presented (trace ++ (p.absent isHeld).2) (p.absent isHeld).1.shown := by
  cases hshown : p.shown with
  | none =>
    rw [absent_idle hshown, List.append_nil]
    exact h
  | some active =>
    by_cases hlt : p.absences + 1 < promptAbsenceSnapshots
    · rw [absent_wait hshown hlt, List.append_nil]
      exact h
    · rw [absent_gone hshown hlt]
      rw [hshown] at h
      exact h.gone

theorem sighted_presented (h : Presented trace p.shown) (inst : PromptInstance) :
    Presented (trace ++ (p.sighted inst).2) (p.sighted inst).1.shown := by
  cases hshown : p.shown with
  | none =>
    rw [sighted_idle hshown]
    rw [hshown] at h
    exact h.present (inst.withRevision_revision 1)
  | some active =>
    by_cases hid : active.instanceId = inst.instanceId
    · cases hsem : active.sameSemantics inst with
      | true =>
        rw [sighted_same hshown hid hsem, List.append_nil]
        rw [hshown] at h
        exact h
      | false =>
        rw [sighted_changed hshown hid hsem]
        rw [hshown] at h
        exact h.update hid.symm (inst.withRevision_revision _)
    · rw [sighted_other hshown hid]
      rw [hshown] at h
      have hpresent := h.gone.present (inst.withRevision_revision 1)
      rwa [List.append_assoc] at hpresent

theorem observe_presented (h : Presented trace p.shown) (o : Option PromptInstance) :
    Presented (trace ++ (p.observe o).2) (p.observe o).1.shown := by
  cases o with
  | none => exact absent_presented h false
  | some inst =>
    by_cases hheld : p.held = some inst.instanceId
    · rw [observe_held hheld]
      exact absent_presented h true
    · rw [observe_new hheld]
      exact sighted_presented h inst

theorem answered_presented (h : Presented trace p.shown) (instanceId : CString) :
    Presented (trace ++ (p.answered instanceId).2) (p.answered instanceId).1.shown := by
  cases hempty : instanceId.isEmpty with
  | true =>
    rw [answered_empty hempty, List.append_nil]
    exact h
  | false =>
    by_cases hid : ∃ active, p.shown = some active ∧ active.instanceId.text = instanceId
    · obtain ⟨active, hshown, hid⟩ := hid
      rw [answered_shown hempty hshown hid]
      rw [hshown] at h
      exact h.gone
    · rw [answered_other hempty fun active hshown hsame => hid ⟨active, hshown, hsame⟩,
        List.append_nil]
      exact h

theorem step_presented (ids : IdScheme) (h : Presented trace p.shown) (call : LifecycleCall) :
    Presented (trace ++ (p.step ids call).2) (p.step ids call).1.shown := by
  cases call with
  | process candidate snapshotSequence => exact observe_presented h _
  | resolve instanceId => exact answered_presented h instanceId

end PromptPhase

/-- The invariant over runs: the trace is presented and shows the stored instance. -/
theorem PromptLifecycle.run_presented (ids : IdScheme) (calls : List LifecycleCall) :
    Presented (Reactive.run (PromptLifecycle.step ids) .init calls).2
      (PromptLifecycle.after ids calls).active := by
  have hphase : Presented (Reactive.run (PromptPhase.step ids) .idle calls).2
      (Reactive.run (PromptPhase.step ids) .idle calls).1.shown := by
    have hstep (trace : List PromptEvent) (p : PromptPhase) (call : LifecycleCall)
        (h : Presented trace p.shown) :
        Presented (trace ++ (p.step ids call).2) (p.step ids call).1.shown :=
      PromptPhase.step_presented ids h call
    have hstart : Presented [] PromptPhase.idle.shown := Presented.nil
    exact Reactive.run_history (PromptPhase.step ids) hstep hstart calls
  rw [← PromptLifecycle.phase_init, ← PromptLifecycle.run_refines] at hphase
  exact hphase

/-- **The event grammar.**  After any calls the trace is a sequence of whole presentations and at
most one open one; `has_active` says whether there is an open one, and `copy_active` returns the
instance it showed last. -/
theorem trace_presentations (ids : IdScheme) (calls : List LifecycleCall) :
    ∃ (closed : List Presentation) (last : Option Presentation),
      (Reactive.run (PromptLifecycle.step ids) .init calls).2
          = closed.flatMap Presentation.closedEvents ++ last.elim [] Presentation.openEvents
        ∧ (PromptLifecycle.after ids calls).hasActive = last.isSome
        ∧ (PromptLifecycle.after ids calls).copyActive
          = last.map Presentation.current := by
  obtain ⟨closed, last, htrace, hshown⟩ := PromptLifecycle.run_presented ids calls
  refine ⟨closed, last, htrace, ?_, ?_⟩
  · rw [PromptLifecycle.hasActive, hshown, Option.isSome_map]
  · rw [PromptLifecycle.copyActive, hshown, Option.map_map]
    exact congrArg (fun f => last.map f) (funext fun p => p.current.copy_eq)

end TmuxRemote
