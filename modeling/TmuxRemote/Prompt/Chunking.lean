import TmuxRemote.Prompt.Detector

/-!
# Prompt/Chunking — when the events do not depend on how the bytes are cut

A feed looks at the screen once, at the end of its chunk, so a cut decides which intermediate
screens are seen.  The events are the same for every cut exactly when the bytes are **steady**:
every intermediate screen shows what the final one shows or nothing, and once the prompt has been on
the screen, it is missing at no two later places (`chunkInvariant_iff`).

The menu whose last label is written letter by letter is not steady (`menu_not_chunkInvariant`).
-/

namespace TmuxRemote

/-- What tells two events apart: the kind, the id and the revision. -/
def PromptEvent.key : PromptEvent → ℕ × InstanceId × Option UInt32
  | .present inst => (0, inst.instanceId, some inst.revision)
  | .update inst => (1, inst.instanceId, some inst.revision)
  | .gone id => (2, id, none)

namespace PromptDetector

section

variable (compile : RegexCompiler) (ids : IdScheme) (d : PromptDetector)

/-- What a run of feeds shows to the outside: its events and the prompt active in the end. -/
def observed (chunks : List (List UInt8)) :
    List (ℕ × InstanceId × Option UInt32) × Option PromptInstance :=
  ((Reactive.run (feed compile ids) d chunks).2.map PromptEvent.key,
    (Reactive.run (feed compile ids) d chunks).1.copyActive)

/-- The chunks are a way of splitting the bytes into non-empty pieces. -/
def IsCut (bytes : List UInt8) (chunks : List (List UInt8)) : Prop :=
  (∀ chunk ∈ chunks, chunk ≠ []) ∧ chunks.flatten = bytes

/-- Every two cuts of the bytes show the same. -/
def ChunkInvariant (bytes : List UInt8) : Prop :=
  ∀ chunks₁ chunks₂, IsCut bytes chunks₁ → IsCut bytes chunks₂ →
    d.observed compile ids chunks₁ = d.observed compile ids chunks₂

/-- Every intermediate screen shows nothing or what the last one shows, and after the first that
shows something no two show nothing. -/
def Steady (bytes : List UInt8) : Prop :=
  (∀ x y, x ≠ [] → bytes = x ++ y →
      d.sight compile x = none ∨ d.sight compile x = d.sight compile bytes)
    ∧ ∀ x y z w, x ≠ [] → y ≠ [] → z ≠ [] → bytes = x ++ y ++ z ++ w →
        d.sight compile x ≠ none → d.sight compile (x ++ y) = none →
        d.sight compile (x ++ y ++ z) ≠ none

end

variable (compile : RegexCompiler) (ids : IdScheme) {d : PromptDetector}

/-- What is shown is read off the phase machine. -/
theorem observed_eq {bytes : List UInt8} {chunks : List (List UInt8)} (h : IsCut bytes chunks) :
    d.observed compile ids chunks
      = ((Reactive.run (PromptPhase.look ids) d.lifecycle.phase
        (d.sightings compile [] chunks)).2.map
            PromptEvent.key,
          (Reactive.run (PromptPhase.look ids) d.lifecycle.phase
            (d.sightings compile [] chunks)).1.shown) := by
  have hrun := run_feed_refines compile ids d h.1
  rw [observed, ← hrun, copyActive, PromptLifecycle.copyActive]
  refine Prod.ext rfl ?_
  change Option.map PromptInstance.copy _ = _
  rw [show PromptInstance.copy = id from funext PromptInstance.copy_eq, Option.map_id]
  rfl

/-! ## Steady bytes -/

/-- The instance a fresh detector presents for a candidate. -/
def firstShown (c : PromptCandidate) : PromptInstance :=
  (candidateToInstanceWithId ids c).withRevision 1

/-- Where a fresh detector stands after the chunks so far of steady bytes that end on `c`. -/
inductive Waiting (compile : RegexCompiler) (ids : IdScheme) (d : PromptDetector)
    (c : PromptCandidate) (before : List UInt8) : PromptPhase → List PromptEvent → Prop
  | unseen (h : before = [] ∨ d.sight compile before = none) :
      Waiting compile ids d c before .idle []
  | shown (hne : before ≠ []) (h : d.sight compile before = some c) :
      Waiting compile ids d c before ⟨some (firstShown ids c), 0, none⟩
        [.present (firstShown ids c)]
  | missed (x y : List UInt8) (hsplit : before = x ++ y) (hx : x ≠ []) (hy : y ≠ [])
      (hseen : d.sight compile x ≠ none) (h : d.sight compile before = none) :
      Waiting compile ids d c before ⟨some (firstShown ids c), 1, none⟩
        [.present (firstShown ids c)]

end PromptDetector

/-! ## One look at a time -/

namespace PromptPhase

variable (ids : IdScheme)

theorem look_idle_none : PromptPhase.idle.look ids none = (PromptPhase.idle, []) := rfl

theorem look_idle_some (c : PromptCandidate) :
    PromptPhase.idle.look ids (some c)
      = (⟨some (PromptDetector.firstShown ids c), 0, none⟩,
          [.present (PromptDetector.firstShown ids c)]) := rfl

theorem look_shown_none (inst : PromptInstance) :
    (⟨some inst, 0, none⟩ : PromptPhase).look ids none = (⟨some inst, 1, none⟩, []) := rfl

theorem look_missed_none (inst : PromptInstance) :
    (⟨some inst, 1, none⟩ : PromptPhase).look ids none
      = (PromptPhase.idle, [.gone inst.instanceId]) := rfl

/-- Seeing the prompt on show again only resets the counter. -/
theorem look_same (c : PromptCandidate) (absences : ℕ) :
    (⟨some (PromptDetector.firstShown ids c), absences, none⟩ : PromptPhase).look ids (some c)
      = (⟨some (PromptDetector.firstShown ids c), 0, none⟩, []) := by
  have hsem : (PromptDetector.firstShown ids c).sameSemantics (candidateToInstanceWithId ids c)
      = true := PromptInstance.sameSemantics_iff.mpr ⟨rfl, rfl, rfl, rfl, rfl⟩
  rw [look, Option.map_some, observe_new (by simp)]
  exact sighted_same rfl rfl hsem

/-- Seeing anything else does not pass silently. -/
theorem look_other {c e : PromptCandidate} (h : c ≠ e) (absences : ℕ) :
    ((⟨some (PromptDetector.firstShown ids c), absences, none⟩ : PromptPhase).look ids
      (some e)).2 ≠ [] := by
  rw [look, Option.map_some, observe_new (by simp)]
  by_cases hid : ids c = ids e
  · have hsem : (PromptDetector.firstShown ids c).sameSemantics (candidateToInstanceWithId ids e)
        = false := by
      refine Bool.eq_false_iff.mpr fun hsame => h ?_
      exact PromptCandidate.sameSemantics_toInstance.mp hsame
    rw [sighted_changed rfl hid hsem]
    exact List.cons_ne_nil _ _
  · rw [sighted_other rfl hid]
    exact List.cons_ne_nil _ _

end PromptPhase

namespace PromptDetector

variable {compile : RegexCompiler} {ids : IdScheme} {d : PromptDetector} {bytes : List UInt8}

/-! ## Steady bytes are chunk invariant -/

/-- One more chunk of steady bytes keeps a fresh detector waiting. -/
theorem Waiting.look {c : PromptCandidate} {before chunk after : List UInt8} {p : PromptPhase}
    {out : List PromptEvent} (hsteady : d.Steady compile bytes)
    (hend : d.sight compile bytes = some c) (hchunk : chunk ≠ [])
    (hbytes : bytes = before ++ chunk ++ after) (h : Waiting compile ids d c before p out) :
    Waiting compile ids d c (before ++ chunk)
      (p.look ids (d.sight compile (before ++ chunk))).1
      (out ++ (p.look ids (d.sight compile (before ++ chunk))).2) := by
  have hne : before ++ chunk ≠ [] := List.append_ne_nil_of_right_ne_nil _ hchunk
  rcases hsight : d.sight compile (before ++ chunk) with - | e
  · cases h with
    | unseen _ => exact .unseen (Or.inr hsight)
    | shown hbefore hseen =>
      refine .missed before chunk rfl hbefore hchunk ?_ hsight
      rw [hseen]
      exact Option.some_ne_none c
    | missed x y hsplit hx hy hseen hnone =>
      subst hsplit
      exact absurd hsight (hsteady.2 x y chunk after hx hy hchunk hbytes hseen hnone)
  · obtain rfl : e = c := by
      rcases hsteady.1 _ after hne hbytes with hnone | hsame
      · exact absurd (hsight.symm.trans hnone) (by simp)
      · exact Option.some.inj (hsight.symm.trans (hsame.trans hend))
    cases h with
    | unseen _ => exact .shown hne hsight
    | shown _ _ =>
      rw [PromptPhase.look_same]
      exact .shown hne hsight
    | missed _ _ _ _ _ _ _ =>
      rw [PromptPhase.look_same]
      exact .shown hne hsight

/-- Any cut of what is left of steady bytes keeps a fresh detector waiting. -/
theorem Waiting.run {c : PromptCandidate} {before : List UInt8} {chunks : List (List UInt8)}
    {p : PromptPhase} {out : List PromptEvent} (hsteady : d.Steady compile bytes)
    (hend : d.sight compile bytes = some c) (hchunks : ∀ chunk ∈ chunks, chunk ≠ [])
    (hbytes : bytes = before ++ chunks.flatten) (h : Waiting compile ids d c before p out) :
    Waiting compile ids d c bytes
      (Reactive.run (PromptPhase.look ids) p (d.sightings compile before chunks)).1
      (out ++ (Reactive.run (PromptPhase.look ids) p (d.sightings compile before chunks)).2) := by
  induction chunks generalizing before p out with
  | nil =>
    rw [List.flatten_nil, List.append_nil] at hbytes
    rw [sightings, Reactive.run_nil, List.append_nil, hbytes]
    exact h
  | cons chunk chunks ih =>
    rw [List.flatten_cons, ← List.append_assoc] at hbytes
    rw [sightings, Reactive.run_cons, ← List.append_assoc]
    exact ih (fun c hc => hchunks c (List.mem_cons_of_mem _ hc)) hbytes
      (h.look hsteady hend (hchunks chunk List.mem_cons_self) hbytes)

/-- While nothing is seen, nothing happens. -/
theorem run_look_none {sights : List (Option PromptCandidate)} (h : ∀ o ∈ sights, o = none) :
    Reactive.run (PromptPhase.look ids) .idle sights = (.idle, []) := by
  induction sights with
  | nil => rfl
  | cons o sights ih =>
    obtain rfl := h o List.mem_cons_self
    rw [Reactive.run_cons, PromptPhase.look_idle_none,
      ih fun o ho => h o (List.mem_cons_of_mem _ ho)]
    rfl

/-- Steady bytes that end on an empty screen show nothing anywhere. -/
theorem sightings_none (hsteady : d.Steady compile bytes) (hend : d.sight compile bytes = none)
    {before : List UInt8} {chunks : List (List UInt8)} (hchunks : ∀ chunk ∈ chunks, chunk ≠ [])
    (hbytes : bytes = before ++ chunks.flatten) :
    ∀ o ∈ d.sightings compile before chunks, o = none := by
  induction chunks generalizing before with
  | nil => exact fun o ho => absurd ho List.not_mem_nil
  | cons chunk chunks ih =>
    rw [List.flatten_cons, ← List.append_assoc] at hbytes
    have hne : before ++ chunk ≠ [] :=
      List.append_ne_nil_of_right_ne_nil _ (hchunks chunk List.mem_cons_self)
    intro o ho
    rcases List.mem_cons.mp ho with rfl | ho
    · rcases hsteady.1 _ _ hne hbytes with hnone | hsame
      · exact hnone
      · exact hsame.trans hend
    · exact ih (fun c hc => hchunks c (List.mem_cons_of_mem _ hc)) hbytes o ho

/-- What any cut of steady bytes shows. -/
theorem Steady.observed_eq (hsteady : d.Steady compile bytes) (hfresh : d.lifecycle.phase = .idle)
    (hbytes : bytes ≠ []) {chunks : List (List UInt8)} (hcut : IsCut bytes chunks) :
    d.observed compile ids chunks
      = (match d.sight compile bytes with
        | none => ([], none)
        | some c =>
          ([PromptEvent.key (.present (firstShown ids c))], some (firstShown ids c))) := by
  have hflat : bytes = [] ++ chunks.flatten := hcut.2.symm
  rw [PromptDetector.observed_eq compile ids hcut, hfresh]
  rcases hend : d.sight compile bytes with - | c
  · rw [run_look_none (sightings_none hsteady hend hcut.1 hflat)]
    rfl
  · have hstart : Waiting compile ids d c [] .idle [] := .unseen (Or.inl rfl)
    have hlast := hstart.run hsteady hend hcut.1 hflat
    rw [List.nil_append] at hlast
    generalize Reactive.run (PromptPhase.look ids) .idle (d.sightings compile [] chunks) = result
      at hlast
    obtain ⟨p, out⟩ := result
    cases hlast with
    | unseen hnone =>
      rcases hnone with hnil | hnone
      · exact absurd hnil hbytes
      · exact absurd (hend.symm.trans hnone) (by simp)
    | shown _ _ => rfl
    | missed _ _ _ _ _ _ hnone => exact absurd (hend.symm.trans hnone) (by simp)

/-- Steady bytes show the same under every cut. -/
theorem Steady.chunkInvariant (hsteady : d.Steady compile bytes)
    (hfresh : d.lifecycle.phase = .idle) : d.ChunkInvariant compile ids bytes := by
  intro chunks₁ chunks₂ h₁ h₂
  by_cases hbytes : bytes = []
  · have hnil (chunks : List (List UInt8)) (hcut : IsCut bytes chunks) : chunks = [] := by
      refine List.eq_nil_iff_forall_not_mem.mpr fun chunk hmem => hcut.1 chunk hmem ?_
      exact List.flatten_eq_nil_iff.mp (hcut.2.trans hbytes) chunk hmem
    rw [hnil chunks₁ h₁, hnil chunks₂ h₂]
  · rw [hsteady.observed_eq hfresh hbytes h₁, hsteady.observed_eq hfresh hbytes h₂]

/-! ## Chunk invariant bytes are steady -/

/-- Two cuts of chunk invariant bytes emit equally many events. -/
theorem ChunkInvariant.length_eq (h : d.ChunkInvariant compile ids bytes)
    (hfresh : d.lifecycle.phase = .idle) {chunks₁ chunks₂ : List (List UInt8)}
    (h₁ : IsCut bytes chunks₁) (h₂ : IsCut bytes chunks₂) :
    (Reactive.run (PromptPhase.look ids) .idle (d.sightings compile [] chunks₁)).2.length
      = (Reactive.run (PromptPhase.look ids) .idle (d.sightings compile [] chunks₂)).2.length := by
  have hsame := congrArg (fun o => o.1.length) (h chunks₁ chunks₂ h₁ h₂)
  simpa only [observed_eq compile ids h₁, observed_eq compile ids h₂, List.length_map, hfresh]
    using hsame

/-- What is seen on the way is what is seen in the end: otherwise the cut there shows. -/
theorem ChunkInvariant.sight_eq (h : d.ChunkInvariant compile ids bytes)
    (hfresh : d.lifecycle.phase = .idle) {x y : List UInt8} (hx : x ≠ [])
    (hbytes : bytes = x ++ y) :
    d.sight compile x = none ∨ d.sight compile x = d.sight compile bytes := by
  subst hbytes
  by_cases hy : y = []
  · rw [hy, List.append_nil]
    exact Or.inr rfl
  have hwhole : IsCut (x ++ y) [x ++ y] :=
    ⟨by simp [hx], by simp⟩
  have hpieces : IsCut (x ++ y) [x, y] := ⟨by simp [hx, hy], by simp⟩
  have hlength := h.length_eq hfresh hpieces hwhole
  simp only [sightings, List.nil_append, Reactive.run_cons, Reactive.run_nil, List.append_nil]
    at hlength
  rcases hseen : d.sight compile x with - | c
  · exact Or.inl rfl
  refine Or.inr ?_
  rw [hseen, PromptPhase.look_idle_some] at hlength
  rcases hend : d.sight compile (x ++ y) with - | e
  · rw [hend, PromptPhase.look_idle_none] at hlength
    exact absurd hlength (by simp)
  · by_contra hne
    have hce : c ≠ e := fun hce => hne (congrArg some hce)
    have hother := PromptPhase.look_other ids hce 0
    rw [hend, PromptPhase.look_idle_some] at hlength
    have hpos := List.length_pos_of_ne_nil hother
    simp only [List.length_append, List.length_cons, List.length_nil] at hlength
    omega

/-- The prompt is not missed twice: otherwise the cut there lets it go and come back. -/
theorem ChunkInvariant.not_missed_twice (h : d.ChunkInvariant compile ids bytes)
    (hfresh : d.lifecycle.phase = .idle) {x y z w : List UInt8} (hx : x ≠ []) (hy : y ≠ [])
    (hz : z ≠ []) (hbytes : bytes = x ++ y ++ z ++ w) (hseen : d.sight compile x ≠ none)
    (hmissed : d.sight compile (x ++ y) = none) : d.sight compile (x ++ y ++ z) ≠ none := by
  intro hmissed'
  have hend : d.sight compile x = d.sight compile bytes := by
    have hsplit : bytes = x ++ (y ++ z ++ w) := by simpa only [List.append_assoc] using hbytes
    exact (h.sight_eq hfresh hx hsplit).resolve_left hseen
  obtain ⟨c, hc⟩ := Option.ne_none_iff_exists'.mp hseen
  rw [hc] at hend
  subst hbytes
  have hw : w ≠ [] := by
    rintro rfl
    rw [List.append_nil, hmissed'] at hend
    exact Option.some_ne_none c hend
  have hwhole : IsCut (x ++ y ++ z ++ w) [x ++ y ++ z ++ w] := ⟨by simp [hx], by simp⟩
  have hpieces : IsCut (x ++ y ++ z ++ w) [x, y, z, w] := ⟨by simp [hx, hy, hz, hw], by simp⟩
  have hlength := h.length_eq hfresh hpieces hwhole
  simp only [sightings, List.nil_append, Reactive.run_cons, Reactive.run_nil, hc, hmissed,
    hmissed', ← hend, PromptPhase.look_idle_some, PromptPhase.look_shown_none,
    PromptPhase.look_missed_none] at hlength
  exact absurd hlength (by simp)

/-- **Chunk invariance, exactly.**  For every ruleset, size and byte string, all ways of splitting
the bytes show the same events and the same prompt in the end if and only if the bytes are
steady. -/
theorem chunkInvariant_iff (compile : RegexCompiler) (ids : IdScheme) (ruleset : PromptRuleset)
    (rows cols : ℤ) (bytes : List UInt8) :
    ((init rows cols).loadRules ruleset).ChunkInvariant compile ids bytes
      ↔ ((init rows cols).loadRules ruleset).Steady compile bytes := by
  have hfresh : ((init rows cols).loadRules ruleset).lifecycle.phase = .idle := rfl
  constructor
  · intro h
    refine ⟨fun x y hx hbytes => h.sight_eq hfresh hx hbytes, ?_⟩
    intro x y z w hx hy hz hbytes hseen hmissed
    exact h.not_missed_twice hfresh hx hy hz hbytes hseen hmissed
  · intro h
    exact h.chunkInvariant hfresh

/-- A menu written in two reads, the cut inside its last label: the first read presents a menu that
the second takes away again. -/
theorem menu_not_chunkInvariant :
    ¬ ((init 3 8).loadRules [menuRule]).ChunkInvariant (fun _ => none) buildInstanceId
      "Pick\r\n1. a\r\n2. bc".toUTF8.data.toList := by
  intro h
  have hsame := h ["Pick\r\n1. a\r\n2. b".toUTF8.data.toList, "c".toUTF8.data.toList]
    ["Pick\r\n1. a\r\n2. bc".toUTF8.data.toList]
    ⟨by decide +kernel, by decide +kernel⟩ ⟨by decide +kernel, by decide +kernel⟩
  have hlength := congrArg (fun o => o.1.length) hsame
  revert hlength
  decide +kernel

end PromptDetector

end TmuxRemote
