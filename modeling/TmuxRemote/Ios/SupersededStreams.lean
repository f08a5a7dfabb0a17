import TmuxRemote.Ios.ControlStreams

/-!
# Ios/SupersededStreams — what a superseded control stream still does

A task that runs is cancelled exactly once it has been superseded, and until then the entries of the
device are its own (`ControlStreams.Invariant`).  So a superseded task is silent, unless a read of it
completes its message, and no stream is left open that is not registered, unless a task comes to a
length that is out of range (`superseded_stream_silent_iff`).
-/

namespace TmuxRemote

namespace ControlStreams

/-! ## Generations and cancellations agree -/

/-- A task that runs is cancelled once it has been superseded, and before that has the generation of
the device; one that reads before that has its stream open and registered. -/
structure TaskInvariant (entries : ControlEntries) (i : ℕ) (t : ControlTask) : Prop where
  cancelled : t.stage ≠ .ended → t.isCancelled = t.superseded
  current : t.stage ≠ .ended → (t.superseded = false ↔ entries.controlGenerations = some i)
  unopened : t.stage = .created ∨ t.stage = .opening → t.stream = .unopened
  registered : ∀ reader, t.stage = .reading reader → t.superseded = false →
    entries.controlStreams = some i
  opened : ∀ reader, t.stage = .reading reader → t.superseded = false → t.stream = .opened

/-- The entries are those of one task. -/
structure Invariant (s : ControlStreams) : Prop where
  tasks : ∀ i t, s.tasks[i]? = some t → TaskInvariant s.entries i t
  readTasks : s.entries.controlReadTasks = s.entries.controlGenerations
  streams : ∀ i, s.entries.controlStreams = some i →
    s.entries.controlGenerations = some i ∧
      ∀ t, s.tasks[i]? = some t → t.stage ≠ .created ∧ t.stage ≠ .opening

/-- Every stream that is open is the one that is registered. -/
def OpenRegistered (s : ControlStreams) : Prop :=
  ∀ i t, s.tasks[i]? = some t → t.stream = .opened → s.entries.controlStreams = some i

/-- A step of a superseded task hands nothing on, and leaves the entries alone. -/
def SupersededSilent (swift : SwiftCbor) (s : ControlStreams) (a : ControlAction) : Prop :=
  ∀ i t s', a.task = some i → s.tasks[i]? = some t → t.superseded = true →
    step swift s a = some s' → s'.received = s.received ∧ s'.entries = s.entries

/-- A read of a superseded task does not complete its message, and one of the device's task does not
come to a length that is out of range. -/
def ReadsHarmless (swift : SwiftCbor) (s : ControlStreams) : ControlAction → Prop
  | .readSomeAsync i (.chunk bytes) =>
    ∀ t reader, s.tasks[i]? = some t → t.stage = .reading reader → bytes ≠ [] →
      (t.superseded = true → ¬ (reader.feed bytes).CompletesMessage swift)
        ∧ (t.superseded = false → ¬ (reader.feed bytes).MeetsRefusedLength)
  | .readSomeAsync _ .failed | .openControlStream | .closeControlStream | .createStream _ _
  | .openAsync _ _ => True

/-- Whether a reader comes to a length that is out of range is seen from where it waits. -/
instance decidableReadsHarmless (swift : SwiftCbor) (s : ControlStreams) :
    ∀ a, Decidable (ReadsHarmless swift s a)
  | .readSomeAsync i (.chunk bytes) =>
    match ht : s.tasks[i]? with
    | none => isTrue fun _ _ h => nomatch ht.symm.trans h
    | some t =>
      match hstage : t.stage with
      | .reading reader =>
        decidable_of_iff
          (bytes ≠ [] → (t.superseded = true → ¬ (reader.feed bytes).CompletesMessage swift)
            ∧ (t.superseded = false → ¬ ((reader.feed bytes).readOn swift false).2 = none))
          (by
            rw [FrameReader.readOn_eq_none_iff]
            refine ⟨fun h t' reader' ht' hstage' => ?_, fun h => h t reader ht hstage⟩
            obtain rfl := Option.some.inj (ht.symm.trans ht')
            obtain rfl := ControlStage.reading.inj (hstage.symm.trans hstage')
            exact h)
      | .created | .opening | .ended =>
        isTrue fun t' reader ht' h => by
          obtain rfl := Option.some.inj (ht.symm.trans ht')
          exact nomatch hstage.symm.trans h
  | .readSomeAsync _ .failed | .openControlStream | .closeControlStream | .createStream _ _
  | .openAsync _ _ => isTrue trivial

section
variable {s s' : ControlStreams} {i : ℕ} {t t' : ControlTask}

theorem invariant_init : Invariant init :=
  { tasks := fun _ _ h => nomatch h
    readTasks := rfl
    streams := nofun }

theorem tasks_closeControlStream (s : ControlStreams) (i : ℕ) :
    s.closeControlStream.tasks[i]? = s.tasks[i]?.map (ControlTask.closed s.entries i) :=
  List.getElem?_mapIdx

theorem tasks_setTask (ht : s.tasks[i]? = some t) (t' : ControlTask) (j : ℕ) :
    (s.setTask i t').tasks[j]? = if j = i then some t' else s.tasks[j]? :=
  Entries.getElem?_set ht t' j

/-! ### What the steps of the entries keep -/

theorem TaskInvariant.closed {entries : ControlEntries} (h : TaskInvariant entries i t)
    (hread : entries.controlReadTasks = entries.controlGenerations)
    (hstream : entries.controlStreams = some i → t.stage ≠ .created ∧ t.stage ≠ .opening) :
    TaskInvariant .none i (t.closed entries i) where
  cancelled := by
    intro hruns
    change (t.isCancelled || entries.controlReadTasks = some i) = true
    rw [h.cancelled hruns, Bool.or_eq_true, decide_eq_true_iff, hread, ← h.current hruns]
    exact (Bool.eq_false_or_eq_true _)
  current := fun _ => iff_of_false nofun nofun
  unopened := by
    intro hwaits
    change (if entries.controlStreams = some i then .aborted else t.stream) = .unopened
    rw [if_neg fun hregistered => ?_]
    · exact h.unopened hwaits
    · obtain ⟨hcreated, hopening⟩ := hstream hregistered
      exact hwaits.elim hcreated hopening
  registered := fun _ _ => nofun
  opened := fun _ _ => nofun

theorem Invariant.closeControlStream (h : s.Invariant) : s.closeControlStream.Invariant where
  tasks := by
    intro i t' ht'
    rw [tasks_closeControlStream, Option.map_eq_some_iff] at ht'
    obtain ⟨t, ht, rfl⟩ := ht'
    exact (h.tasks i t ht).closed h.readTasks fun hregistered => (h.streams i hregistered).2 t ht
  readTasks := rfl
  streams := nofun

theorem tasks_openControlStream (s : ControlStreams) (j : ℕ) :
    s.openControlStream.tasks[j]?
      = if j = s.closeControlStream.tasks.length then some .new
        else s.closeControlStream.tasks[j]? :=
  Entries.getElem?_concat _ _ j

theorem Invariant.openControlStream (h : s.Invariant) : s.openControlStream.Invariant := by
  have hclosed := h.closeControlStream
  have hgeneration : s.openControlStream.entries.controlGenerations
      = some s.closeControlStream.tasks.length := rfl
  refine ⟨fun j t ht => ?_, rfl, nofun⟩
  rw [tasks_openControlStream] at ht
  split_ifs at ht with hnew
  · obtain rfl := Option.some.inj ht
    exact ⟨fun _ => rfl, fun _ => iff_of_true rfl (hnew ▸ hgeneration), fun _ => rfl, nofun, nofun⟩
  · have htask := hclosed.tasks j t ht
    refine ⟨htask.cancelled, fun hruns => ?_, htask.unopened, htask.registered, htask.opened⟩
    rw [hgeneration, Option.some_inj]
    exact iff_of_false (fun hlive => (nomatch (htask.current hruns).mp hlive)) (Ne.symm hnew)

theorem Invariant.setTask (h : s.Invariant) (ht : s.tasks[i]? = some t)
    (ht' : TaskInvariant s.entries i t')
    (hreads : s.entries.controlStreams = some i → t'.stage ≠ .created ∧ t'.stage ≠ .opening) :
    (s.setTask i t').Invariant where
  tasks := by
    intro j u hu
    rw [tasks_setTask ht] at hu
    split_ifs at hu with hij
    · obtain rfl := Option.some.inj hu
      exact hij ▸ ht'
    · exact h.tasks j u hu
  readTasks := h.readTasks
  streams := by
    intro j hj
    refine ⟨(h.streams j hj).1, fun u hu => ?_⟩
    rw [tasks_setTask ht] at hu
    split_ifs at hu with hij
    · obtain rfl := Option.some.inj hu
      exact hreads (hij ▸ hj)
    · exact (h.streams j hj).2 u hu

/-- Nothing is asked of a task that has ended. -/
theorem taskInvariant_ended {entries : ControlEntries} (hended : t.stage = .ended) :
    TaskInvariant entries i t where
  cancelled := fun h => absurd hended h
  current := fun h => absurd hended h
  unopened := by
    rintro (h | h)
    · exact nomatch hended.symm.trans h
    · exact nomatch hended.symm.trans h
  registered := fun _ h => (nomatch hended.symm.trans h)
  opened := fun _ h => (nomatch hended.symm.trans h)

theorem Invariant.finish (h : s.Invariant) (ht : s.tasks[i]? = some t) (t' : ControlTask) :
    (s.finish i t').Invariant := by
  rw [ControlStreams.finish]
  split_ifs with hcurrent
  · refine ⟨fun j u hu => ?_, rfl, nofun⟩
    change (s.setTask i _).tasks[j]? = some u at hu
    rw [tasks_setTask ht] at hu
    split_ifs at hu with hij
    · obtain rfl := Option.some.inj hu
      exact taskInvariant_ended rfl
    · have htask := h.tasks j u hu
      have hdead (hruns : u.stage ≠ .ended) : u.superseded ≠ false := fun hlive =>
        hij (Option.some.inj (((htask.current hruns).mp hlive).symm.trans hcurrent))
      refine ⟨htask.cancelled, fun hruns => iff_of_false (hdead hruns) nofun, htask.unopened,
        fun reader hreading hlive => ?_, htask.opened⟩
      exact absurd hlive (hdead (by simp [hreading]))
  · exact h.setTask ht (taskInvariant_ended rfl) fun _ => ⟨nofun, nofun⟩

/-- Handing on changes nothing but what is stored and passed on. -/
structure Handed (s s' : ControlStreams) : Prop where
  tasks : s'.tasks = s.tasks
  generations : s'.entries.controlGenerations = s.entries.controlGenerations
  readTasks : s'.entries.controlReadTasks = s.entries.controlReadTasks
  streams : s'.entries.controlStreams = s.entries.controlStreams

theorem handed_handOn (s : ControlStreams) (i : ℕ) (event : ControlStreamEvent) :
    Handed s (s.handOn i event) := by
  cases event with
  | sessions list => exact ⟨rfl, rfl, rfl, rfl⟩
  | patternPresent pattern => exact ⟨rfl, rfl, rfl, rfl⟩
  | patternUpdate pattern => exact ⟨rfl, rfl, rfl, rfl⟩
  | patternGone instanceId => exact ⟨rfl, rfl, rfl, rfl⟩

theorem handed_foldl (i : ℕ) (events : List ControlStreamEvent) :
    Handed s (events.foldl (fun s event => s.handOn i event) s) := by
  induction events generalizing s with
  | nil => exact ⟨rfl, rfl, rfl, rfl⟩
  | cons event events ih =>
    have hone := handed_handOn s i event
    have hrest := ih (s := s.handOn i event)
    exact ⟨hrest.tasks.trans hone.tasks, hrest.generations.trans hone.generations,
      hrest.readTasks.trans hone.readTasks, hrest.streams.trans hone.streams⟩

theorem received_handOn (s : ControlStreams) (i : ℕ) (event : ControlStreamEvent) :
    (s.handOn i event).received = s.received ++ [(i, event)] := rfl

theorem received_foldl (i : ℕ) (events : List ControlStreamEvent) :
    (events.foldl (fun s event => s.handOn i event) s).received
      = s.received ++ events.map fun event => (i, event) := by
  induction events generalizing s with
  | nil => exact (List.append_nil _).symm
  | cons event events ih =>
    rw [List.foldl_cons, ih, received_handOn, List.map_cons, List.append_assoc,
      List.singleton_append]

theorem TaskInvariant.congr {entries entries' : ControlEntries} (h : TaskInvariant entries i t)
    (hgenerations : entries'.controlGenerations = entries.controlGenerations)
    (hstreams : entries'.controlStreams = entries.controlStreams) : TaskInvariant entries' i t where
  cancelled := h.cancelled
  current := by
    rw [hgenerations]
    exact h.current
  unopened := h.unopened
  registered := by
    rw [hstreams]
    exact h.registered
  opened := h.opened

theorem Handed.invariant (h : Handed s s') (hs : s.Invariant) : s'.Invariant where
  tasks := by
    intro j u hu
    rw [h.tasks] at hu
    exact (hs.tasks j u hu).congr h.generations h.streams
  readTasks := by
    rw [h.readTasks, h.generations]
    exact hs.readTasks
  streams := by
    rw [h.streams, h.generations, h.tasks]
    exact hs.streams

/-- The stream of the task whose generation is the device's is registered. -/
theorem Invariant.register (h : s.Invariant) (ht : s.tasks[i]? = some t)
    (hcurrent : s.entries.controlGenerations = some i)
    (ht' : TaskInvariant (s.register i).entries i t')
    (hreads : t'.stage ≠ .created ∧ t'.stage ≠ .opening) :
    ((s.register i).setTask i t').Invariant where
  tasks := by
    intro j u hu
    rw [tasks_setTask (s := s.register i) ht] at hu
    split_ifs at hu with hij
    · obtain rfl := Option.some.inj hu
      exact hij ▸ ht'
    · have htask := h.tasks j u hu
      refine ⟨htask.cancelled, htask.current, htask.unopened, fun reader hreading hlive => ?_,
        htask.opened⟩
      have hj := (htask.current (by simp [hreading])).mp hlive
      exact absurd (Option.some.inj (hj.symm.trans hcurrent)) hij
  readTasks := h.readTasks
  streams := by
    intro j hj
    obtain rfl := Option.some.inj hj
    refine ⟨hcurrent, fun u hu => ?_⟩
    rw [tasks_setTask (s := s.register i) ht, if_pos rfl] at hu
    obtain rfl := Option.some.inj hu
    exact hreads

section
variable {swift : SwiftCbor} {reader : FrameReader}

/-- The loop waits again, or the task is at its end; before that, messages have been handed on. -/
theorem readOn_eq (swift : SwiftCbor) (s : ControlStreams) (i : ℕ) (t : ControlTask)
    (reader : FrameReader) :
    ∃ s₁, Handed s s₁
      ∧ s₁.received = s.received ++ (reader.readOn swift t.isCancelled).1.map (fun e => (i, e))
      ∧ ((reader.readOn swift t.isCancelled).1 = [] → s₁ = s)
      ∧ s.readOn swift i t reader
        = match (reader.readOn swift t.isCancelled).2 with
          | some waiting => s₁.setTask i { t with stage := .reading waiting }
          | none => s₁.finish i t := by
  refine ⟨_, handed_foldl i _, received_foldl i _, fun hnone => ?_, rfl⟩
  rw [hnone, List.foldl_nil]

theorem Invariant.readOn (h : s.Invariant) (ht : s.tasks[i]? = some t)
    (ht' : ∀ waiting, TaskInvariant s.entries i { t' with stage := .reading waiting }) :
    (s.readOn swift i t' reader).Invariant := by
  obtain ⟨s₁, hhanded, -, -, heq⟩ := readOn_eq swift s i t' reader
  have hs₁ := hhanded.invariant h
  have ht₁ : s₁.tasks[i]? = some t := by rw [hhanded.tasks, ht]
  rw [heq]
  split
  · next waiting hwaiting =>
    exact hs₁.setTask ht₁ ((ht' waiting).congr hhanded.generations hhanded.streams)
      fun _ => ⟨nofun, nofun⟩
  · exact hs₁.finish ht₁ t'

/-! ### What a task does at a step -/

/-- What a task may do when what it waits for is there. -/
inductive TaskMoves (swift : SwiftCbor) (s : ControlStreams) (i : ℕ) (t : ControlTask) :
    ControlAction → ControlStreams → Prop
  | starts (ok : Bool) (hstage : t.stage = .created) :
      TaskMoves swift s i t (.createStream i ok) (s.setTask i { t with stage := .opening })
  | startFails (ok : Bool) (hstage : t.stage = .created) :
      TaskMoves swift s i t (.createStream i ok) (s.finish i t)
  | openFails (ok : Bool) (hstage : t.stage = .opening) :
      TaskMoves swift s i t (.openAsync i ok) (s.finish i t)
  | opens (ok : Bool) (hstage : t.stage = .opening)
      (hcurrent : s.entries.controlGenerations = some i) :
      TaskMoves swift s i t (.openAsync i ok)
        ((s.register i).readOn swift i { t with stream := .opened } (.start []))
  | opensLate (ok : Bool) (hstage : t.stage = .opening)
      (hlate : s.entries.controlGenerations ≠ some i) :
      TaskMoves swift s i t (.openAsync i ok)
        (s.setTask i { t with stream := .aborted, stage := .ended })
  | readFails (reader : FrameReader) (result : ReadResult) (hstage : t.stage = .reading reader)
      (hresult : ∀ bytes, result = .chunk bytes → bytes = []) :
      TaskMoves swift s i t (.readSomeAsync i result) (s.finish i { t with stream := .ended })
  | reads (reader : FrameReader) (bytes : List UInt8) (hstage : t.stage = .reading reader)
      (hbytes : bytes ≠ []) :
      TaskMoves swift s i t (.readSomeAsync i (.chunk bytes))
        (s.readOn swift i t (reader.feed bytes))

theorem taskMoves_of_taskStep {a : ControlAction} (ha : a.task = some i)
    (h : s.taskStep swift i t a = some s') : TaskMoves swift s i t a s' := by
  cases a with
  | openControlStream => exact nomatch ha
  | closeControlStream => exact nomatch ha
  | createStream j ok =>
    obtain rfl := Option.some.inj ha
    rw [taskStep] at h
    split_ifs at h with hstage hok
    · exact Option.some.inj h ▸ .starts ok hstage
    · exact Option.some.inj h ▸ .startFails ok hstage
  | openAsync j ok =>
    obtain rfl := Option.some.inj ha
    rw [taskStep] at h
    split_ifs at h with hstage hok hcurrent
    · exact Option.some.inj h ▸ .openFails ok hstage
    · exact Option.some.inj h ▸ .opens ok hstage hcurrent
    · exact Option.some.inj h ▸ .opensLate ok hstage hcurrent
  | readSomeAsync j result =>
    obtain rfl := Option.some.inj ha
    rw [taskStep] at h
    split at h
    · next reader hstage =>
      cases result with
      | failed => exact Option.some.inj h ▸ .readFails reader .failed hstage nofun
      | chunk bytes =>
        dsimp only at h
        split_ifs at h with hbytes
        · refine Option.some.inj h ▸ .readFails reader _ hstage fun bytes' hsame => ?_
          exact ReadResult.chunk.inj hsame ▸ List.isEmpty_iff.mp hbytes
        · exact Option.some.inj h ▸ .reads reader bytes hstage (mt List.isEmpty_iff.mpr hbytes)
    all_goals exact nomatch h

/-- A step is of one of the two functions, or of a task that there is. -/
theorem step_cases {a : ControlAction} (h : step swift s a = some s') :
    a = .openControlStream ∧ s' = s.openControlStream
      ∨ a = .closeControlStream ∧ s' = s.closeControlStream
      ∨ ∃ i t, a.task = some i ∧ s.tasks[i]? = some t ∧ TaskMoves swift s i t a s' := by
  have htask {i : ℕ} (ha : a.task = some i)
      (h : (s.tasks[i]?.bind fun t => s.taskStep swift i t a) = some s') :
      ∃ i t, a.task = some i ∧ s.tasks[i]? = some t ∧ TaskMoves swift s i t a s' := by
    obtain ⟨t, ht, h⟩ := Option.bind_eq_some_iff.mp h
    exact ⟨i, t, ha, ht, taskMoves_of_taskStep ha h⟩
  cases a with
  | openControlStream => exact .inl ⟨rfl, (Option.some.inj h).symm⟩
  | closeControlStream => exact .inr (.inl ⟨rfl, (Option.some.inj h).symm⟩)
  | createStream i ok => exact .inr (.inr (htask rfl h))
  | openAsync i ok => exact .inr (.inr (htask rfl h))
  | readSomeAsync i result => exact .inr (.inr (htask rfl h))

/-- A task that waits for the first message waits. -/
theorem readOn_start (s : ControlStreams) (i : ℕ) (h : t.isCancelled = false) :
    s.readOn swift i t (.start []) = s.setTask i { t with stage := .reading (.start []) } := by
  have hwaits : FrameReader.readOn swift false (.start []) = ([], some (.start [])) := by
    rw [FrameReader.start, FrameReader.readOn_length, if_pos (by decide)]
    rfl
  rw [readOn, h, hwaits]
  rfl

/-- Every step keeps the agreement of generations, cancellations and streams. -/
theorem invariant_step {a : ControlAction} (h : s.Invariant) (hstep : step swift s a = some s') :
    s'.Invariant := by
  obtain ⟨-, rfl⟩ | ⟨-, rfl⟩ | ⟨i, t, -, ht, hmoves⟩ := step_cases hstep
  · exact h.openControlStream
  · exact h.closeControlStream
  have htask := h.tasks i t ht
  cases hmoves with
  | starts ok hstage =>
    have hruns : t.stage ≠ .ended := by simp [hstage]
    refine h.setTask ht ⟨fun _ => htask.cancelled hruns, fun _ => htask.current hruns,
      fun _ => htask.unopened (.inl hstage), nofun, nofun⟩ fun hregistered => ?_
    exact absurd hstage ((h.streams _ hregistered).2 t ht).1
  | startFails ok hstage => exact h.finish ht t
  | openFails ok hstage => exact h.finish ht t
  | opens ok hstage hcurrent =>
    have hruns : t.stage ≠ .ended := by simp [hstage]
    have hlive : t.superseded = false := (htask.current hruns).mpr hcurrent
    have hcancelled : t.isCancelled = false := (htask.cancelled hruns).trans hlive
    rw [readOn_start (t := { t with stream := .opened }) _ _ hcancelled]
    refine h.register ht hcurrent ⟨fun _ => htask.cancelled hruns, fun _ => htask.current hruns,
      ?_, fun _ _ _ => rfl, fun _ _ _ => rfl⟩ ⟨nofun, nofun⟩
    rintro (hwaits | hwaits)
    · exact nomatch hwaits
    · exact nomatch hwaits
  | opensLate ok hstage hlate =>
    exact h.setTask ht (taskInvariant_ended rfl) fun _ => ⟨nofun, nofun⟩
  | readFails reader result hstage hresult => exact h.finish ht _
  | reads reader bytes hstage hbytes =>
    have hruns : t.stage ≠ .ended := by simp [hstage]
    refine h.readOn ht fun waiting => ⟨fun _ => htask.cancelled hruns, fun _ => htask.current hruns,
      ?_, fun _ _ => htask.registered reader hstage, fun _ _ => htask.opened reader hstage⟩
    rintro (hwaits | hwaits)
    · exact nomatch hwaits
    · exact nomatch hwaits

/-! ### Streams that are open -/

theorem Handed.openRegistered (h : Handed s s') (hopen : s.OpenRegistered) : s'.OpenRegistered := by
  intro j u hu hopened
  rw [h.tasks] at hu
  rw [h.streams]
  exact hopen j u hu hopened

theorem OpenRegistered.closeControlStream (hopen : s.OpenRegistered) (j : ℕ) (u : ControlTask)
    (hu : s.closeControlStream.tasks[j]? = some u) : u.stream ≠ .opened := by
  rw [tasks_closeControlStream, Option.map_eq_some_iff] at hu
  obtain ⟨t, ht, rfl⟩ := hu
  intro hopened
  change (if s.entries.controlStreams = some j then .aborted else t.stream) = .opened at hopened
  split_ifs at hopened with hregistered
  exact hregistered (hopen j t ht hopened)

theorem OpenRegistered.openControlStream (hopen : s.OpenRegistered) :
    s.openControlStream.OpenRegistered := by
  intro j u hu hopened
  rw [tasks_openControlStream] at hu
  split_ifs at hu with hnew
  · obtain rfl := Option.some.inj hu
    exact nomatch hopened
  · exact absurd hopened (hopen.closeControlStream j u hu)

theorem OpenRegistered.setTask (hopen : s.OpenRegistered) (ht : s.tasks[i]? = some t)
    (ht' : t'.stream = .opened → s.entries.controlStreams = some i) :
    (s.setTask i t').OpenRegistered := by
  intro j u hu hopened
  rw [tasks_setTask ht] at hu
  split_ifs at hu with hij
  · obtain rfl := Option.some.inj hu
    exact hij ▸ ht' hopened
  · exact hopen j u hu hopened

/-- A task at its end leaves no stream open that is not registered, unless its own. -/
theorem OpenRegistered.finish (hopen : s.OpenRegistered) (h : s.Invariant)
    (ht : s.tasks[i]? = some t) (ht' : t'.stream ≠ .opened) : (s.finish i t').OpenRegistered := by
  rw [ControlStreams.finish]
  split_ifs with hcurrent
  · intro j u hu hopened
    change (s.setTask i _).tasks[j]? = some u at hu
    rw [tasks_setTask ht] at hu
    split_ifs at hu with hij
    · obtain rfl := Option.some.inj hu
      exact absurd hopened ht'
    · have hgeneration := (h.streams j (hopen j u hu hopened)).1
      exact absurd (Option.some.inj (hgeneration.symm.trans hcurrent)) hij
  · exact hopen.setTask ht fun hopened => absurd hopened ht'

/-- The stream of the device's task is no longer registered once the task is at its end. -/
theorem not_openRegistered_finish (ht : s.tasks[i]? = some t)
    (hcurrent : s.entries.controlGenerations = some i) (ht' : t'.stream = .opened) :
    ¬ (s.finish i t').OpenRegistered := by
  rw [ControlStreams.finish,
    if_pos (show (s.setTask i _).entries.controlGenerations = _ from hcurrent)]
  intro hopen
  have htask : (s.setTask i { t' with stage := .ended }).tasks[i]?
      = some { t' with stage := .ended } := by
    rw [tasks_setTask ht, if_pos rfl]
  exact nomatch hopen i _ htask ht'

/-! ### Steps that are harmless, and those that are not -/

theorem finish_of_not_current (hlate : s.entries.controlGenerations ≠ some i) (t : ControlTask) :
    s.finish i t = s.setTask i { t with stage := .ended } := if_neg hlate

section
variable {a : ControlAction} {reader : FrameReader}

/-- A superseded task that runs is cancelled, and is not the device's. -/
theorem TaskInvariant.superseded {entries : ControlEntries} (h : TaskInvariant entries i t)
    (hruns : t.stage ≠ .ended) (hsuperseded : t.superseded = true) :
    t.isCancelled = true ∧ entries.controlGenerations ≠ some i := by
  refine ⟨(h.cancelled hruns).trans hsuperseded, fun hcurrent => ?_⟩
  exact absurd hsuperseded (ne_true_of_eq_false ((h.current hruns).mpr hcurrent))

theorem supersededSilent_step (h : s.Invariant) (hharmless : ReadsHarmless swift s a) :
    SupersededSilent swift s a := by
  intro i t s' hi ht hsuperseded hstep
  have htask := h.tasks i t ht
  have hfinish (hruns : t.stage ≠ .ended) (t' : ControlTask) :
      (s.finish i t').received = s.received ∧ (s.finish i t').entries = s.entries := by
    rw [finish_of_not_current (htask.superseded hruns hsuperseded).2]
    exact ⟨rfl, rfl⟩
  obtain ⟨rfl, -⟩ | ⟨rfl, -⟩ | ⟨j, u, hj, hu, hmoves⟩ := step_cases hstep
  · exact nomatch hi
  · exact nomatch hi
  obtain rfl : i = j := Option.some.inj (hi.symm.trans hj)
  obtain rfl : t = u := Option.some.inj (ht.symm.trans hu)
  cases hmoves with
  | starts ok hstage => exact ⟨rfl, rfl⟩
  | startFails ok hstage => exact hfinish (by simp [hstage]) t
  | openFails ok hstage => exact hfinish (by simp [hstage]) t
  | opens ok hstage hcurrent =>
    exact absurd hcurrent (htask.superseded (by simp [hstage]) hsuperseded).2
  | opensLate ok hstage hlate => exact ⟨rfl, rfl⟩
  | readFails reader result hstage hresult => exact hfinish (by simp [hstage]) _
  | reads reader bytes hstage hbytes =>
    have hruns : t.stage ≠ .ended := by simp [hstage]
    have hincomplete := (hharmless t reader ht hstage hbytes).1 hsuperseded
    obtain ⟨hleft, hmessage⟩ := @FrameReader.readOn_cancelled swift (reader.feed bytes)
    obtain ⟨s₁, -, -, hsame, heq⟩ := readOn_eq swift s i t (reader.feed bytes)
    rw [(htask.superseded hruns hsuperseded).1] at hsame heq
    rw [heq, hleft, hsame (not_not.mp (mt hmessage.mp hincomplete))]
    exact hfinish hruns t

theorem openRegistered_step (h : s.Invariant) (hopen : s.OpenRegistered)
    (hharmless : ReadsHarmless swift s a) (hstep : step swift s a = some s') :
      s'.OpenRegistered := by
  obtain ⟨-, rfl⟩ | ⟨-, rfl⟩ | ⟨i, t, -, ht, hmoves⟩ := step_cases hstep
  · exact hopen.openControlStream
  · exact fun j u hu hopened => absurd hopened (hopen.closeControlStream j u hu)
  have htask := h.tasks i t ht
  have hunopened (hwaits : t.stage = .created ∨ t.stage = .opening) : t.stream ≠ .opened := by
    simp [htask.unopened hwaits]
  cases hmoves with
  | starts ok hstage =>
    exact hopen.setTask ht fun hopened => absurd hopened (hunopened (.inl hstage))
  | startFails ok hstage => exact hopen.finish h ht (hunopened (.inl hstage))
  | openFails ok hstage => exact hopen.finish h ht (hunopened (.inr hstage))
  | opens ok hstage hcurrent =>
    have hruns : t.stage ≠ .ended := by simp [hstage]
    have hlive : t.superseded = false := (htask.current hruns).mpr hcurrent
    rw [readOn_start (t := { t with stream := .opened }) _ _ ((htask.cancelled hruns).trans hlive)]
    refine OpenRegistered.setTask (s := s.register i) (fun j u hu hopened => ?_) ht fun _ => rfl
    have hj := (h.streams j (hopen j u hu hopened)).1
    exact hcurrent.symm.trans hj
  | opensLate ok hstage hlate => exact hopen.setTask ht nofun
  | readFails reader result hstage hresult => exact hopen.finish h ht nofun
  | reads reader bytes hstage hbytes =>
    have hruns : t.stage ≠ .ended := by simp [hstage]
    obtain ⟨s₁, hhanded, -, -, heq⟩ := readOn_eq swift s i t (reader.feed bytes)
    have ht₁ : s₁.tasks[i]? = some t := by rw [hhanded.tasks, ht]
    rw [heq]
    cases hsuperseded : t.superseded with
    | true =>
      obtain ⟨hcancelled, hlate⟩ := htask.superseded hruns hsuperseded
      rw [hcancelled, FrameReader.readOn_cancelled.1]
      refine (hhanded.openRegistered hopen).finish (hhanded.invariant h) ht₁ fun hopened => ?_
      exact hlate (h.streams i (hopen i t ht hopened)).1
    | false =>
      have hgoesOn : (FrameReader.readOn swift false (reader.feed bytes)).2 ≠ none :=
        mt FrameReader.readOn_eq_none_iff.mp ((hharmless t reader ht hstage hbytes).2 hsuperseded)
      obtain ⟨waiting, hwaiting⟩ := Option.ne_none_iff_exists'.mp hgoesOn
      rw [htask.cancelled hruns, hsuperseded, hwaiting]
      refine (hhanded.openRegistered hopen).setTask ht₁ fun _ => ?_
      rw [hhanded.streams]
      exact htask.registered reader hstage hsuperseded

/-- A superseded task hands on the message that a read of it completes. -/
theorem received_readOn_of_completesMessage (h : s.Invariant) (ht : s.tasks[i]? = some t)
    (hruns : t.stage ≠ .ended) (hsuperseded : t.superseded = true)
    (hcompletes : reader.CompletesMessage swift) :
    (s.readOn swift i t reader).received ≠ s.received := by
  obtain ⟨hcancelled, hlate⟩ := (h.tasks i t ht).superseded hruns hsuperseded
  obtain ⟨s₁, hhanded, hreceived, -, heq⟩ := readOn_eq swift s i t reader
  rw [hcancelled] at hreceived heq
  have hlate₁ : s₁.entries.controlGenerations ≠ some i := by
    rw [hhanded.generations]
    exact hlate
  rw [heq, FrameReader.readOn_cancelled.1]
  change (s₁.finish i t).received ≠ s.received
  rw [finish_of_not_current hlate₁]
  change s₁.received ≠ s.received
  rw [hreceived, Ne, List.append_right_eq_self, List.map_eq_nil_iff]
  exact FrameReader.readOn_cancelled.2.mpr hcompletes

/-- The device's task leaves its stream open at a length that is out of range. -/
theorem not_openRegistered_readOn (h : s.Invariant) (ht : s.tasks[i]? = some t)
    {reader' : FrameReader} (hstage : t.stage = .reading reader') (hlive : t.superseded = false)
    (hrefused : reader.MeetsRefusedLength) : ¬ (s.readOn swift i t reader).OpenRegistered := by
  have htask := h.tasks i t ht
  have hruns : t.stage ≠ .ended := by simp [hstage]
  obtain ⟨s₁, hhanded, -, -, heq⟩ := readOn_eq swift s i t reader
  have ht₁ : s₁.tasks[i]? = some t := by rw [hhanded.tasks, ht]
  have hcurrent : s₁.entries.controlGenerations = some i := by
    rw [hhanded.generations]
    exact (htask.current hruns).mp hlive
  rw [heq, (htask.cancelled hruns).trans hlive, FrameReader.readOn_eq_none_iff.mpr hrefused]
  exact not_openRegistered_finish ht₁ hcurrent (htask.opened reader' hstage hlive)

/-- A read of a task that reads. -/
theorem step_chunk (swift : SwiftCbor) {bytes : List UInt8} (ht : s.tasks[i]? = some t)
    (hstage : t.stage = .reading reader) (hbytes : bytes ≠ []) :
    step swift s (.readSomeAsync i (.chunk bytes))
      = some (s.readOn swift i t (reader.feed bytes)) := by
  have hnotempty : ¬ bytes.isEmpty := mt List.isEmpty_iff.mp hbytes
  rw [step, ht, Option.bind_some, taskStep, hstage]
  dsimp only
  rw [if_neg hnotempty]

/-- A read that is not harmless has its message handed on, or leaves its stream open. -/
theorem readsHarmless_of_good (h : s.Invariant) (hstep : step swift s a = some s')
    (hopen : s'.OpenRegistered) (hsilent : SupersededSilent swift s a) :
      ReadsHarmless swift s a := by
  cases a with
  | openControlStream => trivial
  | closeControlStream => trivial
  | createStream i ok => trivial
  | openAsync i ok => trivial
  | readSomeAsync i result =>
    cases result with
    | failed => trivial
    | chunk bytes =>
      intro t reader ht hstage hbytes
      have hread := step_chunk swift ht hstage hbytes
      obtain rfl := Option.some.inj (hread.symm.trans hstep)
      refine ⟨fun hsuperseded hcompletes => ?_, fun hlive hrefused => ?_⟩
      · have hkept := (hsilent i t _ rfl ht hsuperseded hread).1
        exact received_readOn_of_completesMessage h ht
          (by simp [hstage]) hsuperseded hcompletes hkept
      · exact not_openRegistered_readOn h ht hstage hlive hrefused hopen

end

/-- **Superseded streams.**  In a run, a task that has been superseded hands nothing on and leaves
the entries of its successor alone, and no stream stays open that is not registered, exactly if no
read of a superseded task completes its message, and none of the device's task comes to a length
that is out of range. -/
theorem superseded_stream_silent_iff (swift : SwiftCbor) (as : List ControlAction)
    (t : ControlStreams)
    (h : Guarded.run (step swift) init as = some t) :
    Guarded.Throughout (step swift) OpenRegistered init as
        ∧ Guarded.AllSteps (step swift) (SupersededSilent swift) init as
      ↔ Guarded.AllSteps (step swift) (ReadsHarmless swift) init as := by
  refine Guarded.throughout_and_allSteps_iff (I := fun s => s.Invariant ∧ s.OpenRegistered)
    (fun s hs => hs.2) (fun s a s' hs hharmless hstep => ?_) (fun s a hs hharmless => ?_)
    (fun s a s' hs hharm hstep hgood => ?_) ⟨invariant_init, fun _ _ => nofun⟩ h
  · exact ⟨invariant_step hs.1 hstep, openRegistered_step hs.1 hs.2 hharmless hstep⟩
  · exact supersededSilent_step hs.1 hharmless
  · exact hharm (readsHarmless_of_good hs.1 hstep hgood.1 hgood.2)

/-- The agent's message that there are no sessions. -/
def noSessions : List UInt8 :=
  (Cbor.map [entry "type" (.text (utf8 "sessions")), entry "sessions" (.array [])]).encode

/-- A stream is opened and closed while its task waits in `readSomeAsync`. -/
def closedWhileReading : List ControlAction :=
  [.openControlStream, .createStream 0 true, .openAsync 0 true, .closeControlStream]

/-- After that. -/
def afterClose : ControlStreams where
  entries := .none
  tasks :=
    [{ isCancelled := true, superseded := true, stage := .reading (.start []), stream := .aborted }]
  received := []

theorem run_closedWhileReading (swift : SwiftCbor) :
    Guarded.run (step swift) init closedWhileReading = some afterClose := by
  let waiting : ControlTask := { ControlTask.new with stage := .opening }
  let opening : ControlStreams := init.openControlStream.setTask 0 waiting
  have hopens : step swift opening (.openAsync 0 true)
      = some ((opening.register 0).setTask 0
        { waiting with stream := .opened, stage := .reading (.start []) }) :=
    congrArg some (readOn_start (opening.register 0) 0 rfl)
  change ((step swift opening (.openAsync 0 true)).bind
    fun s => Guarded.run (step swift) s [.closeControlStream]) = some afterClose
  rw [hopens]
  rfl

/-- A stream is opened again while its task waits for a second message; that task reads one more
byte of it, and the other one a message of its own. -/
def reopenedWhileReading : List ControlAction :=
  [.openControlStream, .createStream 0 true, .openAsync 0 true,
    .readSomeAsync 0 (.chunk (wrapFramedPayload noSessions ++ [0, 0])), .openControlStream,
    .readSomeAsync 0 (.chunk [0]), .createStream 1 true, .openAsync 1 true,
    .readSomeAsync 1 (.chunk (wrapFramedPayload noSessions))]

/-- The messages are stored, and the byte ends the task that was superseded. -/
theorem superseded_stream_silent_iff_reopened :
    Guarded.Throughout (step referenceSwiftCbor) OpenRegistered init reopenedWhileReading
      ∧ Guarded.AllSteps (step referenceSwiftCbor) (SupersededSilent referenceSwiftCbor) init
        reopenedWhileReading
      ∧ (Guarded.run (step referenceSwiftCbor) init reopenedWhileReading).map
          (fun s => s.received.map Prod.fst) = some [0, 1] := by
  have hruns :
      (Guarded.run (step referenceSwiftCbor) init reopenedWhileReading).isSome = true := by
    decide +kernel
  obtain ⟨t, hrun⟩ := Option.isSome_iff_exists.mp hruns
  obtain ⟨hopen, hsilent⟩ := (superseded_stream_silent_iff referenceSwiftCbor
    reopenedWhileReading t hrun).mpr (by decide +kernel)
  exact ⟨hopen, hsilent, by decide +kernel⟩

/-- A read that has its message is not stopped by `closeControlStream`: the message is stored. -/
theorem late_message_stored :
    ¬ ∀ (as : List ControlAction) (t : ControlStreams),
      Guarded.run (step referenceSwiftCbor) init as = some t →
        Guarded.Throughout (step referenceSwiftCbor) OpenRegistered init as
          ∧ Guarded.AllSteps (step referenceSwiftCbor)
            (SupersededSilent referenceSwiftCbor) init as := by
  intro hall
  have hclose := run_closedWhileReading referenceSwiftCbor
  have htask : afterClose.tasks[0]? = some
      { isCancelled := true, superseded := true, stage := .reading (.start []),
        stream := .aborted } :=
    rfl
  have hread : step referenceSwiftCbor afterClose
      (.readSomeAsync 0 (.chunk (wrapFramedPayload noSessions))) = some _ :=
    step_chunk referenceSwiftCbor htask rfl (by decide)
  have hrun : Guarded.run (step referenceSwiftCbor) init
      (closedWhileReading ++ [.readSomeAsync 0 (.chunk (wrapFramedPayload noSessions))]) = some _ :=
    (Guarded.run_append_eq_some _).mpr ⟨_, hclose, (Guarded.run_cons_eq_some _).mpr ⟨_, hread, rfl⟩⟩
  have hsilent := (Guarded.AllSteps.of_append (hall _ _ hrun).2 hclose).1
  have hinvariant : afterClose.Invariant :=
    Guarded.run_invariant (fun s a s' hs hstep => invariant_step hs hstep) invariant_init hclose
  refine received_readOn_of_completesMessage hinvariant htask nofun rfl ?_
    (hsilent 0 _ _ rfl htask rfl hread).1
  exact ⟨by decide, by decide, by decide, by decide +kernel⟩

end

end

end ControlStreams

end TmuxRemote
