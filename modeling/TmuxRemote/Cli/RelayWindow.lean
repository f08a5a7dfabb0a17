import TmuxRemote.Cli.Attach

/-!
# Cli/RelayWindow — the size of the window that the agent knows

A change of the window raises `SIGWINCH` once the handler is installed, and the main thread reads
the size and tells it to the agent.  The size that the agent was told last is the window's own, if
it is so when the handler is installed and no size is lost that cannot be read or told
(`window_told_iff`).
-/

namespace TmuxRemote

namespace RelayPc

/-- The size is being read, or told to the agent. -/
def isTelling : RelayPc → Bool
  | measuring _ | telling _ _ => true
  | _ => false

/-- The handler is installed and the loop has not been left. -/
def isWatched : RelayPc → Bool
  | watching | testing | selecting | clearing _ | measuring _ | telling _ _ | reading
  | sending _ _ => true
  | opened | raw | stopping | closing | joining | restoring _ | freeing _ | returned _ => false

/-- The handler is not installed yet. -/
def isUnhandled : RelayPc → Bool
  | opened | raw => true
  | _ => false

end RelayPc

/-- Away from the telling of a size, the main thread goes from one place to another. -/
structure RelayPc.KeepsAway (pc pc' : RelayPc) : Prop where
  before : pc.isTelling = false
  after : pc'.isTelling = false
  watched : pc'.isWatched = true → pc.isWatched = true
  unhandled : pc'.isUnhandled = true → pc.isUnhandled = true

namespace StreamRelay

variable {s s' : StreamRelay} {a : Action}

/-- Once the handler is installed, the agent has been told the size of the window, unless a change
is still to be noticed or is being told. -/
def SizeTold (s : StreamRelay) : Prop :=
  s.handlerInstalled = true → s.sigwinchReceived = false → s.main.isTelling = false →
    s.told = s.window

/-- The handler is installed while the agent knows the size, and a size that cannot be read or told
is known to it already, or has changed again. -/
def TellsSize (s : StreamRelay) : Action → Prop
  | .installHandler => s.told = s.window
  | .getSize false | .tell false => s.sigwinchReceived = true ∨ s.told = s.window
  | _ => True

instance decidableSizeTold (s : StreamRelay) : Decidable (SizeTold s) :=
  inferInstanceAs (Decidable (_ → _ → _ → _))

instance decidableTellsSize (s : StreamRelay) : ∀ a, Decidable (TellsSize s a)
  | .installHandler => inferInstanceAs (Decidable (s.told = s.window))
  | .getSize false | .tell false => inferInstanceAs (Decidable (_ ∨ _))
  | .getSize true | .tell true | .resize _ | .setRaw _ | .createReader _ | .test | .selected _
  | .testSigwinch | .readInput _ | .take _ | .written _ | .writeSlice | .stop | .closed | .join
  | .restore | .free | .readerTest | .readStream _ | .readSlice | .display _ | .displayFailed
  | .readerStop => isTrue trivial

/-- What keeps the size told. -/
structure SizeInv (s : StreamRelay) : Prop where
  size_told : SizeTold s
  telling_window : ∀ size ready, s.main = .telling size ready → s.sigwinchReceived = false →
    size = s.window
  watched : s.main.isWatched = true → s.handlerInstalled = true
  unwatched : s.handlerInstalled = false → s.sigwinchReceived = false
  unhandled : s.main.isUnhandled = true → s.handlerInstalled = false

theorem sizeInv_init (told window : WindowSize) : SizeInv (init told window) where
  size_told := nofun
  telling_window := nofun
  watched := nofun
  unwatched := fun _ => rfl
  unhandled := fun _ => rfl

/-- The threads go on, away from the telling of a size. -/
theorem SizeInv.threads (h : SizeInv s) {threads : RelayThreads}
    (hmain : threads.main = s.main ∨ s.main.KeepsAway threads.main) :
    SizeInv { s with toRelayThreads := threads } := by
  obtain hmain | ⟨hbefore, hafter, hwatched, hunhandled⟩ := hmain
  · exact
      { size_told := fun hinstalled hsig htelling =>
          h.size_told hinstalled hsig (hmain ▸ htelling)
        telling_window := fun size ready htelling => h.telling_window size ready (hmain ▸ htelling)
        watched := fun hw => h.watched (hmain ▸ hw)
        unwatched := h.unwatched
        unhandled := fun hu => h.unhandled (hmain ▸ hu) }
  · exact
      { size_told := fun hinstalled hsig _ => h.size_told hinstalled hsig hbefore
        telling_window := fun size ready htelling => by
          dsimp only at htelling
          rw [htelling] at hafter
          cases hafter
        watched := fun hw => h.watched (hwatched hw)
        unwatched := h.unwatched
        unhandled := fun hu => h.unhandled (hunhandled hu) }

/-- The steps that have to do with the size. -/
def Action.isOfSize : Action → Bool
  | .resize _ | .installHandler | .testSigwinch | .getSize _ | .tell _ => true
  | _ => false

/-- **All other steps** leave the sizes alone, and begin and end away from the telling of one. -/
theorem step_threads (ha : a.isOfSize = false) (hstep : step s a = some s') :
    ∃ threads : RelayThreads, s' = { s with toRelayThreads := threads }
      ∧ (threads.main = s.main ∨ s.main.KeepsAway threads.main) := by
  rw [step.eq_def] at hstep
  cases a with
  | resize | installHandler | testSigwinch | getSize | tell => cases ha
  | setRaw ok =>
    dsimp only at hstep
    split at hstep
    · rename_i hmain
      obtain rfl := Option.some.inj hstep
      cases ok <;>
        exact ⟨_, rfl, .inr ⟨by rw [hmain]; rfl, rfl, nofun, fun _ => by rw [hmain]; rfl⟩⟩
    · cases hstep
  | createReader ok =>
    dsimp only at hstep
    split at hstep
    · rename_i hmain
      obtain rfl := Option.some.inj hstep
      cases ok <;>
        exact ⟨_, rfl, .inr ⟨by rw [hmain]; rfl, rfl, fun _ => by rw [hmain]; rfl, nofun⟩⟩
    · cases hstep
  | test =>
    dsimp only at hstep
    split at hstep
    · rename_i hmain
      obtain rfl := Option.some.inj hstep
      refine ⟨_, rfl, .inr ?_⟩
      rw [hmain]
      dsimp only
      split_ifs <;> exact ⟨rfl, rfl, fun _ => rfl, nofun⟩
    · cases hstep
  | selected ready =>
    dsimp only at hstep
    split at hstep
    · rename_i hmain
      obtain rfl := Option.some.inj hstep
      exact ⟨_, rfl, .inr ⟨by rw [hmain]; rfl, rfl, fun _ => by rw [hmain]; rfl, nofun⟩⟩
    · cases hstep
  | readInput data =>
    dsimp only at hstep
    split at hstep
    · rename_i hmain
      split_ifs at hstep
      · obtain rfl := Option.some.inj hstep
        exact ⟨_, rfl, .inr ⟨by rw [hmain]; rfl, rfl, nofun, nofun⟩⟩
      · obtain rfl := Option.some.inj hstep
        exact ⟨_, rfl, .inr ⟨by rw [hmain]; rfl, rfl, fun _ => by rw [hmain]; rfl, nofun⟩⟩
    · cases hstep
  | take n =>
    dsimp only at hstep
    split at hstep
    · rename_i hmain
      obtain ⟨-, heq⟩ := Option.ite_none_right_eq_some.mp hstep
      obtain rfl := Option.some.inj heq
      exact ⟨_, rfl, .inr ⟨by rw [hmain]; rfl, rfl, fun _ => by rw [hmain]; rfl, nofun⟩⟩
    · cases hstep
  | written ok =>
    dsimp only at hstep
    split at hstep
    · rename_i hmain
      split_ifs at hstep
      · obtain rfl := Option.some.inj hstep
        exact ⟨_, rfl, .inr ⟨by rw [hmain]; rfl, rfl, fun _ => by rw [hmain]; rfl, nofun⟩⟩
      · obtain rfl := Option.some.inj hstep
        exact ⟨_, rfl, .inr ⟨by rw [hmain]; rfl, rfl, nofun, nofun⟩⟩
    · cases hstep
  | writeSlice =>
    dsimp only at hstep
    split at hstep
    · rename_i hmain
      obtain ⟨-, heq⟩ := Option.ite_none_left_eq_some.mp hstep
      obtain rfl := Option.some.inj heq
      exact ⟨_, rfl, .inr ⟨by rw [hmain]; rfl, rfl, fun _ => by rw [hmain]; rfl, nofun⟩⟩
    · cases hstep
  | stop | closed | restore | free =>
    dsimp only at hstep
    split at hstep
    · rename_i hmain
      obtain rfl := Option.some.inj hstep
      exact ⟨_, rfl, .inr ⟨by rw [hmain]; rfl, rfl, nofun, nofun⟩⟩
    · cases hstep
  | join =>
    dsimp only at hstep
    split at hstep
    · rename_i hmain hreader
      obtain rfl := Option.some.inj hstep
      exact ⟨_, rfl, .inr ⟨by rw [hmain]; rfl, rfl, nofun, nofun⟩⟩
    · cases hstep
  | readStream data =>
    dsimp only at hstep
    split at hstep
    · cases data with
      | none =>
        obtain rfl := Option.some.inj hstep
        exact ⟨_, rfl, .inl rfl⟩
      | some data =>
        obtain ⟨-, heq⟩ := Option.ite_none_left_eq_some.mp hstep
        obtain rfl := Option.some.inj heq
        exact ⟨_, rfl, .inl rfl⟩
    · cases hstep
  | readSlice =>
    dsimp only at hstep
    split at hstep
    · obtain ⟨-, heq⟩ := Option.ite_none_left_eq_some.mp hstep
      obtain rfl := Option.some.inj heq
      exact ⟨_, rfl, .inl rfl⟩
    · cases hstep
  | display n =>
    dsimp only at hstep
    split at hstep
    · obtain ⟨-, heq⟩ := Option.ite_none_right_eq_some.mp hstep
      obtain rfl := Option.some.inj heq
      exact ⟨_, rfl, .inl rfl⟩
    · cases hstep
  | readerTest | displayFailed | readerStop =>
    dsimp only at hstep
    split at hstep
    · obtain rfl := Option.some.inj hstep
      exact ⟨_, rfl, .inl rfl⟩
    · cases hstep

theorem isTelling_afterSigwinch (ready : Bool) :
    (afterSigwinch ready).isTelling = false := by
  cases ready <;> rfl

theorem ne_telling_afterSigwinch (ready : Bool) (size : WindowSize) (ready' : Bool) :
    afterSigwinch ready ≠ .telling size ready' := by
  cases ready <;> nofun

theorem isUnhandled_afterSigwinch (ready : Bool) {p : Prop}
    (h : (afterSigwinch ready).isUnhandled = true) : p := by
  cases ready <;> cases h

/-- **One step** that tells the size keeps it told. -/
theorem sizeInv_step (h : SizeInv s) (htells : TellsSize s a) (hstep : step s a = some s') :
    SizeInv s' := by
  by_cases ha : a.isOfSize = false
  · obtain ⟨threads, rfl, hmain⟩ := step_threads ha hstep
    exact h.threads hmain
  rw [step.eq_def] at hstep
  cases a with
  | resize window =>
    obtain rfl := Option.some.inj hstep
    -- a change under the handler is noticed, and without it nothing is said
    have hnoticed : s.handlerInstalled = true → (s.sigwinchReceived || s.handlerInstalled) = true :=
      fun hinstalled => by rw [hinstalled, Bool.or_true]
    exact
      { size_told := fun hinstalled hsig => by
          have hset := hnoticed hinstalled
          rw [hset] at hsig
          cases hsig
        telling_window := fun size ready htelling hsig => by
          have hinstalled := h.watched (by rw [htelling]; rfl)
          rw [hnoticed hinstalled] at hsig
          cases hsig
        watched := h.watched
        unwatched := fun hinstalled => by
          dsimp only at hinstalled ⊢
          rw [hinstalled, h.unwatched hinstalled]
          rfl
        unhandled := h.unhandled }
  | installHandler =>
    dsimp only at hstep
    split at hstep
    · obtain rfl := Option.some.inj hstep
      exact
        { size_told := fun _ _ _ => htells
          telling_window := nofun
          watched := fun _ => rfl
          unwatched := nofun
          unhandled := nofun }
    · cases hstep
  | testSigwinch =>
    dsimp only at hstep
    split at hstep
    · rename_i ready hmain
      have hinstalled := h.watched (by rw [hmain]; rfl)
      obtain rfl := Option.some.inj hstep
      split_ifs with hsig
      · exact
          { size_told := nofun
            telling_window := nofun
            watched := fun _ => hinstalled
            unwatched := fun _ => rfl
            unhandled := nofun }
      · exact
          { size_told := fun hinstalled hsig _ =>
              h.size_told hinstalled hsig (by rw [hmain]; rfl)
            telling_window := fun size ready' htelling =>
              absurd htelling (ne_telling_afterSigwinch ready size ready')
            watched := fun _ => hinstalled
            unwatched := h.unwatched
            unhandled := isUnhandled_afterSigwinch ready }
    · cases hstep
  | getSize ok =>
    dsimp only at hstep
    split at hstep
    · rename_i ready hmain
      have hinstalled := h.watched (by rw [hmain]; rfl)
      obtain rfl := Option.some.inj hstep
      cases ok
      · exact
          { size_told := fun _ hsig _ => htells.resolve_left (by rw [hsig]; decide)
            telling_window := fun size ready' htelling =>
              absurd htelling (ne_telling_afterSigwinch ready size ready')
            watched := fun _ => hinstalled
            unwatched := h.unwatched
            unhandled := isUnhandled_afterSigwinch ready }
      · exact
          { size_told := nofun
            telling_window := by
              rintro size ready' ⟨⟩ -
              rfl
            watched := fun _ => hinstalled
            unwatched := h.unwatched
            unhandled := nofun }
    · cases hstep
  | tell ok =>
    dsimp only at hstep
    split at hstep
    · rename_i size ready hmain
      have hinstalled := h.watched (by rw [hmain]; rfl)
      obtain rfl := Option.some.inj hstep
      refine
        { size_told := fun _ hsig _ => ?_
          telling_window := fun size ready' htelling =>
            absurd htelling (ne_telling_afterSigwinch ready size ready')
          watched := fun _ => hinstalled
          unwatched := h.unwatched
          unhandled := isUnhandled_afterSigwinch ready }
      cases ok
      · exact htells.resolve_left (by rw [hsig]; decide)
      · exact h.telling_window size ready hmain hsig
    · cases hstep
  | _ => exact absurd rfl ha

/-- A step that does not tell the size leaves it untold. -/
theorem not_told (h : SizeInv s) (htells : ¬ TellsSize s a) (hstep : step s a = some s') :
    ¬ SizeTold s' := by
  rw [step.eq_def] at hstep
  cases a with
  | installHandler =>
    dsimp only at hstep
    split at hstep
    · rename_i hmain
      obtain rfl := Option.some.inj hstep
      have hsig := h.unwatched (h.unhandled (by rw [hmain]; rfl))
      exact fun htold => htells (htold rfl hsig rfl)
    · cases hstep
  | getSize ok =>
    cases ok with
    | true => exact absurd trivial htells
    | false =>
      dsimp only at hstep
      split at hstep
      · rename_i ready hmain
        obtain rfl := Option.some.inj hstep
        obtain ⟨hsig, hwindow⟩ := not_or.mp htells
        exact fun htold => hwindow (htold (h.watched (by rw [hmain]; rfl))
          (Bool.eq_false_iff.mpr hsig) (isTelling_afterSigwinch ready))
      · cases hstep
  | tell ok =>
    cases ok with
    | true => exact absurd trivial htells
    | false =>
      dsimp only at hstep
      split at hstep
      · rename_i size ready hmain
        obtain rfl := Option.some.inj hstep
        obtain ⟨hsig, hwindow⟩ := not_or.mp htells
        exact fun htold => hwindow (htold (h.watched (by rw [hmain]; rfl))
          (Bool.eq_false_iff.mpr hsig) (isTelling_afterSigwinch ready))
      · cases hstep
  | _ => exact absurd trivial htells

/-- **The agent knows the size of the window** throughout the relay, but for changes that are still
to be noticed or told, exactly if it knows it when the handler is installed, and what cannot be read
or told is known to it or has changed again. -/
theorem window_told_iff (told window : WindowSize) (actions : List Action)
    (hrun : Guarded.run step (init told window) actions = some s) :
    Guarded.Throughout step SizeTold (init told window) actions
      ↔ Guarded.AllSteps step TellsSize (init told window) actions :=
  Guarded.throughout_iff_allSteps (fun _ h => h.size_told) (fun _ _ _ h hC => sizeInv_step h hC)
    (fun _ _ _ h hC => not_told h hC) (sizeInv_init told window) hrun

/-- The window is changed, and changed again while the first size is told, which fails; the second
one is told. -/
def resizedTwice : List Action :=
  [.setRaw true, .installHandler, .createReader true, .test, .resize ⟨100, 40⟩, .selected true,
    .testSigwinch, .getSize true, .resize ⟨90, 30⟩, .tell false, .readInput [0x6C], .take 1,
    .written true, .test, .selected false, .testSigwinch, .getSize true, .tell true, .test]

theorem window_told_iff_of_resizedTwice :
    Guarded.Throughout step SizeTold (init ⟨80, 24⟩ ⟨80, 24⟩) resizedTwice
      ∧ (Guarded.run step (init ⟨80, 24⟩ ⟨80, 24⟩) resizedTwice).map (·.told)
        = some ⟨90, 30⟩ := by
  have hruns : (Guarded.run step (init ⟨80, 24⟩ ⟨80, 24⟩) resizedTwice).isSome = true := by decide
  obtain ⟨s, hrun⟩ := Option.isSome_iff_exists.mp hruns
  exact ⟨(window_told_iff ⟨80, 24⟩ ⟨80, 24⟩ resizedTwice hrun).mpr (by decide), by decide⟩

end StreamRelay

end TmuxRemote
