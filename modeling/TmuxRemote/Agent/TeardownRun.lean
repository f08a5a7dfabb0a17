import Mathlib.Data.List.Count
import TmuxRemote.Agent.TeardownOrder

/-!
# Agent/TeardownRun — a data stream is torn down once

Every thread keeps the order, and so does every run.  At its end the cleanup thread has found all
threads finished, and has freed what they had (`torn_down_once`).
-/

namespace TmuxRemote

namespace StreamTeardown

variable {s s' : StreamTeardown}

/-! ## The readers -/

/-- What a step of a reader thread leaves alone, and how it goes on. -/
structure ReaderMoved (s s' : StreamTeardown) (pc pc' : StreamThreadPc) : Prop where
  live : pc.live = true
  started : pc'.isAbsent = false
  same : ∃ closing closeStarted closePending closes,
    s' = { s with
      closing := closing
      closeStarted := closeStarted
      closePending := closePending
      closes := closes }
  closing : ∀ winners cleanups, s.setup ≠ .absent →
    Closing s.sdk s.setup (winners + pc.won.toNat) s.closeStarted s.closePending s.closes cleanups →
    Closing s.sdk s.setup
      (winners + pc'.won.toNat) s'.closeStarted s'.closePending s'.closes cleanups

theorem readerStep_moved {timeoutEnabled : Bool} {result : LoopResult} {pc pc' : StreamThreadPc}
    (hs : s.readerStep timeoutEnabled result pc = some (s', pc')) : ReaderMoved s s' pc pc' := by
  cases pc with
  | absent | finished => cases hs
  | testing =>
    obtain ⟨rfl, rfl⟩ := Prod.mk.inj (Option.some.inj hs)
    split
    · exact ⟨rfl, rfl, ⟨_, _, _, _, rfl⟩, fun _ _ _ h => h⟩
    · exact ⟨rfl, rfl, ⟨_, _, _, _, rfl⟩, fun _ _ _ h => h⟩
  | working =>
    cases result with
    | again | breaks =>
      obtain ⟨rfl, rfl⟩ := Prod.mk.inj (Option.some.inj hs)
      exact ⟨rfl, rfl, ⟨_, _, _, _, rfl⟩, fun _ _ _ h => h⟩
    | timesOut =>
      obtain ⟨-, hs⟩ := Option.ite_none_right_eq_some.mp hs
      obtain ⟨rfl, rfl⟩ := Prod.mk.inj (Option.some.inj hs)
      exact ⟨rfl, rfl, ⟨_, _, _, _, rfl⟩, fun _ _ _ h => h⟩
  | leaving =>
    obtain ⟨rfl, rfl⟩ := Prod.mk.inj (Option.some.inj hs)
    exact ⟨rfl, rfl, ⟨_, _, _, _, rfl⟩, fun _ _ _ h => h⟩
  | closingOnce won =>
    rw [readerStep] at hs
    cases won with
    | false =>
      cases hstarted : s.closeStarted with
      | false =>
        have hclose : s.startStreamCloseOnce false = ({ s with closeStarted := true }, true) := by
          rw [startStreamCloseOnce, hstarted]
          rfl
        rw [hclose] at hs
        obtain ⟨rfl, rfl⟩ := Prod.mk.inj (Option.some.inj hs)
        refine ⟨rfl, rfl, ⟨_, _, _, _, rfl⟩, fun winners cleanups hsetup h => ?_⟩
        rw [hstarted] at h
        exact h.win hsetup rfl
      | true =>
        have hclose : s.startStreamCloseOnce false = (s, false) := by
          rw [startStreamCloseOnce, hstarted]
          rfl
        rw [hclose] at hs
        obtain ⟨rfl, rfl⟩ := Prod.mk.inj (Option.some.inj hs)
        exact ⟨rfl, rfl, ⟨_, _, _, _, rfl⟩, fun _ _ _ h => h⟩
    | true =>
      obtain ⟨rfl, rfl⟩ := Prod.mk.inj (Option.some.inj hs)
      exact ⟨rfl, rfl, ⟨_, _, _, _, rfl⟩, fun winners cleanups _ h => h.start rfl⟩

/-- A reader thread that takes a step has been started, and so has the setup thread. -/
theorem Ordered.setup_ne_absent (h : s.Ordered)
    (hlive : s.ptyReader.live = true ∨ s.streamReader.live = true) : s.setup ≠ .absent := by
  intro habsent
  have hrank : ∀ k, s.setup.rank ≤ k := fun k => habsent ▸ Nat.zero_le k
  rcases hlive with hlive | hlive
  · rw [h.fresh.ptyReader (hrank 7)] at hlive
    exact Bool.false_ne_true hlive
  · rw [h.fresh.streamReader (hrank 9)] at hlive
    exact Bool.false_ne_true hlive

theorem StreamThreadPc.isAbsent_of_live {pc : StreamThreadPc} (h : pc.live = true) :
    pc.isAbsent = false := by
  cases pc <;> first | rfl | exact absurd h Bool.false_ne_true

/-- **A step of the PTY reader keeps the order.** -/
theorem Ordered.ptyReaderStep (h : s.Ordered) {pc' : StreamThreadPc}
    (hmoved : ReaderMoved s s' s.ptyReader pc') : Ordered { s' with ptyReader := pc' } := by
  obtain ⟨hlive, hstarted, ⟨closing, closeStarted, closePending, closes, rfl⟩, hclosing⟩ := hmoved
  have hsetup := h.setup_ne_absent (Or.inl hlive)
  have hwinners : s.winners
      = s.setup.won.toNat + s.streamReader.won.toNat + s.ptyReader.won.toNat :=
    Nat.add_right_comm _ _ _
  have hwinners' : winners { s with ptyReader := pc' }
      = s.setup.won.toNat + s.streamReader.won.toNat + pc'.won.toNat := Nat.add_right_comm _ _ _
  refine ⟨?_, h.list, h.cleanup, h.setup, ?_, h.streamReader, h.child, h.detector, ?_, h.killed⟩
  · have hnext := hclosing _ s.cleanups hsetup (hwinners ▸ h.closing)
    exact hwinners' ▸ hnext
  · have hreader := h.ptyReader
    rw [StreamThreadPc.isAbsent_of_live hlive, hlive] at hreader
    exact hstarted ▸ hreader.go
  · refine ⟨h.fresh.forks, h.fresh.detectorInits, fun hrank => ?_, h.fresh.streamReader⟩
    rw [h.fresh.ptyReader hrank] at hlive
    exact absurd hlive Bool.false_ne_true

/-- **A step of the stream reader keeps the order.** -/
theorem Ordered.streamReaderStep (h : s.Ordered) {pc' : StreamThreadPc}
    (hmoved : ReaderMoved s s' s.streamReader pc') : Ordered { s' with streamReader := pc' } := by
  obtain ⟨hlive, hstarted, ⟨closing, closeStarted, closePending, closes, rfl⟩, hclosing⟩ := hmoved
  have hsetup := h.setup_ne_absent (Or.inr hlive)
  refine ⟨hclosing _ s.cleanups hsetup h.closing, h.list, h.cleanup, h.setup, h.ptyReader, ?_,
    h.child, h.detector, ?_, h.killed⟩
  · have hreader := h.streamReader
    rw [StreamThreadPc.isAbsent_of_live hlive, hlive] at hreader
    exact hstarted ▸ hreader.go
  · refine ⟨h.fresh.forks, h.fresh.detectorInits, h.fresh.ptyReader, fun hrank => ?_⟩
    rw [h.fresh.streamReader hrank] at hlive
    exact absurd hlive Bool.false_ne_true

/-! ## The cleanup thread and the SDK's thread -/

/-- A setup thread that is not alive is in the middle of nothing. -/
theorem SetupPc.settled {pc : SetupPc} (h : pc.live = false) : pc.storesPid = false
    ∧ pc.marksDetector = false ∧ pc.marksPtyReader = false ∧ pc.marksStreamReader = false := by
  cases pc <;> first | exact ⟨rfl, rfl, rfl, rfl⟩ | exact absurd h.symm Bool.false_ne_true

theorem StreamThreadPc.not_live_of_isAbsent {pc : StreamThreadPc} (h : pc.isAbsent = true) :
    pc.live = false := by
  cases pc <;> first | rfl | cases h

/-- **A step of the cleanup thread keeps the order.** -/
theorem Ordered.cleanupStep (h : s.Ordered) (hs : s.cleanupStep s.cleanup = some s') :
    s'.Ordered := by
  have hended : s.cleanup ≠ .absent → s.sdk = .ended := fun hc => h.cleanup.resolve_left hc
  have hsettled : s.cleanup.past 2 = true → _ := fun hpast => SetupPc.settled (h.setup.ended hpast)
  obtain ⟨sdk, setup, ptyReader, streamReader, cleanup, activeStreams, closing, closeStarted,
    closePending, setupThreadStarted, ptyReaderThreadStarted, streamReaderThreadStarted, ptyFd,
    childPid, promptDetectorInitialized, ptyRecordFile, closes, cleanups, forks, kills, reaps,
    detectorInits, detectorFrees⟩ := s
  cases cleanup with
  | absent | freed => cases hs
  | joiningSetup =>
    obtain rfl : sdk = .ended := hended CleanupPc.noConfusion
    obtain ⟨hjoin, hs⟩ := Option.ite_none_left_eq_some.mp hs
    obtain rfl := Option.some.inj hs
    refine ⟨h.closing, h.list, Or.inr rfl, h.setup.join ?_ ?_, h.ptyReader, h.streamReader, h.child,
      h.detector, h.fresh, h.killed⟩
    · intro habsent
      cases setup <;> first | rfl | cases habsent
    · intro hstarted
      have hfinished : setup = .finished := by
        by_contra hne
        exact hjoin ⟨hstarted, hne⟩
      rw [hfinished]
      rfl
  | closingPty =>
    obtain rfl : sdk = .ended := hended CleanupPc.noConfusion
    obtain rfl := Option.some.inj hs
    exact ⟨h.closing, h.list, Or.inr rfl, h.setup, h.ptyReader, h.streamReader, h.child, h.detector,
      h.fresh, h.killed⟩
  | signalling =>
    obtain rfl : sdk = .ended := hended CleanupPc.noConfusion
    obtain rfl := Option.some.inj hs
    refine ⟨h.closing, h.list, Or.inr rfl, h.setup, h.ptyReader, h.streamReader, h.child,
      h.detector, h.fresh, fun _ => ?_⟩
    have hcount := h.child.count
    rw [(hsettled rfl).1, h.child.kept rfl, Bool.toNat_false] at hcount
    change forks ≤ kills + childPid.toNat
    change forks = childPid.toNat + 0 + 0 at hcount
    omega
  | joiningPtyReader =>
    obtain rfl : sdk = .ended := hended CleanupPc.noConfusion
    obtain ⟨hjoin, hs⟩ := Option.ite_none_left_eq_some.mp hs
    obtain rfl := Option.some.inj hs
    have hreader := h.ptyReader
    rw [(hsettled rfl).2.2.1] at hreader
    refine ⟨h.closing, h.list, Or.inr rfl, h.setup, ?_, h.streamReader, h.child, h.detector,
      h.fresh, h.killed⟩
    rw [(hsettled rfl).2.2.1]
    refine hreader.join StreamThreadPc.not_live_of_isAbsent fun hstarted => ?_
    have hfinished : ptyReader = .finished := by
      by_contra hne
      exact hjoin ⟨hstarted, hne⟩
    rw [hfinished]
    rfl
  | joiningStreamReader =>
    obtain rfl : sdk = .ended := hended CleanupPc.noConfusion
    obtain ⟨hjoin, hs⟩ := Option.ite_none_left_eq_some.mp hs
    obtain rfl := Option.some.inj hs
    have hreader := h.streamReader
    rw [(hsettled rfl).2.2.2] at hreader
    refine ⟨h.closing, h.list, Or.inr rfl, h.setup, h.ptyReader, ?_, h.child, h.detector, h.fresh,
      h.killed⟩
    rw [(hsettled rfl).2.2.2]
    refine hreader.join StreamThreadPc.not_live_of_isAbsent fun hstarted => ?_
    have hfinished : streamReader = .finished := by
      by_contra hne
      exact hjoin ⟨hstarted, hne⟩
    rw [hfinished]
    rfl
  | reaping =>
    obtain rfl : sdk = .ended := hended CleanupPc.noConfusion
    obtain rfl := Option.some.inj hs
    have hchild := h.child
    rw [(hsettled rfl).1] at hchild
    refine ⟨h.closing, h.list, Or.inr rfl, h.setup, h.ptyReader, h.streamReader, ?_, h.detector,
      h.fresh, h.killed⟩
    rw [(hsettled rfl).1]
    exact hchild.release
  | closingRecord =>
    obtain rfl : sdk = .ended := hended CleanupPc.noConfusion
    obtain rfl := Option.some.inj hs
    exact ⟨h.closing, h.list, Or.inr rfl, h.setup, h.ptyReader, h.streamReader, h.child, h.detector,
      h.fresh, h.killed⟩
  | freeingDetector =>
    obtain rfl : sdk = .ended := hended CleanupPc.noConfusion
    obtain rfl := Option.some.inj hs
    have hdetector := h.detector
    rw [(hsettled rfl).2.1] at hdetector
    refine ⟨h.closing, h.list, Or.inr rfl, h.setup, h.ptyReader, h.streamReader, h.child, ?_,
      h.fresh, h.killed⟩
    rw [(hsettled rfl).2.1]
    exact hdetector.release
  | freeing =>
    obtain rfl : sdk = .ended := hended CleanupPc.noConfusion
    obtain rfl := Option.some.inj hs
    exact ⟨h.closing, h.list, Or.inr rfl, h.setup, h.ptyReader, h.streamReader, h.child, h.detector,
      h.fresh, h.killed⟩

/-- The SDK's thread goes on, beside the setup thread and before there is a cleanup thread. -/
theorem Ordered.goSdk (h : s.Ordered) (habsent : s.cleanup = .absent) (sdk : SdkPc)
    {activeStreams : List ℕ} {closing closeStarted closePending : Bool} {closes cleanups : ℕ}
    (hclosing : Closing sdk s.setup s.winners closeStarted closePending closes cleanups)
    (hlist : activeStreams.count 0 = sdk.linked.toNat) (hmarking : sdk.marking = s.sdk.marking) :
    Ordered { s with
      sdk := sdk
      activeStreams := activeStreams
      closing := closing
      closeStarted := closeStarted
      closePending := closePending
      closes := closes
      cleanups := cleanups } where
  closing := hclosing
  list := hlist
  cleanup := Or.inl habsent
  setup := hmarking ▸ h.setup
  ptyReader := h.ptyReader
  streamReader := h.streamReader
  child := h.child
  detector := h.detector
  fresh := h.fresh
  killed := h.killed

/-- **A step of the SDK's thread keeps the order.** -/
theorem Ordered.sdkStep (h : s.Ordered) {ok : Bool} (hs : s.sdkStep ok s.sdk = some s') :
    s'.Ordered := by
  have habsent : s.sdk ≠ .ended → s.cleanup = .absent := fun hne => h.cleanup.resolve_right hne
  have hunset := h.closing.unset
  obtain ⟨sdk, setup, ptyReader, streamReader, cleanup, activeStreams, closing, closeStarted,
    closePending, setupThreadStarted, ptyReaderThreadStarted, streamReaderThreadStarted, ptyFd,
    childPid, promptDetectorInitialized, ptyRecordFile, closes, cleanups, forks, kills, reaps,
    detectorInits, detectorFrees⟩ := s
  cases sdk with
  | linking =>
    obtain rfl := Option.some.inj hs
    obtain rfl : cleanup = .absent := habsent SdkPc.noConfusion
    refine h.goSdk rfl .accepting (h.closing.goSdk rfl rfl id id) ?_ rfl
    rw [List.count_cons_self]
    exact congrArg (· + 1) h.list
  | accepting =>
    obtain rfl : cleanup = .absent := habsent SdkPc.noConfusion
    cases ok with
    | false =>
      obtain rfl := Option.some.inj hs
      obtain rfl : closeStarted = false := h.closing.early rfl
      refine h.goSdk rfl .cleaning ?_ h.list rfl
      exact ⟨h.closing.winners, h.closing.closes, congrArg (· + 1) h.closing.cleanups, nofun,
        nofun, fun _ => Or.inr (hunset rfl)⟩
    | true =>
      obtain rfl := Option.some.inj hs
      exact h.goSdk rfl .checking (h.closing.goSdk rfl rfl id id) h.list rfl
  | checking =>
    obtain rfl : cleanup = .absent := habsent SdkPc.noConfusion
    obtain rfl := Option.some.inj hs
    cases ok with
    | false =>
      exact h.goSdk rfl (.closingOnce false) (h.closing.goSdk rfl rfl id nofun) h.list rfl
    | true => exact h.goSdk rfl .creatingSetup (h.closing.goSdk rfl rfl id id) h.list rfl
  | creatingSetup =>
    obtain rfl : cleanup = .absent := habsent SdkPc.noConfusion
    obtain rfl : setup = .absent := hunset rfl
    cases ok with
    | false =>
      obtain rfl := Option.some.inj hs
      exact h.goSdk rfl (.closingOnce false) (h.closing.goSdk rfl rfl id nofun) h.list rfl
    | true =>
      obtain rfl := Option.some.inj hs
      exact ⟨⟨h.closing.winners, h.closing.closes, h.closing.cleanups, nofun, nofun, nofun⟩, h.list,
        Or.inl rfl, Joinable.start rfl, h.ptyReader, h.streamReader, h.child, h.detector,
        h.fresh.mono rfl, h.killed⟩
  | markingSetup =>
    obtain rfl : cleanup = .absent := habsent SdkPc.noConfusion
    obtain rfl := Option.some.inj hs
    exact ⟨h.closing.goSdk rfl rfl nofun nofun, h.list, Or.inl rfl, h.setup.note, h.ptyReader,
      h.streamReader, h.child, h.detector, h.fresh, h.killed⟩
  | closingOnce won =>
    obtain rfl : cleanup = .absent := habsent SdkPc.noConfusion
    obtain rfl := Option.some.inj hs
    cases won with
    | false =>
      cases closeStarted with
      | false => exact h.goSdk rfl (.closingOnce true) h.closing.sdkWin h.list rfl
      | true => exact h.goSdk rfl .idle (h.closing.goSdk rfl rfl nofun nofun) h.list rfl
    | true => exact h.goSdk rfl .idle h.closing.sdkStart h.list rfl
  | idle =>
    obtain rfl : cleanup = .absent := habsent SdkPc.noConfusion
    obtain ⟨hpending, hs⟩ := Option.ite_none_right_eq_some.mp hs
    obtain rfl := Option.some.inj hs
    obtain rfl : closePending = true := hpending
    exact h.goSdk rfl .cleaning h.closing.closed h.list rfl
  | cleaning =>
    obtain rfl : cleanup = .absent := habsent SdkPc.noConfusion
    obtain rfl := Option.some.inj hs
    exact h.goSdk rfl .unlinking (h.closing.goSdk rfl rfl nofun nofun) h.list rfl
  | unlinking =>
    obtain rfl : cleanup = .absent := habsent SdkPc.noConfusion
    obtain rfl := Option.some.inj hs
    refine h.goSdk rfl .creatingCleanup (h.closing.goSdk rfl rfl nofun nofun) ?_ rfl
    rw [List.count_erase_self]
    exact congrArg (· - 1) h.list
  | creatingCleanup =>
    obtain rfl : cleanup = .absent := habsent SdkPc.noConfusion
    cases ok with
    | false =>
      obtain rfl := Option.some.inj hs
      exact ⟨h.closing.goSdk rfl rfl nofun nofun, h.list, Or.inr rfl, h.setup, h.ptyReader,
        h.streamReader, h.child, h.detector, h.fresh, nofun⟩
    | true =>
      obtain rfl := Option.some.inj hs
      exact ⟨h.closing.goSdk rfl rfl nofun nofun, h.list, Or.inr rfl, h.setup, h.ptyReader,
        h.streamReader, h.child, h.detector, h.fresh, nofun⟩
  | ended => cases hs

/-- **The step lemma.** -/
theorem Ordered.step {a : TeardownAction} (h : s.Ordered) (hs : s.step a = some s') :
    s'.Ordered := by
  cases a with
  | sdk ok => exact h.sdkStep hs
  | setup ok => exact h.setupStep hs
  | ptyReader result =>
    obtain ⟨⟨t, pc⟩, ht, rfl⟩ := Option.map_eq_some_iff.mp hs
    exact h.ptyReaderStep (readerStep_moved ht)
  | streamReader result =>
    obtain ⟨⟨t, pc⟩, ht, rfl⟩ := Option.map_eq_some_iff.mp hs
    exact h.streamReaderStep (readerStep_moved ht)
  | cleanup => exact h.cleanupStep hs
  | stop =>
    obtain ⟨-, hs⟩ := Option.ite_none_right_eq_some.mp hs
    obtain rfl := Option.some.inj hs
    exact { h with killed := fun hpast => Nat.le_add_right_of_le (h.killed hpast) }
  | linkOther i =>
    obtain rfl := Option.some.inj hs
    refine { h with list := ?_ }
    rw [List.count_cons_of_ne (Nat.succ_ne_zero i)]
    exact h.list
  | unlinkOther i =>
    obtain rfl := Option.some.inj hs
    refine { h with list := ?_ }
    rw [List.count_erase_of_ne (Nat.succ_ne_zero i).symm]
    exact h.list

theorem Ordered.init (others : List ℕ) : (StreamTeardown.init others).Ordered := by
  refine ⟨⟨rfl, rfl, rfl, fun _ => rfl, fun _ => rfl, nofun⟩, ?_, Or.inl rfl, Joinable.unstarted,
    Joinable.unstarted, Joinable.unstarted, Held.unmade, Held.unmade,
    ⟨fun _ => rfl, fun _ => rfl, fun _ => rfl, fun _ => rfl⟩, nofun⟩
  refine List.count_eq_zero.mpr fun hmem => ?_
  obtain ⟨i, -, hi⟩ := List.mem_map.mp hmem
  exact Nat.succ_ne_zero i hi

/-- **The run lemma.** -/
theorem Ordered.run {others : List ℕ} {as : List TeardownAction}
    (hs : Guarded.run StreamTeardown.step (.init others) as = some s) : s.Ordered :=
  Guarded.run_invariant (fun _ _ _ h hstep => h.step hstep) (Ordered.init others) hs

/-- **A data stream is torn down once, after all its threads.**  In every run the close is started
and `cleanup_active_stream` called at most once.  Once the cleanup thread has freed the stream, no
callback is left, every thread that was started has finished, the detector was freed as often as it
was initialised, a forked child was signalled and reaped, and the stream is not in the list. -/
theorem torn_down_once {others : List ℕ} {as : List TeardownAction}
    (hs : Guarded.run StreamTeardown.step (.init others) as = some s) :
    s.closes ≤ 1 ∧ s.cleanups ≤ 1
    ∧ (s.cleanup = .freed →
        s.sdk = .ended
        ∧ (s.setup.live = false ∧ s.ptyReader.live = false ∧ s.streamReader.live = false)
        ∧ (s.detectorInits ≤ 1 ∧ s.detectorFrees = s.detectorInits)
        ∧ (s.forks ≤ 1 ∧ s.forks ≤ s.kills ∧ s.reaps = s.forks)
        ∧ 0 ∉ s.activeStreams) := by
  have h := Ordered.run hs
  have hwinners := h.closing.winners
  have hle := Bool.toNat_le s.closeStarted
  refine ⟨by omega, h.closing.cleanups ▸ Bool.toNat_le _, fun hfreed => ?_⟩
  have hpast : ∀ k ≤ 10, s.cleanup.past k = true := fun k hk => hfreed ▸ Nat.ble_eq_true_of_le hk
  have hended : s.sdk = .ended := h.cleanup.resolve_left (hfreed ▸ CleanupPc.noConfusion)
  have hsetup := h.setup.ended (hpast 2 (by decide))
  obtain ⟨hpid, hdetector, -, -⟩ := SetupPc.settled hsetup
  have hheldChild := h.child
  have hheldDetector := h.detector
  rw [hpid, hpast 7 (by decide)] at hheldChild
  rw [hdetector, hpast 9 (by decide)] at hheldDetector
  refine ⟨hended, ⟨hsetup, h.ptyReader.ended (hpast 5 (by decide)),
    h.streamReader.ended (hpast 6 (by decide))⟩, ⟨hheldDetector.le_one, hheldDetector.given_eq⟩,
    ⟨hheldChild.le_one, h.killed (hpast 4 (by decide)), hheldChild.given_eq⟩, ?_⟩
  rw [← List.count_eq_zero, h.list, hended]
  rfl

/-- The stream reader cannot be created; the setup thread and the PTY reader both want the close. -/
theorem torn_down_once_twoClosers : ∃ as s, Guarded.run StreamTeardown.step (.init [4]) as = some s
    ∧ s.cleanup = .freed ∧ s.closes ≤ 1 ∧ s.reaps = s.forks ∧ 0 < s.forks := by
  have hrun : ((Guarded.run StreamTeardown.step (.init [4])
      [.sdk true, .sdk true, .sdk true, .sdk true, .setup true, .setup true, .setup true,
        .setup true, .setup true, .setup true, .sdk true, .setup true, .ptyReader .again,
        .setup true, .setup false, .ptyReader .breaks, .ptyReader .again, .setup true,
        .ptyReader .again, .setup true, .linkOther 7, .sdk true, .sdk true, .sdk true, .sdk true,
        .cleanup, .cleanup, .cleanup, .cleanup, .cleanup, .cleanup, .cleanup, .cleanup,
        .cleanup]).map fun s => (s.cleanup, s.forks)) = some (.freed, 1) := by decide +kernel
  obtain ⟨s, hs, hseen⟩ := Option.map_eq_some_iff.mp hrun
  obtain ⟨hfreed, hforks⟩ := Prod.mk.inj hseen
  obtain ⟨hcloses, -, hdone⟩ := torn_down_once hs
  exact ⟨_, s, hs, hfreed, hcloses, (hdone hfreed).2.2.2.1.2.2, hforks ▸ Nat.one_pos⟩

end StreamTeardown

end TmuxRemote
