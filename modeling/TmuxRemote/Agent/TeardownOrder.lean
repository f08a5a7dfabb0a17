import TmuxRemote.Agent.StreamTeardown

/-!
# Agent/TeardownOrder — how far the threads of a data stream are from each other

One exchange of `start_stream_close_once` goes through, and the callback of the close it starts
calls `cleanup_active_stream` (`Closing`).  What the setup thread has not come to has not happened
(`Fresh`).  The cleanup thread is past a join only when the thread that it joins has finished, and
what was made is freed once (`Ordered`).  The steps of the setup thread keep all this.
-/

namespace TmuxRemote

/-! ## Where the threads stand to each other -/

namespace SdkPc

/-- Has won the exchange, and not yet started the close. -/
def won : SdkPc → Bool
  | closingOnce won => won
  | _ => false

/-- The stream has not been accepted, or its session not been looked at. -/
def early : SdkPc → Bool
  | linking | accepting | checking | creatingSetup => true
  | _ => false

/-- There is no setup thread yet, and none any more after a failure. -/
def unset : SdkPc → Bool
  | linking | accepting | checking | creatingSetup | closingOnce _ => true
  | _ => false

/-- From the call of `cleanup_active_stream` on. -/
def late : SdkPc → Bool
  | cleaning | unlinking | creatingCleanup | ended => true
  | _ => false

/-- Between the start of the setup thread and the note of it. -/
def marking : SdkPc → Bool
  | markingSetup => true
  | _ => false

/-- The stream is in the list. -/
def linked : SdkPc → Bool
  | linking | creatingCleanup | ended => false
  | _ => true

end SdkPc

namespace SetupPc

def isAbsent : SetupPc → Bool
  | absent => true
  | _ => false

def live : SetupPc → Bool
  | absent | finished => false
  | _ => true

def won : SetupPc → Bool
  | closingOnce won => won
  | _ => false

/-- The child is forked, and its number is not stored. -/
def storesPid : SetupPc → Bool
  | storingPid => true
  | _ => false

/-- The detector is initialised, and that is not noted. -/
def marksDetector : SetupPc → Bool
  | markingDetector => true
  | _ => false

/-- The PTY reader is started, and that is not noted. -/
def marksPtyReader : SetupPc → Bool
  | markingPtyReader => true
  | _ => false

def marksStreamReader : SetupPc → Bool
  | markingStreamReader => true
  | _ => false

/-- How far the thread is; everything that ends it comes last. -/
def rank : SetupPc → ℕ
  | absent => 0
  | testing => 1
  | forking => 2
  | storingPid => 3
  | initialisingDetector => 4
  | markingDetector => 5
  | recording => 6
  | creatingPtyReader => 7
  | markingPtyReader => 8
  | creatingStreamReader => 9
  | markingStreamReader => 10
  | closingOnce _ => 11
  | finished => 12

end SetupPc

namespace StreamThreadPc

def isAbsent : StreamThreadPc → Bool
  | absent => true
  | _ => false

def live : StreamThreadPc → Bool
  | absent | finished => false
  | _ => true

def won : StreamThreadPc → Bool
  | closingOnce won => won
  | _ => false

end StreamThreadPc

/-- How far the cleanup thread is. -/
def CleanupPc.rank : CleanupPc → ℕ
  | absent => 0
  | joiningSetup => 1
  | closingPty => 2
  | signalling => 3
  | joiningPtyReader => 4
  | joiningStreamReader => 5
  | reaping => 6
  | closingRecord => 7
  | freeingDetector => 8
  | freeing => 9
  | freed => 10

/-- The cleanup thread is so far. -/
def CleanupPc.past (pc : CleanupPc) (k : ℕ) : Bool := Nat.ble k pc.rank

/-- One exchange goes through, the close is started by who won it, and the callback of the close
calls `cleanup_active_stream`; `winners` are threads that are about to start the close. -/
structure Closing (sdk : SdkPc) (setup : SetupPc) (winners : ℕ) (closeStarted closePending : Bool)
    (closes cleanups : ℕ) : Prop where
  winners : sdk.won.toNat + winners + closes = closeStarted.toNat
  closes : closes = closePending.toNat + (sdk.late && closeStarted).toNat
  cleanups : cleanups = sdk.late.toNat
  unset : sdk.unset = true → setup = .absent
  early : sdk.early = true → closeStarted = false
  late : sdk.late = true → closeStarted = true ∨ setup = .absent

/-- What the setup thread has not come to has not happened. -/
structure Fresh (setup : SetupPc) (ptyReader streamReader : StreamThreadPc)
    (forks detectorInits : ℕ) : Prop where
  forks : setup.rank ≤ 2 → forks = 0
  detectorInits : setup.rank ≤ 4 → detectorInits = 0
  ptyReader : setup.rank ≤ 7 → ptyReader = .absent
  streamReader : setup.rank ≤ 9 → streamReader = .absent

namespace StreamTeardown

/-- The threads that have won the exchange and not yet started the close, the SDK's apart. -/
def winners (s : StreamTeardown) : ℕ :=
  s.setup.won.toNat + s.ptyReader.won.toNat + s.streamReader.won.toNat

/-- The invariant. -/
structure Ordered (s : StreamTeardown) : Prop where
  closing : Closing s.sdk s.setup s.winners s.closeStarted s.closePending s.closes s.cleanups
  list : s.activeStreams.count 0 = s.sdk.linked.toNat
  cleanup : s.cleanup = .absent ∨ s.sdk = .ended
  setup : Joinable s.setup.isAbsent s.setup.live s.setupThreadStarted s.sdk.marking
    (s.cleanup.past 2)
  ptyReader : Joinable s.ptyReader.isAbsent s.ptyReader.live s.ptyReaderThreadStarted
    s.setup.marksPtyReader (s.cleanup.past 5)
  streamReader : Joinable s.streamReader.isAbsent s.streamReader.live s.streamReaderThreadStarted
    s.setup.marksStreamReader (s.cleanup.past 6)
  child : Held s.forks s.childPid s.reaps s.setup.storesPid (s.cleanup.past 7)
  detector : Held s.detectorInits s.promptDetectorInitialized s.detectorFrees s.setup.marksDetector
    (s.cleanup.past 9)
  fresh : Fresh s.setup s.ptyReader s.streamReader s.forks s.detectorInits
  killed : s.cleanup.past 4 = true → s.forks ≤ s.kills

end StreamTeardown

section
variable {sdk sdk' : SdkPc} {setup setup' : SetupPc} {winners winners' closes cleanups : ℕ}
  {closeStarted closePending : Bool}

/-- The setup thread goes on, and whoever has won has won before. -/
theorem Closing.go (h : Closing sdk setup winners closeStarted closePending closes cleanups)
    (hsetup : setup ≠ .absent) :
    Closing sdk setup' winners closeStarted closePending closes cleanups where
  winners := h.winners
  closes := h.closes
  cleanups := h.cleanups
  unset hunset := absurd (h.unset hunset) hsetup
  early := h.early
  late hlate := Or.inl ((h.late hlate).resolve_right hsetup)

/-- The SDK's thread goes on; `unset` and `early` end, and do not begin. -/
theorem Closing.goSdk (h : Closing sdk setup winners closeStarted closePending closes cleanups)
    (hwon : sdk'.won = sdk.won) (hlate : sdk'.late = sdk.late)
    (hunset : sdk'.unset = true → sdk.unset = true)
    (hearly : sdk'.early = true → sdk.early = true) :
    Closing sdk' setup winners closeStarted closePending closes cleanups where
  winners := hwon ▸ h.winners
  closes := hlate ▸ h.closes
  cleanups := hlate ▸ h.cleanups
  unset h' := h.unset (hunset h')
  early h' := h.early (hearly h')
  late h' := h.late (hlate ▸ h')

/-- A thread beside the SDK's wins the exchange. -/
theorem Closing.win (h : Closing sdk setup winners false closePending closes cleanups)
    (hsetup : setup ≠ .absent) (hcount : winners' = winners + 1) :
    Closing sdk setup winners' true closePending closes cleanups where
  winners := by
    have hwinners := h.winners
    rw [Bool.toNat_false] at hwinners
    rw [Bool.toNat_true]
    omega
  closes := by
    have hlate : sdk.late = false := by
      rw [← Bool.not_eq_true]
      intro hlate
      rcases h.late hlate with hstarted | habsent
      · exact absurd hstarted Bool.false_ne_true
      · exact hsetup habsent
    have hcloses := h.closes
    rw [hlate] at hcloses ⊢
    exact hcloses
  cleanups := h.cleanups
  unset := h.unset
  early hearly := by
    refine absurd (h.unset ?_) hsetup
    cases sdk <;> first | rfl | exact absurd hearly Bool.false_ne_true
  late _ := Or.inl rfl

/-- A thread that has won starts the close. -/
theorem Closing.start (h : Closing sdk setup winners' closeStarted closePending closes cleanups)
    (hcount : winners' = winners + 1) :
    Closing sdk setup winners closeStarted true (closes + 1) cleanups where
  winners := by
    have hwinners := h.winners
    omega
  closes := by
    have hwinners := h.winners
    have hcloses := h.closes
    have hle := Bool.toNat_le closeStarted
    have hzero : closes = 0 := by omega
    rw [Bool.toNat_true]
    omega
  cleanups := h.cleanups
  unset := h.unset
  early := h.early
  late := h.late

/-- The SDK's thread wins the exchange. -/
theorem Closing.sdkWin
    (h : Closing (.closingOnce false) setup winners false closePending closes cleanups) :
    Closing (.closingOnce true) setup winners true closePending closes cleanups where
  winners := by
    have hwinners : 0 + winners + closes = 0 := h.winners
    change 1 + winners + closes = 1
    omega
  closes := h.closes
  cleanups := h.cleanups
  unset := h.unset
  early := nofun
  late := nofun

/-- The SDK's thread has won, and starts the close. -/
theorem Closing.sdkStart
    (h : Closing (.closingOnce true) setup winners closeStarted closePending closes cleanups) :
    Closing .idle setup winners closeStarted true (closes + 1) cleanups where
  winners := by
    have hwinners : 1 + winners + closes = closeStarted.toNat := h.winners
    change 0 + winners + (closes + 1) = closeStarted.toNat
    omega
  closes := by
    have hwinners : 1 + winners + closes = closeStarted.toNat := h.winners
    have hle := Bool.toNat_le closeStarted
    change closes + 1 = 1 + 0
    omega
  cleanups := h.cleanups
  unset := nofun
  early := nofun
  late := nofun

/-- `stream_closed` -/
theorem Closing.closed (h : Closing .idle setup winners closeStarted true closes cleanups) :
    Closing .cleaning setup winners closeStarted false closes (cleanups + 1) := by
  have hwinners : 0 + winners + closes = closeStarted.toNat := h.winners
  have hcloses : closes = 1 + 0 := h.closes
  have hstarted : closeStarted = true := by
    cases closeStarted with
    | false =>
      rw [Bool.toNat_false] at hwinners
      omega
    | true => rfl
  refine ⟨h.winners, ?_, congrArg (· + 1) h.cleanups, nofun, nofun, fun _ => Or.inl hstarted⟩
  rw [hstarted]
  exact hcloses

theorem Fresh.mono {ptyReader streamReader : StreamThreadPc} {forks inits : ℕ}
    (h : Fresh setup ptyReader streamReader forks inits)
    (hle : Nat.ble setup.rank setup'.rank = true) :
    Fresh setup' ptyReader streamReader forks inits where
  forks hrank := h.forks (Nat.le_trans (Nat.le_of_ble_eq_true hle) hrank)
  detectorInits hrank := h.detectorInits (Nat.le_trans (Nat.le_of_ble_eq_true hle) hrank)
  ptyReader hrank := h.ptyReader (Nat.le_trans (Nat.le_of_ble_eq_true hle) hrank)
  streamReader hrank := h.streamReader (Nat.le_trans (Nat.le_of_ble_eq_true hle) hrank)

end

theorem CleanupPc.past_eq_false {pc : CleanupPc} {j k : ℕ} (hle : j ≤ k) (h : pc.past j = false) :
    pc.past k = false := by
  rw [← Bool.not_eq_true] at h ⊢
  exact fun hk => h (Nat.ble_eq_true_of_le (Nat.le_trans hle (Nat.le_of_ble_eq_true hk)))

theorem SetupPc.isAbsent_of_live {pc : SetupPc} (h : pc.live = true) : pc.isAbsent = false := by
  cases pc <;> first | rfl | exact absurd h Bool.false_ne_true

/-- From `pc` to `pc'` the setup thread makes nothing, notes nothing and wins nothing. -/
structure SetupPc.GoesOn (pc pc' : SetupPc) : Prop where
  live : pc.live = true
  started : pc'.isAbsent = false
  rank : Nat.ble pc.rank pc'.rank = true
  won : pc'.won = pc.won
  storesPid : pc'.storesPid = pc.storesPid
  marksDetector : pc'.marksDetector = pc.marksDetector
  marksPtyReader : pc'.marksPtyReader = pc.marksPtyReader
  marksStreamReader : pc'.marksStreamReader = pc.marksStreamReader

namespace StreamTeardown

variable {s s' : StreamTeardown}

/-- While the setup thread is alive the cleanup thread waits for it. -/
theorem Ordered.not_past (h : s.Ordered) (hlive : s.setup.live = true) {k : ℕ} (hk : 2 ≤ k) :
    s.cleanup.past k = false :=
  CleanupPc.past_eq_false hk (hlive ▸ h.setup).not_joined

/-- The setup thread goes on.  No other thread goes by `closing`, `ptyFd` or `ptyRecordFile`. -/
theorem Ordered.goSetup (h : s.Ordered) (pc : SetupPc) (hgoes : s.setup.GoesOn pc)
    {closing ptyFd ptyRecordFile : Bool} :
    Ordered { s with
      setup := pc
      closing := closing
      ptyFd := ptyFd
      ptyRecordFile := ptyRecordFile } where
  closing := by
    have hpresent : s.setup ≠ .absent := fun habsent =>
      nomatch (congrArg SetupPc.live habsent).symm.trans hgoes.live
    have hgone : Closing s.sdk pc s.winners s.closeStarted s.closePending s.closes s.cleanups :=
      h.closing.go hpresent
    rw [winners, ← hgoes.won] at hgone
    exact hgone
  list := h.list
  cleanup := h.cleanup
  setup := by
    have hsetup := h.setup
    rw [hgoes.live, SetupPc.isAbsent_of_live hgoes.live] at hsetup
    exact hgoes.started ▸ hsetup.go
  ptyReader := hgoes.marksPtyReader ▸ h.ptyReader
  streamReader := hgoes.marksStreamReader ▸ h.streamReader
  child := hgoes.storesPid ▸ h.child
  detector := hgoes.marksDetector ▸ h.detector
  fresh := h.fresh.mono hgoes.rank
  killed := h.killed

/-- **A step of the setup thread keeps the order.** -/
theorem Ordered.setupStep (h : s.Ordered) {ok : Bool} (hs : s.setupStep ok s.setup = some s') :
    s'.Ordered := by
  obtain ⟨sdk, setup, ptyReader, streamReader, cleanup, activeStreams, closing, closeStarted,
    closePending, setupThreadStarted, ptyReaderThreadStarted, streamReaderThreadStarted, ptyFd,
    childPid, promptDetectorInitialized, ptyRecordFile, closes, cleanups, forks, kills, reaps,
    detectorInits, detectorFrees⟩ := s
  cases setup with
  | absent | finished => cases hs
  | testing =>
    obtain rfl := Option.some.inj hs
    split
    · exact h.goSetup .finished ⟨rfl, rfl, rfl, rfl, rfl, rfl, rfl, rfl⟩
    · exact h.goSetup .forking ⟨rfl, rfl, rfl, rfl, rfl, rfl, rfl, rfl⟩
  | forking =>
    cases ok with
    | false =>
      obtain rfl := Option.some.inj hs
      exact h.goSetup (.closingOnce false) ⟨rfl, rfl, rfl, rfl, rfl, rfl, rfl, rfl⟩
    | true =>
      obtain rfl := Option.some.inj hs
      obtain rfl : forks = 0 := h.fresh.forks (Nat.le_of_ble_eq_true rfl)
      have hfresh : Fresh .storingPid ptyReader streamReader 0 detectorInits := h.fresh.mono rfl
      refine ⟨h.closing.go SetupPc.noConfusion, h.list, h.cleanup, h.setup.go, h.ptyReader,
        h.streamReader, h.child.make (h.not_past rfl (k := 7) (by decide)), h.detector,
        { hfresh with forks := fun hrank => absurd (show 3 ≤ 2 from hrank) (by decide) },
        fun hpast => ?_⟩
      exact absurd ((h.not_past rfl (k := 4) (by decide)).symm.trans hpast) Bool.false_ne_true
  | storingPid =>
    obtain rfl := Option.some.inj hs
    exact ⟨h.closing.go SetupPc.noConfusion, h.list, h.cleanup, h.setup.go, h.ptyReader,
      h.streamReader, h.child.note (h.not_past rfl (k := 7) (by decide)), h.detector,
      h.fresh.mono rfl, h.killed⟩
  | initialisingDetector =>
    obtain rfl := Option.some.inj hs
    obtain rfl : detectorInits = 0 := h.fresh.detectorInits (Nat.le_of_ble_eq_true rfl)
    have hfresh : Fresh .markingDetector ptyReader streamReader forks 0 := h.fresh.mono rfl
    exact ⟨h.closing.go SetupPc.noConfusion, h.list, h.cleanup, h.setup.go, h.ptyReader,
      h.streamReader, h.child, h.detector.make (h.not_past rfl (k := 9) (by decide)),
      { hfresh with detectorInits := fun hrank => absurd (show 5 ≤ 4 from hrank) (by decide) },
      h.killed⟩
  | markingDetector =>
    obtain rfl := Option.some.inj hs
    exact ⟨h.closing.go SetupPc.noConfusion, h.list, h.cleanup, h.setup.go, h.ptyReader,
      h.streamReader, h.child, h.detector.note (h.not_past rfl (k := 9) (by decide)),
      h.fresh.mono rfl, h.killed⟩
  | recording =>
    obtain rfl := Option.some.inj hs
    exact h.goSetup .creatingPtyReader ⟨rfl, rfl, rfl, rfl, rfl, rfl, rfl, rfl⟩
  | creatingPtyReader =>
    cases ok with
    | false =>
      obtain rfl := Option.some.inj hs
      exact ⟨h.closing.go SetupPc.noConfusion, h.list, h.cleanup, h.setup.go, h.ptyReader,
        h.streamReader, h.child, h.detector, h.fresh.mono rfl,
        fun hpast => Nat.le_succ_of_le (h.killed hpast)⟩
    | true =>
      obtain rfl := Option.some.inj hs
      obtain rfl : ptyReader = .absent := h.fresh.ptyReader (Nat.le_of_ble_eq_true rfl)
      have hfresh : Fresh .markingPtyReader .absent streamReader forks detectorInits :=
        h.fresh.mono rfl
      exact ⟨h.closing.go SetupPc.noConfusion, h.list, h.cleanup, h.setup.go,
        Joinable.start (h.not_past rfl (k := 5) (by decide)), h.streamReader, h.child, h.detector,
        { hfresh with ptyReader := fun hrank => absurd (show 8 ≤ 7 from hrank) (by decide) },
        h.killed⟩
  | markingPtyReader =>
    obtain rfl := Option.some.inj hs
    exact ⟨h.closing.go SetupPc.noConfusion, h.list, h.cleanup, h.setup.go, h.ptyReader.note,
      h.streamReader, h.child, h.detector, h.fresh.mono rfl, h.killed⟩
  | creatingStreamReader =>
    cases ok with
    | false =>
      obtain rfl := Option.some.inj hs
      exact h.goSetup (.closingOnce false) ⟨rfl, rfl, rfl, rfl, rfl, rfl, rfl, rfl⟩
    | true =>
      obtain rfl := Option.some.inj hs
      obtain rfl : streamReader = .absent := h.fresh.streamReader (Nat.le_of_ble_eq_true rfl)
      have hfresh : Fresh .markingStreamReader ptyReader .absent forks detectorInits :=
        h.fresh.mono rfl
      exact ⟨h.closing.go SetupPc.noConfusion, h.list, h.cleanup, h.setup.go, h.ptyReader,
        Joinable.start (h.not_past rfl (k := 6) (by decide)), h.child, h.detector,
        { hfresh with streamReader := fun hrank => absurd (show 10 ≤ 9 from hrank) (by decide) },
        h.killed⟩
  | markingStreamReader =>
    obtain rfl := Option.some.inj hs
    exact ⟨h.closing.go SetupPc.noConfusion, h.list, h.cleanup, h.setup.go, h.ptyReader,
      h.streamReader.note, h.child, h.detector, h.fresh.mono rfl, h.killed⟩
  | closingOnce won =>
    obtain rfl := Option.some.inj hs
    cases won with
    | false =>
      cases closeStarted with
      | false =>
        refine ⟨(h.closing.win SetupPc.noConfusion ?_).go SetupPc.noConfusion, h.list, h.cleanup,
          h.setup.go, h.ptyReader, h.streamReader, h.child, h.detector, h.fresh.mono rfl, h.killed⟩
        change 1 + ptyReader.won.toNat + streamReader.won.toNat
          = 0 + ptyReader.won.toNat + streamReader.won.toNat + 1
        omega
      | true =>
        exact h.goSetup .finished ⟨rfl, rfl, rfl, rfl, rfl, rfl, rfl, rfl⟩
    | true =>
      refine ⟨(h.closing.start ?_).go SetupPc.noConfusion, h.list, h.cleanup, h.setup.go,
        h.ptyReader, h.streamReader, h.child, h.detector, h.fresh.mono rfl, h.killed⟩
      change 1 + ptyReader.won.toNat + streamReader.won.toNat
        = 0 + ptyReader.won.toNat + streamReader.won.toNat + 1
      omega

end StreamTeardown

end TmuxRemote
