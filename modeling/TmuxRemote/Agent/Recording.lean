import TmuxRemote.Agent.Geometry
import TmuxRemote.Library.Framing
import TmuxRemote.Prompt.Menus

/-!
# Agent/Recording — recording a PTY and replaying it (`pty_reader_thread`, `load_recording`)

With `--record-pty`, what is read from the PTY is written to a file, each read as a frame, before it
is fed to the detector.  The replay reads the frames back and feeds them to a detector of its own.

A recording has the bytes and how they were read, and not the size of the terminal: it replays to
the events of the run as long as the detector keeps its size while it is fed (`recording_replays`).
-/

namespace TmuxRemote

open Framing

/-! ## The file -/

/-- The 16 bytes before the first frame. -/
def recordingHeader : List UInt8 :=
  (CString.ofString "PTYR").bytes ++ lengthBytes 1 ++ List.replicate 8 0

namespace Recording

/-- `fread` of so many bytes. -/
def readExactly (n : ℕ) (file : List UInt8) : Option (List UInt8 × List UInt8) :=
  if n ≤ file.length then some (file.take n, file.drop n) else none

/-- A file that is read from its beginning to its end. -/
def source : Source (List UInt8) where
  content := id
  Intact := fun _ => True
  readExactly := readExactly
  readExactly_of_le := fun _ hle => ⟨_, if_pos hle, rfl, trivial⟩
  readExactly_of_lt := fun _ hlt => if_neg (Nat.not_le.mpr hlt)
  length_readExactly := by
    intro n file bytes rest h
    obtain ⟨hle, heq⟩ := Option.ite_none_right_eq_some.mp h
    obtain ⟨-, rfl⟩ := Prod.mk.inj (Option.some.inj heq)
    rw [id, id, List.length_drop]
    omega

/-- `frame_len == 0 || frame_len > 65536` ends the loop. -/
def accepts (frameLen : ℕ) : Bool := !(frameLen == 0 || frameLen > 65536)

/-- `load_recording`: the frames of a file; `none` where the header is not there.  A last frame that
is not all there, over which the replay test fails, is left out. -/
def loadRecording (file : List UInt8) : Option (List (List UInt8)) :=
  match readExactly 16 file with
  | some (header, rest) =>
    if header.take 4 = (CString.ofString "PTYR").bytes then
      some (source.readLoop accepts (fun _ data => data) rest)
    else none
  | none => none

/-- **What was written is read back**: the frames, each as long as a read can be. -/
theorem loadRecording_frames {reads : List (List UInt8)}
    (hreads : ∀ data ∈ reads, data ≠ [] ∧ data.length ≤ 65536) :
    loadRecording (recordingHeader ++ (reads.map frame).flatten) = some reads := by
  have hsplit : readExactly 16 (recordingHeader ++ (reads.map frame).flatten)
      = some (recordingHeader, (reads.map frame).flatten) := by
    rw [readExactly, if_pos (by rw [List.length_append]; exact Nat.le_add_right 16 _)]
    exact congrArg some (Prod.ext (List.take_left' rfl) (List.drop_left' rfl))
  rw [loadRecording, hsplit]
  dsimp only
  rw [if_pos (by decide)]
  have hframes : ∀ data ∈ reads, data.length < 2 ^ 32 ∧ accepts data.length = true := by
    intro data hdata
    obtain ⟨hne, hle⟩ := hreads data hdata
    have hpos := List.length_pos_of_ne_nil hne
    refine ⟨by omega, ?_⟩
    rw [accepts, Bool.not_eq_true', Bool.or_eq_false_iff]
    exact ⟨by simpa using hne, by simpa using hle⟩
  obtain ⟨rest, hrest, -, hloop⟩ := @Source.readLoop_frames _ _ source accepts (fun _ data => data)
    [] reads (reads.map frame).flatten trivial (List.append_nil _).symm hframes
  obtain rfl : rest = [] := hrest
  have hend : source.readLoop accepts (fun _ data => data) [] = [] := by
    rw [Source.readLoop]
    rfl
  rw [hloop, hend, List.map_id', List.append_nil]

end Recording

/-! ## The run that is recorded -/

/-- A data stream once it is set up, and its recording.  `calls` is what the detector was called
with, in order, and `events` what it answered. -/
structure RecordedStream where
  detector : PromptDetector
  recordFile : List UInt8
  /-- What was read and written to the file, and not fed yet. -/
  buffer : Option (List UInt8)
  calls : List DetectorCall
  events : List PromptEvent

/-- A step of the PTY reader or of the resize handler. -/
inductive RecordedAction
  /-- `read`, and the frame is written. -/
  | read (data : List UInt8)
  | feed
  | resize (size : TerminalSize)

namespace RecordedStream

/-- After `stream_setup_thread`. -/
def start (ruleset : PromptRuleset) (session : WindowSize) : RecordedStream where
  detector := StreamGeometry.setupDetector ruleset session
  recordFile := recordingHeader
  buffer := none
  calls := []
  events := []

section

variable (compile : RegexCompiler) (ids : IdScheme)

/-- The detector is called. -/
def call (s : RecordedStream) (call : DetectorCall) : RecordedStream :=
  match s.detector.step compile ids call with
  | (detector, events) =>
    { s with
      detector := detector
      calls := s.calls ++ [call]
      events := s.events ++ events }

/-- `TMUXREMOTE_STREAM_BUFFER_SIZE` -/
def streamBufferSize : ℕ := 4096

/-- One step; `none` when it cannot be taken.  A read returns at least one byte, or it is the
last. -/
def step (s : RecordedStream) : RecordedAction → Option RecordedStream
  | .read data =>
    if s.buffer = none ∧ data ≠ [] ∧ data.length ≤ streamBufferSize then
      some { s with recordFile := s.recordFile ++ frame data, buffer := some data }
    else none
  | .feed => s.buffer.map fun data => { s.call compile ids (.feed data) with buffer := none }
  | .resize size => some (s.call compile ids (.resize size.rows.toNat size.cols.toNat))

end

/-- What the detector was fed. -/
def feeds (calls : List DetectorCall) : List (List UInt8) :=
  calls.filterMap fun
    | .feed data => some data
    | .resize _ _ | .resolve _ => none

/-- The size that the detector is initialised with. -/
def initialSize (session : WindowSize) : ℕ × ℕ :=
  (if session.cols > 0 then session.cols.toNat else 160,
    if session.rows > 0 then session.rows.toNat else 48)

/-- Whatever the detector is fed, it has the size: a resize before a feed is to that size. -/
def KeepsSize (size : ℕ × ℕ) (calls : List DetectorCall) : Prop :=
  ∀ before rows cols after, calls = before ++ .resize rows cols :: after → feeds after ≠ [] →
    (cols.toNat, rows.toNat) = size

theorem keepsSize_of_forall {size : ℕ × ℕ} {calls : List DetectorCall}
    (h : ∀ rows cols, DetectorCall.resize rows cols ∈ calls → (cols.toNat, rows.toNat) = size) :
    KeepsSize size calls := by
  rintro before rows cols after rfl -
  exact h rows cols (List.mem_append_right before List.mem_cons_self)

/-- A call that the reader or the resize handler makes. -/
def IsLive : DetectorCall → Prop
  | .feed _ => True
  | .resize rows cols => 0 < rows ∧ 0 < cols
  | .resolve _ => False

/-! ## Resizes that leave the size as it is -/

section
variable {compile : RegexCompiler} {ids : IdScheme}

theorem KeepsSize.tail {size : ℕ × ℕ} {call : DetectorCall} {calls : List DetectorCall}
    (h : KeepsSize size (call :: calls)) : KeepsSize size calls := by
  rintro before rows cols after rfl hfeeds
  exact h (call :: before) rows cols after rfl hfeeds

/-- Without feeds there are no events. -/
theorem events_of_no_feeds {calls : List DetectorCall} (hlive : ∀ call ∈ calls, IsLive call)
    (hfeeds : feeds calls = []) (d : PromptDetector) :
    (Reactive.run (PromptDetector.step compile ids) d calls).2 = [] := by
  induction calls generalizing d with
  | nil => rfl
  | cons call calls ih =>
    obtain ⟨hcall, hcalls⟩ := List.forall_mem_cons.mp hlive
    rw [Reactive.run_cons]
    cases call with
    | feed data => exact nomatch hfeeds
    | resize rows cols => exact ih hcalls hfeeds (d.resize rows cols)
    | resolve instanceId => exact hcall.elim

theorem resize_eq_self {d : PromptDetector} {rows cols : ℤ} (hrows : 0 < rows) (hcols : 0 < cols)
    (hsize : (cols.toNat, rows.toNat) = d.terminalState.size) : d.resize rows cols = d := by
  obtain ⟨hc, hr⟩ := Prod.mk.inj hsize
  have hsame : d.terminalState.resize rows cols = d.terminalState := by
    rw [TerminalState.resize]
    dsimp only
    rw [if_pos]
    rw [dimension, dimension, if_pos hrows, if_pos hcols]
    exact ⟨hr, hc⟩
  rw [PromptDetector.resize, hsame]

/-- **The size is all that a recording lacks**: a detector that keeps its size while it is fed
answers as one that is fed the same and not resized at all. -/
theorem events_eq_of_keepsSize {calls : List DetectorCall} (hlive : ∀ call ∈ calls, IsLive call)
    (d : PromptDetector) (hsize : KeepsSize d.terminalState.size calls) :
    (Reactive.run (PromptDetector.feed compile ids) d (feeds calls)).2
      = (Reactive.run (PromptDetector.step compile ids) d calls).2 := by
  induction calls generalizing d with
  | nil => rfl
  | cons call calls ih =>
    obtain ⟨hcall, hcalls⟩ := List.forall_mem_cons.mp hlive
    rw [Reactive.run_cons]
    cases call with
    | feed data =>
      have hkept : (d.feed compile ids data).1.terminalState.size = d.terminalState.size := by
        rw [PromptDetector.feed_terminalState, TerminalState.size_feed]
      have hrest := ih hcalls (d.feed compile ids data).1 (hkept ▸ hsize.tail)
      exact congrArg ((d.feed compile ids data).2 ++ ·) hrest
    | resize rows cols =>
      by_cases hfeeds : feeds calls = []
      · have hnone := @events_of_no_feeds compile ids calls hcalls hfeeds (d.resize rows cols)
        change (Reactive.run (PromptDetector.feed compile ids) d (feeds calls)).2 = _
        rw [hfeeds]
        exact hnone.symm
      · have hself : d.resize rows cols = d :=
          resize_eq_self hcall.1 hcall.2 (hsize [] rows cols calls rfl hfeeds)
        have hrest := ih hcalls d hsize.tail
        change _ = (Reactive.run (PromptDetector.step compile ids) (d.resize rows cols) calls).2
        rw [hself]
        exact hrest
    | resolve instanceId => exact hcall.elim

end

/-! ## Runs -/

/-- The invariant of runs: the detector was called as the history says, and what it was fed is in
the file. -/
structure Recorded (compile : RegexCompiler) (ids : IdScheme) (ruleset : PromptRuleset)
    (session : WindowSize) (s : RecordedStream) : Prop where
  answered : Reactive.run (PromptDetector.step compile ids)
    (StreamGeometry.setupDetector ruleset session) s.calls = (s.detector, s.events)
  live : ∀ call ∈ s.calls, IsLive call
  file : s.recordFile
    = recordingHeader ++ ((feeds s.calls ++ s.buffer.toList).map frame).flatten
  frames : ∀ data ∈ feeds s.calls ++ s.buffer.toList, data ≠ [] ∧ data.length ≤ 65536

section
variable {compile : RegexCompiler} {ids : IdScheme} {ruleset : PromptRuleset}
  {session : WindowSize} {s s' : RecordedStream}

theorem recorded_start : Recorded compile ids ruleset session (start ruleset session) :=
  ⟨rfl, nofun, (List.append_nil _).symm, nofun⟩

theorem Recorded.call (h : Recorded compile ids ruleset session s) (call : DetectorCall) :
    Reactive.run (PromptDetector.step compile ids) (StreamGeometry.setupDetector ruleset session)
        (s.call compile ids call).calls
      = ((s.call compile ids call).detector, (s.call compile ids call).events) := by
  rw [RecordedStream.call, Reactive.run_concat, h.answered]

/-- **What a step keeps.** -/
theorem Recorded.step (h : Recorded compile ids ruleset session s) {action : RecordedAction}
    (hstep : s.step compile ids action = some s') : Recorded compile ids ruleset session s' := by
  have hcall := h.call
  obtain ⟨hanswered, hlive, hfile, hframes⟩ := h
  cases action with
  | read data =>
    obtain ⟨⟨hempty, hne, hle⟩, heq⟩ := Option.ite_none_right_eq_some.mp hstep
    obtain rfl := Option.some.inj heq
    rw [hempty, Option.toList_none, List.append_nil] at hfile hframes
    refine ⟨hanswered, hlive, ?_, ?_⟩
    · rw [hfile, Option.toList_some, List.map_append, List.flatten_append, List.append_assoc,
        List.map_singleton, List.flatten_singleton]
    · rw [Option.toList_some]
      refine List.forall_mem_append.mpr ⟨hframes, List.forall_mem_singleton.mpr ⟨hne, ?_⟩⟩
      exact hle.trans (by decide)
  | feed =>
    obtain ⟨data, hdata, rfl⟩ := Option.map_eq_some_iff.mp hstep
    have hfeeds : feeds (s.calls ++ [.feed data]) = feeds s.calls ++ s.buffer.toList := by
      rw [feeds, List.filterMap_append, hdata]
      rfl
    refine ⟨hcall (.feed data), ?_, ?_, ?_⟩
    · exact List.forall_mem_append.mpr ⟨hlive, List.forall_mem_singleton.mpr trivial⟩
    · rw [RecordedStream.call, hfeeds, hfile, Option.toList_none, List.append_nil]
    · rw [RecordedStream.call, hfeeds, Option.toList_none, List.append_nil]
      exact hframes
  | resize size =>
    obtain rfl := Option.some.inj hstep
    have hfeeds : feeds (s.calls ++ [.resize size.rows.toNat size.cols.toNat]) = feeds s.calls := by
      rw [feeds, List.filterMap_append]
      exact List.append_nil _
    refine ⟨hcall _, ?_, ?_, ?_⟩
    · refine List.forall_mem_append.mpr ⟨hlive, List.forall_mem_singleton.mpr ⟨?_, ?_⟩⟩
      · exact Int.natCast_pos.mpr size.rows_pos
      · exact Int.natCast_pos.mpr size.cols_pos
    · rw [RecordedStream.call, hfeeds]
      exact hfile
    · rw [RecordedStream.call, hfeeds]
      exact hframes

/-- The detector is set up with the size that the stream has. -/
theorem size_setupDetector (ruleset : PromptRuleset) (session : WindowSize) :
    (StreamGeometry.setupDetector ruleset session).terminalState.size = initialSize session := by
  rw [StreamGeometry.setupDetector, initialSize]
  split_ifs with hrows hcols hcols
  · exact TerminalState.size_init hrows hcols
  · exact @TerminalState.size_init _ 160 hrows (by decide)
  · exact @TerminalState.size_init 48 _ (by decide) hcols
  · exact @TerminalState.size_init 48 160 (by decide) (by decide)

end

/-- **A recording replays to the events of the run**, if the detector keeps its first size while it
is fed: the file is read back as its frames, and a new detector of that size, fed one frame after
the other, answers with the same events. -/
theorem recording_replays (compile : RegexCompiler) (ids : IdScheme) (ruleset : PromptRuleset)
    (session : WindowSize) (run : List RecordedAction) (s : RecordedStream)
    (hrun : Guarded.run (step compile ids) (start ruleset session) run = some s)
    (hfed : s.buffer = none) (hsize : KeepsSize (initialSize session) s.calls) :
    ∃ reads, Recording.loadRecording s.recordFile = some reads
      ∧ (Reactive.run (PromptDetector.feed compile ids)
          (StreamGeometry.setupDetector ruleset session) reads).2 = s.events := by
  obtain ⟨hanswered, hlive, hfile, hframes⟩ :=
    Guarded.run_invariant (fun _ _ _ hs hstep => Recorded.step hs hstep) recorded_start hrun
  rw [hfed, Option.toList_none, List.append_nil] at hfile hframes
  refine ⟨feeds s.calls, hfile ▸ Recording.loadRecording_frames hframes, ?_⟩
  rw [events_eq_of_keepsSize hlive _ (size_setupDetector ruleset session ▸ hsize), hanswered]

/-- The size 8 by 3. -/
def smallSize : TerminalSize := ⟨⟨8, 3⟩, by decide, by decide⟩

/-- The size 8 by 1. -/
def lineSize : TerminalSize := ⟨⟨8, 1⟩, by decide, by decide⟩

/-- A menu is read, the terminal is resized, and two bells are read. -/
def menuRun (size : TerminalSize) : List RecordedAction :=
  [.read "Pick\r\n1. a\r\n2. b".toUTF8.data.toList, .feed, .resize size, .read [7], .feed,
    .read [7], .feed]

/-- What is seen of a run. -/
def observed (s : RecordedStream) : Option (List UInt8) × List (List UInt8) × ℕ :=
  (s.buffer, feeds s.calls, s.events.length)

theorem recording_replays_menu :
    ∃ s, Guarded.run (step (fun _ => none) buildInstanceId)
        (start [menuRule] smallSize.toWindowSize) (menuRun smallSize) = some s
      ∧ s.events.length = 1
      ∧ ∃ reads, Recording.loadRecording s.recordFile = some reads
        ∧ (Reactive.run (PromptDetector.feed (fun _ => none) buildInstanceId)
            (StreamGeometry.setupDetector [menuRule] smallSize.toWindowSize) reads).2
          = s.events := by
  have hobserved : (Guarded.run (step (fun _ => none) buildInstanceId)
      (start [menuRule] smallSize.toWindowSize) (menuRun smallSize)).map observed
        = some (none, ["Pick\r\n1. a\r\n2. b".toUTF8.data.toList, [7], [7]], 1) := by
    decide +kernel
  obtain ⟨s, hrun, hs⟩ := Option.map_eq_some_iff.mp hobserved
  obtain ⟨hbuffer, hrest⟩ := Prod.mk.inj hs
  obtain ⟨-, hevents⟩ := Prod.mk.inj hrest
  have hcalls : (Guarded.run (step (fun _ => none) buildInstanceId)
      (start [menuRule] smallSize.toWindowSize) (menuRun smallSize)).map calls
        = some [.feed "Pick\r\n1. a\r\n2. b".toUTF8.data.toList, .resize 3 8, .feed [7],
          .feed [7]] :=
    rfl
  rw [hrun] at hcalls
  refine ⟨s, hrun, hevents, recording_replays _ _ _ _ _ s hrun hbuffer (keepsSize_of_forall ?_)⟩
  rw [Option.some.inj hcalls]
  intro rows cols hmem
  simp only [List.mem_cons, reduceCtorEq, DetectorCall.resize.injEq, List.not_mem_nil, or_false,
    false_or] at hmem
  obtain ⟨rfl, rfl⟩ := hmem
  rfl

/-- The replay does not know that the terminal was resized: the menu, which is gone from the screen
of the run, stays on that of the replay. -/
theorem resized_recording_differs :
    ¬ ∀ (compile : RegexCompiler) (ids : IdScheme) (ruleset : PromptRuleset) (session : WindowSize)
        (run : List RecordedAction) (s : RecordedStream),
      Guarded.run (step compile ids) (start ruleset session) run = some s → s.buffer = none →
      ∃ reads, Recording.loadRecording s.recordFile = some reads
        ∧ (Reactive.run (PromptDetector.feed compile ids)
            (StreamGeometry.setupDetector ruleset session) reads).2 = s.events := by
  intro hall
  have hobserved : (Guarded.run (step (fun _ => none) buildInstanceId)
      (start [menuRule] smallSize.toWindowSize) (menuRun lineSize)).map observed
        = some (none, ["Pick\r\n1. a\r\n2. b".toUTF8.data.toList, [7], [7]], 2) := by
    decide +kernel
  obtain ⟨s, hrun, hs⟩ := Option.map_eq_some_iff.mp hobserved
  obtain ⟨hbuffer, hrest⟩ := Prod.mk.inj hs
  obtain ⟨hfeeds, hevents⟩ := Prod.mk.inj hrest
  obtain ⟨reads, hload, hreplay⟩ := hall _ _ _ _ _ s hrun hbuffer
  -- the frames are what was fed
  obtain ⟨-, -, hfile, hframes⟩ :=
    Guarded.run_invariant (fun _ _ _ hs hstep => Recorded.step hs hstep) recorded_start hrun
  rw [hbuffer, hfeeds, Option.toList_none, List.append_nil] at hfile hframes
  rw [hfile, Recording.loadRecording_frames hframes] at hload
  obtain rfl := Option.some.inj hload
  have hlength := congrArg List.length hreplay
  rw [hevents] at hlength
  revert hlength
  decide +kernel

end RecordedStream

end TmuxRemote
