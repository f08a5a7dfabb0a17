import TmuxRemote.Agent.ControlStream
import TmuxRemote.Ios.ControlStreams
import TmuxRemote.Ios.SessionSwitch

/-!
# Ios/PromptPath — the way of a prompt from the PTY to the overlay

One data stream, one control stream and one screen that listens: what the detector reports is
encoded and framed, written to the control stream, cut into whatever pieces the transport makes of
it, put together again by the app's read loop, decoded, and handed to the pattern engine, while the
user taps and timers fire.

**The overlay mirrors the detector** (`overlay_mirrors_detector`): the app hears what the detector
reported, in that order and up to some point; once nothing is under way it has heard everything, the
prompt it takes to be open is the one that is active on the agent, and after its durations it shows
it, unless the user has answered it or its `present` was held back.

The control stream is listed before the detector reports anything; one that is listed later is
brought up to date by the monitor (`PromptSync`).  The monitor's `sessions` frames, of which the
overlay takes no notice, are left off the wire.
-/

namespace TmuxRemote

/-! ## What the detector reports -/

/-- The event may come while this prompt is on show. -/
def PromptEvent.Follows (shown : Option PromptInstance) : PromptEvent → Prop
  | .present _ => shown = none
  | .update inst => shown.any (·.instanceId = inst.instanceId) = true
  | .gone instanceId => shown.any (·.instanceId = instanceId) = true

/-- Each event may come after those before it. -/
def Lawful : Option PromptInstance → List PromptEvent → Prop
  | _, [] => True
  | shown, event :: events => event.Follows shown ∧ Lawful (applyEvent shown event) events

theorem lawful_append {shown : Option PromptInstance} {xs ys : List PromptEvent} :
    Lawful shown (xs ++ ys) ↔ Lawful shown xs ∧ Lawful (xs.foldl applyEvent shown) ys := by
  induction xs generalizing shown with
  | nil => exact (iff_of_eq (true_and _)).symm
  | cons event xs ih => rw [List.cons_append, Lawful, Lawful, ih, and_assoc, List.foldl_cons]

namespace PromptPhase

variable (p : PromptPhase)

theorem absent_lawful (isHeld : Bool) : Lawful p.shown (p.absent isHeld).2 := by
  rcases hshown : p.shown with - | active
  · rw [absent_idle hshown]
    trivial
  · by_cases hlt : p.absences + 1 < promptAbsenceSnapshots
    · rw [absent_wait hshown hlt]
      trivial
    · rw [absent_gone hshown hlt]
      exact ⟨decide_eq_true rfl, trivial⟩

theorem sighted_lawful (inst : PromptInstance) : Lawful p.shown (p.sighted inst).2 := by
  rcases hshown : p.shown with - | active
  · rw [sighted_idle hshown]
    exact ⟨rfl, trivial⟩
  · by_cases hid : active.instanceId = inst.instanceId
    · rcases hsem : active.sameSemantics inst with - | -
      · rw [sighted_changed hshown hid hsem]
        exact ⟨decide_eq_true hid, trivial⟩
      · rw [sighted_same hshown hid hsem]
        trivial
    · rw [sighted_other hshown hid]
      exact ⟨decide_eq_true rfl, applyEvent_gone_same active, trivial⟩

theorem look_lawful (ids : IdScheme) (candidate : Option PromptCandidate) :
    Lawful p.shown (p.look ids candidate).2 := by
  rcases candidate with - | c
  · exact p.absent_lawful false
  · rw [look, Option.map_some]
    by_cases hheld : p.held = some (candidateToInstanceWithId ids c).instanceId
    · rw [observe_held hheld]
      exact p.absent_lawful true
    · rw [observe_new hheld]
      exact p.sighted_lawful _

theorem answered_lawful (instanceId : CString) : Lawful p.shown (p.answered instanceId).2 := by
  rcases hempty : instanceId.isEmpty with - | -
  · by_cases hid : ∃ active, p.shown = some active ∧ active.instanceId.text = instanceId
    · obtain ⟨active, hshown, hid⟩ := hid
      rw [answered_shown hempty hshown hid, hshown]
      exact ⟨decide_eq_true rfl, trivial⟩
    · rw [answered_other hempty fun active hshown hsame => hid ⟨active, hshown, hsame⟩]
      trivial
  · rw [answered_empty hempty]
    trivial

end PromptPhase

/-- **A detector call** reports what may come. -/
theorem PromptDetector.step_lawful (compile : RegexCompiler) (ids : IdScheme) (d : PromptDetector)
    (call : DetectorCall) : Lawful d.copyActive (d.step compile ids call).2 := by
  rw [copyActive_eq]
  rcases call with data | ⟨rows, cols⟩ | instanceId
  · by_cases hdata : data = []
    · rw [step, feed, if_pos (List.isEmpty_iff.mpr hdata)]
      trivial
    · have hlawful := d.lifecycle.phase.look_lawful ids (d.sight compile data)
      rw [← d.feed_refines compile ids hdata] at hlawful
      exact hlawful
  · trivial
  · have hlawful := d.lifecycle.phase.answered_lawful instanceId
    rw [← d.lifecycle.resolve_refines instanceId] at hlawful
    exact hlawful

/-! ## What is sent of it -/

instance (inst : PromptInstance) : Decidable inst.ValidTexts :=
  decidable_of_iff
    (validUtf8 inst.instanceId.text.bytes = true ∧ validUtf8 inst.patternId.bytes = true
      ∧ validUtf8 inst.prompt.bytes = true ∧ ∀ action ∈ inst.actions,
        validUtf8 action.label.bytes = true ∧ validUtf8 action.keys.bytes = true)
    ⟨fun ⟨hid, hpattern, hprompt, hactions⟩ => ⟨hid, hpattern, hprompt, hactions⟩,
      fun h => ⟨h.instanceId, h.patternId, h.prompt, h.actions⟩⟩

namespace PromptEvent

/-- The event as the app reads it. -/
def toApp : PromptEvent → ControlStreamEvent
  | present inst => .patternPresent inst.toMatch
  | update inst => .patternUpdate inst.toMatch
  | gone instanceId => .patternGone instanceId.text.bytes

/-- Every string is well-formed UTF-8. -/
def ValidTexts : PromptEvent → Prop
  | present inst | update inst => inst.ValidTexts
  | gone instanceId => validUtf8 instanceId.text.bytes = true

/-- The event is sent, and the app can read its strings. -/
structure Readable (platform : Platform) (event : PromptEvent) : Prop where
  sent : (App.eventFrame platform event).isSome = true
  texts : event.ValidTexts

instance (event : PromptEvent) : Decidable event.ValidTexts :=
  match event with
  | present inst | update inst => inferInstanceAs (Decidable inst.ValidTexts)
  | gone instanceId => inferInstanceAs (Decidable (validUtf8 instanceId.text.bytes = true))

instance (platform : Platform) (event : PromptEvent) : Decidable (event.Readable platform) :=
  decidable_of_iff ((App.eventFrame platform event).isSome = true ∧ event.ValidTexts)
    ⟨fun ⟨hsent, htexts⟩ => ⟨hsent, htexts⟩, fun h => ⟨h.sent, h.texts⟩⟩

end PromptEvent

section

variable {platform : Platform} {swift : SwiftCbor}

/-- A prompt is gone, as the payload of its event. -/
theorem decodeControlStreamEvent_gone {instanceId : InstanceId}
    (hlength : (goneItem instanceId).encode.length ≤ 128)
    (htext : validUtf8 instanceId.text.bytes = true) :
    decodeControlStreamEvent swift (goneItem instanceId).encode
      = some (.patternGone instanceId.text.bytes) := by
  rw [decodeControlStreamEvent, swift_decode (hlength.trans_lt (by decide))
    (by simp [goneItem, entry, DistinctKeys, DistinctKeysEntries])
    (by simp [goneItem, entry, Cbor.textsOk, Cbor.textsOkEntries, validUtf8_utf8, htext])]
  simp [goneItem, lookup_entry, textOf]

/-- **The frame of an event** holds a payload from which the app reads the event. -/
theorem PromptEvent.Readable.frame {event : PromptEvent} (h : event.Readable platform)
    (hanswerable : event.Answerable) (swift : SwiftCbor) :
    ∃ payload, App.eventFrame platform event = some (Framing.frame payload) ∧ Sendable payload
      ∧ decodeControlStreamEvent swift payload = some event.toApp := by
  obtain ⟨hsent, htexts⟩ := h
  have hsendable {item : Cbor} {limit : ℕ} (hlimit : limit ≤ 65535)
      (hfits : item.encode.length ≤ limit) : Sendable item.encode :=
    ⟨Cbor.length_encode_pos item, hfits.trans hlimit⟩
  obtain ⟨frame, hframe⟩ := Option.isSome_iff_exists.mp hsent
  cases event with
  | present inst =>
    rw [App.eventFrame, encodePresent, encodeInstanceMessage_eq] at hframe ⊢
    split_ifs at hframe ⊢ with hfits
    refine ⟨_, rfl, hsendable (by decide) hfits, ?_⟩
    rw [decodeControlStreamEvent_instance hfits (hanswerable inst rfl) htexts]
    rfl
  | update inst =>
    rw [App.eventFrame, encodeUpdate, encodeInstanceMessage_eq] at hframe ⊢
    split_ifs at hframe ⊢ with hfits
    refine ⟨_, rfl, hsendable (by decide) hfits, ?_⟩
    rw [decodeControlStreamEvent_instance hfits (hanswerable inst rfl) htexts]
    rfl
  | gone instanceId =>
    rw [App.eventFrame, encodeGone_eq] at hframe ⊢
    split_ifs at hframe ⊢ with hfits
    exact ⟨_, rfl, hsendable (by decide) hfits, decodeControlStreamEvent_gone hfits htexts⟩

/-- The bytes that are sent of the events. -/
def eventBytes (platform : Platform) (events : List PromptEvent) : List UInt8 :=
  events.flatMap fun event => (App.eventFrame platform event).getD []

theorem eventBytes_append (xs ys : List PromptEvent) :
    eventBytes platform (xs ++ ys) = eventBytes platform xs ++ eventBytes platform ys :=
  List.flatMap_append

/-! ## What the read loop makes of the pieces -/

namespace FrameReader

/-- The bytes of the message that is being read, its length among them. -/
def pending (reader : FrameReader) : List UInt8 :=
  match reader.wanted with
  | none => reader.buffer
  | some count => Framing.lengthBytes count ++ reader.buffer

/-- The loop waits for more, of a length or of a payload that it accepts. -/
def Waits (reader : FrameReader) : Prop :=
  match reader.wanted with
  | none => reader.buffer.length < 4
  | some count => reader.buffer.length < count ∧ IosReader.accepts count = true

theorem lt_of_accepts {count : ℕ} (h : IosReader.accepts count = true) : count < 2 ^ 32 := by
  simp only [IosReader.accepts, Bool.and_eq_true, decide_eq_true_iff] at h
  omega

/-- The turn after a length goes on as one that begins with the length. -/
theorem readOn_pending {reader : FrameReader} (h : reader.Waits) (chunk : List UInt8) :
    readOn swift false (reader.feed chunk)
      = readOn swift false (start (reader.pending ++ chunk)) := by
  obtain ⟨buffer, wanted⟩ := reader
  cases wanted with
  | none => rfl
  | some count =>
    have hlength : (Framing.lengthBytes count).length = 4 := Framing.length_lengthBytes count
    have htake : (Framing.lengthBytes count ++ buffer ++ chunk).take 4
        = Framing.lengthBytes count := by
      rw [List.append_assoc, List.take_left' hlength]
    have hdrop : (Framing.lengthBytes count ++ buffer ++ chunk).drop 4 = buffer ++ chunk := by
      rw [List.append_assoc, List.drop_left' hlength]
    have hlong : ¬ (Framing.lengthBytes count ++ buffer ++ chunk).length < 4 := by
      rw [List.append_assoc, List.length_append, hlength]
      omega
    change _ = readOn swift false
      { buffer := Framing.lengthBytes count ++ buffer ++ chunk, wanted := none }
    rw [readOn_length, if_neg hlong, htake,
      Framing.lengthValue_lengthBytes (lt_of_accepts h.2), if_pos h.2, hdrop]
    rfl

/-- **Bytes of whole frames and a part of one**: the loop hands on the events of the whole ones, and
waits for the rest of the other. -/
theorem readOn_frames {events : List PromptEvent}
    (h : ∀ event ∈ events, event.Readable platform ∧ event.Answerable) {buffer more : List UInt8}
    (hbytes : buffer ++ more = eventBytes platform events) :
    ∃ before behind reader, events = before ++ behind
      ∧ readOn swift false (start buffer) = (before.map PromptEvent.toApp, some reader)
      ∧ reader.Waits ∧ reader.pending ++ more = eventBytes platform behind := by
  induction events generalizing buffer with
  | nil =>
    obtain ⟨rfl, rfl⟩ := List.append_eq_nil_iff.mp hbytes
    refine ⟨[], [], start [], rfl, ?_, Nat.zero_lt_succ 3, rfl⟩
    rw [start, readOn_length]
    rfl
  | cons event events ih =>
    obtain ⟨hevent, hevents⟩ := List.forall_mem_cons.mp h
    obtain ⟨payload, hframe, hsendable, hdecode⟩ := hevent.1.frame hevent.2 swift
    have hfour : (Framing.lengthBytes payload.length).length = 4 := Framing.length_lengthBytes _
    obtain ⟨hlt, haccepts⟩ := IosReader.accepts_of_sendable hsendable
    have hsplit : eventBytes platform (event :: events)
        = Framing.lengthBytes payload.length ++ (payload ++ eventBytes platform events) := by
      rw [eventBytes, List.flatMap_cons, hframe, Option.getD_some, Framing.frame, List.append_assoc]
      rfl
    by_cases hshort : buffer.length < 4
    · refine ⟨[], event :: events, start buffer, rfl, ?_, hshort, hbytes⟩
      rw [start, readOn_length, if_pos hshort]
      rfl
    -- the length is there; `tail` is what the buffer holds behind it
    obtain ⟨tail, rfl⟩ : Framing.lengthBytes payload.length <+: buffer :=
      List.prefix_of_prefix_length_le ⟨_, rfl⟩ ⟨more, hbytes.trans hsplit⟩
        (hfour.trans_le (Nat.le_of_not_lt hshort))
    rw [hsplit, List.append_assoc] at hbytes
    have htail := List.append_cancel_left hbytes
    have hturn := @readOn_length swift false (Framing.lengthBytes payload.length ++ tail)
    rw [if_neg hshort, List.take_left' hfour, List.drop_left' hfour,
      Framing.lengthValue_lengthBytes hlt, if_pos haccepts, readOn_payload] at hturn
    by_cases hpart : tail.length < payload.length
    · refine ⟨[], event :: events, { buffer := tail, wanted := some payload.length }, rfl, ?_,
        ⟨hpart, haccepts⟩, ?_⟩
      · rw [start, hturn, if_pos hpart]
        rfl
      · rw [pending, List.append_assoc, htail, hsplit]
    -- the payload is there as well
    obtain ⟨rest, rfl⟩ : payload <+: tail :=
      List.prefix_of_prefix_length_le ⟨_, rfl⟩ ⟨more, htail⟩ (Nat.le_of_not_lt hpart)
    rw [List.append_assoc] at htail
    obtain ⟨before, behind, reader, rfl, hread, hwaits, hpending⟩ :=
      ih hevents (List.append_cancel_left htail)
    refine ⟨event :: before, behind, reader, rfl, ?_, hwaits, hpending⟩
    rw [start, hturn, if_neg hpart, List.take_left' rfl, List.drop_left' rfl, hdecode, hread]
    rfl

/-- A loop that waits with nothing more under way has read all frames. -/
theorem eq_nil_of_waits {events : List PromptEvent}
    (h : ∀ event ∈ events, event.Readable platform ∧ event.Answerable) {reader : FrameReader}
    (hwaits : reader.Waits) (hbytes : reader.pending = eventBytes platform events) :
    events = [] := by
  cases events with
  | nil => rfl
  | cons event events =>
    obtain ⟨hreadable, hanswerable⟩ := h event List.mem_cons_self
    obtain ⟨payload, hframe, hsendable, -⟩ := hreadable.frame hanswerable referenceSwiftCbor
    obtain ⟨hlt, -⟩ := IosReader.accepts_of_sendable hsendable
    have hfour : (Framing.lengthBytes payload.length).length = 4 := Framing.length_lengthBytes _
    have hsplit : reader.pending
        = Framing.lengthBytes payload.length ++ (payload ++ eventBytes platform events) := by
      rw [hbytes, eventBytes, List.flatMap_cons, hframe, Option.getD_some, Framing.frame,
        List.append_assoc]
      rfl
    obtain ⟨buffer, wanted⟩ := reader
    cases wanted with
    | none =>
      have hlength := congrArg List.length hsplit
      rw [pending, List.length_append, hfour] at hlength
      exact absurd hwaits (Nat.not_lt.mpr (hlength ▸ Nat.le_add_right _ _))
    | some count =>
      obtain ⟨hwanted, hbuffer⟩ := List.append_inj hsplit
        ((Framing.length_lengthBytes count).trans hfour.symm)
      have hcount := congrArg Framing.lengthValue hwanted
      rw [Framing.lengthValue_lengthBytes (lt_of_accepts hwaits.2),
        Framing.lengthValue_lengthBytes hlt] at hcount
      have hlength := congrArg List.length hbuffer
      rw [List.length_append] at hlength
      exact absurd hwaits.1 (Nat.not_lt.mpr (by omega))

end FrameReader

end

/-! ## The overlay next to the detector -/

namespace Overlay

section

variable {T : Type*} [AddCommGroup T] [LinearOrder T] (settings : EngineSettings T)

/-- The callback of `setupCallbacks`, with an event that the read loop hands on. -/
def receive (now : T) (o : Overlay T) (event : ControlStreamEvent) : Overlay T :=
  (o.step settings (now, .server event)).getD
    { o with engine := o.engine.applyEvent settings now event }

/-- The prompt that is taken to be open is the one that the detector shows. -/
structure Mirrors (shown : Option PromptInstance) (o : Overlay T) : Prop where
  coherent : ∃ p, Coherent settings o p
  opened : o.opened.map Prod.fst = shown.map PromptInstance.toMatch

theorem mirrors_init (now : T) : Mirrors settings none (init now) where
  coherent := ⟨.idle, coherent_init settings now⟩
  opened := rfl

end

section

variable {T : Type*} [AddCommGroup T] [LinearOrder T] {settings : EngineSettings T}
  {shown : Option PromptInstance} {o o' : Overlay T} {now : T}

/-- An event that may come is taken as the server's next. -/
theorem Mirrors.exists_step (h : Mirrors settings shown o) (hnow : o.now ≤ now)
    {event : PromptEvent} (hfollows : event.Follows shown) :
    ∃ o', o.step settings (now, .server event.toApp) = some o' ∧ o'.now = now
      ∧ o'.opened.map Prod.fst = (applyEvent shown event).map PromptInstance.toMatch := by
  have hopened := h.opened
  have hstep (event : ControlStreamEvent) : o.step settings (now, .server event)
      = (({ o with now := now } : Overlay T).serverStep settings now event).map
        fun o => { o with lastEvent := now } := by
    rw [step, if_neg (not_lt.mpr hnow)]
  cases event with
  | present inst =>
    obtain rfl : shown = none := hfollows
    obtain hnone : o.opened = none := Option.map_eq_none_iff.mp hopened
    refine ⟨_, by rw [hstep, PromptEvent.toApp, serverStep]; dsimp only; rw [hnone]; rfl, rfl, rfl⟩
  | update inst =>
    obtain ⟨active, rfl, hid⟩ := (Option.any_eq_true _ _).mp hfollows
    obtain ⟨⟨pattern, standing⟩, hsome, hpattern⟩ := Option.map_eq_some_iff.mp hopened
    obtain rfl : pattern = active.toMatch := hpattern
    have hsame : active.toMatch.id = inst.toMatch.id :=
      congrArg (fun id => id.text.bytes) (of_decide_eq_true hid)
    refine ⟨_, by rw [hstep, PromptEvent.toApp, serverStep]; dsimp only; rw [hsome]; dsimp only
                  rw [if_pos hsame]; rfl, rfl, ?_⟩
    rw [applyEvent, Option.any_some, if_pos hid]
    rfl
  | gone instanceId =>
    obtain ⟨active, rfl, hid⟩ := (Option.any_eq_true _ _).mp hfollows
    obtain ⟨⟨pattern, standing⟩, hsome, hpattern⟩ := Option.map_eq_some_iff.mp hopened
    obtain rfl : pattern = active.toMatch := hpattern
    have hsame : active.toMatch.id = instanceId.text.bytes :=
      congrArg (fun id => id.text.bytes) (of_decide_eq_true hid)
    refine ⟨_, by rw [hstep, PromptEvent.toApp, serverStep]; dsimp only; rw [hsome]; dsimp only
                  rw [if_pos hsame]; rfl, rfl, ?_⟩
    rw [applyEvent, Option.any_some, if_pos hid]
    rfl

/-- **The overlay follows** the events as they come. -/
theorem Mirrors.receive [IsOrderedAddMonoid T] (h : Mirrors settings shown o) (hnow : o.now ≤ now)
    {event : PromptEvent} (hfollows : event.Follows shown) :
    Mirrors settings (applyEvent shown event) (o.receive settings now event.toApp)
      ∧ (o.receive settings now event.toApp).now = now := by
  obtain ⟨o', hstep, htime, hopened⟩ := h.exists_step hnow hfollows
  rw [Overlay.receive, hstep]
  exact ⟨⟨Coherent.step h.coherent hstep, hopened⟩, htime⟩

/-- Events that are handed on in one turn. -/
theorem Mirrors.receiveAll [IsOrderedAddMonoid T] {events : List PromptEvent}
    (h : Mirrors settings shown o) (hnow : o.now ≤ now) (hlawful : Lawful shown events) :
    Mirrors settings (events.foldl applyEvent shown)
      ((events.map PromptEvent.toApp).foldl (Overlay.receive settings now) o) := by
  induction events generalizing shown o with
  | nil => exact h
  | cons event events ih =>
    obtain ⟨hmirrors, htime⟩ := h.receive hnow hlawful.1
    exact ih hmirrors htime.le hlawful.2

/-- What the user and the timers do. -/
def isLocal : OverlayAction → Bool
  | .server _ => false
  | _ => true

/-- The user and the timers leave open what the server has open. -/
theorem Mirrors.step [IsOrderedAddMonoid T] (h : Mirrors settings shown o) {action : OverlayAction}
    (hlocal : isLocal action = true) (hstep : o.step settings (now, action) = some o') :
    Mirrors settings shown o' := by
  refine ⟨Coherent.step h.coherent hstep, ?_⟩
  rw [← h.opened]
  obtain ⟨-, hstep⟩ := Option.ite_none_left_eq_some.mp hstep
  cases action with
  | server event => cases hlocal
  | dismissLocally instanceId => exact Option.some.inj hstep ▸ rfl
  | restoreOverlay => exact Option.some.inj hstep ▸ rfl
  | resolveLocally instanceId =>
    obtain rfl := Option.some.inj hstep
    dsimp only
    rw [Option.map_map]
    rfl
  | fire =>
    dsimp only at hstep
    split at hstep
    · obtain ⟨-, heq⟩ := Option.ite_none_left_eq_some.mp hstep
      exact Option.some.inj heq ▸ rfl
    · exact nomatch hstep

end

end Overlay

/-! ## The whole way -/

/-- The detector, the control stream, and the screen that listens to it; `emitted` and `heard` are
the history. -/
structure PromptPath (T : Type*) where
  detector : PromptDetector
  /-- What the detector has reported. -/
  emitted : List PromptEvent
  /-- What has been written to the control stream and not been read. -/
  wire : List UInt8
  /-- Where the read loop waits; nowhere once it has been left. -/
  reader : Option FrameReader
  /-- What the read loop has handed on. -/
  heard : List ControlStreamEvent
  overlay : Overlay T

inductive PromptPathAction (T : Type*)
  /-- A feed by the PTY reader, or a resize or resolve. -/
  | detect (call : DetectorCall)
  /-- `readSomeAsync` returns so many bytes, and the loop goes on. -/
  | arrive (n : ℕ) (now : T)
  /-- The user, or a timer. -/
  | act (now : T) (action : OverlayAction)

namespace PromptPath

variable {T : Type*}

/-- The streams are open, and nothing has been reported. -/
def init (ruleset : PromptRuleset) (rows cols : ℤ) (now : T) : PromptPath T where
  detector := (PromptDetector.init rows cols).loadRules ruleset
  emitted := []
  wire := []
  reader := some (.start [])
  heard := []
  overlay := .init now

section

variable [AddCommGroup T] [LinearOrder T]
  (platform : Platform) (swift : SwiftCbor) (settings : EngineSettings T)

/-- The read loop has got a piece. -/
def read (s : PromptPath T) (reader : FrameReader) (n : ℕ) (now : T) : PromptPath T :=
  match (reader.feed (s.wire.take n)).readOn swift false with
  | (events, waiting) =>
    { s with
      wire := s.wire.drop n
      reader := waiting
      heard := s.heard ++ events
      overlay := events.foldl (Overlay.receive settings now) s.overlay }

/-- One step. -/
def step (s : PromptPath T) : PromptPathAction T → Option (PromptPath T)
  | .detect call =>
    match s.detector.step platform.compile platform.ids call with
    | (detector, events) =>
      some { s with
        detector := detector
        emitted := s.emitted ++ events
        wire := s.wire ++ eventBytes platform events }
  | .arrive n now =>
    match s.reader with
    | none => none
    | some reader =>
      if 0 < n ∧ n ≤ s.wire.length ∧ s.overlay.now ≤ now then
        some (s.read swift settings reader n now)
      else none
  | .act now action =>
    if Overlay.isLocal action then
      (s.overlay.step settings (now, action)).map fun overlay => { s with overlay := overlay }
    else none

/-- What the detector reports is sent, and the app can read it. -/
def Sends (s : PromptPath T) : PromptPathAction T → Prop
  | .detect call => ∀ event ∈ (s.detector.step platform.compile platform.ids call).2,
      event.Readable platform
  | _ => True

instance (s : PromptPath T) (action : PromptPathAction T) : Decidable (Sends platform s action) :=
  match action with
  | .detect call => inferInstanceAs (Decidable
      (∀ event ∈ (s.detector.step platform.compile platform.ids call).2, event.Readable platform))
  | .arrive _ _ | .act _ _ => inferInstanceAs (Decidable True)

/-- The app's side goes with the agent's. -/
structure Mirrored (s : PromptPath T) : Prop where
  /-- The read loop goes on. -/
  reading : s.reader.isSome = true
  in_order : s.heard <+: s.emitted.map PromptEvent.toApp
  complete : s.wire = [] → s.heard = s.emitted.map PromptEvent.toApp
  opened : s.wire = [] →
    s.overlay.opened.map Prod.fst = s.detector.copyActive.map PromptInstance.toMatch
  shown : ∀ now, s.overlay.Settled settings now → s.overlay.engine.activeMatch = s.overlay.expected

/-- The invariant: of the events, some are behind the read loop, and the bytes of the others are in
its buffer or on the wire. -/
structure Inv (s : PromptPath T) : Prop where
  tracked : clientView s.emitted = s.detector.copyActive
  lawful : Lawful none s.emitted
  readable : ∀ event ∈ s.emitted, event.Readable platform ∧ event.Answerable
  cut : ∃ before behind reader, s.emitted = before ++ behind ∧ s.reader = some reader
    ∧ reader.Waits ∧ s.heard = before.map PromptEvent.toApp
    ∧ reader.pending ++ s.wire = eventBytes platform behind
    ∧ Overlay.Mirrors settings (clientView before) s.overlay

end

section

variable [AddCommGroup T] [LinearOrder T] {platform : Platform} {swift : SwiftCbor}
  {settings : EngineSettings T} {s s' : PromptPath T}

theorem inv_init (ruleset : PromptRuleset) (rows cols : ℤ) (now : T) :
    Inv platform settings (init ruleset rows cols now) where
  tracked := rfl
  lawful := trivial
  readable := nofun
  cut :=
    ⟨[], [], .start [], rfl, rfl, Nat.zero_lt_succ 3, rfl, rfl, Overlay.mirrors_init settings now⟩

/-- The detector reports something, and it is sent. -/
theorem Inv.detect (h : Inv platform settings s) {call : DetectorCall}
    (hsends : Sends platform s (.detect call))
    (hstep : s.step platform swift settings (.detect call) = some s') :
    Inv platform settings s' := by
  obtain rfl := Option.some.inj hstep
  obtain ⟨before, behind, reader, hemitted, hreader, hwaits, hheard, hbytes, hmirrors⟩ := h.cut
  have htracks := s.detector.step_tracks platform.compile platform.ids call
  have hlawful := s.detector.step_lawful platform.compile platform.ids call
  exact
    { tracked := by
        rw [clientView_append, h.tracked]
        exact htracks.1
      lawful := lawful_append.mpr ⟨h.lawful, by rw [← h.tracked] at hlawful; exact hlawful⟩
      readable := List.forall_mem_append.mpr
        ⟨h.readable, fun event hevent =>
          ⟨hsends event hevent, PromptDetector.step_answerable hevent⟩⟩
      cut := ⟨before, behind ++ _, reader, by rw [hemitted, List.append_assoc], hreader, hwaits,
        hheard, by rw [eventBytes_append, ← hbytes, List.append_assoc], hmirrors⟩ }

/-- A piece arrives. -/
theorem Inv.arrive [IsOrderedAddMonoid T] (h : Inv platform settings s) {n : ℕ} {now : T}
    (hstep : s.step platform swift settings (.arrive n now) = some s') :
    Inv platform settings s' := by
  obtain ⟨before, behind, reader, hemitted, hreader, hwaits, hheard, hbytes, hmirrors⟩ := h.cut
  rw [step, hreader] at hstep
  obtain ⟨⟨-, -, hnow⟩, heq⟩ := Option.ite_none_right_eq_some.mp hstep
  obtain rfl := Option.some.inj heq
  have hlawful := h.lawful
  have hreadable := h.readable
  rw [hemitted] at hreadable hlawful
  rw [← List.take_append_drop n s.wire, ← List.append_assoc] at hbytes
  obtain ⟨handed, rest, waiting, rfl, hread, hwaits', hpending⟩ :=
    @FrameReader.readOn_frames platform swift _ (List.forall_mem_append.mp hreadable).2 _ _ hbytes
  have hturn := @FrameReader.readOn_pending swift reader hwaits (s.wire.take n)
  rw [hread] at hturn
  have hnext := hmirrors.receiveAll hnow (lawful_append.mp (lawful_append.mp hlawful).2).1
  rw [read, hturn]
  exact
    { tracked := h.tracked
      lawful := h.lawful
      readable := h.readable
      cut := ⟨before ++ handed, rest, waiting, by rw [hemitted, List.append_assoc], rfl, hwaits',
        by rw [List.map_append, hheard], hpending, by rwa [clientView_append]⟩ }

/-- **What a step keeps.** -/
theorem Inv.step [IsOrderedAddMonoid T] (h : Inv platform settings s) {action : PromptPathAction T}
    (hsends : Sends platform s action) (hstep : s.step platform swift settings action = some s') :
    Inv platform settings s' := by
  cases action with
  | detect call => exact h.detect hsends hstep
  | arrive n now => exact h.arrive hstep
  | act now action =>
    obtain ⟨hlocal, hmap⟩ := Option.ite_none_right_eq_some.mp hstep
    obtain ⟨overlay, hoverlay, rfl⟩ := Option.map_eq_some_iff.mp hmap
    obtain ⟨before, behind, reader, hemitted, hreader, hwaits, hheard, hbytes, hmirrors⟩ := h.cut
    exact
      { tracked := h.tracked
        lawful := h.lawful
        readable := h.readable
        cut := ⟨before, behind, reader, hemitted, hreader, hwaits, hheard, hbytes,
          hmirrors.step hlocal hoverlay⟩ }

theorem Inv.mirrored [IsOrderedAddMonoid T] (h : Inv platform settings s) :
    Mirrored settings s := by
  obtain ⟨before, behind, reader, hemitted, hreader, hwaits, hheard, hbytes, hmirrors⟩ := h.cut
  have hreadable := h.readable
  rw [hemitted] at hreadable
  have hall (hwire : s.wire = []) : s.emitted = before := by
    rw [hwire, List.append_nil] at hbytes
    have hbehind :=
      FrameReader.eq_nil_of_waits (List.forall_mem_append.mp hreadable).2 hwaits hbytes
    rw [hemitted, hbehind, List.append_nil]
  obtain ⟨p, hcoherent⟩ := hmirrors.coherent
  exact
    { reading := by rw [hreader]; rfl
      in_order := by
        rw [hheard, hemitted, List.map_append]
        exact List.prefix_append _ _
      complete := fun hwire => by rw [hheard, hall hwire]
      opened := fun hwire => by rw [hmirrors.opened, ← hall hwire, h.tracked]
      shown := fun now hsettled => hcoherent.activeMatch_eq hsettled }

/-- **The overlay mirrors the detector**, whatever the rules and the output, however the control
stream is cut into pieces, and whatever the user and the timers do in between, as long as what the
detector reports can be sent and read. -/
theorem overlay_mirrors_detector [IsOrderedAddMonoid T] (platform : Platform) (swift : SwiftCbor)
    (settings : EngineSettings T) (rows cols : ℤ) (now : T) {actions : List (PromptPathAction T)}
    (hrun : Guarded.run (step platform swift settings) (init platform.ruleset rows cols now) actions
      = some s)
    (hsends : Guarded.AllSteps (step platform swift settings) (Sends platform)
      (init platform.ruleset rows cols now) actions) : Mirrored settings s :=
  have hinv := Guarded.throughout_of_allSteps (fun _ _ _ h hsends hstep => h.step hsends hstep)
    (inv_init platform.ruleset rows cols now) hsends
  (hinv.last hrun).mirrored

end

/-- A menu is shown, its frame comes in two pieces, the first of them shorter than the length, and
the `gone` of its answer in one. -/
def menuMirrored : List (PromptPathAction ℤ) :=
  [.detect (.feed "Pick\r\n1. a1b\r\n2. c".toUTF8.data.toList), .arrive 3 5, .arrive 160 6,
    .act 20 .restoreOverlay, .detect (.resolve (buildInstanceId firstLongMenu).text), .arrive 52 40]

theorem overlay_mirrors_detector_menu :
    Mirrored Overlay.appSettings
      ((Guarded.run (step SessionSwitch.menuPlatform referenceSwiftCbor Overlay.appSettings)
        (init SessionSwitch.menuPlatform.ruleset 3 8 0) menuMirrored).get (by decide +kernel)) :=
  overlay_mirrors_detector SessionSwitch.menuPlatform referenceSwiftCbor Overlay.appSettings 3 8 0
    (Option.some_get _).symm (by decide +kernel)

end PromptPath

end TmuxRemote
