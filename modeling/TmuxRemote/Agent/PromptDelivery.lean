import Mathlib.Algebra.Group.Action.Defs
import Mathlib.Algebra.Order.BigOperators.Group.List
import Mathlib.Algebra.Order.Group.Nat
import TmuxRemote.Agent.App
import TmuxRemote.Prompt.Selection
import TmuxRemote.Prompt.TextBounds
import TmuxRemote.Terminal.Text

/-!
# Agent/PromptDelivery — which prompts are sent to the client (`prompt_stream_callback`)

An event of the detector is encoded into a buffer of `PROMPT_CBOR_MAX` bytes, and nothing is sent of
a prompt that does not fit.  The detector does not learn of it: the prompt stays on show, is not
announced again, and its end is sent all the same.

The size of a message is a sum over the texts of the prompt (`length_instanceItem`).  So the events
of a run are all sent exactly when this sum is small at every feed that leaves a prompt to be
announced on the screen (`prompts_sent_iff`).  It is on terminals of at most 160 columns
(`Narrow.allSent_run`), and is not on the widest that a client may ask for.
-/

namespace TmuxRemote

open Cbor hiding map

/-! ## The size of a message -/

/-- The bytes of a text string. -/
def textSize (content : List UInt8) : ℕ := headSize content.length + content.length

/-- The bytes of an action: the head of its map, its two keys, and its texts. -/
def actionSize (action : PromptAction) : ℕ :=
  12 + textSize action.label.bytes + textSize action.keys.bytes

/-- The bytes of the message about a prompt. -/
def messageSize (type : String) (instanceId : InstanceId) (revision : UInt32)
    (c : PromptCandidate) : ℕ :=
  66 + textSize (utf8 type) + textSize instanceId.text.bytes + textSize c.patternId.bytes
    + textSize (utf8 (promptTypeToString c.patternType)) + textSize c.prompt.bytes
    + headSize revision.toNat + headSize c.actions.length + (c.actions.map actionSize).sum

theorem length_text (content : List UInt8) : (text content).encode.length = textSize content := by
  rw [encode, List.length_append, length_head, textSize]

theorem length_entries (key : String) (value : Cbor) (entries : List (Cbor × Cbor)) :
    (encodeEntries (entry key value :: entries)).length
      = textSize (utf8 key) + value.encode.length + (encodeEntries entries).length := by
  rw [entry, encodeEntries, List.length_append, List.length_append, length_text]

theorem length_entries_nil : (encodeEntries []).length = 0 := rfl

theorem length_map (entries : List (Cbor × Cbor)) :
    (Cbor.map entries).encode.length
      = headSize entries.length + (encodeEntries entries).length := by
  rw [encode, List.length_append, length_head]

theorem length_actionItem (action : PromptAction) :
    (actionItem action).encode.length = actionSize action := by
  have hlabel : textSize (utf8 "label") = 6 := by decide
  have hkeys : textSize (utf8 "keys") = 5 := by decide
  have hhead : headSize 2 = 1 := by decide
  simp only [actionItem, length_map, length_entries, length_entries_nil, length_text, hlabel, hkeys,
    List.length_cons, List.length_nil, Nat.zero_add, Nat.reduceAdd, hhead, actionSize]
  omega

theorem length_actionItems (actions : List PromptAction) :
    (encodeItems (actions.map actionItem)).length = (actions.map actionSize).sum := by
  induction actions with
  | nil => rfl
  | cons action actions ih =>
    rw [List.map_cons, encodeItems, List.length_append, length_actionItem, ih, List.map_cons,
      List.sum_cons]

/-- **The size of the message** about a candidate that was given an id and a revision. -/
theorem length_instanceItem (type : String) (ids : IdScheme) (revision : UInt32)
    (c : PromptCandidate) :
    (instanceItem type ((candidateToInstanceWithId ids c).withRevision revision)).encode.length
      = messageSize type (ids c) revision c := by
  have htype : textSize (utf8 "type") = 5 := by decide
  have hid : textSize (utf8 "instance_id") = 12 := by decide
  have hpattern : textSize (utf8 "pattern_id") = 11 := by decide
  have hpatternType : textSize (utf8 "pattern_type") = 13 := by decide
  have hprompt : textSize (utf8 "prompt") = 7 := by decide
  have hrevision : textSize (utf8 "revision") = 9 := by decide
  have hactions : textSize (utf8 "actions") = 8 := by decide
  have hhead : headSize 7 = 1 := by decide
  have harray (items : List Cbor) : (array items).encode.length
      = headSize items.length + (encodeItems items).length := by
    rw [encode, List.length_append, length_head]
  have hnumber (n : UInt64) : (unsigned n).encode.length = headSize n.toNat := by
    rw [encode, length_head]
  simp only [instanceItem, length_map, length_entries, length_entries_nil, length_text, htype, hid,
    hpattern, hpatternType, hprompt, hrevision, hactions, harray, hnumber, length_actionItems,
    List.length_cons, List.length_nil, Nat.zero_add, Nat.reduceAdd, hhead, messageSize,
    candidateToInstanceWithId, PromptCandidate.toInstance, PromptInstance.withRevision,
    List.length_map, UInt32.toNat_toUInt64]
  omega

/-- The message about the end of a prompt always fits. -/
theorem isSome_encodeGone (api : EncoderApi) (instanceId : InstanceId) :
    (encodeGone api instanceId).isSome = true := by
  have htype : textSize (utf8 "type") = 5 := by decide
  have hgone : textSize (utf8 "pattern_gone") = 13 := by decide
  have hid : textSize (utf8 "instance_id") = 12 := by decide
  have hhead : headSize 2 = 1 := by decide
  have hlength : instanceId.text.bytes.length ≤ 31 := Nat.le_of_lt_succ instanceId.fits
  have hshort : textSize instanceId.text.bytes ≤ 2 + 31 :=
    Nat.add_le_add (headSize_mono hlength) hlength
  have hfits : (goneItem instanceId).encode.length ≤ 128 := by
    simp only [goneItem, length_map, length_entries, length_entries_nil, length_text, htype, hgone,
      hid, List.length_cons, List.length_nil, Nat.zero_add, Nat.reduceAdd, hhead]
    omega
  rw [encodeGone_eq, if_pos hfits]
  rfl

/-! ## What is sent -/

/-- The message about the prompt on the screen fits, if there is to be one: the prompt is not held
back, and another prompt was on show, or none, or the same one with other contents. -/
def MessageFits (ids : IdScheme) (p : PromptPhase) (c : PromptCandidate) : Prop :=
  p.held ≠ some (ids c) →
    match p.shown with
    | none => messageSize "pattern_present" (ids c) 1 c ≤ promptCborMax
    | some active =>
      if active.instanceId = ids c then
        active.sameSemantics c.toInstance = true
          ∨ messageSize "pattern_update" (ids c) (active.revision + 1) c ≤ promptCborMax
      else messageSize "pattern_present" (ids c) 1 c ≤ promptCborMax

/-- All events are sent. -/
def AllSent (platform : Platform) (events : List PromptEvent) : Prop :=
  ∀ event ∈ events, (App.eventFrame platform event).isSome = true

section
variable (platform : Platform)

theorem allSent_nil : AllSent platform [] := nofun

theorem allSent_gone (instanceId : InstanceId) : AllSent platform [.gone instanceId] := by
  intro event hevent
  rw [List.mem_singleton.mp hevent]
  exact isSome_encodeGone platform.api instanceId

theorem allSent_gone_cons (instanceId : InstanceId) (events : List PromptEvent) :
    AllSent platform (.gone instanceId :: events) ↔ AllSent platform events := by
  rw [AllSent, List.forall_mem_cons]
  exact and_iff_right (isSome_encodeGone platform.api instanceId)

/-- A message is sent if its size is within the bound. -/
theorem isSome_encodeInstanceMessage (type : String) (ids : IdScheme) (revision : UInt32)
    (c : PromptCandidate) :
    (encodeInstanceMessage platform.api type
        ((candidateToInstanceWithId ids c).withRevision revision)).isSome = true
      ↔ messageSize type (ids c) revision c ≤ promptCborMax := by
  rw [encodeInstanceMessage_eq, length_instanceItem]
  split_ifs with hfits
  · exact iff_of_true rfl hfits
  · exact iff_of_false (by simp) hfits

theorem allSent_present (ids : IdScheme) (c : PromptCandidate) :
    AllSent platform [.present ((candidateToInstanceWithId ids c).withRevision 1)]
      ↔ messageSize "pattern_present" (ids c) 1 c ≤ promptCborMax := by
  rw [AllSent, List.forall_mem_singleton]
  exact isSome_encodeInstanceMessage platform "pattern_present" ids 1 c

theorem allSent_update (ids : IdScheme) (revision : UInt32) (c : PromptCandidate) :
    AllSent platform [.update ((candidateToInstanceWithId ids c).withRevision revision)]
      ↔ messageSize "pattern_update" (ids c) revision c ≤ promptCborMax := by
  rw [AllSent, List.forall_mem_singleton]
  exact isSome_encodeInstanceMessage platform "pattern_update" ids revision c

/-- An absence emits a `gone` at most. -/
theorem allSent_absent (p : PromptPhase) (isHeld : Bool) :
    AllSent platform (p.absent isHeld).2 := by
  cases hshown : p.shown with
  | none =>
    rw [PromptPhase.absent_idle hshown]
    exact allSent_nil platform
  | some active =>
    by_cases hwait : p.absences + 1 < promptAbsenceSnapshots
    · rw [PromptPhase.absent_wait hshown hwait]
      exact allSent_nil platform
    · rw [PromptPhase.absent_gone hshown hwait]
      exact allSent_gone platform active.instanceId

/-- **A look at the screen**: all its events are sent exactly when the message fits. -/
theorem allSent_look_iff (ids : IdScheme) (p : PromptPhase) (c : PromptCandidate) :
    AllSent platform (p.look ids (some c)).2 ↔ MessageFits ids p c := by
  have hid : (candidateToInstanceWithId ids c).instanceId = ids c := rfl
  rw [PromptPhase.look, Option.map_some, MessageFits]
  by_cases hheld : p.held = some (ids c)
  · rw [PromptPhase.observe_held hheld]
    exact iff_of_true (allSent_absent platform p true) fun hnot => absurd hheld hnot
  · rw [PromptPhase.observe_new hheld, forall_prop_of_true hheld]
    cases hshown : p.shown with
    | none =>
      rw [PromptPhase.sighted_idle hshown]
      exact allSent_present platform ids c
    | some active =>
      dsimp only
      by_cases hsame : active.instanceId = ids c
      · rw [if_pos hsame]
        cases hsem : active.sameSemantics (candidateToInstanceWithId ids c) with
        | true =>
          rw [PromptPhase.sighted_same hshown hsame hsem]
          exact iff_of_true (allSent_nil platform) (.inl hsem)
        | false =>
          rw [PromptPhase.sighted_changed hshown hsame hsem]
          have hnot : ¬ active.sameSemantics c.toInstance = true :=
            fun h => absurd (hsem.symm.trans h) (by simp)
          rw [or_iff_right hnot]
          exact allSent_update platform ids (active.revision + 1) c
      · rw [if_neg hsame, PromptPhase.sighted_other hshown hsame, allSent_gone_cons]
        exact allSent_present platform ids c

end

/-! ## Runs of the detector -/

/-- Feeding the bytes leaves no prompt on the screen whose message would not fit. -/
def FitsAt (platform : Platform) (d : PromptDetector) (data : List UInt8) : Prop :=
  ∀ c, d.sight platform.compile data = some c → MessageFits platform.ids d.lifecycle.phase c

section
variable (platform : Platform) (d : PromptDetector)

/-- **One feed.** -/
theorem allSent_feed_iff {data : List UInt8} (h : data ≠ []) :
    AllSent platform (d.feed platform.compile platform.ids data).2 ↔ FitsAt platform d data := by
  have hevents : (d.feed platform.compile platform.ids data).2
      = (d.lifecycle.phase.look platform.ids (d.sight platform.compile data)).2 :=
    congrArg Prod.snd (d.feed_refines platform.compile platform.ids h)
  rw [hevents, FitsAt]
  cases hsight : d.sight platform.compile data with
  | none => exact iff_of_true (allSent_absent platform _ false) (fun c hc => absurd hc (by simp))
  | some c =>
    rw [allSent_look_iff]
    refine ⟨fun hfits c' hc => ?_, fun hall => hall c rfl⟩
    obtain rfl := Option.some.inj hc
    exact hfits

/-- **One call**: only a feed can leave a prompt that is not sent. -/
theorem allSent_step_iff (call : DetectorCall) :
    AllSent platform (d.step platform.compile platform.ids call).2
      ↔ ∀ data, call = .feed data → data ≠ [] → FitsAt platform d data := by
  cases call with
  | feed data =>
    by_cases hnil : data = []
    · subst hnil
      refine iff_of_true (allSent_nil platform) fun data hdata hne => ?_
      exact absurd (DetectorCall.feed.inj hdata).symm hne
    · rw [PromptDetector.step, allSent_feed_iff platform d hnil]
      refine ⟨fun hfits data' hdata _ => ?_, fun hall => hall data rfl hnil⟩
      obtain rfl := DetectorCall.feed.inj hdata
      exact hfits
  | resize rows cols =>
    exact iff_of_true (allSent_nil platform) fun data hdata => absurd hdata (by simp)
  | resolve instanceId =>
    refine iff_of_true ?_ fun data hdata => absurd hdata (by simp)
    have hevents : (d.lifecycle.resolve instanceId).2
        = (d.lifecycle.phase.answered instanceId).2 :=
      congrArg Prod.snd (d.lifecycle.resolve_refines instanceId)
    change AllSent platform (d.lifecycle.resolve instanceId).2
    rw [hevents]
    rcases d.lifecycle.phase.answered_events instanceId with hnone | ⟨id, hgone⟩
    · rw [hnone]
      exact allSent_nil platform
    · rw [hgone]
      exact allSent_gone platform id

theorem allSent_run_feed_iff {data : List UInt8} (h : data ≠ []) :
    AllSent platform
        (Reactive.run (PromptDetector.step platform.compile platform.ids) d [.feed data]).2
      ↔ FitsAt platform d data := by
  rw [Reactive.run_cons, Reactive.run_nil, List.append_nil]
  exact allSent_feed_iff platform d h

/-- **When the client is told of every prompt.**  All events of a run are sent exactly when every
feed of it leaves no prompt on the screen whose message would not fit. -/
theorem prompts_sent_iff (calls : List DetectorCall) :
    AllSent platform
        (Reactive.run (PromptDetector.step platform.compile platform.ids) d calls).2
      ↔ ∀ before data after, calls = before ++ .feed data :: after → data ≠ [] →
        FitsAt platform
          (Reactive.run (PromptDetector.step platform.compile platform.ids) d before).1 data := by
  refine (Reactive.forall_run_iff _ d calls).trans ⟨fun h before data after hsplit hne => ?_,
    fun h before call after hsplit => ?_⟩
  · exact (allSent_step_iff platform _ _).mp (h before (.feed data) after hsplit) data rfl hne
  · refine (allSent_step_iff platform _ call).mpr fun data hcall hne => ?_
    exact h before data after (hcall ▸ hsplit) hne

end

/-! ## Narrow terminals -/

theorem textSize_le {content : List UInt8} {n : ℕ} (h : content.length ≤ n) :
    textSize content ≤ headSize n + n := Nat.add_le_add (headSize_mono h) h

/-- Texts of at most 128 bytes and lines of at most 160 make messages that fit. -/
theorem messageSize_le {type : String} (htype : textSize (utf8 type) ≤ 16)
    (instanceId : InstanceId) (revision : UInt32) {c : PromptCandidate} (h : c.Bounded 128 160) :
    messageSize type instanceId revision c ≤ promptCborMax := by
  have hid : textSize instanceId.text.bytes ≤ 2 + 31 :=
    textSize_le (Nat.le_of_lt_succ instanceId.fits)
  have hpatternId : textSize c.patternId.bytes ≤ 2 + 128 := textSize_le h.patternId
  have htypeName : textSize (utf8 (promptTypeToString c.patternType)) ≤ 14 := by
    cases c.patternType <;> decide
  have hprompt : textSize c.prompt.bytes ≤ 2 + 160 := textSize_le h.prompt
  have hrevision : headSize revision.toNat ≤ 5 :=
    headSize_mono (Nat.le_of_lt_succ revision.toNat_lt)
  have hcount : headSize c.actions.length ≤ 1 := headSize_mono c.actionCount_le
  have haction : ∀ action ∈ c.actions, actionSize action ≤ 465 := by
    intro action haction
    obtain ⟨hlabel, hkeys⟩ := h.actions action haction
    have hlabelSize : textSize action.label.bytes ≤ 2 + 160 := textSize_le hlabel
    have hkeysSize : textSize action.keys.bytes ≤ 3 + 288 := textSize_le hkeys
    rw [actionSize]
    omega
  have hsum : (c.actions.map actionSize).sum ≤ 16 * 465 := by
    have hcard := List.sum_le_card_nsmul (c.actions.map actionSize) 465
      (List.forall_mem_map.mpr haction)
    rw [List.length_map, smul_eq_mul] at hcard
    exact hcard.trans (Nat.mul_le_mul_right 465 c.actionCount_le)
  rw [messageSize, promptCborMax]
  omega

/-- No line of a snapshot is wider than its screen. -/
theorem length_le_cols {s : TerminalState} {line : CString} (h : line ∈ s.snapshot.lines) :
    line.bytes.length ≤ s.cols := by
  obtain ⟨row, -, rfl⟩ := List.mem_map.mp h
  have htrim : (s.trimRowCopy row).bytes.length ≤ (s.rowCells row).length :=
    (List.takeWhile_prefix _).length_le.trans (List.rdropWhile_prefix _ _).length_le
  exact htrim.trans (List.length_take_le _ _)

/-- A terminal of at most 160 columns, which is the default, and rules of short strings. -/
structure Narrow (d : PromptDetector) : Prop where
  cols_le : d.terminalState.cols ≤ terminalDefaultCols
  rules : ∀ rule ∈ d.ruleset, rule.ConfigFits 128

section
variable (platform : Platform) {d : PromptDetector}

theorem Narrow.fitsAt (h : Narrow d) (data : List UInt8) : FitsAt platform d data := by
  intro c hsight hheld
  have hcols : (d.terminalState.feed data).cols = d.terminalState.cols :=
    congrArg Prod.fst (d.terminalState.size_feed data)
  have hbounded : c.Bounded 128 160 := bounded_of_rulesetMatch h.rules
    (fun line hline => (length_le_cols hline).trans (hcols.trans_le h.cols_le)) hsight
  have hpresent : messageSize "pattern_present" (platform.ids c) 1 c ≤ promptCborMax :=
    messageSize_le (by decide) _ _ hbounded
  cases d.lifecycle.phase.shown with
  | none => exact hpresent
  | some active =>
    dsimp only
    split_ifs
    · exact .inr (messageSize_le (by decide) _ _ hbounded)
    · exact hpresent

/-- A narrow terminal stays narrow, whatever is fed to it. -/
theorem Narrow.step (h : Narrow d) {call : DetectorCall}
    (hcall : ∀ rows cols : ℤ, call = .resize rows cols → cols ≤ terminalDefaultCols) :
    Narrow (d.step platform.compile platform.ids call).1 := by
  cases call with
  | feed data =>
    have hcols : (d.terminalState.feed data).cols = d.terminalState.cols :=
      congrArg Prod.fst (d.terminalState.size_feed data)
    refine ⟨?_, ?_⟩
    · rw [PromptDetector.step, PromptDetector.feed_terminalState, hcols]
      exact h.cols_le
    · rw [PromptDetector.step, PromptDetector.feed_ruleset]
      exact h.rules
  | resize rows cols =>
    refine ⟨?_, h.rules⟩
    have hdimension : dimension cols terminalDefaultCols ≤ terminalDefaultCols := by
      rw [dimension]
      have := hcall rows cols rfl
      split_ifs <;> omega
    change (d.terminalState.resize rows cols).cols ≤ terminalDefaultCols
    rw [TerminalState.resize]
    dsimp only
    split_ifs
    · exact h.cols_le
    · exact hdimension
  | resolve instanceId => exact ⟨h.cols_le, h.rules⟩

/-- **Up to 160 columns every prompt is sent.** -/
theorem Narrow.allSent_run (h : Narrow d) {calls : List DetectorCall}
    (hcalls : ∀ rows cols : ℤ, .resize rows cols ∈ calls → cols ≤ terminalDefaultCols) :
    AllSent platform
      (Reactive.run (PromptDetector.step platform.compile platform.ids) d calls).2 := by
  induction calls generalizing d with
  | nil => exact allSent_nil platform
  | cons call calls ih =>
    have hhead := (allSent_step_iff platform d call).mpr fun data _ _ => h.fitsAt platform data
    have hnext := h.step platform fun rows cols hcall =>
      hcalls rows cols (hcall ▸ List.mem_cons_self)
    have htail := ih hnext fun rows cols hmem => hcalls rows cols (List.mem_cons_of_mem call hmem)
    rw [Reactive.run_cons]
    exact List.forall_mem_append.mpr ⟨hhead, htail⟩

end

/-! ## A menu that is not sent -/

/-- An option row, which is almost as wide as its screen of 1000 columns. -/
def wideOption (k : ℕ) : List UInt8 :=
  [UInt8.ofNat (0x30 + k), 0x2E, blank] ++ List.replicate 950 0x61

/-- A prompt and nine options. -/
def wideMenu : List (List UInt8) := utf8 "Pick" :: (List.range' 1 9).map wideOption

/-- The ten rows that show the menu, wherever the cursor is. -/
def wideScreen (cursorRow : ℕ) : TerminalSnapshot where
  sequence := 1
  rows := 10
  cols := 1000
  cursorRow := cursorRow
  cursorCol := 0
  altScreen := false
  lines := wideMenu.map CString.ofBytes

/-- The bytes that show the menu. -/
def wideBytes : List UInt8 := [0x0D, 0x0A].intercalate wideMenu

theorem sameScreen_wideScreen {s : TerminalState} (hwf : s.WellFormed) (hrows : s.rows = 10)
    (hshows : ShowsLines s.snapshot wideMenu) :
    s.cursorRow < 10 ∧ s.snapshot.SameScreen (wideScreen s.cursorRow) := by
  have hlength : wideMenu.length = 10 := rfl
  have htrim : wideMenu.map trimmed = wideMenu := by decide +kernel
  have hbytes : (wideMenu.map CString.ofBytes).map CString.bytes = wideMenu := by decide +kernel
  have hinj : Function.Injective CString.bytes := fun s t h => CString.ext h
  have hlines := hshows.map_bytes (hlength.trans hrows.symm)
  exact ⟨hrows ▸ hwf.cursorRow_lt, hrows, rfl,
    hinj.list_map (hlines.trans (htrim.trans hbytes.symm))⟩

/-- A fresh terminal shows the menu once it is fed its rows. -/
theorem sameScreen_wideBytes : ∃ cursorRow < 10,
    ((TerminalState.init 10 1000).feed wideBytes).snapshot.SameScreen (wideScreen cursorRow) := by
  have hlines : AreLines wideMenu := by
    unfold AreLines
    decide +kernel
  have hlength : wideMenu.length = 10 := rfl
  have hwidth : ∀ line ∈ wideMenu, line.length < 1000 := by decide +kernel
  have hshows : ShowsLines ((TerminalState.init 10 1000).feed wideBytes).snapshot wideMenu :=
    (@showsLines_iff 10 1000 _ _ (by decide) (by decide) isNewline_crlf hlines hlength.le).mpr
      (fitsScreen_of_lt hlength.le hwidth)
  have hwf := TerminalState.wellFormed_feed (TerminalState.wellFormed_init 10 1000) wideBytes
  have hsize := (TerminalState.size_feed (TerminalState.init 10 1000) wideBytes).trans
    (@TerminalState.size_init 10 1000 (by decide) (by decide))
  obtain ⟨-, hrows⟩ := Prod.mk.inj hsize
  exact ⟨_, sameScreen_wideScreen hwf hrows hshows⟩

/-- A text does not occur where one of its bytes does not. -/
theorem regexMatchesLine_eq_false {text line : CString} {b : UInt8} (hb : b ∈ text.bytes)
    (hline : b ∉ line.bytes) : regexMatchesLine (literalRegex text) line = false := by
  have hnone : line.strstr text = none := by
    refine List.find?_eq_none.mpr fun i _ hprefix => hline ?_
    have hsub := (List.isPrefixOf_iff_prefix.mp hprefix).subset hb
    exact List.mem_of_mem_drop hsub
  simp [regexMatchesLine, literalRegex, hnone]

/-- One rule, which matches one row. -/
theorem rulesetMatch_singleton {compile : RegexCompiler} {rule : CompiledPromptRule}
    {snapshot : TerminalSnapshot} {row : ℕ} {c : PromptCandidate} (hrow : row < snapshot.rows)
    (hmatch : matchRow compile rule snapshot row = some c)
    (hother : ∀ row' < snapshot.rows, row' ≠ row → matchRow compile rule snapshot row' = none) :
    rulesetMatch compile [rule] snapshot = some c := by
  have hdown := Search.findSome?_down_eq_some_iff.mpr
    ⟨row, hrow, hmatch, fun row' hrow' hsome => ?_⟩
  · rw [rulesetMatch, List.findSome?_cons, hdown]
  · by_contra hne
    rw [hother row' hrow' fun heq => hne heq.le] at hsome
    exact absurd hsome (by simp)

/-- The nine options are read off the screen, with labels of 950 bytes. -/
theorem rulesetMatch_wideScreen {cursorRow : ℕ} (hcursor : cursorRow < 10) :
    ∃ c, rulesetMatch (fun _ => none) [menuRule] (wideScreen cursorRow) = some c
      ∧ (c.actions.map fun action => action.label.bytes.length).sum = 8550 := by
  have hfill : ((fillCandidateFromRule (fun _ => none) menuRule (wideScreen 0) 0).map fun c =>
      (c.actions.map fun action => action.label.bytes.length).sum) = some 8550 := by
    decide +kernel
  have hempty : ((wideScreen 0).line 0).isEmpty = false := by decide +kernel
  have hmatched : regexMatchesLine menuRule.promptRegex ((wideScreen 0).line 0) = true := by
    decide +kernel
  have hfirst : 0x50 ∈ (CString.ofString "Pick").bytes := by decide +kernel
  have hother : ∀ row < 10, 1 ≤ row → 0x50 ∉ ((wideScreen 0).line row).bytes := by decide +kernel
  have hsame : (wideScreen cursorRow).lines = (wideScreen 0).lines := rfl
  have hline := line_congr hsame
  have hrelevant : isCursorRelevantForPrompt menuRule (wideScreen cursorRow) 0 = true := by
    have hend : CLib.wrapInt32 ((0 : ℕ) + menuRule.maxScanLines + 2) = 12 := by decide
    have hcursor' : (wideScreen cursorRow).cursorRow = cursorRow := rfl
    rw [isCursorRelevantForPrompt, hend, hcursor', if_neg (by omega), decide_eq_true_iff]
    omega
  obtain ⟨c, hc, hsum⟩ := Option.map_eq_some_iff.mp hfill
  have hzero : matchRow (fun _ => none) menuRule (wideScreen cursorRow) 0 = some c := by
    rw [matchRow, hline, hempty, hmatched, hrelevant,
      @fillCandidateFromRule_congr (wideScreen cursorRow) (wideScreen 0) rfl hsame, hc]
    rfl
  refine ⟨c, rulesetMatch_singleton (by decide : 0 < 10) hzero fun row hrow hne => ?_, hsum⟩
  have hregex : regexMatchesLine menuRule.promptRegex ((wideScreen 0).line row) = false :=
    regexMatchesLine_eq_false hfirst (hother row hrow (Nat.one_le_iff_ne_zero.mpr hne))
  rw [matchRow, hline, hregex, Bool.not_false, if_pos (rfl : true = true), ite_self]

/-- An agent with the rule of the menu. -/
def wideMenuPlatform : Platform where
  compile := fun _ => none
  ids := buildInstanceId
  ruleset := [menuRule]
  api := referenceEncoder
  parser := referenceMapParser

theorem sum_labels_le (actions : List PromptAction) :
    (actions.map fun action => action.label.bytes.length).sum ≤ (actions.map actionSize).sum := by
  refine List.sum_le_sum fun action _ => ?_
  rw [actionSize, textSize]
  omega

/-- **A menu that is not sent.**  The labels alone are longer than the buffer. -/
theorem wide_menu_not_sent :
    ¬ ∀ (platform : Platform) (rows cols : ℕ) (calls : List DetectorCall),
      (∀ rule ∈ platform.ruleset, rule.ConfigFits 128) →
      0 < rows → rows ≤ 1000 → 0 < cols → cols ≤ 1000 →
      AllSent platform (Reactive.run (PromptDetector.step platform.compile platform.ids)
        ((PromptDetector.init rows cols).loadRules platform.ruleset) calls).2 := by
  intro hall
  have hconfig : ∀ rule ∈ wideMenuPlatform.ruleset, rule.ConfigFits 128 := by
    intro rule hrule
    obtain rfl : rule = menuRule := List.mem_singleton.mp hrule
    refine ⟨by decide, by decide, fun keys hkeys => ?_⟩
    obtain rfl := Option.some.inj hkeys
    decide
  have hsent := hall wideMenuPlatform 10 1000 [.feed wideBytes] hconfig (by decide) (by decide)
    (by decide) (by decide)
  have hne : wideBytes ≠ [] := by decide +kernel
  have hfits := (allSent_run_feed_iff wideMenuPlatform _ hne).mp hsent
  obtain ⟨cursorRow, hcursor, hscreen⟩ := sameScreen_wideBytes
  obtain ⟨c, hmatch, hsum⟩ := rulesetMatch_wideScreen hcursor
  have hsight : ((PromptDetector.init 10 1000).loadRules [menuRule]).sight (fun _ => none) wideBytes
      = some c := (rulesetMatch_congr hscreen (fun _ => none) [menuRule]).trans hmatch
  have hsize : messageSize "pattern_present" (buildInstanceId c) 1 c ≤ promptCborMax :=
    hfits c hsight (Option.some_ne_none (buildInstanceId c)).symm
  have hlabels := sum_labels_le c.actions
  rw [hsum] at hlabels
  rw [messageSize, promptCborMax] at hsize
  omega

end TmuxRemote
