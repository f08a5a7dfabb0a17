import TmuxRemote.Library.CString

/-!
# Prompt/Instance — candidates, instances and events (`tmuxremote_prompt.h`, `tmuxremote_prompt.c`)

A candidate is what the rules read off one screen; an instance is a candidate that the lifecycle has
given an id and a revision.  Every string of either is allocated: a `NULL` one arises only from a
failed allocation, after which the candidate or the instance is discarded.
-/

namespace TmuxRemote

/-- `TMUXREMOTE_PROMPT_MAX_ACTIONS` -/
def promptMaxActions : ℕ := 16

/-- `TMUXREMOTE_PROMPT_INSTANCE_ID_MAX` -/
def promptInstanceIdMax : ℕ := 32

/-- `tmuxremote_prompt_type` -/
inductive PromptType
  | yesNo
  | numberedMenu
  | acceptReject
  deriving DecidableEq

/-- The value of the enumeration constant. -/
def PromptType.value : PromptType → ℕ
  | yesNo => 0
  | numberedMenu => 1
  | acceptReject => 2

/-- `tmuxremote_prompt_action` -/
@[ext] structure PromptAction where
  label : CString
  keys : CString
  deriving DecidableEq

/-- A `char[TMUXREMOTE_PROMPT_INSTANCE_ID_MAX]` buffer: its string and terminator fit. -/
@[ext] structure InstanceId where
  text : CString
  fits : text.bytes.length < promptInstanceIdMax
  deriving DecidableEq

namespace InstanceId

/-- `strncpy` into the buffer, whose last byte is then set to NUL. -/
def ofCString (s : CString) : InstanceId where
  text := s.truncate (promptInstanceIdMax - 1)
  fits := by
    have h := List.length_take_le (promptInstanceIdMax - 1) s.bytes
    exact Nat.lt_of_le_of_lt h (by decide)

/-- The buffer after `buffer[0] = '\0'`. -/
def empty : InstanceId := ofCString (CString.ofBytes [])

/-- A string that fits is copied whole. -/
theorem ofCString_text (id : InstanceId) : ofCString id.text = id :=
  InstanceId.ext (CString.truncate_eq_self (Nat.le_of_lt_succ id.fits))

theorem text_inj {a b : InstanceId} : a.text = b.text ↔ a = b := InstanceId.ext_iff.symm

end InstanceId

/-- `tmuxremote_prompt_candidate` -/
@[ext] structure PromptCandidate where
  patternId : CString
  patternType : PromptType
  prompt : CString
  actions : List PromptAction
  anchorRow : Int32
  /-- `actions` is an array of `TMUXREMOTE_PROMPT_MAX_ACTIONS` entries. -/
  actionCount_le : actions.length ≤ promptMaxActions
  deriving DecidableEq

/-- `tmuxremote_prompt_instance` -/
@[ext] structure PromptInstance where
  instanceId : InstanceId
  patternId : CString
  patternType : PromptType
  prompt : CString
  actions : List PromptAction
  revision : UInt32
  anchorRow : Int32
  actionCount_le : actions.length ≤ promptMaxActions
  deriving DecidableEq

/-- `tmuxremote_prompt_event_type` with what the callback is handed: an instance on present and
update, only the id on gone. -/
inductive PromptEvent
  | present (inst : PromptInstance)
  | update (inst : PromptInstance)
  | gone (id : InstanceId)
  deriving DecidableEq

/-- The `instance_id` argument of the callback. -/
def PromptEvent.instanceId : PromptEvent → InstanceId
  | present inst => inst.instanceId
  | update inst => inst.instanceId
  | gone id => id

/-- `tmuxremote_prompt_candidate_to_instance` -/
def PromptCandidate.toInstance (c : PromptCandidate) : PromptInstance where
  instanceId := InstanceId.empty
  patternId := c.patternId
  patternType := c.patternType
  prompt := c.prompt
  actions := c.actions
  revision := 0
  anchorRow := c.anchorRow
  actionCount_le := c.actionCount_le

namespace PromptInstance

/-- `instance.revision = revision` -/
def withRevision (inst : PromptInstance) (revision : UInt32) : PromptInstance :=
  { inst with revision := revision }

@[simp] theorem withRevision_revision (inst : PromptInstance) (revision : UInt32) :
    (inst.withRevision revision).revision = revision := rfl

@[simp] theorem withRevision_instanceId (inst : PromptInstance) (revision : UInt32) :
    (inst.withRevision revision).instanceId = inst.instanceId := rfl

@[simp] theorem withRevision_withRevision (inst : PromptInstance) (r revision : UInt32) :
    (inst.withRevision r).withRevision revision = inst.withRevision revision := rfl

/-- `tmuxremote_prompt_instance_copy`: at most `TMUXREMOTE_PROMPT_MAX_ACTIONS` actions, and the id
through `strncpy`. -/
def copy (src : PromptInstance) : PromptInstance :=
  { src with
    actions := src.actions.take promptMaxActions
    instanceId := InstanceId.ofCString src.instanceId.text
    actionCount_le := by
      have h := List.length_take_le promptMaxActions src.actions
      exact h }

/-- The bounds of the two arrays make a copy exact. -/
@[simp] theorem copy_eq (src : PromptInstance) : src.copy = src := by
  have hactions : src.actions.take promptMaxActions = src.actions :=
    List.take_of_length_le src.actionCount_le
  have hid : InstanceId.ofCString src.instanceId.text = src.instanceId :=
    InstanceId.ofCString_text src.instanceId
  exact PromptInstance.ext hid rfl rfl rfl hactions rfl rfl

/-- `tmuxremote_prompt_instance_same_semantics` -/
def sameSemantics (a b : PromptInstance) : Bool :=
  a.patternId == b.patternId
    && a.patternType == b.patternType
    && a.prompt == b.prompt
    && a.actions.length == b.actions.length
    && (a.actions.zip b.actions).all (fun (x, y) => x.label == y.label && x.keys == y.keys)
    && a.anchorRow == b.anchorRow

@[simp] theorem sameSemantics_withRevision (a b : PromptInstance) (revision : UInt32) :
    a.sameSemantics (b.withRevision revision) = a.sameSemantics b := rfl

/-- Comparing counts and then entries pairwise compares the action lists. -/
theorem actions_eq_iff {as bs : List PromptAction} :
    (as.length == bs.length
        && (as.zip bs).all (fun (x, y) => x.label == y.label && x.keys == y.keys)) = true
      ↔ as = bs := by
  induction as generalizing bs with
  | nil => cases bs <;> simp
  | cons a as ih =>
    cases bs with
    | nil => simp
    | cons b bs =>
      rw [List.cons.injEq, ← ih, PromptAction.ext_iff]
      simp only [List.length_cons, List.zip_cons_cons, List.all_cons, Bool.and_eq_true, beq_iff_eq,
        Nat.add_right_cancel_iff]
      tauto

/-- **Same semantics** is equality of everything but the id and the revision. -/
theorem sameSemantics_iff {a b : PromptInstance} :
    a.sameSemantics b = true
      ↔ a.patternId = b.patternId ∧ a.patternType = b.patternType ∧ a.prompt = b.prompt
        ∧ a.actions = b.actions ∧ a.anchorRow = b.anchorRow := by
  have h := @actions_eq_iff a.actions b.actions
  rw [Bool.and_eq_true] at h
  simp only [sameSemantics, Bool.and_eq_true, beq_iff_eq] at h ⊢
  rw [← h]
  tauto

end PromptInstance

/-- The instances built from two candidates have the same semantics only if the candidates are
equal. -/
theorem PromptCandidate.sameSemantics_toInstance {c d : PromptCandidate} :
    c.toInstance.sameSemantics d.toInstance = true ↔ c = d := by
  rw [PromptInstance.sameSemantics_iff, PromptCandidate.ext_iff]
  exact Iff.rfl

end TmuxRemote
