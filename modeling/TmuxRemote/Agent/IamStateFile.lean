import TmuxRemote.Library.CString
import TmuxRemote.Library.Guarded

/-!
# Agent/IamStateFile — who writes `iam_state.json` (`tmuxremote_iam.c`, `tmuxremote_init.c`)

Two programs write the file.  The agent loads it once, at its start, and from then on saves what it
has in memory: each pairing dumps the memory, and the worker writes the dump some time later.  A run
of `--add-user` or `--remove-user` reads the file, changes the users and writes it back.  Neither
locks the file nor looks again before it writes.

The file reflects the commands that have succeeded as long as no command succeeds between a read of
the file and the write that is based on it (`users_reflect_commands`), where the agent's read is its
start: a command that succeeds while the agent runs is undone by the next pairing
(`removed_user_returns`).

`nm_iam` is not part of the repository: what a pairing does to the memory is the parameter `paired`,
and that names are not repeated is its invariant (`nodup_usernames`), in a loaded file as well.
Memory does not run out, writes succeed, and none is seen half done.
-/

namespace TmuxRemote

/-! ## The state -/

/-- `nm_iam_user` -/
structure IamUser where
  username : CString
  role : CString
  password : Option CString
  sct : Option CString
  fingerprints : List CString
  deriving DecidableEq

/-- `nm_iam_state`.  That no two users have one name is an invariant of `nm_iam`, which looks its
users up by name; the commands keep it as well. -/
structure IamState where
  users : List IamUser
  passwordInvitePairing : Bool
  nodup_usernames : (users.map IamUser.username).Nodup

namespace IamState

/-- The names of the users. -/
def usernames (state : IamState) : List CString := state.users.map IamUser.username

/-- `nm_iam_state_add_user`, with the pairing of invitations enabled. -/
def addUser (state : IamState) (user : IamUser) (h : user.username ∉ state.usernames) :
    IamState where
  users := state.users ++ [user]
  passwordInvitePairing := true
  nodup_usernames := by
    rw [List.map_append, List.map_singleton, List.perm_append_comm.nodup_iff]
    exact List.nodup_cons.mpr ⟨h, state.nodup_usernames⟩

/-- `nn_llist_erase_node`, of the first user with the name. -/
def eraseUser (state : IamState) (username : CString) : IamState where
  users := state.users.eraseP (·.username = username)
  passwordInvitePairing := state.passwordInvitePairing
  nodup_usernames := state.nodup_usernames.sublist (List.eraseP_sublist.map IamUser.username)

theorem mem_addUser {state : IamState} {user : IamUser} {h : user.username ∉ state.usernames}
    {username : CString} : username ∈ (state.addUser user h).usernames
      ↔ username ∈ state.usernames ∨ username = user.username := by
  rw [usernames, addUser, List.map_append, List.mem_append, List.map_singleton,
    List.mem_singleton, usernames]

theorem mem_eraseUser {state : IamState} {erased username : CString} :
    username ∈ (state.eraseUser erased).usernames
      ↔ username ≠ erased ∧ username ∈ state.usernames := by
  have hnames : (state.eraseUser erased).usernames = state.usernames.erase erased := by
    rw [usernames, usernames, List.erase_eq_eraseP', List.eraseP_map]
    rfl
  rw [hnames]
  exact state.nodup_usernames.mem_erase_iff

end IamState

/-! ## The commands -/

/-- A character a username may have: `a`–`z`, `0`–`9`, `_`, `.` and `-`. -/
def isUsernameChar (c : UInt8) : Bool :=
  (0x61 ≤ c && c ≤ 0x7A) || CLib.isDigit c || c == 0x5F || c == 0x2E || c == 0x2D

/-- `validate_username` -/
def validateUsername (username : CString) : Bool :=
  !username.isEmpty && username.bytes.all isUsernameChar

/-- A run of the agent's program that changes the users; an invitation comes with its secrets. -/
inductive UserCommand
  | addUser (username password sct : CString)
  | removeUser (username : CString)

namespace UserCommand

/-- The user the command is about. -/
def username : UserCommand → CString
  | addUser username _ _ => username
  | removeUser username => username

/-- The command invites the user. -/
def adds : UserCommand → Bool
  | addUser _ _ _ => true
  | removeUser _ => false

/-- `tmuxremote_do_add_user` and `tmuxremote_do_remove_user` between reading and writing the file;
`none` when they return false. -/
def apply (state : IamState) : UserCommand → Option IamState
  | addUser username password sct =>
    if validateUsername username then
      if h : username ∈ state.usernames then none
      else some (state.addUser
        { username := username
          role := .ofString "Owner"
          password := some password
          sct := some sct
          fingerprints := [] } h)
    else none
  | removeUser username =>
    if username ∈ state.usernames then some (state.eraseUser username) else none

end UserCommand

/-- A command between its read and its write.  `seen` is the number of commands that had succeeded
when it read the file. -/
structure CommandRun where
  command : UserCommand
  contents : IamState
  seen : ℕ

/-- `tmuxremote_iam` of a running agent.  `seen` is the number of commands that had succeeded when
it loaded the file. -/
structure AgentIam where
  memory : IamState
  saveThreadStarted : Bool
  pendingState : Option IamState
  /-- What the worker has taken and is about to write. -/
  saving : Option IamState
  seen : ℕ

/-- The file, the agent if it runs, the commands under way, and those that have succeeded, the last
one first. -/
structure IamStateFile where
  file : IamState
  agent : Option AgentIam
  runs : List CommandRun
  succeeded : List UserCommand

/-- A step of one of the programs. -/
inductive IamAction
  /-- `tmuxremote_iam_init` and `tmuxremote_iam_load_state`; whether the worker could be started. -/
  | startAgent (saveThreadStarted : Bool)
  /-- A client completes pairing, and `tmuxremote_iam_state_changed` is called. -/
  | completePairing (username : CString)
  /-- `save_iam_state_worker` takes the pending state. -/
  | takePending
  /-- `save_iam_state`, by the worker. -/
  | saveTaken
  /-- `tmuxremote_iam_deinit`, once the worker has ended. -/
  | stopAgent
  | startCommand (command : UserCommand)
  | finishCommand (i : ℕ)

namespace IamStateFile

/-- No agent runs and no command has been given. -/
def init (file : IamState) : IamStateFile :=
  { file := file, agent := none, runs := [], succeeded := [] }

section

variable (paired : IamState → CString → IamState)

/-- `tmuxremote_iam_state_changed` -/
def stateChanged (s : IamStateFile) (agent : AgentIam) : IamStateFile :=
  if agent.saveThreadStarted then
    { s with agent := some { agent with pendingState := some agent.memory } }
  else { s with file := agent.memory, agent := some agent }

/-- One step; `none` when it cannot be taken. -/
def step (s : IamStateFile) : IamAction → Option IamStateFile
  | .startAgent saveThreadStarted =>
    if s.agent.isSome then none
    else some { s with
      agent := some
        { memory := s.file
          saveThreadStarted := saveThreadStarted
          pendingState := none
          saving := none
          seen := s.succeeded.length } }
  | .completePairing username =>
    s.agent.map fun agent => s.stateChanged { agent with memory := paired agent.memory username }
  | .takePending =>
    (s.agent.filter fun agent => agent.saving.isNone && agent.pendingState.isSome).map fun agent =>
      { s with agent := some { agent with pendingState := none, saving := agent.pendingState } }
  | .saveTaken => s.agent.bind fun agent => agent.saving.map fun state =>
      { s with file := state, agent := some { agent with saving := none } }
  | .stopAgent =>
    (s.agent.filter fun agent => agent.saving.isNone && agent.pendingState.isNone).map fun _ =>
      { s with agent := none }
  | .startCommand command =>
    match command.apply s.file with
    | none => some s
    | some contents => some { s with
      runs := s.runs ++
        [{ command := command, contents := contents, seen := s.succeeded.length }] }
  | .finishCommand i => s.runs[i]?.map fun run =>
      { s with
        file := run.contents
        runs := s.runs.eraseIdx i
        succeeded := run.command :: s.succeeded }

end

end IamStateFile

/-! ## What the commands have left -/

/-- The users are as the commands have left them: the last command on a user tells whether it is
there. -/
def IamState.Reflects (state : IamState) (succeeded : List UserCommand) : Prop :=
  ∀ username command, succeeded.find? (·.username = username) = some command →
    (username ∈ state.usernames ↔ command.adds = true)

namespace UserCommand

variable {command : UserCommand} {state contents : IamState}

/-- A command leaves its user as it should. -/
theorem mem_apply_self (h : command.apply state = some contents) :
    command.username ∈ contents.usernames ↔ command.adds = true := by
  rcases command with ⟨username, password, sct⟩ | username
  · rw [apply] at h
    split_ifs at h with hvalid hmem
    rw [← Option.some.inj h]
    exact iff_of_true (IamState.mem_addUser.mpr (Or.inr rfl)) rfl
  · rw [apply] at h
    split_ifs at h with hmem
    rw [← Option.some.inj h]
    exact iff_of_false (fun hleft => (IamState.mem_eraseUser.mp hleft).1 rfl) Bool.false_ne_true

/-- A command leaves the other users alone. -/
theorem mem_apply_of_ne {username : CString} (h : command.apply state = some contents)
    (hne : username ≠ command.username) :
    username ∈ contents.usernames ↔ username ∈ state.usernames := by
  rcases command with ⟨added, password, sct⟩ | removed
  · rw [apply] at h
    split_ifs at h with hvalid hmem
    rw [← Option.some.inj h, IamState.mem_addUser]
    exact or_iff_left hne
  · rw [apply] at h
    split_ifs at h with hmem
    rw [← Option.some.inj h, IamState.mem_eraseUser]
    exact and_iff_right hne

/-- **A command based on a state that reflects the ones before** makes one that reflects it too. -/
theorem apply_reflects {succeeded : List UserCommand} (h : state.Reflects succeeded)
    (happly : command.apply state = some contents) : contents.Reflects (command :: succeeded) := by
  intro username last hlast
  rcases eq_or_ne command.username username with rfl | hne
  · rw [List.find?_cons_of_pos (by simp)] at hlast
    rw [← Option.some.inj hlast]
    exact mem_apply_self happly
  · rw [List.find?_cons_of_neg (by simpa using hne)] at hlast
    rw [mem_apply_of_ne happly hne.symm]
    exact h username last hlast

end UserCommand

/-- `nm_iam` keeps the users it has loaded. -/
def KeepsUsers (paired : IamState → CString → IamState) : Prop :=
  ∀ state username, (paired state username).usernames = state.usernames

namespace IamStateFile

/-- No command has succeeded between the read and the write that is based on it. -/
def UpToDate (s : IamStateFile) : IamAction → Prop
  | .completePairing _ => ∀ agent ∈ s.agent, agent.saveThreadStarted = false →
      agent.seen = s.succeeded.length
  | .saveTaken => ∀ agent ∈ s.agent, agent.seen = s.succeeded.length
  | .finishCommand i => ∀ run ∈ s.runs[i]?, run.seen = s.succeeded.length
  | _ => True

instance (s : IamStateFile) : ∀ a, Decidable (s.UpToDate a)
  | .completePairing _ => inferInstanceAs (Decidable (∀ agent ∈ s.agent, _))
  | .saveTaken => inferInstanceAs (Decidable (∀ agent ∈ s.agent, _))
  | .finishCommand i => inferInstanceAs (Decidable (∀ run ∈ s.runs[i]?, _))
  | .startAgent _ | .takePending | .stopAgent | .startCommand _ =>
    inferInstanceAs (Decidable True)

end IamStateFile

/-- A state comes from a read after `seen` commands; `n` have succeeded by now.  If these are the
same, the state reflects them. -/
def IamState.ReflectsIfCurrent (state : IamState) (seen n : ℕ) (succeeded : List UserCommand) :
    Prop := seen ≤ n ∧ (seen = n → state.Reflects succeeded)

namespace IamState

variable {state : IamState} {seen n : ℕ} {succeeded : List UserCommand}

theorem ReflectsIfCurrent.reflects (h : state.ReflectsIfCurrent seen n succeeded)
    (hcurrent : seen = n) : state.Reflects succeeded := h.2 hcurrent

/-- What is read from a file that reflects all commands does so too. -/
theorem Reflects.current (h : state.Reflects succeeded) : state.ReflectsIfCurrent n n succeeded :=
  ⟨le_rfl, fun _ => h⟩

/-- When a command succeeds, nothing that was read before is current. -/
theorem ReflectsIfCurrent.outdated (h : state.ReflectsIfCurrent seen n succeeded)
    (succeeded' : List UserCommand) : state.ReflectsIfCurrent seen (n + 1) succeeded' :=
  ⟨Nat.le_succ_of_le h.1, fun hseen => absurd h.1 (by omega)⟩

end IamState

/-- The agent's memory and the dumps of it that are not written yet: all that it has read. -/
def AgentIam.states (agent : AgentIam) : List IamState :=
  agent.memory :: agent.pendingState.toList ++ agent.saving.toList

theorem AgentIam.mem_states {agent : AgentIam} {state : IamState} : state ∈ agent.states
    ↔ state = agent.memory ∨ agent.pendingState = some state ∨ agent.saving = some state := by
  rw [states, List.cons_append, List.mem_cons, List.mem_append, Option.mem_toList,
    Option.mem_toList]

namespace IamStateFile

/-- The file reflects the commands, and so does what has been read since the last. -/
structure Sound (s : IamStateFile) : Prop where
  file : s.file.Reflects s.succeeded
  agent : ∀ agent ∈ s.agent, ∀ state ∈ agent.states,
    state.ReflectsIfCurrent agent.seen s.succeeded.length s.succeeded
  runs : ∀ run ∈ s.runs,
    run.contents.ReflectsIfCurrent run.seen s.succeeded.length (run.command :: s.succeeded)

theorem sound_init (file : IamState) : (init file).Sound where
  file := fun _ _ h => nomatch h
  agent := fun _ h => nomatch h
  runs := fun _ h => nomatch h

variable {paired : IamState → CString → IamState} {s s' : IamStateFile} {agent : AgentIam}

/-- The agent reads, keeps and drops states. -/
theorem Sound.setAgent {agent' : AgentIam} (h : s.Sound)
    (hstates : ∀ state ∈ agent'.states,
      state.ReflectsIfCurrent agent'.seen s.succeeded.length s.succeeded) :
    ({ s with agent := some agent' } : IamStateFile).Sound where
  file := h.file
  agent := fun _ hagent => Option.some.inj hagent ▸ hstates
  runs := h.runs

theorem Sound.startAgent {saveThreadStarted : Bool} (h : s.Sound)
    (hstep : s.step paired (.startAgent saveThreadStarted) = some s') : s'.Sound := by
  rw [step] at hstep
  split_ifs at hstep
  rw [← Option.some.inj hstep]
  refine h.setAgent fun state hstate => ?_
  obtain rfl : state = s.file := List.mem_singleton.mp hstate
  exact h.file.current

/-- Dumping the memory, for the worker or at once. -/
theorem Sound.stateChanged (h : s.Sound) (hagent : ∀ state ∈ agent.states,
      state.ReflectsIfCurrent agent.seen s.succeeded.length s.succeeded)
    (hdirect : agent.saveThreadStarted = false → agent.seen = s.succeeded.length) :
    (s.stateChanged agent).Sound := by
  have hmemory := hagent agent.memory (AgentIam.mem_states.mpr (Or.inl rfl))
  rw [IamStateFile.stateChanged]
  split_ifs with hworker
  · refine h.setAgent fun state hstate => ?_
    rcases AgentIam.mem_states.mp hstate with rfl | hpending | hsaving
    · exact hmemory
    · exact Option.some.inj hpending ▸ hmemory
    · exact hagent state (AgentIam.mem_states.mpr (Or.inr (Or.inr hsaving)))
  · have hfile := hmemory.reflects (hdirect ((Bool.not_eq_true _).mp hworker))
    have hchanged := h.setAgent hagent
    exact { hchanged with file := hfile }

theorem Sound.completePairing {username : CString} (hpaired : KeepsUsers paired) (h : s.Sound)
    (hup : s.UpToDate (.completePairing username))
    (hstep : s.step paired (.completePairing username) = some s') : s'.Sound := by
  obtain ⟨agent, hagent, rfl⟩ := Option.map_eq_some_iff.mp hstep
  refine h.stateChanged (fun state hstate => ?_) (hup agent hagent)
  rcases AgentIam.mem_states.mp hstate with rfl | hrest
  · have hmemory := h.agent agent hagent agent.memory (AgentIam.mem_states.mpr (Or.inl rfl))
    rw [IamState.ReflectsIfCurrent, IamState.Reflects, hpaired]
    exact hmemory
  · exact h.agent agent hagent state (AgentIam.mem_states.mpr (Or.inr hrest))

theorem Sound.takePending (h : s.Sound) (hstep : s.step paired .takePending = some s') :
    s'.Sound := by
  obtain ⟨agent, hfilter, rfl⟩ := Option.map_eq_some_iff.mp hstep
  obtain ⟨hagent, -⟩ := Option.filter_eq_some_iff.mp hfilter
  refine h.setAgent fun state hstate => h.agent agent hagent state ?_
  rcases AgentIam.mem_states.mp hstate with hmemory | hpending | hsaving
  · exact AgentIam.mem_states.mpr (Or.inl hmemory)
  · exact nomatch hpending
  · exact AgentIam.mem_states.mpr (Or.inr (Or.inl hsaving))

theorem Sound.saveTaken (h : s.Sound) (hup : s.UpToDate .saveTaken)
    (hstep : s.step paired .saveTaken = some s') : s'.Sound := by
  obtain ⟨agent, hagent, hsave⟩ := Option.bind_eq_some_iff.mp hstep
  obtain ⟨saved, hsaved, rfl⟩ := Option.map_eq_some_iff.mp hsave
  have hcurrent := h.agent agent hagent saved (AgentIam.mem_states.mpr (Or.inr (Or.inr hsaved)))
  have hrest : ({ s with agent := some { agent with saving := none } } : IamStateFile).Sound := by
    refine h.setAgent fun state hstate => h.agent agent hagent state ?_
    rcases AgentIam.mem_states.mp hstate with hmemory | hpending | hnone
    · exact AgentIam.mem_states.mpr (Or.inl hmemory)
    · exact AgentIam.mem_states.mpr (Or.inr (Or.inl hpending))
    · exact nomatch hnone
  exact { hrest with file := hcurrent.reflects (hup agent hagent) }

theorem Sound.stopAgent (h : s.Sound) (hstep : s.step paired .stopAgent = some s') : s'.Sound := by
  obtain ⟨agent, -, rfl⟩ := Option.map_eq_some_iff.mp hstep
  exact { h with agent := fun _ hnone => nomatch hnone }

theorem Sound.startCommand {command : UserCommand} (h : s.Sound)
    (hstep : s.step paired (.startCommand command) = some s') : s'.Sound := by
  rw [step] at hstep
  split at hstep
  · exact Option.some.inj hstep ▸ h
  · next contents happly =>
    rw [← Option.some.inj hstep]
    refine { h with runs := fun run hrun => ?_ }
    rcases List.mem_append.mp hrun with hold | hnew
    · exact h.runs run hold
    · obtain rfl := List.mem_singleton.mp hnew
      exact (UserCommand.apply_reflects h.file happly).current

theorem Sound.finishCommand {i : ℕ} (h : s.Sound) (hup : s.UpToDate (.finishCommand i))
    (hstep : s.step paired (.finishCommand i) = some s') : s'.Sound := by
  obtain ⟨run, hrun, rfl⟩ := Option.map_eq_some_iff.mp hstep
  have hcontents := (h.runs run (List.mem_of_getElem? hrun)).reflects (hup run hrun)
  refine ⟨hcontents, fun agent hagent state hstate => ?_, fun other hother => ?_⟩
  · exact (h.agent agent hagent state hstate).outdated _
  · exact (h.runs other (List.mem_of_mem_eraseIdx hother)).outdated _

/-- **The step lemma**: a step that is up to date keeps the file in line with the commands. -/
theorem Sound.step {a : IamAction} (hpaired : KeepsUsers paired) (h : s.Sound)
    (hup : s.UpToDate a) (hstep : s.step paired a = some s') : s'.Sound := by
  rcases a with saveThreadStarted | username | - | - | - | command | i
  · exact h.startAgent hstep
  · exact h.completePairing hpaired hup hstep
  · exact h.takePending hstep
  · exact h.saveTaken hup hstep
  · exact h.stopAgent hstep
  · exact h.startCommand hstep
  · exact h.finishCommand hup hstep

end IamStateFile

open IamStateFile in
/-- **The file reflects the commands.**  In a run of the agent and of commands, in which no command
succeeds between a read of the file and the write that is based on it, the last successful command
on a user tells in every state whether the file has the user. -/
theorem users_reflect_commands (paired : IamState → CString → IamState)
    (hpaired : KeepsUsers paired)
    (file : IamState) (actions : List IamAction)
    (hup : Guarded.AllSteps (step paired) UpToDate (init file) actions) :
    Guarded.Throughout (step paired) (fun s => s.file.Reflects s.succeeded) (init file) actions :=
  (Guarded.throughout_of_allSteps (fun _ _ _ h hup => h.step hpaired hup) (sound_init file)
    hup).mono fun _ h => h.file

/-- The client of an invited user is known by its fingerprint from now on, and the invitation is
used up. -/
def IamUser.recordPairing (username : CString) (user : IamUser) : IamUser :=
  if user.username = username then
    { user with password := none, fingerprints := .ofString "fp" :: user.fingerprints }
  else user

theorem IamUser.username_recordPairing (username : CString) :
    IamUser.username ∘ IamUser.recordPairing username = IamUser.username := by
  funext user
  rw [Function.comp_apply, recordPairing]
  split_ifs <;> rfl

/-- A pairing as `nm_iam` records it. -/
def recordPairing (state : IamState) (username : CString) : IamState where
  users := state.users.map (IamUser.recordPairing username)
  passwordInvitePairing := state.passwordInvitePairing
  nodup_usernames := by
    rw [List.map_map, IamUser.username_recordPairing]
    exact state.nodup_usernames

theorem keepsUsers_recordPairing : KeepsUsers recordPairing := by
  intro state username
  rw [IamState.usernames, recordPairing, List.map_map, IamUser.username_recordPairing]
  rfl

/-- An invited user. -/
def invitedUser (username : String) : IamUser where
  username := .ofString username
  role := .ofString "Owner"
  password := some (.ofString "pwd")
  sct := some (.ofString "sct")
  fingerprints := []

/-- The file with two users. -/
def twoUsers : IamState where
  users := [invitedUser "phone", invitedUser "tablet"]
  passwordInvitePairing := true
  nodup_usernames := by decide +kernel

/-- A user is removed while no agent runs. -/
def removeBetweenRuns : List IamAction :=
  [.startAgent true, .completePairing (.ofString "phone"), .takePending, .saveTaken, .stopAgent,
    .startCommand (.removeUser (.ofString "tablet")), .finishCommand 0, .startAgent true,
    .completePairing (.ofString "phone"), .takePending, .saveTaken]

open IamStateFile in
theorem users_reflect_commands_between :
    Guarded.Throughout (step recordPairing) (fun s => s.file.Reflects s.succeeded) (init twoUsers)
      removeBetweenRuns :=
  users_reflect_commands recordPairing keepsUsers_recordPairing twoUsers removeBetweenRuns
    (by decide +kernel)

open IamStateFile in
/-- **A removed user returns.**  The agent runs while `tablet` is removed; then `phone` completes
its pairing, and the save has `tablet` in the file again. -/
theorem removed_user_returns :
    ∃ s t, Guarded.run (step recordPairing) (init twoUsers)
        [.startAgent true, .startCommand (.removeUser (.ofString "tablet")), .finishCommand 0]
          = some s
      ∧ s.succeeded = [.removeUser (.ofString "tablet")]
      ∧ CString.ofString "tablet" ∉ s.file.usernames
      ∧ Guarded.run (step recordPairing) s
        [.completePairing (.ofString "phone"), .takePending, .saveTaken] = some t
      ∧ CString.ofString "tablet" ∈ t.file.usernames :=
  ⟨_, _, rfl, rfl, by decide +kernel, rfl, by decide +kernel⟩

end TmuxRemote
