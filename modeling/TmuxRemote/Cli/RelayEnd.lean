import TmuxRemote.Cli.RelaySafety

/-!
# Cli/RelayEnd — the relay comes to its end

Once `done` is set each step of the relay uses up some of the work that is left, and a thread that
has not come to its end can go on: the relay does end (`relay_ends`).
-/

namespace TmuxRemote

/-- So many steps the main thread may still take once `done` is set. -/
def RelayPc.work : RelayPc → ℕ
  | opened | raw | watching | returned _ => 0
  | freeing _ => 1
  | restoring _ => 2
  | joining => 3
  | closing => 4
  | stopping => 5
  | testing => 6
  | sending rest wait => rest.length + (if wait.aborted then 7 else 8)
  | reading => attachReadBufferSize + 9
  | telling _ _ => attachReadBufferSize + 10
  | measuring _ => attachReadBufferSize + 11
  | clearing _ => attachReadBufferSize + 12
  | selecting => attachReadBufferSize + 13

/-- And so many the reader. -/
def StreamReaderPc.work : StreamReaderPc → ℕ
  | notStarted | exited => 0
  | storing => 1
  | testing => 2
  | writing rest => rest.length + 2
  | reading wait => attachReadBufferSize + (if wait.aborted then 3 else 4)

namespace StreamRelay

variable {s s' t : StreamRelay} {a : Action}

/-- The steps the relay may still take once `done` is set. -/
def work (s : StreamRelay) : ℕ := s.main.work + s.reader.work

/-- A step of the relay, and not of its user. -/
def Action.isProgram : Action → Bool
  | .resize _ => false
  | _ => true

theorem slice_of_done {wait : StreamWait} (haborted : wait.aborted = false) :
    (wait.slice true).1.aborted = true ∧ (wait.slice true).2.1 = true := by
  rw [StreamWait.slice, haborted]
  exact ⟨rfl, rfl⟩

/-- Once `done` is set it stays so. -/
theorem step_done (hdone : s.done = true) (hstep : step s a = some s') : s'.done = true := by
  rw [step.eq_def] at hstep
  cases a with
  | writeSlice | readSlice =>
    dsimp only at hstep
    split at hstep
    · obtain ⟨haborted, heq⟩ := Option.ite_none_left_eq_some.mp hstep
      obtain rfl := Option.some.inj heq
      dsimp only
      rw [hdone]
      exact (slice_of_done (Bool.eq_false_iff.mpr haborted)).2
    · cases hstep
  | _ =>
    -- no other step clears `done`
    dsimp only at hstep
    repeat' split at hstep
    all_goals cases hstep
    all_goals first | exact hdone | rfl

theorem work_afterSigwinch_lt {pc : RelayPc} (hpc : attachReadBufferSize + 9 < pc.work)
    (ready : Bool) : (afterSigwinch ready).work < pc.work := by
  cases ready
  · exact lt_trans (by decide) hpc
  · exact hpc

/-- **Every step of the relay uses up work** once `done` is set. -/
theorem work_lt (h : s.Inv) (hdone : s.done = true) (ha : a.isProgram = true)
    (hstep : step s a = some s') : s'.work < s.work := by
  have hlate : s.main.isEarly = false := by
    refine Bool.eq_false_iff.mpr fun hearly => ?_
    have hnot := (h.early hearly).2
    rw [hdone] at hnot
    cases hnot
  -- a step of the main thread leaves the reader's work as it is, and the other way round
  have hmain {pc pc' : RelayPc} {reader : StreamReaderPc} (hpc : s.main = pc)
      (hreader : reader = s.reader) (hlt : pc'.work < pc.work) :
      pc'.work + reader.work < s.main.work + s.reader.work := by
    rw [hpc, hreader]
    exact Nat.add_lt_add_right hlt _
  have hother {rpc rpc' : StreamReaderPc} {pc : RelayPc} (hrpc : s.reader = rpc)
      (hpc : pc = s.main) (hlt : rpc'.work < rpc.work) :
      pc.work + rpc'.work < s.main.work + s.reader.work := by
    rw [hrpc, hpc]
    exact Nat.add_lt_add_left hlt _
  rw [step.eq_def] at hstep
  cases a with
  | resize => cases ha
  | setRaw | installHandler | createReader =>
    dsimp only at hstep
    split at hstep
    · rename_i hpc
      rw [hpc] at hlate
      cases hlate
    · cases hstep
  | test =>
    dsimp only at hstep
    split at hstep
    · rename_i hpc
      obtain rfl := Option.some.inj hstep
      rw [hdone]
      exact hmain hpc rfl (show 5 < 6 by decide)
    · cases hstep
  | selected ready =>
    dsimp only at hstep
    split at hstep
    · rename_i hpc
      obtain rfl := Option.some.inj hstep
      exact hmain hpc rfl (Nat.lt_succ_self _)
    · cases hstep
  | testSigwinch =>
    dsimp only at hstep
    split at hstep
    · rename_i ready hpc
      obtain rfl := Option.some.inj hstep
      split_ifs
      · exact hmain hpc rfl (Nat.lt_succ_self _)
      · exact hmain hpc rfl (work_afterSigwinch_lt (by rw [RelayPc.work]; omega) ready)
    · cases hstep
  | getSize ok =>
    dsimp only at hstep
    split at hstep
    · rename_i ready hpc
      obtain rfl := Option.some.inj hstep
      refine hmain hpc rfl ?_
      split_ifs
      · exact Nat.lt_succ_self _
      · exact work_afterSigwinch_lt (by rw [RelayPc.work]; omega) ready
    · cases hstep
  | tell ok =>
    dsimp only at hstep
    split at hstep
    · rename_i size ready hpc
      obtain rfl := Option.some.inj hstep
      exact hmain hpc rfl (work_afterSigwinch_lt (Nat.lt_succ_self _) ready)
    · cases hstep
  | readInput data =>
    dsimp only at hstep
    split at hstep
    · rename_i hpc
      split_ifs at hstep with hlong hempty
      · obtain rfl := Option.some.inj hstep
        exact hmain hpc rfl (show 5 < attachReadBufferSize + 9 by decide)
      · obtain rfl := Option.some.inj hstep
        refine hmain hpc rfl ?_
        change data.length + 8 < attachReadBufferSize + 9
        omega
    · cases hstep
  | take n =>
    dsimp only at hstep
    split at hstep
    · rename_i rest wait hpc
      obtain ⟨⟨hpos, hle⟩, heq⟩ := Option.ite_none_right_eq_some.mp hstep
      obtain rfl := Option.some.inj heq
      refine hmain hpc rfl ?_
      rw [RelayPc.work, RelayPc.work, List.length_drop]
      omega
    · cases hstep
  | written ok =>
    dsimp only at hstep
    split at hstep
    · rename_i rest wait hpc
      have hlt : 6 < (RelayPc.sending rest wait).work := by
        rw [RelayPc.work]
        split_ifs <;> omega
      split_ifs at hstep
      · obtain rfl := Option.some.inj hstep
        exact hmain hpc rfl hlt
      · obtain rfl := Option.some.inj hstep
        exact hmain hpc rfl (lt_trans (show 5 < 6 by decide) hlt)
    · cases hstep
  | writeSlice =>
    dsimp only at hstep
    split at hstep
    · rename_i rest wait hpc
      obtain ⟨haborted, heq⟩ := Option.ite_none_left_eq_some.mp hstep
      obtain rfl := Option.some.inj heq
      refine hmain hpc rfl ?_
      rw [RelayPc.work, RelayPc.work, if_neg haborted, hdone,
        if_pos (slice_of_done (Bool.eq_false_iff.mpr haborted)).1]
      exact Nat.lt_succ_self _
    · cases hstep
  | stop | closed | restore | free =>
    dsimp only at hstep
    split at hstep
    · rename_i hpc
      obtain rfl := Option.some.inj hstep
      exact hmain hpc rfl (Nat.lt_succ_self _)
    · cases hstep
  | join =>
    dsimp only at hstep
    split at hstep
    · rename_i hpc hreader
      obtain rfl := Option.some.inj hstep
      exact hmain hpc rfl (Nat.lt_succ_self _)
    · cases hstep
  | readerTest =>
    dsimp only at hstep
    split at hstep
    · rename_i hreader
      obtain rfl := Option.some.inj hstep
      rw [hdone]
      exact hother hreader rfl (show 1 < 2 by decide)
    · cases hstep
  | readStream data =>
    dsimp only at hstep
    split at hstep
    · rename_i wait hreader
      have hlt : attachReadBufferSize + 2 < (StreamReaderPc.reading wait).work := by
        rw [StreamReaderPc.work]
        split_ifs <;> omega
      cases data with
      | none =>
        obtain rfl := Option.some.inj hstep
        exact hother hreader rfl (lt_trans (show 1 < attachReadBufferSize + 2 by decide) hlt)
      | some data =>
        obtain ⟨hshort, heq⟩ := Option.ite_none_left_eq_some.mp hstep
        obtain rfl := Option.some.inj heq
        refine hother hreader rfl (lt_of_le_of_lt ?_ hlt)
        split_ifs
        · exact show 2 ≤ attachReadBufferSize + 2 by decide
        · exact Nat.add_le_add_right (Nat.le_of_not_lt hshort) 2
    · cases hstep
  | readSlice =>
    dsimp only at hstep
    split at hstep
    · rename_i wait hreader
      obtain ⟨haborted, heq⟩ := Option.ite_none_left_eq_some.mp hstep
      obtain rfl := Option.some.inj heq
      refine hother hreader rfl ?_
      rw [StreamReaderPc.work, StreamReaderPc.work, if_neg haborted, hdone,
        if_pos (slice_of_done (Bool.eq_false_iff.mpr haborted)).1]
      exact Nat.lt_succ_self _
    · cases hstep
  | display n =>
    dsimp only at hstep
    split at hstep
    · rename_i rest hreader
      obtain ⟨⟨hpos, hle⟩, heq⟩ := Option.ite_none_right_eq_some.mp hstep
      obtain rfl := Option.some.inj heq
      refine hother hreader rfl ?_
      split_ifs
      · rw [StreamReaderPc.work, StreamReaderPc.work]
        omega
      · rw [StreamReaderPc.work, StreamReaderPc.work, List.length_drop]
        omega
    · cases hstep
  | displayFailed =>
    dsimp only at hstep
    split at hstep
    · rename_i rest hreader
      obtain rfl := Option.some.inj hstep
      refine hother hreader rfl ?_
      rw [StreamReaderPc.work, StreamReaderPc.work]
      omega
    · cases hstep
  | readerStop =>
    dsimp only at hstep
    split at hstep
    · rename_i hreader
      obtain rfl := Option.some.inj hstep
      exact hother hreader rfl (show 0 < 1 by decide)
    · cases hstep

/-- A reader that has not exited can go on. -/
theorem exists_readerStep (hstarted : s.reader ≠ .notStarted) (hruns : s.reader ≠ .exited) :
    ∃ a : Action, a.isProgram = true ∧ (step s a).isSome = true := by
  cases hreader : s.reader with
  | notStarted => exact absurd hreader hstarted
  | testing => exact ⟨.readerTest, rfl, by rw [step, hreader]; rfl⟩
  | reading wait =>
    exact ⟨.readStream none, rfl, by rw [step.eq_def]; dsimp only; rw [hreader]; rfl⟩
  | writing rest => exact ⟨.displayFailed, rfl, by rw [step, hreader]; rfl⟩
  | storing => exact ⟨.readerStop, rfl, by rw [step, hreader]; rfl⟩
  | exited => exact absurd hreader hruns

/-- Some thread of a relay that has not returned can go on. -/
theorem exists_step (h : s.Inv) (hruns : ∀ code, s.main ≠ .returned code) :
    ∃ a : Action, a.isProgram = true ∧ (step s a).isSome = true := by
  cases hmain : s.main with
  | opened => exact ⟨.setRaw true, rfl, by rw [step, hmain]; rfl⟩
  | raw => exact ⟨.installHandler, rfl, by rw [step, hmain]; rfl⟩
  | watching => exact ⟨.createReader true, rfl, by rw [step, hmain]; rfl⟩
  | testing => exact ⟨.test, rfl, by rw [step, hmain]; rfl⟩
  | selecting => exact ⟨.selected false, rfl, by rw [step, hmain]; rfl⟩
  | clearing ready => exact ⟨.testSigwinch, rfl, by rw [step, hmain]; rfl⟩
  | measuring ready => exact ⟨.getSize true, rfl, by rw [step, hmain]; rfl⟩
  | telling size ready => exact ⟨.tell true, rfl, by rw [step, hmain]; rfl⟩
  | reading => exact ⟨.readInput [], rfl, by rw [step, hmain]; rfl⟩
  | sending rest wait => exact ⟨.written false, rfl, by rw [step, hmain]; rfl⟩
  | stopping => exact ⟨.stop, rfl, by rw [step, hmain]; rfl⟩
  | closing => exact ⟨.closed, rfl, by rw [step, hmain]; rfl⟩
  | joining =>
    by_cases hexited : s.reader = .exited
    · exact ⟨.join, rfl, by rw [step.eq_def]; dsimp only; rw [hmain, hexited]; rfl⟩
    · exact exists_readerStep (h.started (by rw [hmain]; rfl) (by rw [hmain]; rfl)) hexited
  | restoring code => exact ⟨.restore, rfl, by rw [step, hmain]; rfl⟩
  | freeing code => exact ⟨.free, rfl, by rw [step, hmain]; rfl⟩
  | returned code => exact absurd hmain (hruns code)

/-- **Once `done` is set the relay ends**: in whatever order the threads go on, there are only so
many steps left, and until the relay has returned there is one to take. -/
theorem relay_ends (told window : WindowSize) {actions more : List Action}
    (hrun : Guarded.run step (init told window) actions = some s) (hdone : s.done = true)
    (hprogram : ∀ a ∈ more, a.isProgram = true) (hmore : Guarded.run step s more = some t) :
    more.length ≤ s.work
      ∧ ((∃ code, t.main = .returned code) ∨ ∃ a : Action, a.isProgram = true
        ∧ (step t a).isSome = true) := by
  have hinv : s.Inv := Guarded.run_invariant (fun _ _ _ h => inv_step h) (inv_init told window) hrun
  have hkeep : ∀ s a s', (s.Inv ∧ s.done = true) → step s a = some s' → s'.Inv ∧ s'.done = true :=
    fun s a s' h hstep => ⟨inv_step h.1 hstep, step_done h.2 hstep⟩
  have hlength := Guarded.run_length_le (I := fun s : StreamRelay => s.Inv ∧ s.done = true) hkeep
    (fun s a s' h ha hstep => work_lt h.1 h.2 ha hstep) ⟨hinv, hdone⟩ hprogram hmore
  obtain ⟨hinv', -⟩ := Guarded.run_invariant hkeep ⟨hinv, hdone⟩ hmore
  refine ⟨(Nat.le_add_right _ _).trans hlength, ?_⟩
  by_cases hreturned : ∃ code, t.main = .returned code
  · exact .inl hreturned
  · exact .inr (exists_step hinv' fun code hcode => hreturned ⟨code, hcode⟩)

/-- Both threads have set `done`, and the reader has ended. -/
def bothStopped : StreamRelay :=
  (Guarded.run step (init eighty eighty) (bothWays.take 20)).get (by decide)

theorem relay_ends_of_bothStopped :
    (bothWays.drop 20).length ≤ bothStopped.work
      ∧ ((∃ code, ((Guarded.run step bothStopped (bothWays.drop 20)).get (by decide)).main
          = .returned code)
        ∨ ∃ a : Action, a.isProgram = true
          ∧ (step ((Guarded.run step bothStopped (bothWays.drop 20)).get (by decide)) a).isSome
            = true) :=
  relay_ends eighty eighty (Option.some_get _).symm (by decide)
    (by decide) (Option.some_get _).symm

end StreamRelay

end TmuxRemote
