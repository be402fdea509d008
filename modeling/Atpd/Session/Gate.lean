import Atpd.Session.Datapath

/-!
# The VPN gate

Bytes reach `fd_out` in two loops. The pump looks at the VPN before every `splice`; the drain does
not look at all, so a session that became dirty while the VPN was ready is drained after the VPN is
gone. `KeepsGate` is the condition under which the gate holds: the VPN is ready at every `splice` of a
drain, and does not go away between a check of the pump and the `splice` behind it.
-/

namespace Atpd.Session

open Atpd.Daemon Atpd.Lib

variable {s s' : AtpdSession} {modifyOk : Bool} {nowMs : Nat}

/-- No byte was moved into `fd_out` while the VPN was not ready. -/
def Gated (s : AtpdSession) : Prop := ∀ n vpn, (n, vpn) ∈ s.outLog → 0 < n → vpn = .ready

/-- The VPN does not change between the check and the `splice`. -/
def PumpSplice.Steady : PumpSplice → Prop
  | .read _ => True
  | .write check now _ => check = .ready → now = .ready

instance : DecidablePred PumpSplice.Steady
  | .read _ => isTrue trivial
  | .write check now _ => inferInstanceAs (Decidable (check = .ready → now = .ready))

/-- The VPN is ready during a drain of a dirty pipe. -/
def DrainIo.KeepsGate (s : AtpdSession) (io : DrainIo) : Prop :=
  s.Dirty → ∀ o ∈ io.trace, o.vpn = .ready

/-- The VPN is steady during a pump. -/
def PumpIo.KeepsGate (io : PumpIo) : Prop := ∀ o ∈ io.trace, o.Steady

/-- The condition on an event. -/
def KeepsGate (s : AtpdSession) : Event (Call ⊕ Callback) → Prop
  | .act (.inl (.pump _ io)) => io.KeepsGate
  | .act (.inl (.drain io)) => io.KeepsGate s
  | .act (.inr (.inCb _ drain pump)) => drain.KeepsGate s ∧ pump.KeepsGate
  | .act (.inr (.outCb _ drain)) => drain.KeepsGate s
  | .register | .markClosing | .emergency => True

instance (s : AtpdSession) (io : DrainIo) : Decidable (io.KeepsGate s) :=
  inferInstanceAs (Decidable (s.Dirty → ∀ o ∈ io.trace, o.vpn = .ready))

instance (io : PumpIo) : Decidable io.KeepsGate :=
  inferInstanceAs (Decidable (∀ o ∈ io.trace, o.Steady))

instance (s : AtpdSession) : DecidablePred (KeepsGate s)
  | .act (.inl (.pump _ io)) => inferInstanceAs (Decidable io.KeepsGate)
  | .act (.inl (.drain io)) => inferInstanceAs (Decidable (io.KeepsGate s))
  | .act (.inr (.inCb _ drain pump)) => inferInstanceAs (Decidable (drain.KeepsGate s ∧ pump.KeepsGate))
  | .act (.inr (.outCb _ drain)) => inferInstanceAs (Decidable (drain.KeepsGate s))
  | .register | .markClosing | .emergency => isTrue trivial

/-! ## What does not move bytes -/

@[simp] lemma setState_outLog {d : SessionState} : (sessionSetState s d).1.outLog = s.outLog := by
  rw [sessionSetState]
  split <;> rfl

@[simp] lemma gcEnqueue_outLog : (atpdSessionGcEnqueue s).outLog = s.outLog := by
  rw [atpdSessionGcEnqueue]
  split
  · rfl
  · have set : (sessionSetState { s with gcEnqueued := true } .destroyPending).1.outLog = s.outLog :=
      setState_outLog
    split
    · rename_i heq
      rwa [heq] at set
    · rename_i heq
      rwa [heq] at set

@[simp] lemma markClosing_outLog : (atpdSessionMarkClosing s).outLog = s.outLog := by
  rw [atpdSessionMarkClosing]
  split
  · rfl
  · exact gcEnqueue_outLog

@[simp] lemma emergencyDrain_outLog : (emergencyDrain s).outLog = s.outLog := by
  rw [emergencyDrain]
  split
  · rfl
  · exact markClosing_outLog

/-- The gate is about what was written. -/
lemma Gated.congr (ga : Gated s) (log : s'.outLog = s.outLog) : Gated s' := by
  rw [Gated, log]
  exact ga

/-- A `splice` while the VPN is ready. -/
lemma Gated.spliceOut {len : Nat} {r : Spliced} (ga : Gated s)
    (sp : spliceOut s len .ready r = some s') : Gated s' := by
  cases r with
  | fails errno =>
    cases sp
    exact ga
  | moved n =>
    simp only [Session.spliceOut, Option.ite_none_right_eq_some, Option.some.injEq] at sp
    obtain ⟨-, rfl⟩ := sp
    intro m vpn mem pos
    rcases List.mem_cons.mp mem with heq | mem
    · exact congrArg Prod.snd heq
    · exact ga m vpn mem pos

/-! ## The drain -/

/-- The end of the drain writes nothing. -/
lemma drainDone_outLog : (drainDone s modifyOk).1.outLog = s.outLog := by
  have set : (sessionSetState { s with pipePending := 0 } .active).1.outLog = s.outLog :=
    setState_outLog
  rw [drainDone]
  split
  · rename_i heq
    rwa [heq] at set
  · rename_i heq
    rw [heq] at set
    split
    · exact markClosing_outLog.trans set
    · exact set

/-- So it keeps the gate. -/
lemma Gated.drainDone {code : Int} (ga : Gated s)
    (dr : some (drainDone s modifyOk) = some (s', code)) : Gated s' := by
  have log : (Session.drainDone s modifyOk).1.outLog = s.outLog := drainDone_outLog
  rw [Option.some.inj dr] at log
  exact ga.congr log

/-- The loop of the drain, by induction on the `splice` calls left. -/
lemma Gated.drainLoop {pending sent : Nat} {trace : List DrainSplice} {code : Int} (ga : Gated s)
    (ready : ∀ o ∈ trace, o.vpn = .ready)
    (dr : drainLoop modifyOk pending trace sent s = some (s', code)) : Gated s' := by
  induction trace generalizing sent s with
  | nil =>
    rw [Session.drainLoop] at dr
    split at dr
    · cases dr
    · exact ga.drainDone dr
  | cons o trace ih =>
    have vpn : o.vpn = .ready := ready o (by simp)
    have rest : ∀ o ∈ trace, o.vpn = .ready := fun o ho => ready o (by simp [ho])
    rw [Session.drainLoop] at dr
    split at dr
    · split at dr
      · cases dr
      · rename_i s1 sp
        have moved : Gated s1 := ga.spliceOut (vpn ▸ sp)
        split at dr
        · cases dr
          exact moved.congr setState_outLog
        · exact ih moved rest dr
        · cases dr
          exact moved.congr setState_outLog
        · exact moved.drainDone dr
        · rename_i n _ _
          have counted : Gated { s1 with bytesOut := s1.bytesOut + n } := moved.congr rfl
          exact ih counted rest dr
    · exact ga.drainDone dr

/-- The drain writes only while the VPN is ready, if it asks. -/
lemma Gated.drainPipe {io : DrainIo} {code : Int} (ga : Gated s) (keeps : io.KeepsGate s)
    (dr : atpdSessionDrainPipe s io = some (s', code)) : Gated s' := by
  simp only [atpdSessionDrainPipe] at dr
  split at dr
  · cases dr
    exact ga
  · rename_i pending
    split at dr
    · cases dr
      exact ga
    · rename_i dirty
      have set : (sessionSetState s .draining).1.outLog = s.outLog := setState_outLog
      split at dr
      · rename_i heq
        rw [heq] at set
        cases dr
        exact ga.congr set
      · rename_i heq
        rw [heq] at set
        exact (ga.congr set).drainLoop (keeps ⟨pending, not_not.mp dirty⟩) dr

/-! ## The pump -/

/-- The session of a flow. -/
def Flow.session : Flow → AtpdSession
  | .next p _ => p.s
  | .ret s _ => s

/-- The end of the pump writes nothing. -/
lemma pumpDone_outLog (p : Pump) (nowMs : Nat) :
    (pumpDone p nowMs).session.outLog = p.s.outLog := by
  rw [pumpDone]
  split <;> rfl

/-- A `splice` from `fd_in` moves nothing into `fd_out`. -/
lemma pumpRead_outLog {p : Pump} {r : Spliced} :
    (pumpRead p nowMs r).session.outLog = p.s.outLog := by
  rw [pumpRead.eq_def]
  split
  · exact pumpDone_outLog p nowMs
  · rfl
  · split
    · exact pumpDone_outLog p nowMs
    · rfl
  · split
    · exact pumpDone_outLog p nowMs
    · rfl
  · split
    · exact pumpDone_outLog p nowMs
    · rfl
  · rfl
  · rfl
  · rfl

/-- Nor does a full output. -/
lemma pumpBlocked_outLog {p : Pump} {sent toSend : Nat} :
    (pumpBlocked p sent toSend modifyOk).session.outLog = p.s.outLog := by
  have set : (sessionSetState { p.s with pipePending := toSend - sent } .pipeDirty).1.outLog =
      p.s.outLog := setState_outLog
  rw [pumpBlocked]
  split
  · rename_i heq
    rwa [heq] at set
  · rename_i heq
    rw [heq] at set
    dsimp only
    split
    · exact markClosing_outLog.trans set
    · exact set

/-- Nor does a peer that has gone. -/
lemma pumpReset_outLog {p : Pump} {sent toSend : Nat} :
    (pumpReset p sent toSend).session.outLog = p.s.outLog := by
  have set : (sessionSetState { p.s with pipePending := toSend - sent } .pipeDirty).1.outLog =
      p.s.outLog := setState_outLog
  rw [pumpReset]
  split
  · rename_i heq
    rwa [heq] at set
  · rename_i heq
    rw [heq] at set
    dsimp only
    split
    · exact set
    · exact set

/-- What the pump does behind a `splice` moves nothing more. -/
lemma pumpWrite_outLog {p : Pump} {sent toSend : Nat} {r : Spliced} :
    (pumpWrite p sent toSend modifyOk r).session.outLog = p.s.outLog := by
  rw [pumpWrite.eq_def]
  split
  · exact pumpBlocked_outLog
  · rfl
  · exact pumpReset_outLog
  · exact pumpReset_outLog
  · rfl
  · rw [pumpStalled]
    split <;> rfl
  · simp only [pumpSent]
    split <;> rfl

/-- Nor does a VPN that is lost. -/
lemma pumpVpnLost_outLog {p : Pump} : (pumpVpnLost p).session.outLog = p.s.outLog := by
  have lost : (emergencyDrain (atpdSessionMarkClosing p.s)).outLog = p.s.outLog := by simp
  simp only [pumpVpnLost]
  split
  · exact lost
  · exact lost

/-- The pump asks before each write. -/
lemma Gated.pumpStep {p : Pump} {phase : Phase} {o : PumpSplice} {f : Flow} (ga : Gated p.s)
    (steady : o.Steady) (st : pumpStep modifyOk nowMs p phase o = some f) : Gated f.session := by
  cases phase with
  | reading =>
    simp only [Session.pumpStep] at st
    split at st
    · cases st
      exact ga.congr (pumpDone_outLog p nowMs)
    · split at st
      · simp only [Option.ite_none_right_eq_some, Option.some.injEq] at st
        obtain ⟨-, rfl⟩ := st
        exact ga.congr pumpRead_outLog
      · cases st
        exact ga.congr pumpRead_outLog
      · cases st
  | writing sent toSend =>
    cases o with
    | read r => cases st
    | write check now r =>
      rw [Session.pumpStep] at st
      split at st
      · rename_i ready
        obtain ⟨s1, sp, rfl⟩ := Option.map_eq_some_iff.mp st
        have now : now = .ready := steady (by simpa [atpdSessionIsVpnReady] using ready)
        exact (ga.spliceOut (now ▸ sp)).congr pumpWrite_outLog
      · cases st
        exact ga.congr pumpVpnLost_outLog

/-- The loops of the pump, by induction on the `splice` calls left. -/
lemma Gated.pumpLoop {p : Pump} {phase : Phase} {trace : List PumpSplice} {code : Int}
    (ga : Gated p.s) (steady : ∀ o ∈ trace, o.Steady)
    (pu : pumpLoop modifyOk nowMs trace p phase = some (s', code)) : Gated s' := by
  induction trace generalizing p phase with
  | nil =>
    cases phase with
    | reading =>
      simp only [Session.pumpLoop, Option.ite_none_right_eq_some] at pu
      obtain ⟨-, pu⟩ := pu
      have log := pumpDone_outLog p nowMs
      rw [Flow.returned.eq_def] at pu
      split at pu
      · rename_i heq
        rw [heq] at log
        cases pu
        exact ga.congr log
      · cases pu
    | writing sent toSend => cases pu
  | cons o trace ih =>
    rw [Session.pumpLoop.eq_def] at pu
    dsimp only at pu
    split at pu
    · rename_i st
      exact ih (ga.pumpStep (steady o (by simp)) st) (fun o ho => steady o (by simp [ho])) pu
    · rename_i st
      cases pu
      exact ga.pumpStep (steady o (by simp)) st
    · cases pu

/-- By induction on its splices. -/
lemma Gated.splicePump {maxLen : Nat} {io : PumpIo} {code : Int} (ga : Gated s)
    (keeps : io.KeepsGate) (pu : atpdSessionSplicePump s maxLen io = some (s', code)) : Gated s' := by
  rw [atpdSessionSplicePump] at pu
  split at pu
  · split at pu
    · cases pu
      exact ga
    · exact Gated.pumpLoop (p := ⟨s, 0, maxLen, 0, 0⟩) ga keeps pu
  · cases pu
    exact ga

/-! ## Callbacks -/

/-- The pump as `session_in_cb` calls it. -/
lemma Gated.inCbPump {io : PumpIo} (ga : Gated s) (keeps : io.KeepsGate)
    (cb : inCbPump s io = some s') : Gated s' := by
  simp only [Session.inCbPump, Option.bind_eq_bind, Option.bind_eq_some_iff] at cb
  obtain ⟨⟨s1, ret⟩, pu, cb⟩ := cb
  have pumped := ga.splicePump keeps pu
  have closed : Gated (atpdSessionMarkClosing s1) := pumped.congr markClosing_outLog
  dsimp only at cb
  split at cb
  · cases cb
    exact closed
  · split at cb
    · cases cb
      exact closed
    · cases cb
      exact pumped

/-- `session_in_cb` drains, and then pumps. -/
lemma Gated.inCb {hangup : Bool} {drain : DrainIo} {pump : PumpIo} (ga : Gated s)
    (keeps : drain.KeepsGate s ∧ pump.KeepsGate) (cb : sessionInCb s hangup drain pump = some s') :
    Gated s' := by
  rw [sessionInCb] at cb
  split at cb
  · cases cb
    exact ga
  · split at cb
    · cases cb
      exact ga.congr markClosing_outLog
    · split at cb
      · simp only [Option.bind_eq_bind, Option.bind_eq_some_iff] at cb
        obtain ⟨⟨s1, ret⟩, dr, cb⟩ := cb
        have drained := ga.drainPipe keeps.1 dr
        dsimp only at cb
        split at cb
        · cases cb
          exact drained
        · exact drained.inCbPump keeps.2 cb
      · exact ga.inCbPump keeps.2 cb

/-- `session_out_cb` drains. -/
lemma Gated.outCb {hangup : Bool} {drain : DrainIo} (ga : Gated s) (keeps : drain.KeepsGate s)
    (cb : sessionOutCb s hangup drain = some s') : Gated s' := by
  rw [sessionOutCb] at cb
  split at cb
  · cases cb
    exact ga
  · split at cb
    · cases cb
      exact ga.congr markClosing_outLog
    · split at cb
      · simp only [Option.bind_eq_bind, Option.bind_eq_some_iff] at cb
        obtain ⟨⟨s1, ret⟩, dr, cb⟩ := cb
        have drained := ga.drainPipe keeps dr
        dsimp only at cb
        split at cb
        · cases cb
          exact drained
        · split at cb
          · cases cb
            exact drained.congr markClosing_outLog
          · cases cb
            exact drained
      · cases cb
        exact ga

/-- By cases on the event. -/
lemma Gated.step {e : Event (Call ⊕ Callback)} (ga : Gated s) (keeps : KeepsGate s e)
    (st : step actRun s e = some s') : Gated s' := by
  cases e with
  | register =>
    simp only [Session.step, Option.ite_none_right_eq_some, Option.some.injEq] at st
    obtain ⟨-, rfl⟩ := st
    exact ga.congr setState_outLog
  | act a =>
    rcases a with call | callback
    · cases call with
      | pump maxLen io =>
        obtain ⟨⟨s1, code⟩, pu, rfl⟩ := Option.map_eq_some_iff.mp st
        exact ga.splicePump keeps pu
      | drain io =>
        obtain ⟨⟨s1, code⟩, dr, rfl⟩ := Option.map_eq_some_iff.mp st
        exact ga.drainPipe keeps dr
    · cases callback with
      | inCb hangup drain pump => exact ga.inCb keeps st
      | outCb hangup drain => exact ga.outCb keeps st
  | markClosing =>
    cases st
    exact ga.congr markClosing_outLog
  | emergency =>
    cases st
    split
    · exact ga
    · exact ga.congr emergencyDrain_outLog

/-- The gate holds in every run in which the VPN is ready at every `splice` of a drain, and does not
change between a check of the pump and the `splice` behind it. -/
theorem gated_of_keepsGate (reactor : Bool) (nowMs : Nat) (es : List (Event (Call ⊕ Callback)))
    (al : Along (step actRun) KeepsGate (atpdSessionCreate reactor nowMs) es)
    (rn : run (step actRun) (atpdSessionCreate reactor nowMs) es = some s) : Gated s :=
  run_preserves_along (fun _ _ _ ga keeps st => Gated.step ga keeps st)
    (fun _ _ mem => by simp [atpdSessionCreate] at mem) al rn

/-- The rest of the pipe is written while the VPN is in the given state. -/
def drainSix (vpn : VpnState) : DrainIo := ⟨[⟨vpn, .moved 6⟩], true⟩

/-- A session becomes dirty, and is drained while the VPN is in the given state. -/
def drainedRun (vpn : VpnState) : List (Event (Call ⊕ Callback)) :=
  [.register, .act (.inr (.inCb false ⟨[], true⟩ blockedPump)),
    .act (.inr (.outCb false (drainSix vpn)))]

/-- Two chunks are written, both with the VPN ready. -/
theorem gated_of_keepsGate_drainedRun :
    ∃ s, run (step actRun) (atpdSessionCreate true 1000) (drainedRun .ready) = some s ∧
      s.outLog.length = 2 ∧ Gated s :=
  ⟨_, rfl, rfl, gated_of_keepsGate true 1000 (drainedRun .ready) (by decide) rfl⟩

/-- The VPN goes down before the drain, and six bytes pass the gate. -/
theorem drainedRun_idle_passes_gate :
    ∃ s, run (step actRun) (atpdSessionCreate true 1000) (drainedRun .idle) = some s ∧
      (6, VpnState.idle) ∈ s.outLog ∧ ¬Gated s := by
  refine ⟨_, rfl, by decide, fun ga => ?_⟩
  exact absurd (ga 6 .idle (by decide) (by decide)) (by decide)

end Atpd.Session
