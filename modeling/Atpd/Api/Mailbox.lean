import Atpd.Api.VpnMode

/-!
# The VPN mode mailbox

`api_vpn_mode_callback` posts a request on the reactor thread, and `api_refresh_worker` takes it on
the worker thread (`src/api.c`). The mailbox has one slot; both sides touch it only while they hold
`request_lock`, so every critical section is one step here, and everything the worker does outside
the lock (the RPCs of `api_apply_vpn_mode`, the refresh, the wait) can be interleaved with any number
of posts.

A post is numbered. The number is history: the code does not have it. The log is history too, with
the newest entry first.
-/

namespace Atpd.Api.Mailbox

open Atpd.Config Atpd.Daemon Atpd.Lib

/-- A request with the number of its post. -/
structure Stamped where
  seq : Nat
  request : Request
deriving DecidableEq

/-- Where the worker is in the loop of `api_refresh_worker`. -/
inductive Worker where
  /-- The thread does not run yet. -/
  | created
  /-- Before the first critical section. -/
  | atTop
  /-- In `api_apply_vpn_mode`. -/
  | applying (r : Stamped)
  /-- `api_apply_vpn_mode` has returned false; before the second critical section. -/
  | failed (r : Stamped)
  /-- In the refresh and the wait that follows it. -/
  | refreshing
  /-- The loop is left. -/
  | exited
deriving DecidableEq

/-- The request the worker is busy with. -/
def Worker.inFlight : Worker → Option Stamped
  | .applying r | .failed r => some r
  | _ => none

/-- An entry of the log. -/
inductive Entry where
  | posted (r : Stamped)
  | took (r : Stamped)
  | requeued (r : Stamped)
  | applied (r : Stamped)
deriving DecidableEq

/-- `api_ctx_t`, as far as the mailbox goes, with the worker and the history. -/
structure Ctx where
  vpnRequest : Stamped
  vpnPending : Bool
  stopping : Bool
  modeState : ModeState
  worker : Worker
  posts : Nat
  log : List Entry

/-- After `api_init`: everything is zero. -/
def Ctx.init (server : Server) : Ctx where
  vpnRequest := ⟨0, ⟨.idle, .empty, .empty⟩⟩
  vpnPending := false
  stopping := false
  modeState := ⟨.empty, server⟩
  worker := .created
  posts := 0
  log := []

/-- The request that `api_vpn_mode_callback` copies from the configuration. -/
def desired (cfg : InterfaceConfig) (state : VpnState) : Request where
  state := state
  targetMode := .print (if cfg.vpnTargetMode ≠ [] then cfg.vpnTargetMode else "Google VPN".toList)
  fallbackMode := .print (if cfg.vpnFallbackMode ≠ [] then cfg.vpnFallbackMode else "Rule".toList)

/-- `api_vpn_mode_callback`. -/
def apiVpnModeCallback (c : Ctx) (cfg : InterfaceConfig) (state : VpnState) : Ctx :=
  if !cfg.vpnAutoMode then c
  else if state ≠ .ready ∧ state ≠ .idle then c
  else
    let r : Stamped := ⟨c.posts + 1, desired cfg state⟩
    { c with vpnRequest := r, vpnPending := true, posts := c.posts + 1, log := .posted r :: c.log }

/-- The first critical section of `api_refresh_worker`, and the two tests behind it. -/
def take (c : Ctx) : Ctx :=
  let pending := c.vpnPending
  let request := c.vpnRequest
  let c := { c with vpnPending := false }
  if c.stopping then { c with worker := .exited }
  else if pending then { c with worker := .applying request, log := .took request :: c.log }
  else { c with worker := .refreshing }

/-- The worker's call of `api_apply_vpn_mode`. -/
def apply (c : Ctx) (r : Stamped) (rpc : Rpc) : Ctx :=
  match apiApplyVpnMode c.modeState r.request rpc with
  | (state, true) =>
    { c with modeState := state, worker := .refreshing, log := .applied r :: c.log }
  | (state, false) => { c with modeState := state, worker := .failed r }

/-- The second critical section of `api_refresh_worker`: a failed request is put back, unless a newer
one has arrived. -/
def requeue (c : Ctx) (r : Stamped) : Ctx :=
  if !c.vpnPending && !c.stopping then
    { c with vpnRequest := r, vpnPending := true, worker := .refreshing, log := .requeued r :: c.log }
  else { c with worker := .refreshing }

/-- The steps of both threads, of `api_cleanup`, and of the others that use the server. -/
inductive Label where
  /-- The reactor thread calls `api_vpn_mode_callback`. -/
  | post (cfg : InterfaceConfig) (state : VpnState)
  /-- `api_start_with_reactor` creates the thread. -/
  | start
  | take
  | apply (rpc : Rpc)
  | requeue
  /-- The refresh and the wait are over; `ok` says that `poll` has worked. -/
  | refresh (ok : Bool)
  /-- `api_cleanup` asks the worker to stop. -/
  | stop
  /-- The state of the server changes. -/
  | other (server : Server)

/-- One step. -/
def step (c : Ctx) : Label → Option Ctx
  | .post cfg state => some (apiVpnModeCallback c cfg state)
  | .start => if c.worker = .created then some { c with worker := .atTop } else none
  | .take => if c.worker = .atTop then some (take c) else none
  | .apply rpc =>
    match c.worker with
    | .applying r => some (apply c r rpc)
    | _ => none
  | .requeue =>
    match c.worker with
    | .failed r => some (requeue c r)
    | _ => none
  | .refresh ok =>
    if c.worker = .refreshing then some { c with worker := if ok then .atTop else .exited } else none
  | .stop => some { c with stopping := true }
  | .other server => some { c with modeState := { c.modeState with server := server } }

/-! ## The history -/

/-- The most recent post. -/
def lastPosted : List Entry → Option Stamped
  | [] => none
  | .posted r :: _ => some r
  | _ :: log => lastPosted log

/-- The last request that was applied successfully. -/
def lastApplied : List Entry → Option Stamped
  | [] => none
  | .applied r :: _ => some r
  | _ :: log => lastApplied log

/-- Nothing that was taken or posted up to now is newer than post number `n`. -/
def NoneNewer (log : List Entry) (n : Nat) : Prop :=
  ∀ r, .took r ∈ log ∨ .posted r ∈ log → r.seq ≤ n

/-- The worker never goes back: when it takes a request or puts one back, no request that it has
taken before and no request that has been posted is newer. -/
def NeverBack : List Entry → Prop
  | [] => True
  | .took r :: log | .requeued r :: log => NoneNewer log r.seq ∧ NeverBack log
  | _ :: log => NeverBack log

variable {c c' : Ctx}

/-- The invariant. While nothing is pending, a request in flight is the most recent one, so that it
can be put back. -/
structure Inv (c : Ctx) : Prop where
  counted : NoneNewer c.log c.posts
  newest : ∀ r, lastPosted c.log = some r → r.seq = c.posts
  pending : c.vpnPending = true → lastPosted c.log = some c.vpnRequest
  flight : ∀ r, c.worker.inFlight = some r → c.vpnPending = false → lastPosted c.log = some r
  kept : c.stopping = false → ∀ r, lastPosted c.log = some r →
    c.vpnPending = true ∨ c.worker.inFlight = some r ∨ lastApplied c.log = some r
  never : NeverBack c.log

/-- Before the first event the mailbox is empty. -/
lemma Inv.init (server : Server) : Inv (.init server) where
  counted := by simp [NoneNewer, Ctx.init]
  newest := by simp [lastPosted, Ctx.init]
  pending := by simp [Ctx.init]
  flight := by simp [Ctx.init, Worker.inFlight]
  kept := by simp [lastPosted, Ctx.init]
  never := trivial

/-- A request that is the most recent post is not older than anything. -/
lemma Inv.noneNewer (inv : Inv c) {r : Stamped} (last : lastPosted c.log = some r) :
    NoneNewer c.log r.seq :=
  inv.newest r last ▸ inv.counted

/-- A request takes the place of the one that waits. -/
lemma Inv.post (inv : Inv c) (cfg : InterfaceConfig) (state : VpnState) :
    Inv (apiVpnModeCallback c cfg state) := by
  rw [apiVpnModeCallback]
  split
  · exact inv
  · split
    · exact inv
    · refine ⟨fun r mem => ?_, ?_, fun _ => rfl, fun _ _ => nofun, fun _ r _ => .inl rfl,
        inv.never⟩
      · simp only [List.mem_cons, reduceCtorEq, false_or, Entry.posted.injEq] at mem
        rcases mem with took | rfl | posted
        · exact Nat.le_succ_of_le (inv.counted r (.inl took))
        · exact Nat.le_refl _
        · exact Nat.le_succ_of_le (inv.counted r (.inr posted))
      · rintro r ⟨⟩
        rfl

/-- The worker takes what is pending, which is the most recent post. -/
lemma Inv.take (inv : Inv c) (top : c.worker = .atTop) : Inv (take c) := by
  simp only [Mailbox.take]
  split
  · rename_i stopping
    exact ⟨inv.counted, inv.newest, nofun, fun _ => nofun,
      fun h => (by simp [stopping] at h), inv.never⟩
  · split
    · rename_i pending
      have last := inv.pending pending
      refine ⟨fun r mem => ?_, inv.newest, nofun, ?_, ?_, ?_⟩
      · simp only [List.mem_cons, reduceCtorEq, false_or, Entry.took.injEq] at mem
        rcases mem with (rfl | took) | posted
        · exact Nat.le_of_eq (inv.newest _ last)
        · exact inv.counted r (.inl took)
        · exact inv.counted r (.inr posted)
      · rintro r ⟨⟩ -
        exact last
      · intro _ r posted
        exact .inr (.inl (last.symm.trans posted))
      · exact ⟨inv.noneNewer last, inv.never⟩
    · rename_i unpending
      refine ⟨inv.counted, inv.newest, nofun, fun _ => nofun, ?_, inv.never⟩
      intro running r posted
      have kept := inv.kept running r posted
      simp only [unpending, top, Worker.inFlight, reduceCtorEq, false_or] at kept
      exact .inr (.inr kept)

/-- An applied request is the most recent post, or a newer one is pending. -/
lemma Inv.apply (inv : Inv c) {r : Stamped} (busy : c.worker = .applying r) (rpc : Rpc) :
    Inv (apply c r rpc) := by
  have mine : c.worker.inFlight = some r := by rw [busy]; rfl
  rw [Mailbox.apply]
  split
  · refine ⟨fun r' mem => ?_, inv.newest, inv.pending, fun _ => nofun, ?_, inv.never⟩
    · exact inv.counted r' (by simpa using mem)
    · intro running r' posted
      cases pending : c.vpnPending with
      | true => exact .inl rfl
      | false => exact .inr (.inr ((inv.flight r mine pending).symm.trans posted))
  · refine ⟨inv.counted, inv.newest, inv.pending, ?_, ?_, inv.never⟩
    · rintro r' ⟨⟩
      exact inv.flight r mine
    · intro running r' posted
      have kept := inv.kept running r' posted
      rwa [mine] at kept

/-- A request is put back only while it is the most recent post. -/
lemma Inv.requeue (inv : Inv c) {r : Stamped} (busy : c.worker = .failed r) :
    Inv (requeue c r) := by
  have mine : c.worker.inFlight = some r := by rw [busy]; rfl
  rw [Mailbox.requeue]
  split
  · rename_i free
    simp only [Bool.and_eq_true, Bool.not_eq_true'] at free
    have last := inv.flight r mine free.1
    refine ⟨fun r' mem => ?_, inv.newest, fun _ => last, fun _ => nofun,
      fun _ r' _ => .inl rfl, inv.noneNewer last, inv.never⟩
    exact inv.counted r' (by simpa using mem)
  · rename_i taken
    refine ⟨inv.counted, inv.newest, inv.pending, fun _ => nofun, ?_, inv.never⟩
    intro running r' _
    have running : c.stopping = false := running
    simp only [running, Bool.not_false, Bool.and_true, Bool.not_eq_true',
      Bool.not_eq_false] at taken
    exact .inl taken

/-- A worker that is not busy may go anywhere where it is not busy. -/
lemma Inv.move (inv : Inv c) {worker : Worker} (free : c.worker.inFlight = none)
    (idle : worker.inFlight = none) : Inv { c with worker := worker } where
  counted := inv.counted
  newest := inv.newest
  pending := inv.pending
  flight r h := by simp [idle] at h
  kept running r posted := by
    have kept := inv.kept running r posted
    rw [free] at kept
    exact idle ▸ kept
  never := inv.never

/-- By cases on the label. -/
lemma Inv.step {lb : Label} (inv : Inv c) (st : step c lb = some c') : Inv c' := by
  cases lb with
  | post cfg state =>
    cases st
    exact inv.post cfg state
  | start =>
    simp only [Mailbox.step, Option.ite_none_right_eq_some, Option.some.injEq] at st
    obtain ⟨created, rfl⟩ := st
    exact inv.move (by rw [created]; rfl) rfl
  -- the worker moves the request out of the mailbox, under the lock
  | take =>
    simp only [Mailbox.step, Option.ite_none_right_eq_some, Option.some.injEq] at st
    obtain ⟨top, rfl⟩ := st
    exact inv.take top
  | apply rpc =>
    simp only [Mailbox.step] at st
    split at st
    · rename_i r busy
      cases st
      exact inv.apply busy rpc
    · cases st
  -- a request that has failed is put back only if no newer one is pending
  | requeue =>
    simp only [Mailbox.step] at st
    split at st
    · rename_i r busy
      cases st
      exact inv.requeue busy
    · cases st
  | refresh ok =>
    simp only [Mailbox.step, Option.ite_none_right_eq_some, Option.some.injEq] at st
    obtain ⟨refreshing, rfl⟩ := st
    refine inv.move (by rw [refreshing]; rfl) ?_
    cases ok <;> rfl
  -- what the mailbox keeps is promised only while the worker is not asked to stop
  | stop =>
    cases st
    exact ⟨inv.counted, inv.newest, inv.pending, inv.flight, (by simp), inv.never⟩
  | other server =>
    cases st
    exact ⟨inv.counted, inv.newest, inv.pending, inv.flight, inv.kept, inv.never⟩

/-- The mailbox loses no update and never goes back: in every interleaving of the two threads, while
the worker is not asked to stop, the most recent post is pending in the mailbox, in flight in the
worker, or the last request applied; and a request that the worker takes or puts back is not older
than one it has taken or one that has been posted. -/
theorem mailbox_keeps_latest (server : Server) (ls : List Label)
    (rn : run Mailbox.step (.init server) ls = some c) :
    (c.stopping = false → ∀ r, lastPosted c.log = some r →
      (c.vpnPending = true ∧ c.vpnRequest = r) ∨ c.worker.inFlight = some r ∨
        lastApplied c.log = some r) ∧
    NeverBack c.log := by
  have inv : Inv c := run_preserves (fun _ _ _ inv st => inv.step st) (Inv.init server) rn
  refine ⟨fun running r posted => ?_, inv.never⟩
  rcases inv.kept running r posted with pending | rest
  · exact .inl ⟨pending, Option.some.inj ((inv.pending pending).symm.trans posted)⟩
  · exact .inr rest

/-- A READY request fails while an IDLE request arrives, and a second READY request is put back. -/
def reconnectRun : List Label :=
  let cfg : InterfaceConfig := ⟨true, [], []⟩
  [.start, .post cfg .ready, .take, .post cfg .idle, .apply ⟨false, true, true⟩, .requeue,
    .refresh true, .take, .apply ⟨true, true, true⟩, .refresh true, .post cfg .ready, .take,
    .apply ⟨true, false, false⟩, .requeue]

/-- The last request is in the mailbox, and the one before it was carried out. -/
theorem mailbox_keeps_latest_reconnectRun :
    ∃ c, run Mailbox.step (.init ruleServer) reconnectRun = some c ∧ c.stopping = false ∧
      (lastPosted c.log).map (·.seq) = some 3 ∧ (lastApplied c.log).map (·.seq) = some 2 ∧
      c.vpnPending = true ∧ c.vpnRequest.seq = 3 ∧ NeverBack c.log := by
  refine ⟨_, rfl, rfl, rfl, rfl, rfl, rfl, ?_⟩
  exact (mailbox_keeps_latest ruleServer reconnectRun rfl).2

end Atpd.Api.Mailbox
