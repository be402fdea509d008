import Atpd.Config.Basic
import Atpd.Daemon.Context
import Atpd.Lib.Run

/-!
# The Clash mode of a VPN episode

`api_apply_vpn_mode` of `src/api.c` switches sing-box to the VPN's mode when the VPN comes up and
back when it goes down. It runs on the worker thread, against a server that is reached by two RPCs,
each of which can fail; a `SetClashMode` that fails may have taken effect all the same.

An episode begins with the first READY request after a successful IDLE request. `Live` is the worker
together with the server during any sequence of requests; its field `before` is history: the mode
that was live when the episode began. Somebody else may change the mode between two episodes.

What has to hold is that `default_mode` is either empty, and then the mode of the user is still
live, or it is the mode of the user.
-/

namespace Atpd.Api

open Atpd.Config Atpd.Daemon Atpd.Lib

/-- `SINGBOX_CLASH_MODE_SIZE`. -/
def clashModeSize : Nat := 64

/-- `SINGBOX_MAX_CLASH_MODES`. -/
def maxClashModes : Nat := 32

/-- A string in a `char` array of `SINGBOX_CLASH_MODE_SIZE` bytes. -/
def ModeBuf : Type := { s : Str // s.length < clashModeSize }
deriving DecidableEq

/-- `snprintf(buf, sizeof(buf), "%s", text)`. -/
def ModeBuf.print (text : Str) : ModeBuf :=
  ⟨text.take (clashModeSize - 1), by
    rw [List.length_take]
    exact Nat.lt_of_le_of_lt (Nat.min_le_left _ _) (by decide)⟩

/-- The empty string. -/
def ModeBuf.empty : ModeBuf := ⟨[], by decide⟩

/-- What fits is printed as it is. -/
lemma ModeBuf.print_of_lt {text : Str} (lt : text.length < clashModeSize) :
    (ModeBuf.print text).1 = text := by
  simp only [ModeBuf.print]
  exact List.take_of_length_le (by omega)

/-- `api_vpn_request_t`. -/
structure Request where
  state : VpnState
  targetMode : ModeBuf
  fallbackMode : ModeBuf
deriving DecidableEq

/-- The mode that is live in sing-box, and its mode list. -/
structure Server where
  mode : Str
  modes : List Str

/-- `singbox_clash_mode_status_t`. -/
structure ClashModeStatus where
  modes : List ModeBuf
  currentMode : ModeBuf

/-- The outcomes of the RPCs of one call: whether `GetClashModeStatus` works, whether `SetClashMode`
works, and whether a `SetClashMode` that fails has taken effect. -/
structure Rpc where
  statusOk : Bool
  setOk : Bool
  setTook : Bool
deriving DecidableEq, Repr

/-- The mode list as `parse_clash_mode_status` delivers it. -/
def Server.modeList (srv : Server) : List ModeBuf := (srv.modes.take maxClashModes).map ModeBuf.print

/-- `singbox_api_get_clash_mode_status`: an answer without a current mode is an error. -/
def singboxApiGetClashModeStatus (srv : Server) (rpc : Rpc) : Option ClashModeStatus :=
  if rpc.statusOk ∧ srv.mode ≠ [] then some ⟨srv.modeList, ModeBuf.print srv.mode⟩ else none

/-- `singbox_api_set_clash_mode`, called through `api_set_mode_async`: an empty mode is refused. -/
def singboxApiSetClashMode (srv : Server) (mode : ModeBuf) (rpc : Rpc) : Server × Bool :=
  if mode.1 = [] then (srv, false)
  else if rpc.setOk then ({ srv with mode := mode.1 }, true)
  else if rpc.setTook then ({ srv with mode := mode.1 }, false)
  else (srv, false)

/-- `is_clash_mode_supported`. -/
def isClashModeSupported (status : ClashModeStatus) (mode : ModeBuf) : Bool :=
  decide (mode.1 ≠ []) && decide (mode ∈ status.modes)

/-- `api_apply_vpn_mode`, IDLE with a saved mode: the mode to restore. -/
def restoreMode (status : ClashModeStatus) (defaultMode fallbackMode : ModeBuf) : Option ModeBuf :=
  if isClashModeSupported status defaultMode then some defaultMode
  else if isClashModeSupported status fallbackMode then some fallbackMode
  else none

/-- What `api_apply_vpn_mode` works on: `ctx->default_mode` and the server. -/
structure ModeState where
  defaultMode : ModeBuf
  server : Server

/-- `api_apply_vpn_mode`, IDLE. -/
def applyIdle (s : ModeState) (status : ClashModeStatus) (request : Request) (rpc : Rpc) :
    ModeState × Bool :=
  if s.defaultMode.1 = [] then (s, true)
  else
    match restoreMode status s.defaultMode request.fallbackMode with
    | none => (s, false)
    | some mode =>
      if status.currentMode = mode then ({ s with defaultMode := .empty }, true)
      else
        match singboxApiSetClashMode s.server mode rpc with
        | (server, true) => (⟨.empty, server⟩, true)
        | (server, false) => ({ s with server := server }, false)

/-- `api_apply_vpn_mode`, READY: the mode of the user is saved first. -/
def saveMode (s : ModeState) (status : ClashModeStatus) : ModeState :=
  if s.defaultMode.1 = [] then { s with defaultMode := status.currentMode } else s

/-- `api_apply_vpn_mode`, READY. -/
def applyReady (s : ModeState) (status : ClashModeStatus) (request : Request) (rpc : Rpc) :
    ModeState × Bool :=
  let s := saveMode s status
  if isClashModeSupported status request.targetMode then
    if status.currentMode = request.targetMode then (s, true)
    else
      let (server, ok) := singboxApiSetClashMode s.server request.targetMode rpc
      ({ s with server := server }, ok)
  else (s, false)

/-- `api_apply_vpn_mode`. -/
def apiApplyVpnMode (s : ModeState) (request : Request) (rpc : Rpc) : ModeState × Bool :=
  match singboxApiGetClashModeStatus s.server rpc with
  | none => (s, false)
  | some status =>
    if request.state = .idle then applyIdle s status request rpc
    else applyReady s status request rpc

/-! ## Episodes -/

/-- A worker and its server; `before` is the mode that was live before the first READY request since
the last successful IDLE request. -/
structure Live where
  state : ModeState
  before : Option Str

/-- A request is applied, or somebody else sets the mode. -/
inductive Label where
  | request (request : Request) (rpc : Rpc)
  | other (mode : Str)

/-- The history after a request: READY opens an episode, a successful IDLE closes it. -/
def Live.mark (l : Live) (request : Request) (ok : Bool) : Option Str :=
  match request.state with
  | .idle => if ok then none else l.before
  | _ => some (l.before.getD l.state.server.mode)

/-- One step. Only READY and IDLE requests are ever posted; nobody else sets the mode during an
episode. -/
def step (l : Live) : Label → Option Live
  | .request request rpc =>
    if request.state = .ready ∨ request.state = .idle then
      let (state, ok) := apiApplyVpnMode l.state request rpc
      some ⟨state, l.mark request ok⟩
    else none
  | .other mode =>
    if l.before = none then
      some { l with state := { l.state with server := { l.state.server with mode := mode } } }
    else none

/-- The worker after `api_init`, with any server. -/
def Live.init (server : Server) : Live := ⟨⟨.empty, server⟩, none⟩

/-! ## The saved mode -/

variable {l l' : Live} {s : ModeState} {request : Request} {rpc : Rpc} {status : ClashModeStatus}

/-- The names in the mode list that sing-box delivers. -/
def Server.modeNames (srv : Server) : List Str := srv.modeList.map Subtype.val

/-- The mode `m0` of the user is either still live, and nothing is saved, or it is saved. -/
structure Kept (s : ModeState) (m0 : Str) : Prop where
  saved : (s.defaultMode.1 = [] ∧ s.server.mode = m0) ∨ (s.defaultMode.1 = m0 ∧ m0 ≠ [])
  fits : s.server.mode.length < clashModeSize

/-- The invariant: between episodes nothing is saved, and during an episode the mode of the user is
kept if it is in the mode list. -/
structure EpisodeInv (l : Live) : Prop where
  closed : l.before = none → l.state.defaultMode.1 = []
  opened : ∀ m0, l.before = some m0 → m0 ∈ l.state.server.modeNames → Kept l.state m0

/-- A delivered name fits into its buffer. -/
lemma Server.length_lt {srv : Server} {m : Str} (mem : m ∈ srv.modeNames) :
    m.length < clashModeSize := by
  obtain ⟨b, -, rfl⟩ := List.mem_map.mp mem
  exact b.2

/-- What `GetClashModeStatus` delivers. -/
lemma status_eq (h : singboxApiGetClashModeStatus s.server rpc = some status) :
    s.server.mode ≠ [] ∧ status = ⟨s.server.modeList, ModeBuf.print s.server.mode⟩ := by
  simp only [singboxApiGetClashModeStatus, Option.ite_none_right_eq_some, Option.some.injEq] at h
  exact ⟨h.1.2, h.2.symm⟩

/-- `SetClashMode` sets the mode or leaves it, and sets it when it works. -/
lemma setClashMode_spec (srv : Server) (mode : ModeBuf) (rpc : Rpc) :
    (singboxApiSetClashMode srv mode rpc).1.modes = srv.modes ∧
    ((singboxApiSetClashMode srv mode rpc).1.mode = mode.1 ∨
      (singboxApiSetClashMode srv mode rpc).1.mode = srv.mode) ∧
    ((singboxApiSetClashMode srv mode rpc).2 = true →
      (singboxApiSetClashMode srv mode rpc).1.mode = mode.1) := by
  rw [singboxApiSetClashMode]
  split
  · exact ⟨rfl, .inr rfl, fun h => by cases h⟩
  · split
    · exact ⟨rfl, .inl rfl, fun _ => rfl⟩
    · split
      · exact ⟨rfl, .inl rfl, fun _ => rfl⟩
      · exact ⟨rfl, .inr rfl, fun h => by cases h⟩

/-- Whatever `SetClashMode` does, a saved mode stays saved. -/
lemma Kept.setMode {m0 : Str} {mode : ModeBuf} (kept : Kept s m0)
    (saved : s.defaultMode.1 = m0 ∧ m0 ≠ []) :
    Kept { s with server := (singboxApiSetClashMode s.server mode rpc).1 } m0 := by
  obtain ⟨-, set, -⟩ := setClashMode_spec s.server mode rpc
  refine ⟨.inr saved, ?_⟩
  rcases set with set | set
  · exact set ▸ mode.2
  · exact set ▸ kept.fits

/-- READY saves the mode of the user before anything is set. -/
lemma Kept.saveMode {m0 : Str} (kept : Kept s m0)
    (answer : singboxApiGetClashModeStatus s.server rpc = some status) :
    Kept (saveMode s status) m0 ∧ (saveMode s status).defaultMode.1 = m0 ∧ m0 ≠ [] := by
  obtain ⟨ne, rfl⟩ := status_eq answer
  rw [Api.saveMode]
  rcases kept.saved with ⟨empty, live⟩ | saved
  · rw [if_pos empty]
    have print : (ModeBuf.print s.server.mode).1 = m0 := by
      rw [ModeBuf.print_of_lt kept.fits, live]
    exact ⟨⟨.inr ⟨print, live ▸ ne⟩, kept.fits⟩, print, live ▸ ne⟩
  · rw [if_neg (saved.1 ▸ saved.2)]
    exact ⟨kept, saved⟩

/-- The mode of before is kept when the VPN comes. -/
lemma Kept.applyReady {m0 : Str} (kept : Kept s m0)
    (answer : singboxApiGetClashModeStatus s.server rpc = some status) :
    Kept (applyReady s status request rpc).1 m0 := by
  obtain ⟨kept, saved⟩ := kept.saveMode answer
  simp only [Api.applyReady]
  split
  · split
    · exact kept
    · exact kept.setMode saved
  · exact kept

/-- A supported saved mode is the one to restore. -/
lemma restoreMode_saved {m0 : Str} (saved : s.defaultMode.1 = m0 ∧ m0 ≠ [])
    (mem : m0 ∈ s.server.modeNames)
    (answer : singboxApiGetClashModeStatus s.server rpc = some status) (fallback : ModeBuf) :
    restoreMode status s.defaultMode fallback = some s.defaultMode := by
  obtain ⟨-, rfl⟩ := status_eq answer
  obtain ⟨b, hb, hval⟩ := List.mem_map.mp mem
  have listed : s.defaultMode ∈ s.server.modeList :=
    Subtype.ext (saved.1.trans hval.symm) ▸ hb
  have named : s.defaultMode.1 ≠ [] := saved.1 ▸ saved.2
  rw [restoreMode, if_pos (by simp [isClashModeSupported, named, listed])]

/-- IDLE restores the mode of the user, or keeps it saved. -/
lemma Kept.applyIdle {m0 : Str} (kept : Kept s m0) (mem : m0 ∈ s.server.modeNames)
    (answer : singboxApiGetClashModeStatus s.server rpc = some status) (request : Request) :
    Kept (applyIdle s status request rpc).1 m0 ∧
      ((applyIdle s status request rpc).2 = true →
        (applyIdle s status request rpc).1.defaultMode.1 = [] ∧
        (applyIdle s status request rpc).1.server.mode = m0) := by
  rw [Api.applyIdle]
  rcases kept.saved with ⟨empty, live⟩ | saved
  · rw [if_pos empty]
    exact ⟨kept, fun _ => ⟨empty, live⟩⟩
  · rw [if_neg (saved.1 ▸ saved.2), restoreMode_saved saved mem answer]
    dsimp only
    split
    · rename_i same
      obtain ⟨-, rfl⟩ := status_eq answer
      have live : s.server.mode = m0 := by
        rw [← ModeBuf.print_of_lt kept.fits, ← saved.1]
        exact congrArg Subtype.val same
      exact ⟨⟨.inl ⟨rfl, live⟩, kept.fits⟩, fun _ => ⟨rfl, live⟩⟩
    · have set := setClashMode_spec s.server s.defaultMode rpc
      have stays : Kept { s with server := (singboxApiSetClashMode s.server s.defaultMode rpc).1 } m0 :=
        kept.setMode saved
      split
      · rename_i heq
        rw [heq] at set
        have live := (set.2.2 rfl).trans saved.1
        exact ⟨⟨.inl ⟨rfl, live⟩, live ▸ Server.length_lt mem⟩, fun _ => ⟨rfl, live⟩⟩
      · rename_i heq
        rw [heq] at stays
        exact ⟨stays, fun h => by cases h⟩

/-- And it is forgotten once it was set again. -/
lemma applyIdle_cleared (ok : (applyIdle s status request rpc).2 = true) :
    (applyIdle s status request rpc).1.defaultMode.1 = [] := by
  rw [applyIdle] at ok ⊢
  split
  · assumption
  · rename_i saved
    rw [if_neg saved] at ok
    split
    · rename_i none
      simp [none] at ok
    · rename_i mode hmode
      simp only [hmode] at ok
      split
      · rfl
      · rename_i differs
        rw [if_neg differs] at ok
        split
        · rfl
        · rename_i heq
          simp [heq] at ok

/-- An IDLE that returns true leaves nothing saved. -/
lemma idle_cleared (idle : request.state = .idle) (ok : (apiApplyVpnMode s request rpc).2 = true) :
    (apiApplyVpnMode s request rpc).1.defaultMode.1 = [] := by
  rw [apiApplyVpnMode] at ok ⊢
  split
  · rename_i fails
    simp [fails] at ok
  · rename_i status answer
    simp only [answer, if_pos idle] at ok
    rw [if_pos idle]
    exact applyIdle_cleared ok

/-- An IDLE that returns true restores the mode of the user; any other outcome keeps it. -/
lemma Kept.apply {m0 : Str} (kept : Kept s m0) (mem : m0 ∈ s.server.modeNames) :
    Kept (apiApplyVpnMode s request rpc).1 m0 ∧
      (request.state = .idle → (apiApplyVpnMode s request rpc).2 = true →
        (apiApplyVpnMode s request rpc).1.server.mode = m0) := by
  rw [apiApplyVpnMode]
  split
  · exact ⟨kept, fun _ h => by cases h⟩
  · rename_i status answer
    by_cases idle : request.state = .idle
    · rw [if_pos idle]
      obtain ⟨kept, restored⟩ := kept.applyIdle mem answer request
      exact ⟨kept, fun _ ok => (restored ok).2⟩
    · rw [if_neg idle]
      exact ⟨kept.applyReady answer, fun h => absurd h idle⟩

/-- An IDLE without a saved mode changes nothing. -/
lemma idle_unsaved (idle : request.state = .idle) (unsaved : s.defaultMode.1 = []) :
    (apiApplyVpnMode s request rpc).1 = s := by
  rw [apiApplyVpnMode]
  split
  · rfl
  · rw [if_pos idle, applyIdle, if_pos unsaved]

/-- The modes of the server stay what they are. -/
lemma applyIdle_modes : (applyIdle s status request rpc).1.server.modes = s.server.modes := by
  rw [applyIdle]
  split
  · rfl
  · split
    · rfl
    · rename_i mode _
      have set := (setClashMode_spec s.server mode rpc).1
      split
      · rfl
      · split
        · rename_i heq
          rwa [heq] at set
        · rename_i heq
          rwa [heq] at set

/-- Here, too. -/
lemma applyReady_modes : (applyReady s status request rpc).1.server.modes = s.server.modes := by
  have saved : (saveMode s status).server = s.server := by
    rw [saveMode]
    split <;> rfl
  simp only [applyReady]
  split
  · split
    · rw [saved]
    · rw [(setClashMode_spec _ _ _).1, saved]
  · rw [saved]

/-- The mode list is constant. -/
lemma apply_modes : (apiApplyVpnMode s request rpc).1.server.modes = s.server.modes := by
  rw [apiApplyVpnMode]
  split
  · rfl
  · split
    · exact applyIdle_modes
    · exact applyReady_modes

/-- A READY request opens an episode, if none is open. -/
lemma EpisodeInv.kept (inv : EpisodeInv l) {m0 : Str}
    (hm : l.before.getD l.state.server.mode = m0) (mem : m0 ∈ l.state.server.modeNames) :
    Kept l.state m0 := by
  cases hb : l.before with
  | none =>
    have live : l.state.server.mode = m0 := by simpa [hb] using hm
    exact ⟨.inl ⟨inv.closed hb, live⟩, live ▸ Server.length_lt mem⟩
  | some m =>
    have same : m = m0 := by simpa [hb] using hm
    exact inv.opened m0 (hb.trans (congrArg some same)) mem

/-- By cases on the label. -/
lemma EpisodeInv.step {lb : Label} (inv : EpisodeInv l) (st : step l lb = some l') :
    EpisodeInv l' := by
  cases lb with
  | other mode =>
    simp only [Api.step, Option.ite_none_right_eq_some, Option.some.injEq] at st
    obtain ⟨none, rfl⟩ := st
    exact ⟨fun _ => inv.closed none, fun m0 hm => absurd (none.symm.trans hm) (by simp)⟩
  | request request rpc =>
    simp only [Api.step, Option.ite_none_right_eq_some, Option.some.injEq] at st
    obtain ⟨posted, rfl⟩ := st
    have names : (apiApplyVpnMode l.state request rpc).1.server.modeNames =
        l.state.server.modeNames := by
      simp only [Server.modeNames, Server.modeList, apply_modes]
    rcases posted with ready | idle
    · refine ⟨fun h => by simp [Live.mark, ready] at h, fun m0 hm mem => ?_⟩
      simp only [Live.mark, ready, Option.some.injEq] at hm
      rw [names] at mem
      exact ((inv.kept hm mem).apply mem).1
    · simp only [Live.mark, idle]
      cases ok : (apiApplyVpnMode l.state request rpc).2 with
      | true =>
        refine ⟨fun _ => idle_cleared idle ok, fun m0 hm => ?_⟩
        simp at hm
      | false =>
        refine ⟨fun none => ?_, fun m0 hm mem => ?_⟩
        · have unsaved := inv.closed (by simpa using none)
          rw [idle_unsaved idle unsaved]
          exact unsaved
        · rw [names] at mem
          exact ((inv.opened m0 (by simpa using hm) mem).apply mem).1

/-- A VPN episode restores the mode of the user: for every sequence of READY and IDLE requests, with
every RPC free to fail, if the mode `m0` that was live before the first READY since the last
successful IDLE is in the mode list that is delivered, then `default_mode` is empty or `m0` all along,
and an IDLE that returns true leaves `m0` live and `default_mode` empty. -/
theorem vpn_episode_restores (server : Server) (ls : List Label)
    (rn : run Api.step (Live.init server) ls = some l) :
    (∀ m0, l.before = some m0 → m0 ∈ l.state.server.modeNames →
      l.state.defaultMode.1 = [] ∨ l.state.defaultMode.1 = m0) ∧
    (∀ request rpc, request.state = .idle → (apiApplyVpnMode l.state request rpc).2 = true →
      (apiApplyVpnMode l.state request rpc).1.defaultMode.1 = [] ∧
      ∀ m0, l.before = some m0 → m0 ∈ l.state.server.modeNames →
        (apiApplyVpnMode l.state request rpc).1.server.mode = m0) := by
  have inv : EpisodeInv l := run_preserves (fun _ _ _ inv st => inv.step st)
    ⟨fun _ => rfl, fun m0 hm => by simp [Live.init] at hm⟩ rn
  refine ⟨fun m0 hm mem => ?_, fun request rpc idle ok => ⟨idle_cleared idle ok, fun m0 hm mem => ?_⟩⟩
  · exact (inv.opened m0 hm mem).saved.imp (·.1) (·.1)
  · exact ((inv.opened m0 hm mem).apply mem).2 idle ok

/-- A server in mode `Rule`. -/
def ruleServer : Server := ⟨"Rule".toList, ["Rule".toList, "Global".toList, "Google VPN".toList]⟩

/-- READY fails after it has taken effect, is retried, and an IDLE request fails. -/
def bumpyEpisode : List Label :=
  let ready : Request := ⟨.ready, .print "Google VPN".toList, .print "Global".toList⟩
  let idle : Request := ⟨.idle, .print "Google VPN".toList, .print "Global".toList⟩
  [.request ready ⟨true, false, true⟩, .request ready ⟨true, true, true⟩,
    .request idle ⟨true, false, false⟩]

/-- Behind some failures the mode of before is set again. -/
theorem vpn_episode_restores_bumpyEpisode :
    ∃ l, run Api.step (Live.init ruleServer) bumpyEpisode = some l ∧
      l.state.server.mode = "Google VPN".toList ∧ l.before = some "Rule".toList ∧
      (apiApplyVpnMode l.state ⟨.idle, .empty, .empty⟩ ⟨true, true, true⟩).1.server.mode =
        "Rule".toList := by
  refine ⟨_, rfl, rfl, rfl, ?_⟩
  obtain ⟨-, restores⟩ := vpn_episode_restores ruleServer bumpyEpisode rfl
  exact (restores ⟨.idle, .empty, .empty⟩ ⟨true, true, true⟩ rfl (by decide)).2 _ rfl (by decide)

/-- A server with one mode more than a `singbox_clash_mode_status_t` has room for; the last one is
live. -/
def wideServer : Server :=
  ⟨"Own".toList, (List.range maxClashModes).map (fun n => List.replicate (n + 1) 'm') ++ ["Own".toList]⟩

/-- READY selects the mode `m`. -/
def wideEpisode : List Label :=
  [.request ⟨.ready, .print "m".toList, .print "mm".toList⟩ ⟨true, true, true⟩]

/-- The live mode is in the mode list of the server, but it is not delivered: IDLE selects the fallback
and returns true. -/
theorem wideEpisode_falls_back :
    ∃ l, run Api.step (Live.init wideServer) wideEpisode = some l ∧
      l.before = some "Own".toList ∧ "Own".toList ∈ l.state.server.modes ∧
      (apiApplyVpnMode l.state ⟨.idle, .print "m".toList, .print "mm".toList⟩ ⟨true, true, true⟩).2 = true ∧
      (apiApplyVpnMode l.state ⟨.idle, .print "m".toList, .print "mm".toList⟩
        ⟨true, true, true⟩).1.server.mode = "mm".toList :=
  ⟨_, rfl, rfl, by decide, by decide, by decide⟩

end Atpd.Api
