import Atpd.Daemon.Resources
import Atpd.Lib.Phases

/-!
# Initialization phases

`src/atpd_init.c`: the phases in the order of the table, and the rollback of those that are completed when
a required one fails. A phase that fails leaves nothing of its own behind, and the cleanup of a completed
phase gives back what the phase holds; so whatever fails, the rollback leaves nothing but the file of the
log, and closes nothing twice. The API phase is optional: when it fails the daemon starts without it.

The table is run by the loops of `Atpd.Lib.Phases`, and what they ask of a phase is shown here of each.
-/

namespace Atpd.Daemon.Lifetime

open Atpd.Lib

/-- `init_phase_t`. -/
inductive InitPhase where
  | config
  | logger
  | reactor
  | netlink
  | service
  | api
  | ready
deriving DecidableEq, Repr

/-- `atpd_init_context_t` with the variables of the components; `Progress` has the two bit sets. -/
structure InitContext where
  sys : Sys
  configLoaded : Bool
  reactor : Option Reactor
  netlink : Netlink
  service : Option Service
  api : Api
  vpnModeCallback : Bool

/-- What the configuration file is like. -/
structure ConfigOs where
  /-- `-c` was given. -/
  named : Bool
  pathFits : Bool
  readable : Bool
  loads : Bool
deriving DecidableEq, Repr

/-- What `atpd_init_phase_logger` finds: the calls of `logger_init`, whether `LOG_FILE` is set, whether its
path fits and its directory can be made, and the calls of `log_set_file`. -/
structure LoggerOs where
  app : LogOpen
  named : Bool
  pathFits : Bool
  directory : Bool
  file : LogOpen
deriving DecidableEq, Repr

/-- The messages of a phase: in front of its handler, behind it, and behind its cleanup. -/
structure Messages where
  before : List LogWrite
  after : List LogWrite
  undone : List LogWrite
deriving DecidableEq, Repr

/-- The calls of the phases that succeed, and what is written to the log. -/
structure InitOs where
  messages : InitPhase → Messages
  config : ConfigOs
  logger : LoggerOs
  reactor : ReactorOs
  netlink : NetlinkOs
  serviceAlloc : Bool
  serviceInit : Bool
  serviceTimer : Bool
  api : ApiOs

/-! ## The handlers -/

/-- `atpd_init_phase_config`. -/
def atpdInitPhaseConfig (os : InitOs) (c : InitContext) : Option (InitContext × Bool) :=
  if c.configLoaded then some (c, true)
  else if !os.config.named && !os.config.pathFits then some (c, false)
  else if os.config.readable then
    some (if os.config.loads then ({ c with configLoaded := true }, true) else (c, false))
  else if os.config.named then some (c, false)
  else some ({ c with configLoaded := true }, true)

/-- `atpd_init_phase_logger`; nothing closes the file of the log again. -/
def atpdInitPhaseLogger (os : InitOs) (c : InitContext) : Option (InitContext × Bool) := do
  let s ← logSetFile os.logger.app c.sys
  if !os.logger.named then some ({ c with sys := s }, true)
  else if !os.logger.pathFits || !os.logger.directory then some ({ c with sys := s }, false)
  else
    let s ← logSetFile os.logger.file s
    some ({ c with sys := s }, true)

/-- `atpd_init_phase_reactor`. -/
def atpdInitPhaseReactor (os : InitOs) (c : InitContext) : Option (InitContext × Bool) :=
  if c.reactor.isSome then some (c, false)
  else (reactorCreate os.reactor c.sys).map fun (s, r) => ({ c with sys := s, reactor := r }, r.isSome)

/-- `atpd_init_phase_netlink`. -/
def atpdInitPhaseNetlink (os : InitOs) (c : InitContext) : Option (InitContext × Bool) := do
  let (s, n, ok) ← netlinkInit os.netlink c.sys c.netlink
  if !ok then some ({ c with sys := s, netlink := n }, false)
  else
    match c.reactor with
    | none =>
      let (s, n) ← netlinkCleanup s n
      some ({ c with sys := s, netlink := n }, false)
    | some r =>
      let (s, n) ← netlinkSetReactor os.netlink s n r.object
      let (s, n, ok) ← netlinkXfrmInit os.netlink s n r.object
      if ok then some ({ c with sys := s, netlink := n }, true)
      else
        let (s, n) ← netlinkCleanup s n
        some ({ c with sys := s, netlink := n }, false)

/-- `atpd_init_phase_service`. -/
def atpdInitPhaseService (os : InitOs) (c : InitContext) : Option (InitContext × Bool) :=
  let (s, object) := c.sys.acquire os.serviceAlloc
  match object with
  | none => some ({ c with sys := s, service := none }, false)
  | some object =>
    let fail (service : Service) : Option (InitContext × Bool) :=
      (serviceDestroy s service).map fun s => ({ c with sys := s, service := none }, false)
    if !os.serviceInit then fail ⟨object, none, false⟩
    else
      match c.reactor with
      | none => fail ⟨object, none, false⟩
      | some r =>
        -- `service_set_reactor` keeps the pointer, and adds the monitor timer
        if os.serviceTimer then some ({ c with sys := s, service := some ⟨object, some r.object, false⟩ }, true)
        else fail ⟨object, some r.object, false⟩

/-- `atpd_init_phase_api`. -/
def atpdInitPhaseApi (os : InitOs) (c : InitContext) : Option (InitContext × Bool) := do
  let (s, a, ok) ← apiInit os.api c.sys
  if !ok then
    let (s, a) ← apiCleanup s a
    some ({ c with sys := s, api := a }, false)
  else
    match c.reactor with
    | none =>
      let (s, a) ← apiCleanup s a
      some ({ c with sys := s, api := a, vpnModeCallback := false }, false)
    | some r =>
      let (s, a, ok) ← apiStartWithReactor os.api s a r.object
      if ok then
        some ({ c with
          sys := s
          api := a
          vpnModeCallback := true
          service := c.service.map fun service => { service with api := true } }, true)
      else
        let (s, a) ← apiCleanup s a
        some ({ c with sys := s, api := a, vpnModeCallback := false }, false)

/-- `atpd_init_phase_ready`. -/
def atpdInitPhaseReady (_ : InitOs) (c : InitContext) : Option (InitContext × Bool) := some (c, true)

/-! ## The cleanups -/

/-- `cleanup_reactor`. -/
def cleanupReactor (c : InitContext) : Option InitContext :=
  match c.reactor with
  | none => some c
  | some r => (reactorDestroy c.sys r).map fun s => { c with sys := s, reactor := none }

/-- `cleanup_netlink`. -/
def cleanupNetlink (c : InitContext) : Option InitContext :=
  (netlinkCleanup c.sys c.netlink).map fun (s, n) => { c with sys := s, netlink := n }

/-- `cleanup_service`. -/
def cleanupService (c : InitContext) : Option InitContext :=
  match c.service with
  | none => some c
  | some service => (serviceDestroy c.sys service).map fun s => { c with sys := s, service := none }

/-- `cleanup_api`. -/
def cleanupApi (c : InitContext) : Option InitContext :=
  (apiCleanup c.sys c.api).map fun (s, a) =>
    { c with
      sys := s
      api := a
      vpnModeCallback := false
      service := c.service.map fun service => { service with api := false } }

/-! ## The run -/

/-- `LOG_INFO`, `LOG_WARN` and `LOG_ERROR`. -/
def InitContext.write (ws : List LogWrite) (c : InitContext) : Option InitContext :=
  (logWrites ws c.sys).map fun s => { c with sys := s }

/-- A handler, with the messages of the phase and those of `atpd_init_run` about it: nobody else looks at
the log, so it does not matter when they are written in between. -/
def logged (m : Messages) (handler : InitContext → Option (InitContext × Bool)) (c : InitContext) :
    Option (InitContext × Bool) := do
  let c ← c.write m.before
  let (c, ok) ← handler c
  let c ← c.write m.after
  some (c, ok)

/-- A cleanup, with its messages. -/
def loggedCleanup (m : Messages) (cleanup : InitContext → Option InitContext) (c : InitContext) :
    Option InitContext :=
  (cleanup c).bind (InitContext.write m.undone)

/-- `init_phases`. -/
def initPhases (os : InitOs) : List (Phases.Phase InitPhase InitContext) :=
  let m := os.messages
  [⟨.config, logged (m .config) (atpdInitPhaseConfig os), none, true⟩,
    ⟨.logger, logged (m .logger) (atpdInitPhaseLogger os), none, true⟩,
    ⟨.reactor, logged (m .reactor) (atpdInitPhaseReactor os),
      some (loggedCleanup (m .reactor) cleanupReactor), true⟩,
    ⟨.netlink, logged (m .netlink) (atpdInitPhaseNetlink os),
      some (loggedCleanup (m .netlink) cleanupNetlink), true⟩,
    ⟨.service, logged (m .service) (atpdInitPhaseService os),
      some (loggedCleanup (m .service) cleanupService), true⟩,
    ⟨.api, logged (m .api) (atpdInitPhaseApi os), some (loggedCleanup (m .api) cleanupApi), false⟩,
    ⟨.ready, logged (m .ready) (atpdInitPhaseReady os), none, true⟩]

/-- `atpd_init_run`, with `atpd_init_rollback`. -/
def atpdInitRun (os : InitOs) (c : InitContext) :
    Option (Phases.Progress InitPhase InitContext × Bool) :=
  Phases.run (initPhases os) c

/-! ## What a phase leaves -/

variable {os : InitOs} {c c' : InitContext} {done : InitPhase → Bool} {frame : List Nat} {p : InitPhase}

/-- What the reactor holds. -/
def InitContext.reactorRefs (c : InitContext) : List Nat := c.reactor.elim [] Reactor.refs

/-- What the components hold, in the order in which it is given back. -/
def InitContext.refs (c : InitContext) : List Nat :=
  c.api.refs ++ (serviceRefs c.service ++ (c.netlink.refs ++ c.reactorRefs))

/-- The descriptors that are registered with it. -/
def InitContext.fds (c : InitContext) : List Nat :=
  c.api.ownFds ++ (c.netlink.ownFds ++ c.reactor.elim [] Reactor.ownFds)

/-- The phases in `done` are completed: what they start is there, and nothing else is held than this,
`frame`, and the file of the log. -/
structure InitContext.Started (frame : List Nat) (done : InitPhase → Bool) (c : InitContext) : Prop where
  keeps : c.sys.Keeps (c.refs ++ frame) c.fds
  config : done .config = true → c.configLoaded = true
  reactor : c.reactor.isSome = done .reactor
  netlink : if done .netlink then c.netlink.Listening else c.netlink = .closed
  service : c.service.isSome = done .service
  api : if done .api then c.api.Running else c.api = .zero
  callback : c.vpnModeCallback = done .api
  client : ∀ x ∈ c.service, x.api = done .api
  netlinkAt : c.netlink.Attached c.reactorRefs
  serviceAt : ∀ x ∈ c.service, ∀ r ∈ x.reactor, r ∈ c.reactorRefs
  apiAt : c.api.Attached c.reactorRefs

namespace InitContext.Started

/-- Before the first phase. -/
lemma fresh {s : Sys} (loaded : Bool) (ke : s.Keeps frame []) :
    InitContext.Started frame (fun _ => false) ⟨s, loaded, none, .closed, none, .zero, false⟩ :=
  ⟨ke, nofun, rfl, rfl, rfl, rfl, rfl, nofun, .closed _, nofun, .ofZero _⟩

/-- Before its phase there is no reactor. -/
lemma reactor_none (st : c.Started frame done) (no : done .reactor = false) : c.reactor = none := by
  simpa [no] using st.reactor

/-- Before its phase no netlink socket is open. -/
lemma netlink_closed (st : c.Started frame done) (no : done .netlink = false) : c.netlink = .closed := by
  simpa [no] using st.netlink

lemma service_none (st : c.Started frame done) (no : done .service = false) : c.service = none := by
  simpa [no] using st.service

lemma api_zero (st : c.Started frame done) (no : done .api = false) : c.api = .zero := by
  simpa [no] using st.api

/-- The phases that start no component. -/
lemma congr (st : c.Started frame done) {done' : InitPhase → Bool}
    (same : ∀ p ∈ [InitPhase.reactor, .netlink, .service, .api], done' p = done p)
    (config : done' .config = true → c.configLoaded = true) : c.Started frame done' := by
  have reactor : done' .reactor = done .reactor := same _ (by simp)
  have netlink : done' .netlink = done .netlink := same _ (by simp)
  have service : done' .service = done .service := same _ (by simp)
  have api : done' .api = done .api := same _ (by simp)
  constructor
  case config => exact config
  case reactor => rw [reactor, st.reactor]
  case netlink => rw [netlink]; exact st.netlink
  case service => rw [service, st.service]
  case api => rw [api]; exact st.api
  case callback => rw [api, st.callback]
  case client => rw [api]; exact st.client
  all_goals first | exact st.keeps | exact st.netlinkAt | exact st.serviceAt | exact st.apiAt

lemma mark (st : c.Started frame done) {b : Bool} (mem : p = .logger ∨ p = .ready) :
    c.Started frame (Function.update done p b) := by
  refine st.congr (fun q hq => Function.update_of_ne ?_ b done) fun loaded => st.config ?_
  · rintro rfl
    rcases mem with rfl | rfl <;> simp at hq
  · rwa [Function.update_of_ne] at loaded
    rcases mem with rfl | rfl <;> decide

/-- What is held changes in the log only. -/
lemma setSys (st : c.Started frame done) {s : Sys} (ke : s.Keeps (c.refs ++ frame) c.fds) :
    { c with sys := s }.Started frame done :=
  ⟨ke, st.config, st.reactor, st.netlink, st.service, st.api, st.callback, st.client, st.netlinkAt,
    st.serviceAt, st.apiAt⟩

lemma write (st : c.Started frame done) (ws : List LogWrite) :
    ∃ c', c.write ws = some c' ∧ c'.Started frame done := by
  obtain ⟨s, eq, ke⟩ := st.keeps.logWrites ws
  exact ⟨_, by rw [InitContext.write, eq, Option.map_some], st.setSys ke⟩

lemma absent (st : c.Started frame done) (no : done p = false) :
    c.Started frame (Function.update done p false) := by
  rwa [← no, Function.update_eq_self]

/-- What is held when nothing of the later phases is there. -/
lemma keepsApi (st : c.Started frame done) :
    c.sys.Keeps (c.api.refs ++ (serviceRefs c.service ++ (c.netlink.refs ++ c.reactorRefs) ++ frame))
      (c.api.ownFds ++ (c.netlink.ownFds ++ c.reactor.elim [] Reactor.ownFds)) :=
  st.keeps.perm (.of_eq (List.append_assoc ..))

lemma keepsService (st : c.Started frame done) (api : done .api = false) :
    c.sys.Keeps (serviceRefs c.service ++ (c.netlink.refs ++ c.reactorRefs ++ frame))
      (c.netlink.ownFds ++ c.reactor.elim [] Reactor.ownFds) := by
  have ke := st.keepsApi
  rw [st.api_zero api] at ke
  exact ke.perm (.of_eq (List.append_assoc (serviceRefs c.service) ..))

lemma keepsNetlink (st : c.Started frame done) (service : done .service = false) (api : done .api = false) :
    c.sys.Keeps (c.netlink.refs ++ (c.reactorRefs ++ frame))
      (c.netlink.ownFds ++ c.reactor.elim [] Reactor.ownFds) := by
  have ke := st.keepsService api
  rw [st.service_none service] at ke
  exact ke.perm (.of_eq (List.append_assoc ..))

lemma keepsReactor (st : c.Started frame done) (netlink : done .netlink = false)
    (service : done .service = false)
    (api : done .api = false) : c.sys.Keeps (c.reactorRefs ++ frame) (c.reactor.elim [] Reactor.ownFds) := by
  have ke := st.keepsNetlink service api
  rw [st.netlink_closed netlink] at ke
  exact ke

/-- The component of one phase is started, or taken back, while nothing of the later phases is there. -/
lemma setReactor (st : c.Started frame done) (netlink : done .netlink = false) (service : done .service = false)
    (api : done .api = false) {s : Sys} (r : Option Reactor)
    (ke : s.Keeps (r.elim [] Reactor.refs ++ frame) (r.elim [] Reactor.ownFds)) :
    { c with sys := s, reactor := r }.Started frame (Function.update done .reactor r.isSome) := by
  obtain ⟨sys, loaded, reactor, n, sv, a, callback⟩ := c
  obtain rfl := st.netlink_closed netlink
  obtain rfl := st.service_none service
  obtain rfl := st.api_zero api
  exact ⟨ke, st.config, rfl, st.netlink, st.service, st.api, st.callback, st.client, .closed _, nofun,
    .ofZero _⟩

lemma setNetlink (st : c.Started frame done) (service : done .service = false) (api : done .api = false)
    {s : Sys} {n : Netlink} {b : Bool}
    (ke : s.Keeps (n.refs ++ (c.reactorRefs ++ frame)) (n.ownFds ++ c.reactor.elim [] Reactor.ownFds))
    (at' : n.Attached c.reactorRefs) (state : if b then n.Listening else n = .closed) :
    { c with sys := s, netlink := n }.Started frame (Function.update done .netlink b) := by
  obtain ⟨sys, loaded, reactor, old, sv, a, callback⟩ := c
  obtain rfl := st.service_none service
  obtain rfl := st.api_zero api
  have keeps := ke.perm (.of_eq (List.append_assoc ..).symm)
  exact ⟨keeps, st.config, st.reactor, state, st.service, st.api, st.callback, st.client, at', nofun, .ofZero _⟩

lemma setService (st : c.Started frame done) (api : done .api = false) {s : Sys} (sv : Option Service)
    (ke : s.Keeps (serviceRefs sv ++ (c.netlink.refs ++ c.reactorRefs ++ frame))
      (c.netlink.ownFds ++ c.reactor.elim [] Reactor.ownFds))
    (at' : ∀ x ∈ sv, ∀ r ∈ x.reactor, r ∈ c.reactorRefs) (client : ∀ x ∈ sv, x.api = false) :
    { c with sys := s, service := sv }.Started frame (Function.update done .service sv.isSome) := by
  obtain ⟨sys, loaded, reactor, n, old, a, callback⟩ := c
  obtain rfl := st.api_zero api
  have keeps := ke.perm (.of_eq (List.append_assoc ..).symm)
  exact ⟨keeps, st.config, st.reactor, st.netlink, rfl, st.api, st.callback,
    fun x hx => (client x hx).trans api.symm,
    st.netlinkAt, at', .ofZero _⟩

lemma setNoService (st : c.Started frame done) (api : done .api = false) {s : Sys}
    (ke : s.Keeps (c.netlink.refs ++ c.reactorRefs ++ frame)
      (c.netlink.ownFds ++ c.reactor.elim [] Reactor.ownFds)) :
    { c with sys := s, service := none }.Started frame (Function.update done .service false) := by
  have absent : ∀ x ∈ (none : Option Service), False := nofun
  exact st.setService api none ke (fun x hx => (absent x hx).elim) fun x hx => (absent x hx).elim

lemma setApi (st : c.Started frame done) {s : Sys} {a : Api} {b : Bool}
    (ke : s.Keeps (a.refs ++ (serviceRefs c.service ++ (c.netlink.refs ++ c.reactorRefs) ++ frame))
      (a.ownFds ++ (c.netlink.ownFds ++ c.reactor.elim [] Reactor.ownFds)))
    (at' : a.Attached c.reactorRefs) (state : if b then a.Running else a = .zero) :
    ({ c with
        sys := s
        api := a
        vpnModeCallback := b
        service := c.service.map fun service => { service with api := b } } : InitContext).Started frame
      (Function.update done .api b) := by
  obtain ⟨sys, loaded, reactor, n, sv, old, callback⟩ := c
  cases sv with
  | none =>
    have keeps := ke.perm (.of_eq (List.append_assoc ..).symm)
    exact ⟨keeps, st.config, st.reactor, st.netlink, st.service, state, rfl, nofun, st.netlinkAt, nofun, at'⟩
  | some sv =>
    have keeps := ke.perm (.of_eq (List.append_assoc ..).symm)
    refine ⟨keeps, st.config, st.reactor, st.netlink, st.service, state, rfl, ?_, st.netlinkAt, ?_, at'⟩
    · rintro x ⟨⟩
      rfl
    · rintro x ⟨⟩
      exact st.serviceAt sv rfl

end InitContext.Started

/-- A phase is completed, or nothing of it is there. -/
def Leaves (frame : List Nat) (done : InitPhase → Bool) (p : InitPhase)
    (r : Option (InitContext × Bool)) : Prop :=
  ∃ c ok, r = some (c, ok) ∧ c.Started frame (Function.update done p ok)

lemma atpdInitPhaseConfig_spec (st : c.Started frame done) (no : done .config = false) :
    Leaves frame done .config (atpdInitPhaseConfig os c) := by
  have marked : ∀ {c' : InitContext}, c' = { c with configLoaded := true } →
      c'.Started frame (Function.update done .config true) := by
    rintro c' rfl
    exact ⟨st.keeps, fun _ => rfl, st.reactor, st.netlink, st.service, st.api, st.callback, st.client,
      st.netlinkAt, st.serviceAt, st.apiAt⟩
  have failed := st.absent no
  rw [atpdInitPhaseConfig]
  split
  · rename_i loaded
    refine ⟨c, true, rfl, marked ?_⟩
    rw [← loaded]
  · split
    · exact ⟨c, false, rfl, failed⟩
    · split
      · split
        · exact ⟨_, true, rfl, marked rfl⟩
        · exact ⟨c, false, rfl, failed⟩
      · split
        · exact ⟨c, false, rfl, failed⟩
        · exact ⟨_, true, rfl, marked rfl⟩

/-- The file of the log is open then, or it is not. -/
lemma atpdInitPhaseLogger_spec (st : c.Started frame done) :
    Leaves frame done .logger (atpdInitPhaseLogger os c) := by
  obtain ⟨s1, eq1, ke1⟩ := st.keeps.logSetFile os.logger.app
  have st1 := st.setSys ke1
  simp only [atpdInitPhaseLogger, eq1, Option.bind_eq_bind, Option.bind_some]
  split
  · exact ⟨_, true, rfl, st1.mark (.inl rfl)⟩
  · split
    · exact ⟨_, false, rfl, st1.mark (.inl rfl)⟩
    · obtain ⟨s2, eq2, ke2⟩ := ke1.logSetFile os.logger.file
      rw [eq2]
      exact ⟨_, true, rfl, (st.setSys ke2).mark (.inl rfl)⟩

/-- The messages around a handler do not change what it leaves. -/
lemma logged_spec {m : Messages} {handler : InitContext → Option (InitContext × Bool)}
    (leaves : ∀ {c : InitContext}, c.Started frame done → Leaves frame done p (handler c))
    (st : c.Started frame done) : Leaves frame done p (logged m handler c) := by
  obtain ⟨c1, eq1, st1⟩ := st.write m.before
  obtain ⟨c2, ok, eq2, st2⟩ := leaves st1
  obtain ⟨c3, eq3, st3⟩ := st2.write m.after
  refine ⟨c3, ok, ?_, st3⟩
  simp only [logged, eq1, eq2, eq3, Option.bind_eq_bind, Option.bind_some]

/-- The reactor is created, or nothing is left of it. -/
lemma atpdInitPhaseReactor_spec (st : c.Started frame done) (no : done .reactor = false)
    (netlink : done .netlink = false) (service : done .service = false) (api : done .api = false) :
    Leaves frame done .reactor (atpdInitPhaseReactor os c) := by
  have nothing : c.sys.Keeps frame [] := by
    have ke := st.keepsReactor netlink service api
    rw [InitContext.reactorRefs, st.reactor_none no] at ke
    exact ke
  obtain ⟨s, r, eq, ke⟩ := reactorCreate_spec os.reactor nothing
  rw [atpdInitPhaseReactor, st.reactor_none no, if_neg (by simp), eq]
  exact ⟨_, r.isSome, rfl, st.setReactor netlink service api r ke⟩

/-- The sockets are opened, or closed again. -/
lemma atpdInitPhaseNetlink_spec (st : c.Started frame done) (no : done .netlink = false)
    (service : done .service = false) (api : done .api = false) :
    Leaves frame done .netlink (atpdInitPhaseNetlink os c) := by
  have closed := st.netlink_closed no
  obtain ⟨s1, n1, ok, eq1, ke1, fresh, state⟩ := netlinkInit_spec os.netlink (st.keepsReactor no service api)
  have at1 : ∀ live, n1.Attached live := fun live => by
    rw [fresh]
    exact ⟨nofun, nofun, rfl, nofun⟩
  have regs1 : n1.ownFds = [] := by
    rw [fresh]
    rfl
  -- what is left behind by `netlink_cleanup`
  have undo : ∀ {s : Sys} {n : Netlink}, n.Attached c.reactorRefs →
      s.Keeps (n.refs ++ (c.reactorRefs ++ frame)) (n.ownFds ++ c.reactor.elim [] Reactor.ownFds) →
      ∃ s', netlinkCleanup s n = some (s', .closed) ∧
        { c with sys := s', netlink := .closed }.Started frame (Function.update done .netlink false) := by
    intro s n at' ke
    obtain ⟨s', eq, ke'⟩ := netlinkCleanup_spec (at'.mono fun _ mem => List.mem_append_left frame mem) ke
    exact ⟨s', eq, st.setNetlink service api ke' (.closed _) rfl⟩
  simp only [atpdInitPhaseNetlink, closed, eq1, Option.bind_eq_bind, Option.bind_some]
  cases ok with
  | false =>
    cases state
    exact ⟨_, false, rfl, st.setNetlink service api ke1 (.closed _) rfl⟩
  | true =>
    obtain ⟨sync, async⟩ := state
    simp only [Bool.not_true, Bool.false_eq_true, ↓reduceIte]
    split
    · have ke : s1.Keeps (n1.refs ++ (c.reactorRefs ++ frame))
          (n1.ownFds ++ c.reactor.elim [] Reactor.ownFds) := by
        rw [regs1]
        exact ke1
      obtain ⟨s2, eq2, st2⟩ := undo (at1 _) ke
      simp only [eq2, Option.bind_some]
      exact ⟨_, false, rfl, st2⟩
    · rename_i r reactor
      have mem : r.object ∈ c.reactorRefs := by
        rw [InitContext.reactorRefs, reactor]
        exact r.object_mem
      obtain ⟨n2, s2, n3, ok, eq2, eq3, ke3, at3, state3⟩ := netlinkAttach_spec os.netlink
        (List.mem_append_left frame mem) sync async fresh ke1
      have at3 : n3.Attached c.reactorRefs := at3.mono fun x hx => List.mem_singleton.mp hx ▸ mem
      simp only [eq2, eq3, Option.bind_some]
      cases ok with
      | true =>
        have st4 : { c with sys := s2, netlink := n3 }.Started frame (Function.update done .netlink true) :=
          st.setNetlink service api ke3 at3 (state3 rfl)
        exact ⟨_, true, rfl, st4⟩
      | false =>
        obtain ⟨s4, eq4, st4⟩ := undo at3 ke3
        simp only [Bool.false_eq_true, ↓reduceIte, eq4, Option.bind_some]
        exact ⟨_, false, rfl, st4⟩

/-- The service is created and attached, or destroyed. -/
lemma atpdInitPhaseService_spec (st : c.Started frame done) (no : done .service = false)
    (api : done .api = false) : Leaves frame done .service (atpdInitPhaseService os c) := by
  have ke := st.keepsService api
  rw [st.service_none no] at ke
  have ke : c.sys.Keeps (c.netlink.refs ++ c.reactorRefs ++ frame)
      (c.netlink.ownFds ++ c.reactor.elim [] Reactor.ownFds) := ke
  rw [atpdInitPhaseService]
  rcases ke.acquire os.serviceAlloc with ⟨-, eq⟩ | ⟨s1, object, -, eq, ke1⟩
  · rw [eq]
    exact ⟨_, false, rfl, st.setNoService api ke⟩
  · rw [eq]
    have fail : ∀ sv : Service, sv.object = object → (∀ x ∈ sv.reactor, x ∈ c.reactorRefs) →
        Leaves frame done .service
          ((serviceDestroy s1 sv).map fun s => ({ c with sys := s, service := none }, false)) := by
      rintro sv rfl at'
      have at' : ∀ x ∈ sv.reactor, x ∈ c.netlink.refs ++ c.reactorRefs ++ frame := fun x hx =>
        List.mem_append_left _ (List.mem_append_right _ (at' x hx))
      obtain ⟨s2, eq2, ke2⟩ := serviceDestroy_spec at' ke1
      rw [eq2]
      exact ⟨_, false, rfl, st.setNoService api ke2⟩
    dsimp only
    split
    · exact fail ⟨object, none, false⟩ rfl nofun
    · split
      · exact fail ⟨object, none, false⟩ rfl nofun
      · rename_i r reactor
        have at' : ∀ x ∈ some r.object, x ∈ c.reactorRefs := by
          rintro x ⟨⟩
          rw [InitContext.reactorRefs, reactor]
          exact r.object_mem
        split
        · have started : { c with sys := s1, service := some ⟨object, some r.object, false⟩ }.Started frame
              (Function.update done .service true) := by
            refine st.setService api (some ⟨object, some r.object, false⟩) ke1 ?_ ?_
            · rintro x ⟨⟩
              exact at'
            · rintro x ⟨⟩
              rfl
          exact ⟨_, true, rfl, started⟩
        · exact fail ⟨object, some r.object, false⟩ rfl at'

/-- A failed API phase leaves what was before, as the supervisor had no client. -/
lemma InitContext.Started.setNoApi (st : c.Started frame done) (no : done .api = false) {s : Sys}
    (ke : s.Keeps (serviceRefs c.service ++ (c.netlink.refs ++ c.reactorRefs) ++ frame)
      (c.netlink.ownFds ++ c.reactor.elim [] Reactor.ownFds)) :
    { c with sys := s, api := .zero, vpnModeCallback := false }.Started frame
      (Function.update done .api false) := by
  obtain ⟨sys, loaded, reactor, n, sv, old, callback⟩ := c
  exact ⟨ke, st.config, st.reactor, st.netlink, st.service, rfl, rfl, fun x hx => (st.client x hx).trans no,
    st.netlinkAt, st.serviceAt, .ofZero _⟩

/-- The API is started, or cleaned up. -/
lemma atpdInitPhaseApi_spec (st : c.Started frame done) (no : done .api = false) :
    Leaves frame done .api (atpdInitPhaseApi os c) := by
  have ke := st.keepsApi
  rw [st.api_zero no] at ke
  have ke : c.sys.Keeps (serviceRefs c.service ++ (c.netlink.refs ++ c.reactorRefs) ++ frame)
      (c.netlink.ownFds ++ c.reactor.elim [] Reactor.ownFds) := ke
  obtain ⟨s1, a1, ok, eq1, ke1, fresh, state⟩ := apiInit_spec os.api ke
  have at1 : ∀ live, a1.Attached live := fun live => by
    refine ⟨?_, ?_, fun dead => ?_⟩
    · rw [fresh]
      nofun
    · rw [fresh]
      nofun
    · rw [fresh] at dead
      exact state dead
  have regs1 : a1.ownFds = [] := by
    rw [fresh]
    rfl
  have undo : ∀ {s : Sys} {a : Api}, a.Attached c.reactorRefs →
      s.Keeps (a.refs ++ (serviceRefs c.service ++ (c.netlink.refs ++ c.reactorRefs) ++ frame))
        (a.ownFds ++ (c.netlink.ownFds ++ c.reactor.elim [] Reactor.ownFds)) →
      ∃ s', apiCleanup s a = some (s', .zero) ∧
        { c with sys := s', api := .zero, vpnModeCallback := false }.Started frame
          (Function.update done .api false) := by
    intro s a at' ke
    obtain ⟨s', eq, ke'⟩ := apiCleanup_spec (at'.mono fun _ mem => List.mem_append_left frame
      (List.mem_append_right _ (List.mem_append_right _ mem))) ke
    exact ⟨s', eq, st.setNoApi no ke'⟩
  have ke0 : s1.Keeps (a1.refs ++ (serviceRefs c.service ++ (c.netlink.refs ++ c.reactorRefs) ++ frame))
      (a1.ownFds ++ (c.netlink.ownFds ++ c.reactor.elim [] Reactor.ownFds)) := by
    rw [regs1]
    exact ke1
  simp only [atpdInitPhaseApi, eq1, Option.bind_eq_bind, Option.bind_some]
  cases ok with
  | false =>
    -- `api_init` has failed, and is cleaned up as if it had not
    obtain ⟨s2, eq2, st2⟩ := undo (at1 _) ke0
    simp only [Bool.not_false, ↓reduceIte, eq2, Option.bind_some]
    have callback : c.vpnModeCallback = false := st.callback.trans no
    have same : { c with sys := s2, api := .zero } =
        { c with sys := s2, api := .zero, vpnModeCallback := false } := by rw [← callback]
    exact ⟨_, false, rfl, same ▸ st2⟩
  | true =>
    simp only [Bool.not_true, Bool.false_eq_true, ↓reduceIte]
    split
    · obtain ⟨s2, eq2, st2⟩ := undo (at1 _) ke0
      simp only [eq2, Option.bind_some]
      exact ⟨_, false, rfl, st2⟩
    · -- with a reactor the worker can be started
      rename_i r reactor
      have mem : r.object ∈ c.reactorRefs := by
        rw [InitContext.reactorRefs, reactor]
        exact r.object_mem
      obtain ⟨s2, a2, ok, eq2, ke2, at2, state2⟩ := apiStartWithReactor_spec os.api
        (List.mem_append_left frame (List.mem_append_right _ (List.mem_append_right _ mem))) fresh ke1
      have at2 : a2.Attached c.reactorRefs := at2.mono fun x hx => List.mem_singleton.mp hx ▸ mem
      simp only [eq2, Option.bind_some]
      cases ok with
      | true => exact ⟨_, true, rfl, st.setApi ke2 at2 (state2 rfl)⟩
      | false =>
        obtain ⟨s3, eq3, st3⟩ := undo at2 ke2
        simp only [Bool.false_eq_true, ↓reduceIte, eq3, Option.bind_some]
        exact ⟨_, false, rfl, st3⟩

/-! ## What a cleanup takes back -/

/-- Cleaning up the API gives back what its phase has started. -/
lemma cleanupApi_spec (st : c.Started frame done) :
    ∃ c', cleanupApi c = some c' ∧ c'.Started frame (Function.update done .api false) := by
  have at' : c.api.Attached (serviceRefs c.service ++ (c.netlink.refs ++ c.reactorRefs) ++ frame) :=
    st.apiAt.mono fun _ mem => List.mem_append_left _ (List.mem_append_right _ (List.mem_append_right _ mem))
  obtain ⟨s, eq, ke⟩ := apiCleanup_spec at' st.keepsApi
  rw [cleanupApi, eq]
  exact ⟨_, rfl, st.setApi ke (.ofZero _) rfl⟩

/-- So does destroying the service. -/
lemma cleanupService_spec (st : c.Started frame done) (api : done .api = false) :
    ∃ c', cleanupService c = some c' ∧ c'.Started frame (Function.update done .service false) := by
  have ke := st.keepsService api
  rw [cleanupService]
  split
  · rename_i absent
    have no : done .service = false := by rw [← st.service, absent, Option.isSome_none]
    exact ⟨c, rfl, st.absent no⟩
  · rename_i sv some
    rw [some] at ke
    have at' : ∀ x ∈ sv.reactor, x ∈ c.netlink.refs ++ c.reactorRefs ++ frame := fun x hx =>
      List.mem_append_left _ (List.mem_append_right _ (st.serviceAt sv some x hx))
    obtain ⟨s, eq, ke⟩ := serviceDestroy_spec at' ke
    rw [eq]
    exact ⟨_, rfl, st.setNoService api ke⟩

/-- So does closing the sockets. -/
lemma cleanupNetlink_spec (st : c.Started frame done) (service : done .service = false)
    (api : done .api = false) :
    ∃ c', cleanupNetlink c = some c' ∧ c'.Started frame (Function.update done .netlink false) := by
  obtain ⟨s, eq, ke⟩ := netlinkCleanup_spec (st.netlinkAt.mono fun _ mem => List.mem_append_left frame mem)
    (st.keepsNetlink service api)
  rw [cleanupNetlink, eq]
  exact ⟨_, rfl, st.setNetlink service api ke (.closed _) rfl⟩

/-- And destroying the reactor, once nothing is registered any more. -/
lemma cleanupReactor_spec (st : c.Started frame done) (netlink : done .netlink = false)
    (service : done .service = false) (api : done .api = false) :
    ∃ c', cleanupReactor c = some c' ∧ c'.Started frame (Function.update done .reactor false) := by
  have ke := st.keepsReactor netlink service api
  rw [cleanupReactor]
  split
  · rename_i absent
    have no : done .reactor = false := by rw [← st.reactor, absent, Option.isSome_none]
    exact ⟨c, rfl, st.absent no⟩
  · rename_i r some
    rw [InitContext.reactorRefs, some] at ke
    obtain ⟨s, eq, ke⟩ := reactorDestroy_spec ke
    rw [eq]
    exact ⟨_, rfl, st.setReactor netlink service api none ke⟩

/-- What is said of it goes to the log. -/
lemma loggedCleanup_spec {m : Messages} {cleanup : InitContext → Option InitContext}
    (taken : ∃ c', cleanup c = some c' ∧ c'.Started frame done) :
    ∃ c', loggedCleanup m cleanup c = some c' ∧ c'.Started frame done := by
  obtain ⟨c1, eq1, st1⟩ := taken
  obtain ⟨c2, eq2, st2⟩ := st1.write m.undone
  exact ⟨c2, by rw [loggedCleanup, eq1, Option.bind_some, eq2], st2⟩

/-! ## The run of the table -/

/-- A phase before which only the phases `earlier` are completed. -/
lemma absent_of_within {earlier : List InitPhase} (within : ∀ q, done q = true → q ∈ earlier)
    (no : p ∉ earlier) : done p = false :=
  Bool.eq_false_iff.mpr fun h => no (within p h)

/-- A phase that has not come yet is not completed. -/
lemma absent_of_earlier {q : InitPhase} {earlier : List InitPhase}
    (within : ∀ x, done x = true → x = q ∨ x ∈ earlier) (ne : p ≠ q) (no : p ∉ earlier) : done p = false :=
  Bool.eq_false_iff.mpr fun h => (within p h).elim ne no

/-- Each phase leaves what it should, and its cleanup takes it back. -/
theorem initPhases_lawful (os : InitOs) (frame : List Nat) :
    Phases.Lawful (InitContext.Started frame) (initPhases os) := by
  refine Phases.LawfulFrom.lawful ⟨?config, ?logger, ?reactor, ?netlink, ?service, ?api, ?ready, trivial⟩
  case config =>
    refine ⟨nofun, fun done c within st => ?_, fun _ done c st => ?_, nofun⟩
    · exact logged_spec (fun st => atpdInitPhaseConfig_spec st (absent_of_within within nofun)) st
    · refine st.congr (fun q hq => Function.update_of_ne ?_ false done) nofun
      rintro rfl
      simp at hq
  case logger =>
    refine ⟨by simp, fun done c within st => ?_, fun _ done c st => st.mark (.inl rfl), nofun⟩
    exact logged_spec atpdInitPhaseLogger_spec st
  case reactor =>
    refine ⟨by simp, fun done c within st => ?_, nofun, ?_⟩
    · exact logged_spec (fun st => atpdInitPhaseReactor_spec st (absent_of_within within (by simp))
        (absent_of_within within (by simp)) (absent_of_within within (by simp))
        (absent_of_within within (by simp))) st
    · rintro f ⟨⟩ done c within - st
      exact loggedCleanup_spec (cleanupReactor_spec st (absent_of_earlier within (by simp) (by simp))
        (absent_of_earlier within (by simp) (by simp)) (absent_of_earlier within (by simp) (by simp)))
  case netlink =>
    refine ⟨by simp, fun done c within st => ?_, nofun, ?_⟩
    · exact logged_spec (fun st => atpdInitPhaseNetlink_spec st (absent_of_within within (by simp))
        (absent_of_within within (by simp)) (absent_of_within within (by simp))) st
    · rintro f ⟨⟩ done c within - st
      exact loggedCleanup_spec (cleanupNetlink_spec st (absent_of_earlier within (by simp) (by simp))
        (absent_of_earlier within (by simp) (by simp)))
  case service =>
    refine ⟨by simp, fun done c within st => ?_, nofun, ?_⟩
    · exact logged_spec (fun st => atpdInitPhaseService_spec st (absent_of_within within (by simp))
        (absent_of_within within (by simp))) st
    · rintro f ⟨⟩ done c within - st
      exact loggedCleanup_spec (cleanupService_spec st (absent_of_earlier within (by simp) (by simp)))
  case api =>
    refine ⟨by simp, fun done c within st => ?_, nofun, ?_⟩
    · exact logged_spec (fun st => atpdInitPhaseApi_spec st (absent_of_within within (by simp))) st
    · rintro f ⟨⟩ done c - - st
      exact loggedCleanup_spec (cleanupApi_spec st)
  case ready =>
    refine ⟨by simp, fun done c within st => ?_, fun _ done c st => st.mark (.inr rfl), nofun⟩
    exact logged_spec (fun st => ⟨_, true, rfl, st.mark (.inr rfl)⟩) st

/-- The last phase cannot fail. -/
lemma ready_completes {m : Messages} {ok : Bool} (eq : logged m (atpdInitPhaseReady os) c = some (c', ok)) :
    ok = true := by
  obtain ⟨c1, -, eq⟩ := Option.bind_eq_some_iff.mp eq
  obtain ⟨c2, handled, eq⟩ := Option.bind_eq_some_iff.mp eq
  obtain ⟨c3, -, eq⟩ := Option.bind_eq_some_iff.mp eq
  cases handled
  cases eq
  rfl

/-- Of what is completed before a required phase fails, the reactor and the netlink sockets are cleaned up:
what fails behind the others is the supervisor, as the API client may fail, and the last phase cannot. -/
lemma initPhases_undone {before rest : List (Phases.Phase InitPhase InitContext)}
    {ph : Phases.Phase InitPhase InitContext} {degraded : InitPhase → Bool}
    (split : initPhases os = before ++ ph :: rest) (required : ph.required = true)
    (fails : ∃ c c', ph.handler c = some (c', false))
    (mandatory : ∀ q ∈ before, q.required = true → degraded q.id = false) :
    Phases.undone before (fun p => !degraded p) <+: [.reactor, .netlink] := by
  obtain ⟨c, c', fails⟩ := fails
  simp only [initPhases, List.cons_eq_append_iff, List.cons.injEq, List.nil_eq_append_iff, reduceCtorEq,
    and_false, exists_false, or_false] at split
  rcases split with ⟨rfl, rfl, -⟩ | ⟨_, rfl, ⟨rfl, rfl, -⟩ | ⟨_, rfl, ⟨rfl, rfl, -⟩ | ⟨_, rfl, ⟨rfl, rfl, -⟩ |
    ⟨_, rfl, ⟨rfl, rfl, -⟩ | ⟨_, rfl, ⟨rfl, rfl, -⟩ | ⟨_, rfl, rfl, rfl, -⟩⟩⟩⟩⟩⟩
  · simp [Phases.undone]
  · simp [Phases.undone]
  · simp [Phases.undone]
  · obtain ⟨-, -, reactor⟩ : degraded .config = false ∧ degraded .logger = false ∧
        degraded .reactor = false := by
      simpa using mandatory
    simp [Phases.undone, reactor]
  · obtain ⟨-, -, reactor, netlink⟩ : degraded .config = false ∧ degraded .logger = false ∧
        degraded .reactor = false ∧ degraded .netlink = false := by
      simpa using mandatory
    simp [Phases.undone, reactor, netlink]
  · cases required
  · cases ready_completes fails

/-- What the phases leave, whatever fails: all of them are completed, the one of the API client perhaps not,
or none is and nothing was given back twice. -/
lemma atpdInitRun_spec (os : InitOs) (st : c.Started frame fun _ => false) :
    ∃ g ok, atpdInitRun os c = some (g, ok) ∧ g.state.Started frame g.completed ∧
      (ok = true → (∀ p, p ≠ .api → g.completed p = true) ∧
        (∀ p, g.degraded p = true ↔ p = .api ∧ g.completed .api = false) ∧ g.cleaned = []) ∧
      (ok = false → (∀ p, g.completed p = false) ∧ g.state.sys.Keeps frame [] ∧
        g.cleaned <+: [.reactor, .netlink]) := by
  obtain ⟨g, ok, eq, st', all, failed⟩ := Phases.run_spec (initPhases_lawful os frame) st
  refine ⟨g, ok, eq, st', fun yes => ?_, fun no => ?_⟩
  · obtain ⟨se, cleaned⟩ := all yes
    have mandatory : ∀ p, p ≠ .api → g.completed p = true := by
      intro p other
      have mem : ∃ ph ∈ initPhases os, ph.id = p ∧ ph.required = true := by
        cases p <;> simp [initPhases] at other ⊢
      obtain ⟨ph, mem, rfl, required⟩ := mem
      exact se.required ph mem required
    have listed : ∀ p, p ∈ (initPhases os).map Phases.Phase.id := by
      intro p
      cases p <;> simp [initPhases]
    refine ⟨mandatory, fun p => ?_, cleaned⟩
    rw [se.degraded p]
    refine ⟨fun deg => ?_, fun deg => ⟨listed p, deg.1 ▸ deg.2⟩⟩
    have api : p = .api := by
      by_contra other
      rw [mandatory p other] at deg
      cases deg.2
    exact ⟨api, api ▸ deg.2⟩
  · obtain ⟨none, before, ph, rest, split, required, fails, mandatory, cleaned⟩ := failed no
    refine ⟨congrFun none, ?_, cleaned ▸ initPhases_undone split required fails mandatory⟩
    have ke := st'.keepsReactor (congrFun none _) (congrFun none _) (congrFun none _)
    rw [InitContext.reactorRefs, st'.reactor_none (congrFun none _)] at ke
    exact ke

/-- Before the first phase. -/
def InitContext.zero (custody : Custody) (loaded : Bool) : InitContext :=
  ⟨⟨custody, [], false, none⟩, loaded, none, .closed, none, .zero, false⟩

/-- The start of the components does not fault, whatever fails. If it succeeds, all phases are completed but
the API phase, which may have failed, and exactly what the completed phases start is held. If not, nothing
is left but what was held before and the file of the log, if it is open; and the reactor and the netlink
sockets were given back once. -/
theorem init_run (os : InitOs) (custody : Custody) (loaded : Bool) :
    ∃ g ok, atpdInitRun os (.zero custody loaded) = some (g, ok) ∧ g.state.Started custody.held g.completed ∧
      (ok = true → (∀ p, p ≠ .api → g.completed p = true) ∧
        (∀ p, g.degraded p = true ↔ p = .api ∧ g.completed .api = false) ∧ g.cleaned = []) ∧
      (ok = false → (∀ p, g.completed p = false) ∧
        g.state.sys.custody.Holds (g.state.sys.logFp.toList ++ custody.held) ∧ g.state.sys.handlers = [] ∧
        g.cleaned <+: [.reactor, .netlink]) := by
  have nothing : (⟨custody, [], false, none⟩ : Sys).Keeps custody.held [] :=
    ⟨.refl _, fun fd mem => absurd mem List.not_mem_nil⟩
  obtain ⟨g, ok, eq, st, all, failed⟩ := atpdInitRun_spec os (.fresh loaded nothing)
  refine ⟨g, ok, eq, st, all, fun no => ?_⟩
  obtain ⟨none, ke, cleaned⟩ := failed no
  exact ⟨none, ke.holds, ke.unregistered, cleaned⟩

end Atpd.Daemon.Lifetime
