import Atpd.Reactor.Table

/-!
# Stale events

`reactor_run` looks up the handler of an event by the number of its descriptor, when the turn of the
event comes. Between `epoll_wait` and that moment the callbacks of earlier events may have removed the
registration and made another one for the same number, which then gets an event that was not for it.

The invariant is `Pending`: a handler that was in the table when `epoll_wait` returned (its number is
below `mark`) is the one that the event of its descriptor is for. Hence an event is stale exactly if
its handler was registered while the batch was processed.
-/

namespace Atpd.Reactor

open Atpd.Lib

variable {κ : Type*} {io io' io1 io2 : Io κ} {fd : Nat}

/-- Every callback so far was called for an event of its own registration. -/
def OwnEvents (io : Io κ) : Prop := ∀ p ∈ io.delivered, p.1 = p.2

/-- When the turn of an event comes, the registration of its descriptor, if there is one with a
callback, was not made while the batch was processed. -/
def NotRenewed (io : Io κ) : IoLabel κ → Prop
  | .next => io.stack = [] → ∀ e ∈ io.batch.head?, ∀ h ∈ io.target e, h.reg < io.mark
  | _ => True

instance (io : Io κ) (l : IoLabel κ) [DecidableEq κ] : Decidable (NotRenewed io l) :=
  match l with
  | .next => inferInstanceAs (Decidable (io.stack = [] → ∀ e ∈ io.batch.head?, ∀ h ∈ io.target e,
      h.reg < io.mark))
  | .op _ | .ret | .close _ | .wait _ => inferInstanceAs (Decidable True)

/-- The table and the interest set speak of the same registrations, all of them made before. -/
structure Synced (io : Io κ) : Prop where
  same : ∀ fd h i, io.handlers fd = some h → io.interest fd = some i → i.reg = h.reg
  handlers : ∀ fd h, io.handlers fd = some h → h.reg < io.nextReg
  interest : ∀ fd i, io.interest fd = some i → i.reg < io.nextReg

/-- From `io` to `io'` handlers come and go; a handler is an old one or has a new number. -/
structure Evolves (io io' : Io κ) : Prop where
  synced : Synced io → Synced io'
  handlers : ∀ fd h', io'.handlers fd = some h' →
    (∃ h, io.handlers fd = some h ∧ h.reg = h'.reg) ∨ io.nextReg ≤ h'.reg
  nextReg : io.nextReg ≤ io'.nextReg
  batch : io'.batch = io.batch
  mark : io'.mark = io.mark
  delivered : io'.delivered = io.delivered

namespace Evolves

lemma refl : Evolves io io :=
  ⟨id, fun _ h' hh => .inl ⟨h', hh, rfl⟩, Nat.le_refl _, rfl, rfl, rfl⟩

/-- One part of a call behind another. -/
lemma trans (h1 : Evolves io io1) (h2 : Evolves io1 io2) : Evolves io io2 where
  synced sy := h2.synced (h1.synced sy)
  handlers fd h' hh := by
    rcases h2.handlers fd h' hh with ⟨h, hh, same⟩ | new
    · rw [← same]
      exact h1.handlers fd h hh
    · exact .inr (Nat.le_trans h1.nextReg new)
  nextReg := Nat.le_trans h1.nextReg h2.nextReg
  batch := h2.batch.trans h1.batch
  mark := h2.mark.trans h1.mark
  delivered := h2.delivered.trans h1.delivered

/-- A handler is written into the table. -/
lemma install (events : Nat) (cb : Option κ) : Evolves io (io.install fd events cb) where
  synced sy := by
    refine ⟨fun n h i hh hi => ?_, fun n h hh => ?_, fun n i hi => ?_⟩
    · simp only [Io.install, Function.update_apply] at hh hi
      split at hh
      · rename_i same
        rw [if_pos same] at hi
        cases hh
        cases hi
        rfl
      · rename_i other
        rw [if_neg other] at hi
        exact sy.same n h i hh hi
    · simp only [Io.install, Function.update_apply] at hh
      split at hh
      · cases hh
        exact Nat.lt_succ_self _
      · exact Nat.lt_succ_of_lt (sy.handlers n h hh)
    · simp only [Io.install, Function.update_apply] at hi
      split at hi
      · cases hi
        exact Nat.lt_succ_self _
      · exact Nat.lt_succ_of_lt (sy.interest n i hi)
  handlers n h' hh := by
    simp only [Io.install, Function.update_apply] at hh
    split at hh
    · cases hh
      exact .inr (Nat.le_refl _)
    · exact .inl ⟨h', hh, rfl⟩
  nextReg := Nat.le_succ _
  batch := rfl
  mark := rfl
  delivered := rfl

/-- Nothing of the table or the interest set is set, but some of it may be dropped or get other
events. -/
lemma of_sub (handlers : ∀ fd h', io'.handlers fd = some h' →
      ∃ h, io.handlers fd = some h ∧ h.reg = h'.reg)
    (interest : ∀ fd i', io'.interest fd = some i' → ∃ i, io.interest fd = some i ∧ i.reg = i'.reg)
    (nextReg : io'.nextReg = io.nextReg) (batch : io'.batch = io.batch) (mark : io'.mark = io.mark)
    (delivered : io'.delivered = io.delivered) : Evolves io io' where
  synced sy := by
    refine ⟨fun fd h' i' hh hi => ?_, fun fd h' hh => ?_, fun fd i' hi => ?_⟩
    · obtain ⟨h, hh, sh⟩ := handlers fd h' hh
      obtain ⟨i, hi, si⟩ := interest fd i' hi
      rw [← sh, ← si]
      exact sy.same fd h i hh hi
    · obtain ⟨h, hh, sh⟩ := handlers fd h' hh
      rw [← sh, nextReg]
      exact sy.handlers fd h hh
    · obtain ⟨i, hi, si⟩ := interest fd i' hi
      rw [← si, nextReg]
      exact sy.interest fd i hi
  handlers fd h' hh := .inl (handlers fd h' hh)
  nextReg := Nat.le_of_eq nextReg.symm
  batch := batch
  mark := mark
  delivered := delivered

/-- It gets its `free_cb`. -/
lemma adopt (freeCb : Option κ) : Evolves io (io.adopt fd freeCb) := by
  cases freeCb with
  | none => exact refl
  | some f =>
    cases hh : io.handlers fd with
    | none =>
      simp only [Io.adopt, hh]
      exact refl
    | some h =>
      simp only [Io.adopt, hh]
      refine of_sub (fun n h' hn => ?_) (fun n i hn => ⟨i, hn, rfl⟩) rfl rfl rfl rfl
      simp only [Function.update_apply] at hn
      split at hn
      · rename_i same
        cases hn
        exact ⟨h, same ▸ hh, rfl⟩
      · exact ⟨h', hn, rfl⟩

/-- A descriptor that is closed leaves the interest set. -/
lemma close (fd : Nat) : Evolves io (io.close fd) := by
  refine of_sub (fun n h' hn => ⟨h', hn, rfl⟩) (fun n i hn => ?_) rfl rfl rfl rfl
  simp only [Io.close, Function.update_apply] at hn
  split at hn
  · cases hn
  · exact ⟨i, hn, rfl⟩

/-- A removal ends. -/
lemma finishRemove (close : Bool) : Evolves io (io.finishRemove fd close) := by
  refine of_sub (fun n h' hn => ?_) (fun n i hn => ?_) rfl rfl rfl rfl
  · simp only [Io.finishRemove, Function.update_apply] at hn
    split at hn
    · cases hn
    · exact ⟨h', hn, rfl⟩
  · simp only [Io.finishRemove] at hn
    split at hn
    · simp only [Function.update_apply] at hn
      split at hn
      · cases hn
      · exact ⟨i, hn, rfl⟩
    · exact ⟨i, hn, rfl⟩

/-- A `free_cb` is entered. -/
lemma enterFree (h : Handler κ) (frame : Frame κ) : Evolves io (io.enterFree h frame) :=
  of_sub (fun _ h' hn => ⟨h', hn, rfl⟩) (fun _ i hn => ⟨i, hn, rfl⟩) rfl rfl rfl rfl

/-- The other fields do not matter. -/
lemma of_eq (handlers : io'.handlers = io.handlers) (interest : io'.interest = io.interest)
    (nextReg : io'.nextReg = io.nextReg) (batch : io'.batch = io.batch) (mark : io'.mark = io.mark)
    (delivered : io'.delivered = io.delivered) : Evolves io io' :=
  of_sub (fun _ h' hn => ⟨h', handlers ▸ hn, rfl⟩) (fun _ i hn => ⟨i, interest ▸ hn, rfl⟩) nextReg
    batch mark delivered

/-- The number of handlers is not looked at. -/
lemma counted (count : Nat) : Evolves io { io with activeHandlers := count } :=
  of_eq rfl rfl rfl rfl rfl rfl

/-- Nor is the signal mask. -/
lemma watched (signalFd : Nat) (sigmask : List Int) :
    Evolves io { io with signalFd := signalFd, sigmask := sigmask } :=
  of_eq rfl rfl rfl rfl rfl rfl

/-! ## Calls -/

/-- `reactor_add_fd_ex`, by its branches. -/
lemma addFd (io : Io κ) (fd : Int) (events : Nat) (cb freeCb : Option κ) (alloc ok : Bool) :
    Evolves io (reactorAddFd io fd events cb freeCb alloc ok).1 := by
  have installed : Evolves io (io.install fd.toNat events cb) := install events cb
  rw [reactorAddFd]
  split
  · split
    · split
      · dsimp only
        split
        · exact installed.trans (enterFree _ _)
        · exact installed.trans (adopt _)
      · exact refl
    · split
      · dsimp only
        exact (installed.trans (counted _)).trans (adopt _)
      · exact refl
  · exact refl

/-- `reactor_modify_fd` renews nothing. -/
lemma modifyFd (io : Io κ) (fd : Int) (events : Nat) (ok : Bool) :
    Evolves io (reactorModifyFd io fd events ok).1 := by
  rw [reactorModifyFd]
  split
  · split
    · rename_i h i hh hi
      split
      · refine of_sub (fun n h' hn => ?_) (fun n i' hn => ?_) rfl rfl rfl rfl
        · simp only [Function.update_apply] at hn
          split at hn
          · rename_i same
            cases hn
            exact ⟨h, same ▸ hh, rfl⟩
          · exact ⟨h', hn, rfl⟩
        · simp only [Function.update_apply] at hn
          split at hn
          · rename_i same
            cases hn
            exact ⟨i, same ▸ hi, rfl⟩
          · exact ⟨i', hn, rfl⟩
      · exact refl
    · exact refl
  · exact refl

/-- `reactor_remove_fd` leaves the rest of the batch as it is. -/
lemma removeFd (io : Io κ) (fd : Int) (close : Bool) : Evolves io (reactorRemoveFd io fd close).1 := by
  have deleted : Evolves io { io with interest := Function.update io.interest fd.toNat none } :=
    Evolves.close fd.toNat
  rw [reactorRemoveFd]
  split
  · split
    · exact refl
    · dsimp only
      split
      · exact deleted.trans (enterFree _ _)
      · exact deleted.trans (finishRemove _)
  · exact refl

/-- `reactor_watch_signal` exchanges one descriptor. -/
lemma watchSignal (io : Io κ) (signo : Int) (os : WatchOs) :
    Evolves io (reactorWatchSignal io signo os).1 := by
  rw [reactorWatchSignal]
  split
  · split
    · exact refl
    · rename_i newFd _
      have added := addFd io newFd reactorEventRead none none os.alloc os.ok
      split
      · rename_i heq
        rw [heq] at added
        exact added.trans (Evolves.close newFd)
      · rename_i heq
        rw [heq] at added
        split
        · dsimp only
          exact (added.trans (watched _ _)).trans (removeFd _ _ _)
        · dsimp only
          exact added.trans (removeFd _ newFd true)
  · exact refl

/-- By cases on the operation. -/
lemma perform (io : Io κ) (o : Op κ) : Evolves io (perform io o).1 := by
  cases o with
  | add fd events cb freeCb alloc ok => exact addFd io fd events cb freeCb alloc ok
  | modify fd events ok => exact modifyFd io fd events ok
  | remove fd => exact removeFd io fd false
  | watchSignal signo os => exact watchSignal io signo os

/-- A callback returns. -/
lemma ret (st : io.ret = some io') : Evolves io io' := by
  have popped : ∀ stack, Evolves io { io with stack := stack } := fun _ =>
    of_eq rfl rfl rfl rfl rfl rfl
  rw [Io.ret] at st
  split at st
  · cases st
  · cases st
    exact (popped _).trans (finishRemove _)
  · cases st
    exact (popped _).trans (adopt _)
  · cases st
    exact popped _

end Evolves

/-! ## The batch -/

/-- An event of the batch is for the handler that its descriptor had when `epoll_wait` returned. -/
structure Pending (io : Io κ) : Prop where
  synced : Synced io
  own : ∀ e ∈ io.batch, ∀ h, io.handlers e.fd = some h → h.reg < io.mark → h.reg = e.reg
  before : ∀ e ∈ io.batch, e.reg < io.mark
  mark : io.mark ≤ io.nextReg
  delivered : OwnEvents io

/-- What is left of the batch stays what it was. -/
lemma Pending.evolves (pe : Pending io) (ev : Evolves io io') : Pending io' where
  synced := ev.synced pe.synced
  own e he h' hh lt := by
    rw [ev.batch] at he
    rw [ev.mark] at lt
    rcases ev.handlers e.fd h' hh with ⟨h, hh, same⟩ | new
    · rw [← same] at lt ⊢
      exact pe.own e he h hh lt
    · -- a handler that is new has a number from `mark` on
      exact absurd (Nat.lt_of_lt_of_le lt (Nat.le_trans pe.mark new)) (Nat.lt_irrefl _)
  before e he := by
    rw [ev.mark]
    exact pe.before e (ev.batch ▸ he)
  mark := by
    rw [ev.mark]
    exact Nat.le_trans pe.mark ev.nextReg
  delivered := by
    rw [OwnEvents, ev.delivered]
    exact pe.delivered

/-- The events of a batch are for the entries of the interest set. -/
lemma mem_ready {events : List (Nat × Nat)} {batch : List Ready}
    (ready : events.mapM io.ready = some batch) {e : Ready} (he : e ∈ batch) :
    ∃ i, io.interest e.fd = some i ∧ e.reg = i.reg := by
  induction events generalizing batch with
  | nil =>
    cases ready
    cases he
  | cons event events ih =>
    simp only [List.mapM_cons, Option.bind_eq_bind, Option.bind_eq_some_iff, Option.pure_def,
      Option.some.injEq] at ready
    obtain ⟨first, hfirst, rest, hrest, rfl⟩ := ready
    rcases List.mem_cons.mp he with rfl | he
    · obtain ⟨i, hi, rfl⟩ := Option.map_eq_some_iff.mp hfirst
      exact ⟨i, hi, rfl⟩
    · exact ih hrest he

/-- A new batch is of the handlers that are there. -/
lemma Pending.wait {events : List (Nat × Nat)} (pe : Pending io) (st : io.wait events = some io') :
    Pending io' := by
  rw [Io.wait] at st
  split at st
  · obtain ⟨batch, ready, rfl⟩ := Option.map_eq_some_iff.mp st
    refine ⟨⟨pe.synced.same, pe.synced.handlers, pe.synced.interest⟩, fun e he h hh _ => ?_,
      fun e he => ?_, Nat.le_refl _, pe.delivered⟩
    · obtain ⟨i, hi, reg⟩ := mem_ready ready he
      rw [reg]
      exact (pe.synced.same e.fd h i hh hi).symm
    · obtain ⟨i, hi, reg⟩ := mem_ready ready he
      rw [reg]
      exact pe.synced.interest e.fd i hi
  · cases st

/-- The batch without its first event. -/
lemma Pending.tail {e : Ready} {batch : List Ready} (pe : Pending io) (hb : io.batch = e :: batch) :
    Pending { io with batch := batch } :=
  ⟨⟨pe.synced.same, pe.synced.handlers, pe.synced.interest⟩,
    fun e' he => pe.own e' (by rw [hb]; exact List.mem_cons_of_mem _ he),
    fun e' he => pe.before e' (by rw [hb]; exact List.mem_cons_of_mem _ he), pe.mark, pe.delivered⟩

/-- An event goes to the handler of its descriptor. -/
lemma target_some {e : Ready} {h : Handler κ} (ht : io.target e = some h) :
    io.handlers e.fd = some h := by
  rw [Io.target] at ht
  split at ht
  · cases ht
  · exact (Option.filter_eq_some_iff.mp ht).1

/-- The next event is taken, if its handler was not renewed. -/
lemma Pending.next (pe : Pending io) (fresh : NotRenewed io .next) (st : io.next = some io') :
    Pending io' := by
  rw [Io.next] at st
  split at st
  · rename_i e batch hs hb
    have rest := pe.tail hb
    dsimp only at st
    split at st
    · cases st
      exact ⟨⟨rest.synced.same, rest.synced.handlers, rest.synced.interest⟩, rest.own, rest.before,
        rest.mark, rest.delivered⟩
    · split at st
      · rename_i h ht
        cases st
        have ht : io.target e = some h := ht
        refine ⟨⟨rest.synced.same, rest.synced.handlers, rest.synced.interest⟩, rest.own, rest.before,
          rest.mark, fun p hp => ?_⟩
        rcases List.mem_cons.mp hp with rfl | hp
        · have lt := fresh hs e (by rw [hb]; rfl) h ht
          exact pe.own e (by rw [hb]; exact List.mem_cons_self) h (target_some ht) lt
        · exact pe.delivered p hp
      · cases st
        exact rest
  · cases st

/-- By cases on the label. -/
lemma Pending.step {l : IoLabel κ} (pe : Pending io) (fresh : NotRenewed io l)
    (st : ioStep io l = some io') : Pending io' := by
  cases l with
  | op o =>
    rw [ioStep] at st
    split at st
    · cases st
      exact pe.evolves (.perform io o)
    · cases st
  | ret => exact pe.evolves (.ret st)
  | close fd =>
    rw [ioStep] at st
    split at st
    · cases st
      exact pe.evolves (.close fd)
    · cases st
  | wait events => exact pe.wait st
  | next => exact pe.next fresh st

/-- A callback that is called for an event of its own was in the table before the batch. -/
lemma Pending.notRenewed (pe : Pending io)
    (own : ∀ io', io.next = some io' → OwnEvents io') : NotRenewed io .next := by
  intro hs e he h ht
  obtain ⟨batch, hb⟩ : ∃ batch, io.batch = e :: batch := by
    cases hb : io.batch with
    | nil => rw [hb] at he; cases he
    | cons e' batch =>
      rw [hb] at he
      cases he
      exact ⟨batch, rfl⟩
  have other : e.fd ≠ io.signalFd := by
    intro same
    simp [Io.target, same] at ht
  have found : ∀ stack, ({ io with stack := stack, batch := batch } : Io κ).target e = some h :=
    fun _ => ht
  have next : io.next = some { io with
      stack := [.callback], batch := batch, delivered := (h.reg, e.reg) :: io.delivered } := by
    simp only [Io.next, hs, hb, other, ↓reduceIte, found []]
  have called := own _ next
  have reg : h.reg = e.reg := called (h.reg, e.reg) List.mem_cons_self
  rw [reg]
  exact pe.before e (by rw [hb]; exact List.mem_cons_self)

/-- Before the first batch there is nothing left. -/
lemma ioCreate_pending {signalFd eventFd : Nat} {alloc1 ok1 alloc2 ok2 : Bool}
    (create : ioCreate signalFd eventFd alloc1 ok1 alloc2 ok2 = some io) : Pending io := by
  obtain ⟨io1, first, second⟩ := ioCreate_eq create
  have ev1 := Evolves.addFd (Io.empty signalFd eventFd) signalFd reactorEventRead (none : Option κ)
    none alloc1 ok1
  have ev2 := Evolves.addFd io1 eventFd reactorEventRead none none alloc2 ok2
  rw [first] at ev1
  rw [second] at ev2
  refine Pending.evolves ?_ (ev1.trans ev2)
  exact ⟨⟨nofun, nofun, nofun⟩, nofun, nofun, Nat.le_refl _, nofun⟩

/-- In every run of the reactor: every callback is called for events of its own registration exactly
if no event comes up whose descriptor was registered while the batch was processed. -/
theorem ownEvents_iff_notRenewed (signalFd eventFd : Nat) (alloc1 ok1 alloc2 ok2 : Bool)
    (io : Io κ) (ls : List (IoLabel κ))
    (create : ioCreate signalFd eventFd alloc1 ok1 alloc2 ok2 = some io) :
    Along ioStep NotRenewed io ls ↔
      Along ioStep (fun io l => ∀ io', ioStep io l = some io' → OwnEvents io') io ls := by
  refine along_congr (fun io l io' pe fresh st => Pending.step pe fresh st) (fun io l pe => ?_)
    (ioCreate_pending create)
  constructor
  · exact fun fresh io' st => (pe.step fresh st).delivered
  · intro own
    cases l with
    | next => exact pe.notRenewed own
    | _ => trivial

/-- Two clients are ready in one batch. The callback of the first closes the second, and accepts a new
client that gets its number. -/
def reuseInBatch : List (IoLabel Unit) :=
  [.op (.add 10 1 (some ()) none true true), .op (.add 11 1 (some ()) none true true),
    .wait [(10, 1), (11, 1)], .next, .op (.remove 11), .close 11,
    .op (.add 11 1 (some ()) none true true), .ret, .next]

/-- The new client gets the event of the old one. -/
theorem reuseInBatch_stale : ∃ io io' : Io Unit,
    ioCreate 4 5 true true true true = some io ∧ run ioStep io reuseInBatch = some io' ∧
      io'.delivered = [(4, 3), (2, 2)] ∧ ¬OwnEvents io' :=
  ⟨_, _, rfl, rfl, rfl, fun own => absurd (own (4, 3) List.mem_cons_self) (by decide)⟩

/-- The callback of the first only removes the second, and the new client comes in the next batch. -/
def removeInBatch : List (IoLabel Unit) :=
  [.op (.add 10 1 (some ()) none true true), .op (.add 11 1 (some ()) none true true),
    .wait [(10, 1), (11, 1)], .next, .op (.remove 11), .close 11, .ret, .next,
    .op (.add 11 1 (some ()) none true true), .wait [(11, 1)], .next]

/-- A handler is removed within a batch, and its event is dropped. -/
theorem ownEvents_iff_notRenewed_removeInBatch : ∃ io : Io Unit,
    ioCreate 4 5 true true true true = some io ∧
      Along ioStep (fun io l => ∀ io', ioStep io l = some io' → OwnEvents io') io removeInBatch :=
  ⟨_, rfl, (ownEvents_iff_notRenewed 4 5 true true true true _ removeInBatch rfl).mp (by
    decide)⟩

end Atpd.Reactor
