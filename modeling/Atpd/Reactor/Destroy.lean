import Atpd.Reactor.Registry

/-!
# Destruction of the reactor

`reactor_destroy` goes through the table from the lowest descriptor on, calls the `free_cb` of each
handler and frees it. It does not take the descriptors out of the interest set, nor does it count: the
epoll descriptor is closed at the end. Its callbacks may call the reactor too, for other descriptors.

The loop is compared with the removal of one descriptor after the other. `Shadows` says that the state
of such a reactor has the same table and the same history, and an interest set that is no larger.
-/

namespace Atpd.Reactor

open Atpd.Lib

variable {κ : Type*} {io io' g g' : Io κ} {fd : Nat}

/-- `reactor_cleanup_internal` is at work on the handler `pos`. The frame at the bottom of the stack is
that of its callback. -/
structure Destroy (κ : Type*) where
  io : Io κ
  pos : Nat

/-- `reactor_destroy`, when nothing of the reactor is running. -/
def reactorDestroy (io : Io κ) : Option (Destroy κ) :=
  if io.stack = [] then some ⟨io, 0⟩ else none

/-- The handler is freed, and the loop goes on to the next one. -/
def Destroy.leave (d : Destroy κ) : Destroy κ where
  io := { d.io with handlers := Function.update d.io.handlers d.pos none, stack := [] }
  pos := d.pos + 1

/-- The loop has come to its end. -/
def Destroy.done (d : Destroy κ) : Prop := d.io.stack = [] ∧ d.pos = reactorMaxFd

instance (d : Destroy κ) : Decidable d.done := inferInstanceAs (Decidable (_ ∧ _))

/-- `next` is the next iteration of the loop; everything else is done by its callbacks. -/
def destroyStep (d : Destroy κ) : IoLabel κ → Option (Destroy κ)
  | .next =>
    if d.io.stack = [] ∧ d.pos < reactorMaxFd then
      match d.io.handlers d.pos with
      | none => some { d with pos := d.pos + 1 }
      | some h =>
        if h.freeCb.isSome then some { d with io := d.io.enterFree h .callback } else some d.leave
    else none
  | .ret =>
    match d.io.stack with
    | [_] => some d.leave
    | _ => d.io.ret.map fun io => { d with io := io }
  | .op o =>
    if d.io.stack = [] then none else (ioStep d.io (.op o)).map fun io => { d with io := io }
  | .close fd =>
    if d.io.stack = [] then none else (ioStep d.io (.close fd)).map fun io => { d with io := io }
  | .wait _ => none

/-- The same of the callers as before, with the descriptor that is being destroyed. -/
def OrderlyDestroy (d : Destroy κ) (l : IoLabel κ) : Prop :=
  match l with
  | .op (.add fd _ _ _ _ _) | .op (.modify fd _ _) | .op (.remove fd) => Orderly d.io l ∧ fd ≠ d.pos
  | .op (.watchSignal _ os) =>
    Orderly d.io l ∧ d.io.signalFd ≠ d.pos ∧ ∀ fd ∈ os.signalfd, fd ≠ d.pos
  | .close fd => Orderly d.io l ∨ fd = d.pos
  | .ret | .wait _ | .next => True

instance (d : Destroy κ) (l : IoLabel κ) [DecidableEq κ] : Decidable (OrderlyDestroy d l) :=
  match l with
  | .op (.add fd _ _ _ _ _) | .op (.modify fd _ _) | .op (.remove fd) =>
    inferInstanceAs (Decidable (Orderly d.io _ ∧ fd ≠ d.pos))
  | .op (.watchSignal _ os) => inferInstanceAs (Decidable (Orderly d.io _ ∧
      d.io.signalFd ≠ d.pos ∧ ∀ fd ∈ os.signalfd, fd ≠ d.pos))
  | .close fd => inferInstanceAs (Decidable (Orderly d.io _ ∨ fd = d.pos))
  | .ret | .wait _ | .next => inferInstanceAs (Decidable True)

/-- No `free_cb` comes in behind the loop. -/
def RegistersAhead (d : Destroy κ) : IoLabel κ → Prop
  | .op (.add fd _ _ freeCb _ _) => freeCb.isSome → (d.pos : Int) ≤ fd
  | _ => True

/-! ## Removal instead of destruction -/

/-- `g` has the table and the history of `io`, and functions of its own wait at the bottom of its
stack. -/
structure Shadows (io g : Io κ) (low low' : List (Frame κ)) : Prop where
  handlers : g.handlers = io.handlers
  interest : ∀ fd i, g.interest fd = some i → io.interest fd = some i
  signalFd : g.signalFd = io.signalFd
  nextReg : g.nextReg = io.nextReg
  made : g.made = io.made
  freed : g.freed = io.freed
  stack : ∃ top, io.stack = top ++ low ∧ g.stack = top ++ low'

namespace Shadows

variable {low low' : List (Frame κ)}

/-- An entry of the interest set is written in both. -/
lemma update_interest (sh : Shadows io g low low') (e : Option Interest) (n : Nat) (i : Interest)
    (hi : Function.update g.interest fd e n = some i) : Function.update io.interest fd e n = some i := by
  rw [Function.update_apply] at hi ⊢
  split
  · rename_i same
    rwa [if_pos same] at hi
  · rename_i ne
    rw [if_neg ne] at hi
    exact sh.interest n i hi

lemma install (sh : Shadows io g low low') (events : Nat) (cb : Option κ) :
    Shadows (io.install fd events cb) (g.install fd events cb) low low' where
  handlers := by rw [Io.install, Io.install, sh.handlers, sh.nextReg]
  interest := by
    rw [Io.install, Io.install, sh.nextReg]
    exact sh.update_interest _
  signalFd := sh.signalFd
  nextReg := congrArg (· + 1) sh.nextReg
  made := sh.made
  freed := sh.freed
  stack := sh.stack

lemma adopt (sh : Shadows io g low low') (freeCb : Option κ) :
    Shadows (io.adopt fd freeCb) (g.adopt fd freeCb) low low' := by
  cases freeCb with
  | none => exact sh
  | some f =>
    cases hh : io.handlers fd with
    | none =>
      simp only [Io.adopt, hh, sh.handlers]
      exact sh
    | some h =>
      simp only [Io.adopt, hh, sh.handlers]
      exact ⟨rfl, sh.interest, sh.signalFd, sh.nextReg, congrArg (_ :: ·) sh.made, sh.freed, sh.stack⟩

lemma count (sh : Shadows io g low low') (a b : Nat) :
    Shadows { io with activeHandlers := a } { g with activeHandlers := b } low low' :=
  ⟨sh.handlers, sh.interest, sh.signalFd, sh.nextReg, sh.made, sh.freed, sh.stack⟩

lemma enterFree (sh : Shadows io g low low') (h : Handler κ) (f : Frame κ) :
    Shadows (io.enterFree h f) (g.enterFree h f) low low' := by
  obtain ⟨top, st, st'⟩ := sh.stack
  refine ⟨sh.handlers, sh.interest, sh.signalFd, sh.nextReg, sh.made, congrArg (_ :: ·) sh.freed,
    f :: top, congrArg (f :: ·) st, congrArg (f :: ·) st'⟩

lemma close (sh : Shadows io g low low') (fd : Nat) : Shadows (io.close fd) (g.close fd) low low' :=
  ⟨sh.handlers, sh.update_interest _, sh.signalFd, sh.nextReg, sh.made, sh.freed, sh.stack⟩

lemma finishRemove (sh : Shadows io g low low') (close : Bool) :
    Shadows (io.finishRemove fd close) (g.finishRemove fd close) low low' where
  handlers := by rw [Io.finishRemove, Io.finishRemove, sh.handlers]
  interest := by
    cases close with
    | true => exact sh.update_interest _
    | false => exact sh.interest
  signalFd := sh.signalFd
  nextReg := sh.nextReg
  made := sh.made
  freed := sh.freed
  stack := sh.stack

/-- The other reactor can do what `epoll_ctl` allowed, and can fail where it failed. -/
lemma addFd (sh : Shadows io g low low') (co : Consistent g) (fd : Int)
    (idle : 0 ≤ fd → fd.toNat ∉ g.busy) (events : Nat) (cb freeCb : Option κ) (alloc ok : Bool) :
    ∃ ok', Shadows (reactorAddFd io fd events cb freeCb alloc ok).1
        (reactorAddFd g fd events cb freeCb alloc ok').1 low low' ∧
      (reactorAddFd g fd events cb freeCb alloc ok').2 =
        (reactorAddFd io fd events cb freeCb alloc ok).2 := by
  unfold reactorAddFd
  by_cases guard : 0 ≤ fd ∧ fd < reactorMaxFd ∧ alloc
  · simp only [if_pos guard]
    have keep : ¬g.removing fd.toNat := fun rm => idle guard.1 (mem_busy_of_removing rm)
    have sync := co.synced fd.toNat keep
    cases hh : io.handlers fd.toNat with
    | none =>
      have closed : g.interest fd.toNat = none := by
        rw [← sync, sh.handlers, hh]
        rfl
      refine ⟨io.canAdd fd.toNat ok, ?_⟩
      have can : g.canAdd fd.toNat (io.canAdd fd.toNat ok) = io.canAdd fd.toNat ok := by
        rw [Io.canAdd, closed]
        exact Bool.and_true _
      simp only [sh.handlers, hh, can]
      split
      · exact ⟨((sh.install events cb).count _ _).adopt freeCb, rfl⟩
      · exact ⟨sh, rfl⟩
    | some old =>
      have there : (g.interest fd.toNat).isSome := by
        rw [← sync, sh.handlers, hh]
        rfl
      refine ⟨io.canMod fd.toNat ok, ?_⟩
      have can : g.canMod fd.toNat (io.canMod fd.toNat ok) = io.canMod fd.toNat ok := by
        rw [Io.canMod, there]
        exact Bool.and_true _
      simp only [sh.handlers, hh, can]
      split
      · split
        · exact ⟨(sh.install events cb).enterFree old _, rfl⟩
        · exact ⟨(sh.install events cb).adopt freeCb, rfl⟩
      · exact ⟨sh, rfl⟩
  · simp only [if_neg guard]
    exact ⟨ok, sh, trivial⟩

/-- What is modified is in both tables. -/
lemma modifyFd (sh : Shadows io g low low') (co : Consistent g) (fd : Int)
    (idle : 0 ≤ fd → fd.toNat ∉ g.busy) (events : Nat) (ok : Bool) :
    Shadows (reactorModifyFd io fd events ok).1 (reactorModifyFd g fd events ok).1 low low' := by
  unfold reactorModifyFd
  by_cases guard : 0 ≤ fd ∧ fd < reactorMaxFd
  · simp only [if_pos guard]
    have sync := co.synced fd.toNat fun rm => idle guard.1 (mem_busy_of_removing rm)
    rw [sh.handlers] at sync
    cases hh : io.handlers fd.toNat with
    | none =>
      simp only [sh.handlers, hh]
      exact sh
    | some h =>
      have hg : g.interest fd.toNat = some ⟨h.events, h.reg⟩ := by
        rw [← sync, hh]
        rfl
      have hi := sh.interest fd.toNat _ hg
      simp only [sh.handlers, hh, hg, hi]
      split
      · exact ⟨rfl, sh.update_interest _, sh.signalFd, sh.nextReg, sh.made, sh.freed, sh.stack⟩
      · exact sh
  · simp only [if_neg guard]
    exact sh

/-- What is removed is out of both. -/
lemma removeFd (sh : Shadows io g low low') (fd : Int) (close : Bool) :
    Shadows (reactorRemoveFd io fd close).1 (reactorRemoveFd g fd close).1 low low' := by
  unfold reactorRemoveFd
  by_cases guard : 0 ≤ fd ∧ fd < reactorMaxFd
  · simp only [if_pos guard]
    cases hh : io.handlers fd.toNat with
    | none =>
      simp only [sh.handlers, hh]
      exact sh
    | some h =>
      have hg : g.handlers fd.toNat = some h := by rw [sh.handlers, hh]
      simp only [hg]
      split
      · exact (sh.close fd.toNat).enterFree h _
      · exact (sh.close fd.toNat).finishRemove close
  · simp only [if_neg guard]
    exact sh

/-- The signal descriptor is exchanged on both sides, or could not be. -/
lemma watchSignal (sh : Shadows io g low low') (co : Consistent g) (signo : Int) (os : WatchOs)
    (idle : ∀ fd ∈ os.signalfd, fd ∉ g.busy) :
    ∃ ok', Shadows (reactorWatchSignal io signo os).1
      (reactorWatchSignal g signo { os with ok := ok' }).1 low low' := by
  unfold reactorWatchSignal
  by_cases guard : 0 < signo ∧ os.valid
  · simp only [if_pos guard]
    cases hnew : os.signalfd with
    | none => exact ⟨os.ok, sh⟩
    | some newFd =>
      obtain ⟨ok', added, same⟩ := sh.addFd co newFd (fun _ => idle newFd hnew) reactorEventRead none
        none os.alloc os.ok
      refine ⟨ok', ?_⟩
      dsimp only
      generalize reactorAddFd io newFd reactorEventRead none none os.alloc os.ok = r at added same
      generalize reactorAddFd g newFd reactorEventRead none none os.alloc ok' = r' at added same
      obtain ⟨io1, b⟩ := r
      obtain ⟨g1, b'⟩ := r'
      have same : b' = b := same
      subst same
      cases b' with
      | false => exact added.close newFd
      | true =>
        have added : Shadows io1 g1 low low' := added
        dsimp only
        split
        · have watched : Shadows { io1 with signalFd := newFd, sigmask := signo :: io1.sigmask }
              { g1 with signalFd := newFd, sigmask := signo :: g1.sigmask } low low' :=
            ⟨added.handlers, added.interest, rfl, added.nextReg, added.made, added.freed, added.stack⟩
          have removed := watched.removeFd io1.signalFd true
          rw [added.signalFd]
          dsimp only
          exact removed
        · have removed := added.removeFd newFd true
          dsimp only
          exact removed
  · simp only [if_neg guard]
    exact ⟨os.ok, sh⟩

/-- Each operation has its shadow, by cases on it. -/
lemma perform (sh : Shadows io g low low') (co : Consistent g) (o : Op κ)
    (orderly : Orderly g (.op o)) (possible : o.possible io = true) :
    ∃ g', Consistent g' ∧ Shadows (perform io o).1 g' low low' := by
  cases o with
  | add fd events cb freeCb alloc ok =>
    obtain ⟨ok', added, -⟩ := sh.addFd co fd orderly events cb freeCb alloc ok
    exact ⟨_, co.addFd fd orderly events cb freeCb alloc ok', added⟩
  | modify fd events ok => exact ⟨_, co.modifyFd fd events ok, sh.modifyFd co fd orderly events ok⟩
  | remove fd => exact ⟨_, co.removeFd fd orderly false, sh.removeFd fd false⟩
  | watchSignal signo os =>
    obtain ⟨ok', watched⟩ := sh.watchSignal co signo os orderly.2
    refine ⟨_, co.watchSignal signo { os with ok := ok' } orderly ?_, watched⟩
    -- a descriptor that was not open is not in the smaller interest set either
    cases hnew : os.signalfd with
    | none => simp [Op.possible]
    | some newFd =>
      have closed : io.interest newFd = none := by simpa [Op.possible, hnew] using possible
      cases hg : g.interest newFd with
      | none => simp [Op.possible, hg]
      | some i =>
        have there := sh.interest newFd i hg
        rw [closed] at there
        cases there

/-- A callback above the bottom of the stack returns. -/
lemma ret (sh : Shadows io g low low') (co : Consistent g) (above : io.stack ≠ low)
    (st : io.ret = some io') : ∃ g', Consistent g' ∧ Shadows io' g' low low' := by
  obtain ⟨top, hs, hs'⟩ := sh.stack
  cases top with
  | nil => exact absurd hs above
  | cons f top =>
    have popped : Shadows { io with stack := top ++ low } { g with stack := top ++ low' } low low' :=
      ⟨sh.handlers, sh.interest, sh.signalFd, sh.nextReg, sh.made, sh.freed, top, rfl, rfl⟩
    rw [List.cons_append] at hs hs'
    cases f with
    | remove fd close =>
      simp only [Io.ret, hs] at st
      cases st
      exact ⟨_, co.ret (by simp only [Io.ret, hs']), popped.finishRemove close⟩
    | replace fd freeCb =>
      simp only [Io.ret, hs] at st
      cases st
      exact ⟨_, co.ret (by simp only [Io.ret, hs']), popped.adopt freeCb⟩
    | callback =>
      simp only [Io.ret, hs] at st
      cases st
      exact ⟨_, co.ret (by simp only [Io.ret, hs']), popped⟩

end Shadows

/-! ## Behind the loop -/

/-- No handler below `p` has a `free_cb`, nor will one get it from a call that waits. -/
structure Behind (io : Io κ) (p : Nat) : Prop where
  handlers : ∀ fd h, fd < p → io.handlers fd = some h → h.freeCb = none
  waiting : ∀ fd f, Frame.replace fd (some f) ∈ io.stack → p ≤ fd

namespace Behind

variable {p : Nat}

/-- One handler is written. -/
lemma update {h : Option (Handler κ)} (be : Behind io p)
    (handlers : io'.handlers = Function.update io.handlers fd h)
    (unowned : fd < p → ∀ h' ∈ h, h'.freeCb = none)
    (stack : ∀ n f, Frame.replace n (some f) ∈ io'.stack → p ≤ n) : Behind io' p := by
  refine ⟨fun n h' lt hn => ?_, stack⟩
  rw [handlers, Function.update_apply] at hn
  split at hn
  · rename_i same
    exact unowned (same ▸ lt) h' hn
  · exact be.handlers n h' lt hn

lemma install (be : Behind io p) (events : Nat) (cb : Option κ) : Behind (io.install fd events cb) p :=
  be.update rfl (by rintro - _ ⟨⟩; rfl) be.waiting

lemma adopt {freeCb : Option κ} (be : Behind io p) (ahead : freeCb.isSome → p ≤ fd) :
    Behind (io.adopt fd freeCb) p := by
  cases freeCb with
  | none => exact be
  | some f =>
    cases hh : io.handlers fd with
    | none =>
      simp only [Io.adopt, hh]
      exact be
    | some h =>
      simp only [Io.adopt, hh]
      exact be.update rfl (fun lt => absurd (ahead rfl) (Nat.not_le_of_lt lt)) be.waiting

lemma count (be : Behind io p) (a : Nat) : Behind { io with activeHandlers := a } p :=
  ⟨be.handlers, be.waiting⟩

lemma finishRemove (be : Behind io p) (close : Bool) : Behind (io.finishRemove fd close) p :=
  be.update rfl nofun be.waiting

lemma close (be : Behind io p) (fd : Nat) : Behind (io.close fd) p := ⟨be.handlers, be.waiting⟩

lemma enterFree {f : Frame κ} (be : Behind io p) (h : Handler κ)
    (ahead : ∀ fd g, f = .replace fd (some g) → p ≤ fd) : Behind (io.enterFree h f) p := by
  refine ⟨be.handlers, fun n g hn => ?_⟩
  rcases List.mem_cons.mp hn with eq | hn
  · exact ahead n g eq.symm
  · exact be.waiting n g hn

lemma addFd {freeCb : Option κ} (be : Behind io p) (fd : Int) (events : Nat) (cb : Option κ)
    (ahead : freeCb.isSome → (p : Int) ≤ fd) (alloc ok : Bool) :
    Behind (reactorAddFd io fd events cb freeCb alloc ok).1 p := by
  have ahead : freeCb.isSome → p ≤ fd.toNat := by
    intro owned
    have le := ahead owned
    omega
  rw [reactorAddFd]
  split
  · split
    · split
      · dsimp only
        split
        · refine (be.install events cb).enterFree _ ?_
          rintro _ g ⟨⟩
          exact ahead rfl
        · exact (be.install events cb).adopt ahead
      · exact be
    · split
      · exact ((be.install events cb).count _).adopt ahead
      · exact be
  · exact be

lemma modifyFd (be : Behind io p) (fd : Int) (events : Nat) (ok : Bool) :
    Behind (reactorModifyFd io fd events ok).1 p := by
  rw [reactorModifyFd]
  split
  · split
    · rename_i h i hh hi
      split
      · refine be.update rfl ?_ be.waiting
        rintro lt _ ⟨⟩
        exact be.handlers _ h lt hh
      · exact be
    · exact be
  · exact be

lemma removeFd (be : Behind io p) (fd : Int) (close : Bool) :
    Behind (reactorRemoveFd io fd close).1 p := by
  rw [reactorRemoveFd]
  split
  · split
    · exact be
    · dsimp only
      split
      · exact (be.close fd.toNat).enterFree _ (by simp)
      · exact (be.close fd.toNat).finishRemove close
  · exact be

lemma watchSignal (be : Behind io p) (signo : Int) (os : WatchOs) :
    Behind (reactorWatchSignal io signo os).1 p := by
  rw [reactorWatchSignal]
  split
  · split
    · exact be
    · rename_i newFd hnew
      have unowned : (none : Option κ).isSome → (p : Int) ≤ newFd := by simp
      have added := be.addFd newFd reactorEventRead none unowned os.alloc os.ok
      split
      · rename_i io1 heq
        rw [heq] at added
        exact added.close newFd
      · rename_i io1 heq
        rw [heq] at added
        split
        · have watched : Behind { io1 with signalFd := newFd, sigmask := signo :: io1.sigmask } p :=
            ⟨added.handlers, added.waiting⟩
          have removed := watched.removeFd io1.signalFd true
          dsimp only
          exact removed
        · have removed := added.removeFd newFd true
          dsimp only
          exact removed
  · exact be

lemma perform (be : Behind io p) (o : Op κ)
    (ahead : ∀ fd events cb freeCb alloc ok, o = .add fd events cb freeCb alloc ok →
      freeCb.isSome → (p : Int) ≤ fd) : Behind (perform io o).1 p := by
  cases o with
  | add fd events cb freeCb alloc ok =>
    exact be.addFd fd events cb (ahead fd events cb freeCb alloc ok rfl) alloc ok
  | modify fd events ok => exact be.modifyFd fd events ok
  | remove fd => exact be.removeFd fd false
  | watchSignal signo os => exact be.watchSignal signo os

lemma ret (be : Behind io p) (st : io.ret = some io') : Behind io' p := by
  rw [Io.ret] at st
  split at st
  · cases st
  · rename_i fd close stack hs
    cases st
    have popped : Behind { io with stack := stack } p :=
      ⟨be.handlers, fun n f hn => be.waiting n f (hs ▸ List.mem_cons_of_mem _ hn)⟩
    exact popped.finishRemove close
  · rename_i fd freeCb stack hs
    cases st
    have popped : Behind { io with stack := stack } p :=
      ⟨be.handlers, fun n f hn => be.waiting n f (hs ▸ List.mem_cons_of_mem _ hn)⟩
    refine popped.adopt fun owned => ?_
    obtain ⟨f, rfl⟩ := Option.isSome_iff_exists.mp owned
    exact be.waiting fd f (hs ▸ List.mem_cons_self)
  · rename_i stack hs
    cases st
    exact ⟨be.handlers, fun n f hn => be.waiting n f (hs ▸ List.mem_cons_of_mem _ hn)⟩

end Behind

/-! ## The loop -/

variable {d d' : Destroy κ}

/-- The invariant of `reactor_cleanup_internal`, between two handlers and inside a callback. -/
structure Ending (d : Destroy κ) : Prop where
  behind : Behind d.io d.pos
  shadow : ∃ g, Consistent g ∧ (d.io.stack = [] ∧ Shadows d.io g [] [] ∨
    Shadows d.io g [.callback] [.remove d.pos false])

/-- What is orderly for the reactor is so for its shadow. -/
lemma orderly_shadow {l : IoLabel κ} (sh : Shadows d.io g [.callback] [.remove d.pos false])
    (orderly : OrderlyDestroy d l) : Orderly g l := by
  obtain ⟨top, hs, hs'⟩ := sh.stack
  have busy : ∀ n, n ∉ d.io.busy → n ≠ d.pos → n ∉ g.busy := by
    intro n idle ne hn
    rw [Io.busy, hs', List.filterMap_append] at hn
    rw [Io.busy, hs, List.filterMap_append] at idle
    rcases List.mem_append.mp hn with hn | hn
    · exact idle (List.mem_append_left _ hn)
    · exact ne (List.mem_singleton.mp hn)
  have other : ∀ fd : Int, fd ≠ d.pos → 0 ≤ fd → fd.toNat ≠ d.pos := by
    intro fd ne le same
    exact ne (by rw [← same, Int.toNat_of_nonneg le])
  cases l with
  | op o =>
    cases o with
    | add fd => exact fun le => busy _ (orderly.1 le) (other fd orderly.2 le)
    | modify fd => exact fun le => busy _ (orderly.1 le) (other fd orderly.2 le)
    | remove fd => exact fun le => busy _ (orderly.1 le) (other fd orderly.2 le)
    | watchSignal signo os =>
      refine ⟨?_, fun fd hfd => busy fd (orderly.1.2 fd hfd) (orderly.2.2 fd hfd)⟩
      rw [sh.signalFd]
      exact busy _ orderly.1.1 orderly.2.1
  | close fd =>
    rcases orderly with (unset | ⟨c, hc⟩) | rfl
    · exact .inl (by rw [sh.handlers, unset])
    · rw [hs] at hc
      refine .inr ⟨c, ?_⟩
      rw [hs']
      rcases List.mem_append.mp hc with hc | hc
      · exact List.mem_append_left _ hc
      · simp at hc
    · exact .inr ⟨false, by rw [hs']; simp⟩
  | ret => trivial
  | wait events => trivial
  | next => trivial

namespace Ending

/-- Something runs in the callback of the handler `pos`. -/
lemma inside (en : Ending d) (ne : d.io.stack ≠ []) :
    ∃ g, Consistent g ∧ Shadows d.io g [.callback] [.remove d.pos false] := by
  obtain ⟨g, co, ⟨empty, -⟩ | sh⟩ := en.shadow
  · exact absurd empty ne
  · exact ⟨g, co, sh⟩

/-- The handler is freed after its callback, if it has one. -/
lemma leave_shadow (behind : Behind d.io d.pos) (sh : Shadows d.leave.io g [] []) (co : Consistent g) :
    Ending d.leave := by
  refine ⟨?_, g, co, .inl ⟨rfl, sh⟩⟩
  refine ⟨fun n h lt hn => ?_, nofun⟩
  have hn : Function.update d.io.handlers d.pos none n = some h := hn
  rw [Function.update_apply] at hn
  split at hn
  · cases hn
  · rename_i ne
    exact behind.handlers n h (Nat.lt_of_le_of_ne (Nat.le_of_lt_succ lt) ne) hn

/-- The loop comes to the next descriptor. -/
lemma next (en : Ending d) (st : destroyStep d .next = some d') : Ending d' := by
  rw [destroyStep] at st
  split at st
  · rename_i guard
    obtain ⟨empty, lt⟩ := guard
    obtain ⟨g, co, sh⟩ : ∃ g, Consistent g ∧ Shadows d.io g [] [] := by
      obtain ⟨g, co, ⟨-, sh⟩ | sh⟩ := en.shadow
      · exact ⟨g, co, sh⟩
      · obtain ⟨top, hs, -⟩ := sh.stack
        rw [empty] at hs
        simp at hs
    have stack : g.stack = [] := by
      obtain ⟨top, hs, hs'⟩ := sh.stack
      rw [empty] at hs
      rw [hs', ← hs]
    have idle : d.pos ∉ g.busy := by
      rw [Io.busy, stack]
      exact List.not_mem_nil
    have range : (0 : Int) ≤ d.pos ∧ (d.pos : Int) < reactorMaxFd :=
      ⟨Int.natCast_nonneg _, Int.ofNat_lt.mpr lt⟩
    have removed := co.removeFd d.pos (fun _ => idle) false
    split at st
    · rename_i unset
      cases st
      refine ⟨⟨fun n h lt hn => ?_, fun n f hn => ?_⟩, g, co, .inl ⟨empty, sh⟩⟩
      · rcases Nat.lt_or_eq_of_le (Nat.le_of_lt_succ lt) with lt | rfl
        · exact en.behind.handlers n h lt hn
        · cases unset.symm.trans hn
      · have hn : Frame.replace n (some f) ∈ d.io.stack := hn
        rw [empty] at hn
        cases hn
    · rename_i h hh
      have hg : g.handlers d.pos = some h := by rw [sh.handlers, hh]
      have smaller : ∀ n i, Function.update g.interest d.pos none n = some i →
          d.io.interest n = some i := by
        intro n i hi
        rw [Function.update_apply] at hi
        split at hi
        · cases hi
        · exact sh.interest n i hi
      simp only [reactorRemoveFd, if_pos range, Int.toNat_natCast, hg] at removed
      split at st
      · rename_i owned
        cases st
        rw [if_pos owned] at removed
        refine ⟨en.behind.enterFree h (by simp), _, removed, .inr ?_⟩
        exact ⟨sh.handlers, smaller, sh.signalFd, sh.nextReg, sh.made, congrArg (_ :: ·) sh.freed, [],
          congrArg (_ :: ·) empty, congrArg (_ :: ·) stack⟩
      · rename_i unowned
        cases st
        rw [if_neg unowned] at removed
        refine leave_shadow en.behind ?_ removed
        refine ⟨?_, smaller, sh.signalFd, sh.nextReg, sh.made, sh.freed, [], rfl, stack⟩
        show Function.update g.handlers d.pos none = Function.update d.io.handlers d.pos none
        rw [sh.handlers]
  · cases st

lemma ret (en : Ending d) (st : destroyStep d .ret = some d') : Ending d' := by
  rw [destroyStep] at st
  split at st
  · -- the callback of the handler `pos` itself
    rename_i f hs
    cases st
    obtain ⟨g, co, sh⟩ := en.inside (by rw [hs]; exact List.cons_ne_nil _ _)
    obtain ⟨top, hs1, hs'⟩ := sh.stack
    obtain rfl : top = [] := by
      have length := congrArg List.length (hs.symm.trans hs1)
      simpa using length
    have returned : g.ret = some ({ g with stack := [] }.finishRemove d.pos false) := by
      simp only [Io.ret, hs', List.nil_append]
    refine leave_shadow en.behind ?_ (co.ret returned)
    refine ⟨?_, sh.interest, sh.signalFd, sh.nextReg, sh.made, sh.freed, [], rfl, rfl⟩
    show Function.update g.handlers d.pos none = Function.update d.io.handlers d.pos none
    rw [sh.handlers]
  · rename_i several
    obtain ⟨io', back, rfl⟩ := Option.map_eq_some_iff.mp st
    have ne : d.io.stack ≠ [] := by
      intro empty
      simp [Io.ret, empty] at back
    obtain ⟨g, co, sh⟩ := en.inside ne
    obtain ⟨g', co', sh'⟩ := sh.ret co (several .callback) back
    exact ⟨en.behind.ret back, g', co', .inr sh'⟩

/-- By cases on the label. -/
lemma step {l : IoLabel κ} (en : Ending d) (orderly : OrderlyDestroy d l) (ahead : RegistersAhead d l)
    (st : destroyStep d l = some d') : Ending d' := by
  cases l with
  | next => exact en.next st
  | ret => exact en.ret st
  | op o =>
    rw [destroyStep] at st
    split at st
    · cases st
    · rename_i ne
      obtain ⟨io', st, rfl⟩ := Option.map_eq_some_iff.mp st
      rw [ioStep] at st
      split at st
      · rename_i guard
        cases st
        obtain ⟨g, co, sh⟩ := en.inside ne
        obtain ⟨g', co', sh'⟩ := sh.perform co o (orderly_shadow sh orderly) guard.2
        refine ⟨en.behind.perform o ?_, g', co', .inr sh'⟩
        rintro fd events cb freeCb alloc ok rfl
        exact ahead
      · cases st
  | close fd =>
    rw [destroyStep] at st
    split at st
    · cases st
    · rename_i ne
      obtain ⟨io', st, rfl⟩ := Option.map_eq_some_iff.mp st
      rw [ioStep] at st
      split at st
      · cases st
        obtain ⟨g, co, sh⟩ := en.inside ne
        have closed := co.close_self (orderly_shadow sh orderly)
        refine ⟨en.behind.close fd, g, co, .inr ?_⟩
        have sh' := sh.close fd
        rwa [closed] at sh'
      · cases st
  | wait events => cases st

/-- `reactor_destroy` begins. -/
lemma begun (co : Consistent io) (start : reactorDestroy io = some d) : Ending d := by
  rw [reactorDestroy] at start
  split at start
  · rename_i empty
    cases start
    refine ⟨⟨fun n h lt => absurd lt (Nat.not_lt_zero n), fun n f hn => ?_⟩, io, co, .inl ⟨empty, ?_⟩⟩
    · exact Nat.zero_le n
    · exact ⟨rfl, fun _ _ hi => hi, rfl, rfl, rfl, rfl, [], empty, empty⟩
  · cases start

/-- Nothing is freed twice. -/
lemma once (en : Ending d) : d.io.freed.Nodup := by
  obtain ⟨g, co, sh⟩ := en.shadow
  have freed : g.freed = d.io.freed := sh.elim (fun sh => sh.2.freed) Shadows.freed
  rw [← freed]
  exact co.once

/-- All handlers with a `free_cb` are gone. -/
lemma freed_iff (en : Ending d) (done : d.done) (reg : Nat) :
    reg ∈ d.io.freed ↔ reg ∈ d.io.made := by
  obtain ⟨g, co, ⟨-, sh⟩ | sh⟩ := en.shadow
  · rw [← sh.freed, ← sh.made, co.freed]
    refine ⟨And.left, fun made => ⟨made, fun n h hn hreg => ?_⟩⟩
    have lt : n < d.pos := by
      rw [done.2]
      exact lt_of_handler co hn
    have unowned := en.behind.handlers n h lt (sh.handlers ▸ hn)
    have owned := (co.made n h hn).mp (hreg ▸ made)
    rw [unowned] at owned
    cases owned
  · obtain ⟨top, hs, -⟩ := sh.stack
    rw [done.1] at hs
    simp at hs

end Ending

/-- In every run in which registered descriptors stay open and no callback calls the reactor for the
descriptor it is called for: the table, the interest set and the counter agree, and a `free_cb` has run
exactly for the registrations that have left the table, each once; a call that returns -1 changes
nothing; the signal descriptor stays registered unless `reactor_remove_fd` is called with it; and
`reactor_destroy` calls the `free_cb` of each registration that is left, once, unless its callbacks
register behind it. -/
theorem registrations_agree (signalFd eventFd : Nat) (alloc1 ok1 alloc2 ok2 : Bool) (io0 io : Io κ)
    (ls : List (IoLabel κ)) (create : ioCreate signalFd eventFd alloc1 ok1 alloc2 ok2 = some io0)
    (orderly : Along ioStep Orderly io0 ls) (reach : run ioStep io0 ls = some io) :
    Registered io ∧
      (∀ o : Op κ, Orderly io (.op o) → o.possible io = true → (perform io o).2 = false →
        Unchanged io (perform io o).1) ∧
      (Along ioStep KeepsSignal io0 ls → io.live io.signalFd) ∧
      (∀ d0 ds d, reactorDestroy io = some d0 → Along destroyStep OrderlyDestroy d0 ds →
        Along destroyStep RegistersAhead d0 ds → run destroyStep d0 ds = some d →
        d.io.freed.Nodup ∧ (d.done → ∀ reg, reg ∈ d.io.freed ↔ reg ∈ d.io.made)) := by
  have consistent : Consistent io :=
    run_preserves_along (fun _ _ _ co orderly st => co.step orderly st) (.created create) orderly reach
  refine ⟨consistent.registered, fun o => consistent.perform_failed o, fun keeps => ?_, ?_⟩
  · have both := run_preserves_along (I := fun io => Consistent io ∧ io.live io.signalFd)
      (fun _ _ _ inv meets st => ⟨inv.1.step meets.1 st, live_step inv.1 inv.2 meets.1 meets.2 st⟩)
      ⟨.created create, live_created create⟩ (orderly.and keeps) reach
    exact both.2
  · intro d0 ds d start orderly ahead rn
    have ending : Ending d :=
      run_preserves_along (fun _ _ _ en meets st => en.step meets.1 meets.2 st)
        (.begun consistent start) (orderly.and ahead) rn
    exact ⟨ending.once, ending.freed_iff⟩

/-- A handler with a `free_cb` is replaced by another one, a call from that `free_cb` fails, and the
signal descriptor is exchanged. -/
def replaceAndWatch : List (IoLabel Unit) :=
  [.op (.add 10 1 (some ()) (some ()) true true), .op (.add 10 3 (some ()) (some ()) true true),
    .op (.modify 11 1 true), .ret, .op (.watchSignal 17 ⟨true, some 6, true, true, true⟩)]

/-- One `free_cb` has run, and the other one is still to come. -/
theorem registrations_agree_replaceAndWatch : ∃ io0 io : Io Unit,
    ioCreate 4 5 true true true true = some io0 ∧ run ioStep io0 replaceAndWatch = some io ∧
      io.freed = [2] ∧ io.made = [3, 2] ∧ Registered io :=
  ⟨_, _, rfl, rfl, rfl, rfl, (registrations_agree 4 5 true true true true _ _ replaceAndWatch rfl
    (by decide) rfl).1⟩

/-- Somebody removes the signal descriptor. -/
def removeSignal : List (IoLabel Unit) :=
  [.op (.add 8 1 none (some ()) true true), .op (.remove 6)]

/-- The `free_cb` of descriptor 8 registers descriptor 3, which was free, while the reactor is destroyed. -/
def registerBehind : List (IoLabel Unit) :=
  List.replicate 9 .next ++ [.op (.add 3 1 none (some ()) true true), .ret] ++ List.replicate 1015 .next

/-- The signal descriptor is gone, and the `free_cb` of descriptor 3 is never called. -/
theorem removeSignal_unregistered : ∃ io0 io : Io Unit,
    ioCreate 6 7 true true true true = some io0 ∧ Along ioStep Orderly io0 removeSignal ∧
      run ioStep io0 removeSignal = some io ∧ ¬io.live io.signalFd ∧
      reactorDestroy io = some ⟨io, 0⟩ ∧ Along destroyStep OrderlyDestroy ⟨io, 0⟩ registerBehind ∧
      ∃ d ∈ run destroyStep ⟨io, 0⟩ registerBehind, d.done ∧ 3 ∈ d.io.made ∧ 3 ∉ d.io.freed :=
  ⟨_, _, rfl, by decide, rfl, by decide, rfl, by decide +kernel, by decide +kernel⟩

end Atpd.Reactor
