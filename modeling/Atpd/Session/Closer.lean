import Mathlib.Algebra.GroupWithZero.Nat
import Mathlib.Algebra.BigOperators.Group.List.Basic
import Atpd.Session.Threads

/-!
# One closer

Whoever exchanges the state of a session for CLOSING has the closing actions to do, and nobody else
ever gets to them. The invariant `Secure` of a session says who that is and what is left of them. Its
first part is the ledger of the references: it keeps a thread from working on a session that is
destroyed, whose state could otherwise go back to DESTROY_PENDING.
-/

namespace Atpd.Session.Threads

open Atpd.Lib

variable {p p' : Pool} {s i : Nat} {x x' : AtpdSession} {code code' : Code}

/-- The references that a thread holds, its own one among them. -/
def Code.weight : Code → Nat
  | .gone => 0
  | .put k => k.weight + 1
  | .idle | .setLoad _ | .setLoop _ _ | .closeGet => 1
  | .drainFlag | .drainPipes | .drainPending | .drainLoad => 1
  | .closeLoad | .closeCas _ | .registryRemove | .removeIn | .removeOut | .gcFlag | .gcGet => 2
  | .gcLoad | .gcLoop _ | .gcUndo | .gcAppend => 3

/-- The references of the registry and of the reactor. -/
def AtpdSession.base (x : AtpdSession) : Nat :=
  x.registryRegistered.toNat + x.handlerIn.toNat + x.handlerOut.toNat

/-- The references of one thread to the session. -/
def weightOn (s : Nat) (t : Nat × Code) : Nat := if t.1 = s then t.2.weight else 0

/-- The closing actions, in their order. -/
def closingActions (reactor : Bool) : List Action :=
  if reactor then [.registryRemove, .removeIn, .removeOut, .gcEnqueue]
  else [.registryRemove, .gcEnqueue]

/-- The closing actions that a thread has still to take. -/
def Code.pending (reactor : Bool) : Code → List Action
  | .put k => k.pending reactor
  | .registryRemove => closingActions reactor
  | .removeIn => [.removeIn, .removeOut, .gcEnqueue]
  | .removeOut => [.removeOut, .gcEnqueue]
  | .gcFlag | .gcGet | .gcLoad | .gcLoop _ | .gcAppend => [.gcEnqueue]
  | _ => []

/-- The exchange of `gc_enqueued` is still to come. -/
def Code.flagAhead : Code → Bool
  | .put k => k.flagAhead
  | .registryRemove | .removeIn | .removeOut | .gcFlag => true
  | _ => false

/-- `session_set_state` runs for one of the states below CLOSING, which is also what the exchange of
`atpd_session_mark_closing` expects; and DESTROY_PENDING is never refused. -/
def Code.Sane : Code → Prop
  | .put k => k.Sane
  | .setLoad desired | .setLoop desired _ => desired.isClosing = false
  | .closeCas state => state.isClosing = false
  | .gcUndo => False
  | _ => True

/-- The invariant of a session. -/
structure Secure (p : Pool) (s : Nat) : Prop where
  sane : ∀ t ∈ p.threads, t.1 = s → t.2.Sane
  ledger : (p.sess s).refCount =
    (p.threads.map (weightOn s)).sum + (p.sess s).base + p.gc.count s
  alive : (p.sess s).state = .destroyed → (p.sess s).refCount = 0
  queue : p.gc.count s ≤ ((p.sess s).done.map Prod.snd).count .gcEnqueue
  opened : (p.sess s).state.isClosing = false →
    (p.sess s).done = [] ∧ (p.sess s).gcEnqueued = false ∧ (p.sess s).registryRegistered = true ∧
      p.gc.count s = 0 ∧ ∀ t ∈ p.threads, t.1 = s → t.2.pending (p.sess s).reactor = []
  closed : (p.sess s).state.isClosing = true → ∃ c code, p.threads[c]? = some (s, code) ∧
    (∀ a ∈ (p.sess s).done, a.1 = c) ∧
    (p.sess s).done.map Prod.snd ++ code.pending (p.sess s).reactor =
      closingActions (p.sess s).reactor ∧
    (∀ j code', j ≠ c → p.threads[j]? = some (s, code') → code'.pending (p.sess s).reactor = []) ∧
    (code.flagAhead = true → (p.sess s).gcEnqueued = false)

/-- What a step of the thread `i` does to the closing of its session; `queued` says how often it puts it
on the queue. -/
inductive Progress (i : Nat) (x : AtpdSession) (code : Code) (x' : AtpdSession) (code' : Code)
    (queued : Nat) : Prop where
  /-- It takes some of its closing actions, or none. -/
  | advance (actions : List Action) (closing : x'.state.isClosing = x.state.isClosing)
      (pending : code.pending x.reactor = actions ++ code'.pending x.reactor)
      (done : x'.done = x.done ++ actions.map (i, ·))
      (flag : code'.flagAhead = true → code.flagAhead = true ∧ x'.gcEnqueued = x.gcEnqueued)
      (queue : queued = actions.count .gcEnqueue)
      (bystander : code.pending x.reactor = [] → x'.gcEnqueued = x.gcEnqueued ∧
        x'.registryRegistered = x.registryRegistered)
  /-- It wins the exchange. -/
  | win (unset : x.state.isClosing = false) (set : x'.state.isClosing = true)
      (pending : code'.pending x.reactor = closingActions x.reactor) (done : x'.done = x.done)
      (flag : x'.gcEnqueued = x.gcEnqueued) (queue : queued = 0)

/-! ## Lists of threads -/

/-- A sum in which one summand changes. -/
lemma sum_set {α : Type*} (f : α → Nat) {l : List α} {i : Nat} {a : α} (h : l[i]? = some a) (b : α) :
    ((l.set i b).map f).sum + f a = (l.map f).sum + f b := by
  induction l generalizing i with
  | nil => cases h
  | cons c l ih =>
    cases i with
    | zero =>
      cases h
      simp only [List.set_cons_zero, List.map_cons, List.sum_cons]
      omega
    | succ i =>
      have rest := ih (i := i) h
      simp only [List.set_cons_succ, List.map_cons, List.sum_cons]
      omega

namespace Secure

/-- Nothing of another session is touched. -/
lemma frame (inv : Secure p s) (sess : p'.sess s = p.sess s)
    (threads : ∀ (j : Nat) (code : Code), p'.threads[j]? = some (s, code) ↔ p.threads[j]? = some (s, code))
    (sum : (p'.threads.map (weightOn s)).sum = (p.threads.map (weightOn s)).sum)
    (gc : p'.gc.count s = p.gc.count s) : Secure p' s := by
  have mem : ∀ t ∈ p'.threads, t.1 = s → t ∈ p.threads := by
    rintro ⟨_, code⟩ ht rfl
    obtain ⟨j, hj⟩ := List.mem_iff_getElem?.mp ht
    exact List.mem_of_getElem? ((threads j code).mp hj)
  refine ⟨fun t ht eq => inv.sane t (mem t ht eq) eq, ?_, ?_, ?_, ?_, ?_⟩
  · rw [sess, sum, gc]
    exact inv.ledger
  · rw [sess]
    exact inv.alive
  · rw [sess, gc]
    exact inv.queue
  · rw [sess, gc]
    intro unset
    obtain ⟨done, flag, registered, queue, pending⟩ := inv.opened unset
    exact ⟨done, flag, registered, queue, fun t ht eq => pending t (mem t ht eq) eq⟩
  · rw [sess]
    intro set
    obtain ⟨c, code, hc, author, done, others, flag⟩ := inv.closed set
    exact ⟨c, code, (threads c code).mpr hc, author, done,
      fun j code' ne hj => others j code' ne ((threads j code').mp hj), flag⟩

/-- The thread `i` moves. -/
lemma move {queued : Nat} (inv : Secure p s) (ht : p.threads[i]? = some (s, code))
    (sess : p'.sess s = x') (threads : p'.threads = p.threads.set i (s, code'))
    (gc : p'.gc.count s = p.gc.count s + queued) (sane : code'.Sane)
    (reactor : x'.reactor = (p.sess s).reactor)
    (ledger : x'.refCount + code.weight + (p.sess s).base =
      (p.sess s).refCount + code'.weight + x'.base + queued)
    (alive : x'.state = .destroyed → x'.refCount = 0)
    (progress : Progress i (p.sess s) code x' code' queued) : Secure p' s := by
  have lt : i < p.threads.length := (List.getElem?_eq_some_iff.mp ht).1
  have here : p'.threads[i]? = some (s, code') := by
    rw [threads, List.getElem?_set_self lt]
  have there : ∀ j, j ≠ i → p'.threads[j]? = p.threads[j]? := by
    intro j ne
    rw [threads, List.getElem?_set_ne ne.symm]
  have mem : ∀ t ∈ p'.threads, t = (s, code') ∨ t ∈ p.threads := by
    intro t ht
    rw [threads] at ht
    exact (List.mem_or_eq_of_mem_set ht).symm
  refine ⟨?_, ?_, ?_, ?_, ?_, ?_⟩
  · intro t ht eq
    rcases mem t ht with rfl | ht
    · exact sane
    · exact inv.sane t ht eq
  · -- one thread changes its weight, the others keep theirs
    have sum := sum_set (weightOn s) ht (s, code')
    have old : weightOn s (s, code) = code.weight := if_pos rfl
    have new : weightOn s (s, code') = code'.weight := if_pos rfl
    have before := inv.ledger
    rw [sess, threads, gc]
    omega
  · rw [sess]
    exact alive
  · rw [sess, gc]
    cases progress with
    | advance actions closing pending done flag queue bystander =>
      have before := inv.queue
      have taken : (actions.map (i, ·)).map Prod.snd = actions := by simp [Function.comp_def]
      rw [done, List.map_append, taken, List.count_append, queue]
      exact Nat.add_le_add_right before _
    | win unset set pending done flag queue =>
      rw [done, queue]
      exact inv.queue
  · rw [sess, reactor, gc]
    intro unset
    cases progress with
    | advance actions closing pending done flag queue bystander =>
      -- nobody closes yet, so this thread had nothing of the closing to do
      obtain ⟨none, fresh, registered, empty, idle⟩ := inv.opened (closing ▸ unset)
      have mine := idle _ (List.mem_of_getElem? ht) rfl
      obtain ⟨flag, reg⟩ := bystander mine
      rw [mine] at pending
      obtain ⟨rfl, rest⟩ := List.append_eq_nil_iff.mp pending.symm
      refine ⟨by rw [done, none]; rfl, flag.trans fresh, reg.trans registered, ?_, ?_⟩
      · rw [queue, empty]
        rfl
      intro t ht eq
      rcases mem t ht with rfl | ht
      · exact rest
      · exact idle t ht eq
    | win _ set => exact absurd (set.symm.trans unset) (by decide)
  · rw [sess, reactor]
    intro set
    cases progress with
    | advance actions closing pending done flag _ bystander =>
      -- the closer is known: is it this thread?
      obtain ⟨c, code1, hc, author, complete, others, fresh⟩ := inv.closed (closing ▸ set)
      by_cases mine : i = c
      · -- the closer goes on
        subst mine
        obtain rfl : code1 = code := by
          rw [ht] at hc
          cases hc
          rfl
        refine ⟨i, code', here, ?_, ?_, ?_, ?_⟩
        · intro a ha
          rw [done] at ha
          rcases List.mem_append.mp ha with ha | ha
          · exact author a ha
          · obtain ⟨b, -, rfl⟩ := List.mem_map.mp ha
            rfl
        · rw [done, ← complete, pending, List.map_append, List.map_map, List.append_assoc]
          simp [Function.comp_def]
        · intro j code2 ne hj
          exact others j code2 ne (there j ne ▸ hj)
        · intro ahead
          obtain ⟨ahead, same⟩ := flag ahead
          exact same.trans (fresh ahead)
      · -- somebody else
        have idle := others i code mine ht
        rw [idle] at pending
        obtain ⟨rfl, rest⟩ := List.append_eq_nil_iff.mp pending.symm
        have same : x'.done = (p.sess s).done := by simpa using done
        refine ⟨c, code1, (there c (Ne.symm mine)).trans hc, same ▸ author, same ▸ complete, ?_, ?_⟩
        · intro j code2 ne hj
          by_cases eq : j = i
          · subst eq
            rw [here] at hj
            cases hj
            exact rest
          · exact others j code2 ne (there j eq ▸ hj)
        · intro ahead
          exact (bystander idle).1.trans (fresh ahead)
    | win unset set pending done flag _ =>
      -- this thread has won: it is the closer from now on
      obtain ⟨none, fresh, -, -, idle⟩ := inv.opened unset
      refine ⟨i, code', here, ?_, ?_, ?_, fun _ => flag.trans fresh⟩
      · rw [done, none]
        exact nofun
      · rw [done, none, pending]
        rfl
      · intro j code2 ne hj
        exact idle _ (List.mem_of_getElem? (there j ne ▸ hj)) rfl

end Secure

/-! ## One step -/

/-- What a thread knows of its session. -/
structure Local (x : AtpdSession) (code : Code) : Prop where
  sane : code.Sane
  held : code.weight + x.base ≤ x.refCount
  alive : x.state = .destroyed → x.refCount = 0
  registered : x.state.isClosing = false → x.registryRegistered = true
  closing : code.pending x.reactor ≠ [] → x.state.isClosing = true
  flag : code.flagAhead = true → x.gcEnqueued = false

/-- What is to be shown of its next step. -/
structure Moves (i : Nat) (x : AtpdSession) (code : Code) (x' : AtpdSession) (code' : Code)
    (queued : Bool) : Prop where
  sane : code'.Sane
  reactor : x'.reactor = x.reactor
  ledger : x'.refCount + code.weight + x.base =
    x.refCount + code'.weight + x'.base + queued.toNat
  alive : x'.state = .destroyed → x'.refCount = 0
  progress : Progress i x code x' code' queued.toNat
  rank : x.state.isClosing = true → rank x.state ≤ rank x'.state

/-- Whoever has the flag ahead of it has something to do. -/
lemma pending_of_flagAhead {reactor : Bool} (ahead : code.flagAhead = true) :
    code.pending reactor ≠ [] := by
  induction code with
  | put k ih => exact ih ahead
  | registryRemove => cases reactor <;> exact List.cons_ne_nil _ _
  | removeIn => exact List.cons_ne_nil _ _
  | removeOut => exact List.cons_ne_nil _ _
  | gcFlag => exact List.cons_ne_nil _ _
  | _ => cases ahead

namespace Local

/-- A thread with a reference finds the session alive. -/
lemma refCount_ne (lo : Local x code) (weight : code.weight ≠ 0) : x.refCount ≠ 0 := by
  have held := lo.held
  omega

/-- And not destroyed. -/
lemma not_destroyed (lo : Local x code) (weight : code.weight ≠ 0) : x.state ≠ .destroyed :=
  fun eq => lo.refCount_ne weight (lo.alive eq)

/-- Fields that have to do with neither references nor closing are set, if any. -/
lemma stay (lo : Local x code) (weight : code'.weight = code.weight) (nonzero : code.weight ≠ 0)
    (sane : code'.Sane) (pending : code'.pending x.reactor = code.pending x.reactor)
    (ahead : code'.flagAhead = true → code.flagAhead = true) (state : x'.state = x.state)
    (refs : x'.refCount = x.refCount) (base : x'.base = x.base) (reactor : x'.reactor = x.reactor)
    (done : x'.done = x.done) (flag : x'.gcEnqueued = x.gcEnqueued)
    (registered : x'.registryRegistered = x.registryRegistered) : Moves i x code x' code' false where
  sane := sane
  reactor := reactor
  ledger := by
    rw [weight, refs, base]
    rfl
  alive eq := absurd (state ▸ eq) (lo.not_destroyed nonzero)
  progress := by
    refine .advance [] (by rw [state]) pending.symm ?_ (fun h => ⟨ahead h, flag⟩) rfl
      fun _ => ⟨flag, registered⟩
    rw [done, List.map_nil, List.append_nil]
  rank _ := Nat.le_of_eq (by rw [state])

/-- The last put destroys, and no other does anything. -/
lemma put {k : Code} (lo : Local x (.put k)) : Moves i x (.put k) (atpdSessionPut x) k false := by
  have held : k.weight + 1 + x.base ≤ x.refCount := lo.held
  rw [atpdSessionPut, if_neg (by omega)]
  split
  · -- the last reference: the registry has none, so the session is closing
    rename_i last
    have unlinked : x.registryRegistered = false := by
      have base : x.base = 0 := by omega
      rw [AtpdSession.base] at base
      cases h : x.registryRegistered with
      | false => rfl
      | true =>
        rw [h, Bool.toNat_true] at base
        omega
    have closing : x.state.isClosing = true := by
      cases h : x.state.isClosing with
      | true => rfl
      | false => exact absurd (unlinked.symm.trans (lo.registered h)) (by decide)
    rw [destroyInternal]
    split
    · refine ⟨lo.sane, rfl, ?_, fun _ => rfl, ?_, fun _ => Nat.le_refl _⟩
      · show 0 + (k.weight + 1) + x.base = x.refCount + k.weight + x.base + 0
        omega
      · exact .advance [] rfl rfl (List.append_nil _).symm (fun h => ⟨h, rfl⟩) rfl fun _ => ⟨rfl, rfl⟩
    · refine ⟨lo.sane, rfl, ?_, fun _ => rfl, ?_, fun _ => ?_⟩
      · show 0 + (k.weight + 1) + x.base = x.refCount + k.weight + x.base + 0
        omega
      · exact .advance [] closing.symm rfl (List.append_nil _).symm (fun h => ⟨h, rfl⟩) rfl
          fun _ => ⟨rfl, rfl⟩
      · show rank x.state ≤ 6
        cases x.state <;> decide
  · refine ⟨lo.sane, rfl, ?_, fun eq => ?_, ?_, fun _ => Nat.le_refl _⟩
    · show x.refCount - 1 + (k.weight + 1) + x.base = x.refCount + k.weight + x.base + 0
      omega
    · exact absurd eq (lo.not_destroyed (Nat.succ_ne_zero _))
    · exact .advance [] rfl rfl (List.append_nil _).symm (fun h => ⟨h, rfl⟩) rfl fun _ => ⟨rfl, rfl⟩

/-- A reference more is one of this thread. -/
lemma get (lo : Local x code) (weight : code'.weight = code.weight + 1) (nonzero : code.weight ≠ 0)
    (sane : code'.Sane) (pending : code'.pending x.reactor = code.pending x.reactor)
    (ahead : code'.flagAhead = true → code.flagAhead = true) :
    Moves i x code (atpdSessionGet x) code' false := by
  rw [atpdSessionGet, if_neg (lo.refCount_ne nonzero)]
  refine ⟨sane, rfl, ?_, fun eq => absurd eq (lo.not_destroyed nonzero), ?_, fun _ => Nat.le_refl _⟩
  · rw [weight]
    show x.refCount + 1 + code.weight + x.base = x.refCount + (code.weight + 1) + x.base + 0
    omega
  · exact .advance [] rfl pending.symm (List.append_nil _).symm (fun h => ⟨ahead h, rfl⟩) rfl
      fun _ => ⟨rfl, rfl⟩

/-- A closing action is taken; if it takes a reference from its owner, that is put next. -/
lemma act {a : Action} (lo : Local x code) (nonzero : code.weight ≠ 0) (sane : code'.Sane)
    (pending : code.pending x.reactor = a :: code'.pending x.reactor)
    (ahead : code'.flagAhead = true → code.flagAhead = true) {queued : Bool}
    (state : x'.state = x.state) (refs : x'.refCount = x.refCount)
    (owned : code.weight + x.base = code'.weight + x'.base + queued.toNat)
    (reactor : x'.reactor = x.reactor) (done : x'.done = x.done ++ [(i, a)])
    (flag : x'.gcEnqueued = x.gcEnqueued) (queue : queued.toNat = [a].count .gcEnqueue) :
    Moves i x code x' code' queued where
  sane := sane
  reactor := reactor
  ledger := by
    rw [refs]
    omega
  alive eq := absurd (state ▸ eq) (lo.not_destroyed nonzero)
  progress := by
    refine .advance [a] (by rw [state]) pending done (fun h => ⟨ahead h, flag⟩) queue fun none => ?_
    rw [pending] at none
    cases none
  rank _ := Nat.le_of_eq (by rw [state])

/-- `session_set_state`, called by the datapath. -/
lemma setLoop {desired current : SessionState} {spurious : Bool}
    (lo : Local x (.setLoop desired current)) {queued : Bool}
    (st : exec x i spurious (.setLoop desired current) = some (x', code', queued)) :
    Moves i x (.setLoop desired current) x' code' queued := by
  have sane : desired.isClosing = false := lo.sane
  simp only [exec, Threads.setLoop, sane] at st
  split at st
  · rename_i eq
    split at eq
    · cases eq
      cases st
      exact lo.stay rfl Nat.one_ne_zero trivial rfl nofun rfl rfl rfl rfl rfl rfl rfl
    · rename_i refused
      split at eq
      · -- the exchange succeeds: the expected value was below CLOSING
        rename_i same
        cases eq
        cases st
        have unset : x.state.isClosing = false := by simpa [same.1] using refused
        refine ⟨trivial, rfl, rfl, fun eq => ?_, ?_, fun set => ?_⟩
        · have eq : desired = .destroyed := eq
          rw [eq] at sane
          cases sane
        · exact .advance [] (sane.trans unset.symm) rfl (List.append_nil _).symm nofun rfl
            fun _ => ⟨rfl, rfl⟩
        · exact absurd (set.symm.trans unset) (by decide)
      · cases eq
  · rename_i eq
    split at eq
    · cases eq
    · split at eq
      · cases eq
      · cases eq
        cases st
        exact lo.stay rfl Nat.one_ne_zero sane rfl nofun rfl rfl rfl rfl rfl rfl rfl

/-- `session_set_state`, called by `atpd_session_gc_enqueue`. -/
lemma gcLoop {current : SessionState} {spurious : Bool} (lo : Local x (.gcLoop current))
    {queued : Bool} (st : exec x i spurious (.gcLoop current) = some (x', code', queued)) :
    Moves i x (.gcLoop current) x' code' queued := by
  have closing : x.state.isClosing = true := lo.closing (List.cons_ne_nil _ _)
  have accepted : (current.isClosing && !SessionState.destroyPending.isClosing) = false :=
    Bool.and_false _
  simp only [exec, Threads.setLoop, accepted, Bool.false_eq_true, if_false] at st
  by_cases same : x.state = current ∧ !spurious
  · simp only [if_pos same] at st
    cases st
    refine ⟨trivial, rfl, rfl, nofun, ?_, fun _ => ?_⟩
    · exact .advance [] closing.symm rfl (List.append_nil _).symm nofun rfl fun none => by cases none
    · show rank x.state ≤ 5
      have alive := lo.not_destroyed (Nat.succ_ne_zero _)
      cases h : x.state <;> first | decide | exact absurd h alive
  · simp only [if_neg same] at st
    cases st
    exact lo.stay rfl (Nat.succ_ne_zero _) trivial rfl nofun rfl rfl rfl rfl rfl rfl rfl

/-- The exchange of `atpd_session_mark_closing`. -/
lemma closeCas {state : SessionState} {spurious : Bool} (lo : Local x (.closeCas state))
    {queued : Bool} (st : exec x i spurious (.closeCas state) = some (x', code', queued)) :
    Moves i x (.closeCas state) x' code' queued := by
  rw [exec] at st
  split at st
  · rename_i same
    cases st
    have unset : x.state.isClosing = false := by
      rw [same.1]
      exact lo.sane
    refine ⟨trivial, rfl, rfl, nofun, .win unset rfl rfl rfl rfl rfl, fun set => ?_⟩
    exact absurd (set.symm.trans unset) (by decide)
  · cases st
    exact lo.stay rfl (Nat.succ_ne_zero _) trivial rfl nofun rfl rfl rfl rfl rfl rfl rfl

/-- The closing thread takes the session out of the registry, once. -/
lemma registryRemove {spurious : Bool} (lo : Local x .registryRemove) {queued : Bool}
    (st : exec x i spurious .registryRemove = some (x', code', queued)) :
    Moves i x .registryRemove x' code' queued := by
  rw [exec] at st
  cases st
  refine lo.act (Nat.succ_ne_zero _) ?_ ?_ (fun _ => rfl) rfl rfl ?_ rfl rfl rfl rfl
  · cases x.registryRegistered <;> cases x.reactor <;> trivial
  · cases x.registryRegistered <;> cases x.reactor <;> rfl
  · simp only [AtpdSession.base, AtpdSession.log]
    cases x.registryRegistered <;> cases x.reactor <;> simp [Code.weight] <;> omega

/-- A handler is taken from the reactor. -/
lemma detach {spurious : Bool} (lo : Local x code) (which : code = .removeIn ∨ code = .removeOut)
    {queued : Bool} (st : exec x i spurious code = some (x', code', queued)) :
    Moves i x code x' code' queued := by
  rcases which with rfl | rfl
  · rw [exec] at st
    cases st
    refine lo.act (Nat.succ_ne_zero _) ?_ ?_ (fun _ => rfl) rfl rfl ?_ rfl rfl rfl rfl
    · cases x.handlerIn <;> trivial
    · cases x.handlerIn <;> rfl
    · show 2 + x.base = _ + (x.registryRegistered.toNat + 0 + x.handlerOut.toNat) + 0
      rw [AtpdSession.base]
      cases x.handlerIn with
      | true => simp only [Bool.toNat_true, Code.weight, if_true]; omega
      | false => rfl
  · rw [exec] at st
    cases st
    refine lo.act (Nat.succ_ne_zero _) ?_ ?_ (fun _ => rfl) rfl rfl ?_ rfl rfl rfl rfl
    · cases x.handlerOut <;> trivial
    · cases x.handlerOut <;> rfl
    · show 2 + x.base = _ + (x.registryRegistered.toNat + x.handlerIn.toNat + 0) + 0
      rw [AtpdSession.base]
      cases x.handlerOut with
      | true => simp only [Bool.toNat_true, Code.weight, if_true]; omega
      | false => rfl

/-- It sets the flag, and queues the session if it was first. -/
lemma gcFlag {spurious : Bool} (lo : Local x .gcFlag) {queued : Bool}
    (st : exec x i spurious .gcFlag = some (x', code', queued)) :
    Moves i x .gcFlag x' code' queued := by
  have fresh : x.gcEnqueued = false := lo.flag rfl
  simp only [exec, fresh] at st
  cases st
  refine ⟨trivial, rfl, rfl, fun eq => absurd eq (lo.not_destroyed (Nat.succ_ne_zero _)), ?_,
    fun _ => Nat.le_refl _⟩
  exact .advance [] rfl rfl (List.append_nil _).symm nofun rfl fun none => by cases none

/-- One step of a thread, whatever it is at. -/
theorem exec {spurious : Bool} (lo : Local x code) {queued : Bool}
    (st : exec x i spurious code = some (x', code', queued)) : Moves i x code x' code' queued := by
  -- by cases on the next access of the thread
  cases code with
  | gone => cases st
  | idle => cases st
  | put k =>
    cases st
    exact lo.put
  | setLoad desired =>
    cases st
    exact lo.stay rfl Nat.one_ne_zero lo.sane rfl nofun rfl rfl rfl rfl rfl rfl rfl
  | setLoop desired current => exact lo.setLoop st
  | closeGet =>
    cases st
    exact lo.get rfl Nat.one_ne_zero trivial rfl nofun
  | closeLoad =>
    rw [Threads.exec] at st
    split at st
    · cases st
      exact lo.stay rfl (Nat.succ_ne_zero _) trivial rfl nofun rfl rfl rfl rfl rfl rfl rfl
    · rename_i unset
      cases st
      exact lo.stay rfl (Nat.succ_ne_zero _) (Bool.eq_false_iff.mpr unset) rfl nofun rfl rfl
        rfl rfl rfl rfl rfl
  | closeCas state => exact lo.closeCas st
  | registryRemove => exact lo.registryRemove st
  | removeIn => exact lo.detach (.inl rfl) st
  | removeOut => exact lo.detach (.inr rfl) st
  | gcFlag => exact lo.gcFlag st
  | gcGet =>
    cases st
    exact lo.get rfl (Nat.succ_ne_zero _) trivial rfl nofun
  | gcLoad =>
    cases st
    exact lo.stay rfl (Nat.succ_ne_zero _) trivial rfl nofun rfl rfl rfl rfl rfl rfl rfl
  | gcLoop current => exact lo.gcLoop st
  | gcUndo => exact absurd lo.sane id
  | gcAppend =>
    cases st
    refine lo.act (Nat.succ_ne_zero _) ?_ rfl ?_ rfl rfl ?_ rfl rfl rfl rfl
    · trivial
    · exact nofun
    · exact Nat.add_right_comm 2 1 x.base
  | drainFlag =>
    rw [Threads.exec] at st
    split at st
    · cases st
      exact lo.stay rfl Nat.one_ne_zero trivial rfl nofun rfl rfl rfl rfl rfl rfl rfl
    · cases st
      exact lo.stay rfl Nat.one_ne_zero trivial rfl nofun rfl rfl rfl rfl rfl rfl rfl
  | drainPipes =>
    cases st
    exact lo.stay rfl Nat.one_ne_zero trivial rfl nofun rfl rfl rfl rfl rfl rfl rfl
  | drainPending =>
    cases st
    exact lo.stay rfl Nat.one_ne_zero trivial rfl nofun rfl rfl rfl rfl rfl rfl rfl
  | drainLoad =>
    cases st
    split
    · exact lo.stay rfl Nat.one_ne_zero trivial rfl nofun rfl rfl rfl rfl rfl rfl rfl
    · exact lo.stay rfl Nat.one_ne_zero trivial rfl nofun rfl rfl rfl rfl rfl rfl rfl

end Local

namespace Secure

/-- What the invariant of its session tells a thread. -/
lemma toLocal (inv : Secure p s) (ht : p.threads[i]? = some (s, code)) : Local (p.sess s) code where
  sane := inv.sane _ (List.mem_of_getElem? ht) rfl
  held := by
    have sum := sum_set (weightOn s) ht (s, .gone)
    have mine : weightOn s (s, code) = code.weight := if_pos rfl
    have none : weightOn s (s, .gone) = 0 := if_pos rfl
    have ledger := inv.ledger
    omega
  alive := inv.alive
  registered unset := (inv.opened unset).2.2.1
  closing pending := by
    cases h : (p.sess s).state.isClosing with
    | true => rfl
    | false => exact absurd ((inv.opened h).2.2.2.2 _ (List.mem_of_getElem? ht) rfl) pending
  flag ahead := by
    cases h : (p.sess s).state.isClosing with
    | false => exact (inv.opened h).2.1
    | true =>
      obtain ⟨c, code1, hc, -, -, others, fresh⟩ := inv.closed h
      by_cases mine : i = c
      · subst mine
        rw [ht] at hc
        cases hc
        exact fresh ahead
      · have idle := others i code mine ht
        exact absurd idle (pending_of_flagAhead ahead)

/-- A thread moves; the other sessions are left alone. -/
lemma moves {q : Bool} (inv : ∀ s, Secure p s) (ht : p.threads[i]? = some (s, code))
    (mv : Moves i (p.sess s) code x' code' q) (n : Nat) :
    Secure ⟨Function.update p.sess s x', p.threads.set i (s, code'),
      if q then p.gc ++ [s] else p.gc⟩ n := by
  by_cases same : n = s
  · subst same
    obtain ⟨sane, reactor, ledger, alive, progress, -⟩ := mv
    refine (inv n).move ht (Function.update_self _ _ _) rfl ?_ sane reactor ledger alive progress
    cases q with
    | true => simp
    | false => rfl
  · refine (inv n).frame (Function.update_of_ne same _ _) (fun j code1 => ?_) ?_ ?_
    · by_cases eq : j = i
      · subst eq
        have lt : j < p.threads.length := (List.getElem?_eq_some_iff.mp ht).1
        rw [List.getElem?_set_self lt, ht]
        simp [Ne.symm same]
      · rw [List.getElem?_set_ne (Ne.symm eq)]
    · have sum := sum_set (weightOn n) ht (s, code')
      have old : weightOn n (s, code) = 0 := if_neg (Ne.symm same)
      have new : weightOn n (s, code') = 0 := if_neg (Ne.symm same)
      rw [old, new] at sum
      exact sum
    · cases q with
      | true => simp [Ne.symm same]
      | false => rfl

/-- Threads come in, with references they got or with those of the queue. -/
lemma append {l : List (Nat × Code)} {refs : Nat} (inv : Secure p s)
    (sess : p'.sess s = { p.sess s with refCount := refs }) (threads : p'.threads = p.threads ++ l)
    (quiet : ∀ t ∈ l, t.2 = .idle ∨ t.2 = .put .gone)
    (ledger : refs + p.gc.count s =
      (p.sess s).refCount + (l.map (weightOn s)).sum + p'.gc.count s)
    (queue : p'.gc.count s ≤ p.gc.count s)
    (alive : (p.sess s).state = .destroyed → refs = 0) : Secure p' s := by
  have idle : ∀ t ∈ l, t.2.Sane ∧ ∀ reactor, t.2.pending reactor = [] := by
    intro t ht
    rcases quiet t ht with eq | eq
    · rw [eq]
      exact ⟨trivial, fun _ => rfl⟩
    · rw [eq]
      exact ⟨trivial, fun _ => rfl⟩
  have mem : ∀ t ∈ p'.threads, t ∈ p.threads ∨ t ∈ l := by
    intro t ht
    rw [threads] at ht
    exact List.mem_append.mp ht
  refine ⟨?_, ?_, ?_, ?_, ?_, ?_⟩
  · intro t ht eq
    rcases mem t ht with ht | ht
    · exact inv.sane t ht eq
    · exact (idle t ht).1
  · have before := inv.ledger
    rw [sess, threads, List.map_append, List.sum_append]
    show refs = _ + (p.sess s).base + _
    omega
  · rw [sess]
    exact alive
  · rw [sess]
    exact Nat.le_trans queue inv.queue
  · rw [sess]
    intro unset
    obtain ⟨done, flag, registered, none, pending⟩ := inv.opened unset
    refine ⟨done, flag, registered, Nat.eq_zero_of_le_zero (none ▸ queue), fun t ht eq => ?_⟩
    rcases mem t ht with ht | ht
    · exact pending t ht eq
    · exact (idle t ht).2 _
  · rw [sess]
    intro set
    obtain ⟨c, code, hc, author, done, others, flag⟩ := inv.closed set
    refine ⟨c, code, ?_, author, done, fun j code' ne hj => ?_, flag⟩
    · rw [threads, List.getElem?_append_left (List.getElem?_eq_some_iff.mp hc).1]
      exact hc
    · rw [threads] at hj
      by_cases lt : j < p.threads.length
      · rw [List.getElem?_append_left lt] at hj
        exact others j code' ne hj
      · rw [List.getElem?_append_right (Nat.le_of_not_lt lt)] at hj
        exact (idle _ (List.mem_of_getElem? hj)).2 _

/-- Between two calls a thread begins one, or leaves. -/
lemma start (inv : ∀ s, Secure p s) (ht : p.threads[i]? = some (s, .idle)) (weight : code.weight = 1)
    (sane : code.Sane) (pending : ∀ reactor, code.pending reactor = [])
    (ahead : code.flagAhead = false) (n : Nat) :
    Secure { p with threads := p.threads.set i (s, code) } n := by
  have mv : Moves i (p.sess s) .idle (p.sess s) code false :=
    ((inv s).toLocal ht).stay weight Nat.one_ne_zero sane (pending _) (by rw [ahead]; exact nofun) rfl
      rfl rfl rfl rfl rfl rfl
  have moved := moves inv ht mv n
  rw [Function.update_eq_self] at moved
  exact moved

/-- The references of the queue. -/
lemma sum_queue (gc : List Nat) :
    ((gc.map fun s => (s, Code.put .gone)).map (weightOn s)).sum = gc.count s := by
  induction gc with
  | nil => rfl
  | cons t gc ih =>
    rw [List.map_cons, List.map_cons, List.sum_cons, ih, List.count_cons, Nat.add_comm]
    congr 1
    by_cases same : t = s
    · simp [weightOn, same, Code.weight]
    · simp [weightOn, same]

/-- A step of one thread is secure for every session. -/
theorem step {l : Label} (inv : ∀ s, Secure p s) (st : step p l = some p') (n : Nat) : Secure p' n := by
  cases l with
  | join s =>
    rw [Threads.step] at st
    split at st
    · cases st
    · rename_i nonzero
      cases st
      have quiet : ∀ t ∈ [(s, Code.idle)], t.2 = .idle ∨ t.2 = .put .gone := by
        intro t ht
        rw [List.mem_singleton.mp ht]
        exact .inl rfl
      by_cases same : n = s
      · -- the session that the new thread holds a reference to
        subst same
        have got : atpdSessionGet (p.sess n) =
            { p.sess n with refCount := (p.sess n).refCount + 1 } := if_neg nonzero
        refine (inv n).append ((Function.update_self _ _ _).trans got) rfl quiet ?_ (Nat.le_refl _) ?_
        · have weight : ([(n, Code.idle)].map (weightOn n)).sum = 1 := by
            simp [weightOn, Code.weight]
          rw [weight]
        · intro eq
          exact absurd ((inv n).alive eq) nonzero
      · refine (inv n).append (Function.update_of_ne same _ _) rfl quiet ?_ (Nat.le_refl _) (inv n).alive
        have weight : ([(s, Code.idle)].map (weightOn n)).sum = 0 := by
          simp [weightOn, Ne.symm same]
        rw [weight]
        rfl
  | leave i =>
    rw [Threads.step] at st
    split at st
    · rename_i s ht
      cases st
      refine start inv ht rfl ?_ (fun _ => rfl) rfl n
      trivial
    · cases st
  | call i f =>
    rw [Threads.step] at st
    split at st
    · rename_i s ht
      split at st
      · rename_i allowed
        cases st
        cases f with
        | setState desired =>
          refine start inv ht rfl ?_ (fun _ => rfl) rfl n
          show desired.isClosing = false
          simpa [Call.allowed] using allowed
        | markClosing =>
          refine start inv ht rfl ?_ (fun _ => rfl) rfl n
          trivial
        | emergencyDrain =>
          refine start inv ht rfl ?_ (fun _ => rfl) rfl n
          trivial
      · cases st
    · cases st
  | run i spurious =>
    rw [Threads.step] at st
    split at st
    · rename_i s code ht
      obtain ⟨⟨x', code', q⟩, ex, rfl⟩ := Option.map_eq_some_iff.mp st
      exact moves inv ht (((inv s).toLocal ht).exec ex) n
    · cases st
  | gcProcess =>
    cases st
    refine (inv n).append rfl rfl ?_ ?_ (Nat.zero_le _) (inv n).alive
    · intro t ht
      obtain ⟨s, -, rfl⟩ := List.mem_map.mp ht
      exact .inr rfl
    · rw [sum_queue]
      rfl

end Secure

/-! ## Runs -/

/-- The closing states come last. -/
lemma isClosing_iff {state : SessionState} : state.isClosing = true ↔ 4 ≤ rank state := by
  cases state <;> decide

/-- A state from CLOSING on only goes up. -/
lemma rank_step {l : Label} (inv : ∀ s, Secure p s) (st : step p l = some p')
    (closing : (p.sess s).state.isClosing = true) :
    rank (p.sess s).state ≤ rank (p'.sess s).state := by
  cases l with
  | join t =>
    rw [step] at st
    split at st
    · cases st
    · rename_i nonzero
      cases st
      by_cases same : s = t
      · subst same
        have got : atpdSessionGet (p.sess s) =
            { p.sess s with refCount := (p.sess s).refCount + 1 } := if_neg nonzero
        exact Nat.le_of_eq (by dsimp only; rw [Function.update_self, got])
      · exact Nat.le_of_eq (by dsimp only; rw [Function.update_of_ne same])
  | leave i =>
    rw [step] at st
    split at st
    · cases st
      exact Nat.le_refl _
    · cases st
  | call i f =>
    rw [step] at st
    split at st
    · split at st
      · cases st
        exact Nat.le_refl _
      · cases st
    · cases st
  | run i spurious =>
    rw [step] at st
    split at st
    · rename_i t code ht
      obtain ⟨⟨x', code', q⟩, ex, rfl⟩ := Option.map_eq_some_iff.mp st
      dsimp only
      by_cases same : s = t
      · subst same
        rw [Function.update_self]
        exact (((inv s).toLocal ht).exec ex).rank closing
      · exact Nat.le_of_eq (by rw [Function.update_of_ne same])
    · cases st
  | gcProcess =>
    cases st
    exact Nat.le_refl _

/-- Every session is open and in the registry, and its references are those of the threads, the registry
and the reactor. -/
structure Fresh (p : Pool) : Prop where
  idle : ∀ t ∈ p.threads, t.2 = .idle
  queue : p.gc = []
  opened : ∀ s, (p.sess s).state.isClosing = false ∧ (p.sess s).done = [] ∧
    (p.sess s).gcEnqueued = false ∧ (p.sess s).registryRegistered = true
  refs : ∀ s, (p.sess s).refCount = (p.threads.map (weightOn s)).sum + (p.sess s).base

/-- A pool in which no thread has begun is secure. -/
lemma Fresh.secure (fr : Fresh p) (s : Nat) : Secure p s where
  sane t ht _ := by
    rw [fr.idle t ht]
    trivial
  ledger := by
    rw [fr.refs s, fr.queue]
    rfl
  alive eq := by
    have unset := (fr.opened s).1
    rw [eq] at unset
    cases unset
  queue := by
    rw [fr.queue]
    exact Nat.zero_le _
  opened _ := by
    obtain ⟨-, done, flag, registered⟩ := fr.opened s
    refine ⟨done, flag, registered, by rw [fr.queue]; rfl, fun t ht _ => ?_⟩
    rw [fr.idle t ht]
    rfl
  closed set := absurd (set.symm.trans (fr.opened s).1) (by decide)

/-- In `atpd_session_mark_closing` behind its exchange. -/
def Code.closes : Code → Bool
  | .put k => k.closes
  | .registryRemove | .removeIn | .removeOut | .gcFlag | .gcGet | .gcLoad | .gcLoop _ | .gcUndo | .gcAppend =>
    true
  | _ => false

/-- Elsewhere there is no closing action left to take. -/
lemma Code.pending_of_closes (reactor : Bool) {code : Code} (elsewhere : code.closes = false) :
    code.pending reactor = [] := by
  induction code with
  | put k ih => exact ih elsewhere
  | registryRemove | removeIn | removeOut | gcFlag | gcGet | gcLoad | gcLoop | gcUndo | gcAppend =>
    cases elsewhere
  | _ => rfl

/-- The thread `c` alone takes the closing actions, each once and in their order: those it has not taken it
is about to take, and it has taken all of them when this call has returned, whatever it calls later. -/
structure ClosedBy (p : Pool) (s c : Nat) : Prop where
  thread : ∃ code, p.threads[c]? = some (s, code) ∧
    (p.sess s).done.map Prod.snd ++ code.pending (p.sess s).reactor = closingActions (p.sess s).reactor ∧
    (code.closes = false → (p.sess s).done.map Prod.snd = closingActions (p.sess s).reactor)
  author : ∀ a ∈ (p.sess s).done, a.1 = c
  order : (p.sess s).done.map Prod.snd <+: closingActions (p.sess s).reactor
  queued : p.gc.count s ≤ ((p.sess s).done.map Prod.snd).count .gcEnqueue

/-- A session that is closing has one closer. -/
lemma Secure.closedBy (inv : Secure p s) (set : (p.sess s).state.isClosing = true) :
    ∃ c, ClosedBy p s c := by
  obtain ⟨c, code, hc, author, complete, -, -⟩ := inv.closed set
  refine ⟨c, ⟨code, hc, complete, fun returned => ?_⟩, author, ⟨_, complete⟩, inv.queue⟩
  rw [Code.pending_of_closes _ returned, List.append_nil] at complete
  exact complete

/-- In every run of any threads over any sessions: a session that is closing stays so, its state never
goes down, and one thread takes the closing actions; before that nobody has taken any. -/
theorem closing_terminal_one_closer (p0 p1 p : Pool) (es1 es2 : List Label) (fresh : Fresh p0)
    (reach : run step p0 es1 = some p1) (after : run step p1 es2 = some p) (s : Nat) :
    ((p1.sess s).state.isClosing = true →
      (p.sess s).state.isClosing = true ∧ rank (p1.sess s).state ≤ rank (p.sess s).state) ∧
      ((p.sess s).state.isClosing = false → (p.sess s).done = [] ∧ s ∉ p.gc) ∧
      ((p.sess s).state.isClosing = true → ∃ c, ClosedBy p s c) := by
  have inv1 : ∀ s, Secure p1 s :=
    run_preserves (I := fun p => ∀ s, Secure p s) (fun _ _ _ inv st => Secure.step inv st)
      fresh.secure reach
  have inv : ∀ s, Secure p s :=
    run_preserves (I := fun p => ∀ s, Secure p s) (fun _ _ _ inv st => Secure.step inv st) inv1 after
  refine ⟨fun closing => ?_, fun unset => ?_, (inv s).closedBy⟩
  · have up := run_preserves (I := fun q => (∀ s, Secure q s) ∧ (q.sess s).state.isClosing = true ∧
        rank (p1.sess s).state ≤ rank (q.sess s).state) (fun q l q' inv st => ?_)
      ⟨inv1, closing, Nat.le_refl _⟩ after
    · exact up.2
    · obtain ⟨inv, closing, le⟩ := inv
      have le' := rank_step inv st closing
      refine ⟨Secure.step inv st, isClosing_iff.mpr ?_, Nat.le_trans le le'⟩
      exact Nat.le_trans (isClosing_iff.mp closing) le'
  · obtain ⟨done, -, -, queue, -⟩ := (inv s).opened unset
    exact ⟨done, List.count_eq_zero.mp queue⟩

/-- Two threads hold the session 0. -/
def shared : Pool where
  sess s := ⟨.idle, false, false, false, if s = 0 then 5 else 3, 0, true, true, true, true, true, []⟩
  threads := [(0, .idle), (0, .idle)]
  gc := []

/-- Two threads with a session, at the start. -/
lemma shared_fresh : Fresh shared where
  idle := by decide
  queue := rfl
  opened _ := ⟨rfl, rfl, rfl, rfl⟩
  refs s := by
    by_cases zero : s = 0
    · subst zero
      rfl
    · have ne : ¬(0 = s) := fun eq => zero eq.symm
      simp [shared, AtpdSession.base, weightOn, zero, ne]

/-- The thread 0 closes the session. Its exchange fails once for no reason, and once because the thread 1
has moved the session to ACTIVE in between. The thread 1 then drains it. -/
def race : List Label :=
  [.call 0 .markClosing, .run 0 false, .run 0 false, .run 0 true, .run 0 false,
    .call 1 (.setState .active), .run 1 false, .run 1 false, .run 0 false, .run 0 false,
    .call 1 .emergencyDrain, .run 1 false, .run 1 false, .run 1 false, .run 0 false, .run 1 false] ++
    List.replicate 12 (.run 0 false)

/-- Both close it, and one of them is the closer. -/
theorem closing_terminal_one_closer_race : ∃ p, run step shared race = some p ∧
    (p.sess 0).state = .destroyPending ∧ p.gc = [0] ∧ ∃ c, ClosedBy p 0 c :=
  ⟨_, rfl, rfl, rfl, (closing_terminal_one_closer shared _ _ race [] shared_fresh rfl rfl 0).2.2 rfl⟩

end Atpd.Session.Threads
