import Mathlib.Data.List.Forall2
import Atpd.Reactor.PassEnds

/-!
# The timers in memory refine the list of the timers

`Reactor/Pass.lean` has the timers as a list, a handle as a number, and the deadlines as natural numbers.
The pointers of this model hold the timers of that list, in every run in which the clock does not go back
and no deadline reaches `2 ^ 64`.
-/

namespace Atpd.Reactor.Pointers

open Atpd.Lib Heap

variable {κ : Type}

/-! ## Timers -/

/-- A timer of the list shows what the timer in memory holds. -/
structure Mirrors (a : Nat) (n : Node κ) (t : Timer κ) : Prop where
  id : t.id = a
  expiresMs : t.expiresMs = n.expiresMs.toNat
  intervalMs : t.intervalMs = n.intervalMs.toNat
  callback : t.callback = n.callback
  active : t.active = n.active
  pendingDelete : t.pendingDelete = n.pendingDelete
  handle : ∀ p, n.publicTimer = some p → p = a

/-- What the timer of the list shows of the node in memory. -/
def Shows (node : Nat → Option (Node κ)) (a : Nat) (t : Timer κ) : Prop :=
  ∃ n, node a = some n ∧ Mirrors a n t

variable {m m' : Heap κ} {node node' : Nat → Option (Node κ)} {a b p : Nat} {n : Node κ} {t u : Timer κ}
  {out ns : List Nat} {ts : List (Timer κ)} {now : UInt64}

/-- A timer is written, and the others are as before. -/
lemma node_of_ne {x : Option (Node κ)} (written : m'.node = Function.update m.node a x) (ne : b ≠ a) :
    m'.node b = m.node b := by
  rw [written, Function.update_of_ne ne]

/-- Both are periodic, or neither is. -/
lemma Mirrors.rearms (mi : Mirrors a n t) : t.rearms = n.rearms := by
  have pos : 0 < t.intervalMs ↔ 0 < n.intervalMs := by
    rw [mi.intervalMs, UInt64.lt_iff_toNat_lt]
    rfl
  simp only [Timer.rearms, Node.rearms, mi.active, mi.pendingDelete, pos]

/-- The number is the address. -/
lemma Shows.id (sh : Shows node a t) : t.id = a := by
  obtain ⟨n, -, mi⟩ := sh
  exact mi.id

/-- The fields are those of the node. -/
lemma Shows.mirrors (sh : Shows node a t) (here : node a = some n) : Mirrors a n t := by
  obtain ⟨n', here', mi⟩ := sh
  cases here.symm.trans here'
  exact mi

/-- So is the deadline. -/
lemma Shows.deadline (sh : Shows node a t) : deadline node a = t.expiresMs := by
  obtain ⟨n, here, mi⟩ := sh
  rw [Heap.deadline, here, mi.expiresMs]

/-! ## Lists of timers -/

/-- Only the timers of the list are looked at. -/
lemma shows_congr (sh : List.Forall₂ (Shows node) ns ts) (same : ∀ b ∈ ns, node' b = node b) :
    List.Forall₂ (Shows node') ns ts := by
  induction sh with
  | nil => exact .nil
  | cons first rest ih =>
    refine .cons ?_ (ih fun b mem => same b (List.mem_cons_of_mem _ mem))
    rw [Shows, same _ List.mem_cons_self]
    exact first

/-- A timer is inserted at the same place. -/
lemma shows_insert (sh : List.Forall₂ (Shows node) ns ts) (new : Shows node a t) :
    List.Forall₂ (Shows node) (place (deadline node) a ns) (Reactor.timerListInsert ts t) := by
  induction sh with
  | nil => exact .cons new .nil
  | cons first rest ih =>
    rw [place, Reactor.timerListInsert, first.deadline, new.deadline]
    split
    · exact .cons first ih
    · exact .cons new (.cons first rest)

/-- And removed at the same place. -/
lemma shows_erase (sh : List.Forall₂ (Shows node) ns ts) (nodup : ns.Nodup) (a : Nat) :
    List.Forall₂ (Shows node) (ns.erase a) (Reactor.timerListRemove ts a) := by
  rw [nodup.erase_eq_filter]
  refine List.rel_filter (fun b t first => ?_) sh
  dsimp only
  rw [first.id]

/-- Every node is shown by a timer. -/
lemma shows_mem (sh : List.Forall₂ (Shows node) ns ts) (mem : a ∈ ns) : ∃ t ∈ ts, Shows node a t := by
  induction sh with
  | nil => cases mem
  | cons first rest ih =>
    rcases List.mem_cons.mp mem with rfl | mem
    · exact ⟨_, List.mem_cons_self, first⟩
    · obtain ⟨t, mem, shows⟩ := ih mem
      exact ⟨t, List.mem_cons_of_mem _ mem, shows⟩

/-- Every timer shows a node. -/
lemma mem_shows (sh : List.Forall₂ (Shows node) ns ts) (mem : t ∈ ts) : t.id ∈ ns ∧ Shows node t.id t := by
  induction sh with
  | nil => cases mem
  | cons first rest ih =>
    rcases List.mem_cons.mp mem with rfl | mem
    · rw [first.id]
      exact ⟨List.mem_cons_self, first⟩
    · obtain ⟨mem, shows⟩ := ih mem
      exact ⟨List.mem_cons_of_mem _ mem, shows⟩

/-- A handle that is not freed names its timer. -/
lemma findLive_some (sh : List.Forall₂ (Shows node) ns ts) (mem : a ∈ ns) (here : node a = some n)
    (live : n.pendingDelete = false) : ∃ t, findLive ts a = some t ∧ Mirrors a n t := by
  induction sh with
  | nil => cases mem
  | @cons b t ns ts first rest ih =>
    by_cases same : a = b
    · subst same
      have mi := first.mirrors here
      refine ⟨t, List.find?_cons_of_pos ?_, mi⟩
      rw [mi.pendingDelete, live, mi.id, beq_self_eq_true]
      rfl
    · obtain ⟨u, found, mi⟩ := ih ((List.mem_cons.mp mem).resolve_left same)
      refine ⟨u, ?_, mi⟩
      rw [findLive, List.find?_cons_of_neg]
      · exact found
      · rw [first.id, beq_eq_false_iff_ne.mpr (Ne.symm same)]
        exact Bool.false_ne_true

/-- What is not in memory is not found. -/
lemma findLive_none (sh : List.Forall₂ (Shows node) ns ts) (notin : a ∉ ns) : findLive ts a = none := by
  refine List.find?_eq_none.mpr fun t mem => ?_
  have ne : t.id ≠ a := fun same => notin (same ▸ (mem_shows sh mem).1)
  rw [beq_eq_false_iff_ne.mpr ne]
  exact Bool.false_ne_true

/-! ## The reactor -/

/-- The timers in memory are those of the list machine. -/
structure View (m : Heap κ) (out ns : List Nat) (r : Priv κ) : Prop where
  owned : Owned m out ns
  timers : List.Forall₂ (Shows m.node) ns r.timers
  running : List.Forall₂ (Shows m.node) out r.running.toList
  currentTimeMs : r.currentTimeMs = m.currentTimeMs.toNat
  timersFired : r.timersFired = m.timersFired
  nextId : r.nextId = m.nextId

variable {r : Priv κ}

namespace View

/-- A new heap is an empty list. -/
lemma init (nowMs : UInt64) : View (Heap.init nowMs : Heap κ) [] [] (reactorCreate nowMs.toNat) where
  owned := .init
  timers := .nil
  running := .nil
  currentTimeMs := rfl
  timersFired := rfl
  nextId := rfl

/-- A timer is live in the list if its handle is not freed. -/
lemma live_iff (vi : View m out ns r) : (∃ x ∈ r.live, x.id = p) ↔ (m.pub p).isSome = true := by
  have all : List.Forall₂ (Shows m.node) (out ++ ns) (r.running.toList ++ r.timers) :=
    List.rel_append vi.running vi.timers
  constructor
  · rintro ⟨x, mem, rfl⟩
    obtain ⟨t, listed, rfl⟩ := List.mem_map.mp mem
    obtain ⟨inside, live⟩ := List.mem_filter.mp listed
    obtain ⟨-, n, here, mi⟩ := mem_shows all inside
    have fits := vi.owned.fits _ n here
    have pending := fits.pending
    rw [← mi.pendingDelete, (Bool.not_eq_true' _).mp live] at pending
    obtain ⟨q, handle⟩ := Option.isSome_iff_exists.mp (Bool.not_eq_eq_eq_not.mp pending.symm)
    have own : q = t.id := mi.handle q handle
    rw [Timer.toPublic, ← own, fits.handle q handle]
    rfl
  · intro found
    obtain ⟨x, found⟩ := Option.isSome_iff_exists.mp found
    obtain ⟨a, n, -, here, handle⟩ := vi.owned.owner p x found
    have fits := vi.owned.fits a n here
    obtain ⟨t, mem, shows⟩ := shows_mem all (List.mem_append.mpr fits.held.symm)
    have mi := shows.mirrors here
    refine ⟨t.toPublic, List.mem_map.mpr ⟨t, List.mem_filter.mpr ⟨mem, ?_⟩, rfl⟩, ?_⟩
    · rw [mi.pendingDelete, fits.pending, handle]
      rfl
    · exact mi.id.trans (mi.handle p handle).symm

/-- The timer that runs is the node that is out of the list. -/
lemma running_eq (vi : View m out ns r) (running : r.running = some t) :
    out = [t.id] ∧ Shows m.node t.id t := by
  have alone := vi.running
  rw [running, Option.toList_some] at alone
  cases alone with
  | cons first rest =>
    cases rest
    rw [first.id]
    exact ⟨rfl, first⟩

/-- `reactor_add_timer`. -/
lemma add (vi : View m out ns r) (nowMs timeoutMs intervalMs : UInt64) (cb : Option κ)
    (bounded : nowMs.toNat + timeoutMs.toNat < deadlineBound) :
    ∃ m' ns', m.reactorAddTimer true true nowMs timeoutMs intervalMs cb = .ok (m', some m.nextId) ∧
      View m' out ns' (Reactor.reactorAddTimer r true nowMs.toNat timeoutMs.toNat intervalMs.toNat cb).1 := by
  obtain ⟨m', added, ow', written, -, time, fired, next⟩ := vi.owned.add nowMs timeoutMs intervalMs cb
  have fresh := (vi.owned.fresh m.nextId (Nat.le_refl _)).1
  have others : ∀ b u, m.node b = some u → m'.node b = m.node b := by
    intro b u here
    have ne : b ≠ m.nextId := by
      rintro rfl
      cases fresh.symm.trans here
    exact node_of_ne written ne
  have sum : (nowMs + timeoutMs).toNat = nowMs.toNat + timeoutMs.toNat := by
    rw [deadlineBound] at bounded
    rw [UInt64.toNat_add, Nat.mod_eq_of_lt bounded]
  refine ⟨m', _, added, ow', ?_, ?_, ?_, ?_, ?_⟩
  · refine shows_insert (shows_congr vi.timers fun b mem => ?_) ?_
    · obtain ⟨u, here⟩ := vi.owned.nodes b mem
      exact others b u here
    · refine ⟨_, written ▸ Function.update_self _ _ _, vi.nextId, sum.symm, rfl, rfl, rfl, rfl, ?_⟩
      rintro p ⟨⟩
      rfl
  · refine shows_congr vi.running fun b mem => ?_
    obtain ⟨-, u, here⟩ := vi.owned.apart b mem
    exact others b u here
  · exact vi.currentTimeMs.trans (time ▸ rfl)
  · exact vi.timersFired.trans fired.symm
  · rw [next, ← vi.nextId]
    rfl

/-- The timers of the list but one. -/
lemma others (vi : View m out ns r) (written : ∀ b, b ≠ a → m'.node b = m.node b) :
    List.Forall₂ (Shows m'.node) (ns.erase a) (Reactor.timerListRemove r.timers a) := by
  refine shows_congr (shows_erase vi.timers vi.owned.nodup a) fun b mem => written b ?_
  rintro rfl
  exact vi.owned.nodup.not_mem_erase mem

/-- `reactor_cancel_timer` on a handle that is not freed. -/
lemma cancel (vi : View m out ns r) (live : (m.pub p).isSome = true) :
    ∃ m' ns', m.reactorCancelTimer p = .ok m' ∧ View m' out ns' (Reactor.reactorCancelTimer r p) := by
  obtain ⟨x, found⟩ := Option.isSome_iff_exists.mp live
  -- the handle has a node, and only this node is written
  obtain ⟨a, n, m', here, handle, cancelled, ow', written, -, time, fired, next⟩ := vi.owned.cancel found
  have fits := vi.owned.fits a n here
  have pending : n.pendingDelete = false := by
    rw [fits.pending, handle]
    rfl
  have rest : ∀ b, b ≠ a → m'.node b = m.node b := fun b ne => node_of_ne written ne
  have own : m'.node a = some { n with
      expiresMs := if n.linked then m.currentTimeMs else n.expiresMs
      active := false
      pendingDelete := true
      publicTimer := none } := by
    rw [written, Function.update_self]
  by_cases flag : n.linked = true
  · -- it moves in the list
    have mem := fits.flag.mp flag
    have notin : a ∉ out := fun held => (vi.owned.apart a held).1 mem
    obtain ⟨t, inList, mi⟩ := findLive_some vi.timers mem here pending
    have same : p = a := mi.handle p handle
    subst same
    have moves : Reactor.reactorCancelTimer r p = { r with timers := Reactor.timerListRemove r.timers p }.link
        { t.cancelled with expiresMs := r.currentTimeMs } := by
      rw [Reactor.reactorCancelTimer, findLive_none vi.running notin, inList]
    rw [if_pos flag] at ow' own
    rw [moves]
    refine ⟨m', _, cancelled, ow', shows_insert (vi.others rest) ⟨_, own, ?_⟩,
      shows_congr vi.running fun b mem => ?_, vi.currentTimeMs.trans (time ▸ rfl),
      vi.timersFired.trans fired.symm, vi.nextId.trans next.symm⟩
    · refine ⟨mi.id, vi.currentTimeMs, mi.intervalMs, mi.callback, rfl, rfl, ?_⟩
      rintro q ⟨⟩
    · refine rest b ?_
      rintro rfl
      exact notin ‹_›
  · -- its callback is running
    have held := fits.held.resolve_left (mt fits.flag.mpr flag)
    obtain ⟨t, running, mi⟩ := findLive_some vi.running held here pending
    have same : p = a := mi.handle p handle
    subst same
    have stays : Reactor.reactorCancelTimer r p = { r with running := some t.cancelled } := by
      rw [Reactor.reactorCancelTimer, running]
    rw [if_neg flag] at ow' own
    rw [stays]
    have one : r.running = some t := Option.mem_toList.mp (List.mem_of_find?_eq_some running)
    have alone := (vi.running_eq one).1
    rw [mi.id] at alone
    subst alone
    refine ⟨m', _, cancelled, ow', shows_congr vi.timers fun b mem => ?_, .cons ⟨_, own, ?_⟩ .nil,
      vi.currentTimeMs.trans (time ▸ rfl), vi.timersFired.trans fired.symm, vi.nextId.trans next.symm⟩
    · refine rest b ?_
      rintro rfl
      exact flag (fits.flag.mpr mem)
    · refine ⟨mi.id, mi.expiresMs, mi.intervalMs, mi.callback, rfl, rfl, ?_⟩
      rintro q ⟨⟩

/-- A timer that was cancelled is freed. -/
lemma beginRound_cancelled (vi : View m out (a :: ns) r) (here : m.node a = some n) (mi : Mirrors a n t)
    (pending : t.pendingDelete = true) :
    ∃ m', m.beginRound a = .ok (m', none) ∧ View m' out ns (r.freeTimer t) := by
  have cancelled := mi.pendingDelete.symm.trans pending
  obtain ⟨m', begins, ow', written, time, fired, next⟩ :=
    vi.owned.beginRound_cancelled List.mem_cons_self here cancelled
  have rest : ∀ b, b ≠ a → m'.node b = m.node b := fun b ne => node_of_ne written ne
  rw [List.erase_cons_head] at ow'
  refine ⟨m', begins, ow', ?_, shows_congr vi.running fun b mem => ?_,
      vi.currentTimeMs.trans (time ▸ rfl), vi.timersFired.trans fired.symm, vi.nextId.trans next.symm⟩
  · have others := vi.others rest
    rw [List.erase_cons_head] at others
    rw [Priv.freeTimer, mi.id]
    exact others
  · refine rest b ?_
    rintro rfl
    exact (vi.owned.apart b mem).1 List.mem_cons_self

/-- A round begins with any other timer. -/
lemma beginRound_live (vi : View m [] (a :: ns) r) (here : m.node a = some n) (mi : Mirrors a n t)
    (live : t.pendingDelete = false) :
    ∃ m', m.beginRound a = .ok (m', some t.callback.isSome) ∧ View m' [a] ns (r.beginTimer t) := by
  have pending := mi.pendingDelete.symm.trans live
  obtain ⟨m', begins, ow', written, -, time, fired, next⟩ :=
    vi.owned.beginRound_live List.mem_cons_self here pending
  have rest : ∀ b, b ≠ a → m'.node b = m.node b := fun b ne => node_of_ne written ne
  have fits := vi.owned.fits a n here
  have handle : n.publicTimer.isSome = true := by
    rw [fits.pending] at pending
    exact Bool.not_eq_eq_eq_not.mp pending
  have calls : n.calls = t.callback.isSome := by
    rw [Node.calls, fits.active, handle, mi.callback, Bool.true_and, Bool.and_true]
  have counted : t.calls = n.calls := by
    rw [Timer.calls, mi.active, fits.active, handle, Bool.true_and, calls]
  rw [List.erase_cons_head] at ow'
  refine ⟨m', calls ▸ begins, ow', ?_, .cons ⟨_, written ▸ Function.update_self _ _ _, ?_⟩ .nil,
      vi.currentTimeMs.trans (time ▸ rfl), ?_, vi.nextId.trans next.symm⟩
  · have others := vi.others rest
    rw [List.erase_cons_head] at others
    rw [Priv.beginTimer, mi.id]
    exact others
  · exact ⟨mi.id, mi.expiresMs, mi.intervalMs, mi.callback, mi.active, mi.pendingDelete, mi.handle⟩
  · rw [fired, Priv.beginTimer, counted, vi.timersFired]

/-- The rest of the round. -/
lemma endRound (vi : View m [a] ns r) (running : r.running = some t)
    (bounded : t.rearms = true → rearm now.toNat t.intervalMs t.expiresMs < deadlineBound) :
    ∃ m' ns', m.endRound now a = .ok m' ∧ View m' [] ns' (r.endTimer now.toNat) := by
  obtain ⟨same, n, here, mi⟩ := vi.running_eq running
  obtain rfl : a = t.id := (List.cons.inj same).1
  have others : ∀ m' : Heap κ, (∀ b, b ≠ t.id → m'.node b = m.node b) →
      List.Forall₂ (Shows m'.node) ns r.timers := by
    refine fun m' rest => shows_congr vi.timers fun b mem => rest b ?_
    rintro rfl
    exact (vi.owned.apart t.id List.mem_cons_self).1 mem
  rw [Priv.endTimer, running]
  dsimp only
  rw [mi.rearms] at bounded ⊢
  cases rearms : n.rearms with
  | false =>
    obtain ⟨m', ends, ow', written, time, fired, next⟩ :=
      vi.owned.endRound_frees List.not_mem_nil here rearms now
    exact ⟨m', ns, ends, ow', others m' fun b ne => node_of_ne written ne, .nil,
      vi.currentTimeMs.trans (time ▸ rfl), vi.timersFired.trans fired.symm, vi.nextId.trans next.symm⟩
  | true =>
    have bounded := bounded rearms
    rw [mi.intervalMs, mi.expiresMs] at bounded ⊢
    obtain ⟨e, late, value⟩ := catchUp_rearm rearms bounded
    obtain ⟨m', ends, ow', written, frame⟩ := vi.owned.endRound_rearms List.not_mem_nil here rearms late
    refine ⟨m', _, ends, ow', shows_insert (others m' fun b ne => node_of_ne written ne) ?_, .nil,
      vi.currentTimeMs.trans (frame.currentTimeMs ▸ rfl), vi.timersFired.trans frame.timersFired.symm,
      vi.nextId.trans frame.nextId.symm⟩
    exact ⟨_, (congrFun written t.id).trans (Function.update_self _ _ _), rfl, value.symm, rfl, mi.callback,
      mi.active, mi.pendingDelete, mi.handle⟩

end View

/-! ## Runs -/

/-- What a label is for the list machine. -/
def Label.view : Label κ → Reactor.Label κ
  | .call (.add allocPub allocNode nowMs timeoutMs intervalMs cb) =>
    .add (allocPub && allocNode) nowMs.toNat timeoutMs.toNat intervalMs.toNat cb
  | .call (.cancel p) => .cancel p
  | .call (.updateTime nowMs) => .updateTime nowMs.toNat
  | .passBegin nowMs => .passBegin nowMs.toNat
  | .passStep => .passStep
  | .callbackEnd => .callbackEnd
  | .passEnd => .passEnd

/-- The clock does not go back, and no deadline reaches `2 ^ 64`. -/
def Within (q : Reactor.State κ) : Reactor.Label κ → Prop
  | .add _ nowMs timeoutMs _ _ => q.clock ≤ nowMs ∧ nowMs + timeoutMs < deadlineBound
  | .updateTime nowMs => q.clock ≤ nowMs
  | .passBegin nowMs => q.clock ≤ nowMs
  | .callbackEnd => ∀ now t, q.pass = some now → q.priv.running = some t → t.rearms = true →
      rearm now t.intervalMs t.expiresMs < deadlineBound
  | _ => True

instance Within.decidable : ∀ (q : Reactor.State κ) (l : Reactor.Label κ), Decidable (Within q l)
  | q, .add _ nowMs timeoutMs _ _ =>
    inferInstanceAs (Decidable (q.clock ≤ nowMs ∧ nowMs + timeoutMs < deadlineBound))
  | q, .updateTime nowMs => inferInstanceAs (Decidable (q.clock ≤ nowMs))
  | q, .passBegin nowMs => inferInstanceAs (Decidable (q.clock ≤ nowMs))
  | q, .callbackEnd =>
    decidable_of_iff (∀ now ∈ q.pass, ∀ t ∈ q.priv.running, t.rearms = true →
        rearm now t.intervalMs t.expiresMs < deadlineBound)
      ⟨fun h now t hn ht => h now hn t ht, fun h now hn t ht => h now t hn ht⟩
  | _, .cancel _ | _, .passStep | _, .passEnd => isTrue trivial

/-- The state of the list machine shows the state in memory. -/
structure Refines (s : State κ) (ns : List Nat) (q : Reactor.State κ) : Prop where
  view : View s.heap s.running.toList ns q.priv
  pass : q.pass = s.pass.map UInt64.toNat
  calling : s.calling = (q.priv.running.bind Timer.callback).isSome

/-- Cancelling a timer does not change which callback is running. -/
lemma cancel_callback (r : Priv κ) (p : Nat) :
    (Reactor.reactorCancelTimer r p).running.bind Timer.callback = r.running.bind Timer.callback := by
  rw [Reactor.reactorCancelTimer]
  split
  · rename_i t found
    rw [Option.mem_toList.mp (List.mem_of_find?_eq_some found)]
    rfl
  · split <;> rfl

variable {s : State κ} {q : Reactor.State κ} {c : Call κ} {l : Label κ} {e : Except Fault (State κ)}

namespace Refines

/-- Both are open, or neither is. -/
lemma open_iff (rf : Refines s ns q) : q.Open ↔ s.Open := by
  rw [Reactor.State.Open, State.Open, rf.pass, rf.calling, Option.map_eq_none_iff]
  refine or_congr .rfl ?_
  cases q.priv.running with
  | none =>
    constructor
    · rintro ⟨t, ⟨⟩, -⟩
    · rintro ⟨⟩
  | some t =>
    constructor
    · rintro ⟨_, ⟨⟩, callback⟩
      exact callback
    · exact fun callback => ⟨t, rfl, callback⟩

/-- If nothing runs in memory, nothing does in the list. -/
lemma running_none (rf : Refines s ns q) (idle : s.running = none) : q.priv.running = none := by
  have none' := rf.view.running
  rw [idle] at none'
  exact Option.toList_eq_nil_iff.mp (List.forall₂_nil_left_iff.mp none')

/-- If a node runs, its timer does. -/
lemma running_some (rf : Refines s ns q) (running : s.running = some a) :
    ∃ t, q.priv.running = some t ∧ Shows s.heap.node a t := by
  have one := rf.view.running
  rw [running] at one
  obtain ⟨t, mem, shows⟩ := shows_mem one (Option.mem_toList.mpr rfl)
  exact ⟨t, Option.mem_toList.mp mem, shows⟩

/-- A call of the program or of a callback. -/
lemma call (rf : Refines s ns q) (wi : Within q (Label.call c).view) (opened : s.Open) (live : c.Live s.heap) :
    ∃ m' ns' q', s.heap.call c = .ok m' ∧ Reactor.step q (Label.call c).view = some q' ∧
      Refines { s with heap := m' } ns' q' := by
  have opened := rf.open_iff.mpr opened
  cases c with
  | add allocPub allocNode nowMs timeoutMs intervalMs cb =>
    by_cases both : (allocPub && allocNode) = true
    · rw [Bool.and_eq_true] at both
      obtain ⟨rfl, rfl⟩ := both
      obtain ⟨m', ns', added, view⟩ := rf.view.add nowMs timeoutMs intervalMs cb wi.2
      refine ⟨m', ns', _, ?_, if_pos ⟨opened, wi⟩, view, rf.pass, rf.calling⟩
      rw [Heap.call, added]
      rfl
    · have both := Bool.not_eq_true _ ▸ both
      have failed := rf.view.owned.add_failed both nowMs timeoutMs intervalMs cb
      refine ⟨s.heap, ns, _, ?_, if_pos ⟨opened, wi⟩, ?_, rf.pass, ?_⟩
      · rw [Heap.call, failed]
        rfl
      · rw [both]
        exact rf.view
      · rw [both]
        exact rf.calling
  | cancel p =>
    obtain ⟨m', ns', cancelled, view⟩ := rf.view.cancel live
    refine ⟨m', ns', _, cancelled, if_pos ⟨opened, rf.view.live_iff.mpr live⟩, view, rf.pass, ?_⟩
    exact rf.calling.trans (congrArg Option.isSome (cancel_callback q.priv p).symm)
  | updateTime nowMs =>
    exact ⟨_, ns, _, rfl, if_pos ⟨opened, wi⟩,
      { rf.view with owned := { rf.view.owned with }, currentTimeMs := rfl }, rf.pass, rf.calling⟩

/-- The first timer of the list is the one at `timer_head`. -/
lemma head_some (rf : Refines s ns q) (head : s.heap.head = some a) :
    ∃ rest t ts n, ns = a :: rest ∧ q.priv.timers = t :: ts ∧ s.heap.node a = some n ∧ Mirrors a n t := by
  have li := rf.view.owned.linked
  cases ns with
  | nil => cases head.symm.trans li
  | cons b rest =>
    cases head.symm.trans li.1
    obtain ⟨t, ts, ⟨n, here, mi⟩, -, timers⟩ := List.forall₂_cons_left_iff.mp rf.view.timers
    exact ⟨rest, t, ts, n, rfl, timers, here, mi⟩

/-- An empty list in memory is an empty list. -/
lemma head_none (rf : Refines s ns q) (head : s.heap.head = none) : q.priv.timers = [] := by
  have timers := rf.view.timers
  cases ns with
  | nil => exact List.forall₂_nil_left_iff.mp timers
  | cons b rest => cases head.symm.trans rf.view.owned.linked.1

/-- A round of a pass up to its callback. -/
lemma passStep (rf : Refines s ns q) (st : s.step .passStep = some e) :
    ∃ s' ns' q', e = .ok s' ∧ Reactor.step q .passStep = some q' ∧ Refines s' ns' q' := by
  simp only [State.step] at st
  split at st
  · rename_i now a pass idle head
    obtain ⟨rest, t, ts, n, rfl, timers, here, mi⟩ := rf.head_some head
    rw [load_eq here] at st
    dsimp only at st
    split at st
    · rename_i late
      have late' : t.expiresMs ≤ now.toNat := mi.expiresMs ▸ UInt64.le_iff_toNat_le.mp late
      have none' := rf.running_none idle
      have steps : Reactor.step q .passStep = some (q.passStep t) := by
        rw [Reactor.step, rf.pass, pass, none', timers]
        exact if_pos late'
      have view := rf.view
      rw [idle, Option.toList_none] at view
      rw [steps, Reactor.State.passStep]
      -- the node at the head is freed without its callback, or its callback begins
      cases pending : t.pendingDelete with
      | true =>
        obtain ⟨m', begins, view'⟩ := view.beginRound_cancelled here mi pending
        rw [if_pos rfl]
        rw [begins] at st
        cases st
        refine ⟨_, rest, _, rfl, rfl, view', rf.pass, ?_⟩
        exact (congrArg (fun u => (Option.bind u Timer.callback).isSome) none').symm
      | false =>
        obtain ⟨m', begins, view'⟩ := view.beginRound_live here mi pending
        rw [if_neg Bool.false_ne_true]
        rw [begins] at st
        cases st
        refine ⟨_, rest, _, rfl, rfl, view', rf.pass, ?_⟩
        rw [Priv.beginTimer, Option.bind_some]
        cases t.callback <;> rfl
    · cases st
  · cases st

/-- The rest of the round. -/
lemma callbackEnd (rf : Refines s ns q) (wi : Within q .callbackEnd) (st : s.step .callbackEnd = some e) :
    ∃ s' ns' q', e = .ok s' ∧ Reactor.step q .callbackEnd = some q' ∧ Refines s' ns' q' := by
  simp only [State.step] at st
  split at st
  · rename_i now a pass running
    obtain ⟨t, one, -⟩ := rf.running_some running
    have time : q.pass = some now.toNat := by rw [rf.pass, pass, Option.map_some]
    have view := rf.view
    rw [running, Option.toList_some] at view
    have bounded := wi now.toNat t time one
    obtain ⟨m', ns', ends, view'⟩ := view.endRound one bounded
    have steps : Reactor.step q .callbackEnd = some { q with priv := q.priv.endTimer now.toNat } := by
      rw [Reactor.step, time, one]
      exact if_pos bounded
    rw [ends] at st
    cases st
    refine ⟨_, ns', _, rfl, steps, view', rf.pass, ?_⟩
    rw [Option.toList_eq_nil_iff.mp (List.forall₂_nil_left_iff.mp view'.running)]
    rfl
  · cases st

/-- A pass ends at the first timer that is not due. -/
lemma passEnd (rf : Refines s ns q) (st : s.step .passEnd = some e) :
    ∃ s' q', e = .ok s' ∧ Reactor.step q .passEnd = some q' ∧ Refines s' ns q' := by
  simp only [State.step] at st
  split at st
  · rename_i now pass idle
    have none' := rf.running_none idle
    have ends : (∀ t ∈ q.priv.timers.head?, now.toNat < t.expiresMs) →
        Reactor.step q .passEnd = some { q with pass := none } := by
      intro later
      rw [Reactor.step, rf.pass, pass, none']
      exact if_pos later
    split at st
    · rename_i head
      cases st
      refine ⟨_, _, rfl, ends ?_, rf.view, rfl, rf.calling⟩
      rw [rf.head_none head]
      rintro _ ⟨⟩
    · rename_i a head
      obtain ⟨rest, t, ts, n, rfl, timers, here, mi⟩ := rf.head_some head
      rw [load_eq here] at st
      dsimp only at st
      split at st
      · cases st
      · rename_i later
        cases st
        refine ⟨_, _, rfl, ends ?_, rf.view, rfl, rf.calling⟩
        rw [timers]
        rintro _ ⟨⟩
        rw [mi.expiresMs]
        exact Nat.lt_of_not_le (mt UInt64.le_iff_toNat_le.mpr later)
  · cases st

/-- Every step is one of the list machine. -/
lemma step (rf : Refines s ns q) (wi : Within q l.view) (st : s.step l = some e) :
    ∃ s' ns' q', e = .ok s' ∧ Reactor.step q l.view = some q' ∧ Refines s' ns' q' := by
  cases l with
  | call c =>
    simp only [State.step] at st
    split at st
    · rename_i enabled
      obtain ⟨m', ns', q', returns, steps, rf'⟩ := rf.call wi enabled.1 enabled.2
      rw [returns] at st
      cases st
      exact ⟨_, ns', q', rfl, steps, rf'⟩
    · cases st
  | passBegin nowMs =>
    simp only [State.step] at st
    split at st
    · rename_i idle
      cases st
      have idle' : q.pass = none := by rw [rf.pass, idle, Option.map_none]
      exact ⟨_, ns, _, rfl, if_pos ⟨idle', wi⟩,
        { rf.view with owned := { rf.view.owned with }, currentTimeMs := rfl }, rfl, rf.calling⟩
    · cases st
  | passStep => exact rf.passStep st
  | callbackEnd => exact rf.callbackEnd wi st
  | passEnd =>
    obtain ⟨s', q', ok, steps, rf'⟩ := rf.passEnd st
    exact ⟨s', ns, q', ok, steps, rf'⟩

end Refines

/-- In every run in which the clock does not go back and no deadline reaches `2 ^ 64`, the pointers hold the
timers of the list machine, which takes the same run. -/
theorem refines_run (start : UInt64) (ls : List (Label κ)) (e : Except Fault (State κ))
    (wi : Along Reactor.step Within (.init start.toNat) (ls.map Label.view))
    (rn : run step (.ok (.init start)) ls = some e) :
    ∃ q, run Reactor.step (.init start.toNat) (ls.map Label.view) = some q ∧
      ∃ s ns, e = .ok s ∧ Refines s ns q := by
  have begins : Refines (.init start : State κ) [] (.init start.toNat) := ⟨.init start, rfl, rfl⟩
  refine run_simulates (R := fun e q => ∃ s ns, e = .ok s ∧ Refines s ns q) ?_ ⟨_, [], rfl, begins⟩ wi rn
  rintro _ q l e' ⟨s, ns, rfl, rf⟩ wi st
  obtain ⟨s', ns', q', ok, steps, rf'⟩ := rf.step wi st
  exact ⟨q', steps, s', ns', ok, rf'⟩

/-- A timer cancels itself and another one, in both machines. -/
theorem refines_run_cancelRun :
    ∃ e, run step (.ok (.init 0)) cancelRun = some e ∧
      ∃ q, run Reactor.step (.init 0) (cancelRun.map Label.view) = some q ∧
        ∃ s ns, e = .ok s ∧ Refines s ns q := by
  have ends : (run step (.ok (.init 0)) cancelRun).isSome := by decide +kernel
  have within : Along Reactor.step Within (.init 0) (cancelRun.map Label.view) := by decide +kernel
  obtain ⟨e, rn⟩ := Option.isSome_iff_exists.mp ends
  exact ⟨e, rn, refines_run 0 cancelRun e within rn⟩

end Atpd.Reactor.Pointers
