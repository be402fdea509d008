import Atpd.Lib.Linked
import Atpd.Lib.Run
import Mathlib.Algebra.Group.Nat.Defs
import Mathlib.Data.List.Perm.Basic

/-!
# Timers in memory

The timers of `src/reactor.c` as they are in memory: the internal objects with the pointers `prev` and
`next`, the public objects that are the handles, and the pointers from the one to the other. Deadlines are
of type `uint64_t`, and their sums wrap. An object is named by a number that is never given again, except
for a public object that is freed before anyone has seen it. An access to an object that is not allocated
any more is a `Fault`, and so is freeing it again.

`Reactor/Pass.lean` has the same operations on a list of timers.
-/

namespace Atpd.Reactor.Pointers

open Atpd.Lib

variable {κ : Type}

/-- What must not happen: an access to a freed object, a list that has no end, a loop that has none. -/
inductive Fault where
  | freed
  | cycle
  | endless
deriving DecidableEq, Repr

/-- `reactor_timer_internal_t`, less `prev` and `next`. The callback stands for itself and its data. -/
structure Node (κ : Type) where
  expiresMs : UInt64
  intervalMs : UInt64
  callback : Option κ
  publicTimer : Option Nat
  active : Bool
  pendingDelete : Bool
  linked : Bool

/-- Whether the callback of a timer is called. -/
def Node.calls (t : Node κ) : Bool := t.active && t.callback.isSome && t.publicTimer.isSome

/-- Whether a timer is put back after its callback. -/
def Node.rearms (t : Node κ) : Bool := t.active && !t.pendingDelete && decide (0 < t.intervalMs)

/-- `reactor_timer_t`, as far as the reactor reads it. -/
structure Public where
  internal : Option Nat

/-- The timers of `reactor_private_t`, and the objects that are allocated. -/
structure Heap (κ : Type) where
  node : Nat → Option (Node κ)
  pub : Nat → Option Public
  link : Nat → Link Nat
  head : Option Nat
  timerCount : Nat
  currentTimeMs : UInt64
  timersFired : Nat
  nextId : Nat

/-- As `reactor_create` leaves it. -/
def Heap.init (nowMs : UInt64) : Heap κ where
  node _ := none
  pub _ := none
  link _ := ⟨none, none⟩
  head := none
  timerCount := 0
  currentTimeMs := nowMs
  timersFired := 0
  nextId := 0

/-- What the program calls: a callback while it runs, or other code between two passes. -/
inductive Call (κ : Type) where
  | add (allocPub allocNode : Bool) (nowMs timeoutMs intervalMs : UInt64) (cb : Option κ)
  | cancel (p : Nat)
  | updateTime (nowMs : UInt64)

namespace Heap

/-! ## Objects -/

/-- An internal object is read. -/
def load (m : Heap κ) (a : Nat) : Except Fault (Node κ) :=
  match m.node a with
  | some t => .ok t
  | none => .error .freed

/-- An internal object is written. -/
def store (m : Heap κ) (a : Nat) (t : Node κ) : Except Fault (Heap κ) := do
  let _ ← m.load a
  .ok { m with node := Function.update m.node a (some t) }

/-- `a->next = v`. -/
def setNext (m : Heap κ) (a : Nat) (v : Option Nat) : Except Fault (Heap κ) := do
  let _ ← m.load a
  .ok { m with link := Lib.setNext m.link (some a) v }

/-- `a->prev = v`. -/
def setPrev (m : Heap κ) (a : Nat) (v : Option Nat) : Except Fault (Heap κ) := do
  let _ ← m.load a
  .ok { m with link := Lib.setPrev m.link (some a) v }

/-- `if (prev) prev->next = v; else priv->timer_head = v;` -/
def setNextOrHead (m : Heap κ) (prev v : Option Nat) : Except Fault (Heap κ) :=
  match prev with
  | some p => m.setNext p v
  | none => .ok { m with head := v }

/-- `if (next) next->prev = v;` -/
def setPrevOf (m : Heap κ) (next v : Option Nat) : Except Fault (Heap κ) :=
  match next with
  | some c => m.setPrev c v
  | none => .ok m

/-- `free`, for an internal object. -/
def freeNode (m : Heap κ) (a : Nat) : Except Fault (Heap κ) := do
  let _ ← m.load a
  .ok { m with node := Function.update m.node a none }

/-- A public object is read. -/
def loadPub (m : Heap κ) (p : Nat) : Except Fault Public :=
  match m.pub p with
  | some x => .ok x
  | none => .error .freed

/-- `p->internal = v`. -/
def setInternal (m : Heap κ) (p : Nat) (v : Option Nat) : Except Fault (Heap κ) := do
  let _ ← m.loadPub p
  .ok { m with pub := Function.update m.pub p (some ⟨v⟩) }

/-- `free`, for a public object. -/
def freePub (m : Heap κ) (p : Nat) : Except Fault (Heap κ) := do
  let _ ← m.loadPub p
  .ok { m with pub := Function.update m.pub p none }

/-! ## The list -/

/-- The loop of `timer_list_insert`: `prev` and `cur` behind it. -/
def findPlace (m : Heap κ) (expiresMs : UInt64) :
    Nat → Option Nat → Option Nat → Except Fault (Option Nat × Option Nat)
  | 0, _, _ => .error .cycle
  | _ + 1, prev, none => .ok (prev, none)
  | fuel + 1, prev, some cur => do
    let t ← m.load cur
    if t.expiresMs ≤ expiresMs then m.findPlace expiresMs fuel (some cur) (m.link cur).next
    else .ok (prev, some cur)

/-- `timer_list_insert`. -/
def timerListInsert (m : Heap κ) (a : Nat) : Except Fault (Heap κ) := do
  let t ← m.load a
  let (prev, cur) ← m.findPlace t.expiresMs (m.timerCount + 1) none m.head
  let m ← { m with link := Function.update m.link a ⟨prev, cur⟩ }.store a { t with linked := true }
  let m ← m.setNextOrHead prev (some a)
  let m ← m.setPrevOf cur (some a)
  .ok { m with timerCount := m.timerCount + 1 }

/-- `timer_list_remove`. -/
def timerListRemove (m : Heap κ) (a : Nat) : Except Fault (Heap κ) := do
  let t ← m.load a
  if !t.linked then .ok m
  else
    let m ← m.setNextOrHead (m.link a).prev (m.link a).next
    let m ← m.setPrevOf (m.link a).next (m.link a).prev
    let m ← m.store a { t with linked := false }
    .ok { m with timerCount := m.timerCount - 1 }

/-! ## Calls -/

/-- `reactor_add_timer`, with what `malloc` and `calloc` say and the time that the clock shows. -/
def reactorAddTimer (m : Heap κ) (allocPub allocNode : Bool) (nowMs timeoutMs intervalMs : UInt64)
    (cb : Option κ) : Except Fault (Heap κ × Option Nat) :=
  if !allocPub then .ok (m, none)
  else do
    let id := m.nextId
    let m := { m with pub := Function.update m.pub id (some ⟨none⟩) }
    if !allocNode then
      let m ← m.freePub id
      .ok (m, none)
    else
      let t : Node κ := ⟨nowMs + timeoutMs, intervalMs, cb, some id, true, false, false⟩
      let m := { m with
        node := Function.update m.node id (some t)
        link := Function.update m.link id ⟨none, none⟩
        nextId := id + 1 }
      let m ← m.timerListInsert id
      let m ← m.setInternal id (some id)
      .ok (m, some id)

/-- `reactor_cancel_timer` on a timer in the list: it is due at once, and keeps in the list. -/
def expedite (m : Heap κ) (a : Nat) : Except Fault (Heap κ) := do
  let t ← m.load a
  if t.linked then
    let m ← m.timerListRemove a
    let t ← m.load a
    let m ← m.store a { t with expiresMs := m.currentTimeMs }
    m.timerListInsert a
  else .ok m

/-- `reactor_cancel_timer` behind that: the timer is marked, and the handle is freed. -/
def retire (m : Heap κ) (a p : Nat) : Except Fault (Heap κ) := do
  let t ← m.load a
  let m ← m.store a { t with active := false, pendingDelete := true }
  let m ←
    match t.publicTimer with
    | some q => do
      let m ← m.setInternal q none
      m.store a { t with active := false, pendingDelete := true, publicTimer := none }
    | none => .ok m
  let m ← m.setInternal p none
  m.freePub p

/-- `reactor_cancel_timer`. -/
def reactorCancelTimer (m : Heap κ) (p : Nat) : Except Fault (Heap κ) := do
  let timer ← m.loadPub p
  match timer.internal with
  | none => m.freePub p
  | some a =>
    let m ← m.expedite a
    m.retire a p

/-- What a call does. -/
def call (m : Heap κ) : Call κ → Except Fault (Heap κ)
  | .add allocPub allocNode nowMs timeoutMs intervalMs cb =>
    Prod.fst <$> m.reactorAddTimer allocPub allocNode nowMs timeoutMs intervalMs cb
  | .cancel p => m.reactorCancelTimer p
  | .updateTime nowMs => .ok { m with currentTimeMs := nowMs }

/-! ## A pass -/

/-- `process_expired_timers` frees a timer, and its handle if that is not freed. -/
def release (m : Heap κ) (a : Nat) : Except Fault (Heap κ) := do
  let t ← m.load a
  let m ←
    match t.publicTimer with
    | some p => do
      let m ← m.setInternal p none
      let m ← m.freePub p
      m.store a { t with publicTimer := none }
    | none => .ok m
  m.freeNode a

/-- One round of the loop of `process_expired_timers` up to the callback of the timer `a`: whether there
is more to be done for it, and whether its callback is called. -/
def beginRound (m : Heap κ) (a : Nat) : Except Fault (Heap κ × Option Bool) := do
  let t ← m.load a
  let m ← m.timerListRemove a
  if t.pendingDelete then
    let m ← m.release a
    .ok (m, none)
  else .ok ({ m with timersFired := if t.calls then m.timersFired + 1 else m.timersFired }, some t.calls)

/-- `while (timer->expires_ms <= now) timer->expires_ms += timer->interval_ms`. -/
def catchUp (now intervalMs : UInt64) : Nat → UInt64 → Except Fault UInt64
  | 0, _ => .error .endless
  | fuel + 1, expiresMs =>
    if expiresMs ≤ now then catchUp now intervalMs fuel (expiresMs + intervalMs) else .ok expiresMs

/-- The round behind the callback. -/
def endRound (m : Heap κ) (now : UInt64) (a : Nat) : Except Fault (Heap κ) := do
  let t ← m.load a
  if t.rearms then
    -- the deadlines repeat after `2 ^ 64` of them
    let expiresMs ← catchUp now t.intervalMs (2 ^ 64) (t.expiresMs + t.intervalMs)
    let m ← m.store a { t with expiresMs := expiresMs }
    m.timerListInsert a
  else m.release a

variable {m : Heap κ} {a b p : Nat} {ns : List Nat} {t u : Node κ} {x : Public} {v before ptr : Option Nat}
  {key key' : Nat → Nat}

/-! ## Objects that are allocated -/

/-- A node in memory can be read. -/
lemma load_eq (here : m.node a = some t) : m.load a = .ok t := by rw [load, here]

/-- And written. -/
lemma store_eq (here : m.node a = some u) :
    m.store a t = .ok { m with node := Function.update m.node a (some t) } := by
  rw [store, load_eq here]
  rfl

/-- Its link to the next one can be set. -/
lemma setNext_eq (here : m.node a = some t) :
    m.setNext a v = .ok { m with link := Lib.setNext m.link (some a) v } := by
  rw [setNext, load_eq here]
  rfl

/-- And its link to the one in front. -/
lemma setPrev_eq (here : m.node a = some t) :
    m.setPrev a v = .ok { m with link := Lib.setPrev m.link (some a) v } := by
  rw [setPrev, load_eq here]
  rfl

/-- The link in front is the one of a node, or the head. -/
lemma setNextOrHead_eq {prev : Option Nat} (nodes : ∀ p, prev = some p → ∃ u, m.node p = some u) :
    m.setNextOrHead prev v = .ok { m with
      link := Lib.setNext m.link prev v
      head := if prev.isSome then m.head else v } := by
  cases prev with
  | none => rfl
  | some p =>
    obtain ⟨u, node⟩ := nodes p rfl
    exact setNext_eq node

/-- There may be no node behind. -/
lemma setPrevOf_eq {next : Option Nat} (nodes : ∀ c, next = some c → ∃ u, m.node c = some u) :
    m.setPrevOf next v = .ok { m with link := Lib.setPrev m.link next v } := by
  cases next with
  | none => rfl
  | some c =>
    obtain ⟨u, node⟩ := nodes c rfl
    exact setPrev_eq node

/-- A handle in memory can be read. -/
lemma loadPub_eq (here : m.pub p = some x) : m.loadPub p = .ok x := by rw [loadPub, here]

/-- Its pointer can be set. -/
lemma setInternal_eq (here : m.pub p = some x) :
    m.setInternal p v = .ok { m with pub := Function.update m.pub p (some ⟨v⟩) } := by
  rw [setInternal, loadPub_eq here]
  rfl

/-- And it can be freed. -/
lemma freePub_eq (here : m.pub p = some x) :
    m.freePub p = .ok { m with pub := Function.update m.pub p none } := by
  rw [freePub, loadPub_eq here]
  rfl

/-! ## The place of a timer -/

/-- The deadline of a timer. -/
def deadline (node : Nat → Option (Node κ)) (a : Nat) : Nat :=
  match node a with
  | some t => t.expiresMs.toNat
  | none => 0

/-- The deadline is the one of the node. -/
lemma deadline_eq (here : m.node a = some t) : deadline m.node a = t.expiresMs.toNat := by
  rw [deadline, here]

/-- Writing a node changes its own deadline only. -/
lemma deadline_update (node : Nat → Option (Node κ)) (a : Nat) (t : Node κ) :
    deadline (Function.update node a (some t)) =
      Function.update (deadline node) a t.expiresMs.toNat := by
  funext b
  by_cases same : b = a
  · subst same
    rw [Function.update_self, deadline, Function.update_self]
  · rw [Function.update_of_ne same, deadline, Function.update_of_ne same, deadline]

/-- A timer is written that keeps its deadline. -/
lemma deadline_update_same (here : m.node a = some t) (u : Node κ) (same : u.expiresMs = t.expiresMs) :
    deadline (Function.update m.node a (some u)) = deadline m.node := by
  rw [deadline_update, same, ← deadline_eq here, Function.update_eq_self]

/-- Behind every timer whose deadline is not later. -/
def place (key : Nat → Nat) (a : Nat) : List Nat → List Nat
  | [] => [a]
  | b :: ns => if key b ≤ key a then b :: place key a ns else a :: b :: ns

/-- Placing adds one node. -/
lemma place_perm (key : Nat → Nat) (a : Nat) (ns : List Nat) : (place key a ns).Perm (a :: ns) := by
  induction ns with
  | nil => exact .refl _
  | cons b ns ih =>
    rw [place]
    split
    · exact (ih.cons b).trans (.swap a b ns)
    · exact .refl _

/-- And no other. -/
lemma mem_place : b ∈ place key a ns ↔ b = a ∨ b ∈ ns := (place_perm key a ns).mem_iff.trans List.mem_cons

/-- A new one is there once. -/
lemma nodup_place (nodup : ns.Nodup) (new : a ∉ ns) : (place key a ns).Nodup :=
  (place_perm key a ns).nodup_iff.mpr (List.nodup_cons.mpr ⟨new, nodup⟩)

/-- The list gets longer by one. -/
lemma length_place : (place key a ns).length = ns.length + 1 := (place_perm key a ns).length_eq

/-- A node is placed behind those that are due no later. -/
lemma sorted_place (sorted : ns.Pairwise fun b c => key b ≤ key c) :
    (place key a ns).Pairwise fun b c => key b ≤ key c := by
  induction ns with
  | nil => exact List.pairwise_singleton _ a
  | cons b ns ih =>
    obtain ⟨first, rest⟩ := List.pairwise_cons.mp sorted
    rw [place]
    split
    · rename_i le
      refine List.pairwise_cons.mpr ⟨fun c mem => ?_, ih rest⟩
      rcases mem_place.mp mem with rfl | mem
      · exact le
      · exact first c mem
    · rename_i gt
      refine List.pairwise_cons.mpr ⟨fun c mem => ?_, sorted⟩
      rcases List.mem_cons.mp mem with rfl | mem
      · omega
      · have le := first c mem
        omega

/-- `timer_list_insert` finds that place. -/
lemma findPlace_eq (li : Linked m.link before ptr ns) (nodes : ∀ b ∈ ns, ∃ u, m.node b = some u)
    (here : m.node a = some t) {fuel : Nat} (enough : ns.length < fuel) :
    ∃ pre post, ns = pre ++ post ∧ place (deadline m.node) a ns = pre ++ a :: post ∧
      m.findPlace t.expiresMs fuel before ptr = .ok (pre.getLast?.or before, post.head?) := by
  induction ns generalizing before ptr fuel with
  | nil =>
    obtain ⟨fuel, rfl⟩ : ∃ k, fuel = k + 1 := ⟨fuel - 1, by omega⟩
    obtain rfl : ptr = none := li
    exact ⟨[], [], rfl, rfl, rfl⟩
  | cons b ns ih =>
    obtain ⟨fuel, rfl⟩ : ∃ k, fuel = k + 1 := ⟨fuel - 1, by omega⟩
    obtain ⟨rfl, -, rest⟩ := li
    obtain ⟨u, node⟩ := nodes b List.mem_cons_self
    rw [findPlace, load_eq node, place, deadline_eq node, deadline_eq here]
    simp only [bind, Except.bind]
    by_cases le : u.expiresMs ≤ t.expiresMs
    · obtain ⟨pre, post, split, placed, found⟩ := ih rest
        (fun c mem => nodes c (List.mem_cons_of_mem b mem)) (Nat.lt_of_succ_lt_succ enough)
      refine ⟨b :: pre, post, by rw [split, List.cons_append], ?_, ?_⟩
      · rw [if_pos (UInt64.le_iff_toNat_le.mp le), placed, List.cons_append]
      · rw [if_pos le, found, List.getLast?_cons]
        cases pre.getLast? <;> rfl
    · refine ⟨[], b :: ns, rfl, ?_, ?_⟩
      · rw [if_neg (mt UInt64.le_iff_toNat_le.mpr le)]
        rfl
      · rw [if_neg le]
        rfl

/-- The list from `timer_head`, with the counter and the flags. -/
structure Listed (m : Heap κ) (ns : List Nat) : Prop where
  linked : Linked m.link none m.head ns
  nodup : ns.Nodup
  nodes : ∀ b ∈ ns, ∃ u, m.node b = some u
  count : m.timerCount = ns.length

/-- `timer_list_insert` links the node at its place. -/
lemma timerListInsert_eq (li : Listed m ns) (new : a ∉ ns) (here : m.node a = some t) :
    ∃ link head, m.timerListInsert a = .ok { m with
        node := Function.update m.node a (some { t with linked := true })
        link := link
        head := head
        timerCount := m.timerCount + 1 } ∧
      Linked link none head (place (deadline m.node) a ns) := by
  have enough : ns.length < m.timerCount + 1 := by
    rw [li.count]
    exact Nat.lt_succ_self _
  obtain ⟨pre, post, split, placed, found⟩ := findPlace_eq li.linked li.nodes here enough
  rw [Option.or_none] at found
  refine ⟨insertNode m.link pre.getLast? post.head? a, insertHead m.head pre.getLast? a, ?_, ?_⟩
  · have other : ∀ b ∈ ns, ∃ u, Function.update m.node a (some { t with linked := true }) b = some u := by
      intro b mem
      have ne : b ≠ a := fun same => new (same ▸ mem)
      rw [Function.update_of_ne ne]
      exact li.nodes b mem
    have before : ∀ p, pre.getLast? = some p → p ∈ ns := fun p last =>
      split ▸ List.mem_append_left post (List.mem_of_getLast? last)
    have behind : ∀ c, post.head? = some c → c ∈ ns := fun c first =>
      split ▸ List.mem_append_right pre (List.mem_of_mem_head? first)
    rw [timerListInsert, load_eq here]
    simp only [bind, Except.bind, found]
    have stored := @store_eq κ { m with link := Function.update m.link a ⟨pre.getLast?, post.head?⟩ } a
      { t with linked := true } t here
    rw [stored]
    dsimp only
    rw [setNextOrHead_eq fun p last => other p (before p last)]
    dsimp only
    rw [setPrevOf_eq fun c first => other c (behind c first)]
    rfl
  · rw [placed]
    exact (split ▸ li.linked).insert (split ▸ li.nodup) (split ▸ new)

/-- `timer_list_remove` takes it out. -/
lemma timerListRemove_eq (li : Listed m ns) (mem : a ∈ ns) (here : m.node a = some t)
    (flag : t.linked = true) :
    ∃ link head, m.timerListRemove a = .ok { m with
        node := Function.update m.node a (some { t with linked := false })
        link := link
        head := head
        timerCount := m.timerCount - 1 } ∧
      Linked link none head (ns.erase a) := by
  refine ⟨skipNode m.link a, unlinkHead m.link m.head a, ?_, li.linked.skip li.nodup mem⟩
  have before : ∀ p, (m.link a).prev = some p → ∃ u, m.node p = some u := fun p prev =>
    li.nodes p (li.linked.prev_mem li.nodup mem prev).1
  have behind : ∀ c, (m.link a).next = some c → ∃ u, m.node c = some u := fun c next =>
    li.nodes c (li.linked.next_mem mem next)
  rw [timerListRemove, load_eq here]
  simp only [bind, Except.bind, flag, Bool.not_true, Bool.false_eq_true, if_false]
  rw [setNextOrHead_eq before]
  dsimp only
  have own : Lib.setNext m.link (m.link a).prev (m.link a).next a = m.link a :=
    setNext_of_ne fun prev => (li.linked.prev_mem li.nodup mem prev).2 rfl
  have cut := @setPrevOf_eq κ { m with
    link := Lib.setNext m.link (m.link a).prev (m.link a).next
    head := if (m.link a).prev.isSome then m.head else (m.link a).next } (m.link a).prev (m.link a).next behind
  rw [own, cut]
  dsimp only
  have stored := @store_eq κ { m with
    link := Lib.setPrev (Lib.setNext m.link (m.link a).prev (m.link a).next) (m.link a).next (m.link a).prev
    head := if (m.link a).prev.isSome then m.head else (m.link a).next } a { t with linked := false } t here
  rw [stored]
  rfl

end Heap

end Atpd.Reactor.Pointers
