import Atpd.Reactor.Table

/-!
# The registration table

The reactor keeps a descriptor in three places: in its table, in the interest set of the kernel, and in
the counter of its statistics. It owns the handlers, and calls the `free_cb` of each when it leaves the
table. Replacement, removal and the exchange of the signal descriptor update these in different orders,
and a `free_cb` runs in the middle of a removal or a replacement, when it may call the reactor for
other descriptors.

`Consistent` is the invariant of the runs in which registered descriptors stay open and no callback
calls the reactor for a descriptor that is being removed or replaced further down the stack
(`Orderly`). It speaks of every state, also while functions of the reactor wait for callbacks; the
descriptors of these functions are `busy`.
-/

namespace Atpd.Reactor

open Atpd.Lib

variable {κ : Type*} {io io' : Io κ} {fd : Nat}

/-- The descriptor that a function of the reactor is at work on. -/
def Frame.fd? : Frame κ → Option Nat
  | .remove fd _ => some fd
  | .replace fd _ => some fd
  | .callback => none

/-- The descriptors that functions of the reactor are at work on. -/
def Io.busy (io : Io κ) : List Nat := io.stack.filterMap Frame.fd?

/-- The descriptor is out of the interest set, and its handler is about to leave the table. -/
def Io.removing (io : Io κ) (fd : Nat) : Prop := ∃ close, Frame.remove fd close ∈ io.stack

instance (io : Io κ) (fd : Nat) [DecidableEq κ] : Decidable (io.removing fd) :=
  inferInstanceAs (Decidable (∃ close, Frame.remove fd close ∈ io.stack))

/-- The number of handlers in the table. -/
def Io.registered (io : Io κ) : Nat :=
  ((Finset.range reactorMaxFd).filter fun fd => (io.handlers fd).isSome).card

/-- The registration is in the table, and not on its way out. -/
def Io.holds (io : Io κ) (reg : Nat) : Prop :=
  ∃ fd h, io.handlers fd = some h ∧ h.reg = reg ∧ ¬io.removing fd

/-- The descriptor is in the table and in the interest set. -/
def Io.live (io : Io κ) (fd : Nat) : Prop := (io.handlers fd).isSome ∧ ¬io.removing fd

instance (io : Io κ) (fd : Nat) [DecidableEq κ] : Decidable (io.live fd) :=
  inferInstanceAs (Decidable (_ ∧ _))

/-- What the callers keep to: a registered descriptor stays open, and a descriptor that is being removed
or replaced is left alone. -/
def Orderly (io : Io κ) : IoLabel κ → Prop
  | .op (.add fd _ _ _ _ _) | .op (.modify fd _ _) | .op (.remove fd) =>
    0 ≤ fd → fd.toNat ∉ io.busy
  | .op (.watchSignal _ os) => io.signalFd ∉ io.busy ∧ ∀ fd ∈ os.signalfd, fd ∉ io.busy
  | .close fd => io.handlers fd = none ∨ io.removing fd
  | .ret | .wait _ | .next => True

instance (io : Io κ) (l : IoLabel κ) [DecidableEq κ] : Decidable (Orderly io l) :=
  match l with
  | .op (.add fd _ _ _ _ _) | .op (.modify fd _ _) | .op (.remove fd) =>
    inferInstanceAs (Decidable (0 ≤ fd → fd.toNat ∉ io.busy))
  | .op (.watchSignal _ os) =>
    inferInstanceAs (Decidable (io.signalFd ∉ io.busy ∧ ∀ fd ∈ os.signalfd, fd ∉ io.busy))
  | .close fd => inferInstanceAs (Decidable (io.handlers fd = none ∨ io.removing fd))
  | .ret | .wait _ | .next => inferInstanceAs (Decidable True)

/-- `reactor_remove_fd` is not called for the signal descriptor. -/
def KeepsSignal (io : Io κ) : IoLabel κ → Prop
  | .op (.remove fd) => fd ≠ io.signalFd
  | _ => True

/-- What of the registrations an operation may change. -/
structure Unchanged (io io' : Io κ) : Prop where
  handlers : io'.handlers = io.handlers
  interest : io'.interest = io.interest
  activeHandlers : io'.activeHandlers = io.activeHandlers
  signalFd : io'.signalFd = io.signalFd
  freed : io'.freed = io.freed
  made : io'.made = io.made

lemma Unchanged.refl (io : Io κ) : Unchanged io io := ⟨rfl, rfl, rfl, rfl, rfl, rfl⟩

/-- The table, the interest set, the counter and the freed registrations agree. -/
structure Registered (io : Io κ) : Prop where
  table : ∀ fd, ¬io.removing fd →
    (io.handlers fd).map Handler.events = (io.interest fd).map Interest.events
  active : io.activeHandlers = io.registered
  /-- A `free_cb` runs once, and has run exactly for the registrations that have left the table. -/
  once : io.freed.Nodup
  freed : ∀ reg, reg ∈ io.freed ↔ reg ∈ io.made ∧ ¬io.holds reg

/-- The invariant. -/
structure Consistent (io : Io κ) : Prop where
  bounded : ∀ fd, reactorMaxFd ≤ fd → io.handlers fd = none
  nodup : io.busy.Nodup
  synced : ∀ fd, ¬io.removing fd →
    (io.handlers fd).map (fun h => (⟨h.events, h.reg⟩ : Interest)) = io.interest fd
  gone : ∀ fd, io.removing fd → io.interest fd = none
  occupied : ∀ fd ∈ io.busy, ∃ h, io.handlers fd = some h
  active : io.activeHandlers = io.registered
  fresh : ∀ fd h, io.handlers fd = some h → h.reg < io.nextReg
  inj : ∀ fd fd' h h', io.handlers fd = some h → io.handlers fd' = some h' → h.reg = h'.reg → fd = fd'
  madeFresh : ∀ reg ∈ io.made, reg < io.nextReg
  made : ∀ fd h, io.handlers fd = some h → (h.reg ∈ io.made ↔ h.freeCb.isSome)
  once : io.freed.Nodup
  freed : ∀ reg, reg ∈ io.freed ↔
    reg ∈ io.made ∧ ∀ fd h, io.handlers fd = some h → h.reg = reg → io.removing fd

/-! ## The table -/

/-- A handler is within the table. -/
lemma lt_of_handler (co : Consistent io) {h : Handler κ} (hh : io.handlers fd = some h) :
    fd < reactorMaxFd := by
  by_contra big
  rw [co.bounded fd (Nat.le_of_not_lt big)] at hh
  cases hh

/-- A removal waits for its callback. -/
lemma mem_busy_of_removing (rm : io.removing fd) : fd ∈ io.busy := by
  obtain ⟨close, hf⟩ := rm
  exact List.mem_filterMap.mpr ⟨_, hf, rfl⟩

/-- A handler is replaced by another. -/
lemma registered_replace {h : Handler κ} {old : Handler κ} (hold : io.handlers fd = some old)
    (new : io'.handlers = Function.update io.handlers fd (some h)) :
    io'.registered = io.registered := by
  have same : ∀ n, (io'.handlers n).isSome = (io.handlers n).isSome := by
    intro n
    rw [new, Function.update_apply]
    split
    · rename_i eq
      rw [eq, hold]
      rfl
    · rfl
  simp only [Io.registered, same]

/-- A handler is new. -/
lemma registered_insert {h : Handler κ} (unset : io.handlers fd = none) (lt : fd < reactorMaxFd)
    (new : io'.handlers = Function.update io.handlers fd (some h)) :
    io'.registered = io.registered + 1 := by
  have fresh : fd ∉ (Finset.range reactorMaxFd).filter fun fd => (io.handlers fd).isSome := by
    simp [unset]
  have set : (Finset.range reactorMaxFd).filter (fun fd => (io'.handlers fd).isSome) =
      insert fd ((Finset.range reactorMaxFd).filter fun fd => (io.handlers fd).isSome) := by
    ext n
    simp only [new, Function.update_apply, Finset.mem_filter, Finset.mem_insert, Finset.mem_range]
    by_cases eq : n = fd
    · simp [eq, lt]
    · simp [eq]
  rw [Io.registered, set, Finset.card_insert_of_notMem fresh]
  rfl

/-- A handler leaves. -/
lemma registered_erase {h : Handler κ} (hh : io.handlers fd = some h) (lt : fd < reactorMaxFd)
    (new : io'.handlers = Function.update io.handlers fd none) :
    io.registered = io'.registered + 1 := by
  have back : io.handlers = Function.update io'.handlers fd (some h) := by
    rw [new, Function.update_idem, ← hh, Function.update_eq_self]
  exact registered_insert (by rw [new, Function.update_self]) lt back

namespace Consistent

/-- A free place is not watched. -/
lemma interest_none (co : Consistent io) (unset : io.handlers fd = none ∨ io.removing fd) :
    io.interest fd = none := by
  by_cases rm : io.removing fd
  · exact co.gone fd rm
  · have unset := unset.resolve_right rm
    rw [← co.synced fd rm, unset]
    rfl

/-! ## Parts of the operations -/

/-- A registration comes in at `fd`, in the place of another one or of none. If the other had a
`free_cb`, it is called. -/
lemma put {events : Nat} {cb : Option κ} (co : Consistent io) (lt : fd < reactorMaxFd)
    (idle : fd ∉ io.busy)
    (handlers : io'.handlers =
      Function.update io.handlers fd (some ⟨events, cb, none, io.nextReg⟩))
    (interest : io'.interest = Function.update io.interest fd (some ⟨events, io.nextReg⟩))
    (nextReg : io'.nextReg = io.nextReg + 1) (made : io'.made = io.made)
    (active : io'.activeHandlers = io'.registered)
    (removing : ∀ n, io'.removing n ↔ io.removing n) (nodup : io'.busy.Nodup)
    (busy : ∀ n ∈ io'.busy, n = fd ∨ n ∈ io.busy) (once : io'.freed.Nodup)
    (freed : ∀ reg, reg ∈ io'.freed ↔ reg ∈ io.freed ∨
      ∃ old, io.handlers fd = some old ∧ old.reg = reg ∧ old.freeCb.isSome) : Consistent io' := by
  have here : ∀ {h}, io'.handlers fd = some h → h = ⟨events, cb, none, io.nextReg⟩ := by
    intro h hh
    rw [handlers, Function.update_self] at hh
    exact (Option.some.inj hh).symm
  have there : ∀ {n}, n ≠ fd → io'.handlers n = io.handlers n := by
    intro n ne
    rw [handlers, Function.update_of_ne ne]
  have keep : ¬io.removing fd := fun rm => idle (mem_busy_of_removing rm)
  refine ⟨fun n big => ?_, nodup, fun n keep => ?_, fun n rm => ?_, fun n hn => ?_, active, fun n h hh => ?_,
    fun n n' h h' hh hh' same => ?_, fun reg hr => ?_, fun n h hh => ?_, once, fun reg => ?_⟩
  · rw [there (by rintro rfl; exact absurd lt (Nat.not_lt_of_le big))]
    exact co.bounded n big
  · by_cases eq : n = fd
    · subst eq
      rw [handlers, interest, Function.update_self, Function.update_self]
      rfl
    · rw [there eq, interest, Function.update_of_ne eq]
      exact co.synced n (fun rm => keep ((removing n).mpr rm))
  · have rm := (removing n).mp rm
    have ne : n ≠ fd := by
      rintro rfl
      exact keep rm
    rw [interest, Function.update_of_ne ne]
    exact co.gone n rm
  · by_cases eq : n = fd
    · rw [eq, handlers, Function.update_self]
      exact ⟨_, rfl⟩
    · rw [there eq]
      exact co.occupied n ((busy n hn).resolve_left eq)
  · rw [nextReg]
    by_cases eq : n = fd
    · subst eq
      rw [here hh]
      exact Nat.lt_succ_self _
    · exact Nat.lt_succ_of_lt (co.fresh n h (there eq ▸ hh))
  · by_cases eq : n = fd
    · by_cases eq' : n' = fd
      · rw [eq, eq']
      · subst eq
        rw [here hh] at same
        exact absurd (co.fresh n' h' (there eq' ▸ hh')) (by rw [← same]; exact Nat.lt_irrefl _)
    · by_cases eq' : n' = fd
      · subst eq'
        rw [here hh'] at same
        exact absurd (co.fresh n h (there eq ▸ hh)) (by rw [same]; exact Nat.lt_irrefl _)
      · exact co.inj n n' h h' (there eq ▸ hh) (there eq' ▸ hh') same
  · rw [nextReg]
    exact Nat.lt_succ_of_lt (co.madeFresh reg (made ▸ hr))
  · rw [made]
    by_cases eq : n = fd
    · subst eq
      rw [here hh]
      -- the new number was never given out before
      simpa using fun hr => Nat.lt_irrefl _ (co.madeFresh _ hr)
    · exact co.made n h (there eq ▸ hh)
  · rw [freed, made]
    constructor
    · rintro (hr | ⟨old, hold, rfl, cb⟩)
      · obtain ⟨hmade, left⟩ := (co.freed reg).mp hr
        refine ⟨hmade, fun n h hh hreg => ?_⟩
        by_cases eq : n = fd
        · subst eq
          rw [here hh] at hreg
          exact absurd (co.madeFresh reg hmade) (by rw [← hreg]; exact Nat.lt_irrefl _)
        · exact (removing n).mpr (left n h (there eq ▸ hh) hreg)
      · have hmade := (co.made fd old hold).mpr cb
        refine ⟨hmade, fun n h hh hreg => ?_⟩
        by_cases eq : n = fd
        · subst eq
          rw [here hh] at hreg
          exact absurd (co.madeFresh _ hmade) (by rw [← hreg]; exact Nat.lt_irrefl _)
        · exact absurd (co.inj n fd h old (there eq ▸ hh) hold hreg) eq
    · rintro ⟨hmade, left⟩
      by_cases leaving : ∃ old, io.handlers fd = some old ∧ old.reg = reg
      · obtain ⟨old, hold, rfl⟩ := leaving
        exact .inr ⟨old, hold, rfl, (co.made fd old hold).mp hmade⟩
      · refine .inl ((co.freed reg).mpr ⟨hmade, fun n h hh hreg => ?_⟩)
        have ne : n ≠ fd := by
          rintro rfl
          exact leaving ⟨h, hh, hreg⟩
        exact (removing n).mp (left n h (there ne ▸ hh) hreg)

/-- The registration at `fd` leaves the table; if it has a `free_cb`, that has run. -/
lemma erase {h : Handler κ} (co : Consistent io) (hh : io.handlers fd = some h)
    (settled : h.reg ∈ io.made → h.reg ∈ io.freed)
    (handlers : io'.handlers = Function.update io.handlers fd none)
    (interest : ∀ n, io'.interest n = if n = fd then none else io.interest n)
    (nextReg : io'.nextReg = io.nextReg) (made : io'.made = io.made) (freed : io'.freed = io.freed)
    (active : io'.activeHandlers = io.activeHandlers - 1)
    (removing : ∀ n, io'.removing n ↔ io.removing n ∧ n ≠ fd) (nodup : io'.busy.Nodup)
    (busy : ∀ n ∈ io'.busy, n ∈ io.busy ∧ n ≠ fd) : Consistent io' := by
  -- what is left in the table is another handler
  have there : ∀ {n h'}, io'.handlers n = some h' → n ≠ fd ∧ io.handlers n = some h' := by
    intro n h' hn
    by_cases eq : n = fd
    · subst eq
      rw [handlers, Function.update_self] at hn
      cases hn
    · rw [handlers, Function.update_of_ne eq] at hn
      exact ⟨eq, hn⟩
  refine ⟨fun n big => ?_, nodup, fun n keep => ?_, fun n rm => ?_, fun n hn => ?_, ?_, fun n h' hn => ?_,
    fun n n' h1 h2 hn hn' same => ?_, fun reg hr => ?_, fun n h' hn => ?_, freed ▸ co.once,
    fun reg => ?_⟩
  · have ne : n ≠ fd := by
      rintro rfl
      rw [co.bounded n big] at hh
      cases hh
    rw [handlers, Function.update_of_ne ne]
    exact co.bounded n big
  · rw [interest, handlers, Function.update_apply]
    split
    · rfl
    · rename_i ne
      exact co.synced n (fun rm => keep ((removing n).mpr ⟨rm, ne⟩))
  · obtain ⟨rm, ne⟩ := (removing n).mp rm
    rw [interest, if_neg ne]
    exact co.gone n rm
  · obtain ⟨hn, ne⟩ := busy n hn
    rw [handlers, Function.update_of_ne ne]
    exact co.occupied n hn
  · have count := registered_erase hh (lt_of_handler co hh) handlers
    rw [active, co.active, count, Nat.add_sub_cancel]
  · rw [nextReg]
    exact co.fresh n h' (there hn).2
  · exact co.inj n n' h1 h2 (there hn).2 (there hn').2 same
  · rw [nextReg]
    exact co.madeFresh reg (made ▸ hr)
  · rw [made]
    exact co.made n h' (there hn).2
  · rw [freed, made]
    constructor
    · intro hr
      obtain ⟨hmade, left⟩ := (co.freed reg).mp hr
      refine ⟨hmade, fun n h' hn hreg => ?_⟩
      obtain ⟨ne, hn⟩ := there hn
      exact (removing n).mpr ⟨left n h' hn hreg, ne⟩
    · rintro ⟨hmade, left⟩
      -- the registration that leaves, or one that left before
      by_cases leaving : h.reg = reg
      · rw [← leaving] at hmade ⊢
        exact settled hmade
      · refine (co.freed reg).mpr ⟨hmade, fun n h' hn hreg => ?_⟩
        have ne : n ≠ fd := by
          rintro rfl
          cases hh.symm.trans hn
          exact leaving hreg
        exact ((removing n).mp (left n h' (by
          rw [handlers, Function.update_of_ne ne]; exact hn) hreg)).1

/-- The `free_cb` of the registration at `fd` is set. -/
lemma adopt (co : Consistent io) (keep : ¬io.removing fd) (freeCb : Option κ) :
    Consistent (io.adopt fd freeCb) := by
  cases freeCb with
  | none => exact co
  | some f =>
    cases hh : io.handlers fd with
    | none =>
      simp only [Io.adopt, hh]
      exact co
    | some h =>
      simp only [Io.adopt, hh]
      -- only the `free_cb` of one handler changes
      have there : ∀ {n h'}, Function.update io.handlers fd (some { h with freeCb := some f }) n =
          some h' → ∃ h0, io.handlers n = some h0 ∧ h0.reg = h'.reg ∧ h0.events = h'.events := by
        intro n h' hn
        rw [Function.update_apply] at hn
        split at hn
        · rename_i eq
          cases hn
          exact ⟨h, eq ▸ hh, rfl, rfl⟩
        · exact ⟨h', hn, rfl, rfl⟩
      refine ⟨fun n big => ?_, co.nodup, fun n rm => ?_, co.gone, fun n hn => ?_, ?_, fun n h' hn => ?_,
        fun n n' h1 h2 hn hn' same => ?_, fun reg hr => ?_, fun n h' hn => ?_, co.once, fun reg => ?_⟩
      · have ne : n ≠ fd := by
          rintro rfl
          rw [co.bounded n big] at hh
          cases hh
        exact (Function.update_of_ne ne _ _).trans (co.bounded n big)
      · have sync := co.synced n rm
        simp only [Function.update_apply]
        split
        · rename_i eq
          rw [eq, hh] at sync
          rw [eq]
          exact sync
        · exact sync
      · simp only [Function.update_apply]
        split
        · exact ⟨_, rfl⟩
        · exact co.occupied n hn
      · exact co.active.trans (registered_replace hh rfl).symm
      · obtain ⟨h0, hn, reg, -⟩ := there hn
        rw [← reg]
        exact co.fresh n h0 hn
      · obtain ⟨a, ha, rega, -⟩ := there hn
        obtain ⟨b, hb, regb, -⟩ := there hn'
        exact co.inj n n' a b ha hb (by rw [rega, regb, same])
      · rcases List.mem_cons.mp hr with rfl | hr
        · exact co.fresh fd h hh
        · exact co.madeFresh reg hr
      · simp only [Function.update_apply] at hn
        split at hn
        · cases hn
          simp
        · rename_i ne
          rw [List.mem_cons, ← co.made n h' hn]
          refine or_iff_right fun same => ne ?_
          exact co.inj n fd h' h hn hh same
      · rw [co.freed]
        constructor
        · rintro ⟨hmade, left⟩
          refine ⟨List.mem_cons_of_mem _ hmade, fun n h' hn hreg => ?_⟩
          obtain ⟨h0, hn, reg, -⟩ := there hn
          exact left n h0 hn (reg.trans hreg)
        · rintro ⟨hmade, left⟩
          -- the handler is still in the table, so it has not been freed
          have other : reg ≠ h.reg := by
            rintro rfl
            exact keep (left fd { h with freeCb := some f } (Function.update_self _ _ _) rfl)
          refine ⟨(List.mem_cons.mp hmade).resolve_left other, fun n h' hn hreg => ?_⟩
          have ne : n ≠ fd := by
            rintro rfl
            cases hh.symm.trans hn
            exact other hreg.symm
          exact left n h' ((Function.update_of_ne ne _ _).trans hn) hreg

/-- Fields that the invariant does not read are set. -/
lemma congr (co : Consistent io) (handlers : io'.handlers = io.handlers)
    (interest : io'.interest = io.interest) (active : io'.activeHandlers = io.activeHandlers)
    (nextReg : io'.nextReg = io.nextReg) (made : io'.made = io.made) (freed : io'.freed = io.freed)
    (nodup : io'.busy.Nodup) (busy : ∀ n ∈ io'.busy, n ∈ io.busy)
    (removing : ∀ n, io'.removing n ↔ io.removing n) : Consistent io' where
  bounded := handlers ▸ co.bounded
  nodup := nodup
  synced n rm := by
    rw [handlers, interest]
    exact co.synced n (fun h => rm ((removing n).mpr h))
  gone n rm := by
    rw [interest]
    exact co.gone n ((removing n).mp rm)
  occupied n hn := by
    rw [handlers]
    exact co.occupied n (busy n hn)
  active := by
    rw [active, Io.registered, handlers]
    exact co.active
  fresh := by
    rw [handlers, nextReg]
    exact co.fresh
  inj := handlers ▸ co.inj
  madeFresh := by
    rw [made, nextReg]
    exact co.madeFresh
  made := by
    rw [handlers, made]
    exact co.made
  once := freed ▸ co.once
  freed reg := by
    rw [freed, made, handlers, co.freed]
    simp only [removing]

/-! ## Calls -/

/-- `reactor_add_fd_ex`, by its branches. -/
lemma addFd (co : Consistent io) (fd : Int) (idle : 0 ≤ fd → fd.toNat ∉ io.busy) (events : Nat)
    (cb freeCb : Option κ) (alloc ok : Bool) :
    Consistent (reactorAddFd io fd events cb freeCb alloc ok).1 := by
  rw [reactorAddFd]
  split
  · rename_i guard
    have idle := idle guard.1
    have keep : ¬io.removing fd.toNat := fun rm => idle (mem_busy_of_removing rm)
    have lt : fd.toNat < reactorMaxFd := by omega
    split
    · rename_i old hold
      have count : ∀ {io' : Io κ} {h : Handler κ},
          io'.handlers = Function.update io.handlers fd.toNat (some h) →
          io'.activeHandlers = io.activeHandlers → io'.activeHandlers = io'.registered :=
        fun new same => same.trans (co.active.trans (registered_replace hold new).symm)
      split
      · dsimp only
        split
        · -- the old handler has a `free_cb`, which runs before the new one is set
          rename_i owned
          refine co.put lt idle rfl rfl rfl rfl (count rfl rfl) (fun n => ?_) ?_ (fun n hn => ?_) ?_
            (fun reg => ?_)
          · simp [Io.removing, Io.enterFree, Io.install]
          · exact List.nodup_cons.mpr ⟨idle, co.nodup⟩
          · exact List.mem_cons.mp hn
          · refine List.nodup_cons.mpr ⟨fun hr => keep ?_, co.once⟩
            exact ((co.freed old.reg).mp hr).2 fd.toNat old hold rfl
          · show reg ∈ old.reg :: io.freed ↔ _
            rw [List.mem_cons, hold, or_comm]
            refine or_congr_right ⟨fun eq => ⟨old, rfl, eq.symm, owned⟩, ?_⟩
            rintro ⟨_, ⟨⟩, eq, -⟩
            exact eq.symm
        · -- without a `free_cb` the new handler takes its place at once
          rename_i unowned
          have installed : Consistent (io.install fd.toNat events cb) := by
            refine co.put lt idle rfl rfl rfl rfl (count rfl rfl) (fun n => .rfl) co.nodup
              (fun n hn => .inr hn) co.once (fun reg => ?_)
            refine ⟨.inl, ?_⟩
            rintro (hr | ⟨other, hother, -, owned⟩)
            · exact hr
            · cases hold.symm.trans hother
              exact absurd owned unowned
          exact installed.adopt keep freeCb
      · exact co
    · rename_i unset
      split
      · dsimp only
        -- a place that was free
        have installed : Consistent { io.install fd.toNat events cb with
            activeHandlers := (io.install fd.toNat events cb).activeHandlers + 1 } := by
          refine co.put lt idle rfl rfl rfl rfl ?_ (fun n => .rfl) co.nodup (fun n hn => .inr hn)
            co.once (fun reg => ?_)
          · show io.activeHandlers + 1 = _
            rw [co.active]
            exact (registered_insert unset lt rfl).symm
          · refine ⟨.inl, ?_⟩
            rintro (hr | ⟨other, hother, -⟩)
            · exact hr
            · cases unset.symm.trans hother
        exact installed.adopt keep freeCb
      · exact co
  · exact co

/-- `reactor_modify_fd` changes the events on both sides. -/
lemma modifyFd (co : Consistent io) (fd : Int) (events : Nat) (ok : Bool) :
    Consistent (reactorModifyFd io fd events ok).1 := by
  rw [reactorModifyFd]
  split
  · split
    · rename_i h i hh hi
      split
      · -- only the events of one handler change, and those of its entry in the interest set
        have there : ∀ {n h'}, Function.update io.handlers fd.toNat (some { h with events := events }) n =
            some h' → ∃ h0, io.handlers n = some h0 ∧ h0.reg = h'.reg ∧ h0.freeCb = h'.freeCb := by
          intro n h' hn
          rw [Function.update_apply] at hn
          split at hn
          · rename_i eq
            cases hn
            exact ⟨h, eq ▸ hh, rfl, rfl⟩
          · exact ⟨h', hn, rfl, rfl⟩
        have back : ∀ {n h0}, io.handlers n = some h0 →
            ∃ h', Function.update io.handlers fd.toNat (some { h with events := events }) n =
              some h' ∧ h'.reg = h0.reg := by
          intro n h0 hn
          rw [Function.update_apply]
          split
          · rename_i eq
            rw [eq, hh] at hn
            cases hn
            exact ⟨_, rfl, rfl⟩
          · exact ⟨h0, hn, rfl⟩
        have keep : ¬io.removing fd.toNat := fun rm => by
          rw [co.gone _ rm] at hi
          cases hi
        refine ⟨fun n big => ?_, co.nodup, fun n rm => ?_, fun n rm => ?_, fun n hn => ?_, ?_,
          fun n h' hn => ?_, fun n n' h1 h2 hn hn' same => ?_, co.madeFresh, fun n h' hn => ?_,
          co.once, fun reg => ?_⟩
        · have ne : n ≠ fd.toNat := by
            rintro rfl
            rw [co.bounded _ big] at hh
            cases hh
          exact (Function.update_of_ne ne _ _).trans (co.bounded n big)
        · have sync := co.synced n rm
          simp only [Function.update_apply]
          split
          · rename_i eq
            rw [eq, hh, hi] at sync
            cases sync
            rfl
          · exact sync
        · have ne : n ≠ fd.toNat := by
            rintro rfl
            exact keep rm
          exact (Function.update_of_ne ne _ _).trans (co.gone n rm)
        · obtain ⟨h0, h0n⟩ := co.occupied n hn
          obtain ⟨h', hn', -⟩ := back h0n
          exact ⟨h', hn'⟩
        · exact co.active.trans (registered_replace hh rfl).symm
        · obtain ⟨h0, hn, reg, -⟩ := there hn
          rw [← reg]
          exact co.fresh n h0 hn
        · obtain ⟨a, ha, rega, -⟩ := there hn
          obtain ⟨b, hb, regb, -⟩ := there hn'
          exact co.inj n n' a b ha hb (by rw [rega, regb, same])
        · obtain ⟨h0, hn, reg, cb⟩ := there hn
          rw [← reg, ← cb]
          exact co.made n h0 hn
        · rw [co.freed]
          refine and_congr_right fun _ => ⟨fun left n h' hn hreg => ?_, fun left n h0 hn hreg => ?_⟩
          · obtain ⟨h0, hn, reg, -⟩ := there hn
            exact left n h0 hn (reg.trans hreg)
          · obtain ⟨h', hn', reg⟩ := back hn
            exact left n h' hn' (reg.trans hreg)
      · exact co
    · exact co
  · exact co

/-- `reactor_remove_fd` waits for the `free_cb`, if there is one. -/
lemma removeFd (co : Consistent io) (fd : Int) (idle : 0 ≤ fd → fd.toNat ∉ io.busy) (close : Bool) :
    Consistent (reactorRemoveFd io fd close).1 := by
  rw [reactorRemoveFd]
  split
  · rename_i guard
    have idle := idle guard.1
    have keep : ¬io.removing fd.toNat := fun rm => idle (mem_busy_of_removing rm)
    split
    · exact co
    · rename_i h hh
      have lt := lt_of_handler co hh
      dsimp only
      split
      · -- the handler stays in the table while its `free_cb` runs
        rename_i owned
        have removing : ∀ n, (({ io with interest := Function.update io.interest fd.toNat none } :
            Io κ).enterFree h (.remove fd.toNat close)).removing n ↔ n = fd.toNat ∨ io.removing n := by
          intro n
          simp only [Io.removing, Io.enterFree, List.mem_cons, Frame.remove.injEq, exists_or]
          refine or_congr_left ⟨fun ⟨_, eq, _⟩ => eq, fun eq => ⟨close, eq, rfl⟩⟩
        refine ⟨co.bounded, List.nodup_cons.mpr ⟨idle, co.nodup⟩, fun n rm => ?_, fun n rm => ?_,
          fun n hn => ?_, co.active, co.fresh, co.inj, co.madeFresh, co.made, ?_, fun reg => ?_⟩
        · have rm : ¬(n = fd.toNat ∨ io.removing n) := fun h => rm ((removing n).mpr h)
          have sync := co.synced n fun h => rm (.inr h)
          exact sync.trans (Function.update_of_ne (fun h => rm (.inl h)) _ _).symm
        · show Function.update io.interest fd.toNat none n = none
          rw [Function.update_apply]
          split
          · rfl
          · rename_i ne
            exact co.gone n (((removing n).mp rm).resolve_left ne)
        · rcases List.mem_cons.mp hn with rfl | hn
          · exact ⟨h, hh⟩
          · exact co.occupied n hn
        · refine List.nodup_cons.mpr ⟨fun hr => keep ?_, co.once⟩
          exact ((co.freed h.reg).mp hr).2 fd.toNat h hh rfl
        · show reg ∈ h.reg :: io.freed ↔ _
          rw [List.mem_cons, co.freed]
          simp only [removing]
          constructor
          · rintro (rfl | ⟨hmade, left⟩)
            · exact ⟨(co.made _ h hh).mpr owned, fun n h' hn same => .inl (co.inj n _ h' h hn hh same)⟩
            · exact ⟨hmade, fun n h' hn hreg => .inr (left n h' hn hreg)⟩
          · rintro ⟨hmade, left⟩
            by_cases own : reg = h.reg
            · exact .inl own
            · refine .inr ⟨hmade, fun n h' hn hreg => (left n h' hn hreg).resolve_left ?_⟩
              rintro rfl
              cases hh.symm.trans hn
              exact own hreg.symm
      · -- without a `free_cb` it is gone at once
        rename_i unowned
        refine co.erase hh (fun hr => absurd ((co.made _ h hh).mp hr) unowned) rfl (fun n => ?_) rfl rfl
          rfl rfl (fun n => ⟨fun rm => ⟨rm, ?_⟩, fun rm => rm.1⟩) co.nodup (fun n hn => ⟨hn, ?_⟩)
        · simp only [Io.finishRemove]
          split
          · rw [Function.update_idem, Function.update_apply]
          · rw [Function.update_apply]
        · rintro rfl
          exact keep rm
        · rintro rfl
          exact idle hn
  · exact co

/-- A failed registration changes nothing. -/
lemma addFd_failed (io : Io κ) (fd : Int) (events : Nat) (cb freeCb : Option κ) (alloc ok : Bool)
    (failed : (reactorAddFd io fd events cb freeCb alloc ok).2 = false) :
    (reactorAddFd io fd events cb freeCb alloc ok).1 = io := by
  rw [reactorAddFd] at failed ⊢
  by_cases guard : 0 ≤ fd ∧ fd < reactorMaxFd ∧ alloc
  · rw [if_pos guard] at failed ⊢
    cases hh : io.handlers fd.toNat with
    | none =>
      simp only [hh] at failed ⊢
      by_cases can : io.canAdd fd.toNat ok
      · simp [can] at failed
      · simp [can]
    | some old =>
      simp only [hh] at failed ⊢
      by_cases can : io.canMod fd.toNat ok
      · rw [if_pos can] at failed
        split at failed <;> cases failed
      · simp [can]
  · rw [if_neg guard]

/-- The registration of a new descriptor. -/
lemma addFd_new {newFd : Nat} (unset : io.handlers newFd = none) {events : Nat} {alloc ok : Bool}
    (added : reactorAddFd io newFd events none none alloc ok = (io', true)) :
    newFd < reactorMaxFd ∧ io' = { io.install newFd events none with
      activeHandlers := io.activeHandlers + 1 } := by
  rw [reactorAddFd] at added
  split at added
  · rename_i guard
    simp only [Int.toNat_natCast, unset] at added
    split at added
    · cases added
      exact ⟨Int.ofNat_lt.mp guard.2.1, rfl⟩
    · cases added
  · cases added

/-- A call that runs no callback leaves the descriptors that are at work. -/
lemma busy_addFd_new {newFd : Nat} (unset : io.handlers newFd = none) (events : Nat) (alloc ok : Bool) :
    (reactorAddFd io newFd events none none alloc ok).1.stack = io.stack ∧
      (reactorAddFd io newFd events none none alloc ok).1.signalFd = io.signalFd := by
  rw [reactorAddFd]
  split
  · simp only [Int.toNat_natCast, unset]
    split <;> exact ⟨rfl, rfl⟩
  · exact ⟨rfl, rfl⟩

/-- Closing a descriptor that is not watched changes nothing. -/
lemma close_self (co : Consistent io) (unset : io.handlers fd = none ∨ io.removing fd) :
    io.close fd = io := by
  rw [Io.close, ← co.interest_none unset, Function.update_eq_self]

/-- `signalfd` returns a descriptor that the table does not have. -/
lemma handlers_new {newFd : Nat} (co : Consistent io) (idle : newFd ∉ io.busy)
    (closed : io.interest newFd = none) : io.handlers newFd = none := by
  have sync := co.synced newFd fun rm => idle (mem_busy_of_removing rm)
  rw [closed] at sync
  exact Option.map_eq_none_iff.mp sync

/-- `reactor_watch_signal` adds the new descriptor, and removes the old one. -/
lemma watchSignal (co : Consistent io) (signo : Int) (os : WatchOs)
    (orderly : Orderly io (.op (.watchSignal signo os)))
    (possible : (Op.watchSignal signo os : Op κ).possible io = true) :
    Consistent (reactorWatchSignal io signo os).1 := by
  obtain ⟨idleOld, idleNew⟩ := orderly
  rw [reactorWatchSignal]
  split
  · split
    · exact co
    · rename_i newFd hnew
      have idle := idleNew newFd hnew
      have closed : io.interest newFd = none := by simpa [Op.possible, hnew] using possible
      have unset := co.handlers_new idle closed
      have added := co.addFd newFd (fun _ => by simpa using idle) reactorEventRead none none os.alloc os.ok
      obtain ⟨stack, signal⟩ := busy_addFd_new unset reactorEventRead os.alloc os.ok
      split
      · rename_i io1 heq
        obtain rfl : io1 = io := by
          have same := addFd_failed io newFd reactorEventRead none none os.alloc os.ok (by rw [heq])
          rwa [heq] at same
        rw [close_self co (.inl unset)]
        exact co
      · rename_i io1 heq
        rw [heq] at added stack
        have busy : io1.busy = io.busy := congrArg (List.filterMap Frame.fd?) stack
        split
        · have watched : Consistent { io1 with signalFd := newFd, sigmask := signo :: io1.sigmask } :=
            added.congr rfl rfl rfl rfl rfl rfl added.nodup (fun _ hn => hn) fun _ => .rfl
          have old : io1.signalFd ∉ io1.busy := by
            rw [heq] at signal
            rw [busy, signal]
            exact idleOld
          have removed := watched.removeFd io1.signalFd (fun _ => by rwa [Int.toNat_natCast]) true
          dsimp only
          exact removed
        · have new : newFd ∉ io1.busy := busy ▸ idle
          have removed := added.removeFd newFd (fun _ => by rwa [Int.toNat_natCast]) true
          dsimp only
          exact removed
  · exact co

/-- By cases on the operation. -/
lemma perform (co : Consistent io) (o : Op κ) (orderly : Orderly io (.op o))
    (possible : o.possible io = true) : Consistent (perform io o).1 := by
  cases o with
  | add fd events cb freeCb alloc ok => exact co.addFd fd orderly events cb freeCb alloc ok
  | modify fd events ok => exact co.modifyFd fd events ok
  | remove fd => exact co.removeFd fd orderly false
  | watchSignal signo os => exact co.watchSignal signo os orderly possible

/-- The callback on top of the stack returns, and the function that waited for it goes on. -/
lemma ret (co : Consistent io) (st : io.ret = some io') : Consistent io' := by
  have nodup := co.nodup
  rw [Io.ret] at st
  split at st
  · cases st
  · -- the `free_cb` of a removal returns: now the handler leaves the table
    rename_i fd close stack hs
    cases st
    have busy : io.busy = fd :: stack.filterMap Frame.fd? := by rw [Io.busy, hs]; rfl
    rw [busy, List.nodup_cons] at nodup
    have top : io.removing fd := ⟨close, by rw [hs]; exact List.mem_cons_self⟩
    obtain ⟨h, hh⟩ := co.occupied fd (mem_busy_of_removing top)
    have removing : ∀ n, ({ io with stack := stack }.finishRemove fd close).removing n ↔
        io.removing n ∧ n ≠ fd := by
      intro n
      refine ⟨fun ⟨c, hc⟩ => ⟨⟨c, by rw [hs]; exact List.mem_cons_of_mem _ hc⟩, ?_⟩, ?_⟩
      · rintro rfl
        exact nodup.1 (List.mem_filterMap.mpr ⟨_, hc, rfl⟩)
      · rintro ⟨⟨c, hc⟩, ne⟩
        rw [hs] at hc
        rcases List.mem_cons.mp hc with hc | hc
        · cases hc
          exact absurd rfl ne
        · exact ⟨c, hc⟩
    refine co.erase hh (fun hr => ?_) rfl (fun n => ?_) rfl rfl rfl rfl removing nodup.2
      (fun n hn => ⟨by rw [busy]; exact List.mem_cons_of_mem _ hn, ?_⟩)
    · refine (co.freed h.reg).mpr ⟨hr, fun n h' hn same => ?_⟩
      rw [co.inj n fd h' h hn hh same]
      exact top
    · simp only [Io.finishRemove]
      split
      · rw [Function.update_apply]
      · split
        · rename_i eq
          rw [eq]
          exact co.gone fd top
        · rfl
    · rintro rfl
      exact nodup.1 hn
  · -- the old handler's `free_cb` returns: the new one gets its own
    rename_i fd freeCb stack hs
    cases st
    have busy : io.busy = fd :: stack.filterMap Frame.fd? := by rw [Io.busy, hs]; rfl
    rw [busy, List.nodup_cons] at nodup
    have popped : Consistent { io with stack := stack } := by
      refine co.congr rfl rfl rfl rfl rfl rfl nodup.2
        (fun n hn => by rw [busy]; exact List.mem_cons_of_mem _ hn) fun n => ?_
      simp [Io.removing, hs]
    exact popped.adopt (fun ⟨c, hc⟩ => nodup.1 (List.mem_filterMap.mpr ⟨_, hc, rfl⟩)) freeCb
  · rename_i stack hs
    cases st
    have busy : io.busy = stack.filterMap Frame.fd? := by rw [Io.busy, hs]; rfl
    rw [busy] at nodup
    refine co.congr rfl rfl rfl rfl rfl rfl nodup (fun n hn => by rw [busy]; exact hn) fun n => ?_
    simp [Io.removing, hs]

/-- The loop of `reactor_run` leaves the registrations alone. -/
lemma loop {stack : List (Frame κ)} {batch : List Ready} {mark : Nat} {delivered : List (Nat × Nat)}
    (co : Consistent io) (empty : io.stack = []) (callbacks : ∀ f ∈ stack, f = .callback) :
    Consistent { io with stack := stack, batch := batch, mark := mark, delivered := delivered } := by
  have busy : stack.filterMap Frame.fd? = [] := by
    refine List.filterMap_eq_nil_iff.mpr fun f hf => ?_
    rw [callbacks f hf]
    rfl
  have none : ∀ n, ¬io.removing n := by simp [Io.removing, empty]
  refine co.congr rfl rfl rfl rfl rfl rfl ?_ (fun n hn => ?_) (fun n => ⟨?_, fun rm => absurd rm (none n)⟩)
  · show (stack.filterMap Frame.fd?).Nodup
    rw [busy]
    exact List.nodup_nil
  · have hn : n ∈ stack.filterMap Frame.fd? := hn
    rw [busy] at hn
    cases hn
  · rintro ⟨c, hc⟩
    cases callbacks _ hc

/-- By cases on the label. -/
lemma step {l : IoLabel κ} (co : Consistent io) (orderly : Orderly io l)
    (st : ioStep io l = some io') : Consistent io' := by
  cases l with
  | op o =>
    rw [ioStep] at st
    split at st
    · rename_i guard
      cases st
      exact co.perform o orderly guard.2
    · cases st
  | ret => exact co.ret st
  | close fd =>
    rw [ioStep] at st
    split at st
    · cases st
      rw [co.close_self orderly]
      exact co
    · cases st
  | wait events =>
    rw [ioStep, Io.wait] at st
    split at st
    · rename_i guard
      obtain ⟨batch, -, rfl⟩ := Option.map_eq_some_iff.mp st
      exact co.loop guard.1 (by simp [guard.1])
    · cases st
  | next =>
    rw [ioStep, Io.next] at st
    split at st
    · rename_i e batch empty _
      dsimp only at st
      split at st
      · cases st
        exact co.loop empty (by simp)
      · split at st
        · cases st
          exact co.loop empty (by simp)
        · cases st
          exact co.loop empty (by simp [empty])
    · cases st

/-- A new reactor watches its two descriptors. -/
lemma created {signalFd eventFd : Nat} {alloc1 ok1 alloc2 ok2 : Bool}
    (create : ioCreate signalFd eventFd alloc1 ok1 alloc2 ok2 = some io) : Consistent io := by
  obtain ⟨io1, first, second⟩ := ioCreate_eq create
  have empty : Consistent (Io.empty signalFd eventFd : Io κ) := by
    refine ⟨fun _ _ => rfl, List.nodup_nil, fun _ _ => rfl, fun _ _ => rfl, nofun, ?_, nofun, nofun,
      nofun, nofun, List.nodup_nil, fun reg => ?_⟩
    · exact (Finset.card_eq_zero.mpr (Finset.filter_false_of_mem (by simp [Io.empty]))).symm
    · simp [Io.empty]
  have co1 := empty.addFd signalFd (fun _ => nofun) reactorEventRead none none alloc1 ok1
  rw [first] at co1
  have stack : io1.stack = [] := by
    have new := @busy_addFd_new κ (Io.empty signalFd eventFd) signalFd rfl reactorEventRead alloc1 ok1
    rw [first] at new
    exact new.1
  have co2 := co1.addFd eventFd (fun _ => by rw [Io.busy, stack]; exact List.not_mem_nil)
    reactorEventRead none none alloc2 ok2
  rw [second] at co2
  exact co2

/-- So the table, the interest set and the counter agree. -/
theorem registered (co : Consistent io) : Registered io where
  table fd keep := by
    rw [← co.synced fd keep, Option.map_map]
    rfl
  active := co.active
  once := co.once
  freed reg := by
    rw [co.freed]
    refine and_congr_right fun _ => ⟨fun left ⟨fd, h, hh, hreg, keep⟩ => keep (left fd h hh hreg), ?_⟩
    intro left fd h hh hreg
    by_contra keep
    exact left ⟨fd, h, hh, hreg, keep⟩

/-! ## Calls that fail -/

/-- A new descriptor is registered and at once removed and closed. -/
lemma watch_undone {newFd : Nat} (unset : io.handlers newFd = none)
    (closed : io.interest newFd = none) {alloc ok : Bool} {io1 : Io κ}
    (added : reactorAddFd io newFd reactorEventRead none none alloc ok = (io1, true)) :
    Unchanged io (reactorRemoveFd io1 newFd true).1 := by
  obtain ⟨lt, rfl⟩ := addFd_new unset added
  have range : (0 : Int) ≤ newFd ∧ (newFd : Int) < reactorMaxFd :=
    ⟨Int.natCast_nonneg _, Int.ofNat_lt.mpr lt⟩
  have here : (io.install newFd reactorEventRead none).handlers newFd =
      some ⟨reactorEventRead, none, none, io.nextReg⟩ := Function.update_self _ _ _
  rw [reactorRemoveFd, if_pos range]
  simp only [Int.toNat_natCast, here]
  refine ⟨?_, ?_, rfl, rfl, rfl, rfl⟩
  · show Function.update (Function.update io.handlers newFd _) newFd none = _
    rw [Function.update_idem, ← unset, Function.update_eq_self]
  · show Function.update (Function.update (Function.update io.interest newFd _) newFd none) newFd
      none = _
    rw [Function.update_idem, Function.update_idem, ← closed, Function.update_eq_self]

/-- If it fails, nothing has changed. -/
lemma watchSignal_failed (co : Consistent io) (signo : Int) (os : WatchOs)
    (orderly : Orderly io (.op (.watchSignal signo os)))
    (possible : (Op.watchSignal signo os : Op κ).possible io = true)
    (failed : (reactorWatchSignal io signo os).2 = false) :
    Unchanged io (reactorWatchSignal io signo os).1 := by
  rw [reactorWatchSignal] at failed ⊢
  split at failed
  · rename_i guard
    rw [if_pos guard]
    split at failed
    · exact .refl io
    · rename_i newFd hnew
      have idle := orderly.2 newFd hnew
      have closed : io.interest newFd = none := by simpa [Op.possible, hnew] using possible
      have unset := co.handlers_new idle closed
      split at failed
      · rename_i io1 heq
        have same := addFd_failed io newFd reactorEventRead none none os.alloc os.ok (by rw [heq])
        rw [heq] at same
        dsimp only at same
        subst same
        dsimp only
        rw [close_self co (.inl unset)]
        exact .refl _
      · rename_i io1 heq
        split at failed
        · cases failed
        · rename_i mask
          rw [if_neg mask]
          dsimp only
          exact watch_undone unset closed heq
  · rename_i guard
    rw [if_neg guard]
    exact .refl io

/-- A call that returns -1 changes nothing. -/
lemma perform_failed (co : Consistent io) (o : Op κ) (orderly : Orderly io (.op o))
    (possible : o.possible io = true) (failed : (Reactor.perform io o).2 = false) :
    Unchanged io (Reactor.perform io o).1 := by
  cases o with
  | add fd events cb freeCb alloc ok =>
    rw [Reactor.perform] at failed ⊢
    rw [addFd_failed io fd events cb freeCb alloc ok failed]
    exact .refl io
  | modify fd events ok =>
    simp only [Reactor.perform, reactorModifyFd] at failed ⊢
    split at failed
    · rename_i guard
      rw [if_pos guard]
      split at failed
      · split at failed
        · cases failed
        · rename_i bad
          rw [if_neg bad]
          exact .refl io
      · exact .refl io
    · rename_i guard
      rw [if_neg guard]
      exact .refl io
  | remove fd =>
    simp only [Reactor.perform, reactorRemoveFd] at failed ⊢
    split at failed
    · split at failed
      · cases failed
      · split at failed <;> cases failed
    · rename_i guard
      rw [if_neg guard]
      exact .refl io
  | watchSignal signo os => exact co.watchSignal_failed signo os orderly possible failed

end Consistent

/-! ## The signal descriptor -/

section Live

variable {n : Nat}

/-- Writing a handler ends no other. -/
lemma live_update {h : Handler κ} (lv : io.live n)
    (handlers : io'.handlers = Function.update io.handlers fd (some h))
    (removing : io'.removing n → io.removing n) : io'.live n := by
  refine ⟨?_, fun rm => lv.2 (removing rm)⟩
  rw [handlers, Function.update_apply]
  split
  · rfl
  · exact lv.1

/-- Nor does giving it a `free_cb`. -/
lemma live_adopt (lv : io.live n) (freeCb : Option κ) : (io.adopt fd freeCb).live n := by
  cases freeCb with
  | none => exact lv
  | some f =>
    cases hh : io.handlers fd with
    | none =>
      simp only [Io.adopt, hh]
      exact lv
    | some h =>
      simp only [Io.adopt, hh]
      exact live_update lv rfl id

/-- Nor does `reactor_add_fd_ex`. -/
lemma live_addFd (lv : io.live n) (fd : Int) (events : Nat) (cb freeCb : Option κ) (alloc ok : Bool) :
    (reactorAddFd io fd events cb freeCb alloc ok).1.live n := by
  rw [reactorAddFd]
  split
  · split
    · split
      · dsimp only
        split
        · refine live_update lv rfl ?_
          rintro ⟨close, hc⟩
          rcases List.mem_cons.mp hc with hc | hc
          · cases hc
          · exact ⟨close, hc⟩
        · have installed : (io.install fd.toNat events cb).live n := live_update lv rfl id
          exact live_adopt installed freeCb
      · exact lv
    · split
      · have installed : ({ io.install fd.toNat events cb with
            activeHandlers := (io.install fd.toNat events cb).activeHandlers + 1 } : Io κ).live n :=
          live_update lv rfl id
        exact live_adopt installed freeCb
      · exact lv
  · exact lv

/-- Nor does `reactor_modify_fd`. -/
lemma live_modifyFd (lv : io.live n) (fd : Int) (events : Nat) (ok : Bool) :
    (reactorModifyFd io fd events ok).1.live n := by
  rw [reactorModifyFd]
  split
  · split
    · split
      · exact live_update lv rfl id
      · exact lv
    · exact lv
  · exact lv

/-- The end of a removal is the end of its own descriptor. -/
lemma live_finishRemove (lv : io.live n) (ne : n ≠ fd) (close : Bool) :
    (io.finishRemove fd close).live n := by
  refine ⟨?_, lv.2⟩
  show (Function.update io.handlers fd none n).isSome
  rw [Function.update_of_ne ne]
  exact lv.1

/-- So is the removal. -/
lemma live_removeFd (lv : io.live n) (fd : Int) (ne : (n : Int) ≠ fd) (close : Bool) :
    (reactorRemoveFd io fd close).1.live n := by
  rw [reactorRemoveFd]
  split
  · rename_i guard
    have ne : n ≠ fd.toNat := by
      intro eq
      exact ne (by rw [eq, Int.toNat_of_nonneg guard.1])
    split
    · exact lv
    · dsimp only
      split
      · refine ⟨lv.1, ?_⟩
        rintro ⟨close, hc⟩
        rcases List.mem_cons.mp hc with hc | hc
        · cases hc
          exact ne rfl
        · exact lv.2 ⟨close, hc⟩
      · exact live_finishRemove lv ne close
  · exact lv

/-- The signal descriptor is not given by a handler. -/
lemma signalFd_adopt (io : Io κ) (fd : Nat) (freeCb : Option κ) :
    (io.adopt fd freeCb).signalFd = io.signalFd := by
  unfold Io.adopt
  split <;> rfl

/-- Nor by adding one. -/
lemma signalFd_addFd (io : Io κ) (fd : Int) (events : Nat) (cb freeCb : Option κ) (alloc ok : Bool) :
    (reactorAddFd io fd events cb freeCb alloc ok).1.signalFd = io.signalFd := by
  rw [reactorAddFd]
  split
  · split
    · split
      · dsimp only
        split
        · rfl
        · exact signalFd_adopt _ _ _
      · rfl
    · split
      · exact signalFd_adopt _ _ _
      · rfl
  · rfl

/-- Nor by modifying one. -/
lemma signalFd_modifyFd (io : Io κ) (fd : Int) (events : Nat) (ok : Bool) :
    (reactorModifyFd io fd events ok).1.signalFd = io.signalFd := by
  rw [reactorModifyFd]
  split
  · split
    · split <;> rfl
    · rfl
  · rfl

/-- Nor by removing one. -/
lemma signalFd_removeFd (io : Io κ) (fd : Int) (close : Bool) :
    (reactorRemoveFd io fd close).1.signalFd = io.signalFd := by
  rw [reactorRemoveFd]
  split
  · split
    · rfl
    · dsimp only
      split <;> rfl
  · rfl

/-- The new signal descriptor is registered before the old one is removed. -/
lemma live_watchSignal (co : Consistent io) (lv : io.live io.signalFd) (signo : Int) (os : WatchOs)
    (orderly : Orderly io (.op (.watchSignal signo os)))
    (possible : (Op.watchSignal signo os : Op κ).possible io = true) :
    (reactorWatchSignal io signo os).1.live (reactorWatchSignal io signo os).1.signalFd := by
  rw [reactorWatchSignal]
  split
  · split
    · exact lv
    · rename_i newFd hnew
      have closed : io.interest newFd = none := by simpa [Op.possible, hnew] using possible
      have unset := co.handlers_new (orderly.2 newFd hnew) closed
      have added := live_addFd lv newFd reactorEventRead none none os.alloc os.ok
      obtain ⟨stack, signal⟩ := Consistent.busy_addFd_new unset reactorEventRead os.alloc os.ok
      split
      · rename_i io1 heq
        rw [heq] at added signal
        have same : io1.signalFd = io.signalFd := signal
        dsimp only
        rw [show (io1.close newFd).signalFd = io.signalFd from same]
        exact added
      · rename_i io1 heq
        rw [heq] at added signal stack
        have same : io1.signalFd = io.signalFd := signal
        have new : newFd ≠ io.signalFd := by
          rintro rfl
          have held := lv.1
          rw [unset] at held
          cases held
        have made : io1.live newFd := by
          obtain ⟨-, rfl⟩ := Consistent.addFd_new unset heq
          refine ⟨?_, fun rm => orderly.2 newFd hnew (mem_busy_of_removing rm)⟩
          show (Function.update io.handlers newFd _ newFd).isSome
          rw [Function.update_self]
          rfl
        split
        · have watched : ({ io1 with signalFd := newFd, sigmask := signo :: io1.sigmask } :
              Io κ).live newFd := made
          have kept := live_removeFd watched io1.signalFd (by
            rw [same]; exact mt Int.ofNat.inj new) true
          dsimp only
          rw [signalFd_removeFd]
          exact kept
        · have kept := live_removeFd added newFd (mt Int.ofNat.inj new.symm) true
          dsimp only
          rw [signalFd_removeFd, same]
          exact kept
  · exact lv

/-- A new reactor has its signal descriptor registered. -/
lemma live_created {signalFd eventFd : Nat} {alloc1 ok1 alloc2 ok2 : Bool}
    (create : ioCreate signalFd eventFd alloc1 ok1 alloc2 ok2 = some io) : io.live io.signalFd := by
  obtain ⟨io1, first, second⟩ := ioCreate_eq create
  have registered : io1.live signalFd := by
    obtain ⟨-, rfl⟩ := Consistent.addFd_new rfl first
    refine ⟨?_, by rintro ⟨c, hc⟩; cases hc⟩
    simp [Io.install]
  have signal1 := signalFd_addFd (Io.empty signalFd eventFd) signalFd reactorEventRead
    (none : Option κ) none alloc1 ok1
  have signal2 := signalFd_addFd io1 eventFd reactorEventRead none none alloc2 ok2
  have kept := live_addFd registered eventFd reactorEventRead none none alloc2 ok2
  rw [first] at signal1
  rw [second] at signal2 kept
  have same : io.signalFd = signalFd := signal2.trans signal1
  rw [same]
  exact kept

/-- The signal descriptor stays registered, as long as nobody removes it. -/
lemma live_step {l : IoLabel κ} (co : Consistent io) (lv : io.live io.signalFd) (orderly : Orderly io l)
    (keeps : KeepsSignal io l) (st : ioStep io l = some io') : io'.live io'.signalFd := by
  cases l with
  | op o =>
    rw [ioStep] at st
    split at st
    · rename_i guard
      cases st
      cases o with
      | add fd events cb freeCb alloc ok =>
        show (reactorAddFd io fd events cb freeCb alloc ok).1.live
          (reactorAddFd io fd events cb freeCb alloc ok).1.signalFd
        rw [signalFd_addFd]
        exact live_addFd lv fd events cb freeCb alloc ok
      | modify fd events ok =>
        show (reactorModifyFd io fd events ok).1.live (reactorModifyFd io fd events ok).1.signalFd
        rw [signalFd_modifyFd]
        exact live_modifyFd lv fd events ok
      | remove fd =>
        show (reactorRemoveFd io fd false).1.live (reactorRemoveFd io fd false).1.signalFd
        rw [signalFd_removeFd]
        exact live_removeFd lv fd (Ne.symm keeps) false
      | watchSignal signo os => exact live_watchSignal co lv signo os orderly guard.2
    · cases st
  | ret =>
    rw [ioStep, Io.ret] at st
    split at st
    · cases st
    · rename_i fd close stack hs
      cases st
      have popped : ({ io with stack := stack } : Io κ).live io.signalFd :=
        ⟨lv.1, fun ⟨c, hc⟩ => lv.2 ⟨c, by rw [hs]; exact List.mem_cons_of_mem _ hc⟩⟩
      -- the removal that ends here was not of the signal descriptor, which is live
      refine live_finishRemove popped ?_ close
      intro same
      exact lv.2 ⟨close, by rw [hs, same]; exact List.mem_cons_self⟩
    · rename_i fd freeCb stack hs
      cases st
      have popped : ({ io with stack := stack } : Io κ).live io.signalFd :=
        ⟨lv.1, fun ⟨c, hc⟩ => lv.2 ⟨c, by rw [hs]; exact List.mem_cons_of_mem _ hc⟩⟩
      rw [signalFd_adopt]
      exact live_adopt popped freeCb
    · rename_i stack hs
      cases st
      exact ⟨lv.1, fun ⟨c, hc⟩ => lv.2 ⟨c, by rw [hs]; exact List.mem_cons_of_mem _ hc⟩⟩
  | close fd =>
    rw [ioStep] at st
    split at st
    · cases st
      exact lv
    · cases st
  | wait events =>
    rw [ioStep, Io.wait] at st
    split at st
    · obtain ⟨batch, -, rfl⟩ := Option.map_eq_some_iff.mp st
      exact lv
    · cases st
  | next =>
    rw [ioStep, Io.next] at st
    split at st
    · dsimp only at st
      split at st
      · cases st
        exact ⟨lv.1, by rintro ⟨c, hc⟩; simp at hc⟩
      · split at st
        · cases st
          exact ⟨lv.1, by rintro ⟨c, hc⟩; simp at hc⟩
        · cases st
          exact lv
    · cases st

end Live

end Atpd.Reactor
