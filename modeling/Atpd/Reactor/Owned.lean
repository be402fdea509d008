import Atpd.Reactor.Pointers

/-!
# Who owns a timer

What holds of the timers in memory between any two steps: `Owned m out ns`. The list from `timer_head` is
`ns`, and `out` are the timers that are held outside of it, as the one whose callback runs. A timer that is
not cancelled has a public object, and the two point to each other; one that is cancelled has none. So the
handle of a timer is freed by the one who cancels it or by the pass, and the timer by the pass.

Each of the steps that the functions are made of keeps `Owned`: a timer is taken out of the list, put back,
given another deadline, cancelled, or released.
-/

namespace Atpd.Reactor.Pointers

open Atpd.Lib Heap

variable {κ : Type}

/-- The flags of a timer and its pointer to the handle fit to where the timer is. -/
structure Fits (pub : Nat → Option Public) (out ns : List Nat) (a : Nat) (t : Node κ) : Prop where
  flag : t.linked = true ↔ a ∈ ns
  held : a ∈ ns ∨ a ∈ out
  handle : ∀ p, t.publicTimer = some p → pub p = some ⟨some a⟩
  active : t.active = t.publicTimer.isSome
  pending : t.pendingDelete = !t.publicTimer.isSome

/-- The invariant. -/
structure Owned (m : Heap κ) (out ns : List Nat) : Prop extends m.Listed ns where
  sorted : ns.Pairwise fun a b => deadline m.node a ≤ deadline m.node b
  fits : ∀ a t, m.node a = some t → Fits m.pub out ns a t
  apart : ∀ a ∈ out, a ∉ ns ∧ ∃ t, m.node a = some t
  owner : ∀ p x, m.pub p = some x →
    ∃ a t, x = ⟨some a⟩ ∧ m.node a = some t ∧ t.publicTimer = some p
  fresh : ∀ a, m.nextId ≤ a → m.node a = none ∧ m.pub a = none

variable {m m' : Heap κ} {out ns : List Nat} {a b p : Nat} {t u : Node κ} {link : Nat → Link Nat}
  {head : Option Nat} {nowMs : UInt64}

/-- An empty heap owns nothing. -/
lemma Owned.init : Owned (Heap.init nowMs : Heap κ) [] [] where
  linked := rfl
  nodup := .nil
  nodes _ mem := by cases mem
  count := rfl
  sorted := .nil
  fits _ _ node := by cases node
  apart _ mem := by cases mem
  owner _ _ pub := by cases pub
  fresh _ _ := ⟨rfl, rfl⟩

/-- Only the deadlines of the timers in the list matter for its order. -/
lemma sorted_congr (sorted : ns.Pairwise fun a b => deadline m.node a ≤ deadline m.node b)
    (same : ∀ a ∈ ns, m'.node a = m.node a) :
    ns.Pairwise fun a b => deadline m'.node a ≤ deadline m'.node b := by
  refine sorted.imp_of_mem fun {a b} ha hb le => ?_
  rw [deadline, deadline, same a ha, same b hb]
  exact le

namespace Owned

/-- A timer in the list. -/
lemma node_of_mem (ow : Owned m out ns) (mem : a ∈ ns) : ∃ t, m.node a = some t ∧ t.linked = true := by
  obtain ⟨t, node⟩ := ow.nodes a mem
  exact ⟨t, node, (ow.fits a t node).flag.mpr mem⟩

/-- Two timers do not share a handle. -/
lemma handle_ne (ow : Owned m out ns) (ha : m.node a = some t) (hb : m.node b = some u) (ne : b ≠ a)
    (hp : t.publicTimer = some p) : u.publicTimer ≠ some p := by
  intro same
  have first := (ow.fits a t ha).handle p hp
  have second := (ow.fits b u hb).handle p same
  cases first.symm.trans second
  exact ne rfl

/-- A timer is written, and may move between the list and `out`; its handle stays. -/
lemma replace {ns' out' : List Nat} (ow : Owned m out ns) (node : m.node a = some t) (t' : Node κ)
    (handle : t'.publicTimer = t.publicTimer)
    (written : m'.node = Function.update m.node a (some t')) (pub : m'.pub = m.pub)
    (nextId : m'.nextId = m.nextId) (linked : Linked m'.link none m'.head ns') (nodup : ns'.Nodup)
    (count : m'.timerCount = ns'.length)
    (sorted : ns'.Pairwise fun a b => deadline m'.node a ≤ deadline m'.node b)
    (here : Fits m.pub out' ns' a t') (stays : ∀ b, b ≠ a → (b ∈ ns' ↔ b ∈ ns) ∧ (b ∈ out' ↔ b ∈ out))
    (apart : a ∈ out' → a ∉ ns') : Owned m' out' ns' where
  linked := linked
  nodup := nodup
  nodes b mem := by
    rw [written]
    by_cases same : b = a
    · exact ⟨t', same ▸ Function.update_self _ _ _⟩
    · rw [Function.update_of_ne same]
      exact ow.nodes b ((stays b same).1.mp mem)
  count := count
  sorted := sorted
  fits b u node' := by
    rw [written] at node'
    rw [pub]
    by_cases same : b = a
    · subst same
      rw [Function.update_self] at node'
      cases node'
      exact here
    · rw [Function.update_of_ne same] at node'
      obtain ⟨flag, held, owned, active, pending⟩ := ow.fits b u node'
      exact ⟨flag.trans (stays b same).1.symm, held.imp (stays b same).1.mpr (stays b same).2.mpr, owned,
        active, pending⟩
  apart b mem := by
    rw [written]
    by_cases same : b = a
    · exact ⟨same ▸ apart (same ▸ mem), t', same ▸ Function.update_self _ _ _⟩
    · obtain ⟨notin, node'⟩ := ow.apart b ((stays b same).2.mp mem)
      rw [Function.update_of_ne same]
      exact ⟨mt (stays b same).1.mp notin, node'⟩
  owner p x found := by
    rw [pub] at found
    obtain ⟨b, u, same, node', owned⟩ := ow.owner p x found
    rw [written]
    by_cases own : b = a
    · subst own
      cases node.symm.trans node'
      exact ⟨b, t', same, Function.update_self _ _ _, handle.trans owned⟩
    · exact ⟨b, u, same, (Function.update_of_ne own _ _).trans node', owned⟩
  fresh b le := by
    obtain ⟨none', nopub⟩ := ow.fresh b (nextId ▸ le)
    have ne : b ≠ a := by
      rintro rfl
      cases none'.symm.trans node
    rw [written, pub]
    exact ⟨(Function.update_of_ne ne _ _).trans none', nopub⟩

/-- A timer is taken out of the list. -/
lemma take (ow : Owned m out ns) (mem : a ∈ ns) (node : m.node a = some t)
    (li : Linked link none head (ns.erase a)) :
    Owned { m with
      node := Function.update m.node a (some { t with linked := false })
      link := link
      head := head
      timerCount := m.timerCount - 1 } (a :: out) (ns.erase a) := by
  have gone : a ∉ ns.erase a := ow.nodup.not_mem_erase
  have others : ∀ b ∈ ns.erase a, b ≠ a := fun b mem same => gone (same ▸ mem)
  obtain ⟨-, -, handle, active, pending⟩ := ow.fits a t node
  refine ow.replace node { t with linked := false } rfl rfl rfl rfl li (ow.nodup.erase a)
    ?_ ?_ ?_ ?_ fun _ => gone
  · rw [List.length_erase_of_mem mem, ← ow.count]
  · exact sorted_congr (ow.sorted.sublist List.erase_sublist) fun b hb =>
      Function.update_of_ne (others b hb) _ _
  · exact ⟨iff_of_false Bool.false_ne_true gone, .inr List.mem_cons_self, handle, active, pending⟩
  · exact fun b ne => ⟨List.mem_erase_of_ne ne, List.mem_cons.trans (or_iff_right ne)⟩

/-- A timer is put into the list. -/
lemma put (ow : Owned m (a :: out) ns) (new : a ∉ out) (node : m.node a = some t)
    (li : Linked link none head (place (deadline m.node) a ns)) :
    Owned { m with
      node := Function.update m.node a (some { t with linked := true })
      link := link
      head := head
      timerCount := m.timerCount + 1 } out (place (deadline m.node) a ns) := by
  have notin := (ow.apart a List.mem_cons_self).1
  obtain ⟨-, -, handle, active, pending⟩ := ow.fits a t node
  refine ow.replace node { t with linked := true } rfl rfl rfl rfl li (nodup_place ow.nodup notin)
    ?_ ?_ ?_ ?_ ?_
  · rw [length_place, ← ow.count]
  · dsimp only
    rw [deadline_update_same node { t with linked := true } rfl]
    exact sorted_place ow.sorted
  · exact ⟨iff_of_true rfl (mem_place.mpr (.inl rfl)), .inl (mem_place.mpr (.inl rfl)), handle,
      active, pending⟩
  · exact fun b ne => ⟨mem_place.trans (or_iff_right ne), (List.mem_cons.trans (or_iff_right ne)).symm⟩
  · exact fun mem => absurd mem new

/-- A timer outside of the list gets another deadline. -/
lemma setExpires (ow : Owned m (a :: out) ns) (node : m.node a = some t) (expiresMs : UInt64) :
    Owned { m with node := Function.update m.node a (some { t with expiresMs := expiresMs }) }
      (a :: out) ns := by
  have notin := (ow.apart a List.mem_cons_self).1
  obtain ⟨flag, held, handle, active, pending⟩ := ow.fits a t node
  refine ow.replace node { t with expiresMs := expiresMs } rfl rfl rfl rfl ow.linked ow.nodup ow.count
    ?_ ?_ ?_ fun _ => notin
  · refine sorted_congr ow.sorted fun b hb => ?_
    have ne : b ≠ a := fun same => notin (same ▸ hb)
    exact Function.update_of_ne ne _ _
  · exact ⟨flag, held, handle, active, pending⟩
  · exact fun b ne => ⟨.rfl, .rfl⟩

/-- A timer is marked as cancelled, and its handle is freed. -/
lemma drop (ow : Owned m out ns) (node : m.node a = some t) (handle : t.publicTimer = some p) :
    Owned { m with
      node := Function.update m.node a
        (some { t with active := false, pendingDelete := true, publicTimer := none })
      pub := Function.update m.pub p none } out ns where
  linked := ow.linked
  nodup := ow.nodup
  nodes b mem := by
    dsimp only
    by_cases same : b = a
    · subst same
      exact ⟨_, Function.update_self _ _ _⟩
    · rw [Function.update_of_ne same]
      exact ow.nodes b mem
  count := ow.count
  sorted := by
    dsimp only
    rw [deadline_update_same node { t with active := false, pendingDelete := true, publicTimer := none } rfl]
    exact ow.sorted
  fits b u node' := by
    dsimp only at node' ⊢
    by_cases same : b = a
    · subst same
      rw [Function.update_self] at node'
      cases node'
      obtain ⟨flag, held, -, -, -⟩ := ow.fits b t node
      refine ⟨flag, held, fun q eq => ?_, rfl, rfl⟩
      cases eq
    · rw [Function.update_of_ne same] at node'
      obtain ⟨flag, held, owned, active, pending⟩ := ow.fits b u node'
      refine ⟨flag, held, fun q eq => ?_, active, pending⟩
      -- no two nodes share a handle
      have ne : q ≠ p := by
        rintro rfl
        exact ow.handle_ne node node' same handle eq
      rw [Function.update_of_ne ne]
      exact owned q eq
  apart b mem := by
    obtain ⟨notin, u, node'⟩ := ow.apart b mem
    refine ⟨notin, ?_⟩
    dsimp only
    by_cases same : b = a
    · subst same
      exact ⟨_, Function.update_self _ _ _⟩
    · exact ⟨u, (Function.update_of_ne same _ _).trans node'⟩
  owner q x found := by
    dsimp only at found ⊢
    have ne : q ≠ p := by
      rintro rfl
      rw [Function.update_self] at found
      cases found
    rw [Function.update_of_ne ne] at found
    obtain ⟨b, u, same, node', owned⟩ := ow.owner q x found
    have other : b ≠ a := by
      rintro rfl
      cases node.symm.trans node'
      exact ne (Option.some.inj (owned.symm.trans handle))
    exact ⟨b, u, same, (Function.update_of_ne other _ _).trans node', owned⟩
  fresh b le := by
    obtain ⟨none', nopub⟩ := ow.fresh b le
    have ne : b ≠ a := by
      rintro rfl
      cases none'.symm.trans node
    refine ⟨(Function.update_of_ne ne _ _).trans none', ?_⟩
    dsimp only
    by_cases here : b = p
    · exact here ▸ Function.update_self _ _ _
    · exact (Function.update_of_ne here _ _).trans nopub

/-- A timer outside of the list is freed, with its handle. -/
lemma free (ow : Owned m (a :: out) ns) (new : a ∉ out) (node : m.node a = some t)
    {pub : Nat → Option Public} (freed : ∀ q, pub q = if t.publicTimer = some q then none else m.pub q) :
    Owned { m with node := Function.update m.node a none, pub := pub } out ns where
  linked := ow.linked
  nodup := ow.nodup
  nodes b mem := by
    have ne : b ≠ a := fun same => (ow.apart a List.mem_cons_self).1 (same ▸ mem)
    dsimp only
    rw [Function.update_of_ne ne]
    exact ow.nodes b mem
  count := ow.count
  sorted := by
    refine sorted_congr ow.sorted fun b mem => ?_
    have ne : b ≠ a := fun same => (ow.apart a List.mem_cons_self).1 (same ▸ mem)
    exact Function.update_of_ne ne _ _
  fits b u node' := by
    dsimp only at node' ⊢
    have ne : b ≠ a := by
      rintro rfl
      rw [Function.update_self] at node'
      cases node'
    rw [Function.update_of_ne ne] at node'
    obtain ⟨flag, held, owned, active, pending⟩ := ow.fits b u node'
    refine ⟨flag, ?_, fun q eq => ?_, active, pending⟩
    · exact held.imp id fun mem => (List.mem_cons.mp mem).resolve_left ne
    · rw [freed, if_neg fun own => ow.handle_ne node node' ne own eq]
      exact owned q eq
  apart b mem := by
    have ne : b ≠ a := fun same => new (same ▸ mem)
    obtain ⟨notin, u, node'⟩ := ow.apart b (List.mem_cons_of_mem a mem)
    exact ⟨notin, u, (Function.update_of_ne ne _ _).trans node'⟩
  owner q x found := by
    dsimp only at found ⊢
    rw [freed] at found
    split at found
    · cases found
    · rename_i other
      obtain ⟨b, u, same, node', owned⟩ := ow.owner q x found
      have ne : b ≠ a := by
        rintro rfl
        cases node.symm.trans node'
        exact other owned
      exact ⟨b, u, same, (Function.update_of_ne ne _ _).trans node', owned⟩
  fresh b le := by
    obtain ⟨none', nopub⟩ := ow.fresh b le
    have ne : b ≠ a := by
      rintro rfl
      cases none'.symm.trans node
    refine ⟨(Function.update_of_ne ne _ _).trans none', ?_⟩
    dsimp only
    rw [freed, nopub, ite_self]

/-- A timer and its handle are allocated. -/
lemma create (ow : Owned m out ns) (expiresMs intervalMs : UInt64) (cb : Option κ) :
    Owned { m with
      node := Function.update m.node m.nextId
        (some ⟨expiresMs, intervalMs, cb, some m.nextId, true, false, false⟩)
      pub := Function.update m.pub m.nextId (some ⟨some m.nextId⟩)
      link := Function.update m.link m.nextId ⟨none, none⟩
      nextId := m.nextId + 1 } (m.nextId :: out) ns := by
  obtain ⟨nonode, nopub⟩ := ow.fresh m.nextId (Nat.le_refl _)
  -- the new address is not in use
  have old : ∀ {b u}, m.node b = some u → b ≠ m.nextId := by
    rintro b u node rfl
    cases nonode.symm.trans node
  have inside : ∀ b ∈ ns, b ≠ m.nextId := by
    intro b mem
    obtain ⟨u, node⟩ := ow.nodes b mem
    exact old node
  have new : m.nextId ∉ ns := fun mem => inside _ mem rfl
  constructor
  · constructor
    · exact ow.linked.congr fun b mem => Function.update_of_ne (inside b mem) _ _
    · exact ow.nodup
    · intro b mem
      dsimp only
      rw [Function.update_of_ne (inside b mem)]
      exact ow.nodes b mem
    · exact ow.count
  · exact sorted_congr ow.sorted fun b mem => Function.update_of_ne (inside b mem) _ _
  · intro b u node
    dsimp only at node ⊢
    by_cases same : b = m.nextId
    · subst same
      rw [Function.update_self] at node
      cases node
      refine ⟨iff_of_false Bool.false_ne_true new, .inr List.mem_cons_self, ?_, rfl, rfl⟩
      intro q eq
      cases eq
      exact Function.update_self _ _ _
    · rw [Function.update_of_ne same] at node
      obtain ⟨flag, held, owned, active, pending⟩ := ow.fits b u node
      refine ⟨flag, held.imp id (List.mem_cons_of_mem _), fun q eq => ?_, active, pending⟩
      have found := owned q eq
      have ne : q ≠ m.nextId := by
        rintro rfl
        cases nopub.symm.trans found
      exact (Function.update_of_ne ne _ _).trans found
  · intro b mem
    rcases List.mem_cons.mp mem with rfl | mem
    · exact ⟨new, _, Function.update_self _ _ _⟩
    · obtain ⟨notin, u, node⟩ := ow.apart b mem
      exact ⟨notin, u, (Function.update_of_ne (old node) _ _).trans node⟩
  · intro q x found
    dsimp only at found ⊢
    by_cases same : q = m.nextId
    · subst same
      rw [Function.update_self] at found
      cases found
      exact ⟨m.nextId, _, rfl, Function.update_self _ _ _, rfl⟩
    · rw [Function.update_of_ne same] at found
      obtain ⟨b, u, own, node, owned⟩ := ow.owner q x found
      exact ⟨b, u, own, (Function.update_of_ne (old node) _ _).trans node, owned⟩
  · intro b le
    have ne : b ≠ m.nextId := Nat.ne_of_gt le
    obtain ⟨none', nopub⟩ := ow.fresh b (Nat.le_of_succ_le le)
    exact ⟨(Function.update_of_ne ne _ _).trans none', (Function.update_of_ne ne _ _).trans nopub⟩

/-! ## The functions -/

/-- What the functions of the list leave alone. -/
structure Frame (m m' : Heap κ) : Prop where
  pub : m'.pub = m.pub
  currentTimeMs : m'.currentTimeMs = m.currentTimeMs
  timersFired : m'.timersFired = m.timersFired
  nextId : m'.nextId = m.nextId

/-- `timer_list_remove`. -/
lemma remove (ow : Owned m out ns) (mem : a ∈ ns) (node : m.node a = some t) :
    ∃ m', m.timerListRemove a = .ok m' ∧ Owned m' (a :: out) (ns.erase a) ∧
      m'.node = Function.update m.node a (some { t with linked := false }) ∧ Frame m m' := by
  have flag := (ow.fits a t node).flag.mpr mem
  obtain ⟨link, head, removed, li⟩ := timerListRemove_eq ow.toListed mem node flag
  exact ⟨_, removed, ow.take mem node li, rfl, ⟨rfl, rfl, rfl, rfl⟩⟩

/-- `timer_list_insert`. -/
lemma insert (ow : Owned m (a :: out) ns) (new : a ∉ out) (node : m.node a = some t) :
    ∃ m', m.timerListInsert a = .ok m' ∧ Owned m' out (place (deadline m.node) a ns) ∧
      m'.node = Function.update m.node a (some { t with linked := true }) ∧ Frame m m' := by
  have notin := (ow.apart a List.mem_cons_self).1
  obtain ⟨link, head, inserted, li⟩ := timerListInsert_eq ow.toListed notin node
  exact ⟨_, inserted, ow.put new node li, rfl, ⟨rfl, rfl, rfl, rfl⟩⟩

/-- `reactor_add_timer` without memory. -/
lemma add_failed (ow : Owned m out ns) {allocPub allocNode : Bool} (none' : (allocPub && allocNode) = false)
    (nowMs timeoutMs intervalMs : UInt64) (cb : Option κ) :
    m.reactorAddTimer allocPub allocNode nowMs timeoutMs intervalMs cb = .ok (m, none) := by
  cases allocPub with
  | false => rfl
  | true =>
    cases allocNode with
    | true => cases none'
    | false =>
      have nopub := (ow.fresh m.nextId (Nat.le_refl _)).2
      have freed := @freePub_eq κ { m with pub := Function.update m.pub m.nextId (some ⟨none⟩) } m.nextId
        ⟨none⟩ (Function.update_self _ _ _)
      rw [reactorAddTimer]
      simp only [Bool.not_true, Bool.not_false, Bool.false_eq_true, if_false, if_true]
      rw [freed, Function.update_idem, ← nopub, Function.update_eq_self]
      rfl

/-- `reactor_add_timer`. -/
lemma add (ow : Owned m out ns) (nowMs timeoutMs intervalMs : UInt64) (cb : Option κ) :
    ∃ m', m.reactorAddTimer true true nowMs timeoutMs intervalMs cb = .ok (m', some m.nextId) ∧
      Owned m' out (place (deadline m'.node) m.nextId ns) ∧
      m'.node = Function.update m.node m.nextId
        (some ⟨nowMs + timeoutMs, intervalMs, cb, some m.nextId, true, false, true⟩) ∧
      m'.pub = Function.update m.pub m.nextId (some ⟨some m.nextId⟩) ∧
      m'.currentTimeMs = m.currentTimeMs ∧ m'.timersFired = m.timersFired ∧ m'.nextId = m.nextId + 1 := by
  obtain ⟨nonode, nopub⟩ := ow.fresh m.nextId (Nat.le_refl _)
  have created := ow.create (nowMs + timeoutMs) intervalMs cb
  have new : m.nextId ∉ out := by
    intro mem
    obtain ⟨-, u, node⟩ := ow.apart _ mem
    cases nonode.symm.trans node
  have notin := (created.apart m.nextId List.mem_cons_self).1
  -- the list does not see that the handle has no `internal` yet
  have listed : Listed { m with
      node := Function.update m.node m.nextId
        (some ⟨nowMs + timeoutMs, intervalMs, cb, some m.nextId, true, false, false⟩)
      pub := Function.update m.pub m.nextId (some ⟨none⟩)
      link := Function.update m.link m.nextId ⟨none, none⟩
      nextId := m.nextId + 1 } ns :=
    ⟨created.linked, created.nodup, created.nodes, created.count⟩
  obtain ⟨link, head, inserted, li⟩ := timerListInsert_eq listed notin (Function.update_self _ _ _)
  have put := created.put new (Function.update_self _ _ _) li
  have returns : m.reactorAddTimer true true nowMs timeoutMs intervalMs cb = .ok ({ m with
      node := Function.update m.node m.nextId
        (some ⟨nowMs + timeoutMs, intervalMs, cb, some m.nextId, true, false, true⟩)
      pub := Function.update m.pub m.nextId (some ⟨some m.nextId⟩)
      link := link
      head := head
      timerCount := m.timerCount + 1
      nextId := m.nextId + 1 }, some m.nextId) := by
    rw [reactorAddTimer]
    simp only [Bool.not_true, Bool.false_eq_true, if_false, bind, Except.bind]
    rw [inserted]
    dsimp only
    rw [setInternal_eq (Function.update_self _ _ _)]
    dsimp only
    rw [Function.update_idem, Function.update_idem]
  refine ⟨_, returns, ?_, rfl, rfl, rfl, rfl, rfl⟩
  dsimp only at put ⊢
  rw [deadline_update, Function.update_idem] at put
  rw [deadline_update]
  exact put

/-- One change behind another. -/
lemma Frame.trans {m1 m2 m3 : Heap κ} (f : Frame m1 m2) (g : Frame m2 m3) : Frame m1 m3 where
  pub := g.pub.trans f.pub
  currentTimeMs := g.currentTimeMs.trans f.currentTimeMs
  timersFired := g.timersFired.trans f.timersFired
  nextId := g.nextId.trans f.nextId

/-- A timer that is cancelled while it is in the list moves to where it is due. -/
lemma expedite (ow : Owned m out ns) (node : m.node a = some t) :
    ∃ m', m.expedite a = .ok m' ∧
      Owned m' out (if t.linked then place (deadline m'.node) a (ns.erase a) else ns) ∧
      m'.node = Function.update m.node a
        (some { t with expiresMs := if t.linked then m.currentTimeMs else t.expiresMs }) ∧ Frame m m' := by
  rw [Heap.expedite, load_eq node]
  simp only [bind, Except.bind]
  by_cases flag : t.linked = true
  · have mem := (ow.fits a t node).flag.mp flag
    have new : a ∉ out := fun held => (ow.apart a held).1 mem
    obtain ⟨m1, removed, ow1, node1, frame1⟩ := ow.remove mem node
    have here1 : m1.node a = some { t with linked := false } := by rw [node1, Function.update_self]
    have ow2 := ow1.setExpires here1 m1.currentTimeMs
    obtain ⟨m3, inserted, ow3, node3, frame3⟩ := ow2.insert new (Function.update_self _ _ _)
    simp only [if_pos flag]
    rw [removed]
    dsimp only
    rw [load_eq here1]
    dsimp only
    rw [store_eq here1]
    refine ⟨m3, inserted, ?_, ?_, ?_⟩
    · rw [node3, deadline_update_same (Function.update_self _ _ _)]
      · exact ow3
      · rfl
    · rw [node3, Function.update_idem, node1, Function.update_idem, frame1.currentTimeMs, ← flag]
    · exact frame1.trans ⟨frame3.pub, frame3.currentTimeMs, frame3.timersFired, frame3.nextId⟩
  · simp only [if_neg flag]
    refine ⟨m, rfl, ow, ?_, ⟨rfl, rfl, rfl, rfl⟩⟩
    exact (node ▸ (Function.update_eq_self a m.node).symm)

/-- The rest of a cancellation. -/
lemma retire (ow : Owned m out ns) (node : m.node a = some t) (handle : t.publicTimer = some p) :
    ∃ m', m.retire a p = .ok m' ∧ Owned m' out ns ∧
      m'.node = Function.update m.node a
        (some { t with active := false, pendingDelete := true, publicTimer := none }) ∧
      m'.pub = Function.update m.pub p none ∧ m'.currentTimeMs = m.currentTimeMs ∧
      m'.timersFired = m.timersFired ∧ m'.nextId = m.nextId := by
  have pub := (ow.fits a t node).handle p handle
  refine ⟨_, ?_, ow.drop node handle, rfl, rfl, rfl, rfl, rfl⟩
  simp only [Heap.retire, Heap.store, load, setInternal, loadPub, freePub, bind, Except.bind, node, handle, pub,
    Function.update_self, Function.update_idem]

/-- `reactor_cancel_timer` on a handle that is not freed. -/
lemma cancel {x : Public} (ow : Owned m out ns) (live : m.pub p = some x) :
    ∃ a t m', m.node a = some t ∧ t.publicTimer = some p ∧ m.reactorCancelTimer p = .ok m' ∧
      Owned m' out (if t.linked then place (deadline m'.node) a (ns.erase a) else ns) ∧
      m'.node = Function.update m.node a (some { t with
        expiresMs := if t.linked then m.currentTimeMs else t.expiresMs
        active := false
        pendingDelete := true
        publicTimer := none }) ∧
      m'.pub = Function.update m.pub p none ∧ m'.currentTimeMs = m.currentTimeMs ∧
      m'.timersFired = m.timersFired ∧ m'.nextId = m.nextId := by
  obtain ⟨a, t, rfl, node, handle⟩ := ow.owner p x live
  obtain ⟨m1, expedited, ow1, node1, frame⟩ := ow.expedite node
  have here1 : m1.node a = some { t with
      expiresMs := if t.linked then m.currentTimeMs else t.expiresMs } := by
    rw [node1, Function.update_self]
  obtain ⟨m2, retired, ow2, node2, pub, time, fired, next⟩ := ow1.retire here1 handle
  refine ⟨a, t, m2, node, handle, ?_, ?_, ?_, ?_, time.trans frame.currentTimeMs,
    fired.trans frame.timersFired, next.trans frame.nextId⟩
  · rw [reactorCancelTimer, loadPub_eq live]
    simp only [bind, Except.bind]
    rw [expedited]
    exact retired
  · have same := deadline_update_same here1 { t with
      expiresMs := if t.linked then m.currentTimeMs else t.expiresMs
      active := false
      pendingDelete := true
      publicTimer := none } rfl
    rw [node2, same]
    exact ow2
  · rw [node2, node1, Function.update_idem]
  · rw [pub, frame.pub]

/-- A timer is released. -/
lemma release (ow : Owned m (a :: out) ns) (new : a ∉ out) (node : m.node a = some t) :
    ∃ m', m.release a = .ok m' ∧ Owned m' out ns ∧ m'.node = Function.update m.node a none ∧
      m'.currentTimeMs = m.currentTimeMs ∧ m'.timersFired = m.timersFired ∧ m'.nextId = m.nextId := by
  have fits := ow.fits a t node
  cases handle : t.publicTimer with
  | none =>
    refine ⟨_, ?_, @Owned.free κ m out ns a t ow new node m.pub fun q => ?_, rfl, rfl, rfl, rfl⟩
    · simp only [Heap.release, freeNode, load, bind, Except.bind, node, handle]
    · rw [handle, if_neg]
      intro eq
      cases eq
  | some p =>
    have pub := fits.handle p handle
    refine ⟨_, ?_, @Owned.free κ m out ns a t ow new node (Function.update m.pub p none) fun q => ?_,
      rfl, rfl, rfl, rfl⟩
    · simp only [Heap.release, freeNode, Heap.store, load, setInternal, loadPub, freePub, bind, Except.bind, node,
        handle, pub, Function.update_self, Function.update_idem]
    · rw [handle]
      by_cases same : q = p
      · subst same
        rw [if_pos rfl, Function.update_self]
      · rw [Function.update_of_ne same, if_neg]
        intro eq
        cases eq
        exact same rfl

/-- A round begins with a timer that was cancelled: it is freed. -/
lemma beginRound_cancelled (ow : Owned m out ns) (mem : a ∈ ns) (node : m.node a = some t)
    (pending : t.pendingDelete = true) :
    ∃ m', m.beginRound a = .ok (m', none) ∧ Owned m' out (ns.erase a) ∧
      m'.node = Function.update m.node a none ∧ m'.currentTimeMs = m.currentTimeMs ∧
      m'.timersFired = m.timersFired ∧ m'.nextId = m.nextId := by
  have new : a ∉ out := fun held => (ow.apart a held).1 mem
  obtain ⟨m1, removed, ow1, node1, frame⟩ := ow.remove mem node
  obtain ⟨m2, released, ow2, node2, time, fired, next⟩ :=
    ow1.release new (node1 ▸ Function.update_self _ _ _)
  refine ⟨m2, ?_, ow2, ?_, time.trans frame.currentTimeMs, fired.trans frame.timersFired,
    next.trans frame.nextId⟩
  · rw [beginRound, load_eq node]
    simp only [bind, Except.bind]
    rw [removed]
    dsimp only
    rw [if_pos pending, released]
  · rw [node2, node1, Function.update_idem]

/-- A round begins with any other timer: it is taken out of the list. -/
lemma beginRound_live (ow : Owned m out ns) (mem : a ∈ ns) (node : m.node a = some t)
    (live : t.pendingDelete = false) :
    ∃ m', m.beginRound a = .ok (m', some t.calls) ∧ Owned m' (a :: out) (ns.erase a) ∧
      m'.node = Function.update m.node a (some { t with linked := false }) ∧ m'.pub = m.pub ∧
      m'.currentTimeMs = m.currentTimeMs ∧
      m'.timersFired = (if t.calls then m.timersFired + 1 else m.timersFired) ∧ m'.nextId = m.nextId := by
  obtain ⟨m1, removed, ow1, node1, frame⟩ := ow.remove mem node
  refine ⟨{ m1 with timersFired := if t.calls then m1.timersFired + 1 else m1.timersFired }, ?_, ?_, node1,
    frame.pub, frame.currentTimeMs, ?_, frame.nextId⟩
  · rw [beginRound, load_eq node]
    simp only [bind, Except.bind]
    rw [removed]
    simp only [live, Bool.false_eq_true, if_false]
  · exact { ow1 with }
  · dsimp only
    rw [frame.timersFired]

/-- A round ends with a timer that is put back. -/
lemma endRound_rearms (ow : Owned m (a :: out) ns) (new : a ∉ out) (node : m.node a = some t)
    (rearms : t.rearms = true) {now expiresMs : UInt64}
    (ends : catchUp now t.intervalMs (2 ^ 64) (t.expiresMs + t.intervalMs) = .ok expiresMs) :
    ∃ m', m.endRound now a = .ok m' ∧ Owned m' out (place (deadline m'.node) a ns) ∧
      m'.node = Function.update m.node a (some { t with expiresMs := expiresMs, linked := true }) ∧
      Frame m m' := by
  have ow1 := ow.setExpires node expiresMs
  obtain ⟨m2, inserted, ow2, node2, frame⟩ := ow1.insert new (Function.update_self _ _ _)
  refine ⟨m2, ?_, ?_, ?_, ⟨frame.pub, frame.currentTimeMs, frame.timersFired, frame.nextId⟩⟩
  · rw [Heap.endRound, load_eq node]
    simp only [bind, Except.bind, rearms, if_true]
    rw [ends]
    dsimp only
    rw [store_eq node]
    exact inserted
  · rw [node2, deadline_update_same (Function.update_self _ _ _)]
    · exact ow2
    · rfl
  · rw [node2, Function.update_idem]

/-- A round ends with any other timer: it is freed. -/
lemma endRound_frees (ow : Owned m (a :: out) ns) (new : a ∉ out) (node : m.node a = some t)
    (frees : t.rearms = false) (now : UInt64) :
    ∃ m', m.endRound now a = .ok m' ∧ Owned m' out ns ∧ m'.node = Function.update m.node a none ∧
      m'.currentTimeMs = m.currentTimeMs ∧ m'.timersFired = m.timersFired ∧ m'.nextId = m.nextId := by
  obtain ⟨m', released, rest⟩ := ow.release new node
  refine ⟨m', ?_, rest⟩
  rw [Heap.endRound, load_eq node]
  simp only [bind, Except.bind, frees, Bool.false_eq_true, if_false]
  exact released

end Owned

/-- The only thing that can go wrong with the loop behind a callback is that it does not end. -/
lemma catchUp_error {now intervalMs expiresMs : UInt64} {fuel : Nat} {fault : Fault}
    (error : catchUp now intervalMs fuel expiresMs = .error fault) : fault = .endless := by
  induction fuel generalizing expiresMs with
  | zero =>
    cases error
    rfl
  | succ fuel ih =>
    rw [catchUp] at error
    split at error
    · exact ih error
    · cases error

end Atpd.Reactor.Pointers
