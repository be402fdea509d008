import Atpd.Netlink.Message

/-!
# The netlink walks and the end of the datagram

A loop over netlink messages is meant to stay in what was received. The loops over attributes do; the
loops over messages count down a signed length by the aligned length of each message, and then cast
it: when the last message is not padded to a multiple of four bytes the count becomes negative, and the
cast makes it huge. The walk goes on behind the datagram, where it may even find a length that aligns
to zero and stay for ever. `Padded` says which datagrams are walked as they should be.

The loop over XFRM attributes copies four bytes of an interface id whose length it has not looked at;
`IfIdsFit` says when these are there.
-/

namespace Atpd.Netlink

open Atpd.Config Atpd.Lib

variable {σ : Type} {mem : Nat → UInt8} {stops : Nat → Bool} {len cap lim fuel h a : Nat}

/-! ## The conditions -/

/-- Every message that the loop steps over is followed by its padding. -/
def Padded (mem : Nat → UInt8) (stops : Nat → Bool) (len : Nat) : Prop :=
  ∀ h, (messages mem stops).Chain len 0 h → (messages mem stops).Sits len h → stops h = false →
    h + nlmsgAlign (nlmsgLen mem h) ≤ len

/-- Where the attributes of an XFRM message begin. -/
def xfrmRta (h : Nat) : Nat := h + (nlmsgHdrlen + xfrmUsersaInfoSize)

/-- Four bytes of each interface id that the loop over the attributes of `h` comes to are there. -/
def IfIdFits (mem : Nat → UInt8) (len h : Nat) : Prop :=
  isNewsa mem h = true → ∀ a,
    (attributes mem (namesInterface mem)).Chain (h + nlmsgLen mem h) (xfrmRta h) a →
      (attributes mem (namesInterface mem)).Sits (h + nlmsgLen mem h) a →
        isIfId mem a = true → a + rtattrSize + 4 ≤ len

/-- Four bytes of each interface id that the walk comes to are there. -/
def IfIdsFit (mem : Nat → UInt8) (len : Nat) : Prop :=
  ∀ h, (messages mem never).Chain len 0 h → (messages mem never).Sits len h → IfIdFits mem len h

/-- The datagram has the end of the dump, or an error response. -/
def Finishes (mem : Nat → UInt8) (expectedSeq len : Nat) : Prop :=
  ∃ h, (messages mem (endsDump mem expectedSeq)).Chain len 0 h ∧
    (messages mem (endsDump mem expectedSeq)).Sits len h ∧ endsDump mem expectedSeq h = true

/-- Every datagram up to the one that ends the reception is padded. -/
def RecvPadded (expectedSeq : Nat) : List (Datagram nlDumpSize) → Prop
  | [] => True
  | d :: ds => Padded d.mem (endsDump d.mem expectedSeq) d.len ∧
      (¬Finishes d.mem expectedSeq d.len → RecvPadded expectedSeq ds)

/-! ## Arithmetic -/

/-- A small number keeps its value as an unsigned one. -/
lemma asUint32_of_nonneg {x : Int} (nonneg : 0 ≤ x) (small : x < 4294967296) : asUint32 x = x :=
  Int.emod_eq_of_lt nonneg small

/-- The cast of a count that is just below zero. -/
lemma asUint32_of_neg {x : Int} (neg : x < 0) (near : -4 < x) : asUint32 x = 4294967296 + x := by
  rw [asUint32]
  omega

/-- And a number within the range of `int` as an `int`. -/
lemma asInt_of_small {x : Int} (lower : -2147483648 ≤ x) (upper : x < 2147483648) : asInt x = x := by
  rw [asInt]
  omega

/-- A message is aligned to the next multiple of four. -/
lemma nlmsgAlign_bounds {n : Nat} (small : n < 2147483648) :
    n ≤ nlmsgAlign n ∧ nlmsgAlign n < n + 4 := by
  rw [nlmsgAlign]
  omega

/-- Aligning does not shorten. -/
lemma le_rtaAlign (n : Nat) : n ≤ rtaAlign n := by
  rw [rtaAlign]
  omega

/-! ## The loop over the messages -/

/-- The record that lies in the datagram passes the test of the loop. -/
lemma passes_of_sits (small : len < 2147483648) (sits : (messages mem stops).Sits len h) :
    (messages mem stops).Passes len h := by
  refine (Walk.passes_iff_sits ?_).mpr sits
  have le := sits.2
  exact asUint32_of_nonneg (by omega) (by omega)

/-- Every message of the chain is one that the loop comes to. -/
lemma comes_of_chain (small : len < 2147483648) (ch : (messages mem stops).Chain len 0 h) :
    (messages mem stops).Comes len 0 h := by
  induction ch with
  | first => exact .first
  | next _ sits goes ih => exact .next ih (passes_of_sits small sits) goes

/-- What passes the test in front of the end lies in the datagram. -/
lemma sits_of_passes (small : len < 2147483648) (le : h ≤ len)
    (passes : (messages mem stops).Passes len h) : (messages mem stops).Sits len h := by
  refine (Walk.passes_iff_sits ?_).mp passes
  exact asUint32_of_nonneg (by omega) (by omega)

/-- In a padded datagram the loop comes to the messages that are there. -/
lemma chain_of_comes (small : len < 2147483648) (padded : Padded mem stops len)
    (co : (messages mem stops).Comes len 0 h) : (messages mem stops).Chain len 0 h ∧ h ≤ len := by
  induction co with
  | first => exact ⟨.first, Nat.zero_le len⟩
  | next _ passes goes ih =>
    have sits := sits_of_passes small ih.2 passes
    exact ⟨.next ih.1 sits goes, padded _ ih.1 sits goes⟩

/-- A loop that looks at no header behind the datagram has padded messages in front of it. -/
lemma padded_of_held (small : len < 2147483648)
    (held : ∀ h, (messages mem stops).Comes len 0 h →
      (nlmsgHdrlen : Int) ≤ asUint32 (len - h) → h + nlmsgHdrlen ≤ len) :
    Padded mem stops len := by
  intro h ch sits goes
  have size := sits.2
  have bounds := nlmsgAlign_bounds (n := nlmsgLen mem h) (by
    have : nlmsgLen mem h ≤ len := Nat.le_trans (Nat.le_add_left _ h) size
    omega)
  have next : (messages mem stops).Comes len 0 (h + nlmsgAlign (nlmsgLen mem h)) :=
    .next (comes_of_chain small ch) (passes_of_sits small sits) goes
  by_contra beyond
  -- the count is negative here, and the cast hides it
  have size : h + nlmsgLen mem h ≤ len := size
  have wrapped : asUint32 ((len : Int) - (h + nlmsgAlign (nlmsgLen mem h) : Nat)) =
      4294967296 + ((len : Int) - (h + nlmsgAlign (nlmsgLen mem h) : Nat)) :=
    asUint32_of_neg (by omega) (by omega)
  have behind := held _ next (by
    rw [wrapped, nlmsgHdrlen]
    omega)
  omega

/-- The count at the start of a loop. -/
lemma count_start (len : Nat) : (len : Int) = (len : Int) - (0 : Nat) := by simp

/-- A loop over messages that has ended and stayed in the datagram has padded messages, and visits that
fit. -/
theorem padded_of_messages {visit : Nat → σ → Option (List Span × σ)} (Fits : Nat → Prop) {st : σ}
    {r : Walked σ} (small : len < 2147483648)
    (fits : ∀ h st v, (messages mem stops).Sits len h → visit h st = some v → Inside len v.1 → Fits h)
    (rn : (messages mem stops).run visit fuel 0 len st = some r) (ins : Inside len r.reads) :
    Padded mem stops len ∧ ∀ h, (messages mem stops).Chain len 0 h →
      (messages mem stops).Sits len h → Fits h := by
  rw [count_start len] at rn
  refine ⟨padded_of_held small fun h co => (Walk.within_of_run rn ins co).1, fun h ch sits => ?_⟩
  obtain ⟨st', v, visited, inside⟩ := (Walk.within_of_run rn ins (comes_of_chain small ch)).2
    (passes_of_sits small sits)
  exact fits h st' v sits visited inside

/-- A loop over padded messages ends, and stays in the datagram if its visits do. -/
theorem messages_inside {visit : Nat → σ → Option (List Span × σ)} (small : len < 2147483648)
    (enough : len < fuel) (padded : Padded mem stops len)
    (visits : ∀ h st, (messages mem stops).Chain len 0 h → (messages mem stops).Sits len h →
      ∃ v, visit h st = some v ∧ Inside len v.1) (st : σ) :
    ∃ r, (messages mem stops).run visit fuel 0 len st = some r ∧ Inside len r.reads := by
  rw [count_start len]
  refine Walk.run_within (by decide : 0 < nlmsgHdrlen) ?_ ?_ (by omega) st
  · intro h co room
    have le := (chain_of_comes small padded co).2
    have true : asUint32 ((len : Int) - h) = len - h := asUint32_of_nonneg (by omega) (by omega)
    have room : (nlmsgHdrlen : Int) ≤ asUint32 (len - h) := room
    rw [true] at room
    show h + nlmsgHdrlen ≤ len
    omega
  · intro h co passes
    obtain ⟨ch, le⟩ := chain_of_comes small padded co
    have sits := sits_of_passes small le passes
    refine ⟨?_, fun st => visits h st ch sits⟩
    have header : 16 ≤ nlmsgLen mem h := sits.1
    have size : h + nlmsgLen mem h ≤ len := sits.2
    have bounds := nlmsgAlign_bounds (n := nlmsgLen mem h) (by omega)
    show 0 < nlmsgAlign (nlmsgLen mem h)
    omega

/-- A loop over padded messages is left from its body exactly at a message that is there. -/
lemma stopped_iff_of_padded {visit : Nat → σ → Option (List Span × σ)} {st : σ} {r : Walked σ}
    (small : len < 2147483648) (padded : Padded mem stops len)
    (rn : (messages mem stops).run visit fuel 0 len st = some r) :
    r.stopped = true ↔ ∃ h, (messages mem stops).Chain len 0 h ∧ (messages mem stops).Sits len h ∧
      stops h = true := by
  rw [count_start len] at rn
  rw [Walk.stopped_iff rn]
  constructor
  · rintro ⟨h, co, passes, stop⟩
    obtain ⟨ch, le⟩ := chain_of_comes small padded co
    exact ⟨h, ch, sits_of_passes small le passes, stop⟩
  · rintro ⟨h, ch, sits, stop⟩
    exact ⟨h, comes_of_chain small ch, passes_of_sits small sits, stop⟩

/-! ## The loops over the attributes -/

/-- A loop over attributes that has ended and stayed in front of `cap` has visits that fit. -/
theorem fits_of_attributes {visit : Nat → σ → Option (List Span × σ)} (Fits : Nat → Prop)
    {start : Nat} {st : σ} {r : Walked σ}
    (fits : ∀ a st v, visit a st = some v → Inside cap v.1 → Fits a)
    (rn : (attributes mem stops).run visit fuel start (lim - start) st = some r)
    (ins : Inside cap r.reads) (ch : (attributes mem stops).Chain lim start a)
    (sits : (attributes mem stops).Sits lim a) : Fits a := by
  have co := (Walk.comes_iff_chain fun _ => rfl).mpr ch
  obtain ⟨st', v, visited, inside⟩ :=
    (Walk.within_of_run rn ins co).2 ((Walk.passes_iff_sits rfl).mpr sits)
  exact fits a st' v visited inside

/-- A loop over attributes ends, and stays in front of `cap` if its visits do. -/
theorem attributes_inside {visit : Nat → σ → Option (List Span × σ)} (le : lim ≤ cap)
    (enough : cap < fuel) (start : Nat)
    (visits : ∀ a st, (attributes mem stops).Chain lim start a → (attributes mem stops).Sits lim a →
      ∃ v, visit a st = some v ∧ Inside cap v.1) (st : σ) :
    ∃ r, (attributes mem stops).run visit fuel start (lim - start) st = some r ∧
      Inside cap r.reads := by
  refine Walk.run_within (by decide : 0 < rtattrSize) ?_ ?_ (by omega) st
  · intro a _ room
    have room : (rtattrSize : Int) ≤ lim - a := room
    show a + rtattrSize ≤ cap
    omega
  · intro a co passes
    have sits := (Walk.passes_iff_sits rfl).mp passes
    have ch := (Walk.comes_iff_chain fun _ => rfl).mp co
    refine ⟨?_, fun st => visits a st ch sits⟩
    have header : 4 ≤ rtaLen mem a := sits.1
    have aligned := le_rtaAlign (rtaLen mem a)
    show 0 < rtaAlign (rtaLen mem a)
    omega

/-- The count of a loop over the attributes of a message. -/
lemma nlmsgPayload_eq {size : Nat} (small : len < 2147483648) (fit : size < 1024)
    (sits : (messages mem stops).Sits len h) :
    nlmsgPayload mem h size = (h + nlmsgLen mem h : Nat) - (h + (nlmsgHdrlen + size) : Nat) := by
  have size : h + nlmsgLen mem h ≤ len := sits.2
  rw [nlmsgPayload, asInt_of_small]
  · omega
  · rw [nlmsgHdrlen]
    omega
  · omega

/-- The attributes of a link message. -/
lemma linkAttribute_inside (info : LinkInfo) (le : lim ≤ cap)
    (sits : (attributes mem stops).Sits lim a) :
    ∃ v, linkAttribute mem a info = some v ∧ Inside cap v.1 := by
  have header : rtattrSize ≤ rtaLen mem a := sits.1
  have size : a + rtaLen mem a ≤ lim := sits.2
  rw [linkAttribute]
  split
  · refine ⟨_, rfl, ?_⟩
    simp only [inside_cons, rtaPayload, inside_nil, and_true]
    omega
  · split
    · rename_i stats
      refine ⟨_, rfl, ?_⟩
      have room := stats.2
      simp only [inside_cons, inside_nil, and_true]
      rw [rtaPayload] at room
      omega
    · exact ⟨_, rfl, inside_nil⟩

/-- `parser_link_sync` ends and stays in the datagram. -/
lemma parserLinkSync_inside (ctx : ParseCtx) (small : len < 2147483648)
    (sits : (messages mem stops).Sits len h) (enough : len < fuel) :
    ∃ v, parserLinkSync fuel mem h ctx = some v ∧ Inside len v.1 := by
  have le : h + nlmsgLen mem h ≤ len := sits.2
  rw [parserLinkSync]
  split
  · exact ⟨_, rfl, inside_nil⟩
  · split
    · exact ⟨_, rfl, inside_nil⟩
    · obtain ⟨r, rn, ins⟩ : ∃ r, (attributes mem never).run (linkAttribute mem) fuel
          (h + (nlmsgHdrlen + ifinfomsgSize)) _ ⟨[], u32 mem (h + nlmsgHdrlen + 8), 0, 0⟩ = some r ∧
          Inside len r.reads :=
        attributes_inside le enough _ (fun a info _ here => linkAttribute_inside info le here) _
      rw [nlmsgPayload_eq small (by decide) sits]
      dsimp only
      rw [rn]
      exact ⟨_, rfl, ins⟩

/-- The attributes of an XFRM message: only the interface id is read. -/
lemma xfrmAttribute_inside (mem : Nat → UInt8) (cap a : Nat) (effects : List Effect) :
    ∃ v, xfrmAttribute mem a effects = some v ∧
      (Inside cap v.1 ↔ (isIfId mem a = true → a + rtattrSize + 4 ≤ cap)) := by
  rw [xfrmAttribute]
  split
  · rename_i named
    exact ⟨_, rfl, by simp [named]⟩
  · rename_i other
    exact ⟨_, rfl, by simp [other]⟩

/-- The body of the loop of `netlink_xfrm_event_cb` ends, and stays in the datagram if the interface
ids do. -/
lemma xfrmMessage_inside (effects : List Effect) (small : len < 2147483648)
    (sits : (messages mem stops).Sits len h) (enough : len < fuel) (fit : IfIdFits mem len h) :
    ∃ v, xfrmMessage fuel mem h effects = some v ∧ Inside len v.1 := by
  have le : h + nlmsgLen mem h ≤ len := sits.2
  rw [xfrmMessage]
  split
  · rename_i newsa
    obtain ⟨r, rn, ins⟩ : ∃ r, (attributes mem (namesInterface mem)).run (xfrmAttribute mem) fuel
        (xfrmRta h) _ effects = some r ∧ Inside len r.reads := by
      refine attributes_inside le enough _ (fun a effects ch here => ?_) effects
      obtain ⟨v, visited, inside⟩ := xfrmAttribute_inside mem len a effects
      exact ⟨v, visited, inside.mpr (fit newsa a ch here)⟩
    rw [nlmsgPayload_eq small (by decide) sits]
    exact ⟨_, Option.map_eq_some_iff.mpr ⟨r, rn, rfl⟩, ins⟩
  · split <;> exact ⟨_, rfl, inside_nil⟩

/-- If a message is read inside the buffer, so is the interface number in it. -/
lemma ifIdFits_of_xfrmMessage {effects : List Effect} {v : List Span × List Effect}
    (small : len < 2147483648) (sits : (messages mem stops).Sits len h)
    (visited : xfrmMessage fuel mem h effects = some v) (ins : Inside len v.1) :
    IfIdFits mem len h := by
  intro newsa a ch here
  rw [xfrmMessage, if_pos newsa, nlmsgPayload_eq small (by decide) sits] at visited
  obtain ⟨r, rn, rfl⟩ := Option.map_eq_some_iff.mp visited
  refine fits_of_attributes (fun a => isIfId mem a = true → a + rtattrSize + 4 ≤ len) ?_ rn ins ch
    here
  intro a effects v visited inside
  obtain ⟨v', visited', iff⟩ := xfrmAttribute_inside mem len a effects
  rw [visited] at visited'
  cases visited'
  exact iff.mp inside

/-! ## The three functions -/

/-- A datagram is shorter than `int` can count. -/
lemma Datagram.small {size : Nat} (d : Datagram size) (le : size ≤ nlDumpSize) :
    d.len < 2147483648 := by
  have fits := d.fits
  rw [nlDumpSize] at le
  omega

/-- An empty datagram has no messages. -/
lemma not_sits_zero : ¬(messages mem stops).Sits 0 h := by
  rintro ⟨header, size⟩
  have header : 16 ≤ nlmsgLen mem h := header
  have size : h + nlmsgLen mem h ≤ 0 := size
  omega

/-- Nothing was received, and nothing is read. -/
lemma padded_zero : Padded mem stops 0 := fun _ _ sits => absurd sits not_sits_zero

/-- `netlink_handle_event` ends and stays in the datagram. -/
def HandleInside (d : Datagram nlBufSize) : Prop :=
  ∃ fuel r, netlinkHandleEvent fuel d = some r ∧ Inside d.len r.reads

/-- `netlink_xfrm_event_cb` ends and stays in the datagram. -/
def XfrmInside (d : Datagram nlBufSize) : Prop :=
  ∃ fuel r, netlinkXfrmEventCb fuel d = some r ∧ Inside d.len r.reads

/-- `netlink_recv_all_with_timeout` ends and stays in each of its datagrams. -/
def RecvInside (expectedSeq : Nat) (ds : List (Datagram nlDumpSize)) (ctx : ParseCtx) : Prop :=
  ∃ fuel r, netlinkRecvAllWithTimeout fuel expectedSeq ds ctx = some r ∧
    ∀ p ∈ r.reads, Inside p.1.len p.2

/-- `netlink_handle_event` stays inside exactly if the last message is padded. -/
lemma handleInside_iff (d : Datagram nlBufSize) : HandleInside d ↔ Padded d.mem never d.len := by
  have small := d.small (by decide)
  simp only [HandleInside, netlinkHandleEvent]
  split
  · rename_i empty
    rw [empty]
    exact iff_of_true ⟨0, _, rfl, inside_nil⟩ padded_zero
  · constructor
    · rintro ⟨fuel, r, rn, ins⟩
      exact (padded_of_messages (fun _ => True) small (fun _ _ _ _ _ _ => trivial) rn ins).1
    · intro padded
      exact ⟨d.len + 1, messages_inside small (Nat.lt_succ_self _) padded
        (fun _ _ _ _ => ⟨_, rfl, inside_nil⟩) 0⟩

/-- `netlink_xfrm_event_cb` in addition needs the interface numbers to fit. -/
lemma xfrmInside_iff (d : Datagram nlBufSize) :
    XfrmInside d ↔ Padded d.mem never d.len ∧ IfIdsFit d.mem d.len := by
  have small := d.small (by decide)
  simp only [XfrmInside, netlinkXfrmEventCb]
  split
  · rename_i empty
    rw [empty]
    exact iff_of_true ⟨0, _, rfl, inside_nil⟩
      ⟨padded_zero, fun _ _ sits => absurd sits not_sits_zero⟩
  · constructor
    · rintro ⟨fuel, r, rn, ins⟩
      exact padded_of_messages _ small
        (fun h _ _ sits visited inside => ifIdFits_of_xfrmMessage small sits visited inside) rn ins
    · rintro ⟨padded, fit⟩
      exact ⟨d.len + 1, messages_inside small (Nat.lt_succ_self _) padded
        (fun h effects ch sits =>
          xfrmMessage_inside effects small sits (Nat.lt_succ_self _) (fit h ch sits)) []⟩

/-- The body of the loop of `netlink_recv_all_with_timeout` ends and stays in the datagram. -/
lemma recvMessage_inside {expectedSeq : Nat} (st : RecvState) (small : len < 2147483648)
    (sits : (messages mem stops).Sits len h) (enough : len < fuel) :
    ∃ v, recvMessage fuel mem expectedSeq h st = some v ∧ Inside len v.1 := by
  obtain ⟨⟨reads, ctx⟩, parsed, inside⟩ := parserLinkSync_inside st.ctx small sits enough
  rw [recvMessage]
  split
  · exact ⟨_, rfl, inside_nil⟩
  · split
    · exact ⟨_, rfl, inside_nil⟩
    · split
      · exact ⟨_, rfl, inside_nil⟩
      · rw [parsed]
        exact ⟨_, rfl, inside⟩

/-- A reception that has ended and stayed inside has padded datagrams. -/
lemma recvPadded_of_reception {expectedSeq : Nat} {ds : List (Datagram nlDumpSize)} {ctx : ParseCtx}
    {r : Reception} (rn : netlinkRecvAllWithTimeout fuel expectedSeq ds ctx = some r)
    (ins : ∀ p ∈ r.reads, Inside p.1.len p.2) : RecvPadded expectedSeq ds := by
  induction ds generalizing ctx r with
  | nil => trivial
  | cons d ds ih =>
    have small := d.small (Nat.le_refl _)
    rw [netlinkRecvAllWithTimeout] at rn
    split at rn
    · cases rn
    · rename_i walked walk
      have padded : Inside d.len walked.reads →
          Padded d.mem (endsDump d.mem expectedSeq) d.len := fun inside =>
        (padded_of_messages (fun _ => True) small (fun _ _ _ _ _ _ => trivial) walk inside).1
      split at rn
      · rename_i stopped
        cases rn
        have here := padded (List.forall_mem_cons.mp ins).1
        refine ⟨here, fun more => absurd ?_ more⟩
        exact (stopped_iff_of_padded small here walk).mp stopped
      · obtain ⟨rest, rest_rn, rfl⟩ := Option.map_eq_some_iff.mp rn
        obtain ⟨here, later⟩ := List.forall_mem_cons.mp ins
        exact ⟨padded here, fun _ => ih rest_rn later⟩

/-- A reception of padded datagrams ends and stays inside. -/
lemma reception_of_recvPadded {expectedSeq : Nat} {ds : List (Datagram nlDumpSize)}
    (enough : nlDumpSize < fuel) (padded : RecvPadded expectedSeq ds) (ctx : ParseCtx) :
    ∃ r, netlinkRecvAllWithTimeout fuel expectedSeq ds ctx = some r ∧
      ∀ p ∈ r.reads, Inside p.1.len p.2 := by
  induction ds generalizing ctx with
  | nil => exact ⟨_, rfl, nofun⟩
  | cons d ds ih =>
    have small := d.small (Nat.le_refl _)
    have long := Nat.lt_of_le_of_lt d.fits enough
    obtain ⟨walked, walk, inside⟩ : ∃ r, (messages d.mem (endsDump d.mem expectedSeq)).run
        (recvMessage fuel d.mem expectedSeq) fuel 0 d.len ⟨ctx, none⟩ = some r ∧
        Inside d.len r.reads :=
      messages_inside small long padded.1
        (fun _ st _ sits => recvMessage_inside st small sits long) ⟨ctx, none⟩
    rw [netlinkRecvAllWithTimeout, walk]
    dsimp only
    split
    · exact ⟨_, rfl, by simpa using inside⟩
    · rename_i goes
      have more : ¬Finishes d.mem expectedSeq d.len :=
        fun fin => goes ((stopped_iff_of_padded small padded.1 walk).mpr fin)
      obtain ⟨r, rn, ins⟩ := ih (padded.2 more) walked.state.ctx
      rw [rn]
      exact ⟨_, rfl, List.forall_mem_cons.mpr ⟨inside, ins⟩⟩

/-- The walks end and stay in what was received exactly for padded datagrams, and XFRM messages whose
interface ids are there. -/
theorem walks_inside_iff (d : Datagram nlBufSize) (expectedSeq : Nat)
    (ds : List (Datagram nlDumpSize)) (ctx : ParseCtx) :
    (HandleInside d ↔ Padded d.mem never d.len) ∧
      (XfrmInside d ↔ Padded d.mem never d.len ∧ IfIdsFit d.mem d.len) ∧
      (RecvInside expectedSeq ds ctx ↔ RecvPadded expectedSeq ds) := by
  refine ⟨handleInside_iff d, xfrmInside_iff d, ?_, fun padded => ?_⟩
  · rintro ⟨fuel, r, rn, ins⟩
    exact recvPadded_of_reception rn ins
  · exact ⟨nlDumpSize + 1, reception_of_recvPadded (Nat.lt_succ_self _) padded ctx⟩

/-- A datagram whose length is a multiple of four is padded, whatever it holds. -/
theorem padded_of_dvd (small : len < 2147483648) (dvd : 4 ∣ len) : Padded mem stops len := by
  have aligned : ∀ h, (messages mem stops).Chain len 0 h → 4 ∣ h := by
    intro h ch
    induction ch with
    | first => exact Nat.dvd_zero 4
    | next _ _ _ ih => exact Nat.dvd_add ih (Nat.dvd_mul_left 4 _)
  intro h ch sits _
  have four := aligned h ch
  have size : h + nlmsgLen mem h ≤ len := sits.2
  rw [nlmsgAlign]
  omega

/-- A datagram of 19 bytes with one message of that length, and a buffer that holds ones behind it. -/
def endless : Datagram nlBufSize where
  mem o := if o = 0 then 19 else if 20 ≤ o then 255 else 0
  len := 19
  fits := by decide

/-- Behind the datagram the walk finds a length that aligns to zero. -/
lemma endless_stays (fuel n : Nat) :
    (messages endless.mem never).run (handleMessage endless.mem) fuel 20 (-1) n = none := by
  induction fuel generalizing n with
  | zero => rfl
  | succ fuel ih =>
    rw [Walk.run, if_neg (by decide), if_neg (by decide)]
    simp only [handleMessage]
    rw [if_neg (by decide)]
    exact Option.map_eq_none_iff.mpr (ih _)

/-- The walk leaves the datagram, and never ends. -/
theorem endless_leaves :
    (∀ fuel, netlinkHandleEvent fuel endless = none) ∧ ¬HandleInside endless := by
  have ends : ∀ fuel, netlinkHandleEvent fuel endless = none := by
    intro fuel
    rw [netlinkHandleEvent, if_neg (by decide)]
    cases fuel with
    | zero => rfl
    | succ fuel =>
      rw [Walk.run, if_neg (by decide), if_neg (by decide)]
      simp only [handleMessage]
      rw [if_neg (by decide)]
      exact Option.map_eq_none_iff.mpr (endless_stays fuel _)
  refine ⟨ends, ?_⟩
  rintro ⟨fuel, r, rn, -⟩
  rw [ends fuel] at rn
  cases rn

end Atpd.Netlink
