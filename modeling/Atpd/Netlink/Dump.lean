import Atpd.Netlink.Inside

/-!
# What the parser makes of a dump

A dump of links is a list of datagrams full of RTM_NEWLINK messages, with NLMSG_DONE behind the last
one. `LinkMessage` and `Dump` say what lies in the memory, in terms of the message format and not of
the loops; the attributes of a message come in any number and order. `recv_dump` says which links the
table holds when the reception is over: those with a name, in the order of the dump, as far as the
table goes.
-/

namespace Atpd.Netlink

open Atpd.Config Atpd.Lib

variable {mem : Nat → UInt8} {stops : Nat → Bool} {lim len fuel seq h a o type : Nat} {as os : List Nat}
  {info : LinkInfo} {ctx : ParseCtx}

/-- The bytes of an ASCII text. -/
def bytes (text : Str) : List UInt8 := text.map fun c => UInt8.ofNat c.toNat

/-- The memory that starts with these bytes. -/
def memOf (bs : List UInt8) (o : Nat) : UInt8 := bs.getD o 0

/-- A network interface: its name, and its flags. -/
structure Link where
  name : List UInt8
  flags : Nat
deriving DecidableEq, Repr

/-- What the parser has found out about an interface, less the counters. -/
def LinkInfo.link (info : LinkInfo) : Link := ⟨info.name, info.flags⟩

/-- The name is a C string shorter than IFNAMSIZ. -/
def Link.WellNamed (link : Link) : Prop := 0 ∉ link.name ∧ link.name.length < 16

instance (link : Link) : Decidable link.WellNamed :=
  inferInstanceAs (Decidable (0 ∉ link.name ∧ link.name.length < 16))

/-! ## The format -/

/-- The attribute at `a` is the one of its type. -/
structure OnlyAttr (mem : Nat → UInt8) (as : List Nat) (type a : Nat) : Prop where
  listed : a ∈ as
  isType : rtaType mem a = type
  only : ∀ a' ∈ as, rtaType mem a' = type → a' = a

/-- The payload of the attribute at `a` is `name` and a NUL. -/
def HasName (mem : Nat → UInt8) (a : Nat) (name : List UInt8) : Prop :=
  (List.range (rtaPayload mem a)).map (fun i => mem (a + rtattrSize + i)) = name ++ [0]

/-- The message at `h` is an RTM_NEWLINK of the request `seq` with attributes at `as`, one of which,
IFLA_IFNAME, gives the name. -/
structure LinkMessage (mem : Nat → UInt8) (seq h : Nat) (as : List Nat) (link : Link) : Prop where
  isLink : nlmsgType mem h = 16
  answers : nlmsgSeq mem h = seq
  flags : u32 mem (h + nlmsgHdrlen + 8) = link.flags
  fills : (attributes mem never).Fills (h + nlmsgLen mem h) (h + (nlmsgHdrlen + ifinfomsgSize)) as
  name : ∃ a, OnlyAttr mem as 3 a ∧ HasName mem a link.name

/-- The messages of the request `seq` at `hs` report the links. -/
inductive Reports (mem : Nat → UInt8) (seq : Nat) : List Nat → List Link → Prop where
  | nil : Reports mem seq [] []
  | cons {h : Nat} {as hs : List Nat} {link : Link} {links : List Link} :
      LinkMessage mem seq h as link → Reports mem seq hs links → Reports mem seq (h :: hs) (link :: links)

/-- The datagrams are the answer to the dump request `seq`, as far as it goes; nothing is said about
what is received afterwards. -/
inductive Dump (seq : Nat) : List (Datagram nlDumpSize) → List Link → Prop where
  | done {d : Datagram nlDumpSize} {ds : List (Datagram nlDumpSize)} {hs : List Nat} {h : Nat}
      {links : List Link} :
      (messages d.mem never).Fills d.len 0 (hs ++ [h]) → Reports d.mem seq hs links →
      nlmsgSeq d.mem h = seq → nlmsgType d.mem h = 3 → Dump seq (d :: ds) links
  | more {d : Datagram nlDumpSize} {ds : List (Datagram nlDumpSize)} {hs : List Nat}
      {links links' : List Link} :
      (messages d.mem never).Fills d.len 0 hs → Reports d.mem seq hs links →
      Dump seq ds links' → Dump seq (d :: ds) (links ++ links')

/-! ## One message -/

/-- The body of the loop over the attributes, less its reads. -/
def linkField (mem : Nat → UInt8) (a : Nat) (info : LinkInfo) : LinkInfo :=
  if rtaType mem a = 3 then
    { info with name := safeCopyIfname mem (a + rtattrSize) (rtaPayload mem a) }
  else if rtaType mem a = 23 ∧ linkStats64Size ≤ rtaPayload mem a then
    { info with
      rxBytes := u64 mem (a + rtattrSize + 16)
      txBytes := u64 mem (a + rtattrSize + 24) }
  else info

/-- Reading an attribute of a link never fails, and gives the field it is for. -/
lemma linkAttribute_eq (mem : Nat → UInt8) (a : Nat) (info : LinkInfo) :
    ∃ reads, linkAttribute mem a info = some (reads, linkField mem a info) := by
  rw [linkAttribute, linkField]
  split
  · exact ⟨_, rfl⟩
  · split <;> exact ⟨_, rfl⟩

/-- A short name is copied as it is. -/
lemma safeCopyIfname_eq {name : List UInt8} (has : HasName mem a name) (clean : 0 ∉ name)
    (short : name.length < 16) :
    safeCopyIfname mem (a + rtattrSize) (rtaPayload mem a) = name := by
  have upTo : (name ++ [0]).takeWhile (· ≠ 0) = name := by
    rw [List.takeWhile_append_of_pos]
    · simp
    · intro c inside
      simpa using ne_of_mem_of_not_mem inside clean
  rw [safeCopyIfname, has, upTo, List.take_of_length_le (Nat.le_of_lt_succ short)]

/-- A loop that stops nowhere is a fold. -/
lemma along_never {σ : Type*} (body : Nat → σ → σ) (os : List Nat) (st : σ) :
    Walk.along never body os st = (os.foldl (fun st o => body o st) st, false) := by
  induction os generalizing st with
  | nil => rfl
  | cons o os ih => exact ih (body o st)

section Fold

variable {β : Type*} {f : LinkInfo → β} {v : β}

/-- Attributes of other types do not touch a part of the record. -/
lemma foldl_keeps (keeps : ∀ a ∈ as, ∀ info, f (linkField mem a info) = f info) :
    f (as.foldl (fun info a => linkField mem a info) info) = f info := by
  induction as generalizing info with
  | nil => rfl
  | cons a as ih =>
    rw [List.foldl_cons]
    exact (ih fun a' inside => keeps a' (List.mem_cons_of_mem _ inside)).trans
      (keeps a List.mem_cons_self info)

/-- A part of the record that only one attribute sets has its value, wherever the attribute stands. -/
lemma foldl_only (only : OnlyAttr mem as type a)
    (keeps : ∀ a info, rtaType mem a ≠ type → f (linkField mem a info) = f info)
    (sets : ∀ info, f (linkField mem a info) = v) :
    f (as.foldl (fun info a => linkField mem a info) info) = v := by
  obtain ⟨inside, isType, only⟩ := only
  induction as generalizing info with
  | nil => cases inside
  | cons b as ih =>
    rw [List.foldl_cons]
    by_cases later : a ∈ as
    · exact ih later fun a' mem => only a' (List.mem_cons_of_mem _ mem)
    · obtain rfl | inside := List.mem_cons.mp inside
      · refine (foldl_keeps fun a' inside info => keeps a' info fun sameType => ?_).trans (sets info)
        exact later (only a' (List.mem_cons_of_mem _ inside) sameType ▸ inside)
      · exact absurd inside later

end Fold

/-- No attribute changes the flags. -/
lemma linkField_flags (a : Nat) (info : LinkInfo) : (linkField mem a info).flags = info.flags := by
  rw [linkField]
  split
  · rfl
  · split <;> rfl

/-- Only `IFLA_IFNAME` changes the name. -/
lemma linkField_name (a : Nat) (info : LinkInfo) (other : rtaType mem a ≠ 3) :
    (linkField mem a info).name = info.name := by
  rw [linkField, if_neg other]
  split <;> rfl

/-- The one IFLA_IFNAME gives the name, wherever it stands. -/
lemma foldl_name (only : OnlyAttr mem as 3 a) :
    (as.foldl (fun info a => linkField mem a info) info).name =
      safeCopyIfname mem (a + rtattrSize) (rtaPayload mem a) := by
  refine foldl_only only linkField_name fun info => ?_
  rw [linkField, if_pos only.isType]

/-- What the loop over the attributes at `as` leaves. -/
def infoAt (mem : Nat → UInt8) (as : List Nat) (flags : Nat) : LinkInfo :=
  as.foldl (fun info a => linkField mem a info) ⟨[], flags, 0, 0⟩

/-- The attributes of a message for a link are those of the link. -/
lemma infoAt_link {link : Link} (msg : LinkMessage mem seq h as link) (well : link.WellNamed) :
    (infoAt mem as link.flags).link = link := by
  obtain ⟨a, only, has⟩ := msg.name
  have name : (infoAt mem as link.flags).name = link.name :=
    (foldl_name only).trans (safeCopyIfname_eq has well.1 well.2)
  have flags : (infoAt mem as link.flags).flags = link.flags :=
    foldl_keeps fun a _ info => linkField_flags a info
  rw [LinkInfo.link, name, flags]

/-- A link message goes into the table if there is room and it has a name. -/
lemma parserLinkSync_eq {link : Link} (small : len < 2147483648)
    (sits : (messages mem stops).Sits len h) (enough : len < fuel)
    (msg : LinkMessage mem seq h as link) (ctx : ParseCtx) :
    ∃ reads, parserLinkSync fuel mem h ctx = some (reads,
      if ctx.maxCount ≤ ctx.links.length ∨ (infoAt mem as link.flags).name = [] then ctx
      else { ctx with links := ctx.links ++ [infoAt mem as link.flags] }) := by
  have le : h + nlmsgLen mem h ≤ len := sits.2
  rw [parserLinkSync, if_neg (not_not.mpr msg.isLink)]
  by_cases full : ctx.maxCount ≤ ctx.links.length
  · rw [if_pos full, if_pos (.inl full)]
    exact ⟨_, rfl⟩
  · have count := msg.fills.length_le fun a sits => by
      have header : 4 ≤ rtaLen mem a := sits.1
      exact Nat.lt_of_lt_of_le (by omega) (le_rtaAlign (rtaLen mem a))
    obtain ⟨r, rn, state⟩ := Walk.run_fills (fun _ _ => rfl) (by decide : 0 < rtattrSize)
      (fun a _ info => linkAttribute_eq mem a info) msg.fills (by omega : as.length < fuel)
      ⟨[], link.flags, 0, 0⟩
    have left : r.state = infoAt mem as link.flags := by
      rw [show (attributes mem never).stops = never from rfl, along_never] at state
      exact congrArg Prod.fst state
    rw [if_neg full, nlmsgPayload_eq small (by decide) sits, msg.flags]
    dsimp only
    rw [rn, Option.map_some, left]
    refine ⟨r.reads, ?_⟩
    simp only [full, false_or]

/-! ## The table -/

/-- A link comes to a table with `max` slots. -/
def enter (max : Nat) (table : List Link) (link : Link) : List Link :=
  if max ≤ table.length ∨ link.name = [] then table else table ++ [link]

/-- The context is a table with `max` slots and these links. -/
structure Shows (ctx : ParseCtx) (max : Nat) (table : List Link) : Prop where
  slots : ctx.maxCount = max
  links : ctx.links.map LinkInfo.link = table

variable {max : Nat} {table : List Link}

/-- The table takes the links in order until it is full, and none without a name. -/
lemma foldl_enter (max : Nat) (links table : List Link) :
    links.foldl (enter max) table =
      table ++ (links.filter (·.name ≠ [])).take (max - table.length) := by
  induction links generalizing table with
  | nil => simp
  | cons link links ih =>
    rw [List.foldl_cons, ih, enter]
    by_cases named : link.name = []
    · simp [named]
    · by_cases full : max ≤ table.length
      · simp [full, Nat.sub_eq_zero_of_le full]
      · have room : max - table.length = max - (table.length + 1) + 1 := by omega
        simp [named, full, room]

/-- A link is entered on both sides, or on neither. -/
lemma Shows.enter {link : Link} (shows : Shows ctx max table) (info : LinkInfo)
    (same : info.link = link) :
    Shows (if ctx.maxCount ≤ ctx.links.length ∨ info.name = [] then ctx
      else { ctx with links := ctx.links ++ [info] }) max (enter max table link) := by
  obtain ⟨rfl, rfl⟩ := shows
  subst same
  have name : info.link.name = info.name := rfl
  rw [Netlink.enter, List.length_map, name]
  by_cases out : ctx.maxCount ≤ ctx.links.length ∨ info.name = []
  · rw [if_pos out, if_pos out]
    exact ⟨rfl, rfl⟩
  · rw [if_neg out, if_neg out]
    exact ⟨rfl, List.map_append⟩

/-! ## One datagram -/

/-- The body of the loop over the messages, less its reads. -/
def recvBody (fuel : Nat) (mem : Nat → UInt8) (seq h : Nat) (st : RecvState) : RecvState :=
  ((recvMessage fuel mem seq h st).map (·.2)).getD st

/-- A message for a link adds this link to the table, if there is room. -/
lemma recvMessage_link {link : Link} (small : len < 2147483648)
    (sits : (messages mem stops).Sits len h) (enough : len < fuel)
    (msg : LinkMessage mem seq h as link) (well : link.WellNamed) (st : RecvState)
    (shows : Shows st.ctx max table) :
    (∃ reads, recvMessage fuel mem seq h st = some (reads, recvBody fuel mem seq h st)) ∧
      (recvBody fuel mem seq h st).outcome = st.outcome ∧
        Shows (recvBody fuel mem seq h st).ctx max (enter max table link) := by
  obtain ⟨reads, parsed⟩ := parserLinkSync_eq small sits enough msg st.ctx
  have visited : recvMessage fuel mem seq h st = some (reads, { st with
      ctx :=
        if st.ctx.maxCount ≤ st.ctx.links.length ∨ (infoAt mem as link.flags).name = [] then st.ctx
        else { st.ctx with links := st.ctx.links ++ [infoAt mem as link.flags] } }) := by
    rw [recvMessage, if_neg (not_not.mpr msg.answers), if_neg (by simp [msg.isLink]),
      if_neg (by simp [msg.isLink]), parsed, Option.map_some]
  rw [recvBody, visited]
  exact ⟨⟨_, rfl⟩, rfl, shows.enter _ (infoAt_link msg well)⟩

/-- A link message does not end the reception. -/
lemma endsDump_link {link : Link} (msg : LinkMessage mem seq h as link) :
    endsDump mem seq h = false := by
  simp [endsDump, msg.isLink]

/-- What fills the buffer does not depend on where the loop is stopped. -/
lemma fills_stops {stops' : Nat → Bool} (fills : (messages mem stops).Fills lim o os) :
    (messages mem stops').Fills lim o os := by
  induction fills with
  | nil => exact .nil
  | cons sits _ ih => exact .cons sits ih

/-- The messages of a datagram are visited one after the other. -/
lemma run_messages (d : Datagram nlDumpSize) (enough : nlDumpSize < fuel)
    (fills : (messages d.mem never).Fills d.len 0 os)
    (visits : ∀ o ∈ os, ∀ st, ∃ reads,
      recvMessage fuel d.mem seq o st = some (reads, recvBody fuel d.mem seq o st))
    (st : RecvState) :
    ∃ r, (messages d.mem (endsDump d.mem seq)).run (recvMessage fuel d.mem seq) fuel 0 d.len st =
        some r ∧
      (r.state, r.stopped) =
        Walk.along (endsDump d.mem seq) (recvBody fuel d.mem seq) os st := by
  have small := d.small (Nat.le_refl _)
  have count := fills.length_le fun h sits => by
    have header : 16 ≤ nlmsgLen d.mem h := sits.1
    have size : h + nlmsgLen d.mem h ≤ d.len := sits.2
    exact Nat.lt_of_lt_of_le (by omega) (nlmsgAlign_bounds (by omega)).1
  have fits := d.fits
  rw [count_start d.len]
  refine Walk.run_fills (fun h le => ?_) (by decide : 0 < nlmsgHdrlen) visits (fills_stops fills)
    (by omega) st
  exact asUint32_of_nonneg (by omega) (by omega)

/-- Link messages that lie in the datagram bring their links to the table. -/
lemma along_reports {links : List Link} {hs : List Nat} (small : len < 2147483648)
    (enough : len < fuel) (reports : Reports mem seq hs links)
    (sits : ∀ h ∈ hs, (messages mem never).Sits len h) (well : ∀ link ∈ links, link.WellNamed)
    (st : RecvState) (shows : Shows st.ctx max table) :
    (∃ st', Walk.along (endsDump mem seq) (recvBody fuel mem seq) hs st = (st', false) ∧
      st'.outcome = st.outcome ∧ Shows st'.ctx max (links.foldl (enter max) table)) := by
  induction reports generalizing st table with
  | nil => exact ⟨st, rfl, rfl, shows⟩
  | cons msg _ ih =>
    obtain ⟨-, outcome, entered⟩ := recvMessage_link small (sits _ List.mem_cons_self) enough msg
      (well _ List.mem_cons_self) st shows
    obtain ⟨st', rest, outcome', shows'⟩ := ih
      (fun h mem => sits h (List.mem_cons_of_mem _ mem))
      (fun link mem => well link (List.mem_cons_of_mem _ mem)) _ entered
    rw [Walk.along, endsDump_link msg]
    exact ⟨st', rest, outcome'.trans outcome, shows'⟩

/-- Each message of a dump reports one of its links. -/
lemma Reports.message {links : List Link} {hs : List Nat} (reports : Reports mem seq hs links)
    (listed : h ∈ hs) : ∃ as, ∃ link ∈ links, LinkMessage mem seq h as link := by
  induction reports with
  | nil => cases listed
  | cons msg _ ih =>
    obtain rfl | later := List.mem_cons.mp listed
    · exact ⟨_, _, List.mem_cons_self, msg⟩
    · obtain ⟨as, link, inside, msg⟩ := ih later
      exact ⟨as, link, List.mem_cons_of_mem _ inside, msg⟩

/-- The visit of a link message ends, whatever the table is. -/
lemma Reports.visited {links : List Link} {hs : List Nat} (small : len < 2147483648)
    (enough : len < fuel) (reports : Reports mem seq hs links)
    (sits : ∀ h ∈ hs, (messages mem never).Sits len h) (well : ∀ link ∈ links, link.WellNamed)
    (listed : h ∈ hs) (st : RecvState) :
    ∃ reads, recvMessage fuel mem seq h st = some (reads, recvBody fuel mem seq h st) := by
  obtain ⟨as, link, inside, msg⟩ := reports.message listed
  exact (recvMessage_link small (sits h listed) enough msg (well link inside) st ⟨rfl, rfl⟩).1

/-- `NLMSG_DONE` ends the dump. -/
lemma recvMessage_done (answers : nlmsgSeq mem h = seq) (isDone : nlmsgType mem h = 3)
    (st : RecvState) :
    recvMessage fuel mem seq h st = some ([], { st with outcome := some .done }) := by
  rw [recvMessage, if_neg (not_not.mpr answers), if_pos isDone]

/-! ## The reception -/

/-- A dump is received to its end, and the table holds its links with a name, as far as it goes. -/
theorem recv_dump {ds : List (Datagram nlDumpSize)} {links : List Link} (enough : nlDumpSize < fuel)
    (dump : Dump seq ds links) (well : ∀ link ∈ links, link.WellNamed) (shows : Shows ctx max table) :
    ∃ r, netlinkRecvAllWithTimeout fuel seq ds ctx = some r ∧ r.outcome = some .done ∧
      Shows r.ctx max (table ++ (links.filter (·.name ≠ [])).take (max - table.length)) := by
  rw [← foldl_enter]
  induction dump generalizing ctx table with
  | @done d ds hs h links fills reports answers isDone =>
    have small := d.small (Nat.le_refl _)
    have covers : d.len < fuel := Nat.lt_of_le_of_lt d.fits enough
    have sits : ∀ h ∈ hs, (messages d.mem never).Sits d.len h :=
      fun h listed => fills.sits (List.mem_append_left _ listed)
    have last : ∀ st, recvBody fuel d.mem seq h st = { st with outcome := some .done } := by
      intro st
      rw [recvBody, recvMessage_done answers isDone]
      rfl
    obtain ⟨r, rn, state⟩ := run_messages d enough fills
      (by
        intro o listed st
        obtain listed | only := List.mem_append.mp listed
        · exact reports.visited small covers sits well listed st
        · rw [List.mem_singleton.mp only, last]
          exact ⟨_, recvMessage_done answers isDone st⟩) ⟨ctx, none⟩
    obtain ⟨st', along, -, shows'⟩ := along_reports small covers reports sits well ⟨ctx, none⟩ shows
    have stop : endsDump d.mem seq h = true := by simp [endsDump, answers, isDone]
    rw [Walk.along_append along, Walk.along, if_pos stop, last] at state
    obtain ⟨state, stopped⟩ := Prod.mk.inj state
    rw [netlinkRecvAllWithTimeout, rn]
    simp only [stopped, if_true, state]
    exact ⟨_, rfl, rfl, shows'⟩
  | @more d ds hs links links' fills reports dump ih =>
    have small := d.small (Nat.le_refl _)
    have covers : d.len < fuel := Nat.lt_of_le_of_lt d.fits enough
    have sits : ∀ h ∈ hs, (messages d.mem never).Sits d.len h := fun h listed => fills.sits listed
    have first : ∀ link ∈ links, link.WellNamed :=
      fun link inside => well link (List.mem_append_left _ inside)
    obtain ⟨r, rn, state⟩ := run_messages d enough fills
      (fun o listed st => reports.visited small covers sits first listed st) ⟨ctx, none⟩
    obtain ⟨st', along, -, shows'⟩ := along_reports small covers reports sits first ⟨ctx, none⟩ shows
    rw [along] at state
    obtain ⟨state, stopped⟩ := Prod.mk.inj state
    obtain ⟨rest, received, outcome, table⟩ := ih
      (fun link inside => well link (List.mem_append_right _ inside)) shows'
    rw [netlinkRecvAllWithTimeout, rn]
    simp only [stopped, Bool.false_eq_true, if_false, state, received, Option.map_some]
    refine ⟨_, rfl, outcome, ?_⟩
    rw [List.foldl_append]
    exact table

end Atpd.Netlink
