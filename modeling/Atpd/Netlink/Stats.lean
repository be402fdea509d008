import Atpd.Config.File
import Atpd.Netlink.Dump

/-!
# The counters of an interface

`netlink_get_iface_stats` looks the interface up in `/proc/net/dev`, and asks netlink when it is not
there. The request is no dump, so the kernel answers with the one message, and neither NLMSG_DONE nor
an acknowledgement comes after it. The loop that receives the answer ends at one of these only:
`reply_received` says that the counters are found and that the reception fails all the same.
-/

namespace Atpd.Netlink

open Atpd.Config Atpd.Lib

variable {fuel seq rx tx : Nat} {link : Link} {d : Datagram nlDumpSize} {mem : Nat → UInt8}
  {as : List Nat} {info : LinkInfo}

/-! ## `/proc/net/dev` -/

/-- `%llu`: the number, as `strtoull` reads it, and what follows it. -/
def scanUnsigned (s : Str) : Option (Nat × Str) :=
  let (sign, rest) := strtolSign (s.dropWhile isspace)
  let digits := rest.takeWhile Char.isDigit
  let value := (decimal digits).toNat
  if digits.isEmpty then none
  else
    some (if 2 ^ 64 ≤ value then 2 ^ 64 - 1 else if sign < 0 then (2 ^ 64 - value) % 2 ^ 64 else value,
      rest.dropWhile Char.isDigit)

/-- `%*u`, that many times. -/
def skipUnsigned : Nat → Str → Option Str
  | 0, s => some s
  | n + 1, s => (scanUnsigned s).bind fun (_, rest) => skipUnsigned n rest

/-- `sscanf(line, "%63[^:]: %llu %*u %*u %*u %*u %*u %*u %*u %llu", ..) >= 3`. -/
def scanDevLine (line : Str) : Option (Str × Nat × Nat) :=
  let name := (line.takeWhile (· != ':')).take 63
  if name.isEmpty then none
  else
    match line.drop name.length with
    | ':' :: rest => do
      let (rx, rest) ← scanUnsigned rest
      let rest ← skipUnsigned 7 rest
      let (tx, _) ← scanUnsigned rest
      some (name, rx, tx)
    | _ => none

/-- The lookup of `iface` in the text of `/proc/net/dev`. -/
def readNetDev (iface text : Str) : Option (Nat × Nat) :=
  ((fgetsAll 512 [] text).drop 2).findSome? fun line =>
    (scanDevLine (cString line.1)).bind fun (name, rx, tx) =>
      if name.dropWhile (· == ' ') = iface then some (rx, tx) else none

/-! ## The request -/

/-- What the system says: the text of `/proc/net/dev` if it can be opened, whether there is a socket,
the answer of `if_nametoindex`, and whether the request is sent. -/
structure StatsEnv where
  procNetDev : Option Str
  socket : Bool
  ifIndex : Nat
  sent : Bool

/-- `netlink_get_iface_stats`: the two counters, or -1. `ds` is what comes back for the request
`seq` until `recv` times out. -/
def netlinkGetIfaceStats (fuel : Nat) (iface : Str) (env : StatsEnv) (seq : Nat)
    (ds : List (Datagram nlDumpSize)) : Option (Option (Nat × Nat)) :=
  if iface.isEmpty then some none
  else
    match env.procNetDev.bind (readNetDev iface) with
    | some stats => some (some stats)
    | none =>
      if !env.socket then some none
      else if env.ifIndex = 0 then some none
      else if !env.sent then some none
      else
        (netlinkRecvAllWithTimeout fuel seq ds ⟨1, []⟩).map fun r =>
          if r.outcome = some .done then r.ctx.links.head?.map fun info => (info.rxBytes, info.txBytes)
          else none

/-- The datagram is one RTM_NEWLINK of the request `seq`, with IFLA_STATS64 among its attributes. -/
structure StatsReply (d : Datagram nlDumpSize) (seq : Nat) (link : Link) (rx tx : Nat) : Prop where
  alone : (messages d.mem never).Fills d.len 0 [0]
  message : ∃ as, LinkMessage d.mem seq 0 as link ∧ ∃ a, OnlyAttr d.mem as 23 a ∧
    linkStats64Size ≤ rtaPayload d.mem a ∧ u64 d.mem (a + rtattrSize + 16) = rx ∧
      u64 d.mem (a + rtattrSize + 24) = tx

/-! ## The reception -/

/-- Only `IFLA_STATS64` changes the counters. -/
lemma linkField_stats (a : Nat) (info : LinkInfo) (other : rtaType mem a ≠ 23) :
    ((linkField mem a info).rxBytes, (linkField mem a info).txBytes) = (info.rxBytes, info.txBytes) := by
  rw [linkField]
  split
  · rfl
  · rw [if_neg fun both => other both.1]

/-- The one IFLA_STATS64 gives the counters, wherever it stands. -/
lemma foldl_stats {a : Nat} (only : OnlyAttr mem as 23 a) (long : linkStats64Size ≤ rtaPayload mem a) :
    ((as.foldl (fun info a => linkField mem a info) info).rxBytes,
      (as.foldl (fun info a => linkField mem a info) info).txBytes) =
      (u64 mem (a + rtattrSize + 16), u64 mem (a + rtattrSize + 24)) := by
  refine foldl_only (f := fun info => (info.rxBytes, info.txBytes)) only linkField_stats fun info => ?_
  rw [linkField, if_neg (by rw [only.isType]; decide), if_pos ⟨only.isType, long⟩]

/-- The counters of the reply are in the table, and the reception has failed: it waits for an end that
does not come. -/
theorem reply_received (enough : nlDumpSize < fuel) (well : link.WellNamed) (named : link.name ≠ [])
    (reply : StatsReply d seq link rx tx) :
    ∃ r info, netlinkRecvAllWithTimeout fuel seq [d] ⟨1, []⟩ = some r ∧ r.ctx.links = [info] ∧
      (info.rxBytes, info.txBytes) = (rx, tx) ∧ r.outcome = some .recvFailed := by
  obtain ⟨as, msg, a, only, long, rfl, rfl⟩ := reply.message
  have small := d.small (Nat.le_refl _)
  have sits := reply.alone.sits List.mem_cons_self
  have covers : d.len < fuel := Nat.lt_of_le_of_lt d.fits enough
  obtain ⟨reads, parsed⟩ := parserLinkSync_eq small sits covers msg ⟨1, []⟩
  have name : (infoAt d.mem as link.flags).name = link.name :=
    congrArg Link.name (infoAt_link msg well)
  rw [if_neg (by rw [name]; simpa using named)] at parsed
  have entered : recvMessage fuel d.mem seq 0 ⟨⟨1, []⟩, none⟩ =
      some (reads, ⟨⟨1, [infoAt d.mem as link.flags]⟩, none⟩) := by
    rw [recvMessage, if_neg (not_not.mpr msg.answers), if_neg (by simp [msg.isLink]),
      if_neg (by simp [msg.isLink]), parsed]
    rfl
  have reports : Reports d.mem seq [0] [link] := .cons msg .nil
  have visits := fun o (listed : o ∈ [0]) st => reports.visited small covers
    (fun h listed => reply.alone.sits listed) (by simpa using well) listed st
  obtain ⟨r, rn, state⟩ := run_messages d enough reply.alone visits ⟨⟨1, []⟩, none⟩
  rw [Walk.along, endsDump_link msg, recvBody, entered] at state
  obtain ⟨state, stopped⟩ := Prod.mk.inj state
  rw [netlinkRecvAllWithTimeout, rn]
  simp only [stopped, Bool.false_eq_true, if_false, netlinkRecvAllWithTimeout, Option.map_some, state]
  exact ⟨_, infoAt d.mem as link.flags, rfl, rfl, foldl_stats only long, rfl⟩

/-- The fallback never works: for every interface that is not in `/proc/net/dev` and every reply with
its counters the call fails. -/
theorem iface_stats_fails (fuel : Nat) (iface : Str) (env : StatsEnv) (seq : Nat)
    (d : Datagram nlDumpSize) (link : Link) (rx tx : Nat) (enough : nlDumpSize < fuel)
    (given : iface ≠ []) (absent : env.procNetDev.bind (readNetDev iface) = none)
    (socket : env.socket = true) (index : env.ifIndex ≠ 0) (sent : env.sent = true)
    (well : link.WellNamed) (named : link.name = bytes iface) (reply : StatsReply d seq link rx tx) :
    netlinkGetIfaceStats fuel iface env seq [d] = some none := by
  have nonempty : link.name ≠ [] := by
    rw [named]
    simpa [bytes] using given
  obtain ⟨r, info, received, -, -, outcome⟩ := reply_received enough well nonempty reply
  rw [netlinkGetIfaceStats, if_neg (by simpa using given), absent]
  simp [socket, index, sent, received, outcome]

/-- The reply for `wlan0`, with 1000 and 500 bytes: the name first, then the counters. -/
def wlanBytes : List UInt8 :=
  [248, 0, 0, 0, 16, 0, 0, 0, 7, 0, 0, 0, 0, 0, 0, 0] ++
    [0, 0, 1, 0, 3, 0, 0, 0, 1, 0, 0, 0, 0, 0, 0, 0] ++
    [10, 0, 3, 0, 119, 108, 97, 110, 48, 0, 0, 0] ++ [204, 0, 23, 0] ++ List.replicate 16 0 ++
    [232, 3, 0, 0, 0, 0, 0, 0, 244, 1, 0, 0, 0, 0, 0, 0] ++ List.replicate 168 0

/-- The reply to a request for `wlan0`. -/
def wlanReply : Datagram nlDumpSize := ⟨memOf wlanBytes, 248, by decide⟩

/-- The link in it. -/
def wlanLink : Link := ⟨bytes "wlan0".toList, 1⟩

/-- There is no `/proc/net/dev`, and everything else works. -/
def noProc : StatsEnv := ⟨none, true, 3, true⟩

/-- It is of the form that the kernel sends. -/
lemma wlan_reply : StatsReply wlanReply 7 wlanLink 1000 500 where
  alone := .cons ⟨by decide, by decide⟩ .nil
  message :=
    ⟨[32, 44], ⟨rfl, rfl, rfl, .cons ⟨by decide, by decide⟩ (.cons ⟨by decide, by decide⟩ .nil),
      32, ⟨by decide, by decide, by decide⟩, rfl⟩,
      44, ⟨by decide, by decide, by decide⟩, by decide, by decide, by decide⟩

/-- The counters of `wlan0` are not found. -/
theorem iface_stats_fails_wlan :
    netlinkGetIfaceStats 40000 "wlan0".toList noProc 7 [wlanReply] = some none :=
  iface_stats_fails 40000 "wlan0".toList noProc 7 wlanReply wlanLink 1000 500 (by decide) (by decide) rfl
    rfl (by decide) rfl (by decide) (by decide) wlan_reply

/-- The counters of the reply are not returned. -/
theorem iface_stats_missing :
    StatsReply wlanReply 7 wlanLink 1000 500 ∧
      netlinkGetIfaceStats 40000 "wlan0".toList noProc 7 [wlanReply] ≠ some (some (1000, 500)) := by
  refine ⟨wlan_reply, ?_⟩
  decide +kernel

end Atpd.Netlink
