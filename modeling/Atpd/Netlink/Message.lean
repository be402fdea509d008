import Atpd.Config.Basic
import Atpd.Lib.Walk
import Mathlib.Algebra.Group.Nat.Defs

/-!
# Netlink messages

The loops of `src/netlink.c` over what a netlink socket delivers: `netlink_handle_event`,
`netlink_xfrm_event_cb`, and `netlink_recv_all_with_timeout` with `parser_link_sync`. The macros are
those of `linux/netlink.h` and `linux/rtnetlink.h`, with the conversions that C makes around them; the
byte order and the structures are those of the 64-bit targets.

A position is an offset from the start of the buffer. The memory goes on behind the datagram, and
behind the buffer, and may hold anything there. A loop of the source is a `Walk`: the loop reads the
header of each message, and of each attribute, and what `visit` puts on record: the payloads of
attributes. The fixed part of a message, which is read without a test, is not on record.
-/

namespace Atpd.Netlink

open Atpd.Config Atpd.Lib

/-- `NL_BUF_SIZE`. -/
def nlBufSize : Nat := 8192

/-- `NL_DUMP_SIZE`. -/
def nlDumpSize : Nat := 32768

/-- What one call of `recv` leaves: the memory from the start of the buffer on, and the length that
it returns, which is at most the size of the buffer. -/
structure Datagram (size : Nat) where
  mem : Nat → UInt8
  len : Nat
  fits : len ≤ size

/-! ## Fields -/

def u16 (mem : Nat → UInt8) (o : Nat) : Nat := (mem o).toNat + 256 * (mem (o + 1)).toNat

def u32 (mem : Nat → UInt8) (o : Nat) : Nat := u16 mem o + 65536 * u16 mem (o + 2)

def u64 (mem : Nat → UInt8) (o : Nat) : Nat := u32 mem o + 4294967296 * u32 mem (o + 4)

/-- `(uint32_t)x`. -/
def asUint32 (x : Int) : Int := x % 4294967296

/-- `(int)x`. -/
def asInt (x : Int) : Int := (x + 2147483648) % 4294967296 - 2147483648

/-- `nlmsg_len`, `nlmsg_type` and `nlmsg_seq` of the message at `h`. -/
def nlmsgLen (mem : Nat → UInt8) (h : Nat) : Nat := u32 mem h

def nlmsgType (mem : Nat → UInt8) (h : Nat) : Nat := u16 mem (h + 4)

def nlmsgSeq (mem : Nat → UInt8) (h : Nat) : Nat := u32 mem (h + 8)

/-- `rta_len` and `rta_type` of the attribute at `a`. -/
def rtaLen (mem : Nat → UInt8) (a : Nat) : Nat := u16 mem a

def rtaType (mem : Nat → UInt8) (a : Nat) : Nat := u16 mem (a + 2)

/-- `NLMSG_ALIGN` of a `uint32_t`. -/
def nlmsgAlign (len : Nat) : Nat := (len + 3) % 4294967296 / 4 * 4

/-- `RTA_ALIGN` of an `unsigned short`. -/
def rtaAlign (len : Nat) : Nat := (len + 3) / 4 * 4

/-- `sizeof(struct nlmsghdr)`, which is `NLMSG_HDRLEN`, too. -/
def nlmsgHdrlen : Nat := 16

/-- `sizeof(struct rtattr)`, which is `RTA_LENGTH(0)`, too. -/
def rtattrSize : Nat := 4

/-- `sizeof(struct ifinfomsg)`. -/
def ifinfomsgSize : Nat := 16

/-- `sizeof(struct xfrm_usersa_info)`. -/
def xfrmUsersaInfoSize : Nat := 224

/-- `sizeof(struct rtnl_link_stats64)`. -/
def linkStats64Size : Nat := 200

/-- `RTA_PAYLOAD`. -/
def rtaPayload (mem : Nat → UInt8) (a : Nat) : Nat := rtaLen mem a - rtattrSize

/-- `NLMSG_PAYLOAD(h, size)`, stored in an `int`. -/
def nlmsgPayload (mem : Nat → UInt8) (h size : Nat) : Int :=
  asInt ((nlmsgLen mem h : Int) - (nlmsgHdrlen + size : Nat))

/-! ## The loops -/

/-- `for (h = buf; NLMSG_OK(h, (uint32_t)len); h = NLMSG_NEXT(h, len))`. -/
def messages (mem : Nat → UInt8) (stops : Nat → Bool) : Walk where
  header := nlmsgHdrlen
  size := nlmsgLen mem
  advance h := nlmsgAlign (nlmsgLen mem h)
  -- `len` is a signed count, and the cast is the one of the source
  room := asUint32
  stops := stops

/-- `for (; RTA_OK(rta, len); rta = RTA_NEXT(rta, len))`. -/
def attributes (mem : Nat → UInt8) (stops : Nat → Bool) : Walk where
  header := rtattrSize
  size := rtaLen mem
  advance a := rtaAlign (rtaLen mem a)
  room x := x
  stops := stops

/-- The loop has no `break`. -/
def never : Nat → Bool := fun _ => false

/-! ## `netlink_handle_event` -/

/-- RTM_NEWLINK, RTM_DELLINK, RTM_NEWADDR, RTM_DELADDR, RTM_NEWROUTE, RTM_DELROUTE. -/
def isRouteEvent (type : Nat) : Bool := [16, 17, 20, 21, 24, 25].contains type

/-- The body of the loop; the state counts the calls of `trigger_network_refresh`. -/
def handleMessage (mem : Nat → UInt8) (h : Nat) (refreshes : Nat) : Option (List Span × Nat) :=
  some ([], if isRouteEvent (nlmsgType mem h) then refreshes + 1 else refreshes)

/-- `netlink_handle_event`. -/
def netlinkHandleEvent (fuel : Nat) (d : Datagram nlBufSize) : Option (Walked Nat) :=
  if d.len = 0 then some ⟨[], 0, false⟩
  else (messages d.mem never).run (handleMessage d.mem) fuel 0 d.len 0

/-! ## `netlink_xfrm_event_cb` -/

/-- What the callback asks for. -/
inductive Effect where
  /-- `atpd_vpn_state_transition(VPN_STATE_PREDICTING, if_id, ifname)`. -/
  | predicting (ifId : Nat) (ifname : Str)
  /-- `atpd_vpn_state_transition(VPN_STATE_TEARDOWN, 0, NULL)`. -/
  | teardown
  /-- `trigger_network_refresh_delay(g_debounce_reactor, delay_ms)`. -/
  | refresh (delayMs : Nat)
deriving DecidableEq, Repr

/-- `NETLINK_VPN_SETTLE_MS`. -/
def netlinkVpnSettleMs : Nat := 1000

/-- XFRMA_IF_ID. The source defines it, since the enumerator of that name is not a macro. -/
def isIfId (mem : Nat → UInt8) (a : Nat) : Bool := rtaType mem a = 28

/-- `if_id`: four bytes of payload, whatever the length of the attribute is. -/
def ifId (mem : Nat → UInt8) (a : Nat) : Nat := u32 mem (a + rtattrSize)

/-- `snprintf(ifname, sizeof(ifname), "ipsec%u", if_id - 1)`. -/
def ipsecName (ifId : Nat) : Str := ("ipsec" ++ toString (ifId - 1)).toList.take 15

/-- The attribute at which the loop over the attributes is left. -/
def namesInterface (mem : Nat → UInt8) (a : Nat) : Bool := isIfId mem a && ifId mem a != 0

/-- The body of the loop over the attributes. -/
def xfrmAttribute (mem : Nat → UInt8) (a : Nat) (effects : List Effect) :
    Option (List Span × List Effect) :=
  if isIfId mem a then
    some ([⟨a + rtattrSize, 4⟩],
      if ifId mem a = 0 then effects
      else effects ++ [.predicting (ifId mem a) (ipsecName (ifId mem a)), .refresh netlinkVpnSettleMs])
  else some ([], effects)

/-- XFRM_MSG_NEWSA. -/
def isNewsa (mem : Nat → UInt8) (h : Nat) : Bool := nlmsgType mem h = 16

/-- The body of the loop over the messages. -/
def xfrmMessage (fuel : Nat) (mem : Nat → UInt8) (h : Nat) (effects : List Effect) :
    Option (List Span × List Effect) :=
  if isNewsa mem h then
    ((attributes mem (namesInterface mem)).run (xfrmAttribute mem) fuel
      (h + (nlmsgHdrlen + xfrmUsersaInfoSize)) (nlmsgPayload mem h xfrmUsersaInfoSize) effects).map
        fun r => (r.reads, r.state)
  -- XFRM_MSG_DELSA
  else if nlmsgType mem h = 17 then some ([], effects ++ [.teardown, .refresh netlinkVpnSettleMs])
  else some ([], effects)

/-- `netlink_xfrm_event_cb`. -/
def netlinkXfrmEventCb (fuel : Nat) (d : Datagram nlBufSize) : Option (Walked (List Effect)) :=
  if d.len = 0 then some ⟨[], [], false⟩
  else (messages d.mem never).run (xfrmMessage fuel d.mem) fuel 0 d.len []

/-! ## `parser_link_sync` -/

/-- `struct nl_link_info`. -/
structure LinkInfo where
  name : List UInt8
  flags : Nat
  rxBytes : Nat
  txBytes : Nat
deriving DecidableEq, Repr

/-- `struct nl_parse_ctx`: the links that count. -/
structure ParseCtx where
  maxCount : Nat
  links : List LinkInfo
deriving DecidableEq, Repr

/-- `safe_copy_ifname`: the name ends at its NUL, at the end of the payload, or with 15 bytes. -/
def safeCopyIfname (mem : Nat → UInt8) (src srcLen : Nat) : List UInt8 :=
  (((List.range srcLen).map fun i => mem (src + i)).takeWhile (· ≠ 0)).take 15

/-- The body of the loop over the attributes: IFLA_IFNAME and IFLA_STATS64. -/
def linkAttribute (mem : Nat → UInt8) (a : Nat) (info : LinkInfo) : Option (List Span × LinkInfo) :=
  let data := a + rtattrSize
  if rtaType mem a = 3 then
    some ([⟨data, rtaPayload mem a⟩],
      { info with name := safeCopyIfname mem data (rtaPayload mem a) })
  else if rtaType mem a = 23 ∧ linkStats64Size ≤ rtaPayload mem a then
    some ([⟨data, linkStats64Size⟩],
      { info with rxBytes := u64 mem (data + 16), txBytes := u64 mem (data + 24) })
  else some ([], info)

/-- `parser_link_sync`, which never fails. -/
def parserLinkSync (fuel : Nat) (mem : Nat → UInt8) (h : Nat) (ctx : ParseCtx) :
    Option (List Span × ParseCtx) :=
  -- RTM_NEWLINK
  if nlmsgType mem h ≠ 16 then some ([], ctx)
  else if ctx.maxCount ≤ ctx.links.length then some ([], ctx)
  else
    let flags := u32 mem (h + nlmsgHdrlen + 8)
    ((attributes mem never).run (linkAttribute mem) fuel (h + (nlmsgHdrlen + ifinfomsgSize))
      (nlmsgPayload mem h ifinfomsgSize) ⟨[], flags, 0, 0⟩).map fun r =>
        (r.reads, if r.state.name = [] then ctx else { ctx with links := ctx.links ++ [r.state] })

/-! ## `netlink_recv_all_with_timeout` -/

/-- How the reception ends. -/
inductive Outcome where
  | done
  /-- An error response with this code. -/
  | error (code : Int)
  /-- `recv` has failed, or nothing came in time. -/
  | recvFailed
deriving DecidableEq, Repr

/-- The state of the loop. -/
structure RecvState where
  ctx : ParseCtx
  outcome : Option Outcome
deriving DecidableEq, Repr

/-- The loop over the messages is left at the end of the dump and at an error response. -/
def endsDump (mem : Nat → UInt8) (expectedSeq : Nat) (h : Nat) : Bool :=
  nlmsgSeq mem h == expectedSeq && (nlmsgType mem h == 3 || nlmsgType mem h == 2)

/-- The body of the loop over the messages: NLMSG_DONE, NLMSG_ERROR, and the parser. -/
def recvMessage (fuel : Nat) (mem : Nat → UInt8) (expectedSeq h : Nat) (st : RecvState) :
    Option (List Span × RecvState) :=
  if nlmsgSeq mem h ≠ expectedSeq then some ([], st)
  else if nlmsgType mem h = 3 then some ([], { st with outcome := some .done })
  else if nlmsgType mem h = 2 then
    let error := asInt (u32 mem (h + nlmsgHdrlen))
    some ([], { st with outcome := some (if error ≠ 0 then .error error else .done) })
  else (parserLinkSync fuel mem h st.ctx).map fun (reads, ctx) => (reads, { st with ctx := ctx })

/-- What a reception has done: the reads of each datagram, and how it has ended. -/
structure Reception where
  reads : List (Datagram nlDumpSize × List Span)
  outcome : Option Outcome
  ctx : ParseCtx

/-- `netlink_recv_all_with_timeout` with `parser_link_sync`, which is what its callers pass. The list
holds what `recv` delivers until it fails or the time is over. -/
def netlinkRecvAllWithTimeout (fuel expectedSeq : Nat) :
    List (Datagram nlDumpSize) → ParseCtx → Option Reception
  | [], ctx => some ⟨[], some .recvFailed, ctx⟩
  | d :: ds, ctx =>
    match (messages d.mem (endsDump d.mem expectedSeq)).run (recvMessage fuel d.mem expectedSeq) fuel 0
        d.len ⟨ctx, none⟩ with
    | none => none
    | some r =>
      if r.stopped then some ⟨[(d, r.reads)], r.state.outcome, r.state.ctx⟩
      else
        (netlinkRecvAllWithTimeout fuel expectedSeq ds r.state.ctx).map fun rest =>
          { rest with reads := (d, r.reads) :: rest.reads }

end Atpd.Netlink
