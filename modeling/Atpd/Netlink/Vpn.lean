import Atpd.Netlink.Dump

/-!
# The two lookups of the VPN interface

`netlink_get_active_vpn` asks `getifaddrs` first, and dumps the links when that gives nothing. Both take
the first interface that is up, looks like a tunnel and is called `ipsec..`, else the first that is up and
looks like a tunnel; `firstVpn` is this rule. The list of `getifaddrs` has no end, but the dump goes into
a table of 32 links, and what does not fit is left out without a word: `vpn_lookups_agree_iff` says when
the two agree all the same.
-/

namespace Atpd.Netlink

open Atpd.Config Atpd.Lib

variable {fuel size seq : Nat} {links : List Link} {ds : List (Datagram nlDumpSize)}

/-! ## The lookups -/

/-- `strncmp(ifname, prefix, strlen(prefix)) == 0`. -/
def startsWith (ifname : List UInt8) (front : String) : Bool := (bytes front.toList).isPrefixOf ifname

/-- `is_proxy_interface`. -/
def isProxyInterface (ifname : List UInt8) : Bool :=
  if startsWith ifname "ipsec" || startsWith ifname "xfrm" then true
  else
    ["tun", "warp", "wg", "tailscale", "zt", "zerotier", "utun", "vpn", "ppp"].any (startsWith ifname)

/-- `flags & IFF_UP`. -/
def isUp (flags : Nat) : Bool := flags % 2 == 1

/-- `snprintf(dst, size, "%s", name)`. -/
def snprintf (size : Nat) (name : List UInt8) : List UInt8 := name.take (size - 1)

/-- The loop of `getifaddrs_find_vpn`. -/
def getifaddrsLoop : List Link → Option (List UInt8) → Option (List UInt8)
  | [], fallback => fallback
  | ifa :: rest, fallback =>
    if !isUp ifa.flags then getifaddrsLoop rest fallback
    else if !isProxyInterface ifa.name then getifaddrsLoop rest fallback
    else if startsWith ifa.name "ipsec" then some ifa.name
    else getifaddrsLoop rest (if fallback.isNone then some ifa.name else fallback)

/-- `getifaddrs_find_vpn`: what is written to `iface`, or -1. `ifaddr` is what `getifaddrs` gives. -/
def getifaddrsFindVpn (size : Nat) (ifaddr : Option (List Link)) : Option (List UInt8) :=
  ifaddr.bind fun list => (getifaddrsLoop list none).map (snprintf size)

/-- The loop over the table in `netlink_get_active_vpn`. -/
def tableLoop : List LinkInfo → Option LinkInfo → Option LinkInfo
  | [], fallback => fallback
  | link :: rest, fallback =>
    if isUp link.flags && isProxyInterface link.name then
      if startsWith link.name "ipsec" then some link
      else tableLoop rest (if fallback.isNone then some link else fallback)
    else tableLoop rest fallback

/-- `netlink_get_active_vpn`: what is written to `output`, or -1. `socket` says whether there is a
socket for the request, `sent` whether it is sent, and `ds` is what comes back; `seq` is the number of
the request. -/
def netlinkGetActiveVpn (fuel size seq : Nat) (ifaddr : Option (List Link)) (socket sent : Bool)
    (ds : List (Datagram nlDumpSize)) : Option (Option (List UInt8)) :=
  if size = 0 then some none
  else
    match getifaddrsFindVpn size ifaddr with
    | some (c :: name) => some (some (c :: name))
    | _ =>
      if !socket then some none
      else if !sent then some none
      else
        (netlinkRecvAllWithTimeout fuel seq ds ⟨32, []⟩).map fun r =>
          if r.outcome = some .done then
            (tableLoop r.ctx.links none).map fun link => snprintf size link.name
          else none

/-! ## The rule -/

/-- The interface is up and looks like a tunnel. -/
def Link.eligible (link : Link) : Bool := isUp link.flags && isProxyInterface link.name

/-- The interface is preferred to the others. -/
def Link.preferred (link : Link) : Bool := link.eligible && startsWith link.name "ipsec"

/-- The first preferred interface, else the first that is eligible. -/
def firstVpn (links : List Link) : Option (List UInt8) :=
  ((links.find? Link.preferred).or (links.find? Link.eligible)).map Link.name

/-- The links that the table has room for. -/
def tabled (links : List Link) : List Link := (links.filter (·.name ≠ [])).take 32

/-- The links that are left out. -/
def leftOut (links : List Link) : List Link := (links.filter (·.name ≠ [])).drop 32

/-- The loop over `getifaddrs`: the first preferred link, or else the first eligible one. -/
lemma getifaddrsLoop_eq (links : List Link) (fallback : Option (List UInt8)) :
    getifaddrsLoop links fallback = ((links.find? Link.preferred).map Link.name).or
      (fallback.or ((links.find? Link.eligible).map Link.name)) := by
  induction links generalizing fallback with
  | nil => simp [getifaddrsLoop]
  | cons ifa rest ih =>
    rw [getifaddrsLoop, List.find?_cons, List.find?_cons, Link.preferred, Link.eligible]
    cases isUp ifa.flags with
    | false => exact ih fallback
    | true =>
      cases isProxyInterface ifa.name with
      | false => exact ih fallback
      | true =>
        cases startsWith ifa.name "ipsec" with
        | true => rfl
        | false =>
          refine (ih _).trans ?_
          cases fallback <;> rfl

/-- The loop over the table of links does the same by name. -/
lemma tableLoop_eq (links : List LinkInfo) (fallback : Option LinkInfo) :
    (tableLoop links fallback).map LinkInfo.name =
      getifaddrsLoop (links.map LinkInfo.link) (fallback.map LinkInfo.name) := by
  induction links generalizing fallback with
  | nil => rfl
  | cons link rest ih =>
    rw [List.map_cons, tableLoop, getifaddrsLoop]
    show _ = if !isUp link.flags then _ else if !isProxyInterface link.name then _ else
      if startsWith link.name "ipsec" then some link.name else _
    cases isUp link.flags with
    | false => exact ih fallback
    | true =>
      cases isProxyInterface link.name with
      | false => exact ih fallback
      | true =>
        cases startsWith link.name "ipsec" with
        | true => rfl
        | false =>
          refine (ih _).trans ?_
          cases fallback <;> rfl

/-- Without a fallback this is the first VPN. -/
lemma getifaddrsLoop_none (links : List Link) : getifaddrsLoop links none = firstVpn links := by
  rw [getifaddrsLoop_eq, Option.none_or, firstVpn, Option.map_or]

/-- An interface without a name is never chosen. -/
lemma firstVpn_named (links : List Link) : firstVpn (links.filter (·.name ≠ [])) = firstVpn links := by
  have chosen : ∀ p : Link → Bool, (∀ link, p link = true → link.name ≠ []) →
      (links.filter (·.name ≠ [])).find? p = links.find? p := by
    intro p named
    rw [List.find?_filter]
    congr 1
    funext link
    cases holds : p link with
    | false => simp
    | true => simp [named link holds]
  have eligible : ∀ link : Link, link.eligible = true → link.name ≠ [] := by
    intro link el empty
    rw [Link.eligible, empty] at el
    revert el
    cases isUp link.flags <;> decide
  rw [firstVpn, chosen Link.eligible eligible, chosen Link.preferred, firstVpn]
  intro link pref
  rw [Link.preferred, Bool.and_eq_true] at pref
  exact eligible link pref.1

/-- Its name fits into `IFNAMSIZ`. -/
lemma firstVpn_short (well : ∀ link ∈ links, link.WellNamed) {name : List UInt8}
    (first : firstVpn links = some name) : name.length < 16 := by
  obtain ⟨link, found, rfl⟩ := Option.map_eq_some_iff.mp first
  obtain pref | ⟨-, el⟩ := Option.or_eq_some_iff.mp found
  · exact (well link (List.mem_of_find?_eq_some pref)).2
  · exact (well link (List.mem_of_find?_eq_some el)).2

/-- Names fit into a buffer of IFNAMSIZ bytes. -/
lemma map_snprintf (fits : 16 ≤ size) (well : ∀ link ∈ links, link.WellNamed) :
    (firstVpn links).map (snprintf size) = firstVpn links := by
  cases first : firstVpn links with
  | none => rfl
  | some name =>
    have short := firstVpn_short well first
    rw [Option.map_some, snprintf, List.take_of_length_le (by omega)]

/-- So it is returned as it is. -/
lemma getifaddrsFindVpn_eq (fits : 16 ≤ size) (well : ∀ link ∈ links, link.WellNamed) :
    getifaddrsFindVpn size (some links) = firstVpn links := by
  rw [getifaddrsFindVpn, Option.bind_some, getifaddrsLoop_none, map_snprintf fits well]

/-- The dump gives the choice among the links in the table. -/
lemma netlinkGetActiveVpn_dump (enough : nlDumpSize < fuel) (fits : 16 ≤ size)
    (well : ∀ link ∈ links, link.WellNamed) (dump : Dump seq ds links) :
    netlinkGetActiveVpn fuel size seq none true true ds = some (firstVpn (tabled links)) := by
  obtain ⟨r, received, outcome, shows⟩ := recv_dump enough dump well
    (⟨rfl, rfl⟩ : Shows ⟨32, []⟩ 32 [])
  rw [netlinkGetActiveVpn, if_neg (by omega)]
  simp only [getifaddrsFindVpn, Option.bind_none, Bool.not_true, Bool.false_eq_true, if_false, received,
    Option.map_some, outcome, if_true, Option.some.injEq]
  have table : r.ctx.links.map LinkInfo.link = tabled links := shows.links
  have short : ∀ link ∈ tabled links, link.WellNamed :=
    fun link inside => well link ((List.mem_filter.mp (List.mem_of_mem_take inside)).1)
  calc (tableLoop r.ctx.links none).map (fun link => snprintf size link.name)
    _ = ((tableLoop r.ctx.links none).map LinkInfo.name).map (snprintf size) := by
      rw [Option.map_map]
      rfl
    _ = (firstVpn (tabled links)).map (snprintf size) := by
      rw [tableLoop_eq, Option.map_none, table, getifaddrsLoop_none]
    _ = firstVpn (tabled links) := map_snprintf fits short

/-! ## Agreement -/

/-- Nothing is found exactly if no link is eligible. -/
lemma find?_isNone_iff {p : Link → Bool} :
    (links.find? p).isNone = true ↔ ∀ link ∈ links, p link = false := by
  simp

/-- What stands behind makes no difference if the choice is in front, or nothing behind is better. -/
lemma firstVpn_append_iff (front back : List Link) :
    firstVpn front = firstVpn (front ++ back) ↔
      (∃ link ∈ front, link.preferred = true) ∨
        (∀ link ∈ back, link.preferred = false) ∧
          ((∃ link ∈ front, link.eligible = true) ∨ ∀ link ∈ back, link.eligible = false) := by
  simp only [← List.find?_isSome, ← find?_isNone_iff, firstVpn, List.find?_append]
  cases frontPref : front.find? Link.preferred with
  | some best => simp
  | none =>
    cases backPref : back.find? Link.preferred with
    | some best =>
      refine iff_of_false ?_ (by simp)
      intro same
      rw [Option.none_or, Option.none_or, Option.some_or, Option.map_some] at same
      obtain ⟨link, found, name⟩ := Option.map_eq_some_iff.mp same
      have worse := List.find?_eq_none.mp frontPref link (List.mem_of_find?_eq_some found)
      have better := List.find?_some backPref
      rw [Link.preferred, Bool.and_eq_true] at worse better
      exact worse ⟨List.find?_some found, name ▸ better.2⟩
    | none =>
      cases front.find? Link.eligible <;> cases back.find? Link.eligible <;> simp

/-- Both lookups give the first interface of the rule, unless a better one is among the links that the
table has no room for. -/
theorem vpn_lookups_agree_iff (fuel size seq : Nat) (links : List Link)
    (ds : List (Datagram nlDumpSize)) (enough : nlDumpSize < fuel) (fits : 16 ≤ size)
    (well : ∀ link ∈ links, link.WellNamed) (dump : Dump seq ds links) :
    (getifaddrsFindVpn size (some links) = firstVpn links ∧
        netlinkGetActiveVpn fuel size seq none true true ds = some (firstVpn links)) ↔
      (∃ link ∈ tabled links, link.preferred = true) ∨
        (∀ link ∈ leftOut links, link.preferred = false) ∧
          ((∃ link ∈ tabled links, link.eligible = true) ∨
            ∀ link ∈ leftOut links, link.eligible = false) := by
  have whole : tabled links ++ leftOut links = links.filter (·.name ≠ []) := List.take_append_drop 32 _
  rw [and_iff_right (getifaddrsFindVpn_eq fits well), netlinkGetActiveVpn_dump enough fits well dump,
    Option.some.injEq, ← firstVpn_append_iff, whole, firstVpn_named]

/-! ## More links than the table has room for -/

/-- An RTM_NEWLINK of the request 7 for an interface that is up; its name `v` and `c`. -/
def plainBytes (c : UInt8) : List UInt8 :=
  [40, 0, 0, 0, 16, 0, 2, 0, 7, 0, 0, 0, 0, 0, 0, 0] ++
    [0, 0, 1, 0, 9, 0, 0, 0, 1, 0, 0, 0, 0, 0, 0, 0] ++ [7, 0, 3, 0, 118, c, 0, 0]

/-- A reply with one message, for a link of two letters. -/
def plain (c : UInt8) : Datagram nlDumpSize := ⟨memOf (plainBytes c), 40, by decide⟩

/-- The same for `ipsec1`, and the end of the dump. -/
def lastBytes : List UInt8 :=
  [44, 0, 0, 0, 16, 0, 2, 0, 7, 0, 0, 0, 0, 0, 0, 0] ++
    [0, 0, 1, 0, 50, 0, 0, 0, 1, 0, 0, 0, 0, 0, 0, 0] ++
    [11, 0, 3, 0, 105, 112, 115, 101, 99, 49, 0, 0] ++
    [20, 0, 0, 0, 3, 0, 2, 0, 7, 0, 0, 0, 0, 0, 0, 0, 0, 0, 0, 0]

/-- It comes as one datagram. -/
def last : Datagram nlDumpSize := ⟨memOf lastBytes, 64, by decide⟩

/-- The link in `plain`. -/
def plainLink (c : UInt8) : Link := ⟨[118, c], 1⟩

/-- The link in `last`. -/
def ipsecLink : Link := ⟨bytes "ipsec1".toList, 1⟩

/-- `plain` holds one message for its link. -/
lemma plain_message (c : UInt8) : LinkMessage (plain c).mem 7 0 [32] (plainLink c) where
  isLink := rfl
  answers := rfl
  flags := rfl
  fills := by
    have size : rtaLen (plain c).mem 32 = 7 := rfl
    have next : 32 + rtaAlign (rtaLen (plain c).mem 32) = 40 := by rw [size]; rfl
    refine .cons ⟨?_, ?_⟩ ?_
    · show 4 ≤ rtaLen (plain c).mem 32
      omega
    · show 32 + rtaLen (plain c).mem 32 ≤ 40
      omega
    · show (attributes (plain c).mem never).Fills 40 (32 + rtaAlign (rtaLen (plain c).mem 32)) []
      rw [next]
      exact .nil
  name := ⟨32, ⟨List.mem_singleton_self 32, rfl, fun _ inside _ => List.mem_singleton.mp inside⟩, rfl⟩

/-- And nothing else. -/
lemma plain_fills (c : UInt8) : (messages (plain c).mem never).Fills (plain c).len 0 [0] := by
  have size : nlmsgLen (plain c).mem 0 = 40 := rfl
  have next : 0 + nlmsgAlign (nlmsgLen (plain c).mem 0) = 40 := by rw [size]; rfl
  refine .cons ⟨?_, ?_⟩ ?_
  · show 16 ≤ nlmsgLen (plain c).mem 0
    omega
  · show 0 + nlmsgLen (plain c).mem 0 ≤ 40
    omega
  · show (messages (plain c).mem never).Fills 40 (0 + nlmsgAlign (nlmsgLen (plain c).mem 0)) []
    rw [next]
    exact .nil

/-- `last` holds a message for its link. -/
lemma last_message : LinkMessage last.mem 7 0 [32] ipsecLink where
  isLink := rfl
  answers := rfl
  flags := rfl
  fills := .cons ⟨by decide, by decide⟩ .nil
  name := ⟨32, ⟨List.mem_singleton_self 32, rfl, fun _ inside _ => List.mem_singleton.mp inside⟩, rfl⟩

/-- It is a whole dump. -/
lemma last_dump : Dump 7 [last] [ipsecLink] := by
  have fills : (messages last.mem never).Fills last.len 0 ([0] ++ [44]) :=
    .cons ⟨by decide, by decide⟩ (.cons ⟨by decide, by decide⟩ .nil)
  exact .done fills (.cons last_message .nil) rfl rfl

/-- Interfaces with these names come before the last one. -/
lemma plains_dump (cs : List UInt8) : Dump 7 (cs.map plain ++ [last]) (cs.map plainLink ++ [ipsecLink]) := by
  induction cs with
  | nil => exact last_dump
  | cons c cs ih =>
    have one : Reports (plain c).mem 7 [0] [plainLink c] := .cons (plain_message c) .nil
    have longer : Dump 7 (plain c :: (cs.map plain ++ [last]))
        ([plainLink c] ++ (cs.map plainLink ++ [ipsecLink])) := .more (plain_fills c) one ih
    exact longer

/-- A single link is found by both lookups. -/
theorem vpn_lookups_agree_iff_last :
    getifaddrsFindVpn 16 (some [ipsecLink]) = firstVpn [ipsecLink] ∧
      netlinkGetActiveVpn 40000 16 7 none true true [last] = some (firstVpn [ipsecLink]) :=
  (vpn_lookups_agree_iff 40000 16 7 [ipsecLink] [last] (by decide) (by decide) (by decide)
    last_dump).mpr (.inl ⟨ipsecLink, by decide, by decide⟩)

/-- Thirty-two letters. -/
def letters : List UInt8 := (List.range 32).map fun i => UInt8.ofNat (65 + i)

/-- An `ipsec` interface behind thirty-two others is found by one lookup only. -/
theorem vpn_lookups_disagree :
    ∃ links ds, (∀ link ∈ links, link.WellNamed) ∧ Dump 7 ds links ∧
      getifaddrsFindVpn 16 (some links) = some (bytes "ipsec1".toList) ∧
        netlinkGetActiveVpn 40000 16 7 none true true ds = some none := by
  have well : ∀ link ∈ letters.map plainLink ++ [ipsecLink], link.WellNamed := by decide
  refine ⟨_, _, well, plains_dump letters, ?_, ?_⟩
  · rw [getifaddrsFindVpn_eq (by decide) well]
    decide
  · rw [netlinkGetActiveVpn_dump (by decide) (by decide) well (plains_dump letters)]
    decide

end Atpd.Netlink
