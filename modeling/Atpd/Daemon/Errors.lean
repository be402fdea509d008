import Atpd.Config.Basic
import Atpd.Lib.Ring
import Mathlib.Algebra.Group.Nat.Defs

/-!
# The error ring

`src/atpd_error.c` keeps the latest errors in a ring of 128 entries. `error_ring_fifo` says what the
getters give after any sequence of pushes and clears, in terms of the history: what was pushed since
the last clear, and how much was pushed at all. The counter of the latter has 64 bits.
-/

namespace Atpd.Daemon.Errors

open Atpd.Config Atpd.Lib

/-! ## The ring -/

/-- `atpd_error_code_t`. -/
inductive ErrorCode where
  | none
  | configLoad
  | configReload
  | serviceStart
  | serviceStop
  | netlinkInit
  | ipc
  | timeout
  | memory
  | io
  | permission
  | unknown
deriving DecidableEq, Repr

/-- `ATPD_ERROR_MAX`. -/
abbrev atpdErrorMax : Nat := 128

/-- `ATPD_ERROR_MSG_LEN`. -/
def atpdErrorMsgLen : Nat := 256

/-- The size of `file` and `func`. -/
def nameLen : Nat := 64

/-- `atpd_error_entry_t`. -/
structure ErrorEntry where
  code : ErrorCode
  msg : Str
  file : Str
  line : Int
  func : Str
  timestamp : Nat
deriving DecidableEq, Repr

/-- `atpd_error_ring_t`, less the mutex: every operation holds it from end to end. -/
structure ErrorRing extends Ring ErrorEntry atpdErrorMax where
  totalCount : Nat

/-- An entry after `memset`. -/
def blank : ErrorEntry := ⟨.none, [], [], 0, [], 0⟩

/-- `strncpy(dst, src, size - 1)` with a NUL behind it. -/
def copied (size : Nat) (src : Str) : Str := src.take (size - 1)

/-- `atpd_error_init`. -/
def atpdErrorInit : ErrorRing := ⟨Ring.empty blank, 0⟩

/-- The arguments of `atpd_error_push`, with `none` for `NULL`, and the answer of `time`. -/
structure PushArgs where
  code : ErrorCode
  msg : Option Str
  file : Option Str
  line : Int
  func : Option Str
  time : Nat
deriving DecidableEq, Repr

/-- What a call of `atpd_error_push` records, if it is not turned away. -/
def PushArgs.entry (args : PushArgs) : Option ErrorEntry :=
  if args.code = .none then none
  else
    args.msg.map fun msg =>
      { code := args.code
        msg := copied atpdErrorMsgLen msg
        file := copied nameLen (args.file.getD [])
        line := args.line
        func := copied nameLen (args.func.getD [])
        timestamp := args.time }

/-- `atpd_error_push`. -/
def atpdErrorPush (ring : ErrorRing) (args : PushArgs) : ErrorRing :=
  match args.entry with
  | none => ring
  | some entry =>
    { toRing := ring.toRing.push entry
      totalCount := (ring.totalCount + 1) % 2 ^ 64 }

/-- `atpd_error_clear`. -/
def atpdErrorClear (ring : ErrorRing) : ErrorRing := { ring with toRing := Ring.empty blank }

/-- `atpd_error_count`. -/
def atpdErrorCount (ring : ErrorRing) : Nat := ring.count

/-- `atpd_error_get`: what is written to `out`, or -1. -/
def atpdErrorGet (ring : ErrorRing) (index : Int) : Option ErrorEntry :=
  if index < 0 then none else ring.toRing.get index.toNat

/-- `atpd_error_get_last`: what is written to `out`, or -1. -/
def atpdErrorGetLast (ring : ErrorRing) : Option ErrorEntry := ring.toRing.last

/-- `atpd_error_total`. -/
def atpdErrorTotal (ring : ErrorRing) : Nat := ring.totalCount

/-! ## Runs -/

/-- An operation. -/
inductive ErrorOp where
  | push (args : PushArgs)
  | clear
deriving DecidableEq, Repr

/-- What an operation does. -/
def ErrorOp.apply (ring : ErrorRing) : ErrorOp → ErrorRing
  | push args => atpdErrorPush ring args
  | clear => atpdErrorClear ring

/-- The ring after the operations. -/
def errorRun (ops : List ErrorOp) : ErrorRing := ops.foldl ErrorOp.apply atpdErrorInit

/-- The entry that an operation pushes. -/
def ErrorOp.pushed : ErrorOp → Option ErrorEntry
  | push args => args.entry
  | clear => none

/-- What is pushed at all. -/
def history (ops : List ErrorOp) : List ErrorEntry := ops.filterMap ErrorOp.pushed

/-- What is pushed since the last clear. -/
def sinceClear (ops : List ErrorOp) : List ErrorEntry :=
  history (ops.reverse.takeWhile (· ≠ .clear)).reverse

/-- What was pushed last. -/
lemma history_concat (ops : List ErrorOp) (op : ErrorOp) :
    history (ops ++ [op]) = history ops ++ op.pushed.toList := by
  rw [history, history, List.filterMap_append, List.filterMap_cons]
  cases op.pushed <;> rfl

/-- Clearing leaves nothing. -/
lemma sinceClear_clear (ops : List ErrorOp) : sinceClear (ops ++ [.clear]) = [] := by
  simp [sinceClear, history]

/-- Pushing adds one entry. -/
lemma sinceClear_push (ops : List ErrorOp) (args : PushArgs) :
    sinceClear (ops ++ [.push args]) = sinceClear ops ++ args.entry.toList := by
  rw [sinceClear, List.reverse_concat, List.takeWhile_cons_of_pos (by simp), List.reverse_cons,
    history_concat]
  rfl

/-- The ring has the latest entries of the history, and the counter its length. -/
structure Tracks (ring : ErrorRing) (ops : List ErrorOp) : Prop where
  holds : ring.toRing.Holds (latest atpdErrorMax (sinceClear ops))
  total : ring.totalCount = (history ops).length % 2 ^ 64

/-- Each operation keeps the ring in step with the history. -/
lemma Tracks.step {ring : ErrorRing} {ops : List ErrorOp} (tracks : Tracks ring ops) (op : ErrorOp) :
    Tracks (op.apply ring) (ops ++ [op]) := by
  cases op with
  | clear =>
    refine ⟨?_, ?_⟩
    · rw [sinceClear_clear]
      exact Ring.holds_empty blank
    · rw [history_concat]
      show ring.totalCount = _
      simpa [ErrorOp.pushed] using tracks.total
  | push args =>
    rw [ErrorOp.apply, atpdErrorPush]
    have total := tracks.total
    refine ⟨?_, ?_⟩
    · rw [sinceClear_push]
      cases args.entry with
      | none => simpa using tracks.holds
      | some entry =>
        have pushed := tracks.holds.push entry
        rw [latest_latest] at pushed
        exact pushed
    · rw [history_concat, ErrorOp.pushed]
      cases args.entry with
      | none => simpa using total
      | some entry =>
        show (ring.totalCount + 1) % 2 ^ 64 = _
        rw [total, Nat.mod_add_mod]
        simp

/-- By induction on the operations. -/
lemma foldl_tracks {ring : ErrorRing} {before : List ErrorOp} (tracks : Tracks ring before)
    (ops : List ErrorOp) : Tracks (ops.foldl ErrorOp.apply ring) (before ++ ops) := by
  induction ops generalizing ring before with
  | nil => simpa using tracks
  | cons op ops ih => simpa using ih (tracks.step op)

/-- The ring tracks its history. -/
lemma errorRun_tracks (ops : List ErrorOp) : Tracks (errorRun ops) ops := by
  have start : Tracks atpdErrorInit [] := ⟨Ring.holds_empty blank, rfl⟩
  exact foldl_tracks start ops

/-- After any sequence of pushes and clears the getters give the latest entries since the last clear,
the oldest first, and the counter is the number of pushes modulo 2^64. -/
theorem error_ring_fifo (ops : List ErrorOp) :
    atpdErrorCount (errorRun ops) = min (sinceClear ops).length atpdErrorMax ∧
      (∀ index : Int, atpdErrorGet (errorRun ops) index =
        if index < 0 then none else (latest atpdErrorMax (sinceClear ops))[index.toNat]?) ∧
      atpdErrorGetLast (errorRun ops) = (sinceClear ops).getLast? ∧
      atpdErrorTotal (errorRun ops) = (history ops).length % 2 ^ 64 := by
  have tracks := errorRun_tracks ops
  refine ⟨?_, fun index => ?_, ?_, tracks.total⟩
  · rw [← length_latest]
    exact tracks.holds.count
  · rw [atpdErrorGet, tracks.holds.get]
  · rw [← getLast?_latest (by decide : 0 < atpdErrorMax)]
    exact tracks.holds.last

/-- A push that is recorded. -/
def samplePush : PushArgs := ⟨.timeout, some "late".toList, none, 7, none, 0⟩

/-- Every push is in the history. -/
lemma history_replicate (n : Nat) :
    (history (List.replicate n (.push samplePush))).length = n := by
  induction n with
  | zero => rfl
  | succ n ih =>
    rw [List.replicate_succ', history_concat, List.length_append, ih]
    rfl

/-- The counter of a run with 2^64 pushes is back at 0. -/
theorem error_total_wraps :
    ∃ ops, (history ops).length = 2 ^ 64 ∧ atpdErrorTotal (errorRun ops) = 0 := by
  refine ⟨List.replicate (2 ^ 64) (.push samplePush), history_replicate _, ?_⟩
  rw [atpdErrorTotal, (errorRun_tracks _).total, history_replicate, Nat.mod_self]

end Atpd.Daemon.Errors
