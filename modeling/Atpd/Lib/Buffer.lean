import Mathlib.Tactic.Common
import Mathlib.Algebra.Group.Nat.Defs

/-!
# Checked buffers

C functions that are given a pointer and a length, and go through the memory with an index. Every load and
every store is checked here, and one that is out of bounds is a `Fault`, as is a loop that does not end.
Indices are of type `size_t`: their sums and differences are taken modulo 2^64. Nothing here names the
modelled program.

`At b stop pos rest` is the invariant of such a loop: the memory between `pos` and `stop` is `rest`. Its
lemmas say that what can be done to the list `rest` can be done to the index.
-/

namespace Atpd.Lib

/-- What must not happen. -/
inductive Fault where
  | read (i : Nat)
  | write (i : Nat)
  | endless
deriving DecidableEq, Repr

/-- The result of a function, or a fault in it. -/
abbrev Checked (α : Type) := Except Fault α

/-- The size of the address space. -/
def sizeMax : Nat := 2 ^ 64

/-- `a + b` of type `size_t`. -/
def sizeAdd (a b : Nat) : Nat := (a + b) % sizeMax

/-- `a - b` of type `size_t`. -/
def sizeSub (a b : Nat) : Nat := (a + sizeMax - b) % sizeMax

/-- An array, of which the first `len` items may be read. -/
structure Buffer (α : Type) where
  items : List α
  len : Nat
  within : len ≤ items.length
  small : items.length < sizeMax

variable {α : Type} {b : Buffer α} {stop pos n : Nat} {x : α} {rest out : List α}

/-- `buf[i]`. -/
def Buffer.load (b : Buffer α) (i : Nat) : Checked α :=
  if i < b.len then
    match b.items[i]? with
    | some x => .ok x
    | none => .error (.read i)
  else .error (.read i)

/-- `out[i] = x`. -/
def store (out : List α) (i : Nat) (x : α) : Checked (List α) :=
  if i < out.length then .ok (out.set i x) else .error (.write i)

/-- `memcpy(out + dst, buf + src, n)`, item by item. -/
def memcpy (b : Buffer α) : Nat → Nat → Nat → List α → Checked (List α)
  | 0, _, _, out => .ok out
  | n + 1, src, dst, out =>
    match b.load src with
    | .error fault => .error fault
    | .ok x =>
      match store out dst x with
      | .error fault => .error fault
      | .ok out => memcpy b n (src + 1) (dst + 1) out

/-! ## The rest of a buffer -/

/-- The items from `pos` to `stop` may be read, and are `rest`. -/
structure At (b : Buffer α) (stop pos : Nat) (rest : List α) : Prop where
  within : stop ≤ b.len
  le : pos ≤ stop
  items : rest = (b.items.take stop).drop pos

namespace At

/-- The items that are left. -/
lemma length (at' : At b stop pos rest) : pos + rest.length = stop := by
  have within := at'.within
  have le := at'.le
  have total := b.within
  rw [at'.items, List.length_drop, List.length_take]
  omega

/-- From any index on. -/
lemma start (within : stop ≤ b.len) (le : pos ≤ stop) :
    At b stop pos ((b.items.take stop).drop pos) := ⟨within, le, rfl⟩

/-- The loop goes on as long as something is left. -/
lemma lt_iff (at' : At b stop pos rest) : pos < stop ↔ rest ≠ [] := by
  have length := at'.length
  rw [← List.length_pos_iff]
  omega

/-- What is left, as a number. -/
lemma sub (at' : At b stop pos rest) : sizeSub stop pos = rest.length := by
  have length := at'.length
  have within := at'.within
  have total := b.within
  have small := b.small
  rw [sizeSub]
  have same : stop + sizeMax - pos = rest.length + sizeMax := by omega
  rw [same, Nat.add_mod_right, Nat.mod_eq_of_lt (by omega)]

/-- The index does not wrap. -/
lemma add (at' : At b stop pos rest) (le : n ≤ rest.length) : sizeAdd pos n = pos + n := by
  have length := at'.length
  have within := at'.within
  have total := b.within
  have small := b.small
  rw [sizeAdd, Nat.mod_eq_of_lt (by omega)]

/-- Items are skipped. -/
lemma drop (at' : At b stop pos rest) (le : n ≤ rest.length) : At b stop (pos + n) (rest.drop n) where
  within := at'.within
  le := by
    have length := at'.length
    omega
  items := by rw [at'.items, List.drop_drop]

/-- An end that comes earlier. -/
lemma restrict {stop' : Nat} (at' : At b stop pos rest) (earlier : stop' ≤ stop) (le : pos ≤ stop') :
    At b stop' pos (rest.take (stop' - pos)) where
  within := Nat.le_trans earlier at'.within
  le := le
  items := by
    rw [at'.items, List.drop_take, List.drop_take, List.take_take, Nat.min_eq_left (by omega)]

/-- The next item can be read. -/
lemma load (at' : At b stop pos (x :: rest)) : b.load pos = .ok x ∧ At b stop (pos + 1) rest := by
  have length := at'.length
  have within := at'.within
  simp only [List.length_cons] at length
  have item : b.items[pos]? = some x := by
    have first := congrArg (fun l => l[0]?) at'.items
    simp only [List.getElem?_cons_zero, List.getElem?_drop, Nat.add_zero] at first
    rw [List.getElem?_take_of_lt (by omega)] at first
    exact first.symm
  refine ⟨?_, at'.drop (n := 1) (by simp)⟩
  rw [Buffer.load, if_pos (by omega), item]

/-- What is left can be copied to where there is room. -/
lemma memcpy {dst : Nat} (at' : At b stop pos rest) (le : n ≤ rest.length) (room : dst + n ≤ out.length) :
    Lib.memcpy b n pos dst out = .ok (out.take dst ++ rest.take n ++ out.drop (dst + n)) := by
  induction n generalizing pos dst rest out with
  | zero => simp [Lib.memcpy]
  | succ n ih =>
    cases rest with
    | nil => simp at le
    | cons x rest =>
      obtain ⟨load, next⟩ := at'.load
      have later := @ih (pos + 1) rest (out.set dst x) (dst + 1) next (by simpa using le)
        (by rw [List.length_set]; omega)
      rw [Lib.memcpy, load]
      dsimp only
      rw [store, if_pos (by omega)]
      dsimp only
      have front : (out.set dst x).take (dst + 1) = out.take dst ++ [x] := by
        have split : out.set dst x = out.take dst ++ [x] ++ out.drop (dst + 1) := by
          rw [List.set_eq_take_append_cons_drop, if_pos (by omega), List.append_assoc]
          rfl
        have size : (out.take dst ++ [x]).length = dst + 1 := by
          rw [List.length_append, List.length_take, List.length_singleton]
          omega
        rw [split, ← size, List.take_left]
      have back : (out.set dst x).drop (dst + 1 + n) = out.drop (dst + (n + 1)) := by
        rw [List.drop_set_of_lt (by omega), Nat.add_assoc, Nat.add_comm 1 n]
      rw [later, front, back, List.take_succ_cons, List.append_assoc, List.append_assoc,
        List.append_assoc, List.cons_append, List.cons_append, List.nil_append]

end At

end Atpd.Lib
