import Mathlib.Logic.Function.Basic
import Mathlib.Data.List.Basic
import Mathlib.Tactic.Common

/-!
# Doubly linked lists

A doubly linked list without a sentinel, as it is written in C: each node has a pointer to the previous
node and one to the next, and there is a pointer to the first. `Linked` says that these pointers hold
the nodes of a list. Nothing here names the modelled program.

* `pushFront`, `unlinkNode`: a node is put in front of the list, and taken out of it.
* `insertNode`, `skipNode`: a node is put between two others, and passed over with its pointers left.
* `walk`: the first nodes of the list, read off by following the pointers.
-/

namespace Atpd.Lib

variable {α : Type*}

/-- The pointers of a node. -/
structure Link (α : Type*) where
  prev : Option α
  next : Option α
deriving DecidableEq, Repr

/-- The first `n` nodes. -/
def walk (link : α → Link α) : Option α → Nat → List α
  | some a, n + 1 => a :: walk link (link a).next n
  | _, _ => []

/-- From `ptr` on the pointers hold the nodes of a list; the node before them is `before`. -/
def Linked (link : α → Link α) : Option α → Option α → List α → Prop
  | _, ptr, [] => ptr = none
  | before, ptr, a :: l => ptr = some a ∧ (link a).prev = before ∧ Linked link (some a) (link a).next l

variable {link link' : α → Link α} {before ptr head : Option α} {a b : α} {l : List α} {n : Nat}

namespace Linked

/-- Only the pointers of the nodes of the list are read. -/
lemma congr (li : Linked link before ptr l) (same : ∀ a ∈ l, link' a = link a) :
    Linked link' before ptr l := by
  induction l generalizing before ptr with
  | nil => exact li
  | cons a l ih =>
    obtain ⟨first, prev, rest⟩ := li
    refine ⟨first, ?_, ?_⟩
    · rw [same a List.mem_cons_self]
      exact prev
    · rw [same a List.mem_cons_self]
      exact ih rest fun b hb => same b (List.mem_cons_of_mem a hb)

/-- Who is pointed to is in the list. -/
lemma mem_of_ptr (li : Linked link before (some a) l) : a ∈ l := by
  cases l with
  | nil => cases li
  | cons b l =>
    cases li.1
    exact List.mem_cons_self

/-- The pointers of a node of the list stay in the list. -/
lemma next_mem (li : Linked link before ptr l) (mem : a ∈ l) (next : (link a).next = some b) :
    b ∈ l := by
  induction l generalizing before ptr with
  | nil => cases mem
  | cons c l ih =>
    obtain ⟨-, -, rest⟩ := li
    rcases List.mem_cons.mp mem with rfl | mem
    · rw [next] at rest
      exact List.mem_cons_of_mem a rest.mem_of_ptr
    · exact List.mem_cons_of_mem c (ih rest mem)

/-- Only the first node has the pointer that the first node has. -/
lemma prev_ne (li : Linked link before ptr (a :: l)) (nodup : (a :: l).Nodup)
    (outside : ∀ c, before = some c → c ∉ a :: l) (mem : b ∈ l) : (link b).prev ≠ before := by
  obtain ⟨-, -, rest⟩ := li
  intro eq
  induction l generalizing a with
  | nil => cases mem
  | cons c l ih =>
    obtain ⟨-, prev, tail⟩ := rest
    rcases List.mem_cons.mp mem with rfl | mem
    · exact outside a (eq.symm.trans prev) List.mem_cons_self
    · refine ih (a := c) (List.nodup_cons.mp nodup).2 (fun d hd hm => ?_) mem tail
      exact outside d hd (List.mem_cons_of_mem a hm)

/-- The last node of the first part, in front of which there is `before`. -/
lemma getLast?_cons_or (c : α) (pre : List α) (before : Option α) :
    (c :: pre).getLast?.or before = pre.getLast?.or (some c) := by
  rw [List.getLast?_cons]
  cases pre.getLast? <;> rfl

/-- The previous node of a node stands in front of it. -/
lemma prev_eq {pre post : List α} (li : Linked link before ptr (pre ++ a :: post)) :
    (link a).prev = pre.getLast?.or before := by
  induction pre generalizing before ptr with
  | nil => exact li.2.1
  | cons c pre ih => rw [getLast?_cons_or, ih li.2.2]

/-- The previous node is another one of the list. -/
lemma prev_mem (li : Linked link none head l) (nodup : l.Nodup) (mem : a ∈ l)
    (prev : (link a).prev = some b) : b ∈ l ∧ b ≠ a := by
  obtain ⟨pre, post, rfl⟩ := List.append_of_mem mem
  rw [li.prev_eq, Option.or_none] at prev
  have inside := List.mem_of_getLast? prev
  refine ⟨List.mem_append_left _ inside, ?_⟩
  rintro rfl
  exact (List.nodup_append.mp nodup).2.2 b inside b List.mem_cons_self rfl

/-- A node is the previous one of its next. -/
lemma prev_of_next (li : Linked link before ptr l) (mem : a ∈ l) (next : (link a).next = some b) :
    (link b).prev = some a := by
  induction l generalizing before ptr with
  | nil => cases mem
  | cons c l ih =>
    obtain ⟨-, -, rest⟩ := li
    rcases List.mem_cons.mp mem with rfl | mem
    · cases l with
      | nil =>
        rw [next] at rest
        cases rest
      | cons d l =>
        obtain ⟨same, prev, -⟩ := rest
        cases next.symm.trans same
        exact prev
    · exact ih rest mem

/-- A node is the next one of its previous. -/
lemma next_of_prev (li : Linked link before ptr l) (nodup : l.Nodup)
    (outside : ∀ c, before = some c → c ∉ l) (ha : a ∈ l) (hb : b ∈ l) (back : (link b).prev = some a) :
    (link a).next = some b := by
  induction l generalizing before ptr with
  | nil => cases ha
  | cons c l ih =>
    obtain ⟨-, prev, rest⟩ := li
    obtain ⟨notin, tail⟩ := List.nodup_cons.mp nodup
    have out : ∀ d, some c = some d → d ∉ l := by
      rintro _ ⟨⟩
      exact notin
    rcases List.mem_cons.mp hb with rfl | behind
    · exact absurd ha (outside a (prev.symm.trans back))
    · rcases List.mem_cons.mp ha with rfl | later
      · cases l with
        | nil => cases behind
        | cons d l =>
          rcases List.mem_cons.mp behind with rfl | far
          · exact rest.1
          · exact absurd back (rest.prev_ne tail out far)
      · exact ih rest tail out later behind

/-- The pointers to the next and to the previous node are inverse to each other. -/
theorem next_iff_prev (li : Linked link none head l) (nodup : l.Nodup) (ha : a ∈ l) (hb : b ∈ l) :
    (link a).next = some b ↔ (link b).prev = some a :=
  ⟨li.prev_of_next ha, li.next_of_prev nodup (by rintro _ ⟨⟩) ha hb⟩

/-- The pointers give the list back. -/
theorem walk_eq (li : Linked link before ptr l) (n : Nat) : walk link ptr n = l.take n := by
  induction l generalizing before ptr n with
  | nil =>
    rw [show ptr = none from li, List.take_nil]
    cases n <;> rfl
  | cons a l ih =>
    obtain ⟨rfl, -, rest⟩ := li
    cases n with
    | zero => rfl
    | succ n => rw [walk, ih rest, List.take_succ_cons]

end Linked

/-! ## Writing pointers -/

variable [DecidableEq α]

/-- `a->prev = v`, unless `a` is NULL. -/
def setPrev (link : α → Link α) (a v : Option α) : α → Link α :=
  match a with
  | some a => Function.update link a { link a with prev := v }
  | none => link

/-- `a->next = v`, unless `a` is NULL. -/
def setNext (link : α → Link α) (a v : Option α) : α → Link α :=
  match a with
  | some a => Function.update link a { link a with next := v }
  | none => link

/-- The pointers after `a` has been put in front of the node `head`. -/
def pushFront (link : α → Link α) (head : Option α) (a : α) : α → Link α :=
  setPrev (Function.update link a ⟨none, head⟩) head (some a)

/-- The pointers after `a` has been taken out. -/
def unlinkNode (link : α → Link α) (a : α) : α → Link α :=
  Function.update (setPrev (setNext link (link a).prev (link a).next) (link a).next (link a).prev) a
    ⟨none, none⟩

/-- The first node after `a` has been taken out. -/
def unlinkHead (link : α → Link α) (head : Option α) (a : α) : Option α :=
  if (link a).prev.isSome then head else (link a).next

/-- The pointers after `a` has been put between the nodes `prev` and `next`. -/
def insertNode (link : α → Link α) (prev next : Option α) (a : α) : α → Link α :=
  setPrev (setNext (Function.update link a ⟨prev, next⟩) prev (some a)) next (some a)

/-- The first node after `a` has been put behind the node `prev`. -/
def insertHead (head prev : Option α) (a : α) : Option α := if prev.isSome then head else some a

/-- The pointers after `a` has been taken out, with its own as they were. -/
def skipNode (link : α → Link α) (a : α) : α → Link α :=
  setPrev (setNext link (link a).prev (link a).next) (link a).next (link a).prev

/-- Another node keeps its links. -/
lemma setPrev_of_ne {v : Option α} (ne : head ≠ some b) : setPrev link head v b = link b := by
  cases head with
  | none => rfl
  | some h => exact Function.update_of_ne (fun eq => ne (by rw [eq])) _ _

/-- Here, too. -/
lemma setNext_of_ne {v : Option α} (ne : head ≠ some b) : setNext link head v b = link b := by
  cases head with
  | none => rfl
  | some h => exact Function.update_of_ne (fun eq => ne (by rw [eq])) _ _

/-- A node that is neither taken out nor next to it keeps its pointers. -/
lemma unlinkNode_of_ne (ne : b ≠ a) (prev : (link a).prev ≠ some b) (next : (link a).next ≠ some b) :
    unlinkNode link a b = link b := by
  rw [unlinkNode, Function.update_of_ne ne, setPrev_of_ne next, setNext_of_ne prev]

/-- What the node behind the one that is taken out gets. -/
lemma unlinkNode_next (next : (link a).next = some b) (ne : b ≠ a) (prev : (link a).prev ≠ some b) :
    unlinkNode link a b = ⟨(link a).prev, (link b).next⟩ := by
  rw [unlinkNode, Function.update_of_ne ne, next, setPrev, Function.update_self, setNext_of_ne prev]

/-- What the node in front of the one that is taken out gets. -/
lemma unlinkNode_prev (prev : (link a).prev = some b) (ne : b ≠ a) (next : (link a).next ≠ some b) :
    unlinkNode link a b = ⟨(link b).prev, (link a).next⟩ := by
  rw [unlinkNode, Function.update_of_ne ne, setPrev_of_ne next, prev, setNext, Function.update_self]

namespace Linked

/-- The list is pushed. -/
theorem push (li : Linked link none head l) (nodup : l.Nodup) (new : a ∉ l) :
    Linked (pushFront link head a) none (some a) (a :: l) := by
  have apart : head ≠ some a := by
    rintro rfl
    exact new li.mem_of_ptr
  have here : pushFront link head a a = ⟨none, head⟩ := by
    rw [pushFront, setPrev_of_ne apart, Function.update_self]
  refine ⟨rfl, by rw [here], ?_⟩
  rw [here]
  cases l with
  | nil => exact li
  | cons h l =>
    obtain ⟨rfl, prev, rest⟩ := li
    obtain ⟨notin, -⟩ := List.nodup_cons.mp nodup
    have ne : h ≠ a := fun eq => new (eq ▸ List.mem_cons_self)
    have old : Function.update link a ⟨none, some h⟩ h = link h := Function.update_of_ne ne _ _
    have first : pushFront link (some h) a h = ⟨some a, (link h).next⟩ := by
      rw [pushFront, setPrev, Function.update_self, old]
    refine ⟨rfl, by rw [first], ?_⟩
    rw [first]
    refine rest.congr fun b hb => ?_
    have far : some h ≠ some b := by
      rintro ⟨⟩
      exact notin hb
    have other : b ≠ a := fun eq => new (eq ▸ List.mem_cons_of_mem h hb)
    rw [pushFront, setPrev_of_ne far, Function.update_of_ne other]

/-- A node is taken out of the rest of a list; the pointer to the rest changes if it is its first. -/
lemma unlink_from (li : Linked link before ptr l) (nodup : l.Nodup)
    (outside : ∀ c, before = some c → c ∉ l) (mem : a ∈ l) :
    Linked (unlinkNode link a) before (if (link a).prev = before then (link a).next else ptr)
      (l.erase a) := by
  induction l generalizing before ptr with
  | nil => cases mem
  | cons c l ih =>
    obtain ⟨notin, tail⟩ := List.nodup_cons.mp nodup
    by_cases same : c = a
    · subst same
      obtain ⟨-, prev, rest⟩ := li
      rw [List.erase_cons_head, if_pos prev]
      cases l with
      | nil => exact rest
      | cons d l =>
        obtain ⟨next, -, rest⟩ := rest
        have ne : d ≠ c := fun eq => notin (eq ▸ List.mem_cons_self)
        have clear : ∀ e, e ∈ d :: l → (link c).prev ≠ some e := by
          intro e he eq
          exact outside e (prev.symm.trans eq) (List.mem_cons_of_mem c he)
        have second := unlinkNode_next next ne (clear d List.mem_cons_self)
        refine ⟨next, by rw [second]; exact prev, ?_⟩
        rw [second]
        refine rest.congr fun e he => ?_
        refine unlinkNode_of_ne ?_ (clear e (List.mem_cons_of_mem d he)) ?_
        · rintro rfl
          exact notin (List.mem_cons_of_mem d he)
        · rw [next]
          rintro ⟨⟩
          exact (List.nodup_cons.mp tail).1 he
    · have mem : a ∈ l := (List.mem_cons.mp mem).resolve_left fun eq => same eq.symm
      have later := li.prev_ne nodup outside mem
      obtain ⟨first, prev, rest⟩ := li
      have inner := ih rest tail (by rintro _ ⟨⟩; exact notin) mem
      have behind : (link a).next ≠ some c := fun eq => notin (rest.next_mem mem eq)
      rw [List.erase_cons_tail (by simpa using same), if_neg later]
      by_cases front : (link a).prev = some c
      · have here := unlinkNode_prev front same behind
        rw [if_pos front] at inner
        refine ⟨first, by rw [here]; exact prev, ?_⟩
        rw [here]
        exact inner
      · have here := unlinkNode_of_ne same front behind
        rw [if_neg front] at inner
        refine ⟨first, by rw [here]; exact prev, ?_⟩
        rw [here]
        exact inner

/-- A node is taken out. -/
theorem unlink (li : Linked link none head l) (nodup : l.Nodup) (mem : a ∈ l) :
    Linked (unlinkNode link a) none (unlinkHead link head a) (l.erase a) := by
  have out := li.unlink_from nodup nofun mem
  rw [unlinkHead]
  cases h : (link a).prev with
  | none =>
    rw [if_pos h] at out
    exact out
  | some b =>
    rw [if_neg (by rw [h]; exact nofun)] at out
    exact out

/-- A node is taken out, and keeps its own pointers. -/
theorem skip (li : Linked link none head l) (nodup : l.Nodup) (mem : a ∈ l) :
    Linked (skipNode link a) none (unlinkHead link head a) (l.erase a) := by
  refine (li.unlink nodup mem).congr fun b hb => ?_
  have ne : b ≠ a := fun eq => nodup.not_mem_erase (eq ▸ hb)
  rw [unlinkNode, Function.update_of_ne ne, skipNode]

/-- A node is put in front of the rest of a list. -/
lemma insert_front (li : Linked link before ptr l) (nodup : l.Nodup)
    (outside : ∀ c, before = some c → c ∉ l ∧ c ≠ a) (new : a ∉ l) :
    Linked (insertNode link before ptr a) before (some a) (a :: l) := by
  have apart : ptr ≠ some a := by
    rintro rfl
    exact new li.mem_of_ptr
  have apart' : before ≠ some a := fun eq => (outside a eq).2 rfl
  have here : insertNode link before ptr a a = ⟨before, ptr⟩ := by
    rw [insertNode, setPrev_of_ne apart, setNext_of_ne apart', Function.update_self]
  refine ⟨rfl, by rw [here], ?_⟩
  rw [here]
  cases l with
  | nil => exact li
  | cons h l =>
    obtain ⟨rfl, -, rest⟩ := li
    have other : ∀ {b}, b ∈ h :: l → setNext (Function.update link a ⟨before, some h⟩) before (some a) b =
        link b := by
      intro b hb
      rw [setNext_of_ne fun eq => (outside b eq).1 hb, Function.update_of_ne]
      rintro rfl
      exact new hb
    have first : insertNode link before (some h) a h = ⟨some a, (link h).next⟩ := by
      rw [insertNode, setPrev, Function.update_self, other List.mem_cons_self]
    refine ⟨rfl, by rw [first], ?_⟩
    rw [first]
    refine rest.congr fun b hb => ?_
    have far : some h ≠ some b := by
      rintro ⟨⟩
      exact (List.nodup_cons.mp nodup).1 hb
    rw [insertNode, setPrev_of_ne far, other (List.mem_cons_of_mem h hb)]

/-- A node is put between two parts of a list. -/
lemma insert_from {pre post : List α} (li : Linked link before ptr (pre ++ post))
    (nodup : (pre ++ post).Nodup) (outside : ∀ c, before = some c → c ∉ pre ++ post ∧ c ≠ a)
    (new : a ∉ pre ++ post) :
    Linked (insertNode link (pre.getLast?.or before) post.head? a) before
      (if pre = [] then some a else ptr) (pre ++ a :: post) := by
  induction pre generalizing before ptr with
  | nil =>
    have first : post.head? = ptr := by
      cases post with
      | nil => exact li.symm
      | cons h post => exact li.1.symm
    rw [List.getLast?_nil, Option.none_or, if_pos rfl, first]
    exact li.insert_front nodup outside new
  | cons c pre ih =>
    obtain ⟨ptr', prev, rest⟩ := li
    obtain ⟨notin, tail⟩ := List.nodup_cons.mp nodup
    have ne : c ≠ a := fun eq => new (eq ▸ List.mem_cons_self)
    have inner := ih rest tail (by rintro _ ⟨⟩; exact ⟨notin, ne⟩)
      fun mem => new (List.mem_cons_of_mem c mem)
    have next : post.head? ≠ some c := by
      intro eq
      exact notin (List.mem_append_right pre (List.mem_of_mem_head? eq))
    rw [getLast?_cons_or, if_neg (List.cons_ne_nil c pre)]
    have here : insertNode link (pre.getLast?.or (some c)) post.head? a c =
        ⟨before, if pre = [] then some a else (link c).next⟩ := by
      rw [insertNode, setPrev_of_ne next]
      cases pre with
      | nil =>
        rw [List.getLast?_nil, Option.none_or, setNext, Function.update_self, Function.update_of_ne ne,
          if_pos rfl, ← prev]
      | cons d pre =>
        have far : (d :: pre).getLast?.or (some c) ≠ some c := by
          rw [List.getLast?_cons]
          intro eq
          have mem := List.mem_of_getLast? ((List.getLast?_cons).trans eq)
          exact notin (List.mem_append_left post mem)
        rw [setNext_of_ne far, Function.update_of_ne ne, if_neg (List.cons_ne_nil d pre), ← prev]
    refine ⟨ptr', by rw [here], ?_⟩
    rw [here]
    exact inner

/-- A node is put between two parts of the list. -/
theorem insert {pre post : List α} (li : Linked link none head (pre ++ post)) (nodup : (pre ++ post).Nodup)
    (new : a ∉ pre ++ post) :
    Linked (insertNode link pre.getLast? post.head? a) none (insertHead head pre.getLast? a)
      (pre ++ a :: post) := by
  have put := li.insert_from nodup (by rintro _ ⟨⟩) new
  rw [Option.or_none] at put
  rw [insertHead]
  cases pre with
  | nil => exact put
  | cons c pre =>
    rw [if_neg (List.cons_ne_nil c pre)] at put
    rw [List.getLast?_cons] at put ⊢
    exact put

end Linked

end Atpd.Lib
