import CardToolkit.Feed
import Mathlib.Algebra.GroupWithZero.Nat
import Mathlib.Order.Bounds.Basic

/-!
# What readers of a feed are told

A feed keeps the newest of what was raised (`Feed.Keeps`), as much as it has room for.
Of what was raised since a reader last read, the oldest may thus be missing: these it is
told by their number, and of the others it takes as many as it likes (`Feed.readSome`),
and the rest another time.

What a reader is told in the course of time (`Tells`) goes through all that was raised,
in its order and without a gap of which it is not told.

* `isLeast_roomFor`: the room of a feed;
* `Feed.Keeps.pushAll`: a feed keeps the newest;
* `Feed.Keeps.missed`, `Feed.Keeps.pending`: what a reader misses and gets of what was
  raised since it last read;
* `Feed.Keeps.exists_readSome`, `Feed.Keeps.exists_read`: the next delivery goes on where
  the last one stopped;
* `Tells.sublist`, `Tells.length_add_sum`: what is received is in order, and with what is
  missed makes up all.
-/

namespace CardToolkit

/-- The room of a feed is the smallest power of two that is not below what is asked
    for. -/
theorem isLeast_roomFor (n : Nat) : IsLeast {k | (∃ i, k = 2 ^ i) ∧ n ≤ k} (roomFor n) := by
  refine ⟨⟨?_, Feed.le_roomFor n⟩, ?_⟩
  · rw [roomFor]
    split
    · exact ⟨0, rfl⟩
    · exact ⟨_, rfl⟩
  · rintro _ ⟨⟨i, rfl⟩, hn⟩
    rw [roomFor]
    split
    · exact Nat.one_le_two_pow
    · next hlarge =>
      have hlog : (n - 1).log2 < i := (Nat.log2_lt (by omega)).2 (by omega)
      exact Nat.pow_le_pow_right (by decide) hlog

/-! ## The newest is kept -/

namespace Feed

variable {α : Type} {f : Feed α} {all seen unread : List α}

/-- All of this was raised, and the newest of it is kept. -/
structure Keeps (f : Feed α) (all : List α) : Prop where
  raised : f.raised = all.length
  kept : f.kept = all.drop (all.length - f.room)

theorem keeps_withRoom (n : Nat) : (withRoom n : Feed α).Keeps [] := ⟨rfl, List.drop_nil.symm⟩

/-- The newest is kept when something is raised. -/
theorem Keeps.push (h : f.Keeps all) (a : α) : (f.push a).Keeps (all ++ [a]) where
  raised := by rw [raised_push, h.raised, List.length_append, List.length_singleton]
  kept := by
    have hlength : f.kept.length = all.length - (all.length - f.room) := by
      rw [h.kept, List.length_drop]
    show (f.kept ++ [a]).drop (f.kept.length + 1 - f.room) =
      (all ++ [a]).drop ((all ++ [a]).length - f.room)
    rw [hlength, h.kept, ← List.drop_append_of_le_length (Nat.sub_le _ _), List.drop_drop,
      List.length_append, List.length_singleton]
    congr 1
    omega

/-- The newest is kept when several are raised. -/
theorem Keeps.pushAll (h : f.Keeps all) (as : List α) : (f.pushAll as).Keeps (all ++ as) := by
  induction as generalizing f all with
  | nil =>
    rw [List.append_nil]
    exact h
  | cons a as ih =>
    rw [List.append_cons]
    exact ih (h.push a)

@[simp] theorem room_pushAll (f : Feed α) (as : List α) : (f.pushAll as).room = f.room := by
  induction as generalizing f with
  | nil => rfl
  | cons a as ih => exact ih (f.push a)

/-! ## One reader -/

/-- What a reader behind the first `place` is told that takes no more than `n`. -/
def readSome (f : Feed α) (n place : Nat) : Delivery α := ⟨f.missed place, (f.pending place).take n⟩

/-- The place of a reader that has taken no more than `n`: behind what it has missed and
    what it took. -/
def placeAfter (f : Feed α) (n place : Nat) : Nat :=
  max place f.dropped + ((f.pending place).take n).length

theorem Keeps.dropped (h : f.Keeps all) : f.dropped = all.length - f.room := by
  rw [Feed.dropped, h.raised, h.kept, List.length_drop]
  omega

/-- A reader misses as much as was raised since it last read and has no room. -/
theorem Keeps.missed (h : f.Keeps (seen ++ unread)) :
    f.missed seen.length = unread.length - f.room := by
  rw [Feed.missed, h.dropped, List.length_append]
  omega

/-- A reader gets the others. -/
theorem Keeps.pending (h : f.Keeps (seen ++ unread)) :
    f.pending seen.length = unread.drop (unread.length - f.room) := by
  have hplace : (seen ++ unread).length - f.room +
      (seen.length - ((seen ++ unread).length - f.room)) =
        seen.length + (unread.length - f.room) := by
    rw [List.length_append]
    omega
  rw [Feed.pending, h.dropped, h.kept, List.drop_drop, hplace, ← List.drop_drop, List.drop_left]

/-- What a reader is told that takes no more than `n`, and where it is then. -/
theorem Keeps.exists_readSome (h : f.Keeps (seen ++ unread)) (n : Nat) :
    ∃ skipped got rest, unread = skipped ++ got ++ rest ∧
      f.readSome n seen.length = ⟨skipped.length, got⟩ ∧
      f.placeAfter n seen.length = (seen ++ skipped ++ got).length := by
  let lost := unread.length - f.room
  have hlost : (unread.take lost).length = lost :=
    List.length_take_of_le (Nat.sub_le _ _)
  have hplace : max seen.length f.dropped = seen.length + lost := by
    rw [h.dropped, List.length_append]
    omega
  refine ⟨unread.take lost, (unread.drop lost).take n, (unread.drop lost).drop n, ?_, ?_, ?_⟩
  · rw [List.append_assoc, List.take_append_drop, List.take_append_drop]
  · rw [readSome, h.missed, h.pending, hlost]
  · rw [placeAfter, h.pending, hplace, List.length_append, List.length_append, hlost]

/-- What a reader is told that takes all that it gets: it is then behind all. -/
theorem Keeps.exists_read (h : f.Keeps (seen ++ unread)) :
    ∃ skipped got, unread = skipped ++ got ∧ f.read seen.length = ⟨skipped.length, got⟩ ∧
      f.raised = (seen ++ skipped ++ got).length := by
  let lost := unread.length - f.room
  have hlost : (unread.take lost).length = lost :=
    List.length_take_of_le (Nat.sub_le _ _)
  refine ⟨unread.take lost, unread.drop lost, (List.take_append_drop lost unread).symm, ?_, ?_⟩
  · rw [read, h.missed, h.pending, hlost]
  · rw [List.append_assoc, List.take_append_drop, h.raised]

end Feed

/-! ## One delivery after the other -/

/-- These deliveries, in their order, tell of all of this: each of how many were skipped
    behind what was told before, and of those that come next. -/
inductive Tells {α : Type} : List (Delivery α) → List α → Prop
  | nil : Tells [] []
  | append {ds : List (Delivery α)} {seen : List α} (h : Tells ds seen) (skipped got : List α) :
    Tells (ds ++ [⟨skipped.length, got⟩]) (seen ++ skipped ++ got)

namespace Tells

variable {α : Type} {ds : List (Delivery α)} {seen : List α}

/-- What was received is in order, and nothing of it twice. -/
theorem sublist (h : Tells ds seen) : (ds.flatMap Delivery.pending).Sublist seen := by
  induction h with
  | nil => exact .slnil
  | append _ skipped got ih =>
    rw [List.flatMap_append, List.flatMap_singleton]
    exact (ih.trans (List.sublist_append_left _ skipped)).append (.refl got)

/-- What was received and what was missed make up all. -/
theorem length_add_sum (h : Tells ds seen) :
    (ds.flatMap Delivery.pending).length + (ds.map Delivery.missed).sum = seen.length := by
  induction h with
  | nil => rfl
  | append _ skipped got ih =>
    rw [List.flatMap_append, List.flatMap_singleton, List.map_append, List.sum_append,
      List.map_singleton, List.sum_singleton]
    simp only [List.length_append]
    omega

end Tells

end CardToolkit
