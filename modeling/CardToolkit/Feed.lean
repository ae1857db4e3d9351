/-!
# Feeds

A *feed* tells any number of readers what is raised on it, and keeps no more
than the newest of it. A reader is a place in what was ever raised: it starts
behind everything raised before, and reading moves it behind everything raised
so far. A reader that was away too long is told how many it has missed.

* `Feed.push`: something is raised;
* `Feed.missed`, `Feed.pending`: what a reader has missed, and what it gets.

The room of a feed is a power of two (`roomFor`), the smallest that is not below
the room asked for.
-/

namespace CardToolkit

/-- The smallest power of two that is not below `n`. -/
def roomFor (n : Nat) : Nat := if n ≤ 1 then 1 else Nat.pow 2 ((n - 1).log2 + 1)

/-- What was raised, as far as it is kept. -/
structure Feed (α : Type) where
  /-- How much is kept. -/
  room : Nat
  /-- How much was ever raised. -/
  raised : Nat := 0
  /-- The newest of what was raised, in order. -/
  kept : List α := []
  deriving DecidableEq

/-- What a reader gets: how many it has missed, and those that it has not. -/
structure Delivery (α : Type) where
  missed : Nat
  pending : List α
  deriving DecidableEq

namespace Feed

variable {α : Type}

/-- A feed with room for `n` at least. -/
def withRoom (n : Nat) : Feed α := { room := roomFor n }

/-- Something is raised: the oldest that has no room is dropped. -/
def push (f : Feed α) (a : α) : Feed α :=
  { f with raised := f.raised + 1, kept := (f.kept ++ [a]).drop (f.kept.length + 1 - f.room) }

/-- Several are raised, in order. -/
def pushAll (f : Feed α) (as : List α) : Feed α := as.foldl push f

/-- How much was raised before what is kept. -/
def dropped (f : Feed α) : Nat := f.raised - f.kept.length

/-- How much a reader behind the first `place` has missed. -/
def missed (f : Feed α) (place : Nat) : Nat := f.dropped - place

/-- What a reader behind the first `place` still gets. -/
def pending (f : Feed α) (place : Nat) : List α := f.kept.drop (place - f.dropped)

/-- What a reader behind the first `place` is told; it is then behind all. -/
def read (f : Feed α) (place : Nat) : Delivery α := ⟨f.missed place, f.pending place⟩

@[simp] theorem raised_push (f : Feed α) (a : α) : (f.push a).raised = f.raised + 1 := rfl

@[simp] theorem room_push (f : Feed α) (a : α) : (f.push a).room = f.room := rfl

/-- Several are raised, and then some more. -/
theorem pushAll_append (f : Feed α) (as as' : List α) :
    f.pushAll (as ++ as') = (f.pushAll as).pushAll as' := List.foldl_append

/-- What a power of two has room for. -/
theorem le_roomFor (n : Nat) : n ≤ roomFor n := by
  unfold roomFor
  split
  · assumption
  · have hlog : n - 1 < Nat.pow 2 ((n - 1).log2 + 1) := Nat.lt_log2_self
    omega

end Feed

end CardToolkit
