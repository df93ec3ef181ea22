/-!
A feed of items to any number of readers.  Only the latest items are kept; a reader that falls
further behind is told how many it lost and goes on with the oldest one kept.
-/

namespace SoundScene

def powerAbove (n : Nat) : Nat :=
  if n ≤ 1 then 1 else Nat.pow 2 ((n - 1).log2 + 1)

structure Feed (α : Type) where
  capacity : Nat
  published : Nat
  kept : List α
  readers : List (String × Nat)
deriving Repr

namespace Feed

variable {α : Type}

/-- The capacity is rounded up to a power of two. -/
def ofCapacity (capacity : Nat) : Feed α := ⟨powerAbove (max 1 capacity), 0, [], []⟩

/-- Items without any reader are not kept.  Otherwise the answer is the number of readers. -/
def publish (feed : Feed α) (item : α) : Nat × Feed α :=
  if feed.readers.isEmpty then (0, feed)
  else
    let kept := feed.kept ++ [item]
    (feed.readers.length,
      { feed with
        published := feed.published + 1
        kept := kept.drop (kept.length - feed.capacity) })

def publishAll (feed : Feed α) (items : List α) : Feed α :=
  items.foldl (fun feed item => (feed.publish item).2) feed

def unsubscribe (feed : Feed α) (reader : String) : Bool × Feed α :=
  (feed.readers.any (·.1 = reader),
    { feed with readers := feed.readers.filter fun entry => entry.1 ≠ reader })

/-- A new reader starts with the next item that is published. -/
def subscribe (feed : Feed α) (reader : String) : Feed α :=
  let feed := (feed.unsubscribe reader).2
  { feed with readers := feed.readers ++ [(reader, feed.published)] }

inductive Received (α : Type) where
  | nothing
  | lost (count : Nat)
  | item (item : α)
deriving DecidableEq, Repr

def setNext (feed : Feed α) (reader : String) (next : Nat) : Feed α :=
  { feed with
    readers := feed.readers.map fun entry => if entry.1 = reader then (reader, next) else entry }

def oldest (feed : Feed α) : Nat := feed.published - feed.kept.length

/-- Hands a reader the next item, or tells it how many it lost. -/
def receive (feed : Feed α) (reader : String) : Received α × Feed α :=
  match feed.readers.find? (·.1 = reader) with
  | none => (.nothing, feed)
  | some (_, next) =>
    if next < feed.published - feed.capacity then
      let start := feed.published - feed.capacity
      (.lost (start - next), feed.setNext reader start)
    else
      match feed.kept[next - feed.oldest]? with
      | some item => (.item item, feed.setNext reader (next + 1))
      | none => (.nothing, feed)

/-- All that a reader can get now: the number of items that it lost, and then the items. -/
def drain (feed : Feed α) (reader : String) : Nat × List α × Feed α :=
  match feed.readers.find? (·.1 = reader) with
  | none => (0, [], feed)
  | some (_, next) =>
    let start := max next (feed.published - feed.capacity)
    (start - next, feed.kept.drop (start - feed.oldest), feed.setNext reader feed.published)

end Feed

end SoundScene
