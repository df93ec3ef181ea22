import SoundScene.Event

/-!
Which events a viewer is shown.  A filter follows either all sources but some that are muted, or
only some that are listed.  Events that are about no source are always shown.
-/

namespace SoundScene

def everySource : String := "*"

structure Filter where
  all : Bool
  followed : List String
  muted : List String
deriving DecidableEq, Repr

namespace Filter

def initial : Filter := ⟨true, [], []⟩

instance : Inhabited Filter := ⟨initial⟩

/-- Adds an id to a list that has no id twice. -/
def addId (ids : List String) (id : String) : List String :=
  if ids.contains id then ids else ids ++ [id]

/-- Follows the given ids besides those followed already; `*` follows all again and ends muting.
Without any id nothing changes. -/
def subscribe (filter : Filter) (ids : List String) : Filter :=
  if ids.contains everySource then { filter with all := true, muted := [] }
  else if ids.isEmpty then filter
  else ⟨false, ids.foldl addId filter.followed, []⟩

/-- Stops following one id.  While all are followed it is muted instead; `*` stops following all. -/
def drop (filter : Filter) (id : String) : Filter :=
  if id = everySource then { filter with all := false, muted := [] }
  else if filter.all then { filter with muted := addId filter.muted id }
  else { filter with followed := filter.followed.filter (· ≠ id) }

def unsubscribe (filter : Filter) (ids : List String) : Filter := ids.foldl drop filter

def follows (filter : Filter) (id : String) : Bool :=
  if filter.all then !filter.muted.contains id else filter.followed.contains id

def shows (filter : Filter) (event : Event) : Bool :=
  match event.sourceId? with
  | some id => filter.follows id
  | none => true

end Filter

end SoundScene
