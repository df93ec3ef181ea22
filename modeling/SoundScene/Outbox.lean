import SoundScene.Message

/-!
Messages that wait to be sent to the renderer.
-/

namespace SoundScene

structure Outbox where
  waiting : List String
  isOpen : Bool
deriving DecidableEq, Repr

namespace Outbox

def empty : Outbox := ⟨[], true⟩

instance : Inhabited Outbox := ⟨empty⟩

/-- Adds one message with the given commands.  Nothing is kept when nobody takes messages, and the
answer says whether the message was kept. -/
def send (outbox : Outbox) (commands : List Command) : Bool × Outbox :=
  if outbox.isOpen then
    (true, { outbox with waiting := outbox.waiting ++ [Message.encode commands] })
  else (false, outbox)

def take (outbox : Outbox) : Option String × Outbox :=
  match outbox.waiting with
  | [] => (none, outbox)
  | text :: rest => (some text, { outbox with waiting := rest })

/-- Nobody takes messages any more; those that wait are lost. -/
def close (_ : Outbox) : Outbox := ⟨[], false⟩

end Outbox

end SoundScene
