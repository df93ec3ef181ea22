import SoundScene.Proofs.Told

/-!
Calls of the hub, one after another.  Whether a call succeeds, is refused or stops half way, the
events that it publishes tell exactly of the changes that it made (`serve_told`), so a reader of all
events can keep a copy of the scene that is right after every call (`replayAll_serveAll`).
-/

namespace SoundScene

inductive Call where
  | message (text : String)
  | gesture (gesture : Gesture)
deriving DecidableEq, Repr

namespace Hub

open Scene

def serve (hub : Hub) : Call → List Event × Hub
  | .message text => ((hub.handle text).events, (hub.handle text).hub)
  | .gesture gesture => ((hub.perform gesture).events, (hub.perform gesture).hub)

def serveAll (hub : Hub) : List Call → List Event × Hub
  | [] => ([], hub)
  | call :: rest =>
    let (events, next) := hub.serve call
    let (later, final) := next.serveAll rest
    (events ++ later, final)

theorem handle_told (hub : Hub) (text : String) :
    ToldAll hub.scene (hub.handle text).events (hub.handle text).hub.scene := by
  unfold handle
  split
  · exact .done
  · exact runAll_told ..

theorem perform_told (hub : Hub) (gesture : Gesture) :
    ToldAll hub.scene (hub.perform gesture).events (hub.perform gesture).hub.scene := by
  unfold perform
  split
  · exact .done
  · rename_i command events scene performed
    obtain ⟨made, _, performed⟩ := ok_of_bind performed
    obtain ⟨⟨told, next⟩, ran, performed⟩ := ok_of_bind performed
    cases performed
    exact run_told ran

theorem serve_told (hub : Hub) (call : Call) :
    ToldAll hub.scene (hub.serve call).1 (hub.serve call).2.scene := by
  cases call with
  | message text => exact hub.handle_told text
  | gesture gesture => exact hub.perform_told gesture

theorem serveAll_told (hub : Hub) (calls : List Call) :
    ToldAll hub.scene (hub.serveAll calls).1 (hub.serveAll calls).2.scene := by
  induction calls generalizing hub with
  | nil => exact .done
  | cons call rest ih => exact (hub.serve_told call).append (ih _)

/-- After every call a copy of the scene that is kept by the published events alone is the scene
itself, and each event tells of one change, right after which the scene is as the event says. -/
theorem replayAll_serveAll {hub : Hub} (reachable : hub.scene.Reachable) (calls : List Call)
    (count : Nat) :
    hub.scene.replayAll (hub.serveAll (calls.take count)).1 =
        (hub.serveAll (calls.take count)).2.scene ∧
      ToldAll hub.scene (hub.serveAll (calls.take count)).1
        (hub.serveAll (calls.take count)).2.scene := by
  have told := hub.serveAll_told (calls.take count)
  exact ⟨told.replayAll_eq reachable.wellKeyed, told⟩

theorem replayAll_serveAll_halfway :
    let calls : List Call := [.gesture ⟨.source "a", some ⟨1.0, 2.0, 0.0⟩, none⟩,
      .message (Message.encode
        [.create [("a", { mute := some true })], .delete ["b"], .delete ["a"]]),
      .gesture ⟨.source "a", some ⟨1.0, 2.0, 0.0⟩, none⟩]
    initial.scene.Reachable ∧
      initial.scene.replayAll (initial.serveAll (calls.take 3)).1 =
        (initial.serveAll (calls.take 3)).2.scene ∧
      ToldAll initial.scene (initial.serveAll (calls.take 3)).1
        (initial.serveAll (calls.take 3)).2.scene :=
  ⟨.initial, replayAll_serveAll .initial _ 3⟩

end Hub

end SoundScene
