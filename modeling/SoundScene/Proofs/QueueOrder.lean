import SoundScene.Proofs.GestureText
import SoundScene.Proofs.Traffic

/-!
What the renderer makes of the messages that tell of gestures.  A gesture is made under the lock of
the scene and told of after it, so the messages may stand in the queue in another order than that of
the gestures.  Each of them is accepted, and the renderer ends with the scene of this side exactly if
the two orders say the same last of each thing (`relay_waiting_iff`).
-/

namespace SoundScene

def Hub.relay (hub : Hub) : List String → Except Failure Hub
  | [] => .ok hub
  | text :: rest =>
    match (hub.handle text).answer with
    | .error failure => .error failure
    | .ok _ => (hub.handle text).hub.relay rest

namespace Gesture

def text (gesture : Gesture) : String :=
  Message.encode (gesture.toCommand.toOption.toList)

/-- A gesture that this side makes: it says something, and its target is there. -/
structure Accepted (scene : Scene) (gesture : Gesture) : Prop where
  finite : gesture.Finite
  meant : ∃ command, gesture.toCommand = .ok command
  reaches : gesture.Reaches scene

theorem Accepted.move {scene : Scene} {gesture : Gesture} (accepted : gesture.Accepted scene)
    (first : Gesture) : gesture.Accepted (scene.move first) where
  finite := accepted.finite
  meant := accepted.meant
  reaches := (Scene.reaches_move first).2 accepted.reaches

theorem Accepted.handle {hub : Hub} {gesture : Gesture} (accepted : gesture.Accepted hub.scene) :
    (hub.handle gesture.text).answer = .ok 1 ∧
      (hub.handle gesture.text).hub = { hub with scene := hub.scene.move gesture } := by
  obtain ⟨command, meant⟩ := accepted.meant
  have text : gesture.text = Message.encode [command] := by
    rw [Gesture.text, meant]
    rfl
  rw [text, handle_encode accepted.finite meant accepted.reaches]
  exact ⟨rfl, rfl⟩

end Gesture

theorem Hub.relay_texts (hub : Hub) {gestures : List Gesture}
    (accepted : ∀ gesture ∈ gestures, gesture.Accepted hub.scene) :
    hub.relay (gestures.map Gesture.text) =
      .ok { hub with scene := hub.scene.moveAll gestures } := by
  induction gestures generalizing hub with
  | nil => rfl
  | cons gesture rest ih =>
      obtain ⟨answer, next⟩ := (accepted gesture (by simp)).handle
      simp only [List.map_cons, relay, answer, next]
      exact ih { hub with scene := hub.scene.move gesture } fun other member =>
        (accepted other (by simp [member])).move gesture

namespace Stage

def OfGesture : Stage → Prop
  | .arrived (.gesture gesture) => gesture.Finite
  | .notifying gesture command _ => gesture.toCommand = .ok command
  | .publishing _ | .returned _ => True
  | .arrived (.message _) | .decoded _ | .holding .. => False

def untold : Stage → List Gesture
  | .notifying gesture _ _ => [gesture]
  | _ => []

end Stage

namespace Traffic

/-- What holds while there are only gestures: the scene is moved by them in the order in which they
are made, and the messages that wait tell of them in the order in which they are announced. -/
structure Telling (origin : Hub) (traffic : Traffic) : Prop where
  stages : ∀ stage ∈ traffic.stages, stage.OfGesture
  scene : traffic.hub.scene = origin.scene.moveAll traffic.moved
  accepted : ∀ gesture ∈ traffic.moved, gesture.Accepted origin.scene
  isOpen : traffic.hub.outbox.isOpen = true
  waiting : traffic.hub.outbox.waiting =
    origin.outbox.waiting ++ traffic.announced.map Gesture.text
  split : traffic.moved.Perm (traffic.announced ++ traffic.stages.flatMap Stage.untold)

theorem start_telling {hub : Hub} (opened : hub.outbox.isOpen = true) {gestures : List Gesture}
    (finite : ∀ gesture ∈ gestures, gesture.Finite) :
    Telling hub (start hub (gestures.map .gesture)) where
  stages := by
    intro stage member
    obtain ⟨call, present, rfl⟩ := List.mem_map.1 member
    obtain ⟨gesture, listed, rfl⟩ := List.mem_map.1 present
    exact finite gesture listed
  scene := rfl
  accepted := nofun
  isOpen := opened
  waiting := (List.append_nil _).symm
  split := by
    have none : (gestures.map (Stage.arrived ∘ Call.gesture)).flatMap Stage.untold = [] := by
      simp [List.flatMap_eq_nil_iff, Stage.untold]
    simp [start, none]

variable {origin : Hub} {traffic next : Traffic} {mover : Nat}

theorem Telling.step (telling : Telling origin traffic) (stepped : traffic.step mover = some next) :
    Telling origin next := by
  obtain ⟨stage, after, others, _, old, new, middle, advanced, rfl⟩ := step_cases stepped
  have own := telling.stages stage (old.symm.subset List.mem_cons_self)
  have stay (kept : after.OfGesture) : ∀ other ∈ traffic.stages.set mover after, other.OfGesture := by
    intro other member
    rcases List.mem_cons.1 (new.subset member) with rfl | member
    · exact kept
    · exact telling.stages other (old.symm.subset (List.mem_cons_of_mem _ member))
  have before : traffic.moved.Perm
      (traffic.announced ++ (stage.untold ++ others.flatMap Stage.untold)) :=
    telling.split.trans ((old.flatMap_right _).append_left _)
  have behind : ((traffic.stages.set mover after).flatMap Stage.untold).Perm
      (after.untold ++ others.flatMap Stage.untold) := new.flatMap_right _
  have quiet (kept : after.OfGesture) (same : after.untold = stage.untold) (bus : List Numbered) :
      Telling origin { traffic with bus, stages := traffic.stages.set mover after } :=
    ⟨stay kept, telling.scene, telling.accepted, telling.isOpen, telling.waiting,
      before.trans ((same ▸ behind).symm.append_left _)⟩
  cases stage with
  | arrived call =>
      cases call with
      | message text => exact own.elim
      | gesture gesture =>
          cases meant : gesture.toCommand with
          | error failure =>
              simp only [advance, meant] at advanced
              cases advanced
              exact quiet trivial rfl _
          | ok command =>
              simp only [advance, meant] at advanced
              split at advanced
              · cases advanced
              · rcases Scene.run_gesture traffic.hub.scene meant .operator with
                  ⟨reaches, ran⟩ | ⟨_, failure, ran⟩
                · simp only [ran] at advanced
                  cases advanced
                  refine ⟨stay meant, ?_, ?_, telling.isOpen, telling.waiting, ?_⟩
                  · simp only [change, telling.scene, Scene.moveAll, List.foldl_append,
                      List.foldl_cons, List.foldl_nil]
                  · intro other member
                    rcases List.mem_append.1 member with member | member
                    · exact telling.accepted other member
                    · rw [List.mem_singleton.1 member]
                      rw [telling.scene] at reaches
                      exact ⟨own, ⟨command, meant⟩, (Scene.reaches_moveAll _).1 reaches⟩
                  · refine (before.append_right [gesture]).trans ?_
                    rw [List.append_assoc]
                    exact (List.perm_append_comm.trans behind.symm).append_left _
                · simp only [ran] at advanced
                  cases advanced
                  exact quiet trivial rfl _
  | decoded commands => exact own.elim
  | holding unpublished commands => exact own.elim
  | notifying gesture command unpublished =>
      have meant : gesture.toCommand = .ok command := own
      have text : gesture.text = Message.encode [command] := by
        rw [Gesture.text, meant]
        rfl
      have sent : traffic.hub.outbox.send [command] =
          (true, { traffic.hub.outbox with waiting := traffic.hub.outbox.waiting ++ [gesture.text] }) := by
        rw [Outbox.send, if_pos telling.isOpen, text]
      simp only [advance, sent] at advanced
      cases advanced
      refine ⟨stay trivial, telling.scene, telling.accepted, telling.isOpen, ?_, ?_⟩
      · simp only [telling.waiting, List.map_append, List.append_assoc, List.map_cons, List.map_nil]
      · refine before.trans ?_
        rw [List.append_assoc]
        exact (behind.symm.append_left [gesture]).append_left _
  | publishing unpublished =>
      cases unpublished with
      | nil =>
          cases advanced
          exact quiet trivial rfl _
      | cons event rest =>
          cases advanced
          exact quiet trivial rfl _
  | returned failure => cases advanced

theorem Telling.run {schedule : List Nat} {final : Traffic} (telling : Telling origin traffic)
    (ran : traffic.run schedule = some final) : Telling origin final :=
  run_preserves (fun telling stepped => telling.step stepped) telling ran

/-- Once all gestures have returned, the messages that were added to the queue tell of each gesture
that was made, and whoever has the scene of the start accepts all of them.  The scene they lead to is
the scene of this side exactly if their order says the same last of each thing as the order in which
the gestures were made; in particular if the two orders are one. -/
theorem relay_waiting_iff {hub peer : Hub} (copied : peer.scene = hub.scene)
    (opened : hub.outbox.isOpen = true) {gestures : List Gesture}
    (finite : ∀ gesture ∈ gestures, gesture.Finite) {schedule : List Nat} {final : Traffic}
    (ran : (start hub (gestures.map .gesture)).run schedule = some final) (done : final.Done) :
    final.hub.scene = hub.scene.moveAll final.moved ∧ final.announced.Perm final.moved ∧
      final.hub.outbox.waiting = hub.outbox.waiting ++ final.announced.map Gesture.text ∧
      ∃ mirror, peer.relay (final.announced.map Gesture.text) = .ok mirror ∧
        (mirror.scene = final.hub.scene ↔ Target.Agree final.announced final.moved) := by
  have telling := (start_telling opened finite).run ran
  have perm : final.announced.Perm final.moved := by
    have split := telling.split
    rw [done.flatMap_eq_nil fun _ => rfl, List.append_nil] at split
    exact split.symm
  have accepted : ∀ gesture ∈ final.announced, gesture.Accepted peer.scene := by
    intro gesture member
    rw [copied]
    exact telling.accepted gesture (perm.subset member)
  refine ⟨telling.scene, perm, telling.waiting, _, peer.relay_texts accepted, ?_⟩
  rw [telling.scene, ← copied]
  exact Scene.moveAll_eq_iff perm fun gesture member => (accepted gesture member).reaches

/-! The reference is moved here by two operators at the same time. -/

def firstMove : Gesture := ⟨.reference, some ⟨1.0, 0.0, 0.0⟩, none⟩

def secondMove : Gesture := ⟨.reference, some ⟨2.0, 0.0, 0.0⟩, none⟩

theorem moves_finite : ∀ gesture ∈ [firstMove, secondMove], gesture.Finite := by
  have whole {x : Float} (finite : x.isFinite = true) :
      Gesture.Finite ⟨.reference, some ⟨x, 0.0, 0.0⟩, none⟩ := by
    refine ⟨?_, nofun⟩
    rintro position ⟨⟩ y present
    simp only [Point.toList, List.mem_cons, List.not_mem_nil, or_false] at present
    rcases present with rfl | rfl | rfl
    · exact finite
    · rfl
    · rfl
  intro gesture member
  simp only [List.mem_cons, List.not_mem_nil, or_false] at member
  rcases member with rfl | rfl
  · exact whole rfl
  · exact whole rfl

def raced (announced : List Gesture) : Traffic where
  hub := { Hub.initial with
    scene := Scene.initial.moveAll [firstMove, secondMove]
    outbox := ⟨announced.map Gesture.text, true⟩ }
  held := false
  made := [(.referenceChanged (Scene.initial.move firstMove).reference .operator, 0),
    (.referenceChanged (Scene.initial.moveAll [firstMove, secondMove]).reference .operator, 1)]
  bus := [(.referenceChanged (Scene.initial.move firstMove).reference .operator, 0),
    (.referenceChanged (Scene.initial.moveAll [firstMove, secondMove]).reference .operator, 1)]
  moved := [firstMove, secondMove]
  announced := announced
  stages := [.returned none, .returned none]

theorem raced_done (announced : List Gesture) : (raced announced).Done := by
  simp [Done, raced, Stage.isReturned]

theorem relay_waiting_iff_in_turn :
    let gestures := [firstMove, secondMove]
    let final := raced [firstMove, secondMove]
    Hub.initial.outbox.isOpen = true ∧ (∀ gesture ∈ gestures, gesture.Finite) ∧
      (start Hub.initial (gestures.map .gesture)).run [0, 0, 1, 1, 0, 0, 1, 1] = some final ∧
      final.Done ∧
      final.hub.outbox.waiting = Hub.initial.outbox.waiting ++ gestures.map Gesture.text ∧
      ∃ mirror, Hub.initial.relay (gestures.map Gesture.text) = .ok mirror ∧
        mirror.scene = final.hub.scene := by
  intro gestures final
  have ran : (start Hub.initial (gestures.map .gesture)).run [0, 0, 1, 1, 0, 0, 1, 1] =
      some final := rfl
  have done : final.Done := raced_done _
  obtain ⟨_, _, waiting, mirror, relayed, order⟩ :=
    @relay_waiting_iff Hub.initial Hub.initial rfl rfl gestures moves_finite _ _ ran done
  exact ⟨rfl, moves_finite, ran, done, waiting, mirror, relayed, order.2 fun _ => ⟨rfl, rfl⟩⟩

/-- The renderer is told of the second gesture first, and then moves the reference back. -/
theorem relay_waiting_out_of_turn :
    let gestures := [firstMove, secondMove]
    let final := raced [secondMove, firstMove]
    Hub.initial.scene.Reachable ∧ Hub.initial.outbox.isOpen = true ∧
      (∀ gesture ∈ gestures, gesture.Finite) ∧
      (start Hub.initial (gestures.map .gesture)).run [0, 1, 1, 0, 0, 0, 1, 1] = some final ∧
      final.Done ∧
      ∃ mirror, Hub.initial.relay final.hub.outbox.waiting = .ok mirror ∧
        mirror.scene ≠ final.hub.scene := by
  intro gestures final
  refine ⟨.initial, rfl, moves_finite, rfl, raced_done _,
    { Hub.initial with scene := Scene.initial.moveAll [secondMove, firstMove] }, ?_, ?_⟩
  · apply Hub.relay_texts Hub.initial
    intro gesture member
    have listed : gesture ∈ [firstMove, secondMove] := (List.Perm.swap ..).subset member
    refine ⟨moves_finite gesture listed, ?_, ?_⟩
    · simp only [List.mem_cons, List.not_mem_nil, or_false] at listed
      rcases listed with rfl | rfl <;> exact ⟨_, rfl⟩
    · simp only [List.mem_cons, List.not_mem_nil, or_false] at listed
      rcases listed with rfl | rfl <;> nofun
  · intro same
    have places := congrArg (·.reference.pose.pos.x) same
    exact absurd places (by decide +kernel)

end Traffic

end SoundScene
