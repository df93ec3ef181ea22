import SoundScene.Proofs.CommandText
import SoundScene.Viewer.Connection

/-!
The texts that a viewer is sent.  The text of a frame is read back as an envelope: that of a reply
as a response or an error with the id of the request, and that of an event as an event without an
id (`readsAs_response`, `readsAs_error`, `readsAs_event`).
-/

namespace SoundScene

namespace Json

variable {depth : Nat}

theorem Fits.sorted_list {items : List Value} (fits : ∀ item ∈ items, Fits depth item.sorted) :
    Fits (depth + 1) (Value.list items).sorted := by
  rw [Value.sorted_list]
  apply Fits.list
  intro item member
  obtain ⟨held, present, rfl⟩ := List.mem_map.1 member
  exact fits held present

theorem Fits.sorted_object {members : List (String × Value)}
    (fits : ∀ member ∈ members, Fits depth member.2.sorted) :
    Fits (depth + 1) (Value.object members).sorted := by
  rw [Value.sorted_object]
  apply Fits.ofMembers
  intro member present
  obtain ⟨held, listed, rfl⟩ := List.mem_map.1 present
  exact fits held listed

theorem Fits.sorted_ofFloats (xs : List Float) : Fits (depth + 1) (Value.ofFloats xs).sorted := by
  rw [Json.sorted_ofFloats]
  exact .ofFloats xs

theorem Fits.sorted_ofFloat (x : Float) : Fits depth (Value.ofFloat x).sorted := by
  rw [Json.sorted_ofFloat]
  exact .ofFloat x

theorem Fits.sorted_ofOption (text : Option String) : Fits depth (Value.ofOption text).sorted := by
  cases text with
  | none => exact .null
  | some text => exact .string text

theorem Fits.ofNat {n : Nat} (small : n < 2 ^ 64) : Fits depth (Value.ofNat n) := by
  refine .number ⟨?_, ?_⟩ <;> omega

end Json

open Json

variable {depth : Nat}

theorem Source.fits_sorted (source : Source) : Fits (depth + 2) source.toValue.sorted := by
  apply Fits.sorted_object
  simp only [List.forall_mem_cons]
  exact ⟨.string _, .sorted_ofFloats _, .sorted_ofFloats _, .bool _, .sorted_ofOption _,
    .sorted_ofOption _, .sorted_ofFloat _, .bool _, .bool _, List.forall_mem_nil _⟩

theorem Pose.fits_sorted (pose : Pose Float) : Fits (depth + 2) pose.toValue.sorted := by
  apply Fits.sorted_object
  simp only [List.forall_mem_cons]
  exact ⟨.sorted_ofFloats _, .sorted_ofFloats _, List.forall_mem_nil _⟩

theorem Reference.fits_sorted (reference : Reference) :
    Fits (depth + 3) reference.toValue.sorted := by
  apply Fits.sorted_object
  simp only [List.forall_mem_cons]
  exact ⟨reference.pose.fits_sorted, reference.offset.fits_sorted, List.forall_mem_nil _⟩

theorem Event.fits_sorted (event : Event) (stamp : String) :
    Fits (depth + 4) (event.toValue stamp).sorted := by
  apply Fits.sorted_object
  cases event with
  | created source origin | modified source origin =>
      simp only [members, List.cons_append, List.nil_append, List.forall_mem_cons]
      exact ⟨.string _, source.fits_sorted, .string _, .string _, List.forall_mem_nil _⟩
  | deleted id origin =>
      simp only [members, List.cons_append, List.nil_append, List.forall_mem_cons]
      exact ⟨.string _, .string _, .string _, .string _, List.forall_mem_nil _⟩
  | referenceChanged reference origin =>
      simp only [members, List.cons_append, List.nil_append, List.forall_mem_cons]
      exact ⟨.string _, reference.fits_sorted, .string _, .string _, List.forall_mem_nil _⟩
  | loudspeakersCreated set =>
      have listed : Fits (depth + 3) (Value.list (set.map Loudspeaker.toValue)).sorted := by
        apply Fits.sorted_list
        intro item member
        obtain ⟨loudspeaker, _, rfl⟩ := List.mem_map.1 member
        exact loudspeaker.fits_sorted
      simp only [members, List.cons_append, List.nil_append, List.forall_mem_cons]
      exact ⟨.string _, listed, .string _, List.forall_mem_nil _⟩

theorem ViewerFault.fits_toValue (fault : ViewerFault) : Fits (depth + 1) fault.toValue := by
  apply Fits.ofMembers
  simp only [List.forall_mem_cons]
  refine ⟨.ofNat ?_, .string _, List.forall_mem_nil _⟩
  cases fault <;> decide

theorem Filter.fits_summary {filter : Filter} (followed : filter.followed.length < 2 ^ 64)
    (muted : filter.muted.length < 2 ^ 64) (request : ViewerRequest) :
    Fits (depth + 2) (filter.summary request) := by
  cases request with
  | subscribe ids | unsubscribe ids =>
      apply Fits.ofMembers
      simp only [counts, List.forall_mem_cons]
      exact ⟨.ofStrings ids, .ofNat followed, .ofNat muted, .bool _, List.forall_mem_nil _⟩

theorem parse_envelope {id stamp : String} (kind : EnvelopeKind) {payload : Value}
    (fits : Fits (depthLimit - 1) payload) : Value.parse (envelope id kind stamp payload).text =
      .ok (.object [("id", .string id), ("payload", payload), ("timestamp", .string stamp),
        ("type", .string kind.name)]) := by
  have names : ["id", "payload", "timestamp", "type"].Pairwise (· < ·) := by decide
  have ascending : Keyed.Ascending [("id", Value.string id), ("payload", payload),
      ("timestamp", .string stamp), ("type", .string kind.name)] :=
    ascending_of_names names (List.Sublist.refl _)
  rw [envelope, parse_object, Value.ofMembers, Keyed.ofList_eq_of_mem_iff ascending]
  · intro member
    simp only [List.mem_cons, List.not_mem_nil, or_false]
    grind
  · simp only [List.forall_mem_cons]
    exact ⟨.string _, .string _, .string _, fits, List.forall_mem_nil _⟩

namespace Frame

/-- The text of the frame, when it is sent at some time, is read as an envelope with these parts. -/
def ReadsAs (frame : Frame) (now id kind : String) (payload : Value) : Prop :=
  Value.parse (frame.toValue now).text = .ok (.object [("id", .string id), ("payload", payload),
    ("timestamp", .string now), ("type", .string kind)])

theorem readsAs_error {reply : ViewerReply} {fault : ViewerFault}
    (refused : reply.content = .error fault) (now : String) :
    (Frame.reply reply).ReadsAs now reply.id "error" fault.toValue := by
  rw [ReadsAs, toValue, ViewerReply.toValue, refused]
  exact parse_envelope .error fault.fits_toValue

theorem readsAs_response {reply : ViewerReply} {filter : Filter} {request : ViewerRequest}
    (granted : reply.content = .ok (filter.summary request))
    (followed : filter.followed.length < 2 ^ 64) (muted : filter.muted.length < 2 ^ 64)
    (now : String) :
    (Frame.reply reply).ReadsAs now reply.id "response" (filter.summary request) := by
  rw [ReadsAs, toValue, ViewerReply.toValue, granted]
  exact parse_envelope .response (Filter.fits_summary followed muted request)

theorem readsAs_event (event : Event) (now : String) :
    (Frame.event event).ReadsAs now "" "event" (event.toValue now).sorted :=
  parse_envelope .event (event.fits_sorted now)

end Frame

end SoundScene
