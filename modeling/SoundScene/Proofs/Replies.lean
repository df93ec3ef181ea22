import SoundScene.Proofs.FrameText
import SoundScene.Proofs.Unfollowing

/-!
What a viewer is sent.  Each text gets one reply, and only a reply that grants the text changes the
filter (`answerText_answers`).  What is followed and what is muted afterwards are the ids that the
text lists and those from before (`subscribed_subscribe`, `unsubscribed_unsubscribe`).  Each event
is judged by the filter as the last reply left it (`passes_of_frames`).
-/

namespace SoundScene

open Json

namespace Frame

def reply? : Frame → Option ViewerReply
  | .reply answer => some answer
  | .event _ => none

def event? : Frame → Option Event
  | .reply _ => none
  | .event told => some told

end Frame

namespace Incoming

def text? : Incoming → Option String
  | .text content => some content
  | _ => none

def event? : Incoming → Option Event
  | .event told => some told
  | _ => none

def isFed : Incoming → Bool
  | .event _ | .lost _ => true
  | .text _ | .noText | .closed => false

end Incoming

/-- What a text asks for, if it asks for anything. -/
def ViewerRequest.asked? (text : String) : Option ViewerRequest :=
  match Envelope.parse text with
  | .ok received => ofValue received.payload
  | .error _ => none

def ViewerFault.Of (text : String) : ViewerFault → Prop
  | .malformed => ∃ fault, Envelope.parse text = .error fault
  | .unknownCommand => ∃ received, Envelope.parse text = .ok received ∧
      ViewerRequest.ofValue received.payload = none
  | .nothingListed => ViewerRequest.asked? text = some (.subscribe [])

namespace Filter

/-- The ids were asked for.  If `*` is among them everything is followed; else they are, besides the
ids that were listed before. -/
structure Subscribed (ids : List String) (before after : Filter) : Prop where
  all : after.all = true ↔ everySource ∈ ids
  followed : ∀ id, id ∈ after.followed ↔ id ∈ before.followed ∨ everySource ∉ ids ∧ id ∈ ids
  muted : after.muted = []

/-- The ids were dropped one after another.  An id that is dropped while everything is followed is
muted until `*` is dropped, and any other id leaves the list of those that are followed. -/
structure Unsubscribed (ids : List String) (before after : Filter) : Prop where
  all : after.all = true ↔ before.all = true ∧ everySource ∉ ids
  followed : ∀ id, id ∈ after.followed ↔
    id ∈ before.followed ∧ id ∉ if before.all then fromSpecial ids else ids
  muted : ∀ id, id ∈ after.muted ↔ after.all = true ∧ (id ∈ before.muted ∨ id ∈ ids)

theorem subscribed_subscribe (filter : Filter) {ids : List String} (some : ids ≠ []) :
    Subscribed ids filter (filter.subscribe ids) := by
  by_cases special : everySource ∈ ids
  · have after : filter.subscribe ids = { filter with all := true, muted := [] } := by
      simp [subscribe, special]
    rw [after]
    exact ⟨by simp [special], by simp [special], rfl⟩
  · have after : filter.subscribe ids = ⟨false, ids.foldl addId filter.followed, []⟩ := by
      simp [subscribe, special, some]
    rw [after]
    exact ⟨by simp [special], by simp [special, mem_foldl_addId], rfl⟩

theorem unsubscribed_unsubscribe {filter : Filter} (tidy : filter.Tidy) (ids : List String) :
    Unsubscribed ids filter (filter.unsubscribe ids) := by
  cases all : filter.all with
  | false =>
      rw [unsubscribe_of_listed tidy all]
      exact ⟨by simp [all], by simp [all], by simp [all, tidy.unmuted all]⟩
  | true =>
      by_cases special : everySource ∈ ids
      · rw [unsubscribe_of_special tidy all special]
        exact ⟨by simp [special], by simp [all], by simp⟩
      · have before : fromSpecial ids = [] := by
          rw [fromSpecial, List.dropWhile_eq_nil_iff]
          intro id listed
          have other : id ≠ everySource := fun same => special (same ▸ listed)
          simpa using other
        rw [unsubscribe_of_plain all special]
        exact ⟨by simp [all, special], by simp [all, before], by simp [all, mem_foldl_addId]⟩

end Filter

def ViewerRequest.Done (before after : Filter) : ViewerRequest → Prop
  | .subscribe ids => Filter.Subscribed ids before after
  | .unsubscribe ids => Filter.Unsubscribed ids before after

/-- A reply to a text.  If it is an error, the text asks for nothing that could be done and the
filter stays as it was; otherwise the filter is changed as the text asks. -/
structure Answers (text : String) (before : Filter) (reply : ViewerReply) (after : Filter) :
    Prop where
  unnamed : (∃ fault, Envelope.parse text = .error fault) → reply.id = ""
  named : ∀ received, Envelope.parse text = .ok received → reply.id = received.id
  refused : ∀ fault, reply.content = .error fault → after = before ∧ fault.Of text ∧
    ∀ now, (Frame.reply reply).ReadsAs now reply.id "error" fault.toValue
  granted : ∀ payload, reply.content = .ok payload → ∃ request,
    ViewerRequest.asked? text = some request ∧ request ≠ .subscribe [] ∧
      after = before.apply request ∧ request.Done before after ∧
      payload = after.summary request ∧
      -- A count is read as the number that it is as long as it fits 64 bits.
      (after.followed.length < 2 ^ 64 → after.muted.length < 2 ^ 64 →
        ∀ now, (Frame.reply reply).ReadsAs now reply.id "response" payload)

namespace Filter

variable {filter : Filter}

theorem done_apply (tidy : filter.Tidy) {request : ViewerRequest}
    (listed : request ≠ .subscribe []) : request.Done filter (filter.apply request) := by
  cases request with
  | subscribe ids => exact subscribed_subscribe filter fun empty => listed (congrArg _ empty)
  | unsubscribe ids => exact unsubscribed_unsubscribe tidy ids

theorem Tidy.apply (tidy : filter.Tidy) (request : ViewerRequest) : (filter.apply request).Tidy := by
  cases request with
  | subscribe ids => exact tidy.subscribe ids
  | unsubscribe ids => exact tidy.unsubscribe ids

theorem answerText_answers (tidy : filter.Tidy) (text : String) :
    Answers text filter (filter.answerText text).1 (filter.answerText text).2 := by
  rw [answerText]
  cases parsed : Envelope.parse text with
  | error fault =>
      refine ⟨fun _ => rfl, ?_, ?_, nofun⟩
      · rw [parsed]
        nofun
      · rintro _ ⟨⟩
        exact ⟨rfl, ⟨fault, parsed⟩, Frame.readsAs_error rfl⟩
  | ok received =>
      have asked : ViewerRequest.asked? text = ViewerRequest.ofValue received.payload := by
        rw [ViewerRequest.asked?, parsed]
      have named (reply : ViewerReply) (carried : reply.id = received.id) :
          ((∃ fault, Envelope.parse text = .error fault) → reply.id = "") ∧
            ∀ other, Envelope.parse text = .ok other → reply.id = other.id := by
        rw [parsed]
        exact ⟨nofun, fun other same => Except.ok.inj same ▸ carried⟩
      dsimp only
      rw [answerRequest.eq_def]
      split
      · rename_i silent
        refine ⟨(named _ rfl).1, (named _ rfl).2, ?_, nofun⟩
        rintro _ ⟨⟩
        exact ⟨rfl, ⟨received, parsed, silent⟩, Frame.readsAs_error rfl⟩
      · rename_i empty
        refine ⟨(named _ rfl).1, (named _ rfl).2, ?_, nofun⟩
        rintro _ ⟨⟩
        exact ⟨rfl, asked.trans empty, Frame.readsAs_error rfl⟩
      · rename_i request listed given
        refine ⟨(named _ rfl).1, (named _ rfl).2, nofun, ?_⟩
        rintro _ ⟨⟩
        have other : request ≠ .subscribe [] := listed
        exact ⟨request, asked.trans given, other, rfl, done_apply tidy other, rfl,
          Frame.readsAs_response rfl⟩

theorem Tidy.answerText (tidy : filter.Tidy) (text : String) :
    (filter.answerText text).2.Tidy := by
  have answers := answerText_answers tidy text
  cases content : (filter.answerText text).1.content with
  | error fault =>
      rw [(answers.refused fault content).1]
      exact tidy
  | ok payload =>
      obtain ⟨request, _, _, after, _⟩ := answers.granted payload content
      rw [after]
      exact tidy.apply request

def hearAll (filter : Filter) (texts : List String) : Filter :=
  texts.foldl (fun filter text => (filter.answerText text).2) filter

theorem Tidy.hearAll (tidy : filter.Tidy) (texts : List String) : (filter.hearAll texts).Tidy := by
  induction texts generalizing filter with
  | nil => exact tidy
  | cons text rest ih => exact ih (tidy.answerText text)

def replies : Filter → List String → List ViewerReply
  | _, [] => []
  | filter, text :: rest =>
    (filter.answerText text).1 :: (filter.answerText text).2.replies rest

def Passes (filter : Filter) (event : Event) : Prop :=
  ∀ id, event.sourceId? = some id →
    if filter.all then id ∉ filter.muted else id ∈ filter.followed

theorem shows_iff_passes {filter : Filter} {event : Event} :
    filter.shows event = true ↔ filter.Passes event := by
  rw [shows, Passes]
  cases event.sourceId? with
  | none => simp
  | some id => cases all : filter.all <;> simp [follows, all]

instance (filter : Filter) (event : Event) : Decidable (filter.Passes event) :=
  decidable_of_iff _ shows_iff_passes

def passing : Filter → List Incoming → List Event
  | _, [] => []
  | filter, .text text :: rest => (filter.answerText text).2.passing rest
  | filter, .event event :: rest =>
    if filter.Passes event then event :: filter.passing rest else filter.passing rest
  | filter, .noText :: rest | filter, .lost _ :: rest | filter, .closed :: rest =>
    filter.passing rest

def frames : Filter → List Incoming → List Frame
  | _, [] => []
  | filter, incoming :: rest =>
    (filter.respond incoming).1.toList ++ (filter.respond incoming).2.frames rest

theorem length_replies (filter : Filter) (texts : List String) :
    (filter.replies texts).length = texts.length := by
  induction texts generalizing filter with
  | nil => rfl
  | cons text rest ih => exact congrArg (· + 1) (ih _)

theorem getElem?_replies (filter : Filter) {texts : List String} {text : String} {place : Nat}
    (there : texts[place]? = some text) :
    (filter.replies texts)[place]? =
      some ((filter.hearAll (texts.take place)).answerText text).1 := by
  induction texts generalizing filter place with
  | nil => cases there
  | cons first rest ih =>
      cases place with
      | zero =>
          cases there
          rfl
      | succ place => exact ih _ there

theorem hearAll_take_succ (filter : Filter) {texts : List String} {text : String} {place : Nat}
    (there : texts[place]? = some text) :
    filter.hearAll (texts.take (place + 1)) =
      ((filter.hearAll (texts.take place)).answerText text).2 := by
  rw [hearAll, List.take_add_one, there, List.foldl_append]
  rfl

theorem replies_frames (filter : Filter) (taken : List Incoming) :
    (filter.frames taken).filterMap Frame.reply? = filter.replies (taken.filterMap (·.text?)) := by
  induction taken generalizing filter with
  | nil => rfl
  | cons incoming rest ih =>
      rw [frames, List.filterMap_append, ih]
      cases incoming with
      | event event =>
          rw [respond]
          split <;> rfl
      | _ => rfl

theorem events_frames (filter : Filter) (taken : List Incoming) :
    (filter.frames taken).filterMap Frame.event? = filter.passing taken := by
  induction taken generalizing filter with
  | nil => rfl
  | cons incoming rest ih =>
      rw [frames, List.filterMap_append, ih]
      cases incoming with
      | event event =>
          rw [respond, passing]
          simp only [shows_iff_passes]
          split <;> rfl
      | _ => rfl

theorem passing_sublist (filter : Filter) (taken : List Incoming) :
    (filter.passing taken).Sublist (taken.filterMap Incoming.event?) := by
  induction taken generalizing filter with
  | nil => exact .slnil
  | cons incoming rest ih =>
      cases incoming with
      | event event =>
          rw [passing]
          split
          · exact (ih _).cons_cons event
          · exact (ih _).cons event
      | _ => exact ih _

theorem passes_of_frames {filter : Filter} {taken : List Incoming} {before after : List Frame}
    {event : Event} (split : filter.frames taken = before ++ .event event :: after) :
    (filter.hearAll ((taken.filterMap (·.text?)).take
      (before.filterMap Frame.reply?).length)).Passes event := by
  induction taken generalizing filter before with
  | nil => cases before <;> cases split
  | cons incoming rest ih =>
      cases incoming with
      | text text =>
          cases before with
          | nil => cases split
          | cons first before =>
              obtain ⟨rfl, later⟩ := List.cons.inj split
              exact ih later
      | event other =>
          rw [frames, respond] at split
          by_cases shown : filter.shows other = true
          · rw [if_pos shown] at split
            cases before with
            | nil =>
                cases split
                exact shows_iff_passes.1 shown
            | cons first before =>
                obtain ⟨same, later⟩ := List.cons.inj split
                rw [← same]
                have passes := ih later
                exact passes
          · rw [if_neg shown] at split
            exact ih split
      | _ => exact ih split

end Filter

namespace Connection

variable {connection : Connection}

theorem takeAll_of_open (opened : connection.isOpen = true) {taken : List Incoming}
    (lasting : .closed ∉ taken) :
    connection.takeAll taken = ⟨connection.filter.hearAll (taken.filterMap (·.text?)),
      connection.sent ++ connection.filter.frames taken, true⟩ := by
  induction taken generalizing connection with
  | nil =>
      obtain ⟨filter, sent, _⟩ := connection
      cases opened
      simp [takeAll, Filter.hearAll, Filter.frames]
  | cons incoming rest ih =>
      have other : incoming ≠ .closed := fun same => lasting (same ▸ List.mem_cons_self)
      have later : .closed ∉ rest := fun member => lasting (List.mem_cons_of_mem _ member)
      have taken : connection.take incoming true = ⟨(connection.filter.respond incoming).2,
          connection.sent ++ (connection.filter.respond incoming).1.toList, true⟩ := by
        rw [take, opened]
        simp only [Bool.not_true, Bool.false_eq_true, ↓reduceIte, other]
        rw [send.eq_def]
        cases (connection.filter.respond incoming).1 with
        | none => simp
        | some frame => simp
      rw [takeAll, List.foldl_cons, taken]
      refine (ih rfl later).trans ?_
      rw [Filter.frames, List.append_assoc]
      cases incoming <;> rfl

theorem take_of_open {incoming : Incoming} {arrives : Bool}
    (opened : (connection.take incoming arrives).isOpen = true) :
    connection.isOpen = true ∧ incoming ≠ .closed ∧
      connection.take incoming arrives = connection.take incoming true := by
  rw [take] at opened ⊢
  cases was : connection.isOpen with
  | false => simp [was] at opened
  | true =>
      by_cases closed : incoming = .closed
      · simp [was, closed] at opened
      · refine ⟨rfl, closed, ?_⟩
        simp only [was, closed, Bool.not_true, Bool.false_eq_true, ↓reduceIte, take] at opened ⊢
        revert opened
        rw [send.eq_def, send.eq_def]
        cases (connection.filter.respond incoming).1 <;> cases arrives <;> simp

theorem take_of_closed (closed : connection.isOpen = false) (incoming : Incoming) (arrives : Bool) :
    connection.take incoming arrives = connection := by
  rw [take, closed]
  rfl

theorem take_ends (opened : connection.isOpen = true) {incoming : Incoming} {arrives : Bool}
    (ended : (connection.take incoming arrives).isOpen = false) :
    (connection.take incoming arrives).sent = connection.sent ∧
      (incoming = .closed ∨ arrives = false ∧ (connection.filter.respond incoming).1 ≠ none) := by
  rw [take, opened] at ended ⊢
  by_cases closed : incoming = .closed
  · simp [closed]
  · simp only [closed, Bool.not_true, Bool.false_eq_true, ↓reduceIte] at ended ⊢
    revert ended
    rw [send.eq_def]
    cases (connection.filter.respond incoming).1 <;> cases arrives <;> simp

end Connection

end SoundScene
