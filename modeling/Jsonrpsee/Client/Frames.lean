import Jsonrpsee.Client.Uniqueness

/-! # The frames of a client

Whatever a client puts on the wire is a request object, an array of request
objects that is not empty, or a notification. What it waits for is what its
frames have asked for.
-/

namespace Jsonrpsee

/-- A text of the client is written by one of three serializers. -/
inductive Frame : Json → Prop where
  | request (req : Request) : Frame req.toJson
  | batch {reqs : List Request} (nonempty : reqs ≠ []) : Frame (.arr (reqs.map Request.toJson))
  | notification (notif : PlainNotification) : Frame notif.toJson

/-- The text that a message brings. -/
def FrontToBack.text : FrontToBack → Option Json
  | .batch msg => some msg.raw
  | .notification raw => some raw
  | .request msg => some msg.raw
  | .subscribe msg => some msg.raw
  | .registerNotification _ | .unregisterNotification _ | .subscriptionClosed _ => none

def FrontToBack.Framed (msg : FrontToBack) : Prop := ∀ raw ∈ msg.text, Frame raw

namespace Backend

variable {cfg : Config} {b after : Backend} {op : Op} {out : Output}

/-- `send_task` sends the text of the message, or the unsubscribe request of a subscription. -/
theorem Step.frames_framed {msg : FrontToBack} (step : b.Step cfg (.front msg) out after) (framed : msg.Framed) :
    ∀ frame ∈ out.frames, Frame frame := by
  intro frame member
  cases step with
  | batch | notification | request | subscribe => exact framed frame (List.mem_singleton.mp member ▸ rfl)
  | unsubscribe =>
      rw [List.mem_singleton.mp member]
      exact .request _
  | _ => cases member

theorem Step.messages_framed (step : b.Step cfg op out after) : ∀ msg ∈ out.messages, msg.Framed := by
  intro msg member
  cases step with
  | abandon =>
      rw [List.mem_singleton.mp member]
      rintro raw ⟨⟩
      exact .request _
  | notifyLost =>
      rw [List.mem_singleton.mp member]
      rintro raw ⟨⟩
  | _ => cases member

end Backend

namespace Client

variable {serde : SerdeJson} {cfg : Config} {c c' : Client} {a : ClientAction}

/-- What an action puts on the wire. -/
def frames (cfg : Config) (c : Client) (a : ClientAction) : List Json := sentFrames cfg ⟨c, a, c⟩

theorem frames_send {position : Nat} {msg : FrontToBack} (found : c.inFlight[position]? = some msg) :
    c.frames cfg (.send position) = (c.backend.apply cfg (.front msg)).1.frames := by
  simp only [frames, sentFrames, found]
  rfl

theorem frames_of_silent (other : ∀ position, a ≠ .send position) : c.frames cfg a = [] := by
  cases a with
  | send position => exact absurd rfl (other position)
  | _ => rfl

theorem framed_queue {msg : FrontToBack} (queued : ∀ msg ∈ c.inFlight, msg.Framed) (framed : msg.Framed) :
    ∀ other ∈ (c.queue msg).inFlight, other.Framed := by
  intro other member
  rcases List.mem_append.mp member with earlier | last
  · exact queued other earlier
  · exact List.mem_singleton.mp last ▸ framed

/-- The front-end queues and sends what the serializers write. -/
theorem framed_of_step (taken : c.step serde cfg a = some c') (other : ∀ raw, a ≠ .receive raw)
    (queued : ∀ msg ∈ c.inFlight, msg.Framed) :
    (∀ msg ∈ c'.inFlight, msg.Framed) ∧ ∀ frame ∈ c.frames cfg a, Frame frame := by
  cases a with
  | request method params =>
      simp only [step] at taken
      obtain ⟨-, rfl⟩ := draw_eq_some taken
      refine ⟨framed_queue queued ?_, by simp [frames, sentFrames]⟩
      rintro raw ⟨⟩
      exact .request _
  | batchRequest batch =>
      simp only [step] at taken
      split at taken
      · obtain rfl := Option.some.inj taken
        exact ⟨queued, by simp [frames, sentFrames]⟩
      · rename_i nonempty
        obtain ⟨-, rfl⟩ := draw_eq_some taken
        split
        · exact ⟨queued, by simp [frames, sentFrames]⟩
        · rename_i range generated
          refine ⟨framed_queue queued ?_, by simp [frames, sentFrames]⟩
          rintro raw ⟨⟩
          refine .batch ?_
          obtain ⟨-, size, -⟩ := generateBatchIdRange_ok generated
          have length : (batchRequests c.ids.idKind batch range).length = batch.length := by
            rw [batchRequests, List.length_map, List.length_zip, Range.length_numbers, size, Nat.min_self]
          exact List.ne_nil_of_length_pos (length ▸ List.length_pos_iff.mpr nonempty)
  | subscribe subscribeMethod params unsubscribeMethod =>
      simp only [step] at taken
      split at taken
      · obtain rfl := Option.some.inj taken
        exact ⟨queued, by simp [frames, sentFrames]⟩
      · obtain ⟨-, rfl⟩ := draw_eq_some taken
        exact ⟨queued, by simp [frames, sentFrames]⟩
  | drawUnsubscribeId position =>
      simp only [step] at taken
      split at taken
      · cases taken
      · obtain ⟨-, rfl⟩ := draw_eq_some taken
        refine ⟨framed_queue queued ?_, by simp [frames, sentFrames]⟩
        rintro raw ⟨⟩
        exact .request _
  | notification method params =>
      simp only [step] at taken
      obtain ⟨-, rfl⟩ := draw_eq_some taken
      refine ⟨framed_queue queued ?_, by simp [frames, sentFrames]⟩
      rintro raw ⟨⟩
      exact .notification _
  | skipId =>
      simp only [step] at taken
      obtain ⟨-, rfl⟩ := draw_eq_some taken
      exact ⟨queued, by simp [frames, sentFrames]⟩
  | subscribeToMethod | closeSubscription | closeMethod =>
      obtain rfl := Option.some.inj taken
      refine ⟨framed_queue queued ?_, by simp [frames, sentFrames]⟩
      rintro raw ⟨⟩
  | send position =>
      simp only [step] at taken
      split at taken
      · cases taken
      · rename_i msg found
        obtain rfl := Option.some.inj taken
        have step := Backend.apply_step cfg c.backend (.front msg)
        have framed := queued msg (List.mem_of_getElem? found)
        refine ⟨fun other member => queued other (List.mem_of_mem_eraseIdx member), ?_⟩
        rw [frames_send found]
        exact step.frames_framed framed
  | receive raw => exact absurd rfl (other raw)
  | dropOneshot | dropReceiver =>
      obtain rfl := Option.some.inj taken
      exact ⟨queued, by simp [frames, sentFrames]⟩
  | read sink =>
      obtain ⟨channels, -, rfl⟩ := Option.map_eq_some_iff.mp taken
      exact ⟨queued, by simp [frames, sentFrames]⟩

/-- A conformant server makes the client queue requests only. -/
theorem Receives.framed {raw : List UInt8} {op : Op} (receives : c.Receives serde cfg raw op)
    (taken : c.step serde cfg (.receive raw) = some c') (queued : ∀ msg ∈ c.inFlight, msg.Framed) :
    ∀ msg ∈ c'.inFlight, msg.Framed := by
  simp only [step, receives.handled, receives.settled] at taken
  obtain rfl := Option.some.inj taken
  intro msg member
  rcases List.mem_append.mp member with earlier | new
  · exact queued msg earlier
  · exact (Backend.apply_step cfg c.backend op).messages_framed msg new

/-- The client waits for what it has just asked for as well. -/
theorem owed_of_step (taken : c.step serde cfg a = some c') (other : ∀ raw, a ≠ .receive raw) :
    c'.calls = c.calls ++ (c.frames cfg a).filterMap requestId ∧
      c'.batches = c.batches ++ (c.frames cfg a).filterMap batchIds := by
  by_cases sends : ∃ position, a = .send position
  · obtain ⟨position, rfl⟩ := sends
    simp only [step] at taken
    split at taken
    · cases taken
    · rename_i msg found
      obtain rfl := Option.some.inj taken
      rw [frames_send found]
      exact ⟨rfl, rfl⟩
  · rw [frames_of_silent (not_exists.mp sends), List.filterMap_nil, List.filterMap_nil, List.append_nil, List.append_nil]
    cases move_of_step taken other with
    | sent => exact absurd ⟨_, rfl⟩ sends
    | received => exact absurd rfl (other _)
    | _ => exact ⟨rfl, rfl⟩

end Client

end Jsonrpsee
