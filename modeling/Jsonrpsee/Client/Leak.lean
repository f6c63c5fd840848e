import Jsonrpsee.Client.Freshness

/-! # What is left behind

A subscribe call occupies two entries, and every way to end a subscription
releases one of them at most: an error response and a close notification free
the subscribe id, the acknowledgement of an unsubscribe request frees the
reserved id. The other one stays: an entry that nobody waits for, under an id
that is not on the wire. No later step can remove such an entry, so one
subscribe call is enough for the request table never to be empty again.
-/

namespace Jsonrpsee

/-- An entry that no answer will ever remove. -/
def Leaked (requests : Table Id Kind) (calls : List Id) : Prop :=
  ∃ id, requests.lookup id = some (.pendingMethodCall none) ∧ id ∉ calls

/-- Every entry is a call on the wire. -/
def Accounted (requests : Table Id Kind) (calls : List Id) : Prop :=
  ∀ id kind, requests.lookup id = some kind → id ∈ calls ∧ ∃ sendBack, kind = .pendingMethodCall sendBack

section

variable {requests : Table Id Kind} {calls : List Id}

namespace Leaked

variable (leaked : Leaked requests calls)

include leaked

/-- The answer to a request on the wire removes its own entry only. -/
theorem erase {id : Id} (owed : id ∈ calls) : Leaked (requests.erase id) (calls.erase id) := by
  obtain ⟨left, entry, unasked⟩ := leaked
  have other : left ≠ id := fun same => unasked (same ▸ owed)
  exact ⟨left, by rw [Finmap.lookup_erase_ne other, entry], fun member => unasked (List.mem_of_mem_erase member)⟩

theorem replace {id : Id} (owed : id ∈ calls) (kind : Kind) :
    Leaked (requests.insert id kind) (calls.erase id) := by
  obtain ⟨left, entry, unasked⟩ := leaked
  have other : left ≠ id := fun same => unasked (same ▸ owed)
  exact ⟨left, by rw [Finmap.lookup_insert_of_ne _ other, entry],
    fun member => unasked (List.mem_of_mem_erase member)⟩

/-- A request goes out under a free id. -/
theorem request {id : Id} (free : requests.lookup id = none) (kind : Kind) :
    Leaked (requests.insert id kind) (calls ++ [id]) := by
  obtain ⟨left, entry, unasked⟩ := leaked
  have other : left ≠ id := by
    rintro rfl
    rw [free] at entry
    cases entry
  refine ⟨left, by rw [Finmap.lookup_insert_of_ne _ other, entry], ?_⟩
  rw [List.mem_append, List.mem_singleton]
  exact fun either => either.elim unasked other

/-- A close notification removes an active subscription. -/
theorem close {r u : Id} {sink : SinkId} {unsub : String}
    (active : requests.lookup r = some (.subscription u sink unsub)) : Leaked (requests.erase r) calls := by
  obtain ⟨left, entry, unasked⟩ := leaked
  have other : left ≠ r := by
    rintro rfl
    rw [active] at entry
    cases entry
  exact ⟨left, by rw [Finmap.lookup_erase_ne other, entry], unasked⟩

end Leaked

namespace CallLedger

variable (ledger : CallLedger requests calls)

include ledger

/-- An accepted subscribe request leaks its reserved id. -/
theorem leaked_subscribe {id u : Id} (unsubFree : requests.lookup u = none) (distinct : id ≠ u)
    (kind : Kind) : Leaked ((requests.insert id kind).insert u (.pendingMethodCall none)) (calls ++ [id]) := by
  refine ⟨u, Finmap.lookup_insert _, ?_⟩
  rw [List.mem_append, List.mem_singleton]
  rintro (member | same)
  · exact ledger.known member unsubFree
  · exact distinct same.symm

/-- The reserved id goes onto the wire, and the subscribe id takes its place. -/
theorem leaked_unsubscribe {r u : Id} {sink : SinkId} {unsub : String}
    (active : requests.lookup r = some (.subscription u sink unsub)) :
    Leaked (requests.insert r (.pendingMethodCall none)) (calls ++ [u]) := by
  refine ⟨r, Finmap.lookup_insert _, ?_⟩
  rw [List.mem_append, List.mem_singleton]
  rintro (member | rfl)
  · exact ledger.awaiting member active
  · have reserved := (ledger.reserved (reservation_of_lookup active)).1
    rw [active] at reserved
    cases reserved

end CallLedger

namespace Accounted

variable (accounted : Accounted requests calls)

include accounted

theorem request {id : Id} (sendBack : Option OneshotId) :
    Accounted (requests.insert id (.pendingMethodCall sendBack)) (calls ++ [id]) := by
  intro id' kind found
  by_cases here : id' = id
  · subst here
    rw [Finmap.lookup_insert] at found
    exact ⟨List.mem_append_right _ List.mem_cons_self, sendBack, (Option.some.inj found).symm⟩
  · rw [Finmap.lookup_insert_of_ne _ here] at found
    obtain ⟨owed, shape⟩ := accounted id' kind found
    exact ⟨List.mem_append_left _ owed, shape⟩

theorem erase (id : Id) : Accounted (requests.erase id) (calls.erase id) := by
  intro id' kind found
  by_cases here : id' = id
  · subst here
    rw [Finmap.lookup_erase] at found
    cases found
  · rw [Finmap.lookup_erase_ne here] at found
    obtain ⟨owed, shape⟩ := accounted id' kind found
    exact ⟨(List.mem_erase_of_ne here).mpr owed, shape⟩

/-- There is no subscription. -/
theorem reserves_nothing {id : Id} {kind : Kind} (found : requests.lookup id = some kind) :
    kind.reserves = none := by
  obtain ⟨-, sendBack, rfl⟩ := accounted id kind found
  rfl

end Accounted

namespace CallMove

variable {op : Op} {requests' : Table Id Kind} {calls' : List Id}
  (move : CallMove op requests calls requests' calls')

include move

/-- What is leaked stays leaked. -/
theorem leaked (ledger : CallLedger requests calls) (leaked : Leaked requests calls) :
    Leaked requests' calls' := by
  cases move with
  | kept => exact leaked
  | requested free => exact leaked.request free _
  | subscribed _ _ unsubFree distinct => exact ledger.leaked_subscribe unsubFree distinct _
  | unsubscribed active => exact ledger.leaked_unsubscribe active
  | answered owed => exact leaked.erase owed
  | passed owed => exact leaked.replace owed _
  | closed active => exact leaked.close active

/-- Without subscribe messages every entry stays a call on the wire. -/
theorem accounted (accounted : Accounted requests calls) (other : ∀ msg, op ≠ .front (.subscribe msg)) :
    Accounted requests' calls' := by
  cases move with
  | kept => exact accounted
  | requested free sendBack => exact accounted.request sendBack
  | subscribed front => exact absurd front (other _)
  | unsubscribed active | closed active => cases accounted.reserves_nothing active
  | answered => exact accounted.erase _
  | passed owed pending => cases accounted.reserves_nothing pending

end CallMove

end

namespace Backend

variable {cfg : Config} {b after : Backend} {op : Op} {out : Output} {calls : List Id} {idKind : IdKind}
  {table : Table Range BatchState}

/-- A subscribe message with free ids leaks. -/
theorem Step.leaked_subscribe {msg : SubscriptionMessage}
    (step : b.Step cfg (.front (.subscribe msg)) out after) (ledger : CallLedger b.manager.requests calls)
    (asks : requestId msg.raw = some msg.subscribeId)
    (free : b.manager.requests.lookup msg.subscribeId = none)
    (unsubFree : b.manager.requests.lookup msg.unsubscribeId = none)
    (distinct : msg.subscribeId ≠ msg.unsubscribeId) :
    Leaked after.manager.requests (calls ++ out.frames.filterMap requestId) := by
  cases step with
  | subscribe =>
      simpa only [Output.frame, List.filterMap_cons, asks, List.filterMap_nil] using
        ledger.leaked_subscribe unsubFree distinct _
  | subscribeOccupied refused => exact absurd ⟨free, unsubFree, distinct⟩ refused

end Backend

namespace Client

variable {serde : SerdeJson} {cfg : Config} {c c' : Client} {a : ClientAction}

/-- What every section of a move keeps of the entries and the wire. -/
theorem Move.keep {inv : Table Id Kind → List Id → Prop} (move : c.Move serde cfg a c')
    (balanced : Balanced c)
    (keep : ∀ op, (∀ msg, op = .front msg → ∃ position, a = .send position ∧ c.inFlight[position]? = some msg) →
      op.Expected c.ids.idKind c.calls c.backend.manager.batches →
      inv (c.backend.apply cfg op).2.manager.requests
        (op.settled c.calls ++ (c.backend.apply cfg op).1.frames.filterMap requestId))
    (before : inv c.backend.manager.requests c.calls) : inv c'.backend.manager.requests c'.calls := by
  cases move with
  | outside same => rwa [same]
  | posted | registered | requested | batched | subscribing | subscribed => exact before
  | @sent msg position found =>
      refine keep (.front msg) ?_ (balanced.wellFormed msg (List.mem_of_getElem? found))
      rintro _ ⟨⟩
      exact ⟨position, rfl, found⟩
  | @received raw op receives =>
      have silent := (Backend.apply_step cfg c.backend op).frames_eq_nil receives.back
      have after := keep op (fun msg front => absurd front (receives.back msg)) receives.expected
      rwa [silent, List.filterMap_nil, List.append_nil] at after

/-- `send_task` takes the message of a subscribe call. -/
def Subscribes (t : Transition Client ClientAction) : Prop :=
  ∃ position msg, t.action = .send position ∧ t.before.inFlight[position]? = some (.subscribe msg)

/-- The step that takes it leaks. -/
theorem leaked_of_subscribes (balanced : Balanced c) (fresh : Fresh c)
    (taken : c.step serde cfg a = some c') (subscribes : Subscribes ⟨c, a, c'⟩) :
    Leaked c'.backend.manager.requests c'.calls := by
  obtain ⟨position, msg, action, found⟩ := subscribes
  dsimp only at action found
  subst action
  simp only [step, found] at taken
  obtain rfl := Option.some.inj taken
  have queued := List.mem_of_getElem? found
  have wellFormed : FrontToBack.WellFormed c.ids.idKind (.subscribe msg) := balanced.wellFormed _ queued
  exact (Backend.apply_step cfg c.backend (.front (.subscribe msg))).leaked_subscribe balanced.calls
    wellFormed.1 (fresh.id_free queued List.mem_cons_self)
    (fresh.id_free queued (List.mem_cons_of_mem _ List.mem_cons_self)) (fresh.subscribe_distinct queued)

section Runs

variable {idKind : IdKind} {ts : List (Transition Client ClientAction)}
  (run : Run (Client.step serde cfg) (.new idKind) ts c) (conformant : ∀ t ∈ ts, Conformant serde t)

include run conformant

theorem leaked_of_subscribed {t} (member : t ∈ ts) (subscribes : Subscribes t) :
    Leaked c.backend.manager.requests c.calls := by
  obtain ⟨pre, post, rfl, earlier, taken, later⟩ := run.split member
  obtain ⟨balanced, fresh⟩ := Client.fresh earlier fun t member => conformant t (List.mem_append_left _ member)
  have after := balanced.of_move (balanced.move (conformant t member) taken)
  have leaked := leaked_of_subscribes balanced fresh taken subscribes
  refine (later.invariant (fun c => Balanced c ∧ Leaked c.backend.manager.requests c.calls) (Conformant serde)
    (fun t member => conformant t (List.mem_append_right _ (List.mem_cons_of_mem _ member)))
    ⟨after, leaked⟩ ?_).2
  rintro t conforms ⟨balanced, leaked⟩ taken
  have move := balanced.move conforms taken
  refine ⟨balanced.of_move move, move.keep balanced ?_ leaked⟩
  exact fun op _ expected =>
    ((Backend.apply_step cfg _ op).callMove balanced.calls expected).leaked balanced.calls leaked

theorem accounted_of_unsubscribed (unsubscribed : ∀ t ∈ ts, ¬ Subscribes t) :
    Accounted c.backend.manager.requests c.calls := by
  refine (run.invariant (fun c => Balanced c ∧ Accounted c.backend.manager.requests c.calls)
    (fun t => Conformant serde t ∧ ¬ Subscribes t) (fun t member => ⟨conformant t member, unsubscribed t member⟩)
    ⟨.new idKind, fun id kind found => by cases found⟩ ?_).2
  rintro t ⟨conforms, other⟩ ⟨balanced, accounted⟩ taken
  have move := balanced.move conforms taken
  refine ⟨balanced.of_move move, move.keep balanced ?_ accounted⟩
  intro op source expected
  refine ((Backend.apply_step cfg _ op).callMove balanced.calls expected).accounted accounted ?_
  intro msg front
  obtain ⟨position, action, found⟩ := source _ front
  exact other ⟨position, msg, action, found⟩

/-- When everything on the wire is answered, the tables are empty exactly if no
    subscribe call was made. -/
theorem tables_released_iff (calls : c.calls = []) (batches : c.batches = []) :
    (c.backend.manager.requests = ∅ ∧ c.backend.manager.subscriptions = ∅ ∧
      c.backend.manager.batches = ∅) ↔ ∀ t ∈ ts, ¬ Subscribes t := by
  constructor
  · rintro ⟨empty, -, -⟩ t member subscribes
    obtain ⟨id, entry, -⟩ := leaked_of_subscribed run conformant member subscribes
    rw [empty] at entry
    cases entry
  · intro unsubscribed
    have balanced := Client.balanced run conformant
    have accounted := accounted_of_unsubscribed run conformant unsubscribed
    have requests : ∀ id, c.backend.manager.requests.lookup id = none := by
      intro id
      by_contra entry
      obtain ⟨kind, found⟩ := Option.ne_none_iff_exists'.mp entry
      have owed := (accounted id kind found).1
      rw [calls] at owed
      cases owed
    refine ⟨(Table.eq_empty_iff _).mpr requests, (Table.eq_empty_iff _).mpr ?_, (Table.eq_empty_iff _).mpr ?_⟩
    · intro subId
      by_contra entry
      obtain ⟨r, known⟩ := Option.ne_none_iff_exists'.mp entry
      obtain ⟨_, _, _, active⟩ := balanced.table.active known
      rw [requests] at active
      cases active
    · intro range
      by_contra pending
      have owed := balanced.batches.mem_iff.mpr ⟨range, pending, rfl⟩
      rw [batches] at owed
      cases owed

end Runs

/-- A call is answered and leaves nothing behind. -/
theorem tables_released_iff_called :
    let serde := Exchange.reader [Exchange.success 0 7]
    let cfg : Config := { maxBufferCapacityPerSubscription := 1, overflowChecks := true }
    ∃ ts c, Run (Client.step serde cfg) (.new .number) ts c ∧ (∀ t ∈ ts, Conformant serde t) ∧
      c.backend.channels.answers.length = 1 ∧
      ((c.backend.manager.requests = ∅ ∧ c.backend.manager.subscriptions = ∅ ∧
        c.backend.manager.batches = ∅) ↔ ∀ t ∈ ts, ¬ Subscribes t) := by
  intro serde cfg
  obtain ⟨ts, c, run, -, order⟩ := Run.reaches
    (restrict (Client.step serde cfg) (Client.answered serde)) (.new .number)
    [.request "say_hello" none, .send 0, .receive (Exchange.bytes (Exchange.success 0 7).1)]
    (fun c => c.calls = [] ∧ c.batches = [] ∧ c.backend.channels.answers.length = 1) (by decide)
  obtain ⟨run, answered⟩ := run.of_restrict
  have conformant : ∀ t ∈ ts, Conformant serde t :=
    fun t member => conformant_of_answered (answered t member)
  obtain ⟨calls, batches, length⟩ := of_decide_eq_true order
  exact ⟨ts, c, run, conformant, length, tables_released_iff run conformant calls batches⟩

/-- A subscription is made, unsubscribed by the client and its unsubscribe
    request acknowledged. The entry of the subscribe id is still there. -/
theorem tables_leaked :
    let serde := Exchange.reader [Exchange.success 0 7, Exchange.success 1 1]
    let cfg : Config := { maxBufferCapacityPerSubscription := 1, overflowChecks := true }
    ∃ ts c, Run (Client.step serde cfg) (.new .number) ts c ∧ (∀ t ∈ ts, Conformant serde t) ∧
      ts.map Transition.action =
        [.subscribe "subscribe_hello" none "unsubscribe_hello", .drawUnsubscribeId 0, .send 0,
          .receive (Exchange.bytes (Exchange.success 0 7).1), .closeSubscription (.num 7), .send 0,
          .receive (Exchange.bytes (Exchange.success 1 1).1)] ∧
      (c.calls = [] ∧ c.batches = [] ∧ c.inFlight = [] ∧ c.subscribing = []) ∧
      c.backend.manager.subscriptions = ∅ ∧ c.backend.manager.requests ≠ ∅ := by
  intro serde cfg
  obtain ⟨ts, c, run, labels, shape⟩ := Run.reaches
    (restrict (Client.step serde cfg) (Client.answered serde)) (.new .number)
    [.subscribe "subscribe_hello" none "unsubscribe_hello", .drawUnsubscribeId 0, .send 0,
      .receive (Exchange.bytes (Exchange.success 0 7).1), .closeSubscription (.num 7), .send 0,
      .receive (Exchange.bytes (Exchange.success 1 1).1)]
    (fun c => c.calls = [] ∧ c.batches = [] ∧ c.inFlight.length = 0 ∧ c.subscribing.length = 0 ∧
      c.backend.manager.subscriptions = ∅ ∧ Id.number 0 ∈ c.backend.manager.requests.keys) (by decide)
  obtain ⟨run, answered⟩ := run.of_restrict
  obtain ⟨calls, batches, inFlight, subscribing, subscriptions, left⟩ := of_decide_eq_true shape
  refine ⟨ts, c, run, fun t member => conformant_of_answered (answered t member), labels,
    ⟨calls, batches, List.length_eq_zero_iff.mp inFlight, List.length_eq_zero_iff.mp subscribing⟩, subscriptions, ?_⟩
  intro empty
  rw [empty] at left
  cases left

end Client

end Jsonrpsee
