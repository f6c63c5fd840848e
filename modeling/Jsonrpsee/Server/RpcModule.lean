import Jsonrpsee.Lib.Outcome
import Jsonrpsee.Server.Answers
import Jsonrpsee.Server.Connection

/-! # Registering methods

The callbacks that a module makes of the functions it is given. Each of them
answers with the id that it was called with; only the one of a blocking method
has lost it when the function panics in its own task. The extensions of a call are
lost where an unsubscribe method answers.
-/

namespace Jsonrpsee

namespace Server

/-- The error returned when registering a method or subscription failed. -/
inductive RegisterMethodError where
  | alreadyRegistered (name : String)
  /-- Subscribe and unsubscribe method names are the same. -/
  | subscriptionNameConflict (name : String)
  | methodNotFound (name : String)
  deriving Repr, DecidableEq

/-- What a handler of subscriptions is given. -/
structure PendingSubscriptionSink where
  /-- The name of the notifications. -/
  method : String
  uniqSub : SubscriptionKey
  id : Id

/-- What a handler does with its `PendingSubscriptionSink`. -/
inductive PendingOutcome where
  | accepted
  | rejected (err : ErrorObject)
  /-- Dropped, or `accept` has failed. -/
  | dropped

/-- What the subscribe call gets from it. -/
def PendingOutcome.answer (sink : PendingSubscriptionSink) (maxResponseSize : Nat) : PendingOutcome → Answer
  | .accepted =>
      .sent (.subscriptionResponse sink.id (.payload (.success sink.uniqSub.subId.toJson) none) maxResponseSize)
  | .rejected err => .sent (.subscriptionError sink.id err)
  | .dropped => .dropped

/-- What a subscribe call finds on its connection. -/
structure SubscriptionState (σ : Type) where
  /-- `IdProvider::next_id`. -/
  nextId : σ → SubscriptionId × σ
  /-- Of the connection's `MethodSink`. -/
  maxResponseSize : Nat

variable {σ : Type}

/-- A function that computes a result in the world of the methods. -/
abbrev Handler (σ τ : Type) := Option RawValue → Extensions → σ → τ × σ

abbrev SubscriptionHandler (σ : Type) :=
  Option RawValue → PendingSubscriptionSink → Extensions → σ → PendingOutcome × σ

/-! ## The callbacks -/

namespace MethodCallback

def ofMethod (callback : Handler σ Result) : MethodCallback σ :=
  .sync fun id params maxResponseSize extensions world =>
    let (rp, world) := callback params extensions world
    ((MethodResponse.response id rp maxResponseSize).withExtensions extensions, world)

def ofAsyncMethod (callback : Handler σ Result) : MethodCallback σ :=
  .async fun id params _ maxResponseSize extensions world =>
    let (rp, world) := callback params extensions world
    ((MethodResponse.response id rp maxResponseSize).withExtensions extensions, world)

/-- `spawn_blocking` has taken the id along; there is no result when the function
    panics or its task is cancelled. -/
def ofBlockingMethod (callback : Handler σ (Option Result)) : MethodCallback σ :=
  .async fun id params _ maxResponseSize extensions world =>
    match callback params extensions world with
    | (some rp, world) => ((MethodResponse.response id rp maxResponseSize).withExtensions extensions, world)
    | (none, world) => ((MethodResponse.error .null (.ofCode .internalError)).withExtensions extensions, world)

/-- The subscribe call waits for the answer of the sink that its handler gets. -/
def ofSubscription (notif : String) (conn : SubscriptionState σ) (callback : SubscriptionHandler σ) :
    MethodCallback σ :=
  .subscription fun id params connId extensions world =>
    let (subId, world) := conn.nextId world
    let sink : PendingSubscriptionSink := { method := notif, uniqSub := { connId, subId }, id }
    let (outcome, world) := callback params sink extensions world
    (((outcome.answer sink conn.maxResponseSize).response id).withExtensions extensions, world)

/-- `remove` takes an entry off the table of subscribers. -/
def ofUnsubscribe (remove : SubscriptionKey → σ → Bool × σ) : MethodCallback σ :=
  .unsubscription fun id params connId maxResponseSize extensions world =>
    match paramsOne params with
    | none =>
        let rp : Result := .payload (.success (.bool false)) none
        ((MethodResponse.response id rp maxResponseSize).withExtensions extensions, world)
    | some subId =>
        let (result, world) := remove { connId, subId } world
        (MethodResponse.response id (.payload (.success (.bool result)) none) maxResponseSize, world)

end MethodCallback

/-! ## The module -/

abbrev Methods (σ : Type) := Table String (MethodCallback σ)

namespace Methods

def verifyMethodName (methods : Methods σ) (name : String) : Except RegisterMethodError Unit :=
  match methods.lookup name with
  | some _ => .error (.alreadyRegistered name)
  | none => .ok ()

def verifyAndInsert (methods : Methods σ) (name : String) (callback : MethodCallback σ) :
    Except RegisterMethodError (Methods σ) :=
  match methods.lookup name with
  | some _ => .error (.alreadyRegistered name)
  | none => .ok (methods.insert name callback)

def registerMethod (methods : Methods σ) (name : String) (callback : Handler σ Result) :
    Except RegisterMethodError (Methods σ) :=
  methods.verifyAndInsert name (.ofMethod callback)

def registerAsyncMethod (methods : Methods σ) (name : String) (callback : Handler σ Result) :
    Except RegisterMethodError (Methods σ) :=
  methods.verifyAndInsert name (.ofAsyncMethod callback)

def registerBlockingMethod (methods : Methods σ) (name : String) (callback : Handler σ (Option Result)) :
    Except RegisterMethodError (Methods σ) :=
  methods.verifyAndInsert name (.ofBlockingMethod callback)

def verifyAndRegisterUnsubscribe (methods : Methods σ) (subscribe unsubscribe : String)
    (remove : SubscriptionKey → σ → Bool × σ) : Except RegisterMethodError (Methods σ) :=
  if subscribe = unsubscribe then .error (.subscriptionNameConflict subscribe)
  else do
    methods.verifyMethodName subscribe
    methods.verifyMethodName unsubscribe
    .ok (methods.insert unsubscribe (.ofUnsubscribe remove))

/-- The two methods of a subscription. -/
def registerSubscriptionRaw (methods : Methods σ) (subscribe notif unsubscribe : String) (conn : SubscriptionState σ)
    (remove : SubscriptionKey → σ → Bool × σ) (callback : SubscriptionHandler σ) :
    Except RegisterMethodError (Methods σ) := do
  let methods ← methods.verifyAndRegisterUnsubscribe subscribe unsubscribe remove
  methods.verifyAndInsert subscribe (.ofSubscription notif conn callback)

/-- As above. The task that runs the handler to its end and sends the close
    notification is part of the world. -/
def registerSubscription (methods : Methods σ) (subscribe notif unsubscribe : String) (conn : SubscriptionState σ)
    (remove : SubscriptionKey → σ → Bool × σ) (callback : SubscriptionHandler σ) :
    Except RegisterMethodError (Methods σ) :=
  methods.registerSubscriptionRaw subscribe notif unsubscribe conn remove callback

def registerAlias (methods : Methods σ) (aliasName existingMethod : String) :
    Except RegisterMethodError (Methods σ) := do
  methods.verifyMethodName aliasName
  match methods.lookup existingMethod with
  | some callback => .ok (methods.insert aliasName callback)
  | none => .error (.methodNotFound existingMethod)

def removeMethod (methods : Methods σ) (name : String) : Methods σ := methods.erase name

/-- The modules that can be put together. -/
inductive Built : Methods σ → Prop
  | new : Built ∅
  | registerMethod {methods methods' : Methods σ} {name : String} {callback : Handler σ Result} (built : Built methods)
      (registered : methods.registerMethod name callback = .ok methods') : Built methods'
  | registerAsyncMethod {methods methods' : Methods σ} {name : String} {callback : Handler σ Result}
      (built : Built methods) (registered : methods.registerAsyncMethod name callback = .ok methods') : Built methods'
  | registerBlockingMethod {methods methods' : Methods σ} {name : String} {callback : Handler σ (Option Result)}
      (built : Built methods) (registered : methods.registerBlockingMethod name callback = .ok methods') :
      Built methods'
  | registerSubscription {methods methods' : Methods σ} {subscribe notif unsubscribe : String}
      {conn : SubscriptionState σ} {remove : SubscriptionKey → σ → Bool × σ} {callback : SubscriptionHandler σ}
      (built : Built methods)
      (registered : methods.registerSubscription subscribe notif unsubscribe conn remove callback = .ok methods') :
      Built methods'
  | registerSubscriptionRaw {methods methods' : Methods σ} {subscribe notif unsubscribe : String}
      {conn : SubscriptionState σ} {remove : SubscriptionKey → σ → Bool × σ} {callback : SubscriptionHandler σ}
      (built : Built methods)
      (registered : methods.registerSubscriptionRaw subscribe notif unsubscribe conn remove callback = .ok methods') :
      Built methods'
  | registerAlias {methods methods' : Methods σ} {aliasName existingMethod : String} (built : Built methods)
      (registered : methods.registerAlias aliasName existingMethod = .ok methods') : Built methods'
  | removeMethod {methods : Methods σ} {name : String} (built : Built methods) : Built (methods.removeMethod name)
  /-- `merge`, of modules that have no name in common. -/
  | merge {methods other : Methods σ} (built : Built methods) (otherBuilt : Built other)
      (disjoint : Finmap.Disjoint methods other) : Built (methods ∪ other)

/-! ## What a module holds -/

theorem eq_insert {methods methods' : Methods σ} {name : String} {callback : MethodCallback σ}
    (registered : methods.verifyAndInsert name callback = .ok methods') : methods' = methods.insert name callback := by
  unfold verifyAndInsert at registered
  cases found : methods.lookup name with
  | some old =>
      rw [found] at registered
      cases registered
  | none =>
      rw [found] at registered
      cases registered
      rfl

theorem eq_insert_unsubscribe {methods methods' : Methods σ} {subscribe unsubscribe : String}
    {remove : SubscriptionKey → σ → Bool × σ}
    (registered : methods.verifyAndRegisterUnsubscribe subscribe unsubscribe remove = .ok methods') :
    methods' = methods.insert unsubscribe (.ofUnsubscribe remove) := by
  unfold verifyAndRegisterUnsubscribe at registered
  by_cases same : subscribe = unsubscribe
  · rw [if_pos same] at registered
    cases registered
  · rw [if_neg same] at registered
    obtain ⟨free, -, registered⟩ := Except.bind_eq_ok_iff.mp registered
    obtain ⟨free', -, registered⟩ := Except.bind_eq_ok_iff.mp registered
    cases registered
    rfl

theorem eq_insert_subscription {methods methods' : Methods σ} {subscribe notif unsubscribe : String}
    {conn : SubscriptionState σ} {remove : SubscriptionKey → σ → Bool × σ} {callback : SubscriptionHandler σ}
    (registered : methods.registerSubscriptionRaw subscribe notif unsubscribe conn remove callback = .ok methods') :
    methods' = (methods.insert unsubscribe (.ofUnsubscribe remove)).insert subscribe
      (.ofSubscription notif conn callback) := by
  obtain ⟨between, first, registered⟩ := Except.bind_eq_ok_iff.mp registered
  rw [← eq_insert_unsubscribe first]
  exact eq_insert registered

theorem eq_insert_alias {methods methods' : Methods σ} {aliasName existingMethod : String}
    (registered : methods.registerAlias aliasName existingMethod = .ok methods') :
    ∃ callback, methods.lookup existingMethod = some callback ∧ methods' = methods.insert aliasName callback := by
  obtain ⟨free, -, registered⟩ := Except.bind_eq_ok_iff.mp registered
  cases found : methods.lookup existingMethod with
  | none =>
      rw [found] at registered
      cases registered
  | some callback =>
      rw [found] at registered
      cases registered
      exact ⟨callback, rfl, rfl⟩

end Methods

/-- The callbacks of the registrations. -/
inductive MethodCallback.Registered : MethodCallback σ → Prop
  | method (callback : Handler σ Result) : Registered (.ofMethod callback)
  | asyncMethod (callback : Handler σ Result) : Registered (.ofAsyncMethod callback)
  | blockingMethod (callback : Handler σ (Option Result)) : Registered (.ofBlockingMethod callback)
  | subscription (notif : String) (conn : SubscriptionState σ) (callback : SubscriptionHandler σ) :
      Registered (.ofSubscription notif conn callback)
  | unsubscribe (remove : SubscriptionKey → σ → Bool × σ) : Registered (.ofUnsubscribe remove)

namespace Methods

/-- All callbacks of the module come from registrations. -/
def AllRegistered (methods : Methods σ) : Prop :=
  ∀ {name : String} {callback : MethodCallback σ}, methods.lookup name = some callback → callback.Registered

theorem AllRegistered.insert {methods : Methods σ} (all : methods.AllRegistered) {name : String}
    {callback : MethodCallback σ} (good : callback.Registered) :
    AllRegistered (Finmap.insert name callback methods) := by
  intro name' callback' found
  rw [Table.lookup_insert_ite] at found
  split at found
  · cases found
    exact good
  · exact all found

theorem Built.allRegistered {methods : Methods σ} (built : methods.Built) : methods.AllRegistered := by
  induction built with
  | new =>
      intro name callback found
      rw [Finmap.lookup_empty] at found
      cases found
  | registerMethod _ registered ih =>
      rw [eq_insert registered]
      exact ih.insert (.method _)
  | registerAsyncMethod _ registered ih =>
      rw [eq_insert registered]
      exact ih.insert (.asyncMethod _)
  | registerBlockingMethod _ registered ih =>
      rw [eq_insert registered]
      exact ih.insert (.blockingMethod _)
  | registerSubscription _ registered ih | registerSubscriptionRaw _ registered ih =>
      rw [eq_insert_subscription registered]
      exact AllRegistered.insert (ih.insert (.unsubscribe _)) (.subscription _ _ _)
  | registerAlias _ registered ih =>
      obtain ⟨callback, known, rfl⟩ := eq_insert_alias registered
      exact ih.insert (ih known)
  | @removeMethod methods removed _ ih =>
      intro name callback found
      rw [Methods.removeMethod, Table.lookup_erase_ite] at found
      split at found
      · cases found
      · exact ih found
  | merge _ _ _ ih ihOther =>
      intro name callback found
      rcases Finmap.mem_lookup_union.mp found with mine | ⟨-, theirs⟩
      · exact ih mine
      · exact ihOther theirs

end Methods

/-! ## The id of a response -/

/-- However a sink answers, the response has the id of the subscribe call. -/
theorem PendingOutcome.replies (outcome : PendingOutcome) (sink : PendingSubscriptionSink) (maxResponseSize : Nat) :
    ((outcome.answer sink maxResponseSize).response sink.id).Replies sink.id := by
  cases outcome with
  | accepted => exact MethodResponse.replies_response ..
  | rejected err => exact MethodResponse.replies_error ..
  | dropped => exact MethodResponse.replies_error ..

/-- The method is a blocking one, and its function panics or is cancelled on this
    call. -/
def JoinFails (service : RpcService σ) (req : Request) (extensions : Extensions) (world : σ) : Prop :=
  ∃ callback : Handler σ (Option Result), service.methods.lookup req.method = some (.ofBlockingMethod callback) ∧
    (callback req.params extensions world).1 = none

theorem call_joinFails {service : RpcService σ} {req : Request} {extensions : Extensions} {world : σ}
    (fails : JoinFails service req extensions world) : (service.call req extensions world).1.Replies .null := by
  obtain ⟨callback, found, noResult⟩ := fails
  cases ran : callback req.params extensions world with
  | mk rp after =>
      rw [ran] at noResult
      cases noResult
      simp only [RpcService.call, found, MethodCallback.ofBlockingMethod, ran]
      exact MethodResponse.replies_error ..

theorem call_replies_of_registered {service : RpcService σ} {req : Request} {extensions : Extensions} {world : σ}
    {callback : MethodCallback σ} (found : service.methods.lookup req.method = some callback)
    (registered : callback.Registered) (joins : ¬ JoinFails service req extensions world) :
    (service.call req extensions world).1.Replies req.id := by
  cases registered with
  | method callback =>
      simp only [RpcService.call, found, MethodCallback.ofMethod]
      exact MethodResponse.replies_response ..
  | asyncMethod callback =>
      simp only [RpcService.call, found, MethodCallback.ofAsyncMethod]
      exact MethodResponse.replies_response ..
  | blockingMethod callback =>
      cases ran : callback req.params extensions world with
      | mk rp after =>
          cases rp with
          | none => exact absurd ⟨callback, found, by rw [ran]⟩ joins
          | some rp =>
              simp only [RpcService.call, found, MethodCallback.ofBlockingMethod, ran]
              exact MethodResponse.replies_response ..
  | subscription notif conn callback =>
      simp only [RpcService.call, found, MethodCallback.ofSubscription]
      cases service.cfg with
      | onlyCalls => exact MethodResponse.replies_error ..
      | callsAndSubscriptions acquire max =>
          cases permit : acquire world with
          | none =>
              simp only [permit]
              exact MethodResponse.replies_error ..
          | some world =>
              simp only [permit]
              exact PendingOutcome.replies _ { method := notif, uniqSub := _, id := req.id } _
  | unsubscribe remove =>
      simp only [RpcService.call, found, MethodCallback.ofUnsubscribe]
      cases service.cfg with
      | onlyCalls => exact MethodResponse.replies_error ..
      | callsAndSubscriptions acquire max =>
          cases paramsOne req.params with
          | none => exact MethodResponse.replies_response ..
          | some subId => exact MethodResponse.replies_response ..

/-- Whatever the module and the outcome, the response to a call has the id of the
    call, unless a blocking method fails on a call whose id is not `null`. -/
theorem call_replies_iff (service : RpcService σ) (built : Methods.Built service.methods) (req : Request)
    (extensions : Extensions) (world : σ) :
    (service.call req extensions world).1.Replies req.id ↔
      ¬ (req.id ≠ .null ∧ JoinFails service req extensions world) := by
  constructor
  · rintro replies ⟨notNull, fails⟩
    exact notNull (Option.some.inj (replies.symm.trans (call_joinFails fails)))
  · intro good
    by_cases fails : JoinFails service req extensions world
    · have isNull : req.id = .null := by
        by_contra notNull
        exact good ⟨notNull, fails⟩
      rw [isNull]
      exact call_joinFails fails
    · cases found : service.methods.lookup req.method with
      | none =>
          simp only [RpcService.call, found]
          exact MethodResponse.replies_error ..
      | some callback => exact call_replies_of_registered found (built.allRegistered found) fails

/-- A service with one method. -/
def oneMethod (callback : MethodCallback Unit) : RpcService Unit :=
  { methods := (∅ : Methods Unit).insert "sum" callback
    maxResponseBodySize := 1024
    connId := 0
    cfg := .onlyCalls }

theorem call_replies_sum :
    ((oneMethod (.ofMethod fun _ _ world => (.payload (.success (.int 3)) none, world))).call
      { id := .number 7, method := "sum", params := none } ∅ ()).1.Replies (.number 7) := by
  refine (call_replies_iff _ (.registerMethod .new rfl) { id := .number 7, method := "sum", params := none } ∅ ()).mpr ?_
  rintro ⟨-, callback, found, -⟩
  rw [oneMethod, Finmap.lookup_insert] at found
  simp [MethodCallback.ofMethod, MethodCallback.ofBlockingMethod] at found

/-- The call of a blocking method that panics is answered without its id. -/
theorem blocking_panic_loses_id :
    Methods.Built (oneMethod (.ofBlockingMethod fun _ _ world => (none, world))).methods ∧
    ¬ ((oneMethod (.ofBlockingMethod fun _ _ world => (none, world))).call
      { id := .number 7, method := "sum", params := none } ∅ ()).1.Replies (.number 7) := by
  refine ⟨.registerBlockingMethod .new rfl, ?_⟩
  intro replies
  have fails : JoinFails (oneMethod (.ofBlockingMethod fun _ _ world => (none, world)))
      { id := .number 7, method := "sum", params := none } ∅ () := ⟨_, Finmap.lookup_insert _, rfl⟩
  exact absurd (replies.symm.trans (call_joinFails fails)) (by decide)

/-! ## The extensions of a response -/

/-- A response starts out without extensions. -/
theorem MethodResponse.extensions_response (id : Id) (result : Result) (limit : Nat) :
    (MethodResponse.response id result limit).extensions = ∅ := by
  cases result with
  | payload inner onExit =>
      rw [MethodResponse.response]
      dsimp only
      split <;> rfl
  | unserializable written onExit =>
      rw [MethodResponse.response]
      split <;> rfl

/-- The callbacks that put the extensions of the call on their responses: all but those of unsubscribe methods. -/
theorem call_keeps_extensions {service : RpcService σ} {req : Request} {extensions : Extensions} {world : σ}
    {callback : MethodCallback σ} (found : service.methods.lookup req.method = some callback)
    (registered : callback.Registered) (other : ∀ remove, callback ≠ .ofUnsubscribe remove) :
    (service.call req extensions world).1.extensions = extensions := by
  cases registered with
  | method callback => simp only [RpcService.call, found, MethodCallback.ofMethod, MethodResponse.withExtensions]
  | asyncMethod callback =>
      simp only [RpcService.call, found, MethodCallback.ofAsyncMethod, MethodResponse.withExtensions]
  | blockingMethod callback =>
      simp only [RpcService.call, found, MethodCallback.ofBlockingMethod]
      split <;> rfl
  | subscription notif conn callback =>
      simp only [RpcService.call, found, MethodCallback.ofSubscription]
      split
      · rfl
      · split <;> rfl
  | unsubscribe remove => exact absurd rfl (other remove)

/-- The call is answered by an unsubscribe method, with what its params name. -/
structure Unsubscribes (service : RpcService σ) (req : Request) : Prop where
  method : ∃ remove, service.methods.lookup req.method = some (.ofUnsubscribe remove)
  supported : service.cfg ≠ .onlyCalls
  params : (paramsOne req.params).isSome = true

/-- The one branch that leaves the extensions off, whether or not there was such a subscription. -/
theorem Unsubscribes.extensions_call {service : RpcService σ} {req : Request} (unsubscribes : Unsubscribes service req)
    (extensions : Extensions) (world : σ) : (service.call req extensions world).1.extensions = ∅ := by
  obtain ⟨⟨remove, found⟩, supported, params⟩ := unsubscribes
  obtain ⟨subId, read⟩ := Option.isSome_iff_exists.mp params
  simp only [RpcService.call, found, MethodCallback.ofUnsubscribe]
  cases cfg : service.cfg with
  | onlyCalls => exact absurd cfg supported
  | callsAndSubscriptions acquire max =>
      simp only [read]
      exact MethodResponse.extensions_response ..

theorem call_unsubscribe_keeps {service : RpcService σ} {req : Request} {remove : SubscriptionKey → σ → Bool × σ}
    (found : service.methods.lookup req.method = some (.ofUnsubscribe remove)) (other : ¬ Unsubscribes service req)
    (extensions : Extensions) (world : σ) : (service.call req extensions world).1.extensions = extensions := by
  simp only [RpcService.call, found, MethodCallback.ofUnsubscribe]
  cases cfg : service.cfg with
  | onlyCalls => rfl
  | callsAndSubscriptions acquire max =>
      cases read : paramsOne req.params with
      | none => rfl
      | some subId =>
          have supported : service.cfg ≠ .onlyCalls := by
            rw [cfg]
            exact nofun
          exact absurd ⟨⟨remove, found⟩, supported, by rw [read]; rfl⟩ other

/-- Whatever the module and the outcome, a response carries the extensions of its call, unless there are any and the
    call unsubscribes. -/
theorem call_extensions_iff (service : RpcService σ) (built : Methods.Built service.methods) (req : Request)
    (extensions : Extensions) (world : σ) :
    (service.call req extensions world).1.extensions = extensions ↔
      ¬ (extensions ≠ ∅ ∧ Unsubscribes service req) := by
  constructor
  · rintro kept ⟨filled, unsubscribes⟩
    exact filled (kept.symm.trans (unsubscribes.extensions_call extensions world))
  · intro good
    by_cases unsubscribes : Unsubscribes service req
    · have empty : extensions = ∅ := by
        by_contra filled
        exact good ⟨filled, unsubscribes⟩
      rw [empty]
      exact unsubscribes.extensions_call ∅ world
    · cases found : service.methods.lookup req.method with
      | none => simp only [RpcService.call, found, MethodResponse.withExtensions]
      | some callback =>
          by_cases unsubscribe : ∃ remove, callback = .ofUnsubscribe remove
          · obtain ⟨remove, rfl⟩ := unsubscribe
            exact call_unsubscribe_keeps found unsubscribes extensions world
          · exact call_keeps_extensions found (built.allRegistered found) (not_exists.mp unsubscribe)

/-- A service with the two methods of a subscription. -/
def ticker : RpcService Unit :=
  { methods := ((∅ : Methods Unit).insert "untick" (.ofUnsubscribe fun _ world => (true, world))).insert "tick"
      (.ofSubscription "tick" { nextId := fun world => (.num 3, world), maxResponseSize := 1024 }
        fun _ _ _ world => (.accepted, world))
    maxResponseBodySize := 1024
    connId := 0
    cfg := .callsAndSubscriptions some 1 }

theorem ticker_built : Methods.Built ticker.methods := by
  have registered : Methods.registerSubscription ∅ "tick" "tick" "untick"
      { nextId := fun world => (.num 3, world), maxResponseSize := 1024 } (fun _ world => (true, world))
      (fun _ _ _ world => (.accepted, world)) = .ok ticker.methods := rfl
  exact .registerSubscription .new registered

theorem call_extensions_tick :
    (ticker.call { id := .number 7, method := "tick", params := none }
      (Finmap.singleton "peer" "10.0.0.1") ()).1.extensions = Finmap.singleton "peer" "10.0.0.1" := by
  refine (call_extensions_iff ticker ticker_built _ _ ()).mpr ?_
  rintro ⟨-, ⟨remove, found⟩, -, -⟩
  rw [ticker, Finmap.lookup_insert] at found
  simp [MethodCallback.ofSubscription, MethodCallback.ofUnsubscribe] at found

/-- The extensions of a call that unsubscribes get lost. -/
theorem unsubscribe_drops_extensions :
    Methods.Built ticker.methods ∧
    (ticker.call { id := .number 7, method := "untick", params := some (.arr [.int 3]) }
      (Finmap.singleton "peer" "10.0.0.1") ()).1.extensions ≠ Finmap.singleton "peer" "10.0.0.1" := by
  refine ⟨ticker_built, ?_⟩
  have unsubscribes : Unsubscribes ticker { id := .number 7, method := "untick", params := some (.arr [.int 3]) } :=
    { method := ⟨_, rfl⟩, supported := nofun, params := rfl }
  rw [unsubscribes.extensions_call]
  exact fun same => absurd (congrArg (Finmap.lookup "peer") same) (by decide)

end Server

end Jsonrpsee
