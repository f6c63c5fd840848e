import Jsonrpsee.Server.Registry

/-! # The registrations that `#[rpc]` renders

The macro checks the names of a description when it renders `into_rpc`; the calls
that it renders check them again, one by one, when they run. Names are checked with
their namespace, aliases as they are written, and the name of a notification is
checked though nothing is registered under it.
-/

namespace Jsonrpsee

namespace Macros

open Server

variable {σ : Type}

/-- A method of the trait, with the closure that is rendered for it. -/
inductive MethodFn (σ : Type) where
  | async (callback : Handler σ Result)
  /-- Not `async`, with the flag `blocking`. -/
  | blocking (callback : Handler σ (Option Result))
  | sync (callback : Handler σ Result)

structure RpcMethod (σ : Type) where
  name : String
  fn : MethodFn σ
  aliases : List String

structure RpcSubscription (σ : Type) where
  name : String
  /-- The content of the `method` field in the notifications, if it is not the name. -/
  notifNameOverride : Option String
  unsubscribe : String
  aliases : List String
  unsubscribeAliases : List String
  /-- Is the method of the trait `async`? -/
  asyncness : Bool
  conn : SubscriptionState σ
  remove : SubscriptionKey → σ → Bool × σ
  callback : SubscriptionHandler σ

structure RpcDescription (σ : Type) where
  /-- Optional prefix for RPC namespace. -/
  nameSpace : Option String
  /-- Optional separator between namespace and method name. Defaults to `_`. -/
  namespaceSeparator : Option String
  methods : List (RpcMethod σ)
  subscriptions : List (RpcSubscription σ)

/-- What has been checked, and what is reported as a compile error. -/
structure Checker where
  registered : List String
  errors : List String
  deriving Repr, DecidableEq

/-- A name that is there already is an error. Of its text only the name is kept. -/
def Checker.check (c : Checker) (name : String) : Checker :=
  if name ∈ c.registered then { c with errors := c.errors ++ [name] }
  else { c with registered := name :: c.registered }

def checkName (name : String) : StateM Checker Unit := modify (Checker.check · name)

namespace RpcDescription

/-- Based on the namespace and separator, renders the full name of the RPC
    method/subscription. -/
def rpcIdentifier (desc : RpcDescription σ) (method : String) : String :=
  match desc.nameSpace with
  | some ns => ns ++ desc.namespaceSeparator.getD "_" ++ method
  | none => method

def renderMethod (desc : RpcDescription σ) (method : RpcMethod σ) : StateM Checker (Operation σ) := do
  let rpcMethodName := desc.rpcIdentifier method.name
  checkName rpcMethodName
  match method.fn with
  | .async callback => return .registerAsyncMethod rpcMethodName callback
  | .blocking callback => return .registerBlockingMethod rpcMethodName callback
  | .sync callback => return .registerMethod rpcMethodName callback

def renderSubscription (desc : RpcDescription σ) (sub : RpcSubscription σ) : StateM Checker (Operation σ) := do
  let rpcSubName := desc.rpcIdentifier sub.name
  let rpcUnsubName := desc.rpcIdentifier sub.unsubscribe
  checkName rpcSubName
  checkName rpcUnsubName
  let rpcNotifName ← match sub.notifNameOverride with
    | some notif => do
        checkName (desc.rpcIdentifier notif)
        pure (desc.rpcIdentifier notif)
    | none => pure rpcSubName
  if sub.asyncness then
    return .registerSubscription rpcSubName rpcNotifName rpcUnsubName sub.conn sub.remove sub.callback
  else return .registerSubscriptionRaw rpcSubName rpcNotifName rpcUnsubName sub.conn sub.remove sub.callback

/-- Aliases of a name. -/
def renderAliases (aliases : List String) (rpcName : String) : StateM Checker (List (Operation σ)) :=
  aliases.mapM fun aliasName => do
    checkName aliasName
    return .registerAlias aliasName rpcName

def renderSubscriptionAliases (desc : RpcDescription σ) (sub : RpcSubscription σ) :
    StateM Checker (List (Operation σ)) := do
  let subAliases ← renderAliases sub.aliases (desc.rpcIdentifier sub.name)
  let unsubAliases ← renderAliases sub.unsubscribeAliases (desc.rpcIdentifier sub.unsubscribe)
  return subAliases ++ unsubAliases

/-- The calls in the order in which `into_rpc` makes them. -/
def renderIntoRpc (desc : RpcDescription σ) : StateM Checker (List (Operation σ)) := do
  let methods ← desc.methods.mapM desc.renderMethod
  let subscriptions ← desc.subscriptions.mapM desc.renderSubscription
  let methodAliases ← desc.methods.mapM fun method => renderAliases method.aliases (desc.rpcIdentifier method.name)
  let subscriptionAliases ← desc.subscriptions.mapM desc.renderSubscriptionAliases
  return methods ++ subscriptions ++ methodAliases.flatten ++ subscriptionAliases.flatten

def rendered (desc : RpcDescription σ) : List (Operation σ) × Checker :=
  desc.renderIntoRpc.run { registered := [], errors := [] }

def calls (desc : RpcDescription σ) : List (Operation σ) := desc.rendered.1

def errors (desc : RpcDescription σ) : List String := desc.rendered.2.errors

end RpcDescription

/-- `handle_register_result`: the result of a call is ignored, or an error panics in
    debug builds. -/
def runCalls (debugAssertions : Bool) : Methods σ → List (Operation σ) → Option (Methods σ)
  | rpc, [] => some rpc
  | rpc, call :: rest =>
      match call.perform.exec rpc with
      | (.ok _, rpc) => runCalls debugAssertions rpc rest
      | (.error _, rpc) => if debugAssertions then none else runCalls debugAssertions rpc rest

/-- `into_rpc`; there is no module when it panics. -/
def RpcDescription.intoRpc (desc : RpcDescription σ) (debugAssertions : Bool) : Option (Methods σ) :=
  runCalls debugAssertions ∅ desc.calls

/-! ## What is checked and what is called -/

namespace Checker

/-- Check one name after the other. -/
def checkAll (c : Checker) (names : List String) : Checker := names.foldl check c

theorem checkAll_append (c : Checker) (names more : List String) :
    c.checkAll (names ++ more) = (c.checkAll names).checkAll more := List.foldl_append

theorem errors_checkAll {c : Checker} {names : List String} :
    (c.checkAll names).errors = [] ↔ c.errors = [] ∧ names.Nodup ∧ ∀ name ∈ names, name ∉ c.registered := by
  induction names generalizing c with
  | nil => simp [checkAll]
  | cons name rest ih =>
      have step : c.checkAll (name :: rest) = (c.check name).checkAll rest := rfl
      rw [step, ih, List.nodup_cons, List.forall_mem_cons]
      by_cases known : name ∈ c.registered
      · simp [check, known]
      · simp only [check, if_neg known, List.mem_cons, not_or]
        constructor
        · rintro ⟨none, distinct, fresh⟩
          exact ⟨none, ⟨fun member => (fresh name member).1 rfl, distinct⟩, known, fun n member => (fresh n member).2⟩
        · rintro ⟨none, ⟨once, distinct⟩, -, fresh⟩
          refine ⟨none, distinct, fun n member => ⟨?_, fresh n member⟩⟩
          rintro rfl
          exact once member

end Checker

/-- Rendering that checks some names and gives something back. -/
def Renders {α : Type} (code : StateM Checker α) (result : α) (names : List String) : Prop :=
  ∀ c : Checker, code.run c = (result, c.checkAll names)

namespace Renders

theorem pure {α : Type} (a : α) : Renders (Pure.pure a) a [] := fun _ => rfl

theorem checkName (name : String) : Renders (checkName name) () [name] := fun _ => rfl

theorem bind {α β : Type} {code : StateM Checker α} {next : α → StateM Checker β} {a : α} {b : β}
    {names more : List String} (first : Renders code a names) (second : Renders (next a) b more) :
    Renders (code >>= next) b (names ++ more) := by
  intro c
  rw [StateT.run_bind, first c]
  exact (second _).trans (by rw [Checker.checkAll_append])

/-- Behind the last check. -/
theorem bind_pure {α β : Type} {code : StateM Checker α} {result : α → β} {a : α} {names : List String}
    (first : Renders code a names) : Renders (code >>= fun a => Pure.pure (result a)) (result a) names := by
  intro c
  rw [StateT.run_bind, first c]
  rfl

theorem mapM {α β : Type} {code : α → StateM Checker β} {result : α → β} {names : α → List String}
    (each : ∀ a, Renders (code a) (result a) (names a)) (as : List α) :
    Renders (as.mapM code) (as.map result) (as.flatMap names) := by
  induction as with
  | nil => exact .pure []
  | cons a rest ih =>
      rw [List.mapM_cons, List.flatMap_cons]
      exact (each a).bind ih.bind_pure

end Renders

namespace RpcDescription

variable (desc : RpcDescription σ)

def methodCall (method : RpcMethod σ) : Operation σ :=
  match method.fn with
  | .async callback => .registerAsyncMethod (desc.rpcIdentifier method.name) callback
  | .blocking callback => .registerBlockingMethod (desc.rpcIdentifier method.name) callback
  | .sync callback => .registerMethod (desc.rpcIdentifier method.name) callback

def notifName (sub : RpcSubscription σ) : String := desc.rpcIdentifier (sub.notifNameOverride.getD sub.name)

def subscriptionCall (sub : RpcSubscription σ) : Operation σ :=
  if sub.asyncness then
    .registerSubscription (desc.rpcIdentifier sub.name) (desc.notifName sub) (desc.rpcIdentifier sub.unsubscribe)
      sub.conn sub.remove sub.callback
  else
    .registerSubscriptionRaw (desc.rpcIdentifier sub.name) (desc.notifName sub) (desc.rpcIdentifier sub.unsubscribe)
      sub.conn sub.remove sub.callback

def aliasCalls (aliases : List String) (rpcName : String) : List (Operation σ) :=
  aliases.map fun aliasName => .registerAlias aliasName rpcName

/-- The calls that register callbacks of their own. -/
def firstCalls : List (Operation σ) := desc.methods.map desc.methodCall ++ desc.subscriptions.map desc.subscriptionCall

/-- The calls that register aliases of them. -/
def laterCalls : List (Operation σ) :=
  desc.methods.flatMap (fun method => aliasCalls method.aliases (desc.rpcIdentifier method.name)) ++
    desc.subscriptions.flatMap fun sub =>
      aliasCalls sub.aliases (desc.rpcIdentifier sub.name) ++
        aliasCalls sub.unsubscribeAliases (desc.rpcIdentifier sub.unsubscribe)

def subscriptionNames (sub : RpcSubscription σ) : List String :=
  [desc.rpcIdentifier sub.name, desc.rpcIdentifier sub.unsubscribe]

def aliasNames : List String :=
  desc.methods.flatMap RpcMethod.aliases ++ desc.subscriptions.flatMap fun sub => sub.aliases ++ sub.unsubscribeAliases

/-- The names of the module: those of methods and subscriptions with their namespace,
    and the aliases. -/
def names : List String :=
  desc.methods.map (fun method => desc.rpcIdentifier method.name) ++
    desc.subscriptions.flatMap desc.subscriptionNames ++ desc.aliasNames

/-- As above, with the names of notifications. -/
def checkedNames : List String :=
  desc.methods.map (fun method => desc.rpcIdentifier method.name) ++
    desc.subscriptions.flatMap (fun sub =>
      desc.subscriptionNames sub ++ (sub.notifNameOverride.map desc.rpcIdentifier).toList) ++ desc.aliasNames

theorem renders_method (method : RpcMethod σ) :
    Renders (desc.renderMethod method) (desc.methodCall method) [desc.rpcIdentifier method.name] := by
  unfold renderMethod methodCall
  cases method.fn <;> exact (Renders.checkName _).bind_pure

theorem renders_subscription (sub : RpcSubscription σ) :
    Renders (desc.renderSubscription sub) (desc.subscriptionCall sub)
      (desc.subscriptionNames sub ++ (sub.notifNameOverride.map desc.rpcIdentifier).toList) := by
  unfold renderSubscription subscriptionCall notifName
  intro c
  cases sub.notifNameOverride <;> cases sub.asyncness <;> rfl

theorem renders_aliases (aliases : List String) (rpcName : String) :
    Renders (renderAliases aliases rpcName) (aliasCalls aliases rpcName : List (Operation σ)) aliases := by
  have each : ∀ aliasName, Renders
      (checkName aliasName >>= fun _ => pure (.registerAlias aliasName rpcName : Operation σ))
      (.registerAlias aliasName rpcName) [aliasName] := fun aliasName => (Renders.checkName aliasName).bind_pure
  have all := Renders.mapM each aliases
  rwa [List.flatMap_singleton'] at all

theorem renders_subscriptionAliases (sub : RpcSubscription σ) :
    Renders (desc.renderSubscriptionAliases sub)
      (aliasCalls sub.aliases (desc.rpcIdentifier sub.name) ++
        aliasCalls sub.unsubscribeAliases (desc.rpcIdentifier sub.unsubscribe))
      (sub.aliases ++ sub.unsubscribeAliases) :=
  (renders_aliases sub.aliases _).bind (renders_aliases sub.unsubscribeAliases _).bind_pure

theorem renders_intoRpc : Renders desc.renderIntoRpc (desc.firstCalls ++ desc.laterCalls) desc.checkedNames := by
  have methods := Renders.mapM desc.renders_method desc.methods
  have subscriptions := Renders.mapM desc.renders_subscription desc.subscriptions
  have methodAliases := Renders.mapM (fun method : RpcMethod σ =>
    @renders_aliases σ method.aliases (desc.rpcIdentifier method.name)) desc.methods
  have subscriptionAliases := Renders.mapM desc.renders_subscriptionAliases desc.subscriptions
  have calls : desc.firstCalls ++ desc.laterCalls = desc.methods.map desc.methodCall ++
      desc.subscriptions.map desc.subscriptionCall ++
      (desc.methods.map fun method => aliasCalls method.aliases (desc.rpcIdentifier method.name)).flatten ++
      (desc.subscriptions.map fun sub => aliasCalls sub.aliases (desc.rpcIdentifier sub.name) ++
        aliasCalls sub.unsubscribeAliases (desc.rpcIdentifier sub.unsubscribe)).flatten := by
    simp only [firstCalls, laterCalls, List.flatMap_def, List.append_assoc]
  have names : desc.checkedNames = desc.methods.flatMap (fun method => [desc.rpcIdentifier method.name]) ++
      (desc.subscriptions.flatMap (fun sub =>
        desc.subscriptionNames sub ++ (sub.notifNameOverride.map desc.rpcIdentifier).toList) ++
      (desc.methods.flatMap RpcMethod.aliases ++
        desc.subscriptions.flatMap fun sub => sub.aliases ++ sub.unsubscribeAliases)) := by
    simp only [checkedNames, aliasNames, List.append_assoc, List.map_eq_flatMap]
  rw [calls, names]
  exact methods.bind (subscriptions.bind (methodAliases.bind subscriptionAliases.bind_pure))

theorem calls_eq : desc.calls = desc.firstCalls ++ desc.laterCalls := congrArg Prod.fst (desc.renders_intoRpc _)

/-- The macro reports nothing exactly when all names that it checks are different. -/
theorem errors_eq_nil_iff : desc.errors = [] ↔ desc.checkedNames.Nodup := by
  have run : desc.rendered.2 = Checker.checkAll { registered := [], errors := [] } desc.checkedNames :=
    congrArg Prod.snd (desc.renders_intoRpc _)
  rw [errors, run, Checker.errors_checkAll]
  simp

theorem names_sublist : desc.names.Sublist desc.checkedNames := by
  refine (List.Sublist.append_left ?_ _).append_right _
  induction desc.subscriptions with
  | nil => exact .slnil
  | cons sub rest ih =>
      rw [List.flatMap_cons, List.flatMap_cons]
      exact (List.sublist_append_left _ _).append ih

end RpcDescription

/-! ## Running the calls -/

/-- Registers callbacks under new names. -/
def isRegistration : Operation σ → Bool
  | .merge _ | .removeMethod _ => false
  | _ => true

/-- The method that an alias stands for. -/
def existing : Operation σ → Option String
  | .registerAlias _ existingMethod => some existingMethod
  | _ => none

theorem perform_ok {call : Operation σ} {rpc : Methods σ} (registers : isRegistration call = true)
    (distinct : call.names.Nodup) (free : ∀ name ∈ call.names, rpc.lookup name = none)
    (known : ∀ name, existing call = some name → (rpc.lookup name).isSome = true) :
    (call.perform.exec rpc).1 = .ok () := by
  cases call with
  | registerMethod name callback | registerAsyncMethod name callback | registerBlockingMethod name callback =>
      exact congrArg Prod.fst (RpcModule.exec_verifyAndInsert_free (free name List.mem_cons_self))
  | registerSubscription subscribe notif unsubscribe conn remove handler
  | registerSubscriptionRaw subscribe notif unsubscribe conn remove handler =>
      have apart : subscribe ≠ unsubscribe := by simpa [Operation.names] using distinct
      exact congrArg Prod.fst (RpcModule.exec_subscription_free apart (free subscribe (by simp [Operation.names]))
        (free unsubscribe (by simp [Operation.names])))
  | registerAlias aliasName existingMethod =>
      obtain ⟨callback, found⟩ := Option.isSome_iff_exists.mp (known existingMethod rfl)
      exact congrArg Prod.fst (RpcModule.exec_registerAlias_known (free aliasName List.mem_cons_self) found)
  | merge | removeMethod => cases registers

/-- Registrations of different names, which are free; what is given an alias is known
    by then. -/
structure Registrable (rpc : Methods σ) (calls : List (Operation σ)) : Prop where
  registers : ∀ call ∈ calls, isRegistration call = true
  distinct : (calls.flatMap Operation.names).Nodup
  free : ∀ name ∈ calls.flatMap Operation.names, rpc.lookup name = none
  known : ∀ before call after, calls = before ++ call :: after → ∀ name, existing call = some name →
    (rpc.lookup name).isSome = true ∨ name ∈ before.flatMap Operation.names

theorem lookup_perform {call : Operation σ} {rpc : Methods σ} (registers : isRegistration call = true)
    (ok : (call.perform.exec rpc).1 = .ok ()) (name : String) :
    ((call.perform.exec rpc).2.lookup name).isSome = true ↔ (rpc.lookup name).isSome = true ∨ name ∈ call.names := by
  have lawful := Operation.lawful_perform call rpc
  by_cases given : name ∈ call.names
  · obtain ⟨-, callback, -, found⟩ := lawful.added ok name given
    rw [found]
    exact iff_of_true rfl (.inr given)
  · have stays : call.removes name = false := by
      cases call with
      | removeMethod => cases registers
      | _ => rfl
    rw [lawful.kept ok name given, stays]
    simp [given]

theorem Registrable.tail {rpc : Methods σ} {call : Operation σ} {rest : List (Operation σ)}
    (registrable : Registrable rpc (call :: rest)) : (call.perform.exec rpc).1 = .ok () ∧
      Registrable (call.perform.exec rpc).2 rest := by
  obtain ⟨registers, distinct, free, known⟩ := registrable
  rw [List.flatMap_cons, List.nodup_append] at distinct
  rw [List.flatMap_cons] at free
  obtain ⟨first, later⟩ := List.forall_mem_cons.mp registers
  have aliased : ∀ name, existing call = some name → (rpc.lookup name).isSome = true := by
    intro name stands
    simpa using known [] call rest rfl name stands
  have ok := perform_ok first distinct.1 (fun name member => free name (List.mem_append_left _ member)) aliased
  refine ⟨ok, later, distinct.2.1, fun name member => ?_, fun before call' after shape name stands => ?_⟩
  · have unbound : ¬ ((call.perform.exec rpc).2.lookup name).isSome = true := by
      rw [lookup_perform first ok, free name (List.mem_append_right _ member)]
      rintro (bound | given)
      · cases bound
      · exact distinct.2.2 name given name member rfl
    exact Option.not_isSome_iff_eq_none.mp unbound
  · rw [lookup_perform first ok name]
    have earlier := known (call :: before) call' after (by rw [shape, List.cons_append]) name stands
    rwa [List.flatMap_cons, List.mem_append, ← or_assoc] at earlier

theorem Registrable.runs {rpc : Methods σ} {calls : List (Operation σ)} (registrable : Registrable rpc calls) :
    (∀ step ∈ history rpc calls, step.result = .ok ()) ∧
    (∀ debugAssertions, runCalls debugAssertions rpc calls = some (performAll rpc calls)) ∧
    ∀ name, ((performAll rpc calls).lookup name).isSome = true ↔
      (rpc.lookup name).isSome = true ∨ name ∈ calls.flatMap Operation.names := by
  induction calls generalizing rpc with
  | nil =>
      refine ⟨fun step member => ?_, fun _ => rfl, fun name => ?_⟩
      · cases member
      · simp [performAll]
  | cons call rest ih =>
      obtain ⟨ok, later⟩ := registrable.tail
      obtain ⟨results, runs, found⟩ := ih later
      refine ⟨fun step member => ?_, fun debugAssertions => ?_, fun name => ?_⟩
      · rcases List.mem_cons.mp member with rfl | behind
        · exact ok
        · exact results step behind
      · have shape : call.perform.exec rpc = (.ok (), (call.perform.exec rpc).2) := Prod.ext ok rfl
        rw [runCalls, shape]
        exact runs debugAssertions
      · have first := lookup_perform (registrable.registers call List.mem_cons_self) ok name
        have step : performAll rpc (call :: rest) = performAll (call.perform.exec rpc).2 rest := rfl
        rw [step, found, first, List.flatMap_cons, List.mem_append, or_assoc]

namespace RpcDescription

variable (desc : RpcDescription σ)

theorem names_methodCall (method : RpcMethod σ) :
    (desc.methodCall method).names = [desc.rpcIdentifier method.name] := by
  unfold methodCall
  cases method.fn <;> rfl

theorem names_subscriptionCall (sub : RpcSubscription σ) :
    (desc.subscriptionCall sub).names = desc.subscriptionNames sub := by
  unfold subscriptionCall
  cases sub.asyncness <;> rfl

theorem names_aliasCalls (aliases : List String) (rpcName : String) :
    (aliasCalls aliases rpcName : List (Operation σ)).flatMap Operation.names = aliases := by
  rw [aliasCalls, List.flatMap_map]
  exact List.flatMap_singleton' aliases

theorem names_firstCalls : desc.firstCalls.flatMap Operation.names =
    desc.methods.map (fun method => desc.rpcIdentifier method.name) ++
      desc.subscriptions.flatMap desc.subscriptionNames := by
  rw [firstCalls, List.flatMap_append, List.flatMap_map, List.flatMap_map]
  simp only [names_methodCall, names_subscriptionCall, List.map_eq_flatMap]

theorem names_laterCalls : desc.laterCalls.flatMap Operation.names = desc.aliasNames := by
  rw [laterCalls, List.flatMap_append, List.flatMap_assoc, List.flatMap_assoc]
  simp only [List.flatMap_append, names_aliasCalls]
  rfl

theorem registration_of_first {call : Operation σ} (member : call ∈ desc.firstCalls) :
    isRegistration call = true ∧ existing call = none := by
  rcases List.mem_append.mp member with inMethods | inSubs
  · obtain ⟨method, -, rfl⟩ := List.mem_map.mp inMethods
    unfold methodCall
    cases method.fn <;> exact ⟨rfl, rfl⟩
  · obtain ⟨sub, -, rfl⟩ := List.mem_map.mp inSubs
    unfold subscriptionCall
    cases sub.asyncness <;> exact ⟨rfl, rfl⟩

theorem registration_of_alias {aliases : List String} {rpcName : String} {call : Operation σ}
    (member : call ∈ aliasCalls aliases rpcName) : isRegistration call = true ∧ existing call = some rpcName := by
  obtain ⟨aliasName, -, rfl⟩ := List.mem_map.mp member
  exact ⟨rfl, rfl⟩

/-- An alias stands for a method or a subscription of the description. -/
theorem registration_of_later {call : Operation σ} (member : call ∈ desc.laterCalls) :
    isRegistration call = true ∧ ∃ name ∈ desc.firstCalls.flatMap Operation.names, existing call = some name := by
  rw [names_firstCalls]
  rcases List.mem_append.mp member with ofMethod | ofSub
  · obtain ⟨method, here, named⟩ := List.mem_flatMap.mp ofMethod
    obtain ⟨registers, stands⟩ := registration_of_alias named
    exact ⟨registers, _, List.mem_append_left _ (List.mem_map_of_mem here), stands⟩
  · obtain ⟨sub, here, named⟩ := List.mem_flatMap.mp ofSub
    rcases List.mem_append.mp named with subAlias | unsubAlias
    · obtain ⟨registers, stands⟩ := registration_of_alias subAlias
      refine ⟨registers, _, List.mem_append_right _ (List.mem_flatMap.mpr ⟨sub, here, ?_⟩), stands⟩
      exact List.mem_cons_self
    · obtain ⟨registers, stands⟩ := registration_of_alias unsubAlias
      refine ⟨registers, _, List.mem_append_right _ (List.mem_flatMap.mpr ⟨sub, here, ?_⟩), stands⟩
      exact List.mem_cons_of_mem _ List.mem_cons_self

theorem registration_of_call {call : Operation σ} (member : call ∈ desc.calls) : isRegistration call = true := by
  rw [calls_eq] at member
  rcases List.mem_append.mp member with first | later
  · exact (desc.registration_of_first first).1
  · exact (desc.registration_of_later later).1

theorem names_calls : desc.calls.flatMap Operation.names = desc.names := by
  rw [calls_eq, List.flatMap_append, names_firstCalls, names_laterCalls]
  rfl

theorem registrable_calls (clean : desc.errors = []) : Registrable ∅ desc.calls where
  registers := fun _ => desc.registration_of_call
  distinct := by
    rw [names_calls]
    exact (desc.errors_eq_nil_iff.mp clean).sublist desc.names_sublist
  free := fun _ _ => Finmap.lookup_empty _
  known := by
    intro before call after shape name stands
    rw [calls_eq] at shape
    refine .inr ?_
    -- A call that is made for an alias comes behind all calls of the first kind.
    rcases List.append_eq_append_iff.mp shape with ⟨between, rfl, later⟩ | ⟨between, first, behind⟩
    · have member : call ∈ desc.laterCalls := by
        rw [later]
        exact List.mem_append_right _ List.mem_cons_self
      obtain ⟨-, name', known, same⟩ := desc.registration_of_later member
      cases stands.symm.trans same
      rw [List.flatMap_append]
      exact List.mem_append_left _ known
    · cases between with
      | nil =>
          have member : call ∈ desc.laterCalls := by
            rw [List.nil_append] at behind
            rw [← behind]
            exact List.mem_cons_self
          obtain ⟨-, name', known, same⟩ := desc.registration_of_later member
          cases stands.symm.trans same
          rwa [first, List.append_nil] at known
      | cons other rest =>
          rw [List.cons_append, List.cons.injEq] at behind
          have member : call ∈ desc.firstCalls := by
            rw [first, behind.1]
            exact List.mem_append_right _ List.mem_cons_self
          cases stands.symm.trans (desc.registration_of_first member).2

end RpcDescription

/-- Whatever its calls return, `into_rpc` puts a module together. -/
theorem built_runCalls {debugAssertions : Bool} {rpc rpc' : Methods σ} {calls : List (Operation σ)}
    (built : rpc.Built) (registers : ∀ call ∈ calls, isRegistration call = true)
    (returned : runCalls debugAssertions rpc calls = some rpc') : rpc'.Built := by
  induction calls generalizing rpc with
  | nil =>
      cases returned
      exact built
  | cons call rest ih =>
      obtain ⟨first, later⟩ := List.forall_mem_cons.mp registers
      have next : Methods.Built (call.perform.exec rpc).2 := by
        refine call.built_perform built ?_
        rintro other rfl
        cases first
      rw [runCalls] at returned
      cases ran : call.perform.exec rpc with
      | mk result after =>
          rw [ran] at next returned
          cases result with
          | ok done => exact ih next later returned
          | error e =>
              obtain ⟨-, returned⟩ := Option.ite_none_left_eq_some.mp returned
              exact ih next later returned

theorem RpcDescription.built_intoRpc (desc : RpcDescription σ) {debugAssertions : Bool} {rpc : Methods σ}
    (returned : desc.intoRpc debugAssertions = some rpc) : rpc.Built :=
  built_runCalls .new (fun _ => desc.registration_of_call) returned

/-- When the macro reports no error, all registrations of `into_rpc` succeed, and put
    together a module that has exactly the names of the description; when two of these
    names are the same, it reports an error. -/
theorem into_rpc_names (desc : RpcDescription σ) :
    (desc.errors = [] →
      (∀ step ∈ history ∅ desc.calls, step.result = .ok ()) ∧
      ∀ debugAssertions, ∃ rpc, desc.intoRpc debugAssertions = some rpc ∧ rpc.Built ∧
        ∀ name, (rpc.lookup name).isSome = true ↔ name ∈ desc.names) ∧
    (¬ desc.names.Nodup → desc.errors ≠ []) := by
  constructor
  · intro clean
    obtain ⟨results, runs, found⟩ := (desc.registrable_calls clean).runs
    refine ⟨results, fun debugAssertions =>
      ⟨_, runs debugAssertions, desc.built_intoRpc (runs debugAssertions), fun name => ?_⟩⟩
    rw [found, desc.names_calls, Finmap.lookup_empty]
    simp
  · intro twice clean
    exact twice ((desc.errors_eq_nil_iff.mp clean).sublist desc.names_sublist)

/-- A namespace with a method, a subscription and an alias of each. -/
theorem into_rpc_names_state :
    let getKeys : RpcMethod Unit :=
      { name := "getKeys"
        fn := .sync fun _ _ world => (.payload (.success .null) none, world)
        aliases := ["getKeys"] }
    let subscribe : RpcSubscription Unit :=
      { name := "subscribe"
        notifNameOverride := some "item"
        unsubscribe := "unsubscribe"
        aliases := []
        unsubscribeAliases := ["stop"]
        asyncness := true
        conn := { nextId := fun world => (.num 0, world), maxResponseSize := 100 }
        remove := fun _ world => (false, world)
        callback := fun _ _ _ world => (.accepted, world) }
    let desc : RpcDescription Unit :=
      { nameSpace := some "state"
        namespaceSeparator := none
        methods := [getKeys]
        subscriptions := [subscribe] }
    desc.errors = [] ∧ desc.names = ["state_getKeys", "state_subscribe", "state_unsubscribe", "getKeys", "stop"] ∧
      ∃ rpc, desc.intoRpc true = some rpc ∧ rpc.Built ∧ ∀ name, (rpc.lookup name).isSome = true ↔ name ∈ desc.names := by
  intro getKeys subscribe desc
  have clean : desc.errors = [] := by decide
  exact ⟨clean, by decide, ((into_rpc_names desc).1 clean).2 true⟩

end Macros

end Jsonrpsee
