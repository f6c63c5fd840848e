import Mathlib.Data.List.AList
import Jsonrpsee.Server.RpcModule

/-! # The registry of methods

The operations of `RpcModule` change its table of callbacks in place: what one of
them has inserted before it fails stays inserted. Here they run on a table that is
kept when they fail, so that it is a theorem that they leave nothing behind.
-/

namespace Jsonrpsee

namespace Server

variable {σ : Type}

/-- Code that works on the table of callbacks and may return early. -/
abbrev Registering (σ : Type) := ExceptT RegisterMethodError (StateM (Methods σ))

def Registering.exec {α : Type} (code : Registering σ α) (methods : Methods σ) :
    Except RegisterMethodError α × Methods σ :=
  code.run.run methods

namespace RpcModule

def verifyMethodName (name : String) : Registering σ Unit := do
  if ((← get).lookup name).isSome then throw (.alreadyRegistered name)

def verifyAndInsert (name : String) (callback : MethodCallback σ) : Registering σ Unit := do
  match (← get).lookup name with
  | some _ => throw (.alreadyRegistered name)
  | none => modify (Finmap.insert name callback)

def registerMethod (name : String) (callback : Handler σ Result) : Registering σ Unit :=
  verifyAndInsert name (.ofMethod callback)

def registerAsyncMethod (name : String) (callback : Handler σ Result) : Registering σ Unit :=
  verifyAndInsert name (.ofAsyncMethod callback)

def registerBlockingMethod (name : String) (callback : Handler σ (Option Result)) : Registering σ Unit :=
  verifyAndInsert name (.ofBlockingMethod callback)

def verifyAndRegisterUnsubscribe (subscribe unsubscribe : String) (remove : SubscriptionKey → σ → Bool × σ) :
    Registering σ Unit :=
  if subscribe = unsubscribe then throw (.subscriptionNameConflict subscribe)
  else do
    verifyMethodName subscribe
    verifyMethodName unsubscribe
    modify (Finmap.insert unsubscribe (.ofUnsubscribe remove))

/-- `register_subscription` inserts the same two callbacks, but for what the first one
    does with its handler. -/
def registerSubscriptionRaw (subscribe notif unsubscribe : String) (conn : SubscriptionState σ)
    (remove : SubscriptionKey → σ → Bool × σ) (callback : SubscriptionHandler σ) : Registering σ Unit := do
  verifyAndRegisterUnsubscribe subscribe unsubscribe remove
  verifyAndInsert subscribe (.ofSubscription notif conn callback)

def registerAlias (aliasName existingMethod : String) : Registering σ Unit := do
  verifyMethodName aliasName
  match (← get).lookup existingMethod with
  | some callback => modify (Finmap.insert aliasName callback)
  | none => throw (.methodNotFound existingMethod)

/-- The other module, in the order in which its table is iterated. -/
def merge (other : AList fun _ : String => MethodCallback σ) : Registering σ Unit := do
  other.keys.forM verifyMethodName
  other.entries.forM fun entry => modify (Finmap.insert entry.1 entry.2)

def removeMethod (name : String) : Registering σ Unit := modify (Finmap.erase name)

end RpcModule

/-- The operations on a module. -/
inductive Operation (σ : Type) where
  | registerMethod (name : String) (callback : Handler σ Result)
  | registerAsyncMethod (name : String) (callback : Handler σ Result)
  | registerBlockingMethod (name : String) (callback : Handler σ (Option Result))
  | registerSubscription (subscribe notif unsubscribe : String) (conn : SubscriptionState σ)
      (remove : SubscriptionKey → σ → Bool × σ) (callback : SubscriptionHandler σ)
  | registerSubscriptionRaw (subscribe notif unsubscribe : String) (conn : SubscriptionState σ)
      (remove : SubscriptionKey → σ → Bool × σ) (callback : SubscriptionHandler σ)
  | registerAlias (aliasName existingMethod : String)
  | merge (other : AList fun _ : String => MethodCallback σ)
  | removeMethod (name : String)

namespace Operation

def perform : Operation σ → Registering σ Unit
  | .registerMethod name callback => RpcModule.registerMethod name callback
  | .registerAsyncMethod name callback => RpcModule.registerAsyncMethod name callback
  | .registerBlockingMethod name callback => RpcModule.registerBlockingMethod name callback
  | .registerSubscription subscribe notif unsubscribe conn remove callback
  | .registerSubscriptionRaw subscribe notif unsubscribe conn remove callback =>
      RpcModule.registerSubscriptionRaw subscribe notif unsubscribe conn remove callback
  | .registerAlias aliasName existingMethod => RpcModule.registerAlias aliasName existingMethod
  | .merge other => RpcModule.merge other
  | .removeMethod name => RpcModule.removeMethod name

/-- The names that the operation is given. -/
def names : Operation σ → List String
  | .registerMethod name _ | .registerAsyncMethod name _ | .registerBlockingMethod name _ => [name]
  | .registerSubscription subscribe _ unsubscribe _ _ _ | .registerSubscriptionRaw subscribe _ unsubscribe _ _ _ =>
      [subscribe, unsubscribe]
  | .registerAlias aliasName _ => [aliasName]
  | .merge other => other.keys
  | .removeMethod _ => []

/-- The callback that the operation has for a name, on the module as it is. -/
def callback (methods : Methods σ) (name : String) : Operation σ → Option (MethodCallback σ)
  | .registerMethod _ callback => some (.ofMethod callback)
  | .registerAsyncMethod _ callback => some (.ofAsyncMethod callback)
  | .registerBlockingMethod _ callback => some (.ofBlockingMethod callback)
  | .registerSubscription subscribe notif _ conn remove callback
  | .registerSubscriptionRaw subscribe notif _ conn remove callback =>
      if name = subscribe then some (.ofSubscription notif conn callback) else some (.ofUnsubscribe remove)
  | .registerAlias _ existingMethod => methods.lookup existingMethod
  | .merge other => other.lookup name
  | .removeMethod _ => none

/-- Only `remove_method` takes a name off. -/
def removes (name : String) : Operation σ → Bool
  | .removeMethod removed => removed = name
  | _ => false

end Operation

/-! ## Running the code -/

namespace Registering

variable {α β : Type} {code : Registering σ α} {next : α → Registering σ β} {methods after : Methods σ}

theorem exec_bind {a : α} (ran : code.exec methods = (.ok a, after)) :
    (code >>= next).exec methods = (next a).exec after := by
  simp only [exec, ExceptT.run_bind, StateT.run_bind] at ran ⊢
  rw [ran]
  rfl

theorem exec_bind_error {e : RegisterMethodError} (ran : code.exec methods = (.error e, after)) :
    (code >>= next).exec methods = (.error e, after) := by
  simp only [exec, ExceptT.run_bind, StateT.run_bind] at ran ⊢
  rw [ran]
  rfl

theorem exec_get : (get : Registering σ (Methods σ)).exec methods = (.ok methods, methods) := rfl

theorem exec_modify {change : Methods σ → Methods σ} :
    (modify change : Registering σ Unit).exec methods = (.ok (), change methods) := rfl

end Registering

namespace RpcModule

open Registering

variable {methods : Methods σ} {name : String} {callback old : MethodCallback σ}

theorem exec_verifyMethodName_free (free : methods.lookup name = none) :
    (verifyMethodName name).exec methods = (.ok (), methods) := by
  rw [verifyMethodName, exec_bind exec_get, free]
  rfl

theorem exec_verifyMethodName_taken (taken : methods.lookup name = some old) :
    (verifyMethodName name).exec methods = (.error (.alreadyRegistered name), methods) := by
  rw [verifyMethodName, exec_bind exec_get, taken]
  rfl

theorem exec_verifyAndInsert_free (free : methods.lookup name = none) :
    (verifyAndInsert name callback).exec methods = (.ok (), methods.insert name callback) := by
  rw [verifyAndInsert, exec_bind exec_get, free]
  rfl

theorem exec_verifyAndInsert_taken (taken : methods.lookup name = some old) :
    (verifyAndInsert name callback).exec methods = (.error (.alreadyRegistered name), methods) := by
  rw [verifyAndInsert, exec_bind exec_get, taken]
  rfl

theorem exec_registerAlias_known {aliasName existingMethod : String} (free : methods.lookup aliasName = none)
    (known : methods.lookup existingMethod = some callback) :
    (registerAlias aliasName existingMethod).exec methods = (.ok (), methods.insert aliasName callback) := by
  rw [registerAlias, exec_bind (exec_verifyMethodName_free free), exec_bind exec_get, known]
  rfl

theorem exec_registerAlias_unknown {aliasName existingMethod : String} (free : methods.lookup aliasName = none)
    (unknown : methods.lookup existingMethod = none) :
    (registerAlias aliasName existingMethod).exec methods = (.error (.methodNotFound existingMethod), methods) := by
  rw [registerAlias, exec_bind (exec_verifyMethodName_free free), exec_bind exec_get, unknown]
  rfl

section Subscriptions

variable {subscribe notif unsubscribe : String} {conn : SubscriptionState σ}
  {remove : SubscriptionKey → σ → Bool × σ} {handler : SubscriptionHandler σ}

theorem exec_unsubscribe_free (apart : subscribe ≠ unsubscribe) (free : methods.lookup subscribe = none)
    (freeToo : methods.lookup unsubscribe = none) :
    (verifyAndRegisterUnsubscribe subscribe unsubscribe remove).exec methods =
      (.ok (), methods.insert unsubscribe (.ofUnsubscribe remove)) := by
  rw [verifyAndRegisterUnsubscribe, if_neg apart, exec_bind (exec_verifyMethodName_free free),
    exec_bind (exec_verifyMethodName_free freeToo)]
  rfl

/-- The unsubscribe method is inserted before the name of the subscribe method is
    looked at again; it is still free then. -/
theorem exec_subscription_free (apart : subscribe ≠ unsubscribe) (free : methods.lookup subscribe = none)
    (freeToo : methods.lookup unsubscribe = none) :
    (registerSubscriptionRaw subscribe notif unsubscribe conn remove handler).exec methods =
      (.ok (), (methods.insert unsubscribe (.ofUnsubscribe remove)).insert subscribe
        (.ofSubscription notif conn handler)) := by
  have still : (methods.insert unsubscribe (.ofUnsubscribe remove)).lookup subscribe = none := by
    rw [Table.lookup_insert_ite, if_neg apart, free]
  rw [registerSubscriptionRaw, exec_bind (exec_unsubscribe_free apart free freeToo), exec_verifyAndInsert_free still]

/-- The checks fail before anything is inserted, and as they do on a table that is given
    back as a whole. -/
theorem exec_unsubscribe_refused
    (refused : subscribe = unsubscribe ∨ (methods.lookup subscribe).isSome ∨ (methods.lookup unsubscribe).isSome) :
    ∃ e, (verifyAndRegisterUnsubscribe subscribe unsubscribe remove).exec methods = (.error e, methods) ∧
      methods.verifyAndRegisterUnsubscribe subscribe unsubscribe remove = .error e := by
  rw [verifyAndRegisterUnsubscribe, Methods.verifyAndRegisterUnsubscribe]
  by_cases apart : subscribe = unsubscribe
  · rw [if_pos apart, if_pos apart]
    exact ⟨.subscriptionNameConflict subscribe, rfl, rfl⟩
  · rw [if_neg apart, if_neg apart, Methods.verifyMethodName, Methods.verifyMethodName]
    cases first : methods.lookup subscribe with
    | some old => exact ⟨_, exec_bind_error (exec_verifyMethodName_taken first), rfl⟩
    | none =>
        cases second : methods.lookup unsubscribe with
        | some old =>
            rw [exec_bind (exec_verifyMethodName_free first)]
            exact ⟨_, exec_bind_error (exec_verifyMethodName_taken second), rfl⟩
        | none =>
            rw [first, second] at refused
            rcases refused with same | taken | taken
            · exact absurd same apart
            · cases taken
            · cases taken

theorem exec_subscription_refused
    (refused : subscribe = unsubscribe ∨ (methods.lookup subscribe).isSome ∨ (methods.lookup unsubscribe).isSome) :
    ∃ e, (registerSubscriptionRaw subscribe notif unsubscribe conn remove handler).exec methods =
      (.error e, methods) := by
  obtain ⟨e, early, -⟩ := exec_unsubscribe_refused refused
  exact ⟨e, exec_bind_error early⟩

end Subscriptions

section Merging

theorem exec_verify_all {names : List String} (free : ∀ name ∈ names, methods.lookup name = none) :
    (names.forM verifyMethodName).exec methods = (.ok (), methods) := by
  induction names with
  | nil => rfl
  | cons name rest ih =>
      obtain ⟨here, later⟩ := List.forall_mem_cons.mp free
      rw [List.forM_eq_forM, List.forM_cons, exec_bind (exec_verifyMethodName_free here)]
      exact ih later

theorem exec_verify_some {names : List String} (taken : ∃ name ∈ names, (methods.lookup name).isSome) :
    ∃ e, (names.forM verifyMethodName).exec methods = (.error e, methods) := by
  induction names with
  | nil =>
      obtain ⟨name, member, -⟩ := taken
      cases member
  | cons name rest ih =>
      rw [List.forM_eq_forM, List.forM_cons]
      cases found : methods.lookup name with
      | some old => exact ⟨_, exec_bind_error (exec_verifyMethodName_taken found)⟩
      | none =>
          rw [exec_bind (exec_verifyMethodName_free found)]
          refine ih ?_
          obtain ⟨other, member, isTaken⟩ := taken
          rcases List.mem_cons.mp member with rfl | later
          · rw [found] at isTaken
            cases isTaken
          · exact ⟨other, later, isTaken⟩

/-- Moving the entries of the other table over. -/
theorem exec_insert_all {entries : List (Sigma fun _ : String => MethodCallback σ)} (distinct : entries.NodupKeys) :
    ∃ after, (entries.forM fun entry => (modify (Finmap.insert entry.1 entry.2) : Registering σ Unit)).exec methods =
        (.ok (), after) ∧
      ∀ name, after.lookup name = (entries.dlookup name).or (methods.lookup name) := by
  induction entries generalizing methods with
  | nil => exact ⟨methods, rfl, fun name => by rw [List.dlookup_nil, Option.none_or]⟩
  | cons entry rest ih =>
      obtain ⟨name, callback⟩ := entry
      obtain ⟨fresh, others⟩ := List.nodupKeys_cons.mp distinct
      obtain ⟨after, ran, found⟩ := @ih (methods.insert name callback) others
      refine ⟨after, ?_, fun name' => ?_⟩
      · rw [List.forM_eq_forM, List.forM_cons, exec_bind exec_modify]
        exact ran
      · rw [found, Table.lookup_insert_ite]
        by_cases same : name' = name
        · subst same
          rw [if_pos rfl, List.dlookup_cons_eq, List.dlookup_eq_none.mpr fresh]
          rfl
        · rw [if_neg same, List.dlookup_cons_ne rest ⟨name, callback⟩ same]

end Merging

end RpcModule

/-! ## What an operation does -/

/-- What an operation may do to a module. -/
structure Operation.Lawful (op : Operation σ) (before : Methods σ) (result : Except RegisterMethodError Unit)
    (after : Methods σ) : Prop where
  /-- A failed one does nothing. -/
  failed : ∀ e, result = .error e → after = before
  /-- All names that it is given were free, and have their callbacks now. -/
  added : result = .ok () → ∀ name ∈ op.names, before.lookup name = none ∧
    ∃ callback, op.callback before name = some callback ∧ after.lookup name = some callback
  kept : result = .ok () → ∀ name ∉ op.names,
    after.lookup name = if op.removes name then none else before.lookup name
  merged : ∀ other, op = .merge other →
    (result = .ok () ↔ Finmap.Disjoint before other.toFinmap) ∧
      (result = .ok () → after = before ∪ other.toFinmap)

namespace Operation

variable {op : Operation σ} {before : Methods σ}

/-- Does the operation merge another module? -/
def isMerge : Operation σ → Bool
  | .merge _ => true
  | _ => false

theorem Lawful.refused (e : RegisterMethodError) (single : op.isMerge = false) :
    op.Lawful before (.error e) before where
  failed _ _ := rfl
  added := by
    intro ok
    cases ok
  kept := by
    intro ok
    cases ok
  merged := by
    rintro other rfl
    cases single

/-- The operation that binds one name. -/
theorem Lawful.inserted {name : String} {callback : MethodCallback σ} (named : op.names = [name])
    (own : op.callback before name = some callback) (stays : ∀ name, op.removes name = false)
    (single : op.isMerge = false) (free : before.lookup name = none) :
    op.Lawful before (.ok ()) (before.insert name callback) where
  failed := by
    intro e failed
    cases failed
  added := by
    intro _ name' member
    rw [named, List.mem_singleton] at member
    subst member
    exact ⟨free, callback, own, Finmap.lookup_insert _⟩
  kept := by
    intro _ name' other
    rw [named, List.mem_singleton] at other
    rw [Table.lookup_insert_ite, if_neg other, stays name']
    rfl
  merged := by
    rintro other rfl
    cases single

theorem lawful_verifyAndInsert {name : String} {callback : MethodCallback σ} (named : op.names = [name])
    (own : op.callback before name = some callback) (stays : ∀ name, op.removes name = false)
    (single : op.isMerge = false) :
    op.Lawful before ((RpcModule.verifyAndInsert name callback).exec before).1
      ((RpcModule.verifyAndInsert name callback).exec before).2 := by
  cases found : before.lookup name with
  | some old =>
      rw [RpcModule.exec_verifyAndInsert_taken found]
      exact .refused _ single
  | none =>
      rw [RpcModule.exec_verifyAndInsert_free found]
      exact .inserted named own stays single found

theorem lawful_registerAlias {aliasName existingMethod : String} :
    (registerAlias aliasName existingMethod).Lawful before
      ((RpcModule.registerAlias aliasName existingMethod).exec before).1
      ((RpcModule.registerAlias aliasName existingMethod).exec before).2 := by
  cases found : before.lookup aliasName with
  | some old =>
      have early := RpcModule.exec_verifyMethodName_taken found
      rw [RpcModule.registerAlias, Registering.exec_bind_error early]
      exact .refused _ rfl
  | none =>
      cases known : before.lookup existingMethod with
      | none =>
          rw [RpcModule.exec_registerAlias_unknown found known]
          exact .refused _ rfl
      | some callback =>
          rw [RpcModule.exec_registerAlias_known found known]
          exact .inserted rfl known (fun _ => rfl) rfl found

/-- The operation that binds the two names of a subscription. -/
theorem lawful_subscription {subscribe notif unsubscribe : String} {conn : SubscriptionState σ}
    {remove : SubscriptionKey → σ → Bool × σ} {handler : SubscriptionHandler σ}
    (named : op.names = [subscribe, unsubscribe])
    (own : ∀ name, op.callback before name =
      if name = subscribe then some (.ofSubscription notif conn handler) else some (.ofUnsubscribe remove))
    (stays : ∀ name, op.removes name = false) (single : op.isMerge = false) :
    op.Lawful before
      ((RpcModule.registerSubscriptionRaw subscribe notif unsubscribe conn remove handler).exec before).1
      ((RpcModule.registerSubscriptionRaw subscribe notif unsubscribe conn remove handler).exec before).2 := by
  by_cases refused : subscribe = unsubscribe ∨ (before.lookup subscribe).isSome ∨ (before.lookup unsubscribe).isSome
  · obtain ⟨e, ran⟩ := RpcModule.exec_subscription_refused refused
    rw [ran]
    exact .refused e single
  · simp only [not_or, Option.not_isSome_iff_eq_none] at refused
    obtain ⟨apart, free, freeToo⟩ := refused
    rw [RpcModule.exec_subscription_free apart free freeToo]
    constructor
    · intro e failed
      cases failed
    · intro _ name member
      rw [named, List.mem_cons, List.mem_singleton] at member
      rw [own, Table.lookup_insert_ite, Table.lookup_insert_ite]
      rcases member with rfl | rfl
      · exact ⟨free, _, if_pos rfl, if_pos rfl⟩
      · exact ⟨freeToo, _, if_neg (Ne.symm apart), by rw [if_neg (Ne.symm apart), if_pos rfl]⟩
    · intro _ name other
      rw [named, List.mem_cons, List.mem_singleton, not_or] at other
      rw [Table.lookup_insert_ite, Table.lookup_insert_ite, if_neg other.1, if_neg other.2, stays name]
      rfl
    · rintro merged rfl
      cases single

theorem lawful_removeMethod {name : String} :
    (removeMethod name).Lawful before ((RpcModule.removeMethod name).exec before).1
      ((RpcModule.removeMethod name).exec before).2 := by
  rw [RpcModule.removeMethod, Registering.exec_modify]
  constructor
  · intro e failed
    cases failed
  · intro _ name' member
    cases member
  · intro _ name' _
    rw [Table.lookup_erase_ite]
    by_cases same : name = name'
    · rw [if_pos same.symm, removes, decide_eq_true same]
      rfl
    · rw [if_neg (Ne.symm same), removes, decide_eq_false same]
      rfl
  · rintro other ⟨⟩

/-- The two modules have no name in common. -/
theorem disjoint_iff {other : AList fun _ : String => MethodCallback σ} :
    Finmap.Disjoint before other.toFinmap ↔ ∀ name ∈ other.keys, before.lookup name = none := by
  constructor
  · intro apart name member
    refine Finmap.lookup_eq_none.mpr fun mine => apart name mine ?_
    exact Finmap.mem_toFinmap.mpr (AList.mem_keys.mpr member)
  · intro free name mine theirs
    exact Finmap.lookup_eq_none.mp (free name (AList.mem_keys.mp (Finmap.mem_toFinmap.mp theirs))) mine

theorem lawful_merge {other : AList fun _ : String => MethodCallback σ} :
    (merge other).Lawful before ((RpcModule.merge other).exec before).1 ((RpcModule.merge other).exec before).2 := by
  by_cases apart : ∀ name ∈ other.keys, before.lookup name = none
  · obtain ⟨after, ran, found⟩ := @RpcModule.exec_insert_all σ before other.entries other.nodupKeys
    rw [RpcModule.merge, Registering.exec_bind (RpcModule.exec_verify_all apart), ran]
    constructor
    · intro e failed
      cases failed
    · intro _ name member
      obtain ⟨callback, own⟩ := Option.isSome_iff_exists.mp (List.dlookup_isSome.mpr member)
      refine ⟨apart name member, callback, own, ?_⟩
      rw [found, own]
      rfl
    · intro _ name outside
      rw [found, List.dlookup_eq_none.mpr outside, Option.none_or]
      rfl
    · rintro _ ⟨⟩
      refine ⟨iff_of_true rfl (disjoint_iff.mpr apart), fun _ => ?_⟩
      apply Finmap.ext_lookup
      intro name
      rw [found]
      by_cases member : name ∈ other.keys
      · rw [Finmap.lookup_union_right (Finmap.lookup_eq_none.mp (apart name member)), Finmap.lookup_toFinmap,
          apart name member, Option.or_none]
        rfl
      · have outside : name ∉ other.toFinmap := fun theirs => member (AList.mem_keys.mp (Finmap.mem_toFinmap.mp theirs))
        rw [List.dlookup_eq_none.mpr member, Option.none_or, Finmap.lookup_union_left_of_not_in outside]
  · have taken : ∃ name ∈ other.keys, (before.lookup name).isSome := by
      simpa only [not_forall, exists_prop, ← Option.isSome_iff_ne_none] using apart
    obtain ⟨e, ran⟩ := RpcModule.exec_verify_some taken
    rw [RpcModule.merge, Registering.exec_bind_error ran]
    constructor
    · intro _ _
      rfl
    · intro ok
      cases ok
    · intro ok
      cases ok
    · rintro _ ⟨⟩
      refine ⟨iff_of_false (by rintro ⟨⟩) fun disjoint => apart (disjoint_iff.mp disjoint), ?_⟩
      intro ok
      cases ok

theorem lawful_perform (op : Operation σ) (before : Methods σ) :
    op.Lawful before (op.perform.exec before).1 (op.perform.exec before).2 := by
  cases op with
  | registerMethod name callback => exact lawful_verifyAndInsert rfl rfl (fun _ => rfl) rfl
  | registerAsyncMethod name callback => exact lawful_verifyAndInsert rfl rfl (fun _ => rfl) rfl
  | registerBlockingMethod name callback => exact lawful_verifyAndInsert rfl rfl (fun _ => rfl) rfl
  | registerSubscription => exact lawful_subscription rfl (fun _ => rfl) (fun _ => rfl) rfl
  | registerSubscriptionRaw => exact lawful_subscription rfl (fun _ => rfl) (fun _ => rfl) rfl
  | registerAlias => exact lawful_registerAlias
  | merge => exact lawful_merge
  | removeMethod => exact lawful_removeMethod

end Operation

/-! ## The modules that can be put together -/

/-- A registration that is given back as a whole, or not made. -/
def settle (methods : Methods σ) :
    Except RegisterMethodError (Methods σ) → Except RegisterMethodError Unit × Methods σ
  | .ok after => (.ok (), after)
  | .error e => (.error e, methods)

namespace RpcModule

open Registering

variable {methods : Methods σ}

theorem exec_verifyAndInsert (name : String) (callback : MethodCallback σ) :
    (verifyAndInsert name callback).exec methods = settle methods (methods.verifyAndInsert name callback) := by
  rw [verifyAndInsert, exec_bind exec_get, Methods.verifyAndInsert]
  cases methods.lookup name <;> rfl

theorem exec_registerAlias (aliasName existingMethod : String) :
    (registerAlias aliasName existingMethod).exec methods =
      settle methods (methods.registerAlias aliasName existingMethod) := by
  rw [Methods.registerAlias, Methods.verifyMethodName]
  cases found : methods.lookup aliasName with
  | some old => exact exec_bind_error (exec_verifyMethodName_taken found)
  | none =>
      cases known : methods.lookup existingMethod with
      | none => exact exec_registerAlias_unknown found known
      | some callback => exact exec_registerAlias_known found known

theorem exec_registerSubscriptionRaw (subscribe notif unsubscribe : String) (conn : SubscriptionState σ)
    (remove : SubscriptionKey → σ → Bool × σ) (handler : SubscriptionHandler σ) :
    (registerSubscriptionRaw subscribe notif unsubscribe conn remove handler).exec methods =
      settle methods (methods.registerSubscriptionRaw subscribe notif unsubscribe conn remove handler) := by
  rw [Methods.registerSubscriptionRaw]
  by_cases refused : subscribe = unsubscribe ∨ (methods.lookup subscribe).isSome ∨ (methods.lookup unsubscribe).isSome
  · obtain ⟨e, early, same⟩ := @exec_unsubscribe_refused σ methods subscribe unsubscribe remove refused
    rw [same]
    exact exec_bind_error early
  · simp only [not_or, Option.not_isSome_iff_eq_none] at refused
    obtain ⟨apart, free, freeToo⟩ := refused
    have checked : methods.verifyAndRegisterUnsubscribe subscribe unsubscribe remove =
        .ok (methods.insert unsubscribe (.ofUnsubscribe remove)) := by
      rw [Methods.verifyAndRegisterUnsubscribe, if_neg apart, Methods.verifyMethodName, Methods.verifyMethodName, free,
        freeToo]
      rfl
    have still : (methods.insert unsubscribe (.ofUnsubscribe remove)).lookup subscribe = none := by
      rw [Table.lookup_insert_ite, if_neg apart, free]
    have inserted : Methods.verifyAndInsert (methods.insert unsubscribe (.ofUnsubscribe remove)) subscribe
        (.ofSubscription notif conn handler) =
          .ok ((methods.insert unsubscribe (.ofUnsubscribe remove)).insert subscribe
            (.ofSubscription notif conn handler)) := by
      rw [Methods.verifyAndInsert, still]
    rw [exec_subscription_free apart free freeToo, checked]
    exact (congrArg (settle methods) inserted).symm

end RpcModule

theorem built_settle {methods : Methods σ} (built : methods.Built)
    {registered : Except RegisterMethodError (Methods σ)}
    (good : ∀ after, registered = .ok after → Methods.Built after) : Methods.Built (settle methods registered).2 := by
  cases registered with
  | error e => exact built
  | ok after => exact good after rfl

/-- What an operation leaves is a module that can be put together. -/
theorem Operation.built_perform {before : Methods σ} (op : Operation σ) (built : before.Built)
    (others : ∀ other, op = .merge other → Methods.Built (AList.toFinmap other)) :
    Methods.Built (op.perform.exec before).2 := by
  cases op with
  | registerMethod name callback =>
      rw [perform, RpcModule.registerMethod, RpcModule.exec_verifyAndInsert]
      exact built_settle built fun after => .registerMethod built
  | registerAsyncMethod name callback =>
      rw [perform, RpcModule.registerAsyncMethod, RpcModule.exec_verifyAndInsert]
      exact built_settle built fun after => .registerAsyncMethod built
  | registerBlockingMethod name callback =>
      rw [perform, RpcModule.registerBlockingMethod, RpcModule.exec_verifyAndInsert]
      exact built_settle built fun after => .registerBlockingMethod built
  | registerSubscription subscribe notif unsubscribe conn remove handler =>
      rw [perform, RpcModule.exec_registerSubscriptionRaw]
      exact built_settle built fun after => .registerSubscription built
  | registerSubscriptionRaw subscribe notif unsubscribe conn remove handler =>
      rw [perform, RpcModule.exec_registerSubscriptionRaw]
      exact built_settle built fun after => .registerSubscriptionRaw built
  | registerAlias aliasName existingMethod =>
      rw [perform, RpcModule.exec_registerAlias]
      exact built_settle built fun after => .registerAlias built
  | removeMethod name => exact .removeMethod built
  | merge other =>
      have lawful := lawful_perform (.merge other) before
      obtain ⟨succeeds, union⟩ := lawful.merged other rfl
      cases result : ((merge other).perform.exec before).1 with
      | error e =>
          rw [lawful.failed e result]
          exact built
      | ok done =>
          rw [union result]
          exact .merge built (others other rfl) (succeeds.mp result)

/-! ## Sequences of operations -/

/-- One operation of a sequence, with what it returned. -/
structure Performed (σ : Type) where
  before : Methods σ
  op : Operation σ
  result : Except RegisterMethodError Unit
  after : Methods σ

/-- The operations one after the other. -/
def history : Methods σ → List (Operation σ) → List (Performed σ)
  | _, [] => []
  | methods, op :: rest =>
      { before := methods, op, result := (op.perform.exec methods).1, after := (op.perform.exec methods).2 } ::
        history (op.perform.exec methods).2 rest

/-- The module after the operations. -/
def performAll (methods : Methods σ) (ops : List (Operation σ)) : Methods σ :=
  ops.foldl (fun methods op => (op.perform.exec methods).2) methods

theorem lawful_of_history {start : Methods σ} {ops : List (Operation σ)} {step : Performed σ}
    (member : step ∈ history start ops) : step.op.Lawful step.before step.result step.after := by
  induction ops generalizing start with
  | nil => cases member
  | cons op rest ih =>
      rcases List.mem_cons.mp member with rfl | later
      · exact Operation.lawful_perform op start
      · exact ih later

/-- No operation takes an entry off or puts another one in its place, but for the
    removal of its name. -/
theorem Operation.Lawful.keeps {op : Operation σ} {before after : Methods σ} {result : Except RegisterMethodError Unit}
    (lawful : op.Lawful before result after) {name : String} {callback : MethodCallback σ}
    (here : before.lookup name = some callback) (stays : op.removes name = false) :
    after.lookup name = some callback := by
  cases outcome : result with
  | error e => rw [lawful.failed e outcome, here]
  | ok done =>
      by_cases given : name ∈ op.names
      · have free := (lawful.added outcome name given).1
        cases here.symm.trans free
      · rw [lawful.kept outcome name given, stays, here]
        rfl

theorem performAll_keeps {name : String} {callback : MethodCallback σ} {ops : List (Operation σ)} {start : Methods σ}
    (here : start.lookup name = some callback) (stays : ∀ op ∈ ops, op.removes name = false) :
    (performAll start ops).lookup name = some callback := by
  induction ops generalizing start with
  | nil => exact here
  | cons op rest ih =>
      obtain ⟨first, later⟩ := List.forall_mem_cons.mp stays
      exact ih ((Operation.lawful_perform op start).keeps here first) later

/-- In any sequence of operations on any module, a failed operation does nothing, a
    successful one binds the names that it is given and no others, and modules merge
    exactly when they have no name in common. What is bound stays so until it is
    removed. -/
theorem registry_algebra (start : Methods σ) (ops : List (Operation σ)) :
    (∀ step ∈ history start ops, step.op.Lawful step.before step.result step.after) ∧
    ∀ name callback, start.lookup name = some callback → (∀ op ∈ ops, op.removes name = false) →
      (performAll start ops).lookup name = some callback :=
  ⟨fun _ => lawful_of_history, fun _ _ => performAll_keeps⟩

/-- A subscription whose subscribe name is free and whose unsubscribe name is taken
    leaves no trace. -/
theorem registry_algebra_taken :
    let hello : MethodCallback Unit := .ofMethod fun _ _ world => (.payload (.success .null) none, world)
    let start : Methods Unit := (∅ : Methods Unit).insert "say_hello" hello
    let subscribe : Operation Unit := .registerSubscription "subscribe" "notif" "say_hello"
      { nextId := fun world => (.num 0, world), maxResponseSize := 100 } (fun _ world => (false, world))
      (fun _ _ _ world => (.accepted, world))
    (subscribe.perform.exec start).2 = start ∧
    (performAll start [subscribe]).lookup "say_hello" = some hello := by
  intro hello start subscribe
  have taken : start.lookup "say_hello" = some hello := Finmap.lookup_insert _
  obtain ⟨lawful, keeps⟩ := registry_algebra start [subscribe]
  obtain ⟨e, refused⟩ := @RpcModule.exec_subscription_refused Unit start "subscribe" "notif" "say_hello"
    { nextId := fun world => (.num 0, world), maxResponseSize := 100 } (fun _ world => (false, world))
    (fun _ _ _ world => (.accepted, world)) (.inr (.inr (by rw [taken]; rfl)))
  refine ⟨(lawful _ List.mem_cons_self).failed e (congrArg Prod.fst refused), keeps _ _ taken ?_⟩
  intro op member
  rw [List.mem_singleton.mp member]
  rfl

end Server

end Jsonrpsee
