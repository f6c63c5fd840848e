import Jsonrpsee.Server.Subscription

/-! # Permits and tables

Every subscription holds one permit of its connection from the subscribe call
until its last handle is gone, and whatever a table holds has a handle. Both are
invariants of every step, over all connections and methods.
-/

namespace Jsonrpsee

namespace Server

/-- A pending sink, perhaps inside `accept`, `reject` or `drop`, or an accepted
    subscription with a clone that is not dropped. -/
def Subscription.Live (s : Subscription) : Prop :=
  match s.stage with
  | .accepted handles leaving left => 0 < handles + leaving + left
  | .pending | .responded _ | .completed _ | .rejected _ | .released => True

instance (s : Subscription) : Decidable s.Live := by
  unfold Subscription.Live
  split <;> infer_instance

/-- The subscription has not been accepted. -/
def Stage.Early : Stage → Prop
  | .accepted _ _ _ => False
  | .pending | .responded _ | .completed _ | .rejected _ | .released => True

theorem Subscription.live_of_early {s : Subscription} (early : s.stage.Early) : s.Live := by
  unfold Live
  split
  · rename_i accepted
    rw [accepted] at early
    exact early.elim
  all_goals trivial

namespace Hub

variable {cfg : ServerConfig} {h h' : Hub} {n : SinkId} {s : Subscription} {conn : ConnectionId}

/-- How many subscriptions of the connection are live. -/
def live (h : Hub) (conn : ConnectionId) : Nat :=
  Table.count h.subs fun s => s.uniqSub.connId = conn ∧ s.Live

structure Sound (cfg : ServerConfig) (h : Hub) : Prop where
  fresh : ∀ {n}, h.next ≤ n → h.subs.lookup n = none
  known : ∀ {n s}, h.subs.lookup n = some s → h.conns.lookup s.uniqSub.connId ≠ none
  permits : ∀ {conn c}, h.conns.lookup conn = some c → c.permits + h.live conn = cfg.maxSubscriptionsPerConnection
  table : ∀ {method key n}, h.subscribers.lookup (method, key) = some n →
    ∃ s handles leaving, h.subs.lookup n = some s ∧ s.method = method ∧ s.uniqSub = key ∧
      s.stage = .accepted handles leaving 0 ∧ 0 < handles + leaving

theorem Sound.new (cfg : ServerConfig) : Sound cfg .new where
  fresh _ := rfl
  known found := by cases found
  permits found := by cases found
  table found := by cases found

/-- Connections may change, but for their permits. -/
def SamePermits (h h' : Hub) : Prop :=
  ∀ conn, (h'.conns.lookup conn).map Conn.permits = (h.conns.lookup conn).map Conn.permits

theorem samePermits_onConn {change : Conn → Conn} (keeps : ∀ c, (change c).permits = c.permits) :
    h.SamePermits (h.onConn conn change) := by
  intro conn'
  rw [lookup_onConn]
  split
  · rename_i same
    rw [same, Option.map_map, show Conn.permits ∘ change = Conn.permits from funext keeps]
  · rfl

theorem samePermits_push {origin : Origin} {json : RawText} : h.SamePermits (h.push conn origin json) := by
  refine samePermits_onConn fun c => ?_
  unfold Conn.push
  split <;> rfl

theorem SamePermits.known (same : h.SamePermits h') (there : h.conns.lookup conn ≠ none) :
    h'.conns.lookup conn ≠ none := by
  intro missing
  have was := same conn
  rw [missing, Option.map_none, eq_comm, Option.map_eq_none_iff] at was
  exact there was

theorem SamePermits.before (same : h.SamePermits h') {c : Conn} (found : h'.conns.lookup conn = some c) :
    ∃ c', h.conns.lookup conn = some c' ∧ c'.permits = c.permits := by
  have was := same conn
  rw [found, Option.map_some, eq_comm, Option.map_eq_some_iff] at was
  exact was

namespace Sound

/-- The stage of a live subscription changes and leaves it live. -/
theorem advance (sound : Sound cfg h) (found : h.subs.lookup n = some s) (alive : s.Live) {stage : Stage}
    (alive' : { s with stage }.Live) (subs : h'.subs = h.subs.insert n { s with stage }) (next : h'.next = h.next)
    (conns : h.SamePermits h')
    (table : ∀ {method key m}, h'.subscribers.lookup (method, key) = some m →
      m ≠ n ∧ h.subscribers.lookup (method, key) = some m ∨
      m = n ∧ s.method = method ∧ s.uniqSub = key ∧
        ∃ handles leaving, stage = .accepted handles leaving 0 ∧ 0 < handles + leaving) : Sound cfg h' := by
  have counts : ∀ conn, h'.live conn = h.live conn := by
    intro conn
    rw [live, live, subs]
    refine Table.count_update _ found ?_
    simp only [alive, alive', and_true]
  refine ⟨?_, ?_, ?_, ?_⟩
  · intro m late
    rw [next] at late
    have free := sound.fresh late
    rw [subs, Table.lookup_insert_ite, free, if_neg]
    rintro rfl
    cases found.symm.trans free
  · intro m s' found'
    rw [subs, Table.lookup_insert_ite] at found'
    split at found'
    · obtain rfl := Option.some.inj found'
      exact conns.known (@known _ _ sound n s found)
    · exact conns.known (sound.known found')
  · intro conn c found'
    obtain ⟨c', was, permits⟩ := conns.before found'
    rw [counts, ← permits]
    exact sound.permits was
  · intro method key m entry
    rw [subs]
    rcases table entry with ⟨other, old⟩ | ⟨rfl, own, ownKey, handles, leaving, accepted, held⟩
    · obtain ⟨s', handles, leaving, found', rest⟩ := sound.table old
      exact ⟨s', handles, leaving, by rw [Table.lookup_insert_ite, if_neg other, found'], rest⟩
    · exact ⟨{ s with stage }, handles, leaving, by rw [Table.lookup_insert_ite, if_pos rfl], own, ownKey, accepted, held⟩

/-- As above, with the tables untouched. -/
theorem keep (sound : Sound cfg h) (found : h.subs.lookup n = some s) (alive : s.Live) {stage : Stage}
    (alive' : { s with stage }.Live) (subs : h'.subs = h.subs.insert n { s with stage }) (next : h'.next = h.next)
    (conns : h.SamePermits h') (subscribers : h'.subscribers = h.subscribers)
    (entry : ∀ handles leaving, s.stage = .accepted handles leaving 0 → 0 < handles + leaving → h.isActive n s = true →
      ∃ handles leaving, stage = .accepted handles leaving 0 ∧ 0 < handles + leaving) : Sound cfg h' := by
  refine sound.advance found alive alive' subs next conns ?_
  intro method key m here
  rw [subscribers] at here
  by_cases own : m = n
  · subst own
    obtain ⟨s', handles, leaving, found', rfl, rfl, accepted, held⟩ := sound.table here
    obtain rfl := Option.some.inj (found.symm.trans found')
    exact .inr ⟨rfl, rfl, rfl, entry handles leaving accepted held (decide_eq_true here)⟩
  · exact .inl ⟨own, here⟩

/-- A subscription that is in no table ends, and its permit is free again. -/
theorem free (sound : Sound cfg h) (found : h.subs.lookup n = some s) (alive : s.Live)
    (out : ∀ handles leaving, s.stage = .accepted handles leaving 0 → handles + leaving = 0) :
    Sound cfg (h.free n s) := by
  have gone : ∀ {method key}, h.subscribers.lookup (method, key) ≠ some n := by
    intro method key entry
    obtain ⟨s', handles, leaving, found', -, -, accepted, held⟩ := sound.table entry
    obtain rfl := Option.some.inj (found.symm.trans found')
    have none := out handles leaving accepted
    omega
  have counts : ∀ conn, h.live conn = (h.free n s).live conn + if s.uniqSub.connId = conn then 1 else 0 := by
    intro conn
    simp only [live, Hub.free, onConn_subs]
    rw [Table.count_erase _ found]
    simp only [alive, and_true]
  refine ⟨?_, ?_, ?_, ?_⟩
  · intro m late
    simp only [Hub.free, onConn_next, onConn_subs] at late ⊢
    rw [Table.lookup_erase_ite, sound.fresh late]
    split <;> rfl
  · intro m s' found'
    simp only [Hub.free, onConn_subs] at found'
    rw [Table.lookup_erase_ite] at found'
    split at found'
    · cases found'
    · have there := sound.known found'
      simp only [Hub.free, lookup_onConn]
      split
      · rename_i same
        rw [same] at there
        simpa using there
      · exact there
  · intro conn c found'
    simp only [Hub.free, lookup_onConn] at found'
    split at found'
    · rename_i same
      obtain ⟨c', was, rfl⟩ := Option.map_eq_some_iff.mp found'
      have before := sound.permits was
      rw [counts, if_pos rfl] at before
      rw [same]
      dsimp only
      omega
    · rename_i other
      have before := sound.permits found'
      rwa [counts, if_neg (Ne.symm other), Nat.add_zero] at before
  · intro method key m entry
    simp only [Hub.free, onConn_subscribers, onConn_subs] at entry ⊢
    obtain ⟨s', handles, leaving, found', rest⟩ := sound.table entry
    refine ⟨s', handles, leaving, ?_, rest⟩
    rw [Table.lookup_erase_ite, if_neg, found']
    rintro rfl
    exact gone entry

/-- Before it is accepted, a subscription is in no table. -/
theorem early (sound : Sound cfg h) (found : h.subs.lookup n = some s) (before : s.stage.Early) {stage : Stage}
    (after : stage.Early) (subs : h'.subs = h.subs.insert n { s with stage }) (next : h'.next = h.next)
    (conns : h.SamePermits h') (subscribers : h'.subscribers = h.subscribers) : Sound cfg h' := by
  have alive' : Subscription.Live { s with stage } := Subscription.live_of_early after
  refine sound.keep found (Subscription.live_of_early before) alive' subs next conns subscribers ?_
  intro handles leaving accepted
  rw [accepted] at before
  exact before.elim

/-- Clones are made and dropped. -/
theorem clones (sound : Sound cfg h) (found : h.subs.lookup n = some s) {handles leaving left handles' leaving' left' : Nat}
    (stage : s.stage = .accepted handles leaving left) (some : 0 < handles + leaving + left)
    (some' : 0 < handles' + leaving' + left')
    (entry : left = 0 → 0 < handles + leaving → h.isActive n s = true → left' = 0)
    (subs : h'.subs = h.subs.insert n { s with stage := .accepted handles' leaving' left' }) (next : h'.next = h.next)
    (conns : h.SamePermits h') (subscribers : h'.subscribers = h.subscribers) : Sound cfg h' := by
  have alive : s.Live := by
    simp only [Subscription.Live, stage]
    exact some
  have alive' : Subscription.Live { s with stage := .accepted handles' leaving' left' } := some'
  refine sound.keep found alive alive' subs next conns subscribers ?_
  intro handles₁ leaving₁ accepted held active
  rw [stage] at accepted
  cases accepted
  have gone := entry rfl held active
  subst gone
  exact ⟨handles', leaving', rfl, some'⟩

theorem connect (sound : Sound cfg h) (free : h.conns.lookup conn = none) :
    Sound cfg { h with conns := h.conns.insert conn (.new cfg) } := by
  have unused : h.live conn = 0 := by
    rw [live, Table.count_eq_zero_iff]
    rintro n s found ⟨own, -⟩
    exact sound.known found (own ▸ free)
  refine ⟨sound.fresh, ?_, ?_, sound.table⟩
  · intro n s found
    rw [Table.lookup_insert_ite]
    split
    · simp
    · exact sound.known found
  · intro conn' c found
    rw [Table.lookup_insert_ite] at found
    split at found
    · rename_i same
      obtain rfl := Option.some.inj found
      rw [same]
      show cfg.maxSubscriptionsPerConnection + h.live conn = _
      rw [unused, Nat.add_zero]
    · exact sound.permits found

/-- No subscription moves; connections may change, but for their permits, and
    tables may lose entries. -/
theorem still (sound : Sound cfg h) (subs : h'.subs = h.subs) (next : h'.next = h.next) (conns : h.SamePermits h')
    (subscribers : ∀ {key n}, h'.subscribers.lookup key = some n → h.subscribers.lookup key = some n) :
    Sound cfg h' := by
  refine ⟨?_, ?_, ?_, ?_⟩
  · rw [subs, next]
    exact sound.fresh
  · rw [subs]
    exact fun found => conns.known (sound.known found)
  · intro conn c found
    obtain ⟨c', was, permits⟩ := conns.before found
    rw [live, subs, ← permits]
    exact sound.permits was
  · rw [subs]
    exact fun entry => sound.table (subscribers entry)

/-- A subscribe call takes a permit. -/
theorem enlist (sound : Sound cfg h) {call : SubscribeCall} {c : Conn}
    (there : h.conns.lookup call.connId = some c) (positive : 0 < c.permits) : Sound cfg (h.enlist call) := by
  have unused : h.subs.lookup h.next = none := sound.fresh (Nat.le_refl _)
  have counts : ∀ conn, (h.enlist call).live conn = h.live conn + if call.connId = conn then 1 else 0 := by
    intro conn
    simp only [live, Hub.enlist, onConn_subs, onConn_next]
    rw [Table.count_insert_of_free _ unused]
    simp only [Subscription.Live, and_true]
  refine ⟨?_, ?_, ?_, ?_⟩
  · intro n late
    simp only [Hub.enlist, onConn_subs, onConn_next] at late ⊢
    rw [Table.lookup_insert_ite, if_neg (Nat.ne_of_gt late), sound.fresh (Nat.le_of_lt late)]
  · intro n s found
    simp only [Hub.enlist, onConn_subs, onConn_next] at found
    rw [Table.lookup_insert_ite] at found
    simp only [Hub.enlist, lookup_onConn]
    split
    · rw [there]
      simp
    · rename_i other
      split at found
      · obtain rfl := Option.some.inj found
        exact absurd rfl other
      · exact sound.known found
  · intro conn c' found
    simp only [Hub.enlist, lookup_onConn] at found
    split at found
    · rename_i same
      rw [there] at found
      obtain rfl := Option.some.inj found
      have before := sound.permits there
      rw [counts, same, if_pos rfl]
      dsimp only
      omega
    · rename_i other
      rw [counts, if_neg (Ne.symm other), Nat.add_zero]
      exact sound.permits found
  · intro method key n entry
    simp only [Hub.enlist, onConn_subs, onConn_next, onConn_subscribers] at entry ⊢
    obtain ⟨s, handles, leaving, found, rest⟩ := sound.table entry
    refine ⟨s, handles, leaving, ?_, rest⟩
    rw [Table.lookup_insert_ite, if_neg, found]
    rintro rfl
    cases found.symm.trans unused

theorem unsubscribe (sound : Sound cfg h) (method : MethodId) (params : Option RawValue) :
    Sound cfg (h.unsubscribe conn method params).2 := by
  unfold Hub.unsubscribe
  split
  · exact sound
  · refine sound.still rfl rfl (fun _ => rfl) ?_
    intro key n entry
    rw [Table.lookup_erase_ite] at entry
    split at entry
    · cases entry
    · exact entry

theorem of_move (sound : Sound cfg h) {a : HubAction} (move : Move cfg h a h') : Sound cfg h' := by
  cases move with
  | connect free => exact sound.connect free
  | close => exact sound.still (onConn_subs ..) (onConn_next ..) (samePermits_onConn fun _ => rfl) (by simp)
  | refuse => exact sound
  | subscribe found free => exact sound.enlist found free
  | unsubscribe => exact sound.unsubscribe ..
  | respond found stage | reject found stage =>
      exact sound.early found (by rw [stage]; trivial) (by trivial) (advance_push_subs ..) (push_next ..)
        samePermits_push (push_subscribers ..)
  | disconnected found stage | complete found stage | fail found stage | panics found stage | rejected found stage
  | drop found stage =>
      exact sound.early found (by rw [stage]; trivial) (by trivial) rfl rfl (fun _ => rfl) rfl
  | @insert n s rp found stage success =>
      have alive' : Subscription.Live { s with stage := .accepted 1 0 0 } := Nat.one_pos
      refine sound.advance found (Subscription.live_of_early (by rw [stage]; trivial)) alive' rfl rfl (fun _ => rfl) ?_
      intro method key m entry
      simp only [Hub.advance, Table.lookup_insert_ite] at entry
      split at entry
      · rename_i same
        obtain rfl := Option.some.inj entry
        cases same
        exact .inr ⟨rfl, rfl, rfl, 1, 0, rfl, Nat.one_pos⟩
      · refine .inl ⟨?_, entry⟩
        rintro rfl
        obtain ⟨s', handles, leaving, found', -, -, accepted, -⟩ := sound.table entry
        obtain rfl := Option.some.inj (found.symm.trans found')
        cases stage.symm.trans accepted
  | release found stage =>
      refine sound.free found (Subscription.live_of_early (by rw [stage]; trivial)) ?_
      intro handles leaving accepted
      cases stage.symm.trans accepted
  | clone found stage =>
      exact sound.clones found stage (by omega) (by omega) (fun none _ _ => none) rfl rfl (fun _ => rfl) rfl
  | checkActive found stage active =>
      exact sound.clones found stage (by omega) (by omega) (fun none _ _ => none) rfl rfl (fun _ => rfl) rfl
  | checkClosed found stage gone =>
      refine sound.clones found stage (by omega) (by omega) (fun _ _ active => ?_) rfl rfl (fun _ => rfl) rfl
      cases gone.symm.trans active
  | @remove n s handles leaving left found stage =>
      have alive : s.Live := by
        simp only [Subscription.Live, stage]
        omega
      have alive' : Subscription.Live { s with stage := .accepted handles leaving (left + 1) } :=
        Nat.succ_pos _
      refine sound.advance found alive alive' rfl rfl (fun _ => rfl) ?_
      intro method key m entry
      simp only [Hub.advance, Table.lookup_erase_ite] at entry
      split at entry
      · cases entry
      · rename_i other
        refine .inl ⟨?_, entry⟩
        rintro rfl
        obtain ⟨s', handles, leaving, found', rfl, rfl, -⟩ := sound.table entry
        obtain rfl := Option.some.inj (found.symm.trans found')
        exact other rfl
  | dropLast found stage =>
      refine sound.free found (by simp [Subscription.Live, stage]) ?_
      intro handles leaving accepted
      cases stage.symm.trans accepted
  | dropShare found stage others =>
      refine sound.clones found stage (by omega) (by omega) (fun none _ _ => ?_) rfl rfl (fun _ => rfl) rfl
      cases none
  | unsent => exact sound
  | send => exact sound.still (push_subs ..) (push_next ..) samePermits_push (by simp)

/-- A subscribe call is refused exactly when no permit is left. -/
theorem refused_iff (sound : Sound cfg h) {call : SubscribeCall} (there : h.conns.lookup call.connId ≠ none) :
    h.subscribe cfg call = .error (rejectTooManySubscriptions cfg.maxSubscriptionsPerConnection) ↔
      h.live call.connId = cfg.maxSubscriptionsPerConnection := by
  obtain ⟨c, found⟩ := Option.ne_none_iff_exists'.mp there
  have balance := sound.permits found
  simp only [Hub.subscribe, found, Option.any_some, decide_eq_true_eq]
  split
  · exact iff_of_false (by simp) (by omega)
  · exact iff_of_true rfl (by omega)

end Sound

theorem sound {ts : List (Transition Hub HubAction)} (run : Run (step cfg) .new ts h) : Sound cfg h :=
  run.invariant (Sound cfg) (fun _ => True) (fun _ _ => trivial) (.new cfg)
    fun _ _ before taken => before.of_move (move_of_step taken)

/-- An unsubscribe callback takes exactly its entry off the table. -/
theorem unsubscribe_eq {params : Option RawValue} {subId : SubscriptionId} (given : paramsOne params = some subId)
    (h : Hub) (conn : ConnectionId) (method : MethodId) :
    h.unsubscribe conn method params =
      ((h.subscribers.lookup (method, ⟨conn, subId⟩)).isSome,
        { h with subscribers := h.subscribers.erase (method, ⟨conn, subId⟩) }) := by
  unfold unsubscribe
  rw [given]

/-- Nothing but its own subscription is closed by it. -/
theorem isClosed_unsubscribe {params : Option RawValue} {subId : SubscriptionId} (given : paramsOne params = some subId)
    {method : MethodId} (other : (s.method, s.uniqSub) ≠ (method, ⟨conn, subId⟩)) :
    (h.unsubscribe conn method params).2.isClosed n s = h.isClosed n s := by
  rw [unsubscribe_eq given]
  simp only [isClosed, isActive, isOpen, Table.lookup_erase_ite, if_neg other]

/-- In every reachable state: no connection has more live subscriptions than it
    may have, and a subscribe call is refused exactly when it has that many; what a
    table holds belongs to a subscription of that connection with a live handle;
    and an unsubscribe call finds what is in the table under its own connection,
    takes exactly that off it, and closes no subscription of another connection. -/
theorem subscriptions_isolated {ts : List (Transition Hub HubAction)} (run : Run (step cfg) .new ts h) :
    (∀ {conn}, h.conns.lookup conn ≠ none →
      h.live conn ≤ cfg.maxSubscriptionsPerConnection ∧
      ∀ call : SubscribeCall, call.connId = conn →
        (h.subscribe cfg call = .error (rejectTooManySubscriptions cfg.maxSubscriptionsPerConnection) ↔
          h.live conn = cfg.maxSubscriptionsPerConnection)) ∧
    (∀ {method key n}, h.subscribers.lookup (method, key) = some n →
      ∃ s handles leaving left, h.subs.lookup n = some s ∧ s.method = method ∧ s.uniqSub = key ∧
        s.stage = .accepted handles leaving left ∧ 0 < handles + leaving) ∧
    (∀ conn method {params subId}, paramsOne params = some subId →
      ((h.unsubscribe conn method params).1 = true ↔ h.subscribers.lookup (method, ⟨conn, subId⟩) ≠ none) ∧
      (h.unsubscribe conn method params).2 =
        { h with subscribers := h.subscribers.erase (method, ⟨conn, subId⟩) } ∧
      ∀ {n s}, h.subs.lookup n = some s → s.uniqSub.connId ≠ conn →
        (h.unsubscribe conn method params).2.isClosed n s = h.isClosed n s) := by
  have sound := sound run
  refine ⟨?_, ?_, ?_⟩
  · intro conn there
    obtain ⟨c, found⟩ := Option.ne_none_iff_exists'.mp there
    have balance := sound.permits found
    refine ⟨by omega, ?_⟩
    rintro call rfl
    exact sound.refused_iff there
  · intro method key n entry
    obtain ⟨s, handles, leaving, found, own, ownKey, stage, held⟩ := sound.table entry
    exact ⟨s, handles, leaving, 0, found, own, ownKey, stage, held⟩
  · intro conn method params subId given
    rw [unsubscribe_eq given]
    refine ⟨Option.isSome_iff_ne_none, rfl, ?_⟩
    intro n s found elsewhere
    rw [← unsubscribe_eq given]
    refine isClosed_unsubscribe given fun same => elsewhere ?_
    rw [(Prod.mk.inj same).2]

/-- One connection that may have one subscription, which has been accepted. -/
def acceptedRun : List HubAction :=
  [.connect 0, .subscribe { connId := 0, method := 0, notif := "hello", id := .number 1, subId := .num 7 },
    .acceptSend 0, .acceptComplete 0, .acceptInsert 0]

/-- The next subscribe call is refused, and the entry can be taken off. -/
theorem subscriptions_isolated_full :
    let cfg : ServerConfig := { maxSubscriptionsPerConnection := 1, maxResponseBodySize := 100 }
    ∃ ts h, Run (step cfg) .new ts h ∧ h.live 0 = 1 ∧
      h.subscribe cfg { connId := 0, method := 0, notif := "hello", id := .number 2, subId := .num 8 } =
        .error (rejectTooManySubscriptions 1) ∧
      (h.unsubscribe 0 0 (some (.arr [.int 7]))).1 = true := by
  intro cfg
  obtain ⟨ts, h, run, -, state⟩ := Run.reaches (step cfg) .new acceptedRun
    (fun h => h.live 0 = 1 ∧ h.conns.lookup 0 ≠ none ∧ h.subscribers.lookup (0, ⟨0, .num 7⟩) ≠ none)
    (by decide +kernel)
  obtain ⟨full, there, entry⟩ := of_decide_eq_true state
  obtain ⟨limited, -, unsubscribes⟩ := subscriptions_isolated run
  refine ⟨ts, h, run, full, ((limited there).2 _ rfl).mpr full, ?_⟩
  exact (unsubscribes 0 0 (show paramsOne (some (.arr [.int 7])) = some (.num 7) from rfl)).1.mpr entry

end Hub

end Server

end Jsonrpsee
