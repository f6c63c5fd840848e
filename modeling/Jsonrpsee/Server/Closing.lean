import Jsonrpsee.Server.Subscribers

/-! # When a subscription is closed

A sink is closed once its entry is off the table, and it never gets back there:
the entry is made once, by `accept`. It is made last, though, behind the response
that tells the client about the subscription, and the `drop` of any clone takes
it off.
-/

namespace Jsonrpsee

namespace Server

/-- How the stage of a subscription may change in a step, when `accept` answers
    with `response`. -/
inductive Stage.Next (response : MethodResponse) : Stage → Stage → Prop where
  | refl (stage : Stage) : Next response stage stage
  | respond : Next response .pending (.responded response)
  | reject {rp : MethodResponse} : Next response .pending (.rejected rp)
  | complete {rp : MethodResponse} : Next response (.responded rp) (.completed rp)
  | accept {rp : MethodResponse} : Next response (.completed rp) (.accepted 1 0 0)
  | release {stage : Stage} : stage.Early → Next response stage .released
  | clones {handles leaving left handles' leaving' left' : Nat} :
      Next response (.accepted handles leaving left) (.accepted handles' leaving' left')

/-- Nothing gets pending or rejected that is not pending. -/
theorem Stage.Next.begun {response : MethodResponse} {stage stage' : Stage} (next : stage.Next response stage')
    (begun : stage ≠ .pending ∧ ∀ rp, stage ≠ .rejected rp) :
    stage' ≠ .pending ∧ ∀ rp, stage' ≠ .rejected rp := by
  cases next with
  | refl => exact begun
  | respond | reject => exact absurd rfl begun.1
  | complete | accept | release | clones => exact ⟨by simp, by simp⟩

namespace Hub

variable {cfg : ServerConfig} {h h' : Hub} {n : SinkId} {s s' : Subscription} {a : HubAction}

/-- A subscription keeps what identifies it, and its stage moves on. -/
def Follows (cfg : ServerConfig) (h : Hub) (n : SinkId) (s' : Subscription) : Prop :=
  ∃ s stage, h.subs.lookup n = some s ∧ s' = { s with stage } ∧ s.stage.Next (s.acceptResponse cfg) stage

theorem follows_of_lookup (found : h.subs.lookup n = some s) : Follows cfg h n s := ⟨s, s.stage, found, rfl, .refl _⟩

theorem follows_of_insert {m : SinkId} {stage : Stage} (found : h.subs.lookup m = some s)
    (next : s.stage.Next (s.acceptResponse cfg) stage)
    (found' : (h.subs.insert m { s with stage }).lookup n = some s') : Follows cfg h n s' := by
  rw [Table.lookup_insert_ite] at found'
  split at found'
  · rename_i same
    obtain rfl := Option.some.inj found'
    exact ⟨s, stage, same ▸ found, rfl, next⟩
  · exact follows_of_lookup found'

/-- A subscription that is there behind a step was there before it, unless the step
    has made it. -/
theorem Move.before (move : Move cfg h a h') (found' : h'.subs.lookup n = some s') :
    Follows cfg h n s' ∨ n = h.next ∧ s'.stage = .pending := by
  cases move with
  | connect | refuse | unsent => exact .inl (follows_of_lookup found')
  | close =>
      rw [onConn_subs] at found'
      exact .inl (follows_of_lookup found')
  | send =>
      rw [push_subs] at found'
      exact .inl (follows_of_lookup found')
  | unsubscribe =>
      unfold Hub.unsubscribe at found'
      split at found' <;> exact .inl (follows_of_lookup found')
  | subscribe =>
      simp only [enlist, onConn_subs, onConn_next, Table.lookup_insert_ite] at found'
      split at found'
      · rename_i new
        obtain rfl := Option.some.inj found'
        exact .inr ⟨new, rfl⟩
      · exact .inl (follows_of_lookup found')
  | release found stage | dropLast found stage =>
      simp only [Hub.free, onConn_subs, Table.lookup_erase_ite] at found'
      split at found'
      · cases found'
      · exact .inl (follows_of_lookup found')
  | respond found stage =>
      rw [advance_push_subs] at found'
      exact .inl (follows_of_insert found (stage ▸ .respond) found')
  | reject found stage =>
      rw [advance_push_subs] at found'
      exact .inl (follows_of_insert found (stage ▸ .reject) found')
  | disconnected found stage | drop found stage | fail found stage | panics found stage | rejected found stage =>
      exact .inl (follows_of_insert found (stage ▸ .release trivial) found')
  | complete found stage => exact .inl (follows_of_insert found (stage ▸ .complete) found')
  | insert found stage => exact .inl (follows_of_insert found (stage ▸ .accept) found')
  | clone found stage | checkActive found stage | checkClosed found stage | remove found stage | dropShare found stage =>
      exact .inl (follows_of_insert found (stage ▸ .clones) found')

theorem Move.follows (move : Move cfg h a h') (old : n < h.next) (found' : h'.subs.lookup n = some s') :
    Follows cfg h n s' := by
  rcases move.before found' with follows | ⟨new, -⟩
  · exact follows
  · exact absurd new (Nat.ne_of_lt old)

/-- No number is given twice. -/
theorem Move.next_le (move : Move cfg h a h') : h.next ≤ h'.next := by
  cases move with
  | subscribe =>
      simp only [enlist, onConn_next]
      exact Nat.le_succ _
  | unsubscribe =>
      unfold Hub.unsubscribe
      split <;> exact Nat.le_refl _
  | close | send | respond | reject | release | dropLast =>
      simp only [advance, Hub.free, onConn_next, push_next]
      exact Nat.le_refl _
  | _ => exact Nat.le_refl _

/-! ## Who changes an entry -/

section Entries

variable (k : MethodId × SubscriptionKey) (t : Transition Hub HubAction)

/-- An `accept` puts its entry into the table. -/
def Inserts : Prop :=
  ∃ m s rp, t.action = .acceptInsert m ∧ t.before.subs.lookup m = some s ∧ (s.method, s.uniqSub) = k ∧
    s.stage = .completed rp

/-- The `drop` of a clone takes the entry off. -/
def Removes : Prop :=
  ∃ m s, t.action = .dropRemove m ∧ t.before.subs.lookup m = some s ∧ (s.method, s.uniqSub) = k

/-- An unsubscribe call for the entry succeeds. -/
def Unsubscribes : Prop :=
  ∃ conn method params subId, t.action = .unsubscribe conn method params ∧ paramsOne params = some subId ∧
    (method, ⟨conn, subId⟩) = k ∧ (t.before.unsubscribe conn method params).1 = true

end Entries

variable {k : MethodId × SubscriptionKey}

/-- An entry changes in three ways only. -/
theorem Move.entry (move : Move cfg h a h') (k : MethodId × SubscriptionKey) :
    h'.subscribers.lookup k = h.subscribers.lookup k ∨
    (∃ m s rp, a = .acceptInsert m ∧ h.subs.lookup m = some s ∧ (s.method, s.uniqSub) = k ∧
      s.stage = .completed rp ∧ h'.subscribers.lookup k = some m) ∨
    (∃ m s, a = .dropRemove m ∧ h.subs.lookup m = some s ∧ (s.method, s.uniqSub) = k ∧
      h'.subscribers.lookup k = none) ∨
    (∃ conn method params subId, a = .unsubscribe conn method params ∧ paramsOne params = some subId ∧
      (method, ⟨conn, subId⟩) = k ∧ h'.subscribers.lookup k = none) := by
  cases move with
  | @insert m s rp found stage =>
      by_cases same : (s.method, s.uniqSub) = k
      · refine .inr (.inl ⟨m, s, rp, rfl, found, same, stage, ?_⟩)
        simp only [advance, Table.lookup_insert_ite, same, if_true]
      · refine .inl ?_
        simp only [advance, Table.lookup_insert_ite, if_neg (Ne.symm same)]
  | @remove m s handles leaving left found stage =>
      by_cases same : (s.method, s.uniqSub) = k
      · refine .inr (.inr (.inl ⟨m, s, rfl, found, same, ?_⟩))
        simp only [advance, Table.lookup_erase_ite, same, if_true]
      · refine .inl ?_
        simp only [advance, Table.lookup_erase_ite, if_neg (Ne.symm same)]
  | @unsubscribe conn method params =>
      cases given : paramsOne params with
      | none =>
          refine .inl ?_
          simp only [Hub.unsubscribe, given]
      | some subId =>
          rw [unsubscribe_eq given]
          by_cases same : (method, ⟨conn, subId⟩) = k
          · refine .inr (.inr (.inr ⟨conn, method, params, subId, rfl, given, same, ?_⟩))
            simp only [Table.lookup_erase_ite, same, if_true]
          · refine .inl ?_
            simp only [Table.lookup_erase_ite, if_neg (Ne.symm same)]
  | close | send | respond | reject | release | dropLast | subscribe =>
      refine .inl ?_
      simp only [advance, Hub.free, enlist, onConn_subscribers, push_subscribers]
  | _ => exact .inl rfl

/-- What is in the table stays there as long as nobody takes it off or overwrites
    it. -/
theorem entry_kept (taken : h.step cfg a = some h') (here : h.subscribers.lookup k = some n)
    (inserted : ¬ Inserts k ⟨h, a, h'⟩) (removed : ¬ Removes k ⟨h, a, h'⟩)
    (unsubscribed : ¬ Unsubscribes k ⟨h, a, h'⟩) : h'.subscribers.lookup k = some n := by
  rcases (move_of_step taken).entry k with same | ⟨m, s, rp, act, found, own, stage, -⟩ | ⟨m, s, act, found, own, -⟩ |
    ⟨conn, method, params, subId, act, given, own, -⟩
  · rw [same, here]
  · exact absurd ⟨m, s, rp, act, found, own, stage⟩ inserted
  · exact absurd ⟨m, s, act, found, own⟩ removed
  · refine absurd ⟨conn, method, params, subId, act, given, own, ?_⟩ unsubscribed
    rw [unsubscribe_eq given, own, here]
    rfl

/-- The subscription with this entry was accepted, if it is still there at all. -/
structure Settled (n : SinkId) (k : MethodId × SubscriptionKey) (h : Hub) : Prop where
  old : n < h.next
  accepted : ∀ {s}, h.subs.lookup n = some s →
    (s.method, s.uniqSub) = k ∧ ∃ handles leaving left, s.stage = .accepted handles leaving left

theorem Settled.of_step (settled : Settled n k h) (taken : h.step cfg a = some h') : Settled n k h' := by
  have move := move_of_step taken
  refine ⟨Nat.lt_of_lt_of_le settled.old move.next_le, ?_⟩
  intro s' found'
  obtain ⟨s, stage, found, rfl, next⟩ := move.follows settled.old found'
  obtain ⟨own, handles, leaving, left, accepted⟩ := settled.accepted found
  refine ⟨own, ?_⟩
  rw [accepted] at next
  cases next with
  | refl => exact ⟨_, _, _, rfl⟩
  | release early => exact early.elim
  | clones => exact ⟨_, _, _, rfl⟩

theorem Settled.later (settled : Settled n k h) {us : List (Transition Hub HubAction)} (run : Run (step cfg) h us h') :
    Settled n k h' :=
  run.invariant (Settled n k) (fun _ => True) (fun _ _ => trivial) settled fun _ _ before taken => before.of_step taken

/-- An accepted subscription that is off the table does not get back there. -/
theorem Settled.off_of_step (settled : Settled n k h) (off : h.subscribers.lookup k ≠ some n)
    (taken : h.step cfg a = some h') : h'.subscribers.lookup k ≠ some n := by
  rcases (move_of_step taken).entry k with same | ⟨m, s, rp, -, found, -, stage, entry⟩ | ⟨_, _, -, -, -, entry⟩ |
    ⟨_, _, _, _, -, -, -, entry⟩
  · rwa [same]
  · rw [entry]
    intro same
    obtain rfl := Option.some.inj same
    obtain ⟨-, handles, leaving, left, accepted⟩ := settled.accepted found
    cases accepted.symm.trans stage
  · rw [entry]
    simp
  · rw [entry]
    simp

theorem Settled.off_later (settled : Settled n k h) (off : h.subscribers.lookup k ≠ some n)
    {us : List (Transition Hub HubAction)} (run : Run (step cfg) h us h') : h'.subscribers.lookup k ≠ some n := by
  have both : Settled n k h' ∧ h'.subscribers.lookup k ≠ some n :=
    run.invariant (fun h => Settled n k h ∧ h.subscribers.lookup k ≠ some n) (fun _ => True) (fun _ _ => trivial)
      ⟨settled, off⟩ fun _ _ before taken => ⟨before.1.of_step taken, before.1.off_of_step before.2 taken⟩
  exact both.2

/-- On the table it is open. -/
theorem isClosed_eq_false (up : h.isOpen s.uniqSub.connId = true)
    (entry : h.subscribers.lookup (s.method, s.uniqSub) = some n) : h.isClosed n s = false := by
  simp only [Hub.isClosed, isActive, entry, up, decide_true, Bool.not_true, Bool.or_self]

/-- Off the table it is closed. -/
theorem Settled.isClosed (settled : Settled n k h) (off : h.subscribers.lookup k ≠ some n)
    (found : h.subs.lookup n = some s) : h.isClosed n s = true := by
  have inactive : h.isActive n s = false := by
    refine decide_eq_false ?_
    rw [(settled.accepted found).1]
    exact off
  rw [Hub.isClosed, inactive, Bool.not_false, Bool.or_true]

/-- `accept` has put its entry into the table. -/
theorem settled_of_insert {ts : List (Transition Hub HubAction)} (run : Run (step cfg) .new ts h)
    (inserted : h.step cfg (.acceptInsert n) = some h') (found' : h'.subs.lookup n = some s')
    (accepted : s'.stage = .accepted 1 0 0) :
    Settled n (s'.method, s'.uniqSub) h' ∧ h'.subscribers.lookup (s'.method, s'.uniqSub) = some n := by
  have move := move_of_step inserted
  have old : n < h'.next := by
    by_contra late
    cases found'.symm.trans (((sound run).of_move move).fresh (Nat.le_of_not_lt late))
  refine ⟨⟨old, ?_⟩, ?_⟩
  · intro s found
    obtain rfl := Option.some.inj (found'.symm.trans found)
    exact ⟨rfl, 1, 0, 0, accepted⟩
  · cases move with
    | @insert _ s rp found stage success =>
        simp only [advance, Table.lookup_insert_ite, if_true] at found'
        obtain rfl := Option.some.inj found'
        simp only [advance, Table.lookup_insert_ite, if_true]
    | panics found stage failed =>
        simp only [advance, Table.lookup_insert_ite, if_true] at found'
        obtain rfl := Option.some.inj found'
        cases accepted

/-- The entry is gone behind a `drop` that takes it off. -/
theorem lookup_of_removes (taken : h.step cfg a = some h') (removes : Removes k ⟨h, a, h'⟩) :
    h'.subscribers.lookup k = none := by
  obtain ⟨m, s, act, found, own⟩ := removes
  dsimp only at act found
  subst act
  cases move_of_step taken with
  | remove found' =>
      obtain rfl := Option.some.inj (found.symm.trans found')
      simp only [advance, Table.lookup_erase_ite, own, if_true]

/-- A run that accepts a subscription and goes on, with the connection open, no
    unsubscribe call for it successful, its key not inserted again, and a clone left:
    the entry is in the table, the clones are not closed and what they send is
    delivered, exactly when no `drop` has taken the entry off. -/
theorem clones_alive_iff {ts us : List (Transition Hub HubAction)} {h₀ h₁ : Hub} {s₁ : Subscription}
    {handles leaving left : Nat} (run : Run (step cfg) .new ts h₀)
    (inserted : h₀.step cfg (.acceptInsert n) = some h₁) (found₁ : h₁.subs.lookup n = some s₁)
    (accepted : s₁.stage = .accepted 1 0 0) (later : Run (step cfg) h₁ us h)
    (unsubscribed : ∀ t ∈ us, ¬ Unsubscribes (s₁.method, s₁.uniqSub) t)
    (reinserted : ∀ t ∈ us, ¬ Inserts (s₁.method, s₁.uniqSub) t)
    (found : h.subs.lookup n = some s) (up : h.isOpen s.uniqSub.connId = true)
    (stage : s.stage = .accepted (handles + 1) leaving left) :
    (h.subscribers.lookup (s.method, s.uniqSub) = some n ∧ h.isClosed n s = false ∧
        ∀ msg, h.step cfg (.send n msg) = some (h.push s.uniqSub.connId (.sink n)
          (subMessageToJson msg s.uniqSub.subId s.notif))) ↔
      ∀ t ∈ us, ¬ Removes (s₁.method, s₁.uniqSub) t := by
  obtain ⟨settled, entry⟩ := settled_of_insert run inserted found₁ accepted
  have own := ((settled.later later).accepted found).1
  constructor
  · rintro ⟨here, -⟩ t member removes
    obtain ⟨pre, post, -, before, taken, after⟩ := later.split member
    have gone := lookup_of_removes taken removes
    have settledAfter := (settled.later before).of_step taken
    have off := settledAfter.off_later (by rw [gone]; simp) after
    rw [own] at here
    exact off here
  · intro kept
    have here : h.subscribers.lookup (s₁.method, s₁.uniqSub) = some n :=
      later.invariant (fun h => h.subscribers.lookup (s₁.method, s₁.uniqSub) = some n)
        (fun t => ¬ Inserts (s₁.method, s₁.uniqSub) t ∧ ¬ Removes (s₁.method, s₁.uniqSub) t ∧
          ¬ Unsubscribes (s₁.method, s₁.uniqSub) t)
        (fun t member => ⟨reinserted t member, kept t member, unsubscribed t member⟩) entry
        fun t good before taken => entry_kept taken before good.1 good.2.1 good.2.2
    rw [← own] at here
    have unclosed : h.isClosed n s = false := isClosed_eq_false up here
    refine ⟨here, unclosed, fun msg => ?_⟩
    simp only [step, found, Option.bind_some, stepSink, stage, unclosed, Bool.false_eq_true, if_false]

/-- The settings of the examples. -/
def small : ServerConfig := { maxSubscriptionsPerConnection := 1, maxResponseBodySize := 100 }

/-- The clones of a sink that are in use, when its connection is open. -/
def clones (h : Hub) (n : SinkId) : Option Nat :=
  (h.subs.lookup n).bind fun s =>
    match s.stage with
    | .accepted handles 0 0 => if h.isOpen s.uniqSub.connId then some handles else none
    | _ => none

theorem of_clones {handles : Nat} (held : h.clones n = some handles) :
    ∃ s, h.subs.lookup n = some s ∧ s.stage = .accepted handles 0 0 ∧ h.isOpen s.uniqSub.connId = true := by
  obtain ⟨s, found, held⟩ := Option.bind_eq_some_iff.mp held
  split at held
  · rename_i stage
    obtain ⟨up, held⟩ := Option.ite_none_right_eq_some.mp held
    cases held
    exact ⟨s, found, stage, up⟩
  · cases held

/-- A clone is made and used. -/
theorem clones_alive_iff_clone :
    ∃ ts h s, Run (step small) .new ts h ∧ ts.map Transition.action = acceptedRun ++ [.clone 0] ∧
      h.subs.lookup 0 = some s ∧ h.clones 0 = some 2 ∧
      h.subscribers.lookup (s.method, s.uniqSub) = some 0 ∧ h.isClosed 0 s = false := by
  obtain ⟨ts, h₀, run, labels, state⟩ := Run.reaches (step small) .new acceptedRun.dropLast
    (fun h₀ => (h₀.step small (.acceptInsert 0)).any fun h₁ =>
      h₁.clones 0 = some 1 && (h₁.step small (.clone 0)).any fun h => h.clones 0 = some 2)
    (by decide +kernel)
  obtain ⟨h₁, inserted, state⟩ := (Option.any_eq_true _ _).mp state
  obtain ⟨one, state⟩ := Bool.and_eq_true_iff.mp state
  obtain ⟨h, cloned, two⟩ := (Option.any_eq_true _ _).mp state
  obtain ⟨s₁, found₁, accepted, -⟩ := of_clones (of_decide_eq_true one)
  obtain ⟨s, found, stage, up⟩ := of_clones (of_decide_eq_true two)
  have later : Run (step small) h₁ [⟨h₁, .clone 0, h⟩] h := .snoc .nil cloned
  have only : ∀ t ∈ [(⟨h₁, .clone 0, h⟩ : Transition Hub HubAction)], t.action = .clone 0 := by
    intro t member
    rw [List.mem_singleton.mp member]
  obtain ⟨here, unclosed, -⟩ := (clones_alive_iff run inserted found₁ accepted later
    (by rintro t member ⟨_, _, _, _, act, -⟩; cases (only t member).symm.trans act)
    (by rintro t member ⟨_, _, _, act, -⟩; cases (only t member).symm.trans act) found up stage).mpr
    (by rintro t member ⟨_, _, act, -⟩; cases (only t member).symm.trans act)
  refine ⟨_, h, s, (run.snoc inserted).trans later, ?_, found, of_decide_eq_true two, here, unclosed⟩
  rw [List.map_append, List.map_append, labels]
  rfl

/-- A clone is made and dropped: the other one is closed, and what it sends is
    lost. -/
theorem clone_dropped_closes :
    ∃ ts h s, Run (step small) .new ts h ∧
      ts.map Transition.action = acceptedRun ++ [.clone 0, .dropCheck 0, .dropRemove 0, .dropPermit 0] ∧
      h.subs.lookup 0 = some s ∧ h.clones 0 = some 1 ∧
      h.subscribers.lookup (s.method, s.uniqSub) = none ∧ h.isClosed 0 s = true ∧
      ∀ msg, h.step small (.send 0 msg) = some h := by
  obtain ⟨ts, h, run, labels, state⟩ := Run.reaches (step small) .new
    (acceptedRun ++ [.clone 0, .dropCheck 0, .dropRemove 0, .dropPermit 0])
    (fun h => h.clones 0 = some 1 ∧ (h.subs.lookup 0).all fun s =>
      h.subscribers.lookup (s.method, s.uniqSub) = none && h.isClosed 0 s)
    (by decide +kernel)
  obtain ⟨one, state⟩ := of_decide_eq_true state
  obtain ⟨s, found, stage, -⟩ := of_clones one
  rw [found, Option.all_some, Bool.and_eq_true] at state
  refine ⟨ts, h, s, run, labels, found, one, of_decide_eq_true state.1, state.2, fun msg => ?_⟩
  simp only [step, found, Option.bind_some, stepSink, stage, state.2, if_true]

/-! ## Unsubscribing -/

/-- What is on the channels after a step. -/
theorem Move.outgoing (move : Move cfg h a h') (conn : ConnectionId) :
    h'.outgoing conn = h.outgoing conn ∨
    ∃ n s origin json, a.sink = some n ∧ h.subs.lookup n = some s ∧ s.uniqSub.connId = conn ∧
      h'.outgoing conn = h.outgoing conn ++ [(origin, json)] ∧
      (origin = .accept n ∧ json = (s.acceptResponse cfg).json ∧
          h'.subs.lookup n = some { s with stage := .responded (s.acceptResponse cfg) } ∨
        origin = .reject n ∨
        origin = .sink n ∧ h.isClosed n s = false ∧
          ∃ msg, a = .send n msg ∧ json = subMessageToJson msg s.uniqSub.subId s.notif) := by
  have pushed : ∀ (h : Hub) conn' origin json, (h.push conn' origin json).outgoing conn = h.outgoing conn ∨
      conn' = conn ∧ (h.push conn' origin json).outgoing conn = h.outgoing conn ++ [(origin, json)] := by
    intro h conn' origin json
    rw [outgoing_push]
    split
    · rename_i here
      exact .inr ⟨here.1.symm, rfl⟩
    · exact .inl (List.append_nil _)
  cases move with
  | @connect conn' free =>
      refine .inl ?_
      simp only [Hub.outgoing, Table.lookup_insert_ite]
      split
      · rename_i same
        rw [same, free]
        rfl
      · rfl
  | close => exact .inl (outgoing_onConn _ _ (by intros; rfl) _)
  | subscribe => exact .inl (outgoing_onConn _ _ (by intros; rfl) _)
  | release | dropLast => exact .inl (outgoing_onConn _ _ (by intros; rfl) _)
  | unsubscribe =>
      unfold Hub.unsubscribe
      split <;> exact .inl rfl
  | @respond n s found =>
      rcases pushed h s.uniqSub.connId (.accept n) (s.acceptResponse cfg).json with same | ⟨here, said⟩
      · exact .inl same
      · refine .inr ⟨n, s, _, _, rfl, found, here, said, .inl ⟨rfl, rfl, ?_⟩⟩
        rw [advance_push_subs, Table.lookup_insert_ite, if_pos rfl]
  | @reject n s err found =>
      rcases pushed h s.uniqSub.connId (.reject n) (MethodResponse.subscriptionError s.id err).json with
        same | ⟨here, said⟩
      · exact .inl same
      · exact .inr ⟨n, s, _, _, rfl, found, here, said, .inr (.inl rfl)⟩
  | @send n s msg found up =>
      rcases pushed h s.uniqSub.connId (.sink n) (subMessageToJson msg s.uniqSub.subId s.notif) with same | ⟨here, said⟩
      · exact .inl same
      · exact .inr ⟨n, s, _, _, rfl, found, here, said, .inr (.inr ⟨rfl, up, msg, rfl, rfl⟩)⟩
  | _ => exact .inl rfl

theorem Move.outgoing_grows (move : Move cfg h a h') {conn : ConnectionId} :
    h.outgoing conn <+: h'.outgoing conn := by
  rcases move.outgoing conn with same | ⟨-, -, origin, json, -, -, -, grown, -⟩
  · rw [same]
  · exact ⟨[(origin, json)], grown.symm⟩

theorem outgoing_push_grows {conn conn' : ConnectionId} {origin : Origin} {json : RawText} :
    h.outgoing conn <+: (h.push conn' origin json).outgoing conn := by
  rw [outgoing_push]
  exact List.prefix_append _ _

/-- A response of `accept` is on a channel only when `accept` has sent it, and that
    is the response it goes on with. -/
structure Announced (cfg : ServerConfig) (h : Hub) : Prop where
  response : ∀ {n s rp}, h.subs.lookup n = some s → s.stage = .responded rp ∨ s.stage = .completed rp →
    rp = s.acceptResponse cfg
  told : ∀ {conn n json}, (Origin.accept n, json) ∈ h.outgoing conn → n < h.next ∧
    ∀ s, h.subs.lookup n = some s → json = (s.acceptResponse cfg).json ∧ s.stage ≠ .pending ∧ ∀ rp, s.stage ≠ .rejected rp

theorem Announced.new (cfg : ServerConfig) : Announced cfg .new where
  response found := by cases found
  told sent := by cases sent

theorem Announced.of_move (announced : Announced cfg h) (sound : Sound cfg h) (move : Move cfg h a h') :
    Announced cfg h' := by
  refine ⟨?_, ?_⟩
  · intro n s' rp found' stage'
    rcases move.before found' with ⟨s, stage, found, rfl, next⟩ | ⟨-, pending⟩
    · show rp = s.acceptResponse cfg
      generalize was : s.stage = before at next
      cases next with
      | refl =>
          refine announced.response found ?_
          rw [was]
          exact stage'
      | respond =>
          rcases stage' with same | other
          · exact (Stage.responded.inj same).symm
          · cases other
      | complete =>
          rcases stage' with other | same
          · cases other
          · cases same
            exact announced.response found (.inl was)
      | _ => rcases stage' with other | other <;> cases other
    · rw [pending] at stage'
      rcases stage' with other | other <;> cases other
  · intro conn n json sent
    have kept : (Origin.accept n, json) ∈ h.outgoing conn → n < h'.next ∧
        ∀ s, h'.subs.lookup n = some s →
          json = (s.acceptResponse cfg).json ∧ s.stage ≠ .pending ∧ ∀ rp, s.stage ≠ .rejected rp := by
      intro before
      obtain ⟨old, begun⟩ := announced.told before
      refine ⟨Nat.lt_of_lt_of_le old move.next_le, ?_⟩
      intro s' found'
      obtain ⟨s, stage, found, rfl, next⟩ := move.follows old found'
      exact ⟨(begun s found).1, next.begun (begun s found).2⟩
    rcases move.outgoing conn with same | ⟨m, s, origin, json', -, found, -, same, cases⟩
    · rw [same] at sent
      exact kept sent
    · rw [same] at sent
      rcases List.mem_append.mp sent with before | last
      · exact kept before
      · cases List.mem_singleton.mp last
        rcases cases with ⟨own, rfl, found'⟩ | own | own
        · cases own
          refine ⟨?_, ?_⟩
          · by_contra late
            cases found'.symm.trans ((sound.of_move move).fresh (Nat.le_of_not_lt late))
          · intro s' found''
            obtain rfl := Option.some.inj (found'.symm.trans found'')
            exact ⟨rfl, by simp, by simp⟩
        · cases own
        · cases own.1

theorem announced {ts : List (Transition Hub HubAction)} (run : Run (step cfg) .new ts h) : Announced cfg h := by
  have both : Sound cfg h ∧ Announced cfg h :=
    run.invariant (fun h => Sound cfg h ∧ Announced cfg h) (fun _ => True) (fun _ _ => trivial)
      ⟨.new cfg, .new cfg⟩ fun _ _ before taken =>
        ⟨before.1.of_move (move_of_step taken), before.2.of_move before.1 (move_of_step taken)⟩
  exact both.2

/-- `accept` makes its entry, and the subscription is open. -/
theorem opens_of_completed {rp : MethodResponse} (found : h.subs.lookup n = some s) (stage : s.stage = .completed rp)
    (success : rp.isSuccess = true) (up : h.isOpen s.uniqSub.connId = true) :
    ∃ h', h.step cfg (.acceptInsert n) = some h' ∧
      h'.subs.lookup n = some { s with stage := .accepted 1 0 0 } ∧
      h'.isClosed n { s with stage := .accepted 1 0 0 } = false := by
  refine ⟨{ h with subscribers := h.subscribers.insert (s.method, s.uniqSub) n }.advance n s (.accepted 1 0 0), ?_, ?_, ?_⟩
  · simp only [step, found, Option.bind_some, stepSink, stage, success, if_true]
  · simp only [advance, Table.lookup_insert_ite, if_true]
  · exact isClosed_eq_false up (by simp only [advance, Table.lookup_insert_ite, if_true])

/-- As long as `accept` has not made its entry, it may still make it. -/
theorem opens_of_announced (announced : Announced cfg h) (found : h.subs.lookup n = some s)
    (success : (s.acceptResponse cfg).isSuccess = true) (up : h.isOpen s.uniqSub.connId = true) {rp : MethodResponse}
    (stage : s.stage = .responded rp ∨ s.stage = .completed rp) :
    ∃ us h', Run (step cfg) h us h' ∧ h'.subs.lookup n = some { s with stage := .accepted 1 0 0 } ∧
      h'.isClosed n { s with stage := .accepted 1 0 0 } = false := by
  obtain rfl := announced.response found stage
  rcases stage with responded | completed
  · have taken : h.step cfg (.acceptComplete n) =
        some ((h.answer n (.sent (s.acceptResponse cfg))).advance n s (.completed (s.acceptResponse cfg))) := by
      simp only [step, found, Option.bind_some, stepSink, responded]
    obtain ⟨h', inserted, found', opened⟩ := @opens_of_completed cfg
      ((h.answer n (.sent (s.acceptResponse cfg))).advance n s (.completed (s.acceptResponse cfg))) n
      { s with stage := .completed (s.acceptResponse cfg) } _
      (by simp only [advance, Table.lookup_insert_ite, if_true]) rfl success up
    exact ⟨_, h', (Run.nil.snoc taken).snoc inserted, found', opened⟩
  · obtain ⟨h', inserted, found', opened⟩ := @opens_of_completed cfg h n s _ found completed success up
    exact ⟨_, h', Run.nil.snoc inserted, found', opened⟩

/-- The client has been told that its subscription is accepted and unsubscribes,
    and nothing else has closed it: the call succeeds and the sink is closed from
    then on exactly when `accept` has made its entry. -/
theorem unsubscribe_works_iff {ts : List (Transition Hub HubAction)} (run : Run (step cfg) .new ts h)
    (found : h.subs.lookup n = some s)
    (sent : (Origin.accept n, (s.acceptResponse cfg).json) ∈ h.outgoing s.uniqSub.connId)
    (success : (s.acceptResponse cfg).isSuccess = true) (up : h.isOpen s.uniqSub.connId = true)
    (unreleased : s.stage ≠ .released)
    (active : ∀ handles leaving left, s.stage = .accepted handles leaving left → h.isActive n s = true)
    {params : Option RawValue} (given : paramsOne params = some s.uniqSub.subId) :
    ((h.unsubscribe s.uniqSub.connId s.method params).1 = true ∧
      ∀ us h' s' handles leaving left, Run (step cfg) (h.unsubscribe s.uniqSub.connId s.method params).2 us h' →
        h'.subs.lookup n = some s' → s'.stage = .accepted handles leaving left → h'.isClosed n s' = true) ↔
    ∃ handles leaving left, s.stage = .accepted handles leaving left := by
  have announced := announced run
  rw [unsubscribe_eq given]
  constructor
  · rintro ⟨-, closed⟩
    have waits : ∀ rp, ¬ (s.stage = .responded rp ∨ s.stage = .completed rp) := by
      intro rp stage
      obtain ⟨us, h', later, found', opened⟩ := @opens_of_announced cfg
        { h with subscribers := h.subscribers.erase (s.method, s.uniqSub) } n s
        ⟨announced.response, announced.told⟩ found success up rp stage
      rw [closed us h' _ 1 0 0 later found' rfl] at opened
      cases opened
    obtain ⟨-, begun, unrejected⟩ := (announced.told sent).2 s found
    cases stage : s.stage with
    | pending => exact absurd stage begun
    | responded rp => exact absurd (.inl stage) (waits rp)
    | completed rp => exact absurd (.inr stage) (waits rp)
    | rejected rp => exact absurd stage (unrejected rp)
    | released => exact absurd stage unreleased
    | accepted handles leaving left => exact ⟨handles, leaving, left, rfl⟩
  · rintro ⟨handles, leaving, left, stage⟩
    have entry : h.subscribers.lookup (s.method, s.uniqSub) = some n :=
      of_decide_eq_true (active handles leaving left stage)
    refine ⟨by rw [entry]; rfl, ?_⟩
    intro us h' s' handles' leaving' left' later found' _
    have settled : Settled n (s.method, s.uniqSub)
        { h with subscribers := h.subscribers.erase (s.method, s.uniqSub) } := by
      refine ⟨(announced.told sent).1, ?_⟩
      intro s₁ found₁
      obtain rfl := Option.some.inj (found.symm.trans found₁)
      exact ⟨rfl, handles, leaving, left, stage⟩
    have gone : (h.subscribers.erase (s.method, s.uniqSub)).lookup (s.method, s.uniqSub) ≠ some n := by
      rw [Table.lookup_erase_ite, if_pos rfl]
      simp
    exact (settled.later later).isClosed (settled.off_later gone later) found'

/-- The response of `accept` for the sink `0` is on the channel of the connection
    `0`. -/
def told (h : Hub) : Bool := (h.outgoing 0).any fun message => message.1 = .accept 0

/-- The client unsubscribes when `accept` has finished. -/
theorem unsubscribe_works_iff_accepted :
    ∃ ts h s, Run (step small) .new ts h ∧ ts.map Transition.action = acceptedRun ∧ h.subs.lookup 0 = some s ∧
      (h.unsubscribe s.uniqSub.connId s.method (some (.arr [s.uniqSub.subId.toJson]))).1 = true ∧
      (h.unsubscribe s.uniqSub.connId s.method (some (.arr [s.uniqSub.subId.toJson]))).2.isClosed 0 s = true := by
  obtain ⟨ts, h, run, labels, state⟩ := Run.reaches (step small) .new acceptedRun
    (fun h => h.clones 0 = some 1 ∧ h.told = true ∧ (h.subs.lookup 0).all fun s =>
      s.uniqSub.connId = 0 && (s.acceptResponse small).isSuccess && h.isActive 0 s)
    (by decide +kernel)
  obtain ⟨one, told, state⟩ := of_decide_eq_true state
  obtain ⟨s, found, stage, up⟩ := of_clones one
  rw [found, Option.all_some, Bool.and_eq_true, Bool.and_eq_true] at state
  obtain ⟨⟨own, success⟩, active⟩ := state
  obtain ⟨⟨origin, json⟩, sent, same⟩ := List.any_eq_true.mp told
  obtain rfl := of_decide_eq_true same
  obtain ⟨rfl, -⟩ := ((announced run).told sent).2 s found
  have sent' : (Origin.accept 0, (s.acceptResponse small).json) ∈ h.outgoing s.uniqSub.connId := by
    rw [of_decide_eq_true own]
    exact sent
  have given : paramsOne (some (.arr [s.uniqSub.subId.toJson])) = some s.uniqSub.subId :=
    SubscriptionId.fromJson_toJson _
  obtain ⟨returned, closed⟩ := (unsubscribe_works_iff run found sent' success up (by rw [stage]; simp)
    (fun _ _ _ _ => active) given).mpr ⟨1, 0, 0, stage⟩
  refine ⟨ts, h, s, run, labels, found, returned, closed [] _ s 1 0 0 .nil ?_ stage⟩
  rw [unsubscribe_eq given]
  exact found

/-- The client unsubscribes as soon as it has been told: the call fails, `accept`
    makes its entry behind it, and the sink is open. -/
theorem unsubscribe_fails_before_insert :
    ∃ ts h s, Run (step small) .new ts h ∧
      ts.map Transition.action = [.connect 0, .subscribe
        { connId := 0, method := 0, notif := "hello", id := .number 1, subId := .num 7 }, .acceptSend 0] ∧
      h.subs.lookup 0 = some s ∧ s.uniqSub = ⟨0, .num 7⟩ ∧
      (.accept 0, (s.acceptResponse small).json) ∈ h.outgoing 0 ∧ (s.acceptResponse small).isSuccess = true ∧
      h.isOpen 0 = true ∧ (h.unsubscribe 0 0 (some (.arr [.int 7]))).1 = false ∧
      ∃ us h' s', Run (step small) (h.unsubscribe 0 0 (some (.arr [.int 7]))).2 us h' ∧
        us.map Transition.action = [.acceptComplete 0, .acceptInsert 0] ∧
        h'.subs.lookup 0 = some s' ∧ s'.stage = .accepted 1 0 0 ∧ h'.isClosed 0 s' = false := by
  obtain ⟨ts, h, run, labels, state⟩ := Run.reaches (step small) .new
    [.connect 0, .subscribe { connId := 0, method := 0, notif := "hello", id := .number 1, subId := .num 7 },
      .acceptSend 0]
    (fun h => h.told = true ∧ h.isOpen 0 = true ∧ (h.unsubscribe 0 0 (some (.arr [.int 7]))).1 = false ∧
      ((h.subs.lookup 0).any fun s => s.uniqSub = ⟨0, .num 7⟩ ∧ (s.acceptResponse small).isSuccess = true) = true ∧
      (exec (step small) (h.unsubscribe 0 0 (some (.arr [.int 7]))).2 [.acceptComplete 0, .acceptInsert 0]).any
        (fun h' => h'.clones 0 = some 1 ∧ (h'.subs.lookup 0).all fun s' => !h'.isClosed 0 s') = true)
    (by decide +kernel)
  obtain ⟨told, up, failed, state, later⟩ := of_decide_eq_true state
  obtain ⟨s, found, state⟩ := (Option.any_eq_true _ _).mp state
  obtain ⟨own, success⟩ := of_decide_eq_true state
  obtain ⟨⟨origin, json⟩, sent, same⟩ := List.any_eq_true.mp told
  obtain rfl := of_decide_eq_true same
  obtain ⟨rfl, -⟩ := ((announced run).told sent).2 s found
  obtain ⟨us, h', later, labels', state'⟩ := Run.reaches _ _ _ _ later
  obtain ⟨one, state'⟩ := of_decide_eq_true state'
  obtain ⟨s', found', stage', -⟩ := of_clones one
  rw [found', Option.all_some, Bool.not_eq_true'] at state'
  exact ⟨ts, h, s, run, labels, found, own, sent, success, up, failed, us, h', s', later, labels', found', stage', state'⟩

end Hub

end Server

end Jsonrpsee
