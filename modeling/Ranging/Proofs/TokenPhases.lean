import Ranging.Proofs.Registrations
import Ranging.Proofs.ShiftHistory
import Ranging.Proofs.Withdrawal

-- What the hub knows of each token, by whether its guard is held, half dropped or gone and by what the hub was last
-- told about it. While an order, a task or an event is under way the two may disagree, and it is under way to settle
-- that.
namespace Ranging

theorem Registry.change_taken (r r' : Registry) (token : LivenessToken) (taken : true ∈ r.change r' token) :
    r.isTracked token = false ∧ r'.isTracked token = true := by
  unfold change at taken
  split at taken
  · cases taken
  · next differ =>
      have tracked : r'.isTracked token = true := (List.mem_singleton.1 taken).symm
      rw [tracked] at differ
      exact ⟨Bool.eq_false_iff.2 differ, tracked⟩

theorem taken_kept (token : LivenessToken) (d e : MidCall) (tidy : d.scheduler.registry.Tidy)
    (known : true ∈ watches token d.effects → ∃ a ∈ d.admitted, a.2.token = token) (move : Move d e)
    (taken : true ∈ watches token e.effects) : ∃ a ∈ e.admitted, a.2.token = token := by
  rw [move_watches token d e tidy move] at taken
  rcases List.mem_append.1 taken with before | now
  · obtain ⟨a, admitted, same⟩ := known before
    rcases move_admitted d e move with unchanged | ⟨sub, longer⟩
    · exact ⟨a, unchanged ▸ admitted, same⟩
    · exact ⟨a, longer ▸ List.mem_append_left _ admitted, same⟩
  · obtain ⟨unknown, tracked⟩ := Registry.change_taken _ _ token now
    cases move_flow d e move with
    | kept present standing ended admitted buried next registry =>
        rw [registry, unknown] at tracked
        cases tracked
    | left op outcome present standing ended admitted buried next registry =>
        rw [registry, (Registry.isTracked_detach _ _ _ _).2, unknown] at tracked
        cases tracked
    | refused answers sub op kind made wellFormed present standing ended admitted buried next registry =>
        rw [registry, (Registry.isTracked_detach _ _ _ _).2, unknown] at tracked
        cases tracked
    | joined answers sub op made wellFormed present standing ended admitted unburied buried next registry =>
        rw [registry, Registry.isTracked_attach, unknown] at tracked
        have same : token = op.token := by simpa using tracked
        refine ⟨(op.id, sub), admitted ▸ List.mem_append_right _ List.mem_cons_self, ?_⟩
        rw [same, made]
        rfl
    | buried other ids present standing ended admitted unburied buried next purged =>
        rw [(Registry.isTracked_purge _ _ other token ids purged).2, unknown] at tracked
        cases tracked
    | forgotten other present standing ended admitted buried unburied gone next registry =>
        rw [registry, unknown] at tracked
        cases tracked

theorem reached_taken (settings : Settings) (h : History) (path : History.Reached settings h) (token : LivenessToken)
    (taken : true ∈ watches token h.effects) : ∃ a ∈ h.admitted, a.2.token = token := by
  refine reached_law h settings (fun d => true ∈ watches token d.effects → ∃ a ∈ d.admitted, a.2.token = token) ?_
    (fun d e sound known move => taken_kept token d e sound.tracked.tidy known move) path taken
  intro ready positive never
  cases never

theorem requesterDied_withdrawn (answers : Answers) (s : Scheduler) (token : LivenessToken) (op : Operation)
    (gone : (op, .withdrawn) ∈ (s.requesterDied answers token).ended) : op.token = token := by
  unfold Scheduler.requesterDied at gone
  split at gone
  · cases gone
  · rw [Turn.andThen_ended, Turn.did_ended, List.nil_append] at gone
    exact of_decide_eq_true (Scheduler.withdraw_chosen answers _ _ op gone)

namespace Shift

section
variable (token : LivenessToken) (s : Shift)

-- The hub was last told to watch over that life.
def heeds (token : LivenessToken) (s : Shift) : Bool := (watches token s.done).getLast?.getD false

def asked (token : LivenessToken) (s : Shift) : List Bool := watches token s.left

-- A death of which the hub knows will be told, or the life is going to be let go anyway.
inductive DeathPending (token : LivenessToken) (s : Shift) : Prop where
  | noticed (task : Task) : task ∈ s.station.agenda → task.job = .watch token →
      s.station.hub.hasLost token = true → DeathPending token s
  | told : .call (.requesterDied token) ∈ s.pending → DeathPending token s
  | released : false ∈ s.asked token → DeathPending token s

-- The tokens whose channels are open: the guard is held, or its drop has not come to its end.
def connections (s : Shift) : List LivenessToken := s.guards ++ s.leaving

inductive TokenPhase (token : LivenessToken) (s : Shift) : Prop where
  | unknown : s.station.hub.wasIssued token = false → token ∉ s.connections → s.heeds token = false →
      s.station.hub.entries.get? token = none → TokenPhase token s
  | held : s.station.hub.wasIssued token = true → token ∈ s.connections → s.heeds token = false →
      s.station.hub.entries.get? token = some .held → TokenPhase token s
  | watched : s.station.hub.wasIssued token = true → token ∈ s.connections → s.heeds token = true →
      s.station.hub.entries.get? token = some .watched → TokenPhase token s
  | gone : s.station.hub.wasIssued token = true → token ∉ s.guards → s.heeds token = false →
      s.station.hub.entries.get? token = none ∨
        s.station.hub.entries.get? token = some .stray ∧ token ∉ s.leaving → TokenPhase token s
  | dying : s.station.hub.wasIssued token = true → token ∉ s.guards → s.heeds token = true →
      s.station.hub.entries.get? token = none ∨
        s.station.hub.entries.get? token = some .lost ∧ token ∉ s.leaving →
      DeathPending token s → TokenPhase token s

structure HubInvariant (s : Shift) : Prop where
  phases : ∀ token, TokenPhase token s
  first : 0 < s.station.hub.nextToken.val
  distinct : s.connections.Nodup
  deaths : ∀ token, .call (.requesterDied token) ∈ s.pending →
    s.station.hub.wasIssued token = true ∧ token ∉ s.guards
  turns : ∀ task ∈ s.station.agenda, ∀ token, task.job = .watch token → task.due ≤ s.station.clock
  sent : ∀ sub, .call (.submit sub) ∈ s.pending → s.station.hub.wasIssued sub.token = true
  admitted : ∀ a ∈ s.history.admitted, s.station.hub.wasIssued a.2.token = true

end

variable (settings : Settings) (s t : Shift) (token : LivenessToken)

theorem ordered_watches : watches token s.ordered = watches token s.done ++ s.asked token := by
  rw [ordered, List.filterMap_append, watches_append]
  rfl

theorem asked_alternating (agrees : s.HistoryAgrees settings) : Alternating (!s.heeds token) (s.asked token) := by
  have alternating : Alternating true (watches token s.history.effects) :=
    (reached_watchesMatch token settings s.history agrees.reached).alternating
  rw [agrees.effects, ordered_watches, alternating_append] at alternating
  exact alternating.2

theorem asked_last (agrees : s.HistoryAgrees settings) :
    (s.asked token).getLast?.getD (s.heeds token) = s.history.scheduler.registry.isTracked token := by
  have current : (watches token s.history.effects).getLast?.getD false = _ :=
    (reached_watchesMatch token settings s.history agrees.reached).current
  rw [agrees.effects, ordered_watches, List.getLast?_append] at current
  rw [← show _ = s.history.scheduler.registry.isTracked token from current, heeds]
  cases (s.asked token).getLast? <;> rfl

theorem tracked_iff (agrees : s.HistoryAgrees settings) : s.history.scheduler.registry.isTracked token = true ↔
    ∃ op ∈ s.history.scheduler.live, op.token = token :=
  tracked_live token s.history (reached_sound s.history settings agrees.reached).tracked

-- Where the loop does not listen any more, every life that was taken up is going to be let go.
theorem deaf_released (agrees : s.HistoryAgrees settings) (deaf : s.station.loop.listens = false)
    (taken : s.heeds token = true ∨ true ∈ s.asked token) : false ∈ s.asked token := by
  have nobody := agrees.closed settings s deaf
  have untracked : s.history.scheduler.registry.isTracked token = false := by
    rw [Bool.eq_false_iff]
    intro tracked
    obtain ⟨op, live, _⟩ := (tracked_iff settings s token agrees).1 tracked
    rw [nobody] at live
    cases live
  have last := asked_last settings s token agrees
  rw [untracked] at last
  cases asked : (s.asked token).getLast? with
  | none =>
      rw [asked] at last
      rw [List.getLast?_eq_none_iff.1 asked] at taken
      rcases taken with watchesMatch | never
      · rw [show s.heeds token = false from last] at watchesMatch
        cases watchesMatch
      · cases never
  | some final =>
      rw [asked] at last
      rw [show final = false from last] at asked
      exact List.mem_of_getLast? asked

theorem TokenPhase.carried (phase : TokenPhase token s)
    (issued : t.station.hub.wasIssued token = s.station.hub.wasIssued token)
    (entry : t.station.hub.entries.get? token = s.station.hub.entries.get? token)
    (held : token ∈ t.guards ↔ token ∈ s.guards) (half : token ∈ t.leaving ↔ token ∈ s.leaving)
    (heeds : t.heeds token = s.heeds token)
    (coming : s.heeds token = true → DeathPending token s → DeathPending token t) : TokenPhase token t := by
  have connected : token ∈ t.connections ↔ token ∈ s.connections := by
    rw [connections, connections, List.mem_append, List.mem_append, held, half]
  cases phase with
  | unknown never apart idle none =>
      exact .unknown (issued ▸ never) (connected.not.2 apart) (heeds ▸ idle) (entry ▸ none)
  | held was here idle kept => exact .held (issued ▸ was) (connected.2 here) (heeds ▸ idle) (entry ▸ kept)
  | watched was here taken kept => exact .watched (issued ▸ was) (connected.2 here) (heeds ▸ taken) (entry ▸ kept)
  | gone was free idle closed =>
      exact .gone (issued ▸ was) (held.not.2 free) (heeds ▸ idle) (entry ▸ closed.imp_right (.imp_right half.not.2))
  | dying was free taken closed due =>
      exact .dying (issued ▸ was) (held.not.2 free) (heeds ▸ taken) (entry ▸ closed.imp_right (.imp_right half.not.2))
        (coming taken due)

theorem TokenPhase.missing (phase : TokenPhase token s) (none : s.station.hub.entries.get? token = none) :
    token ∉ s.guards := by
  cases phase with
  | unknown _ apart _ _ => exact fun held => apart (List.mem_append_left _ held)
  | held _ _ _ kept =>
      rw [none] at kept
      cases kept
  | watched _ _ _ kept =>
      rw [none] at kept
      cases kept
  | gone _ free _ _ => exact free
  | dying _ free _ _ _ => exact free

theorem TokenPhase.lost (phase : TokenPhase token s) (lost : s.station.hub.hasLost token = true) :
    s.station.hub.wasIssued token = true ∧ token ∉ s.guards := by
  have entry : s.station.hub.entries.get? token = some .lost := of_decide_eq_true lost
  cases phase with
  | unknown _ _ _ none =>
      rw [none] at entry
      cases entry
  | held _ _ _ kept =>
      rw [kept] at entry
      cases entry
  | watched _ _ _ kept =>
      rw [kept] at entry
      cases entry
  | gone was free _ _ => exact ⟨was, free⟩
  | dying was free _ _ _ => exact ⟨was, free⟩

theorem HubInvariant.same_hub (invariant : s.HubInvariant) (hub : t.station.hub = s.station.hub)
    (guards : t.guards = s.guards) (leaving : t.leaving = s.leaving) (heeds : ∀ token, t.heeds token = s.heeds token)
    (coming : ∀ token, s.heeds token = true → DeathPending token s → DeathPending token t)
    (deaths : ∀ token, .call (.requesterDied token) ∈ t.pending →
      s.station.hub.wasIssued token = true ∧ token ∉ s.guards)
    (turns : ∀ task ∈ t.station.agenda, ∀ token, task.job = .watch token → task.due ≤ t.station.clock)
    (sent : ∀ sub, .call (.submit sub) ∈ t.pending → s.station.hub.wasIssued sub.token = true)
    (admitted : ∀ a ∈ t.history.admitted, s.station.hub.wasIssued a.2.token = true) : t.HubInvariant := by
  have distinct : t.connections.Nodup := by
    rw [connections, guards, leaving]
    exact invariant.distinct
  refine ⟨?_, hub ▸ invariant.first, distinct, hub ▸ guards ▸ deaths, turns, hub ▸ sent, hub ▸ admitted⟩
  intro token
  exact (invariant.phases token).carried s t token (by rw [hub]) (by rw [hub]) (by rw [guards]) (by rw [leaving])
    (heeds token) (coming token)

-- Every submission is under a token that was given out, and only the hub speaks of deaths.
def vouched (s : Shift) (incident : Incident) : Bool :=
  match incident with
  | .send (.call (.submit sub)) => s.station.hub.wasIssued sub.token
  | .send (.call (.requesterDied _)) => false
  | _ => true

theorem post_hubInvariant (event : Event) (invariant : s.HubInvariant)
    (silent : ∀ token, event ≠ .call (.requesterDied token))
    (issued : ∀ sub, event = .call (.submit sub) → s.station.hub.wasIssued sub.token = true) :
    ({ s with station := s.station.post event } : Shift).HubInvariant := by
  have pending := s.station.post_pending event
  have within : ∀ other, other ∈ (s.station.post event).loop.pending → other ∈ s.pending ∨ other = event := by
    intro other member
    rw [pending] at member
    rcases List.mem_append.1 member with old | new
    · exact .inl old
    · split at new
      · exact .inr (List.mem_singleton.1 new)
      · cases new
  refine invariant.same_hub s _ (s.station.post_hub event) rfl rfl (fun _ => rfl) ?_ ?_ ?_ ?_ invariant.admitted
  · intro token _ coming
    cases coming with
    | noticed task listed job lost => exact .noticed task (by simpa using listed) job (by simpa using lost)
    | told waiting =>
        refine .told ?_
        show _ ∈ (s.station.post event).loop.pending
        rw [pending]
        exact List.mem_append_left _ waiting
    | released gone => exact .released gone
  · intro token waiting
    rcases within _ waiting with old | new
    · exact invariant.deaths token old
    · exact absurd new.symm (silent token)
  · intro task listed token job
    have listed : task ∈ s.station.agenda := by simpa using listed
    simpa using invariant.turns task listed token job
  · intro sub waiting
    rcases within _ waiting with old | new
    · exact invariant.sent sub old
    · exact issued sub new.symm

theorem DeathPending.carried (coming : DeathPending token s)
    (entry : t.station.hub.entries.get? token = s.station.hub.entries.get? token)
    (tasks : ∀ task ∈ s.station.agenda, task.job = .watch token → task ∈ t.station.agenda)
    (pending : s.pending ⊆ t.pending) (asked : t.asked token = s.asked token) : DeathPending token t := by
  cases coming with
  | noticed task listed job lost =>
      refine .noticed task (tasks task listed job) job ?_
      rw [Hub.hasLost, entry]
      exact lost
  | told waiting => exact .told (pending waiting)
  | released gone => exact .released (asked ▸ gone)

theorem serve_guards : s.serve.guards = s.guards := by
  unfold serve
  split <;> rfl

theorem serve_leaving : s.serve.leaving = s.leaving := by
  unfold serve
  split <;> rfl

theorem serve_connections : s.serve.connections = s.connections := by
  rw [connections, connections, serve_guards, serve_leaving]

theorem serve_issued : s.serve.station.hub.wasIssued = s.station.hub.wasIssued := by
  have issued : s.serve.station.hub.nextToken = s.station.hub.nextToken := by
    unfold serve
    split
    · rfl
    · exact s.station.serveOutput_issued _
  funext token
  simp [Hub.wasIssued, issued]

theorem serve_said (order : Output) (rest : List Output) (orders : s.orders = order :: rest) :
    s.asked token = (order.watch? token).toList ++ s.serve.asked token ∧
    s.serve.heeds token = (order.watch? token).getD (s.heeds token) := by
  rw [serve_eq s order rest orders]
  constructor
  · simp only [asked, left, orders, Output.watch?, watches]
    cases effect : order.effect? with
    | none => simp [effect]
    | some effect' =>
        rw [List.filterMap_cons_some effect, List.filterMap_cons]
        cases asks : Effect.watch? token effect' with
        | none => simp [asks]
        | some asks' => simp [asks]
  · simp only [heeds, done, List.map_append, List.filterMap_append, watches_append, Output.watch?, List.map_cons,
      List.map_nil, List.filterMap_cons, List.filterMap_nil, List.getLast?_append]
    cases effect : order.effect? with
    | none => simp [watches]
    | some effect' => cases asks : Effect.watch? token effect' <;> simp [watches, asks]

-- Who is heard of as gone at a registration dies at once, where the loop listens; it has been let go already
-- where the loop does not.
theorem register_dead (agrees : t.HistoryAgrees settings) (served : t.station = s.station.register token)
    (was : s.station.hub.wasIssued token = true) (free : token ∉ t.guards) (taken : t.heeds token = true)
    (none : s.station.hub.entries.get? token = none) : TokenPhase token t := by
  have posted : t.station = s.station.post (.call (.requesterDied token)) := by
    rw [served]
    simp [Station.register, Hub.register, none, was]
  have hub : t.station.hub = s.station.hub := by simp [posted]
  refine .dying (hub ▸ was) free taken (.inl (hub ▸ none)) ?_
  cases listens : s.station.loop.listens with
  | true =>
      refine .told ?_
      rw [pending, posted, Station.post_pending, listens]
      exact List.mem_append_right _ List.mem_cons_self
  | false =>
      have deaf : t.station.loop.listens = false := by simpa [posted] using listens
      exact .released (deaf_released settings t token agrees deaf (.inl taken))

theorem register_stray (served : t.station = s.station.register token) (was : s.station.hub.wasIssued token = true)
    (free : token ∉ t.guards) (taken : t.heeds token = true)
    (stray : s.station.hub.entries.get? token = some .stray) (ended : token ∉ t.leaving) : TokenPhase token t := by
  have watches : t.station = { s.station with
      hub := { s.station.hub with entries := s.station.hub.entries.put token .lost }
      agenda := s.station.agenda.begin s.station.clock (.watch token) } := by
    rw [served]
    simp [Station.register, Hub.register, stray]
  refine .dying ?_ free taken (.inr ⟨by simp [watches], ended⟩) ?_
  · rw [watches]
    exact was
  · refine .noticed ⟨s.station.clock, .watch token⟩ ?_ rfl (by simp [watches, Hub.hasLost])
    rw [watches]
    exact List.mem_append_right _ List.mem_cons_self

theorem register_phase (rest : List Output) (agrees : s.HistoryAgrees settings) (invariant : s.HubInvariant)
    (orders : s.orders = .effect (.register token) :: rest) : TokenPhase token s.serve := by
  have next := serve_historyAgrees settings s agrees
  obtain ⟨asked, heeds⟩ := serve_said s token _ rest orders
  have now : Output.watch? token (.effect (.register token)) = some true := by
    simp [Output.watch?, Output.effect?, Effect.watch?]
  rw [now] at asked heeds
  have taken : s.serve.heeds token = true := heeds
  have idle : s.heeds token = false := by
    have alternating := asked_alternating settings s token agrees
    rw [asked] at alternating
    simpa using alternating.1.symm
  have served : s.serve.station = s.station.register token := congrArg Shift.station (serve_eq s _ rest orders)
  have connections : s.serve.connections = s.connections := serve_connections s
  cases invariant.phases token with
  | unknown never free _ none =>
      have known : true ∈ watches token s.history.effects := by
        rw [agrees.effects, ordered_watches, asked]
        exact List.mem_append_right _ List.mem_cons_self
      obtain ⟨a, admitted, same⟩ := reached_taken settings s.history agrees.reached token known
      have issued := invariant.admitted a admitted
      rw [same, never] at issued
      cases issued
  | held was here _ kept =>
      have hub : s.serve.station.hub = { s.station.hub with entries := s.station.hub.entries.put token .watched } := by
        rw [served]
        simp [Station.register, Hub.register, kept]
      refine .watched ?_ (connections ▸ here) taken ?_
      · rw [hub]
        exact was
      · simp [hub]
  | gone was free _ closed =>
      have free := serve_guards s ▸ free
      rcases closed with none | ⟨stray, ended⟩
      · exact register_dead settings s _ token next served was free taken none
      · exact register_stray s _ token served was free taken stray (serve_leaving s ▸ ended)
  | watched _ _ taken' _ =>
      rw [taken'] at idle
      cases idle
  | dying _ _ taken' _ _ =>
      rw [taken'] at idle
      cases idle

theorem unregister_phase (rest : List Output) (agrees : s.HistoryAgrees settings) (invariant : s.HubInvariant)
    (orders : s.orders = .effect (.unregister token) :: rest) : TokenPhase token s.serve := by
  obtain ⟨asked, heeds⟩ := serve_said s token _ rest orders
  have now : Output.watch? token (.effect (.unregister token)) = some false := by
    simp [Output.watch?, Output.effect?, Effect.watch?]
  rw [now] at asked heeds
  have idle : s.serve.heeds token = false := heeds
  have taken : s.heeds token = true := by
    have alternating := asked_alternating settings s token agrees
    rw [asked] at alternating
    simpa using alternating.1.symm
  have served : s.serve.station.hub = s.station.hub.unregister token :=
    congrArg (fun t : Shift => t.station.hub) (serve_eq s _ rest orders)
  cases invariant.phases token with
  | watched was here _ kept =>
      have hub : s.serve.station.hub = { s.station.hub with entries := s.station.hub.entries.put token .held } := by
        simp [served, Hub.unregister, kept]
      refine .held ?_ (serve_connections s ▸ here) idle ?_
      · rw [hub]
        exact was
      · simp [hub]
  | dying was free _ closed _ =>
      rcases closed with none | ⟨lost, _⟩
      · have hub : s.serve.station.hub = s.station.hub := by simp [served, Hub.unregister, none]
        exact .gone (hub ▸ was) (serve_guards s ▸ free) idle (.inl (hub ▸ none))
      · have hub : s.serve.station.hub = { s.station.hub with entries := s.station.hub.entries.erase token } := by
          simp [served, Hub.unregister, lost]
        refine .gone ?_ (serve_guards s ▸ free) idle (.inl ?_)
        · rw [hub]
          exact was
        · simp [hub]
  | unknown _ _ idle' _ =>
      rw [idle'] at taken
      cases taken
  | held _ _ idle' _ =>
      rw [idle'] at taken
      cases taken
  | gone _ _ idle' _ =>
      rw [idle'] at taken
      cases taken

theorem serve_phase (order : Output) (rest : List Output) (agrees : s.HistoryAgrees settings)
    (invariant : s.HubInvariant) (orders : s.orders = order :: rest) : TokenPhase token s.serve := by
  have served := serve_eq s order rest orders
  cases told : order.watch? token with
  | some taken =>
      cases taken with
      | true =>
          obtain rfl := order.watch_taken token told
          exact register_phase settings s token rest agrees invariant orders
      | false =>
          obtain rfl := order.watch_released token told
          exact unregister_phase settings s token rest agrees invariant orders
  | none =>
      obtain ⟨asked, heeds⟩ := serve_said s token order rest orders
      rw [told] at asked heeds
      obtain ⟨entry, tasks⟩ := s.station.serveOutput_spares token order told
      obtain ⟨more, pending, _⟩ := s.station.serveOutput_pending order
      refine (invariant.phases token).carried s _ token (by rw [serve_issued]) ?_ (by rw [serve_guards])
        (by rw [serve_leaving]) heeds ?_
      · rw [served]
        exact entry
      · intro _ coming
        refine coming.carried s _ token ?_ ?_ ?_ asked.symm
        · rw [served]
          exact entry
        · rw [served]
          exact tasks
        · intro event waiting
          rw [served]
          show event ∈ (s.station.serveOutput order).loop.pending
          rw [pending]
          exact List.mem_append_left _ waiting

theorem serve_hubInvariant (agrees : s.HistoryAgrees settings) (invariant : s.HubInvariant) : s.serve.HubInvariant := by
  cases orders : s.orders with
  | nil =>
      rw [serve_nothing s orders]
      exact invariant
  | cons order rest =>
      have served := serve_eq s order rest orders
      obtain ⟨more, pending, tells⟩ := s.station.serveOutput_pending order
      have within : ∀ event ∈ s.serve.pending, event ∈ s.pending ∨ event ∈ more := by
        intro event waiting
        rw [served] at waiting
        exact List.mem_append.1 (pending ▸ waiting)
      refine ⟨fun token => serve_phase settings s token order rest agrees invariant orders, ?_, ?_, ?_, ?_, ?_, ?_⟩
      · rw [served]
        exact s.station.serveOutput_issued order ▸ invariant.first
      · rw [serve_connections]
        exact invariant.distinct
      · intro token waiting
        rw [serve_issued, serve_guards]
        rcases within _ waiting with old | new
        · exact invariant.deaths token old
        · obtain ⟨_, _, same, issued, none⟩ := tells _ new
          cases same
          exact ⟨issued, (invariant.phases token).missing s token none⟩
      · intro task listed token watch
        rw [serve_clock]
        rw [served] at listed
        rcases s.station.serveOutput_turns token order task listed watch with old | new
        · exact invariant.turns task old token watch
        · exact Nat.le_of_eq new
      · intro sub waiting
        rw [serve_issued]
        rcases within _ waiting with old | new
        · exact invariant.sent sub old
        · obtain ⟨_, _, same, _⟩ := tells _ new
          cases same
      · rw [serve_issued, served]
        exact invariant.admitted

theorem TokenPhase.unissued (phase : TokenPhase token s) (never : s.station.hub.wasIssued token = false) :
    token ∉ s.connections ∧ s.heeds token = false := by
  cases phase with
  | unknown _ apart idle _ => exact ⟨apart, idle⟩
  | held was _ _ _ => exact absurd (was.symm.trans never) (by decide)
  | watched was _ _ _ => exact absurd (was.symm.trans never) (by decide)
  | gone was _ _ _ => exact absurd (was.symm.trans never) (by decide)
  | dying was _ _ _ _ => exact absurd (was.symm.trans never) (by decide)

theorem connect_issued (first : 0 < s.station.hub.nextToken.val) :
    (s.act .connect).station.hub.wasIssued token = true ↔
      s.station.hub.wasIssued token = true ∨ token = s.station.hub.nextToken := by
  obtain ⟨val⟩ := token
  have same : (⟨val⟩ : LivenessToken) = s.station.hub.nextToken ↔ val = s.station.hub.nextToken.val :=
    ⟨fun eq => congrArg LivenessToken.val eq, fun eq => by rw [eq]⟩
  rw [same]
  rw [Hub.wasIssued_iff, Hub.wasIssued_iff]
  show 0 < val ∧ val < s.station.hub.nextToken.val + 1 ↔
    (0 < val ∧ val < s.station.hub.nextToken.val) ∨ val = s.station.hub.nextToken.val
  omega

theorem connect_hubInvariant (invariant : s.HubInvariant) : (s.act .connect).HubInvariant := by
  have issued := fun token => connect_issued s token invariant.first
  have new : s.station.hub.wasIssued s.station.hub.nextToken = false := by simp [Hub.wasIssued]
  obtain ⟨apart, idle⟩ := (invariant.phases s.station.hub.nextToken).unissued s _ new
  refine ⟨?_, Nat.succ_pos _, ?_, ?_, invariant.turns, fun sub sent => (issued _).2 (.inl (invariant.sent sub sent)),
    fun a admitted => (issued _).2 (.inl (invariant.admitted a admitted))⟩
  · intro token
    by_cases same : token = s.station.hub.nextToken
    · subst same
      exact .held ((issued _).2 (.inr rfl)) (by simp [act, connections, Station.connect, Hub.connect]) idle
        (by simp [act, Station.connect, Hub.connect])
    · have entry : (s.act .connect).station.hub.entries.get? token = s.station.hub.entries.get? token := by
        simp [act, Station.connect, Hub.connect, same]
      refine (invariant.phases token).carried s _ token ?_ entry ?_ Iff.rfl rfl ?_
      · rw [Bool.eq_iff_iff, issued token]
        simp [same]
      · simp [act, Station.connect, Hub.connect, same]
      · intro _ coming
        exact coming.carried s _ token entry (fun _ listed _ => listed) (fun _ waiting => waiting) rfl
  · have longer : (s.act .connect).connections.Perm (s.station.hub.nextToken :: s.connections) := by
      refine List.Perm.trans ?_ List.perm_middle
      exact List.Perm.of_eq (List.append_assoc _ _ _)
    exact longer.nodup_iff.2 (List.nodup_cons.2 ⟨apart, invariant.distinct⟩)
  · intro token waiting
    obtain ⟨was, gone⟩ := invariant.deaths token waiting
    refine ⟨(issued token).2 (.inl was), ?_⟩
    intro member
    rcases List.mem_append.1 member with old | fresh
    · exact gone old
    · rw [List.mem_singleton.1 fresh] at was
      exact absurd (was.symm.trans new) (by decide)

-- One half of a drop: the phase of its own token changes, and no other.
theorem HubInvariant.touched (entries : Table LivenessToken Presence) (agenda : Agenda)
    (guards leaving : List LivenessToken) (invariant : s.HubInvariant)
    (spared : ∀ other, other ≠ token → entries.get? other = s.station.hub.entries.get? other)
    (longer : s.station.agenda ⊆ agenda) (begun : ∀ task ∈ agenda, task ∈ s.station.agenda ∨ task.due = s.station.clock)
    (distinct : (guards ++ leaving).Nodup) (fewer : guards ⊆ s.guards)
    (held : ∀ other, other ≠ token → (other ∈ guards ↔ other ∈ s.guards))
    (half : ∀ other, other ≠ token → (other ∈ leaving ↔ other ∈ s.leaving)) (changed : t = { s with
      station := { s.station with hub := { s.station.hub with entries := entries }, agenda := agenda }
      guards := guards
      leaving := leaving }) (own : TokenPhase token t) : t.HubInvariant := by
  refine ⟨fun other => ?_, ?_, ?_, ?_, ?_, ?_, ?_⟩
  · by_cases same : other = token
    · exact same ▸ own
    · subst changed
      refine (invariant.phases other).carried s _ other rfl (spared other same) (held other same) (half other same)
        rfl fun _ coming => ?_
      exact coming.carried s _ other (spared other same) (fun _ listed _ => longer listed) (List.Subset.refl _) rfl
  all_goals subst changed
  · exact invariant.first
  · exact distinct
  · intro other waiting
    exact (invariant.deaths other waiting).imp_right fun gone still => gone (fewer still)
  · intro task listed other watch
    rcases begun task listed with old | new
    · exact invariant.turns task old other watch
    · exact Nat.le_of_eq new
  · exact invariant.sent
  · exact invariant.admitted

theorem leave_hubInvariant (invariant : s.HubInvariant) : (s.leave token).HubInvariant := by
  unfold leave
  split
  · next holds =>
      have distinct : (s.guards.erase token ++ (s.leaving ++ [token])).Nodup := by
        have moved : (s.guards.erase token ++ (s.leaving ++ [token])).Perm s.connections := by
          rw [← List.append_assoc]
          refine (List.perm_append_singleton _ _).trans ?_
          exact (List.perm_cons_erase holds).symm.append_right _
        exact moved.nodup_iff.2 invariant.distinct
      have free : token ∉ s.guards.erase token := (invariant.distinct.of_append_left).not_mem_erase
      have held : ∀ other, other ≠ token → (other ∈ s.guards.erase token ↔ other ∈ s.guards) :=
        fun other apart => List.mem_erase_of_ne apart
      have half : ∀ other, other ≠ token → (other ∈ s.leaving ++ [token] ↔ other ∈ s.leaving) :=
        fun other apart => by simp [apart]
      cases invariant.phases token with
      | unknown _ apart _ _ => exact absurd (List.mem_append_left _ holds) apart
      | gone _ free _ _ => exact absurd holds free
      | dying _ free _ _ _ => exact absurd holds free
      | held was _ idle kept =>
          have left : s.station.leave token =
              { s.station with hub := { s.station.hub with entries := s.station.hub.entries.erase token } } := by
            simp [Station.leave, Hub.leave, kept]
          rw [left]
          refine invariant.touched s _ token (s.station.hub.entries.erase token) s.station.agenda _ _
            (fun other apart => by simp [apart]) (List.Subset.refl _) (fun _ listed => .inl listed) distinct
            List.erase_subset held half rfl ?_
          exact .gone was free idle (.inl (by simp))
      | watched was _ taken kept =>
          have same : s.station.leave token = s.station := by simp [Station.leave, Hub.leave, kept]
          rw [same]
          refine invariant.touched s _ token s.station.hub.entries s.station.agenda _ _ (fun _ _ => rfl)
            (List.Subset.refl _) (fun _ listed => .inl listed) distinct List.erase_subset held half rfl ?_
          exact .watched was (List.mem_append_right _ (List.mem_append_right _ List.mem_cons_self)) taken kept
  · exact invariant

theorem close_hubInvariant (invariant : s.HubInvariant) : (s.close token).HubInvariant := by
  unfold close
  split
  · next halfway =>
      have distinct : (s.guards ++ s.leaving.erase token).Nodup :=
        invariant.distinct.sublist ((List.Sublist.refl _).append List.erase_sublist)
      have apart : token ∉ s.guards := fun held => List.disjoint_of_nodup_append invariant.distinct held halfway
      have ended : token ∉ s.leaving.erase token := (invariant.distinct.of_append_right).not_mem_erase
      have half : ∀ other, other ≠ token → (other ∈ s.leaving.erase token ↔ other ∈ s.leaving) :=
        fun other apart => List.mem_erase_of_ne apart
      have untouched (none : s.station.hub.entries.get? token = none)
          (own : TokenPhase token { s with leaving := s.leaving.erase token }) : HubInvariant
            { s with station := s.station.closeGuard token, leaving := s.leaving.erase token } := by
        have unchanged : s.station.closeGuard token = s.station := by simp [Station.closeGuard, Hub.close, none]
        rw [unchanged]
        exact invariant.touched s _ token s.station.hub.entries s.station.agenda _ _ (fun _ _ => rfl)
          (List.Subset.refl _) (fun _ listed => .inl listed) distinct (List.Subset.refl _) (fun _ _ => Iff.rfl) half
          rfl own
      cases invariant.phases token with
      | unknown _ apart _ _ => exact absurd (List.mem_append_right _ halfway) apart
      | held was _ idle kept =>
          have closed : s.station.closeGuard token =
              { s.station with hub := { s.station.hub with entries := s.station.hub.entries.put token .stray } } := by
            simp [Station.closeGuard, Hub.close, kept]
          rw [closed]
          refine invariant.touched s _ token (s.station.hub.entries.put token .stray) s.station.agenda _ _
            (fun other apart => by simp [apart]) (List.Subset.refl _) (fun _ listed => .inl listed) distinct
            (List.Subset.refl _) (fun _ _ => Iff.rfl) half rfl ?_
          exact .gone was apart idle (.inr ⟨by simp, ended⟩)
      | watched was _ taken kept =>
          have closed : s.station.closeGuard token = { s.station with
              hub := { s.station.hub with entries := s.station.hub.entries.put token .lost }
              agenda := s.station.agenda.beginOnce s.station.clock (.watch token) } := by
            simp [Station.closeGuard, Hub.close, kept]
          rw [closed]
          refine invariant.touched s _ token (s.station.hub.entries.put token .lost)
            (s.station.agenda.beginOnce s.station.clock (.watch token)) _ _ (fun other apart => by simp [apart])
            (s.station.agenda.subset_beginOnce _ _) ?_ distinct (List.Subset.refl _) (fun _ _ => Iff.rfl) half rfl ?_
          · intro task listed
            exact (s.station.agenda.mem_beginOnce _ _ task listed).imp_right (congrArg Task.due)
          · obtain ⟨task, listed, job⟩ := s.station.agenda.beginOnce_awaits s.station.clock (.watch token)
            exact .dying was apart taken (.inr ⟨by simp, ended⟩) (.noticed task listed job (by simp [Hub.hasLost]))
      | gone was _ idle closed =>
          have none := closed.resolve_right fun stray => stray.2 halfway
          exact untouched none (.gone was apart idle (.inl none))
      | dying was _ taken closed coming =>
          have none := closed.resolve_right fun lost => lost.2 halfway
          refine untouched none (.dying was apart taken (.inl none) ?_)
          exact (coming.carried s _ token rfl (fun _ listed _ => listed) (List.Subset.refl _) rfl)
  · exact invariant

theorem Works.pending_subset (answers : Answers) (works : Works answers s t) : t.pending ⊆ s.pending := by
  cases works with
  | idle _ _ same => exact same ▸ fun _ waiting => waiting
  | passed event _ _ _ taken => exact taken ▸ fun _ waiting => List.mem_cons_of_mem _ waiting
  | called call _ _ source =>
      rcases source with taken | ⟨_, same⟩
      · exact taken ▸ fun _ waiting => List.mem_cons_of_mem _ waiting
      · exact same ▸ fun _ waiting => waiting

theorem Works.admitted (answers : Answers) (works : Works answers s t) (a : OperationId × Submission)
    (admitted : a ∈ t.history.admitted) :
    a ∈ s.history.admitted ∨ .call (.submit a.2) ∈ s.pending := by
  cases works with
  | idle history _ _ => exact .inl (history ▸ admitted)
  | passed _ _ history _ _ => exact .inl (history ▸ admitted)
  | called call history _ source =>
      rw [history] at admitted
      rcases List.mem_append.1 admitted with old | new
      · exact .inl old
      · cases call with
        | submit sub =>
            rcases source with taken | ⟨other, _⟩
            · refine .inr ?_
              simp only [Scheduler.admits] at new
              split at new
              · rw [List.mem_singleton.1 new, taken]
                exact List.mem_cons_self
              · cases new
            · cases other
        | _ => cases new

theorem work_coming (answers : Answers) (agrees : s.HistoryAgrees settings) (free : s.orders = [])
    (taken : s.heeds token = true) (coming : DeathPending token s) : DeathPending token (s.work answers) := by
  have nothing : s.asked token = [] := by
    rw [asked, left, free]
    rfl
  cases coming with
  | noticed task listed job lost => exact .noticed task (by simpa using listed) job (by simpa using lost)
  | released gone =>
      rw [nothing] at gone
      cases gone
  | told waiting =>
      cases work_cases settings s answers agrees free with
      | idle _ _ same => exact .told (same ▸ waiting)
      | passed event other _ _ rest =>
          rw [rest] at waiting
          rcases List.mem_cons.1 waiting with here | later
          · rcases other with status | shutdown
            · rw [status] at here
              cases here
            · rw [shutdown] at here
              cases here
          · exact .told later
      | called call _ effects source =>
          rcases source with rest | ⟨_, same⟩
          · rw [rest] at waiting
            rcases List.mem_cons.1 waiting with here | later
            · cases here
              refine .released ?_
              have tracked : s.history.scheduler.registry.isTracked token = true := by
                have last := asked_last settings s token agrees
                rw [nothing, taken] at last
                exact last.symm
              have live := (tracked_iff settings s token agrees).1 tracked
              rw [asked, left, effects, died_watches token settings s.history agrees.reached answers live]
              exact List.mem_cons_self
            · exact .told later
          · exact .told (same ▸ waiting)

theorem work_hubInvariant (answers : Answers) (agrees : s.HistoryAgrees settings) (invariant : s.HubInvariant) :
    (s.work answers).HubInvariant := by
  by_cases free : s.orders = []
  · have works := work_cases settings s answers agrees free
    have fewer := works.pending_subset s _ answers
    refine invariant.same_hub s _ (s.work_hub answers) (s.work_guards answers) (s.work_leaving answers) ?_ ?_ ?_ ?_ ?_
      ?_
    · intro token
      rw [heeds, done, work_shown]
      rfl
    · exact fun token taken coming => work_coming settings s token answers agrees free taken coming
    · exact fun token waiting => invariant.deaths token (fewer waiting)
    · intro task listed token watch
      rw [work_agenda] at listed
      rw [work_clock]
      exact invariant.turns task listed token watch
    · exact fun sub waiting => invariant.sent sub (fewer waiting)
    · intro a admitted
      rcases works.admitted s _ answers a admitted with old | new
      · exact invariant.admitted a old
      · exact invariant.sent a.2 new
  · rw [work_busy s answers free]
    exact invariant

theorem perform_coming (place : Nat) (task : Task) (found : s.station.agenda[place]? = some task)
    (agrees : s.HistoryAgrees settings) (invariant : s.HubInvariant) (taken : s.heeds token = true)
    (coming : DeathPending token s) : DeathPending token (s.perform place) := by
  obtain ⟨before, after⟩ := s.perform_agenda place task found
  have pending := s.perform_pending place task found
  cases coming with
  | told waiting => exact .told (pending ▸ List.mem_append_left _ waiting)
  | released gone =>
      refine .released ?_
      rw [asked, left, perform_orders]
      exact gone
  | noticed other listed watch lost =>
      have listed : other ∈ s.station.agenda := listed
      have due := invariant.turns other listed token watch
      by_cases here : other = task
      · subst here
        have told := s.station.perform_watch token other watch lost due
        cases listens : s.station.loop.listens with
        | true =>
            refine .told ?_
            rw [pending, listens, told]
            exact List.mem_append_right _ List.mem_cons_self
        | false =>
            have onward := perform_historyAgrees settings s place agrees
            refine .released (deaf_released settings _ token onward ?_ (.inl ?_))
            · rw [perform_listens]
              exact listens
            · rw [heeds, done, perform_shown]
              exact taken
      · refine .noticed other ?_ watch (by simpa using lost)
        rw [before] at listed
        rw [after]
        rcases List.mem_append.1 listed with early | late
        · exact List.mem_append_left _ (List.mem_append_left _ early)
        · exact List.mem_append_right _ ((List.mem_cons.1 late).resolve_left here)

theorem perform_watches (place : Nat) (task other : Task) (found : s.station.agenda[place]? = some task)
    (listed : other ∈ (s.perform place).station.agenda) (watch : other.job = .watch token) :
    other ∈ s.station.agenda := by
  obtain ⟨before, after⟩ := s.perform_agenda place task found
  rw [after] at listed
  rw [before]
  rcases List.mem_append.1 listed with front | late
  · rcases List.mem_append.1 front with early | same
    · exact List.mem_append_left _ early
    · rw [(s.station.perform_left token task other (Option.mem_toList.1 same) watch).1]
      exact List.mem_append_right _ List.mem_cons_self
  · exact List.mem_append_right _ (List.mem_cons_of_mem _ late)

theorem perform_hubInvariant (place : Nat) (agrees : s.HistoryAgrees settings) (invariant : s.HubInvariant) :
    (s.perform place).HubInvariant := by
  cases found : s.station.agenda[place]? with
  | none =>
      rw [perform_nothing s place found]
      exact invariant
  | some task =>
      have pending := s.perform_pending place task found
      have within : ∀ event, event ∈ (s.perform place).pending →
          event ∈ s.pending ∨ (s.station.perform task).2 = some event := by
        intro event waiting
        rw [pending] at waiting
        rcases List.mem_append.1 waiting with old | new
        · exact .inl old
        · split at new
          · exact .inr (Option.mem_toList.1 new)
          · cases new
      refine invariant.same_hub s _ (s.perform_hub place) (s.perform_guards place) (s.perform_leaving place) ?_ ?_ ?_ ?_
        ?_ ?_
      · intro token
        rw [heeds, done, perform_shown]
        rfl
      · exact fun token => perform_coming settings s token place task found agrees invariant
      · intro token waiting
        rcases within _ waiting with old | new
        · exact invariant.deaths token old
        · obtain ⟨_, lost⟩ := (s.station.perform_tells task _ new).2 token rfl
          exact (invariant.phases token).lost s token lost
      · intro other listed token watch
        rw [perform_clock]
        exact invariant.turns other (perform_watches s token place task other found listed watch) token watch
      · intro sub waiting
        rcases within _ waiting with old | new
        · exact invariant.sent sub old
        · exact absurd rfl ((s.station.perform_tells task _ new).1 sub)
      · rw [perform_history]
        exact invariant.admitted

theorem begin_hubInvariant (timer : Timer) (ready : Bool) : (begin timer (.fresh settings ready)).HubInvariant := by
  refine ⟨?_, Nat.one_pos, List.nodup_nil, nofun, nofun, nofun, nofun⟩
  intro token
  refine .unknown ?_ List.not_mem_nil rfl rfl
  rw [Bool.eq_false_iff]
  intro issued
  obtain ⟨above, below⟩ := (Hub.wasIssued_iff _ _).1 issued
  exact absurd (Nat.lt_of_lt_of_le above (Nat.le_of_lt_succ below)) (Nat.lt_irrefl 0)

theorem act_hubInvariant (incident : Incident) (agrees : s.HistoryAgrees settings)
    (permitted : s.vouched incident = true) (invariant : s.HubInvariant) : (s.act incident).HubInvariant := by
  cases incident with
  | send event =>
      refine post_hubInvariant s event invariant ?_ ?_
      · rintro token rfl
        cases permitted
      · rintro sub rfl
        exact permitted
  | connect => exact connect_hubInvariant s invariant
  | leave token => exact leave_hubInvariant s token invariant
  | close token => exact close_hubInvariant s token invariant
  | instruct resolver =>
      refine invariant.same_hub s _ rfl rfl rfl (fun _ => rfl) ?_ invariant.deaths invariant.turns invariant.sent
        invariant.admitted
      exact fun token _ coming =>
        coming.carried s _ token rfl (fun _ listed _ => listed) (fun _ waiting => waiting) rfl
  | work answers => exact work_hubInvariant settings s answers agrees invariant
  | serve => exact serve_hubInvariant settings s agrees invariant
  | perform place => exact perform_hubInvariant settings s place agrees invariant
  | pass till =>
      refine invariant.same_hub s _ rfl rfl rfl (fun _ => rfl) ?_ invariant.deaths ?_ invariant.sent invariant.admitted
      · exact fun token _ coming =>
          coming.carried s _ token rfl (fun _ listed _ => listed) (fun _ waiting => waiting) rfl
      · intro task listed token watch
        exact Nat.le_trans (invariant.turns task listed token watch) (Nat.le_max_left _ _)

theorem reached_hubInvariant (path : Reached settings vouched s) : s.HubInvariant := by
  induction path with
  | start timer ready s made =>
      obtain ⟨_, rfl⟩ := (start_eq_ok_iff settings s timer ready).1 made
      exact begin_hubInvariant settings timer ready
  | next incident s path permitted ih =>
      exact act_hubInvariant settings s incident (reached_historyAgrees settings s vouched path) permitted ih

end Shift
end Ranging
