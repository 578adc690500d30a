import Ranging.Proofs.TokenPhases

-- No operation outlives its requester, and none is withdrawn for a requester that lives. The hub counts exactly the
-- guards that are held, unless a watch was ended in the middle of a guard's drop: the entry then stays for ever.
namespace Ranging

-- The entries that are left without an open channel and without a watch.
def Hub.strays (h : Hub) : List LivenessToken := h.entries.keys.filter fun token => h.entries.get? token = some .stray

theorem Hub.mem_strays (h : Hub) (token : LivenessToken) : token ∈ h.strays ↔ h.entries.get? token = some .stray := by
  rw [strays, List.mem_filter, Table.mem_keys_iff]
  refine ⟨fun both => of_decide_eq_true both.2, fun stray => ⟨?_, decide_eq_true stray⟩⟩
  rw [stray]
  rfl

namespace Hub
variable (h : Hub) (token other : LivenessToken)

theorem leave_entry (presence : Presence) (entry : (h.leave token).entries.get? other = some presence) :
    h.entries.get? other = some presence := by
  unfold leave at entry
  split at entry <;> by_cases same : other = token <;> simp_all

theorem leave_unheld : (h.leave token).entries.get? token ≠ some .held := by
  unfold leave
  split <;> simp_all

theorem close_held (held : (h.close token).2.entries.get? other = some .held) :
    h.entries.get? other = some .held := by
  unfold close at held
  split at held <;> by_cases same : other = token <;> simp_all

theorem close_stray (stray : (h.close token).2.entries.get? other = some .stray) :
    h.entries.get? other = some .stray ∨ h.entries.get? token = some .held := by
  unfold close at stray
  split at stray <;> by_cases same : other = token <;> simp_all

theorem unregister_stray (stray : (h.unregister token).entries.get? token = some .stray) :
    h.entries.get? token = some .stray := by
  unfold unregister at stray
  split at stray <;> simp_all

end Hub

theorem Station.serveOutput_entry (s : Station) (order : Output) (token : LivenessToken) :
    ((s.serveOutput order).hub.entries.get? token = some .held →
      s.hub.entries.get? token = some .held ∨ order = .effect (.unregister token)) ∧
    ((s.serveOutput order).hub.entries.get? token = some .stray → s.hub.entries.get? token = some .stray) := by
  cases told : order.watch? token with
  | none =>
      rw [(s.serveOutput_spares token order told).1]
      exact ⟨.inl, id⟩
  | some taken =>
      cases taken with
      | true =>
          obtain rfl := order.watch_taken token told
          have served : s.serveOutput (.effect (.register token)) = s.register token := rfl
          rw [served]
          rcases s.register_cases token with ⟨_, _, dead⟩ | ⟨presence, which, watching⟩ | nothing
          · rw [dead, post_hub]
            exact ⟨.inl, id⟩
          · rw [watching]
            rcases which with ⟨_, rfl⟩ | ⟨_, rfl⟩ <;> simp
          · rw [nothing]
            exact ⟨.inl, id⟩
      | false =>
          obtain rfl := order.watch_released token told
          exact ⟨fun _ => .inr rfl, s.hub.unregister_stray token⟩

namespace Shift
variable (settings : Settings) (s : Shift) (token : LivenessToken)

inductive RestingPhase : Prop where
  | absent : s.station.hub.entries.get? token = none → token ∉ s.guards →
      s.history.scheduler.registry.isTracked token = false → RestingPhase
  | held : s.station.hub.entries.get? token = some .held → token ∈ s.guards →
      s.history.scheduler.registry.isTracked token = false → RestingPhase
  | watched : s.station.hub.entries.get? token = some .watched → token ∈ s.guards →
      s.history.scheduler.registry.isTracked token = true → RestingPhase
  | stray : s.station.hub.entries.get? token = some .stray → token ∉ s.guards →
      s.history.scheduler.registry.isTracked token = false → RestingPhase

theorem resting_phase (agrees : s.HistoryAgrees settings) (invariant : s.HubInvariant) (resting : s.resting = true) :
    RestingPhase s token := by
  obtain ⟨orders, leaving, waiting, tasks, _⟩ := s.resting_iff.1 resting
  have nothing : s.asked token = [] := by
    rw [asked, left, orders]
    rfl
  have whole : s.connections = s.guards := by rw [connections, leaving, List.append_nil]
  have current : s.heeds token = s.history.scheduler.registry.isTracked token := by
    have last := asked_last settings s token agrees
    rw [nothing] at last
    exact last
  cases invariant.phases token with
  | unknown _ apart idle none => exact .absent none (whole ▸ apart) (current ▸ idle)
  | held _ here idle kept => exact .held kept (whole ▸ here) (current ▸ idle)
  | watched _ here taken kept => exact .watched kept (whole ▸ here) (current ▸ taken)
  | gone _ free idle closed =>
      rcases closed with none | ⟨stray, _⟩
      · exact .absent none free (current ▸ idle)
      · exact .stray stray free (current ▸ idle)
  | dying _ _ _ _ coming =>
      cases coming with
      | noticed task listed watch _ =>
          exact absurd (invariant.turns task listed token watch) (Nat.not_le.2 (tasks task listed))
      | told told =>
          rw [pending, waiting] at told
          cases told
      | released gone =>
          rw [nothing] at gone
          cases gone

structure RequestersAlive (s : Shift) : Prop where
  alive : ∀ op ∈ s.station.loop.scheduler.live, op.token ∈ s.guards
  watched : ∀ token, (s.station.hub.entries.get? token).any Hub.isWatch = true ↔
    ∃ op ∈ s.station.loop.scheduler.live, op.token = token
  watchedCount : s.station.hub.watched = (s.station.loop.scheduler.live.map Operation.token).eraseDups.length
  connected : ∀ token, (s.station.hub.entries.get? token).isSome = true ↔
    token ∈ s.guards ∨ token ∈ s.station.hub.strays
  connectedCount : s.station.hub.connected = s.guards.length + s.station.hub.strays.length

-- If the next event tells of a death, then of that of a guard which was given out and is not held any more, and
-- whoever is withdrawn then depended on it.
def DeathsJustified (s : Shift) : Prop := ∀ answers token op,
  s.station.loop.look.1 = some (.call (.requesterDied token)) →
  (op, .withdrawn) ∈ (s.station.loop.scheduler.step answers (.requesterDied token)).ended →
  op.token = token ∧ s.station.hub.wasIssued token = true ∧ token ∉ s.guards

theorem resting_watched (agrees : s.HistoryAgrees settings) (phase : RestingPhase s token) :
    (s.station.hub.entries.get? token).any Hub.isWatch = true ↔
      ∃ op ∈ s.station.loop.scheduler.live, op.token = token := by
  rw [agrees.scheduler, ← tracked_iff settings s token agrees]
  cases phase with
  | absent entry _ tracked => simp [entry, tracked]
  | held entry _ tracked => simp [entry, tracked, Hub.isWatch]
  | watched entry _ tracked => simp [entry, tracked, Hub.isWatch]
  | stray entry _ tracked => simp [entry, tracked, Hub.isWatch]

theorem resting_connected (phase : RestingPhase s token) :
    ((s.station.hub.entries.get? token).isSome = true ↔ token ∈ s.guards ∨ token ∈ s.station.hub.strays) ∧
    (token ∈ s.guards → token ∉ s.station.hub.strays) := by
  rw [Hub.mem_strays]
  cases phase with
  | absent entry free _ => simp [entry, free]
  | held entry here _ => simp [entry, here]
  | watched entry here _ => simp [entry, here]
  | stray entry free _ => simp [entry, free]

theorem resting_alive (agrees : s.HistoryAgrees settings) (invariant : s.HubInvariant) (resting : s.resting = true) :
    s.RequestersAlive := by
  have phase := fun token => resting_phase settings s token agrees invariant resting
  have watched := fun token => resting_watched settings s token agrees (phase token)
  have connected := fun token => resting_connected s token (phase token)
  refine ⟨?_, watched, ?_, fun token => (connected token).1, ?_⟩
  · intro op member
    have depends := (watched op.token).2 ⟨op, member, rfl⟩
    cases phase op.token with
    | absent entry _ _ => simp [entry] at depends
    | held _ here _ => exact here
    | watched _ here _ => exact here
    | stray entry _ _ => simp [entry, Hub.isWatch] at depends
  · rw [Hub.watched, Table.values_countP]
    refine List.Perm.length_eq ((List.perm_ext_iff_of_nodup ?_ (nodup_eraseDups _)).2 ?_)
    · exact s.station.hub.entries.keys_nodup.filter _
    · intro token
      rw [List.mem_filter, Table.mem_keys_iff, List.mem_eraseDups, List.mem_map, watched token]
      refine ⟨fun both => both.2, fun depends => ⟨?_, depends⟩⟩
      obtain ⟨presence, found, _⟩ := Option.any_eq_true _ _ |>.1 ((watched token).2 depends)
      rw [found]
      rfl
  · have distinct : (s.guards ++ s.station.hub.strays).Nodup :=
      List.nodup_append'.2 ⟨invariant.distinct.of_append_left, s.station.hub.entries.keys_nodup.filter _,
        fun token => (connected token).2⟩
    rw [Hub.connected, ← Table.size_keys, ← List.length_append]
    refine List.Perm.length_eq ((List.perm_ext_iff_of_nodup s.station.hub.entries.keys_nodup distinct).2 ?_)
    intro token
    rw [Table.mem_keys_iff, (connected token).1, List.mem_append]

theorem deaths_justified (agrees : s.HistoryAgrees settings) (invariant : s.HubInvariant) : s.DeathsJustified := by
  intro answers token op next withdrawn
  refine ⟨requesterDied_withdrawn answers _ token op withdrawn, invariant.deaths token ?_⟩
  rcases agrees.look_pending settings s _ next with shut | waiting
  · cases shut
  · exact waiting

-- Besides, no watch is ended while the guard's drop has begun and not come to its end.
def uninterrupted (s : Shift) (incident : Incident) : Bool :=
  match incident, s.orders with
  | .serve, .effect (.unregister token) :: _ => decide (token ∉ s.leaving)
  | other, _ => s.vouched other

theorem uninterrupted_vouched (incident : Incident) (permitted : s.uninterrupted incident = true) :
    s.vouched incident = true := by
  cases incident with
  | serve => rfl
  | _ => exact permitted

-- A guard whose drop has begun has no entry, or a watch that will see the end of it.
structure NoStrays (s : Shift) : Prop where
  leaving : ∀ token ∈ s.leaving, s.station.hub.entries.get? token ≠ some .held
  strays : ∀ token, s.station.hub.entries.get? token ≠ some .stray

theorem leave_noStrays (clean : s.NoStrays) : (s.leave token).NoStrays := by
  unfold leave
  split
  · refine ⟨fun other halfway held => ?_, fun other stray => ?_⟩
    · rcases List.mem_append.1 halfway with before | now
      · exact clean.leaving other before (s.station.hub.leave_entry token other .held held)
      · exact s.station.hub.leave_unheld token (List.mem_singleton.1 now ▸ held)
    · exact clean.strays other (s.station.hub.leave_entry token other .stray stray)
  · exact clean

theorem close_noStrays (clean : s.NoStrays) : (s.close token).NoStrays := by
  unfold close
  split
  · next halfway =>
      have hub : (s.station.closeGuard token).hub = (s.station.hub.close token).2 := by
        rcases s.station.closeGuard_cases token with same | ⟨_, same⟩ <;> rw [same]
      refine ⟨fun other still => ?_, fun other => ?_⟩
      · show (s.station.closeGuard token).hub.entries.get? other ≠ _
        rw [hub]
        exact fun held => clean.leaving other (List.mem_of_mem_erase still) (s.station.hub.close_held token other held)
      · show (s.station.closeGuard token).hub.entries.get? other ≠ _
        rw [hub]
        intro stray
        rcases s.station.hub.close_stray token other stray with before | held
        · exact clean.strays other before
        · exact clean.leaving token halfway held
  · exact clean

theorem serve_noStrays (permitted : s.uninterrupted .serve = true) (clean : s.NoStrays) : s.serve.NoStrays := by
  cases orders : s.orders with
  | nil =>
      rw [serve_nothing s orders]
      exact clean
  | cons order rest =>
      have entry := s.station.serveOutput_entry order
      refine ⟨fun other halfway held => ?_, fun other stray => ?_⟩
      · rw [serve_leaving] at halfway
        rw [serve_eq s order rest orders] at held
        rcases (entry other).1 held with before | ends
        · exact clean.leaving other halfway before
        · have apart : other ∉ s.leaving := by simpa [uninterrupted, orders, ends] using permitted
          exact apart halfway
      · rw [serve_eq s order rest orders] at stray
        exact clean.strays other ((entry other).2 stray)

theorem NoStrays.same_hub (t : Shift) (clean : s.NoStrays) (hub : t.station.hub = s.station.hub)
    (leaving : t.leaving = s.leaving) : t.NoStrays :=
  ⟨by rw [hub, leaving]; exact clean.leaving, by rw [hub]; exact clean.strays⟩

theorem act_noStrays (incident : Incident) (invariant : s.HubInvariant) (permitted : s.uninterrupted incident = true)
    (clean : s.NoStrays) : (s.act incident).NoStrays := by
  cases incident with
  | send event => exact clean.same_hub s _ (s.station.post_hub event) rfl
  | connect =>
      have new : s.station.hub.wasIssued s.station.hub.nextToken = false := by simp [Hub.wasIssued]
      have apart := ((invariant.phases s.station.hub.nextToken).unissued s _ new).1
      have entry : ∀ token, (s.act .connect).station.hub.entries.get? token =
          if token = s.station.hub.nextToken then some .held else s.station.hub.entries.get? token :=
        fun token => Table.get?_put _ _ _ _
      refine ⟨fun token halfway => ?_, fun token => ?_⟩
      · rw [entry, if_neg]
        · exact clean.leaving token halfway
        · rintro rfl
          exact apart (List.mem_append_right _ halfway)
      · rw [entry]
        split
        · simp
        · exact clean.strays token
  | leave token => exact leave_noStrays s token clean
  | close token => exact close_noStrays s token clean
  | instruct resolver => exact clean.same_hub s _ rfl rfl
  | work answers => exact clean.same_hub s _ (s.work_hub answers) (s.work_leaving answers)
  | serve => exact serve_noStrays s permitted clean
  | perform place => exact clean.same_hub s _ (s.perform_hub place) (s.perform_leaving place)
  | pass till => exact clean.same_hub s _ rfl rfl

theorem reached_noStrays (path : Reached settings uninterrupted s) : s.NoStrays := by
  induction path with
  | start timer ready s made =>
      obtain ⟨_, rfl⟩ := (start_eq_ok_iff settings s timer ready).1 made
      exact ⟨nofun, nofun⟩
  | next incident s path permitted ih =>
      have vouched := reached_wider settings uninterrupted s vouched uninterrupted_vouched path
      exact act_noStrays s incident (reached_hubInvariant settings s vouched) permitted ih

theorem reached_guarded (path : Reached settings vouched s) :
    (s.resting = true → s.RequestersAlive) ∧ s.DeathsJustified ∧
    (Reached settings uninterrupted s → s.station.hub.strays = []) := by
  have agrees := reached_historyAgrees settings s vouched path
  have invariant := reached_hubInvariant settings s path
  refine ⟨resting_alive settings s agrees invariant, deaths_justified settings s agrees invariant, fun calm => ?_⟩
  refine List.eq_nil_iff_forall_not_mem.2 fun token stray => ?_
  exact (reached_noStrays settings s calm).strays token ((Hub.mem_strays _ token).1 stray)

-- Three requesters come and submit. The third is gone before it is registered, the second goes while it is watched,
-- and its drop is still under way when the loop goes on.
def sampleWatchedIncidents : List Incident :=
  [.connect, .connect, .connect, .leave ⟨3⟩, .close ⟨3⟩, .send (.call (.submit (.sample 1 (.sample 1)))),
    .send (.call (.submit (.sample 3 (.sample 3)))), .send (.call (.submit (.sample 2 (.sample 2))))] ++
  turn ++ [.leave ⟨2⟩] ++ turn ++ turn ++ [.close ⟨2⟩, .perform 2, .perform 0] ++ turn ++ turn
where
  turn := .work .sample :: List.replicate 9 .serve

def sampleWatched : Shift := (begin .exact (.fresh .standard true)).run sampleWatchedIncidents

theorem sampleWatched_reached : Reached .standard uninterrupted sampleWatched :=
  run_reached _ _ _ sampleWatchedIncidents (.start .exact true _ rfl) (by decide +kernel)

-- The first operation is with the hardware at the end, and the other two were withdrawn.
theorem sample_guarded : Reached .standard uninterrupted sampleWatched ∧ sampleWatched.resting = true ∧
    sampleWatched.guards = [⟨1⟩] ∧ sampleWatched.station.loop.scheduler.live.map Operation.token = [⟨1⟩] ∧
    sampleWatched.history.ended.map (fun gone => gone.1.token) = [⟨3⟩, ⟨2⟩] ∧
    sampleWatched.RequestersAlive ∧ sampleWatched.DeathsJustified ∧ sampleWatched.station.hub.strays = [] := by
  have path := reached_wider _ _ _ vouched uninterrupted_vouched sampleWatched_reached
  have resting : sampleWatched.resting = true := by decide +kernel
  obtain ⟨alive, justified, calm⟩ := reached_guarded .standard sampleWatched path
  exact ⟨sampleWatched_reached, resting, by decide +kernel, by decide +kernel, by decide +kernel, alive resting,
    justified, calm sampleWatched_reached⟩

-- The only operation is delivered, and its watch ended, between the two parts of the drop.
def interruptedIncidents : List Incident :=
  [.connect, .send (.call (.submit (.sample 1 (.sample 1))))] ++ turn ++ [.perform 0, .leave ⟨1⟩] ++
  [.send (.call (.measured ⟨1⟩ []))] ++ turn ++ [.close ⟨1⟩]
where
  turn := .work .sample :: List.replicate 9 .serve

-- Nobody is left and nothing can go on, and still a guard is counted that was dropped.
theorem interrupted_counted : ∃ s, Reached .standard vouched s ∧ s.resting = true ∧
    s.station.loop.scheduler.live = [] ∧ s.guards = [] ∧ s.station.hub.connected = 1 :=
  ⟨(begin .exact (.fresh .standard true)).run interruptedIncidents,
    run_reached _ _ _ interruptedIncidents (.start .exact true _ rfl) (by decide +kernel), by decide +kernel,
    by decide +kernel, by decide +kernel, by decide +kernel⟩

end Shift
end Ranging
