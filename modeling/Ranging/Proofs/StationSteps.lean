import Ranging.Proofs.Registrations
import Ranging.Proofs.Replay
import Ranging.Station.Basic

-- What an event that is posted, an order that is carried out, a guard's channel that is closed and a task that has
-- its turn leave of a station.
namespace Ranging

def EventLoop.listens (l : EventLoop) : Bool := Contents.isOpen l.inbox

def Output.watch? (token : LivenessToken) (order : Output) : Option Bool := order.effect?.bind (Effect.watch? token)

theorem Output.watch_taken (token : LivenessToken) (order : Output) (taken : order.watch? token = some true) :
    order = .effect (.register token) := by
  cases order with
  | status told => cases taken
  | effect effect => cases effect <;> simp_all [Output.watch?, Output.effect?, Effect.watch?]

theorem Output.watch_released (token : LivenessToken) (order : Output) (released : order.watch? token = some false) :
    order = .effect (.unregister token) := by
  cases order with
  | status told => cases released
  | effect effect => cases effect <;> simp_all [Output.watch?, Output.effect?, Effect.watch?]

def Output.isRegister : Output → Bool
  | .effect (.register _) => true
  | _ => false

theorem Hub.wasIssued_iff (h : Hub) (token : LivenessToken) :
    h.wasIssued token = true ↔ 0 < token.val ∧ token.val < h.nextToken.val := by
  simp [wasIssued]

namespace Agenda
variable (now : Time) (job : Job) (a : Agenda)

theorem mem_beginOnce (task : Task) (listed : task ∈ a.beginOnce now job) : task ∈ a ∨ task = ⟨now, job⟩ := by
  unfold beginOnce at listed
  split at listed
  · exact .inl listed
  · rcases List.mem_append.1 listed with old | new
    · exact .inl old
    · exact .inr (List.mem_singleton.1 new)

theorem subset_beginOnce : a ⊆ a.beginOnce now job := by
  unfold beginOnce
  split
  · exact fun _ listed => listed
  · exact fun _ listed => List.mem_append_left _ listed

theorem beginOnce_awaits : ∃ task ∈ a.beginOnce now job, task.job = job := by
  unfold beginOnce
  split
  · next awaits =>
      obtain ⟨task, listed, same⟩ := List.any_eq_true.1 awaits
      exact ⟨task, listed, of_decide_eq_true same⟩
  · exact ⟨⟨now, job⟩, List.mem_append_right _ List.mem_cons_self, rfl⟩

end Agenda

namespace Station
variable (s : Station)

section
variable (event : Event)

theorem post_eq : s.post event = if s.loop.listens then
    { s with loop := { s.loop with
      inbox := { queued := s.loop.pending ++ [event], isOpen := true, senders := Contents.senders s.loop.inbox } } }
    else s := by
  cases listens : s.loop.listens with
  | false =>
      have closed : Contents.isOpen s.loop.inbox = false := listens
      simp [post, Loop.post, Channel.plain, Contents.send, closed]
  | true =>
      have isOpen : Contents.isOpen s.loop.inbox = true := listens
      simp [post, Loop.post, Channel.plain, Contents.send, isOpen, EventLoop.pending]

@[simp] theorem post_clock : (s.post event).clock = s.clock := by
  rw [post_eq]
  split <;> rfl

@[simp] theorem post_agenda : (s.post event).agenda = s.agenda := by
  rw [post_eq]
  split <;> rfl

@[simp] theorem post_hub : (s.post event).hub = s.hub := by
  rw [post_eq]
  split <;> rfl

@[simp] theorem post_resolver : (s.post event).resolver = s.resolver := by
  rw [post_eq]
  split <;> rfl

@[simp] theorem post_timer : (s.post event).timer = s.timer := by
  rw [post_eq]
  split <;> rfl

@[simp] theorem post_scheduler : (s.post event).loop.scheduler = s.loop.scheduler := by
  rw [post_eq]
  split <;> rfl

@[simp] theorem post_stage : (s.post event).loop.stage = s.loop.stage := by
  rw [post_eq]
  split <;> rfl

@[simp] theorem post_listens : (s.post event).loop.listens = s.loop.listens := by
  rw [post_eq]
  cases listens : s.loop.listens with
  | false => simpa using listens
  | true => rfl

theorem post_pending : (s.post event).loop.pending = s.loop.pending ++ if s.loop.listens then [event] else [] := by
  rw [post_eq]
  cases s.loop.listens with
  | false => simp
  | true => rfl

end

theorem post_apart (event : Event) (agenda : Agenda) :
    { s with agenda := agenda }.post event = { s.post event with agenda := agenda } := by
  rw [post_eq, post_eq]
  dsimp only
  split <;> rfl

theorem posted_apart (event : Option Event) (agenda : Agenda) :
    event.toList.foldl (fun s event => s.post event) { s with agenda := agenda } =
      { event.toList.foldl (fun s event => s.post event) s with agenda := agenda } := by
  cases event with
  | none => rfl
  | some event => exact s.post_apart event agenda

theorem register_cases (token : LivenessToken) :
    (s.hub.entries.get? token = none ∧ s.hub.wasIssued token = true ∧
      s.register token = s.post (.call (.requesterDied token))) ∨
    (∃ presence, (s.hub.entries.get? token = some .held ∧ presence = .watched ∨
        s.hub.entries.get? token = some .stray ∧ presence = .lost) ∧
      s.register token = { s with
        hub := { s.hub with entries := s.hub.entries.put token presence }
        agenda := s.agenda.begin s.clock (.watch token) }) ∨
    s.register token = s := by
  cases entry : s.hub.entries.get? token with
  | none =>
      cases issued : s.hub.wasIssued token with
      | true => exact .inl ⟨rfl, rfl, by simp [register, Hub.register, entry, issued]⟩
      | false => exact .inr (.inr (by simp [register, Hub.register, entry, issued]))
  | some presence =>
      cases presence with
      | held => exact .inr (.inl ⟨.watched, .inl ⟨rfl, rfl⟩, by simp [register, Hub.register, entry]⟩)
      | stray => exact .inr (.inl ⟨.lost, .inr ⟨rfl, rfl⟩, by simp [register, Hub.register, entry]⟩)
      | watched => exact .inr (.inr (by simp [register, Hub.register, entry]))
      | lost => exact .inr (.inr (by simp [register, Hub.register, entry]))

-- Orders that are carried out concern the agenda and the hub, and the loop is told of a death at most.
structure Serves (t : Station) : Prop where
  clock : t.clock = s.clock
  resolver : t.resolver = s.resolver
  timer : t.timer = s.timer
  scheduler : t.loop.scheduler = s.loop.scheduler
  stage : t.loop.stage = s.loop.stage
  listens : t.loop.listens = s.loop.listens

theorem serveOutput_serves (order : Output) : s.Serves (s.serveOutput order) := by
  cases order with
  | status told => exact ⟨rfl, rfl, rfl, rfl, rfl, rfl⟩
  | effect effect =>
      cases effect with
      | register token =>
          show s.Serves (s.register token)
          rcases s.register_cases token with ⟨_, _, dead⟩ | ⟨_, _, watching⟩ | nothing
          · rw [dead]
            exact ⟨by simp, by simp, by simp, by simp, by simp, by simp⟩
          · rw [watching]
            exact ⟨rfl, rfl, rfl, rfl, rfl, rfl⟩
          · rw [nothing]
            exact ⟨rfl, rfl, rfl, rfl, rfl, rfl⟩
      | _ => exact ⟨rfl, rfl, rfl, rfl, rfl, rfl⟩

theorem serveAll_serves (orders : List Output) : s.Serves (orders.foldl serveOutput s) := by
  induction orders generalizing s with
  | nil => exact ⟨rfl, rfl, rfl, rfl, rfl, rfl⟩
  | cons order rest ih =>
      have first := s.serveOutput_serves order
      have others := ih (s.serveOutput order)
      exact ⟨others.clock.trans first.clock, others.resolver.trans first.resolver, others.timer.trans first.timer,
        others.scheduler.trans first.scheduler, others.stage.trans first.stage, others.listens.trans first.listens⟩

theorem closeGuard_cases (token : LivenessToken) :
    s.closeGuard token = { s with hub := (s.hub.close token).2 } ∨
    (s.hub.close token).1 = true ∧ s.closeGuard token =
      { s with hub := (s.hub.close token).2, agenda := s.agenda.beginOnce s.clock (.watch token) } := by
  unfold closeGuard
  dsimp only
  split
  · next noticed => exact .inr ⟨noticed, rfl⟩
  · exact .inl rfl

theorem closeGuard_serves (token : LivenessToken) : s.Serves (s.closeGuard token) := by
  rcases s.closeGuard_cases token with same | ⟨_, same⟩ <;> rw [same] <;> exact ⟨rfl, rfl, rfl, rfl, rfl, rfl⟩

theorem serveOutput_issued (order : Output) : (s.serveOutput order).hub.nextToken = s.hub.nextToken := by
  cases order with
  | status told => rfl
  | effect effect =>
      cases effect with
      | register token =>
          show (s.register token).hub.nextToken = _
          rcases s.register_cases token with ⟨_, _, dead⟩ | ⟨_, _, watching⟩ | nothing
          · rw [dead, post_hub]
          · rw [watching]
          · rw [nothing]
      | unregister token =>
          simp only [serveOutput, serve, unregister, Hub.unregister]
          cases s.hub.entries.get? token with
          | none => rfl
          | some presence => cases presence <;> rfl
      | _ => rfl

-- Carrying out an order can put one event on the channel: the registration of somebody who was there and is gone
-- tells of the death.
theorem serveOutput_pending (order : Output) : ∃ more, (s.serveOutput order).loop.pending = s.loop.pending ++ more ∧
    ∀ event ∈ more, ∃ token, order = .effect (.register token) ∧ event = .call (.requesterDied token) ∧
      s.hub.wasIssued token = true ∧ s.hub.entries.get? token = none := by
  have quiet : ∀ t : Station, t.loop.pending = s.loop.pending → ∃ more, t.loop.pending = s.loop.pending ++ more ∧
      ∀ event ∈ more, ∃ token, order = .effect (.register token) ∧ event = .call (.requesterDied token) ∧
        s.hub.wasIssued token = true ∧ s.hub.entries.get? token = none :=
    fun t same => ⟨[], same.trans (List.append_nil _).symm, by simp⟩
  cases order with
  | status told => exact quiet s rfl
  | effect effect =>
      cases effect with
      | register token =>
          rcases s.register_cases token with ⟨entry, issued, dead⟩ | ⟨_, _, watching⟩ | nothing
          · refine ⟨_, (congrArg (fun t => t.loop.pending) dead).trans (s.post_pending _), ?_⟩
            intro event told
            split at told
            · exact ⟨token, rfl, List.mem_singleton.1 told, issued, entry⟩
            · cases told
          · exact quiet _ (congrArg (fun t => t.loop.pending) watching)
          · exact quiet _ (congrArg (fun t => t.loop.pending) nothing)
      | _ => exact quiet _ rfl

section
variable (token : LivenessToken)

theorem serveOutput_spares (order : Output) (elsewhere : order.watch? token = none) :
    (s.serveOutput order).hub.entries.get? token = s.hub.entries.get? token ∧
    ∀ task ∈ s.agenda, task.job = .watch token → task ∈ (s.serveOutput order).agenda := by
  have unchanged : s.hub.entries.get? token = s.hub.entries.get? token ∧
      ∀ task ∈ s.agenda, task.job = .watch token → task ∈ s.agenda := ⟨rfl, fun _ listed _ => listed⟩
  cases order with
  | status told => exact unchanged
  | effect effect =>
      cases effect with
      | arm due cid =>
          refine ⟨rfl, ?_⟩
          intro task listed job
          exact List.mem_append_left _ (List.mem_filter.2 ⟨listed, by simp [job]⟩)
      | disarm cid =>
          refine ⟨rfl, ?_⟩
          intro task listed job
          exact List.mem_filter.2 ⟨listed, by simp [job]⟩
      | resolve uid handles id => exact ⟨rfl, fun _ listed _ => List.mem_append_left _ listed⟩
      | register other =>
          have another : token ≠ other := by
            rintro rfl
            simp [Output.watch?, Output.effect?, Effect.watch?] at elsewhere
          show (s.register other).hub.entries.get? token = _ ∧ ∀ task ∈ s.agenda, _ → task ∈ (s.register other).agenda
          rcases s.register_cases other with ⟨_, _, dead⟩ | ⟨_, _, watching⟩ | nothing
          · rw [dead, post_hub, post_agenda]
            exact unchanged
          · rw [watching]
            exact ⟨by simp [another], fun _ listed _ => List.mem_append_left _ listed⟩
          · rw [nothing]
            exact unchanged
      | unregister other =>
          have another : token ≠ other := by
            rintro rfl
            simp [Output.watch?, Output.effect?, Effect.watch?] at elsewhere
          constructor
          · simp only [serveOutput, serve, unregister, Hub.unregister]
            cases s.hub.entries.get? other with
            | none => rfl
            | some presence => cases presence <;> simp [another]
          · intro task listed job
            exact List.mem_filter.2 ⟨listed, by simp [job, another]⟩
      | _ => exact unchanged

theorem serveOutput_turns (order : Output) (task : Task)
    (listed : task ∈ (s.serveOutput order).agenda) (watch : task.job = .watch token) :
    task ∈ s.agenda ∨ task.due = s.clock := by
  cases order with
  | status told => exact .inl listed
  | effect effect =>
      cases effect with
      | arm due cid =>
          rcases List.mem_append.1 listed with old | new
          · exact .inl (List.mem_filter.1 old).1
          · rw [List.mem_singleton.1 new] at watch
            cases watch
      | disarm cid => exact .inl (List.mem_filter.1 listed).1
      | resolve uid handles id =>
          rcases List.mem_append.1 listed with old | new
          · exact .inl old
          · rw [List.mem_singleton.1 new] at watch
            cases watch
      | register other =>
          replace listed : task ∈ (s.register other).agenda := listed
          rcases s.register_cases other with ⟨_, _, dead⟩ | ⟨_, _, watching⟩ | nothing
          · rw [dead, post_agenda] at listed
            exact .inl listed
          · rw [watching] at listed
            rcases List.mem_append.1 listed with old | new
            · exact .inl old
            · exact .inr (List.mem_singleton.1 new ▸ rfl)
          · rw [nothing] at listed
            exact .inl listed
      | unregister other => exact .inl (List.mem_filter.1 listed).1
      | _ => exact .inl listed

end

section
variable (l : EventLoop)

theorem serveOutput_apart (order : Output)
    (apart : order.isRegister = false ∨ (s.loop.listens = false ∧ l.listens = false)) :
    { s with loop := l }.serveOutput order = { s.serveOutput order with loop := l } := by
  cases order with
  | status told => rfl
  | effect effect =>
      cases effect with
      | register token =>
          rcases apart with never | ⟨deaf, deaf'⟩
          · cases never
          · simp only [serveOutput, serve, register]
            split
            · rfl
            · rw [post_eq, post_eq]
              simp [deaf, deaf']
            · rfl
      | _ => rfl

theorem serveAll_apart (orders : List Output) (apart : (∀ order ∈ orders, order.isRegister = false) ∨
      (s.loop.listens = false ∧ l.listens = false)) :
    orders.foldl serveOutput { s with loop := l } = { orders.foldl serveOutput s with loop := l } := by
  induction orders generalizing s with
  | nil => rfl
  | cons order rest ih =>
      rw [List.foldl_cons, List.foldl_cons, serveOutput_apart s l order]
      · refine ih (s.serveOutput order) ?_
        rcases apart with silent | ⟨deaf, deaf'⟩
        · exact .inl fun other listed => silent other (List.mem_cons_of_mem _ listed)
        · exact .inr ⟨(s.serveOutput_serves order).listens.trans deaf, deaf'⟩
      · exact apart.imp_left fun silent => silent order List.mem_cons_self

end

theorem perform_rings (due : Time) (cid : CorrelationId) (past : due ≤ s.clock) :
    s.perform ⟨due, .wakeup cid⟩ = (none, some (.call (.wake cid))) := by
  simp [perform, Nat.not_lt.2 past]

section
variable (token : LivenessToken)

theorem perform_left (task other : Task) (left : (s.perform task).1 = some other) (watch : other.job = .watch token) :
    other = task ∧ s.clock < task.due := by
  unfold perform at left
  split at left
  · next early => exact ⟨(Option.some.inj left).symm, early⟩
  · split at left
    · cases left
    · cases left
    · cases left
    · dsimp only at left
      split at left
      · cases left
      · rw [← Option.some.inj left] at watch
        cases watch

theorem perform_tells (task : Task) (event : Event) (told : (s.perform task).2 = some event) :
    (∀ sub, event ≠ .call (.submit sub)) ∧ ∀ token, event = .call (.requesterDied token) →
      task.job = .watch token ∧ s.hub.hasLost token = true := by
  unfold perform at told
  split at told
  · cases told
  · split at told
    · cases told
      exact ⟨nofun, nofun⟩
    · next token job =>
        dsimp only at told
        split at told
        · next lost =>
            cases told
            refine ⟨nofun, ?_⟩
            rintro other ⟨⟩
            exact ⟨job, lost⟩
        · cases told
    · cases told
      exact ⟨nofun, nofun⟩
    · dsimp only at told
      split at told
      · cases told
        exact ⟨nofun, nofun⟩
      · cases told

theorem perform_watch (task : Task) (watch : task.job = .watch token) (lost : s.hub.hasLost token = true)
    (due : task.due ≤ s.clock) : (s.perform task).2 = some (.call (.requesterDied token)) := by
  simp [perform, watch, lost, Nat.not_lt.2 due]

end

theorem perform_alike (t : Station) (task : Task) (clock : t.clock = s.clock) (hub : t.hub = s.hub)
    (resolver : t.resolver = s.resolver) (timer : t.timer = s.timer)
    (scheduler : t.loop.scheduler = s.loop.scheduler) : t.perform task = s.perform task := by
  simp only [perform, clock, hub, resolver, timer, scheduler]

end Station
end Ranging
