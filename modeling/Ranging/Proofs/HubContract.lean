import Ranging.Proofs.StationSteps
import Mathlib.Data.List.Induction

-- The hub by itself. Requesters take their guards and drop them, somebody registers lives and lets them go, and after
-- each of it all tasks have their turns. No entry outlives its guard and its watch, and each registration of somebody
-- who is dead or dies is told of once.
namespace Ranging

inductive HubCall
  | connect
  | drop (token : LivenessToken)
  | register (token : LivenessToken)
  | unregister (token : LivenessToken)
deriving DecidableEq

namespace HubCall
variable (token : LivenessToken) (past : List HubCall)

def issued : Bool := 0 < token.val && token.val ≤ past.count .connect

-- A guard can be dropped only once, for its token is never given out again.
def held : Bool := issued token past && !past.contains (.drop token)

def registers? (token : LivenessToken) : HubCall → Option Bool
  | .register other => if other = token then some true else none
  | .unregister other => if other = token then some false else none
  | _ => none

def registered : Bool := (past.filterMap (registers? token)).getLast?.getD false

def fits (past : List HubCall) : HubCall → Bool
  | .connect => true
  | .drop token => held token past
  | .register token => issued token past && !registered token past
  | .unregister token => registered token past

def proper : List HubCall → List HubCall → Bool
  | _, [] => true
  | past, hubCall :: rest => fits past hubCall && proper (past ++ [hubCall]) rest

end HubCall

def Hub.isWatching (token : LivenessToken) (h : Hub) : Bool := (h.entries.get? token).any isWatch

def Event.isDeathOf (token : LivenessToken) : Event → Bool
  | .call (.requesterDied other) => decide (other = token)
  | _ => false

namespace Station

def applied (hubCall : HubCall) (s : Station) : Station :=
  match hubCall with
  | .connect => s.connect.2
  | .drop token => (s.dropGuard token).2
  | .register token => s.register token
  | .unregister token => s.unregister token

def handle (hubCall : HubCall) (s : Station) : Station := (s.applied hubCall).performAll

def handleAll (hubCalls : List HubCall) (s : Station) : Station := hubCalls.foldl (fun s hubCall => s.handle hubCall) s

def deaths (token : LivenessToken) (s : Station) : Nat := s.loop.pending.countP (Event.isDeathOf token)

structure HubContract (start : Station) (hubCalls : List HubCall) : Prop where
  settled : (start.handleAll hubCalls).agenda = []
  entered : ∀ token, (start.handleAll hubCalls).hub.entries.contains token = true ↔
    HubCall.held token hubCalls = true ∨ (start.handleAll hubCalls).hub.isWatching token = true
  watched : ∀ token, (start.handleAll hubCalls).hub.isWatching token = true ↔ ∃ before during,
    hubCalls = before ++ .register token :: during ∧ .unregister token ∉ during ∧ HubCall.held token before = true
  told : ∀ before hubCall after, hubCalls = before ++ hubCall :: after → ∃ news,
    (start.handleAll (before ++ [hubCall])).loop.pending = (start.handleAll before).loop.pending ++ news ∧
    ∀ event ∈ news, ∃ token, event = .call (.requesterDied token) ∧
      HubCall.registered token (before ++ [hubCall]) = true ∧ .drop token ∈ before ++ [hubCall]
  once : ∀ before token during after, hubCalls = before ++ .register token :: during ++ after →
    .unregister token ∉ during → (start.handleAll (before ++ .register token :: during)).deaths token =
      (start.handleAll before).deaths token + if .drop token ∈ before ++ during then 1 else 0
  gone : ∀ before token after, hubCalls = before ++ after → .drop token ∈ before →
    HubCall.registered token before = false → (start.handleAll hubCalls).hub.entries.contains token = false

end Station

namespace HubCall
variable (token : LivenessToken) (past : List HubCall) (hubCall : HubCall)

theorem standing_snoc (known : List HubCall → Prop) :
    (∃ before during, past ++ [hubCall] = before ++ .register token :: during ∧ .unregister token ∉ during ∧
        known before) ↔
      (hubCall = .register token ∧ known past) ∨ (hubCall ≠ .unregister token ∧
        ∃ before during, past = before ++ .register token :: during ∧ .unregister token ∉ during ∧ known before) := by
  constructor
  · rintro ⟨before, during, split, apart, fact⟩
    rcases List.eq_nil_or_concat during with rfl | ⟨during, last, rfl⟩
    · obtain ⟨rfl, same⟩ := List.append_inj' split rfl
      exact .inl ⟨(List.cons.inj same).1, fact⟩
    · rw [List.concat_eq_append] at split apart
      rw [← List.cons_append, ← List.append_assoc] at split
      obtain ⟨same, latest⟩ := List.append_inj' split rfl
      obtain rfl := (List.cons.inj latest).1
      rw [List.mem_append, not_or, List.mem_singleton] at apart
      exact .inr ⟨Ne.symm apart.2, before, during, same, apart.1, fact⟩
  · rintro (⟨rfl, fact⟩ | ⟨other, before, during, rfl, apart, fact⟩)
    · exact ⟨past, [], rfl, List.not_mem_nil, fact⟩
    · refine ⟨before, during ++ [hubCall], by simp, ?_, fact⟩
      rw [List.mem_append, not_or, List.mem_singleton]
      exact ⟨apart, Ne.symm other⟩

theorem registered_snoc : registered token (past ++ [hubCall]) =
    ((registers? token hubCall).getD (registered token past)) := by
  cases asked : registers? token hubCall <;> simp [registered, asked]

theorem registered_iff : registered token past = true ↔
    ∃ before during, past = before ++ .register token :: during ∧ .unregister token ∉ during := by
  induction past using List.reverseRecOn with
  | nil => simp [registered]
  | append_singleton past hubCall ih =>
      have split := standing_snoc token past hubCall fun _ => True
      simp only [and_true] at split
      rw [split, registered_snoc, ← ih]
      cases hubCall with
      | connect => simp [registers?]
      | drop other => simp [registers?]
      | register other => by_cases same : other = token <;> simp [registers?, same]
      | unregister other => by_cases same : other = token <;> simp [registers?, same]

theorem proper_append (more : List HubCall) (rest : List HubCall) :
    proper past (more ++ rest) = (proper past more && proper (past ++ more) rest) := by
  induction more generalizing past with
  | nil => simp [proper]
  | cons hubCall more ih => simp [proper, ih, Bool.and_assoc]

def RegisteredWhileHeld (token : LivenessToken) (past : List HubCall) : Prop :=
  ∃ before during, past = before ++ .register token :: during ∧ .unregister token ∉ during ∧ held token before = true

theorem registeredWhileHeld_snoc :
    RegisteredWhileHeld token (past ++ [hubCall]) ↔ (hubCall = .register token ∧ held token past = true) ∨
    (hubCall ≠ .unregister token ∧ RegisteredWhileHeld token past) :=
  standing_snoc token past hubCall fun before => held token before = true

theorem registeredWhileHeld_registered (witnessed : RegisteredWhileHeld token past) : registered token past = true := by
  obtain ⟨before, during, split, apart, _⟩ := witnessed
  exact (registered_iff token past).2 ⟨before, during, split, apart⟩

theorem unwitnessed (free : registered token past = false) : ¬ RegisteredWhileHeld token past := fun witnessed =>
  Bool.eq_false_iff.1 free (registeredWhileHeld_registered token past witnessed)

theorem issued_snoc : issued token (past ++ [hubCall]) =
    (issued token past || (hubCall = .connect && token.val = past.count .connect + 1)) := by
  cases hubCall with
  | connect =>
      rw [Bool.eq_iff_iff]
      simp [issued]
      omega
  | drop other => simp [issued, List.count_append]
  | register other => simp [issued, List.count_append]
  | unregister other => simp [issued, List.count_append]

theorem held_iff : held token past = true ↔ issued token past = true ∧ .drop token ∉ past := by
  simp [held]

def subject? : HubCall → Option LivenessToken
  | .connect => none
  | .drop token => some token
  | .register token => some token
  | .unregister token => some token

theorem registers?_other (subject : hubCall.subject? = some token) (other : LivenessToken) (differ : other ≠ token) :
    registers? other hubCall = none := by
  cases hubCall with
  | connect => rfl
  | drop => rfl
  | register => exact if_neg (Option.some.inj subject ▸ differ.symm)
  | unregister => exact if_neg (Option.some.inj subject ▸ differ.symm)

theorem drop_other (subject : hubCall.subject? = some token) (other : LivenessToken) (differ : other ≠ token) :
    hubCall ≠ .drop other := by
  rintro rfl
  exact differ (Option.some.inj subject)

end HubCall

namespace Hub
variable (h : Hub)

def apply : HubCall → Hub
  | .connect => h.connect.2
  | .drop token => ((h.leave token).close token).2
  | .register token => (h.register token).2
  | .unregister token => h.unregister token

def tells? : HubCall → Option LivenessToken
  | .connect => none
  | .drop token => if ((h.leave token).close token).1 then some token else none
  | .register token =>
      match (h.register token).1 with
      | .nothing => none
      | .dead => some token
      | .watching => if (h.register token).2.hasLost token then some token else none
  | .unregister _ => none

variable (hubCall : HubCall) (token : LivenessToken)

theorem close_noticed (noticed : (h.close token).1 = true) : (h.close token).2.hasLost token = true := by
  revert noticed
  unfold close
  split <;> simp [hasLost]

theorem register_dead (dead : (h.register token).1 = .dead) : (h.register token).2 = h := by
  revert dead
  unfold register
  split <;> simp

section
variable (subject : hubCall.subject? = some token)
include subject

theorem apply_next : (h.apply hubCall).nextToken = h.nextToken := by
  cases hubCall with
  | connect => cases subject
  | drop =>
      simp only [apply, close, leave]
      split <;> split <;> rfl
  | register =>
      simp only [apply, register]
      split <;> rfl
  | unregister =>
      simp only [apply, unregister]
      split <;> rfl

theorem apply_other (other : LivenessToken) (differ : other ≠ token) :
    (h.apply hubCall).entries.get? other = h.entries.get? other := by
  cases hubCall with
  | connect => cases subject
  | drop named =>
      obtain rfl : named = token := Option.some.inj subject
      simp only [apply, close, leave]
      split <;> split <;> simp [differ]
  | register named =>
      obtain rfl : named = token := Option.some.inj subject
      simp only [apply, register]
      split <;> simp [differ]
  | unregister named =>
      obtain rfl : named = token := Option.some.inj subject
      simp only [apply, unregister]
      split <;> simp [differ]

end

end Hub

-- A call to a station where all is done, with everything that it leads to.
structure Station.Handled (s : Station) (hubCall : HubCall) (t : Station) : Prop where
  hub : t.hub = s.hub.apply hubCall
  settled : t.agenda = []
  listens : t.loop.listens = true
  pending : t.loop.pending =
    s.loop.pending ++ ((s.hub.tells? hubCall).map fun token => .call (.requesterDied token)).toList

namespace Station
variable (s : Station) (hubCall : HubCall) (token : LivenessToken)

theorem performAll_settled (settled : s.agenda = []) : s.performAll = s := by
  obtain ⟨loop, clock, agenda, hub, resolver⟩ := s
  obtain rfl : agenda = [] := settled
  rfl

theorem performAll_watch (agenda : s.agenda = [⟨s.clock, .watch token⟩]) : s.performAll =
    if s.hub.hasLost token then ({ s with agenda := [] } : Station).post (.call (.requesterDied token))
    else { s with agenda := [] } := by
  cases lost : s.hub.hasLost token <;> simp [performAll, agenda, perform, lost]

theorem handled_quietly (settled : s.agenda = []) (listens : s.loop.listens = true)
    (applied : s.applied hubCall = { s with hub := s.hub.apply hubCall }) (silent : s.hub.tells? hubCall = none) :
    s.Handled hubCall (s.handle hubCall) := by
  have same : s.handle hubCall = { s with hub := s.hub.apply hubCall } :=
    (congrArg performAll applied).trans (performAll_settled { s with hub := s.hub.apply hubCall } settled)
  rw [same]
  exact ⟨rfl, settled, listens, by simp [silent]⟩

theorem handled_watch (listens : s.loop.listens = true) (applied : s.applied hubCall =
    { s with hub := s.hub.apply hubCall, agenda := [⟨s.clock, .watch token⟩] })
    (told : s.hub.tells? hubCall = if (s.hub.apply hubCall).hasLost token then some token else none) :
    s.Handled hubCall (s.handle hubCall) := by
  rw [handle, applied, performAll_watch _ token rfl]
  cases lost : (s.hub.apply hubCall).hasLost token with
  | false => exact ⟨rfl, rfl, listens, by simp [told, lost]⟩
  | true =>
      refine ⟨post_hub _ _, post_agenda _ _, (post_listens _ _).trans listens, (post_pending _ _).trans ?_⟩
      simp [told, lost, listens]

theorem handled_told (settled : s.agenda = []) (listens : s.loop.listens = true)
    (applied : s.applied hubCall = s.post (.call (.requesterDied token))) (hub : s.hub.apply hubCall = s.hub)
    (told : s.hub.tells? hubCall = some token) : s.Handled hubCall (s.handle hubCall) := by
  have gone : (s.post (.call (.requesterDied token))).agenda = [] := (s.post_agenda _).trans settled
  rw [handle, applied, performAll_settled _ gone]
  refine ⟨(s.post_hub _).trans hub.symm, gone, (s.post_listens _).trans listens, (s.post_pending _).trans ?_⟩
  simp [told, listens]

section
variable (settled : s.agenda = []) (listens : s.loop.listens = true)
include settled listens

theorem drop_handled : s.Handled (.drop token) (s.handle (.drop token)) := by
  cases noticed : ((s.hub.leave token).close token).1 with
  | false =>
      apply handled_quietly s _ settled listens <;>
        simp [applied, dropGuard, leave, closeGuard, Hub.apply, Hub.tells?, noticed]
  | true =>
      apply handled_watch s _ token listens
      · simp [applied, dropGuard, leave, closeGuard, Hub.apply, noticed, settled, Agenda.beginOnce, Agenda.awaits,
          Agenda.begin]
      · simp [Hub.apply, Hub.tells?, noticed, Hub.close_noticed]

theorem register_handled : s.Handled (.register token) (s.handle (.register token)) := by
  cases registered : (s.hub.register token).1 with
  | nothing =>
      apply handled_quietly s _ settled listens <;> simp [applied, register, Hub.apply, Hub.tells?, registered]
  | dead =>
      apply handled_told s _ token settled listens <;>
        simp [applied, register, Hub.apply, Hub.tells?, registered, Hub.register_dead]
  | watching =>
      apply handled_watch s _ token listens
      · simp [applied, register, Hub.apply, registered, settled, Agenda.begin]
      · simp only [Hub.apply, Hub.tells?, registered]
        rfl

theorem handle_handled : s.Handled hubCall (s.handle hubCall) := by
  cases hubCall with
  | connect => exact handled_quietly s _ settled listens rfl rfl
  | drop token => exact drop_handled s token settled listens
  | register token => exact register_handled s token settled listens
  | unregister token =>
      apply handled_quietly s _ settled listens
      · simp [applied, unregister, Hub.apply, settled, Agenda.without]
      · rfl

end

end Station

-- All that can be the matter with a token, by what was done so far: whether it was given out, whether its guard was
-- dropped, and whether it is registered and was so while the guard was held.
inductive Hub.TokenCase (token : LivenessToken) (past : List HubCall) (entry : Option Presence) : Prop
  | unknown : HubCall.issued token past = false → .drop token ∉ past → HubCall.registered token past = false →
      entry = none → TokenCase token past entry
  | held : HubCall.issued token past = true → .drop token ∉ past → HubCall.registered token past = false →
      entry = some .held → TokenCase token past entry
  | watched : HubCall.issued token past = true → .drop token ∉ past → HubCall.RegisteredWhileHeld token past →
      entry = some .watched → TokenCase token past entry
  | lost : HubCall.issued token past = true → .drop token ∈ past → HubCall.RegisteredWhileHeld token past →
      entry = some .lost → TokenCase token past entry
  | late : HubCall.issued token past = true → .drop token ∈ past → HubCall.registered token past = true →
      ¬ HubCall.RegisteredWhileHeld token past → entry = none → TokenCase token past entry
  | gone : HubCall.issued token past = true → .drop token ∈ past → HubCall.registered token past = false →
      entry = none → TokenCase token past entry

structure Hub.EntriesMatch (past : List HubCall) (h : Hub) : Prop where
  standing : ∀ token, TokenCase token past (h.entries.get? token)
  next : h.nextToken.val = past.count .connect + 1

namespace Hub
variable (token : LivenessToken) (past : List HubCall) (hubCall : HubCall) (h : Hub)

theorem TokenCase.elsewhere (entry : Option Presence) (standing : TokenCase token past entry)
    (elsewhere : HubCall.registers? token hubCall = none) (other : hubCall ≠ .drop token)
    (old : hubCall = .connect → token.val ≠ past.count .connect + 1) : TokenCase token (past ++ [hubCall]) entry := by
  have issued : HubCall.issued token (past ++ [hubCall]) = HubCall.issued token past := by
    rw [HubCall.issued_snoc]
    simpa using fun connect again => absurd again (old connect)
  have dropped : .drop token ∈ past ++ [hubCall] ↔ .drop token ∈ past := by simp [Ne.symm other]
  have registered : HubCall.registered token (past ++ [hubCall]) = HubCall.registered token past := by
    rw [HubCall.registered_snoc, elsewhere]
    rfl
  have witnessed : HubCall.RegisteredWhileHeld token (past ++ [hubCall]) ↔ HubCall.RegisteredWhileHeld token past := by
    rw [HubCall.registeredWhileHeld_snoc]
    cases hubCall <;> simp_all [HubCall.registers?]
  cases standing with
  | unknown never kept free none => exact .unknown (issued ▸ never) (dropped.not.2 kept) (registered ▸ free) none
  | held was kept free here => exact .held (issued ▸ was) (dropped.not.2 kept) (registered ▸ free) here
  | watched was kept seen here => exact .watched (issued ▸ was) (dropped.not.2 kept) (witnessed.2 seen) here
  | lost was gone seen here => exact .lost (issued ▸ was) (dropped.2 gone) (witnessed.2 seen) here
  | late was gone taken unseen none =>
      exact .late (issued ▸ was) (dropped.2 gone) (registered ▸ taken) (witnessed.not.2 unseen) none
  | gone was gone free none => exact .gone (issued ▸ was) (dropped.2 gone) (registered ▸ free) none

theorem TokenCase.fresh (entry : Option Presence) (standing : TokenCase token past entry)
    (never : HubCall.issued token past = false) : .drop token ∉ past ∧ HubCall.registered token past = false := by
  cases standing with
  | unknown _ kept free _ => exact ⟨kept, free⟩
  | held was => rw [never] at was; cases was
  | watched was => rw [never] at was; cases was
  | lost was => rw [never] at was; cases was
  | late was => rw [never] at was; cases was
  | gone was => rw [never] at was; cases was

theorem TokenCase.of_held (entry : Option Presence) (standing : TokenCase token past entry)
    (held : HubCall.held token past = true) : (HubCall.registered token past = false ∧ entry = some .held) ∨
      (HubCall.RegisteredWhileHeld token past ∧ entry = some .watched) := by
  obtain ⟨issued, undropped⟩ := (HubCall.held_iff token past).1 held
  cases standing with
  | held _ _ free here => exact .inl ⟨free, here⟩
  | watched _ _ witnessed here => exact .inr ⟨witnessed, here⟩
  | unknown never => rw [issued] at never; cases never
  | lost _ dropped => exact absurd dropped undropped
  | late _ dropped => exact absurd dropped undropped
  | gone _ dropped => exact absurd dropped undropped

theorem TokenCase.of_free (entry : Option Presence) (standing : TokenCase token past entry)
    (issued : HubCall.issued token past = true) (free : HubCall.registered token past = false) :
    (.drop token ∉ past ∧ entry = some .held) ∨ (.drop token ∈ past ∧ entry = none) := by
  have unseen : ¬ HubCall.RegisteredWhileHeld token past := HubCall.unwitnessed token past free
  cases standing with
  | held _ undropped _ here => exact .inl ⟨undropped, here⟩
  | gone _ dropped _ here => exact .inr ⟨dropped, here⟩
  | unknown never => rw [issued] at never; cases never
  | watched _ _ witnessed => exact absurd witnessed unseen
  | lost _ _ witnessed => exact absurd witnessed unseen
  | late _ _ taken => rw [free] at taken; cases taken

theorem EntriesMatch.next_iff (kept : h.EntriesMatch past) :
    token = h.nextToken ↔ token.val = past.count .connect + 1 := by
  obtain ⟨value⟩ := token
  rw [← kept.next]
  exact ⟨congrArg LivenessToken.val, congrArg LivenessToken.mk⟩

theorem connect_entriesMatch (kept : h.EntriesMatch past) : (h.apply .connect).EntriesMatch (past ++ [.connect]) := by
  refine ⟨fun token => ?_, by simp [apply, connect, kept.next]⟩
  have entry : (h.apply .connect).entries.get? token =
      if token = h.nextToken then some .held else h.entries.get? token := Table.get?_put _ _ _ _
  rw [entry]
  split
  · next same =>
      have fresh := (kept.next_iff token past h).1 same
      obtain ⟨undropped, free⟩ := (kept.standing token).fresh token past _ (by simp [HubCall.issued, fresh])
      exact .held (by simp [HubCall.issued_snoc, fresh]) (by simpa using undropped)
        ((HubCall.registered_snoc token past .connect).trans free) rfl
  · next other =>
      exact (kept.standing token).elsewhere token past _ _ rfl (by simp)
        fun _ again => other ((kept.next_iff token past h).2 again)

theorem EntriesMatch.touched (kept : h.EntriesMatch past) (subject : hubCall.subject? = some token)
    (here : TokenCase token (past ++ [hubCall]) ((h.apply hubCall).entries.get? token)) :
    (h.apply hubCall).EntriesMatch (past ++ [hubCall]) := by
  have plain : hubCall ≠ .connect := by
    rintro rfl
    cases subject
  refine ⟨fun other => ?_, ?_⟩
  · by_cases same : other = token
    · rw [same]
      exact here
    · rw [h.apply_other hubCall token subject other same]
      exact (kept.standing other).elsewhere other past hubCall _
        (HubCall.registers?_other token hubCall subject other same)
        (HubCall.drop_other token hubCall subject other same) fun connect => absurd connect plain
  · rw [h.apply_next hubCall token subject, kept.next, List.count_append, List.count_singleton]
    simp [plain]

theorem drop_entriesMatch (kept : h.EntriesMatch past) (held : HubCall.held token past = true) :
    (h.apply (.drop token)).EntriesMatch (past ++ [.drop token]) := by
  have issued : HubCall.issued token past = true := ((HubCall.held_iff token past).1 held).1
  have was : HubCall.issued token (past ++ [.drop token]) = true := by simp [HubCall.issued_snoc, issued]
  have gone : .drop token ∈ past ++ [.drop token] := List.mem_append_right _ List.mem_cons_self
  refine kept.touched token past _ h rfl ?_
  rcases (kept.standing token).of_held token past _ held with ⟨free, here⟩ | ⟨witnessed, here⟩
  · exact .gone was gone ((HubCall.registered_snoc token past _).trans free) (by simp [apply, leave, close, here])
  · have seen : HubCall.RegisteredWhileHeld token (past ++ [.drop token]) :=
      (HubCall.registeredWhileHeld_snoc token past _).2 (.inr ⟨by simp, witnessed⟩)
    exact .lost was gone seen (by simp [apply, leave, close, here])

theorem register_entriesMatch (kept : h.EntriesMatch past) (issued : HubCall.issued token past = true)
    (free : HubCall.registered token past = false) :
    (h.apply (.register token)).EntriesMatch (past ++ [.register token]) := by
  have was : HubCall.issued token (past ++ [.register token]) = true := by simp [HubCall.issued_snoc, issued]
  have dropped : .drop token ∈ past ++ [.register token] ↔ .drop token ∈ past := by simp
  have taken : HubCall.registered token (past ++ [.register token]) = true := by
    simp [HubCall.registered_snoc, HubCall.registers?]
  refine kept.touched token past _ h rfl ?_
  rcases (kept.standing token).of_free token past _ issued free with ⟨undropped, here⟩ | ⟨gone, here⟩
  · have held : HubCall.held token past = true := (HubCall.held_iff token past).2 ⟨issued, undropped⟩
    exact .watched was (dropped.not.2 undropped) ((HubCall.registeredWhileHeld_snoc token past _).2 (.inl ⟨rfl, held⟩))
      (by simp [apply, register, here])
  · refine .late was (dropped.2 gone) taken ?_ (by simp [apply, register, here])
    simp [HubCall.registeredWhileHeld_snoc, HubCall.unwitnessed token past free, HubCall.held_iff, gone]

theorem unregister_entriesMatch (kept : h.EntriesMatch past) (taken : HubCall.registered token past = true) :
    (h.apply (.unregister token)).EntriesMatch (past ++ [.unregister token]) := by
  have issued : HubCall.issued token past = true → HubCall.issued token (past ++ [.unregister token]) = true :=
    fun was => by simp [HubCall.issued_snoc, was]
  have dropped : .drop token ∈ past ++ [.unregister token] ↔ .drop token ∈ past := by simp
  have free : HubCall.registered token (past ++ [.unregister token]) = false := by
    simp [HubCall.registered_snoc, HubCall.registers?]
  refine kept.touched token past _ h rfl ?_
  cases kept.standing token with
  | watched was undropped _ here =>
      exact .held (issued was) (dropped.not.2 undropped) free (by simp [apply, unregister, here])
  | lost was gone _ here => exact .gone (issued was) (dropped.2 gone) free (by simp [apply, unregister, here])
  | late was gone _ _ here => exact .gone (issued was) (dropped.2 gone) free (by simp [apply, unregister, here])
  | unknown _ _ idle => rw [taken] at idle; cases idle
  | held _ _ idle => rw [taken] at idle; cases idle
  | gone _ _ idle => rw [taken] at idle; cases idle

theorem apply_entriesMatch (kept : h.EntriesMatch past) (fits : HubCall.fits past hubCall = true) :
    (h.apply hubCall).EntriesMatch (past ++ [hubCall]) := by
  cases hubCall with
  | connect => exact connect_entriesMatch past h kept
  | drop token => exact drop_entriesMatch token past h kept fits
  | register token =>
      obtain ⟨issued, free⟩ := Bool.and_eq_true_iff.1 fits
      exact register_entriesMatch token past h kept issued (by simpa using free)
  | unregister token => exact unregister_entriesMatch token past h kept fits

theorem EntriesMatch.wasIssued (kept : h.EntriesMatch past) : h.wasIssued token = HubCall.issued token past := by
  simp only [Hub.wasIssued, HubCall.issued, kept.next, Nat.lt_add_one_iff]

theorem tells?_iff (kept : h.EntriesMatch past) (fits : HubCall.fits past hubCall = true) :
    h.tells? hubCall = some token ↔ (hubCall = .drop token ∧ HubCall.registered token past = true) ∨
      (hubCall = .register token ∧ .drop token ∈ past) := by
  cases hubCall with
  | connect => simp [tells?]
  | unregister other => simp [tells?]
  | drop other =>
      by_cases same : other = token
      · subst same
        rcases (kept.standing other).of_held other past _ fits with ⟨free, here⟩ | ⟨witnessed, here⟩
        · simp [tells?, leave, close, here, free]
        · simp [tells?, leave, close, here, HubCall.registeredWhileHeld_registered other past witnessed]
      · simp [tells?, same]
  | register other =>
      by_cases same : other = token
      · subst same
        obtain ⟨issued, free⟩ := Bool.and_eq_true_iff.1 fits
        have known : h.wasIssued other = true := (kept.wasIssued other past h).trans issued
        rcases (kept.standing other).of_free other past _ issued (by simpa using free) with
          ⟨undropped, here⟩ | ⟨dropped, here⟩
        · simp [tells?, register, here, undropped, hasLost]
        · simp [tells?, register, here, known, dropped]
      · have apart : h.tells? (.register other) ≠ some token := by
          simp only [tells?]
          split
          · simp
          · simpa using same
          · split <;> simp [same]
        simp [apart, same]

theorem tells?_after (kept : h.EntriesMatch past) (fits : HubCall.fits past hubCall = true)
    (told : h.tells? hubCall = some token) :
    HubCall.registered token (past ++ [hubCall]) = true ∧ .drop token ∈ past ++ [hubCall] := by
  rw [HubCall.registered_snoc]
  rcases (h.tells?_iff token past hubCall kept fits).1 told with ⟨rfl, registered⟩ | ⟨rfl, dropped⟩
  · exact ⟨registered, by simp⟩
  · exact ⟨by simp [HubCall.registers?], by simp [dropped]⟩

section
variable (kept : h.EntriesMatch past)
include kept

theorem EntriesMatch.watching : h.isWatching token = true ↔ HubCall.RegisteredWhileHeld token past := by
  have idle := HubCall.unwitnessed token past
  cases kept.standing token with
  | unknown _ _ free here => simp [isWatching, here, idle free]
  | held _ _ free here => simp [isWatching, here, isWatch, idle free]
  | watched _ _ witnessed here => simp [isWatching, here, isWatch, witnessed]
  | lost _ _ witnessed here => simp [isWatching, here, isWatch, witnessed]
  | late _ _ _ unseen here => simp [isWatching, here, unseen]
  | gone _ _ free here => simp [isWatching, here, idle free]

theorem EntriesMatch.entered :
    h.entries.contains token = true ↔ HubCall.held token past = true ∨ h.isWatching token = true := by
  rw [HubCall.held_iff]
  cases kept.standing token with
  | unknown never _ _ here => simp [isWatching, here, never]
  | held was undropped _ here => simp [here, was, undropped]
  | watched was undropped _ here => simp [here, was, undropped]
  | lost _ _ _ here => simp [isWatching, here, isWatch]
  | late _ dropped _ _ here => simp [isWatching, here, dropped]
  | gone _ dropped _ here => simp [isWatching, here, dropped]

end

end Hub

structure Station.HubHistory (past : List HubCall) (s : Station) : Prop where
  kept : s.hub.EntriesMatch past
  settled : s.agenda = []
  listens : s.loop.listens = true

namespace Station
variable (s : Station) (past : List HubCall) (hubCall : HubCall) (token : LivenessToken)

theorem handle_hubHistory (hosting : s.HubHistory past) (fits : HubCall.fits past hubCall = true) :
    (s.handle hubCall).HubHistory (past ++ [hubCall]) := by
  have attended := s.handle_handled hubCall hosting.settled hosting.listens
  exact ⟨attended.hub ▸ s.hub.apply_entriesMatch past hubCall hosting.kept fits, attended.settled, attended.listens⟩

theorem handleAll_hubHistory (hubCalls : List HubCall) (hosting : s.HubHistory past)
    (proper : HubCall.proper past hubCalls = true) :
    (s.handleAll hubCalls).HubHistory (past ++ hubCalls) := by
  induction hubCalls generalizing s past with
  | nil => exact (List.append_nil past).symm ▸ hosting
  | cons hubCall rest ih =>
      obtain ⟨fits, others⟩ := Bool.and_eq_true_iff.1 proper
      rw [List.append_cons]
      exact ih _ _ (s.handle_hubHistory past hubCall hosting fits) others

theorem handleAll_snoc (hubCalls : List HubCall) :
    s.handleAll (hubCalls ++ [hubCall]) = (s.handleAll hubCalls).handle hubCall := by
  simp [handleAll]

theorem new_hubHistory (scheduler : Scheduler) : (Station.new scheduler).HubHistory [] := by
  refine ⟨⟨fun token => ?_, rfl⟩, rfl, rfl⟩
  refine .unknown ?_ List.not_mem_nil rfl rfl
  simp [HubCall.issued]
  omega

theorem handle_deaths (hosting : s.HubHistory past) : (s.handle hubCall).deaths token =
    s.deaths token + if s.hub.tells? hubCall = some token then 1 else 0 := by
  rw [deaths, (s.handle_handled hubCall hosting.settled hosting.listens).pending, List.countP_append, deaths]
  cases told : s.hub.tells? hubCall with
  | none => simp
  | some other => simp [Event.isDeathOf, List.countP_cons]

section
variable (scheduler : Scheduler) (hubCalls : List HubCall) (proper : HubCall.proper [] hubCalls = true)
include proper

theorem started_hubHistory : ((Station.new scheduler).handleAll hubCalls).HubHistory hubCalls :=
  handleAll_hubHistory (.new scheduler) [] hubCalls (new_hubHistory scheduler) proper

theorem started_told (before : List HubCall) (after : List HubCall) (split : hubCalls = before ++ hubCall :: after) :
    ((Station.new scheduler).handleAll before).HubHistory before ∧ HubCall.fits before hubCall = true := by
  rw [split, HubCall.proper_append, Bool.and_eq_true] at proper
  exact ⟨started_hubHistory scheduler before proper.1, (Bool.and_eq_true_iff.1 proper.2).1⟩

end

-- While a registration stands its token is not registered again, so the one death comes with it or with the guard's
-- drop.
theorem standing_deaths (scheduler : Scheduler) (before during : List HubCall)
    (proper : HubCall.proper [] (before ++ .register token :: during) = true) (apart : .unregister token ∉ during) :
    ((Station.new scheduler).handleAll (before ++ .register token :: during)).deaths token =
      ((Station.new scheduler).handleAll before).deaths token + if .drop token ∈ before ++ during then 1 else 0 := by
  induction during using List.reverseRecOn with
  | nil =>
      obtain ⟨hosting, fits⟩ := started_told (.register token) scheduler _ proper before [] rfl
      rw [handleAll_snoc, handle_deaths _ before _ token hosting, List.append_nil]
      simp [Hub.tells?_iff token before _ _ hosting.kept fits]
  | append_singleton during hubCall ih =>
      rw [← List.cons_append, ← List.append_assoc] at proper ⊢
      obtain ⟨hosting, fits⟩ := started_told hubCall scheduler _ proper _ [] rfl
      rw [List.mem_append, not_or, List.mem_singleton] at apart
      have registered : HubCall.registered token (before ++ .register token :: during) = true :=
        (HubCall.registered_iff token _).2 ⟨before, during, rfl, apart.1⟩
      rw [HubCall.proper_append, Bool.and_eq_true] at proper
      have told : ((Station.new scheduler).handleAll (before ++ .register token :: during)).hub.tells? hubCall =
          some token ↔ hubCall = .drop token := by
        rw [Hub.tells?_iff token _ hubCall _ hosting.kept fits, registered]
        refine ⟨fun dies => ?_, fun dies => .inl ⟨dies, rfl⟩⟩
        rcases dies with ⟨dies, _⟩ | ⟨rfl, _⟩
        · exact dies
        · simp [HubCall.fits, registered] at fits
      rw [handleAll_snoc, handle_deaths _ _ _ token hosting, ih proper.1 apart.1]
      by_cases dies : hubCall = .drop token
      · subst dies
        have alive : .drop token ∉ before ++ .register token :: during := ((HubCall.held_iff token _).1 fits).2
        have alive : .drop token ∉ before ++ during := by simpa using alive
        simp [told, alive]
      · have same : .drop token ∈ before ++ (during ++ [hubCall]) ↔ .drop token ∈ before ++ during := by
          simp [Ne.symm dies]
        simp [told, dies, same]

theorem dropped_unwitnessed (before after : List HubCall) (dropped : .drop token ∈ before)
    (free : HubCall.registered token before = false) : ¬ HubCall.RegisteredWhileHeld token (before ++ after) := by
  induction after using List.reverseRecOn with
  | nil =>
      rw [List.append_nil]
      exact HubCall.unwitnessed token before free
  | append_singleton after hubCall ih =>
      rw [← List.append_assoc, HubCall.registeredWhileHeld_snoc, HubCall.held_iff]
      rintro (⟨_, _, undropped⟩ | ⟨_, witnessed⟩)
      · exact undropped (List.mem_append_left _ dropped)
      · exact ih witnessed

theorem hub_contract (scheduler : Scheduler) (hubCalls : List HubCall) (proper : HubCall.proper [] hubCalls = true) :
    (Station.new scheduler).HubContract hubCalls := by
  have hosting := started_hubHistory scheduler hubCalls proper
  refine ⟨hosting.settled, fun token => hosting.kept.entered token hubCalls _,
    fun token => hosting.kept.watching token hubCalls _, ?_, ?_, ?_⟩
  · intro before hubCall after split
    obtain ⟨hosting, fits⟩ := started_told hubCall scheduler hubCalls proper before after split
    have attended := handle_handled _ hubCall hosting.settled hosting.listens
    rw [handleAll_snoc]
    refine ⟨_, attended.pending, fun event listed => ?_⟩
    obtain ⟨token, told, rfl⟩ := Option.map_eq_some_iff.1 (Option.mem_toList.1 listed)
    exact ⟨token, rfl, Hub.tells?_after token before hubCall _ hosting.kept fits told⟩
  · intro before token during after split apart
    rw [split, HubCall.proper_append, Bool.and_eq_true] at proper
    exact standing_deaths token scheduler before during proper.1 apart
  · rintro before token after rfl dropped free
    have unwitnessed := dropped_unwitnessed token before after dropped free
    rw [Bool.eq_false_iff, Ne, hosting.kept.entered token, hosting.kept.watching token]
    simp [unwitnessed, HubCall.held_iff, dropped]

-- The first dies while she is watched. The second is dead before he is registered, and is registered twice.
theorem sample_hubContract : HubCall.proper [] [.connect, .connect, .register ⟨1⟩, .drop ⟨1⟩, .drop ⟨2⟩, .register ⟨2⟩,
      .unregister ⟨1⟩, .unregister ⟨2⟩, .register ⟨2⟩] = true ∧
    (Station.new History.sample.scheduler).HubContract [.connect, .connect, .register ⟨1⟩, .drop ⟨1⟩, .drop ⟨2⟩,
      .register ⟨2⟩, .unregister ⟨1⟩, .unregister ⟨2⟩, .register ⟨2⟩] :=
  ⟨by decide, hub_contract History.sample.scheduler _ (by decide)⟩

end Station
end Ranging
