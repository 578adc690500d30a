import Ranging.Correlation
import Mathlib.Data.List.Forall2
import Mathlib.Logic.Relation

-- What a requester is told about its peers can be read off the report from its beginning, with no index at all. So it
-- depends on nothing but the first reading of each address that was asked for.
namespace Ranging

-- Where a peer is ranged at: it says so itself, or its handle is among those that were translated.
inductive Peer.RangedAt (t : Option Translation) : Peer → MacAddress → Prop
  | direct (mac : MacAddress) : RangedAt t (.address mac) mac
  | translated (h : PeerHandle) (mac : MacAddress) (known : Translation) : t = some known →
      known.addressOf? h = some mac → RangedAt t (.handle h) mac

inductive Peer.Told (t : Option Translation) (report : List Reading) (peer : Peer) : Measurement → Prop
  | measured (mac : MacAddress) (before : List Reading) (reading : Reading) (after : List Reading) :
      peer.RangedAt t mac → report = before ++ reading :: after → reading.address = mac →
      (∀ earlier ∈ before, earlier.address ≠ mac) →
      Told t report peer
        ⟨peer, reading.status, reading.distanceMm, reading.deviationMm, reading.rssi, reading.timestampUs⟩
  | unmentioned (mac : MacAddress) : peer.RangedAt t mac → (∀ reading ∈ report, reading.address ≠ mac) →
      Told t report peer ⟨peer, .fail, 0, 0, 0, 0⟩
  | unreachable : (∀ mac, ¬ peer.RangedAt t mac) → Told t report peer ⟨peer, .fail, 0, 0, 0, 0⟩

-- One reading is taken out of a report. Nobody asked for its address, or there is one of that address before it.
inductive Reading.Dropped (asked : List MacAddress) : List Reading → List Reading → Prop
  | unasked (before : List Reading) (reading : Reading) (after : List Reading) : reading.address ∉ asked →
      Dropped asked (before ++ reading :: after) (before ++ after)
  | repeated (before : List Reading) (reading : Reading) (after : List Reading) :
      reading.address ∈ before.map Reading.address → Dropped asked (before ++ reading :: after) (before ++ after)

def Reading.about (mac : MacAddress) (report : List Reading) : List Reading :=
  report.filter fun reading => reading.address = mac

structure Request.Matched (r : Request) (t : Option Translation) (report : List Reading) : Prop where
  -- one entry for each peer, in the order of the request
  told : ∀ entries, entries = correlate r t report ↔ List.Forall₂ (Peer.Told t report) r.peers entries
  dropped : ∀ less, Relation.ReflTransGen (Reading.Dropped (r.hardwarePeers t)) report less →
    correlate r t less = correlate r t report
  rearranged : ∀ other, other.Perm report → (∀ mac, Reading.about mac other = Reading.about mac report) →
    correlate r t other = correlate r t report

variable (t : Option Translation) (report : List Reading) (peer : Peer)

theorem rangedAt_iff (mac : MacAddress) : peer.RangedAt t mac ↔ peer.address? t = some mac := by
  constructor
  · intro ranged
    cases ranged with
    | direct => rfl
    | translated h mac known same found =>
        rw [same]
        exact found
  · intro found
    cases peer with
    | address own =>
        cases found
        exact .direct _
    | handle h =>
        obtain ⟨known, same, found⟩ := Option.bind_eq_some_iff.1 found
        exact .translated h mac known same found

theorem told_iff (entry : Measurement) :
    peer.Told t report entry ↔ entry = measurementOf t (Reading.byAddress report) peer := by
  constructor
  · intro told
    cases told with
    | measured mac before reading after ranged split here first =>
        have found : (Reading.byAddress report).get? mac = some reading := by
          rw [Reading.get?_byAddress, List.find?_eq_some_iff_append]
          exact ⟨by simp [here], before, after, split, by simpa using first⟩
        rw [measurementOf, (rangedAt_iff t peer mac).1 ranged, Option.bind_some, found]
        rfl
    | unmentioned mac ranged silent =>
        have missing : (Reading.byAddress report).get? mac = none := by
          rw [Reading.get?_byAddress, List.find?_eq_none]
          simpa using silent
        rw [measurementOf, (rangedAt_iff t peer mac).1 ranged, Option.bind_some, missing]
        rfl
    | unreachable nowhere =>
        have missing : peer.address? t = none :=
          Option.eq_none_iff_forall_ne_some.2 fun mac found => nowhere mac ((rangedAt_iff t peer mac).2 found)
        rw [measurementOf, missing]
        rfl
  · rintro rfl
    unfold measurementOf
    cases address : peer.address? t with
    | none =>
        refine .unreachable fun mac ranged => ?_
        rw [(rangedAt_iff t peer mac).1 ranged] at address
        cases address
    | some mac =>
        have ranged := (rangedAt_iff t peer mac).2 address
        rw [Option.bind_some, Reading.get?_byAddress]
        cases found : report.find? fun reading => reading.address = mac with
        | none => exact .unmentioned mac ranged (by simpa using List.find?_eq_none.1 found)
        | some reading =>
            obtain ⟨here, before, after, split, first⟩ := List.find?_eq_some_iff_append.1 found
            exact .measured mac before reading after ranged split (by simpa using here) (by simpa using first)

theorem correlate_iff (r : Request) (entries : List Measurement) :
    entries = correlate r t report ↔ List.Forall₂ (Peer.Told t report) r.peers entries := by
  have each : Peer.Told t report = fun peer entry => measurementOf t (Reading.byAddress report) peer = entry := by
    funext peer entry
    exact propext ((told_iff t report peer entry).trans eq_comm)
  rw [each, ← List.forall₂_map_left_iff (R := Eq), List.forall₂_eq_eq_eq]
  exact eq_comm

theorem correlate_congr (r : Request) (one two : List Reading)
    (alike : ∀ mac ∈ r.hardwarePeers t, (one.find? fun reading => reading.address = mac) =
      two.find? fun reading => reading.address = mac) : correlate r t one = correlate r t two := by
  refine List.map_congr_left fun peer named => ?_
  unfold measurementOf
  cases address : peer.address? t with
  | none => rfl
  | some mac =>
      have asked : mac ∈ r.hardwarePeers t := List.mem_filterMap.2 ⟨peer, named, address⟩
      rw [Option.bind_some, Option.bind_some, Reading.get?_byAddress, Reading.get?_byAddress, alike mac asked]

theorem dropped_find? (asked : List MacAddress) (one two : List Reading) (dropped : Reading.Dropped asked one two)
    (mac : MacAddress) (member : mac ∈ asked) : (two.find? fun reading => reading.address = mac) =
      one.find? fun reading => reading.address = mac := by
  cases dropped with
  | unasked before reading after away =>
      have other : reading.address ≠ mac := fun same => away (same ▸ member)
      simp [List.find?_append, other]
  | repeated before reading after again =>
      by_cases same : reading.address = mac
      · -- what stands for the address lies before it
        obtain ⟨earlier, listed, here⟩ := List.mem_map.1 again
        have found : (before.find? fun reading => reading.address = mac).isSome = true :=
          List.find?_isSome.2 ⟨earlier, listed, by simp [here, same]⟩
        obtain ⟨first, found⟩ := Option.isSome_iff_exists.1 found
        simp [List.find?_append, found]
      · simp [List.find?_append, same]

theorem request_matched (r : Request) : r.Matched t report := by
  refine ⟨correlate_iff t report r, ?_, ?_⟩
  · intro less path
    induction path with
    | refl => rfl
    | tail _ dropped same =>
        exact (correlate_congr t r _ _ (dropped_find? _ _ _ dropped)).trans same
  · intro other _ ordered
    refine correlate_congr t r _ _ fun mac _ => ?_
    rw [← List.head?_filter, ← List.head?_filter]
    exact congrArg List.head? (ordered mac)

-- A peer and the handle that leads to it are told the same, and the second reading is not looked at.
example : (correlate ⟨[.address ⟨0, 1, 2, 3, 4, 5⟩, .handle ⟨7⟩]⟩ (some ⟨Table.empty.put ⟨7⟩ ⟨0, 1, 2, 3, 4, 5⟩⟩)
    [.success ⟨0, 1, 2, 3, 4, 5⟩ 1000 10, .success ⟨0, 1, 2, 3, 4, 5⟩ 2000 20]).map Measurement.distanceMm =
      [1000, 1000] := by decide

end Ranging
