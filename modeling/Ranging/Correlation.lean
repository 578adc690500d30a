import Ranging.Measurement
import Ranging.Translation

-- Turns a hardware report back into one answer per requested peer.
namespace Ranging

-- The first reading of an address stands for it.
def Reading.byAddress (report : List Reading) : Table MacAddress Reading :=
  Table.ofListFirst (report.map fun r => (r.address, r))

theorem Reading.get?_byAddress (report : List Reading) (mac : MacAddress) :
    (Reading.byAddress report).get? mac = report.find? fun r => r.address = mac := by
  rw [Reading.byAddress, Table.get?_ofListFirst, List.find?_map, Option.map_map]
  exact Option.map_id'

def measurementOf (t : Option Translation) (index : Table MacAddress Reading) (peer : Peer) : Measurement :=
  match (peer.address? t).bind index.get? with
  | some reading => .ofReading peer reading
  | none => .failed peer

-- One entry per peer, in the order of the request. Readings of other addresses are dropped.
def correlate (r : Request) (t : Option Translation) (report : List Reading) : List Measurement :=
  let index := Reading.byAddress report
  r.peers.map (measurementOf t index)

theorem measurementOf_peer (t : Option Translation) (index : Table MacAddress Reading) (peer : Peer) :
    (measurementOf t index peer).peer = peer := by
  unfold measurementOf
  split <;> rfl

theorem correlate_peers (r : Request) (t : Option Translation) (report : List Reading) :
    (correlate r t report).map Measurement.peer = r.peers := by
  simp [correlate, List.map_map, Function.comp_def, measurementOf_peer]

end Ranging
