import Ranging.Peer

-- What the hardware reports and what a requester is told about each of its peers.
namespace Ranging

inductive MeasurementStatus
  | success
  | fail
deriving DecidableEq, Repr

-- One line of a hardware report: it knows addresses only.
structure Reading where
  address : MacAddress
  status : MeasurementStatus
  distanceMm : Int32
  deviationMm : Int32
  rssi : Int8
  timestampUs : UInt64
deriving DecidableEq, Repr

def Reading.success (address : MacAddress) (distanceMm : Int32) (timestampUs : UInt64) : Reading :=
  ⟨address, .success, distanceMm, 0, 0, timestampUs⟩

-- The same seen by the requester, under the name it gave the peer.
structure Measurement where
  peer : Peer
  status : MeasurementStatus
  distanceMm : Int32
  deviationMm : Int32
  rssi : Int8
  timestampUs : UInt64
deriving DecidableEq, Repr

namespace Measurement

def ofReading (peer : Peer) (r : Reading) : Measurement :=
  ⟨peer, r.status, r.distanceMm, r.deviationMm, r.rssi, r.timestampUs⟩

-- What is told about a peer of which nothing was reported: no figure is left over in it.
def failed (peer : Peer) : Measurement := ⟨peer, .fail, 0, 0, 0, 0⟩

@[simp] theorem ofReading_peer (peer : Peer) (r : Reading) : (ofReading peer r).peer = peer := rfl

@[simp] theorem failed_peer (peer : Peer) : (failed peer).peer = peer := rfl

end Measurement
end Ranging
