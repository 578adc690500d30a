import Ranging.Measurement
import Ranging.Request

-- Requests and reports to rehearse with.
namespace Ranging

def Request.sample (seed : UInt8) : Request :=
  ((Request.empty.withAddress ⟨0, 1, 2, 3, 4, seed⟩).withAddress ⟨0xA, 0xB, 0xC, 0xD, 0xE, seed⟩).withAddress
    ⟨8, 9, 8, 7, 6, 5⟩

def Reading.sampleOf (peer : Peer) (place : Nat) : Option Reading :=
  match peer with
  | .address mac => some (.success mac (1000 + 100 * Int32.ofNat place) (10000 + UInt64.ofNat place))
  | .handle _ => none

-- A successful reading for every direct address; figures rise with the place of the peer.
def Reading.samples (r : Request) : List Reading :=
  r.peers.zipIdx.filterMap fun entry => Reading.sampleOf entry.1 entry.2

end Ranging
