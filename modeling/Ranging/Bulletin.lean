import Ranging.Effect

-- Announcements that every subscriber receives in order, from its subscription on.
namespace Ranging

structure Bulletin where
  announced : List Availability
  -- for each subscriber, how many of the announcements are behind it
  seen : List Nat
deriving DecidableEq

namespace Bulletin

def empty : Bulletin := ⟨[], []⟩

def subscribe (b : Bulletin) : Nat × Bulletin :=
  (b.seen.length, { b with seen := b.seen ++ [b.announced.length] })

def announce (b : Bulletin) (state : Availability) : Bulletin := { b with announced := b.announced ++ [state] }

def receive (b : Bulletin) (subscriber : Nat) : List Availability × Bulletin :=
  (b.announced.drop (b.seen.getD subscriber b.announced.length),
   { b with seen := b.seen.set subscriber b.announced.length })

end Bulletin
end Ranging
