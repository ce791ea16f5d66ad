/-
The deterministic identifier factory: an identifier is the first half of the digest of its
domain, the counter and the seed.
-/
import RolloutFabric.Codec.Wire

namespace RolloutFabric

structure IdFactory where
  seed : Digest256
  counter : UInt64 := 0
deriving DecidableEq, Inhabited

namespace IdFactory

def derive (self : IdFactory) (domain : IdDomain) (counter : UInt64) : Digest256 :=
  sha256 (ByteWriter.string (text "rollout-fabric/id/v1") ++ ByteWriter.u16 domain.code
    ++ ByteWriter.u64 counter ++ self.seed.data)

/-- `ids.next<Id>(domain)`. -/
def next (self : IdFactory) (tag : IdTag) (domain : IdDomain) : StrongId tag × IdFactory :=
  (⟨.ofBytes 16 ((self.derive domain self.counter).data.take 16)⟩,
    { self with counter := self.counter + 1 })

end IdFactory

end RolloutFabric
