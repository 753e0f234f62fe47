/-!
# Sync words

Every frame is led by a sync word that is sent as it stands, outside the line code.
-/

namespace Downlink

/-- A sync word: the low `width` bits of a value. -/
structure SyncWord where
  value : UInt32
  width : Nat
  deriving DecidableEq, Repr

namespace SyncWord

/-- The line code's flag at negative disparity, which leads frequency-shift frames. -/
def fsk : SyncWord := ⟨0x0FA, 10⟩

/-- The pseudo-noise word that leads phase-shift frames. -/
def bpsk : SyncWord := ⟨0x47CD215D, 31⟩

/-- The bits of a sync word in the order of sending, the most significant first. -/
def bits (w : SyncWord) : List Bool :=
  (List.range w.width).reverse.map w.value.toNat.testBit

@[simp] theorem length_bits (w : SyncWord) : w.bits.length = w.width := by simp [bits]

end SyncWord

end Downlink
