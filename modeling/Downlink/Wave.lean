import Downlink.Link
import Downlink.LittleEndian
import Downlink.Waveform

/-!
# Wave files

Samples are kept in wave files of one channel and 16 bits a sample: a header of 44 bytes, then the
samples as they are sent.
-/

namespace Downlink.Wave

/-- Bytes of a sample. -/
def sampleSize : Nat := 2

/-- The bytes of a four-letter tag. -/
def tag (letters : String) : List UInt8 := letters.toList.map fun c => UInt8.ofNat c.toNat

/-- The header in front of a number of bytes of samples. -/
def header (size : Nat) : List UInt8 :=
  tag "RIFF" ++ LittleEndian.bytes 4 (size + 36) ++ tag "WAVE" ++
  tag "fmt " ++ LittleEndian.bytes 4 16 ++ LittleEndian.bytes 2 1 ++ LittleEndian.bytes 2 1 ++
  LittleEndian.bytes 4 audioRate.toNat ++ LittleEndian.bytes 4 (audioRate.toNat * sampleSize) ++
  LittleEndian.bytes 2 sampleSize ++ LittleEndian.bytes 2 (8 * sampleSize) ++
  tag "data" ++ LittleEndian.bytes 4 size

@[simp] theorem length_header (size : Nat) : (header size).length = 44 := by
  have h : (tag "RIFF").length = 4 ∧ (tag "WAVE").length = 4 ∧ (tag "fmt ").length = 4 ∧
      (tag "data").length = 4 := by decide
  simp [header, h]

/-- The wave file of samples. -/
def file (samples : Array Int16) : ByteArray :=
  ⟨(header (sampleSize * samples.size)).toArray⟩ ++ pcmBytes samples

/-- The seconds that samples take. -/
def seconds (samples : Array Int16) : Float :=
  samples.size.toUInt64.toFloat / audioRate.toFloat

end Downlink.Wave
