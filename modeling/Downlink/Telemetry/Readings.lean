import Downlink.Telemetry.Channel

/-!
# Readings

One poll gives voltage and current by board position, the values of the payload board, and a few
values of the spacecraft itself.
-/

namespace Downlink

/-- Number of power channels. -/
def powerChannels : Nat := 8

/-- Number of values of the payload board. -/
def payloadSensors : Nat := 17

/-- Number of values of the spacecraft itself. -/
def otherValues : Nat := 3

/-- The values of one poll. -/
structure Readings where
  voltage : Vector Float32 powerChannels
  current : Vector Float32 powerChannels
  sensor : Vector Float32 payloadSensors
  other : Vector Float32 otherValues
  /-- Whether the payload board gave a valid answer. -/
  payloadValid : Bool
  safeMode : Bool

namespace Readings

/-- Readings of zero everywhere, before any poll. -/
def zero : Readings :=
  { voltage := Vector.replicate powerChannels 0.0
    current := Vector.replicate powerChannels 0.0
    sensor := Vector.replicate payloadSensors 0.0
    other := Vector.replicate otherValues 0.0
    payloadValid := false
    safeMode := false }

/-- The voltage of a channel. -/
def voltageOf (r : Readings) (m : ChannelMap) (c : Channel) : Float32 := r.voltage.get (m.get c)

/-- The current of a channel. -/
def currentOf (r : Readings) (m : ChannelMap) (c : Channel) : Float32 := r.current.get (m.get c)

/-- The battery voltage. -/
def batteryVoltage (r : Readings) (m : ChannelMap) : Float32 := r.voltageOf m .battery

/-! ### Payload board and spacecraft values -/

def temperature (r : Readings) : Float32 := r.sensor[2]
def pressure (r : Readings) : Float32 := r.sensor[3]
def altitude (r : Readings) : Float32 := r.sensor[4]
def humidity (r : Readings) : Float32 := r.sensor[5]
def gyroX (r : Readings) : Float32 := r.sensor[7]
def gyroY (r : Readings) : Float32 := r.sensor[8]
def gyroZ (r : Readings) : Float32 := r.sensor[9]
def accelX (r : Readings) : Float32 := r.sensor[10]
def accelY (r : Readings) : Float32 := r.sensor[11]
def accelZ (r : Readings) : Float32 := r.sensor[12]
def experimentTwo (r : Readings) : Float32 := r.sensor[15]
def experimentThree (r : Readings) : Float32 := r.sensor[16]
def signalStrength (r : Readings) : Float32 := r.other[0]
def spin (r : Readings) : Float32 := r.other[1]
def computerTemperature (r : Readings) : Float32 := r.other[2]

/-- Readings with another temperature of the onboard computer. -/
def withComputerTemperature (r : Readings) (t : Float32) : Readings :=
  { r with other := r.other.set 2 t (by decide) }

end Readings

end Downlink
