import Downlink.RandomStream
import Downlink.Telemetry.Readings
import Downlink.Waveform

/-!
# Simulated readings

A tumbling spacecraft on a circular orbit. Panel values follow the spin; sunlight and eclipse
alternate; the battery charges in sunlight and drains into the bus; the temperature drifts toward
the balance of light or dark. Everything random is drawn from one seeded stream, in a fixed order.
-/

namespace Downlink

/-- A simulated spacecraft between two polls. -/
structure Simulation where
  stream : RandomStream
  map : ChannelMap
  /-- Greatest panel voltage and current by axis. -/
  voltsMax : Vector Float 3
  ampsMax : Vector Float 3
  /-- The angle that shifts the third axis. -/
  tilt : Float
  speed : Float
  /-- Seconds of light, and of dark. -/
  period : Float
  sunlit : Bool
  /-- When light last turned to dark or dark to light. -/
  turnedAt : Float
  battery : Float32
  temperature : Float
  warmest : Float
  coldest : Float

namespace Simulation

/-- The least and the greatest battery voltage. -/
def batteryFloor : Float32 := 3.0
def batteryCeiling : Float32 := 4.5

/-- The first component of the spin axis, drawn again while it is zero. -/
def axisX : Nat → Draw RandomStream Float
  | 0 => return 0.0
  | fuel + 1 => do
    let x ← Draw.hundredths (-0.2) 0.2
    if x == 0.0 then axisX fuel else return x

/-- A new spacecraft, half way through an eclipse. -/
def launch (map : ChannelMap) : Draw RandomStream Simulation := do
  let ampsMean ← Draw.hundredths 150.0 300.0
  let battery ← Draw.hundredths 3.8 4.3
  let speed ← Draw.hundredths 1.0 2.5
  let period ← Draw.hundredths 150.0 300.0
  let temperature ← Draw.hundredths 20.0 55.0
  let warmest ← Draw.hundredths 50.0 70.0
  let coldest ← Draw.hundredths 10.0 20.0
  let x ← axisX 1000
  let y ← Draw.hundredths (-0.2) 0.2
  let z ← Draw.hundredths (-0.2) 0.2
  let z : Float := if 0.0 < z then 1.0 else -1.0
  let pitch := (y / z).atan
  let yaw := (z / x).atan
  let roll := (y / x).atan
  let voltsX ← Draw.hundredths 4.5 5.5
  let voltsY ← Draw.hundredths 4.5 5.5
  let voltsZ ← Draw.hundredths 4.5 5.5
  let ampsX ← Draw.hundredths (-25.0) 25.0
  let ampsY ← Draw.hundredths (-25.0) 25.0
  let ampsZ ← Draw.hundredths (-25.0) 25.0
  return {
    stream := ← get
    map
    voltsMax := #v[voltsX * yaw.sin, voltsY * pitch.cos, voltsZ * (yaw - pitch).cos]
    ampsMax := #v[(ampsMean + ampsX) * yaw.sin, (ampsMean + ampsY) * pitch.cos,
      (ampsMean + ampsZ) * (yaw - pitch).cos]
    tilt := roll
    speed
    period
    sunlit := false
    turnedAt := -period / 2.0
    battery := battery.toFloat32
    temperature
    warmest
    coldest }

/-- The spacecraft of a seed. -/
def ofSeed (map : ChannelMap) (seed : UInt64) : Simulation :=
  ((launch map).run (.ofSeed seed)).1

/-- A value with everything below zero cut off. -/
def positive (x : Float) : Float := if 0.0 < x then x else 0.0

/-- A quarter turn. -/
def halfPi : Float := 1.57079632679489661923

/-- The channels of an axis. -/
def panels : Vector (Channel × Channel) 3 :=
  #v[(.plusX, .minusX), (.plusY, .minusY), (.plusZ, .minusZ)]

/-- Sets the voltage of a channel. -/
def setVoltage (r : Readings) (m : ChannelMap) (c : Channel) (x : Float32) : Readings :=
  { r with voltage := r.voltage.set (m.get c).val x (m.get c).isLt }

/-- Sets the current of a channel. -/
def setCurrent (r : Readings) (m : ChannelMap) (c : Channel) (x : Float32) : Readings :=
  { r with current := r.current.set (m.get c).val x (m.get c).isLt }

/-- The voltage of a lit panel, or the little that a dark one gives. -/
def panelVolts (lit : Bool) (volts : Float) : Draw RandomStream Float32 :=
  if lit then return volts.toFloat32
  else return (← Draw.hundredths 0.9 1.1).toFloat32

/-- The two panels of an axis at a phase of the spin. -/
def axisReadings (s : Simulation) (light : Float) (axis : Fin 3) (phase : Float) (r : Readings) :
    Draw RandomStream Readings := do
  let (plus, minus) := panels.get axis
  let amps := light * s.ampsMax.get axis * phase.sin + (← Draw.hundredths (-2.0) 2.0)
  let scale : Float := if axis = 2 then 2.0 else 1.0
  let volts := scale * light * s.voltsMax.get axis * phase.sin + (← Draw.hundredths (-0.2) 0.2)
  let r := setCurrent r s.map plus (positive amps).toFloat32
  let r := setCurrent r s.map minus (positive (-amps)).toFloat32
  let r := setVoltage r s.map plus (← panelVolts (decide (1.0 ≤ volts)) volts)
  return setVoltage r s.map minus (← panelVolts (decide (volts ≤ -1.0)) (-volts))

/-- Light and dark change over once a period. -/
def turnOver (s : Simulation) (time : Float) : Simulation :=
  if s.period < time - s.turnedAt then { s with sunlit := !s.sunlit, turnedAt := time } else s

/-- Draws the readings at a time and moves the spacecraft there. -/
def advance (s : Simulation) (time : Float) : Draw RandomStream (Readings × Simulation) := do
  let s := s.turnOver time
  let light : Float := if s.sunlit then 1.0 else 0.0
  let spin := 2.0 * Waveform.pi * time / (46.0 * s.speed)
  let r ← s.axisReadings light 0 spin .zero
  let r ← s.axisReadings light 1 (spin + halfPi) r
  let r ← s.axisReadings light 2 (spin + Waveform.pi + s.tilt) r
  let goal := if s.sunlit then s.warmest else s.coldest
  let temperature := s.temperature + (goal - s.temperature) / 50.0
  let temperature := temperature + (← Draw.hundredths (-1.0) 1.0)
  let r := r.withComputerTemperature temperature.toFloat32
  let busVolts := (← Draw.hundredths 5.0 5.005).toFloat32
  let busAmps := (← Draw.hundredths 158.0 171.0).toFloat32
  let r := setVoltage r s.map .bus busVolts
  let r := setCurrent r s.map .bus busAmps
  let panelAmps := (s.ampsMax[0] * 0.707).abs + (s.ampsMax[1] * 0.707).abs
  let charging := light * (panelAmps + (← Draw.hundredths (-4.0) 4.0))
  let batteryAmps := busAmps * busVolts / s.battery - charging.toFloat32
  let r := setCurrent r s.map .battery batteryAmps
  let drop := if 3.5 < s.battery then batteryAmps / 30000.0 else batteryAmps / 3000.0
  let battery := s.battery - drop
  let exhausted := decide (battery < batteryFloor)
  let battery := if exhausted then batteryFloor else battery
  let battery := if batteryCeiling < battery then batteryCeiling else battery
  let noise := (← Draw.hundredths (-0.01) 0.01).toFloat32
  let r := setVoltage r s.map .battery (battery + noise)
  return ({ r with safeMode := exhausted }, { s with temperature, battery })

/-- The readings at a time and the spacecraft behind them. -/
def step (s : Simulation) (time : Float) : Readings × Simulation :=
  let ((r, moved), stream) := (s.advance time).run s.stream
  (r, { moved with stream })

/-- The first `n` times of a regular sequence. -/
def times (start interval : Float) (n : Nat) : List Float :=
  (List.range n).map fun k => start + interval * k.toUInt64.toFloat

/-- The readings at one time after the other. -/
def steps (s : Simulation) : List Float → List Readings × Simulation
  | [] => ([], s)
  | time :: rest =>
    let (r, s) := s.step time
    let (later, s) := s.steps rest
    (r :: later, s)

end Simulation

end Downlink
