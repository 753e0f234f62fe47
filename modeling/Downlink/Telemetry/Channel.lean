/-!
# Power channels and sensor boards

The spacecraft has eight power channels: six panels, the battery and the bus. A sensor board lists
its eight measurements by position, and each board revision wires the channels to positions in its
own way. A channel map says where the measurement of a channel stands.
-/

namespace Downlink

/-- A power channel. -/
inductive Channel where
  | plusX
  | plusY
  | battery
  | bus
  | minusX
  | minusY
  | plusZ
  | minusZ
  deriving DecidableEq, Repr

namespace Channel

/-- The number of a channel. -/
def index : Channel → Fin 8
  | plusX => 0
  | plusY => 1
  | battery => 2
  | bus => 3
  | minusX => 4
  | minusY => 5
  | plusZ => 6
  | minusZ => 7

/-- The channels by number. -/
def all : List Channel := [plusX, plusY, battery, bus, minusX, minusY, plusZ, minusZ]

example : all.map index = List.finRange 8 := by decide

end Channel

/-- Where on the sensor board the measurement of each channel stands. -/
structure ChannelMap where
  positions : Vector (Fin 8) 8
  deriving DecidableEq, Repr

namespace ChannelMap

/-- Every channel at the position of its own number. -/
def identity : ChannelMap := ⟨#v[0, 1, 2, 3, 4, 5, 6, 7]⟩

/-- The position of a channel. -/
def get (m : ChannelMap) (c : Channel) : Fin 8 := m.positions.get c.index

/-- Moves a channel to a position, counted modulo eight. -/
def set (m : ChannelMap) (c : Channel) (position : Nat) : ChannelMap :=
  ⟨m.positions.set c.index.val ⟨position % 8, Nat.mod_lt _ (by decide)⟩ c.index.isLt⟩

/-- Puts a channel where the measurement of another one would stand by number. -/
def wire (m : ChannelMap) (c target : Channel) : ChannelMap := m.set c target.index.val

end ChannelMap

/-- A sensor board revision. -/
inductive Board where
  | standard
  | vb4
  | vb5
  deriving DecidableEq, Repr

namespace Board

/-- The boards by name. -/
def names : List (String × Board) := [("standard", standard), ("vb4", vb4), ("vb5", vb5)]

/-- The board with a name. -/
def ofName? (name : String) : Option Board := names.lookup name

/-- The wiring of a board. -/
def map : Board → ChannelMap
  | standard =>
    (((ChannelMap.identity.wire .bus .minusZ).wire .battery .bus).wire .plusZ .battery).wire
      .minusZ .plusZ
  | vb4 => (ChannelMap.identity.wire .battery .bus).wire .bus .battery
  | vb5 => ((ChannelMap.identity.wire .minusX .minusY).wire .plusZ .minusX).wire .minusY .plusZ

/-- The battery voltage below which a session ends. -/
def threshold : Board → Float32
  | standard => 8.0
  | vb4 => 3.0
  | vb5 => 3.0

end Board

/-- What a session has to know of its board: the wiring, and the battery voltage below which it
ends. -/
structure BoardSettings where
  map : ChannelMap
  threshold : Float32

/-- The settings of a board revision. -/
def Board.settings (b : Board) : BoardSettings := ⟨b.map, b.threshold⟩

instance : Coe Board BoardSettings := ⟨Board.settings⟩

end Downlink
