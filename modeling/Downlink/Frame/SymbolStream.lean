import Downlink.Frame.Interleaved
import Downlink.LineCode

/-!
# Symbol streams

The symbols of a frame are collected under the running disparity of the session.
-/

namespace Downlink

/-- Symbols collected so far and the disparity behind them. -/
structure SymbolStream where
  symbols : Array Symbol
  disparity : Disparity
  deriving DecidableEq, Repr

namespace SymbolStream

/-- A stream that goes on from a disparity. -/
def start (disparity : Disparity) : SymbolStream := ⟨#[], disparity⟩

/-- Adds one input. -/
def push (s : SymbolStream) (input : LineInput) : SymbolStream :=
  let (symbol, disparity) := LineCode.encode s.disparity input
  ⟨s.symbols.push symbol, disparity⟩

/-- Adds bytes. -/
def pushBytes (s : SymbolStream) (bytes : List UInt8) : SymbolStream :=
  bytes.foldl (fun s b => s.push (.data b)) s

/-- How many symbols were collected. -/
def size (s : SymbolStream) : Nat := s.symbols.size

/-- Whether no symbol was collected. -/
def isEmpty (s : SymbolStream) : Bool := s.symbols.isEmpty

theorem foldl_push (s : SymbolStream) (inputs : List LineInput) :
    inputs.foldl push s =
      ⟨s.symbols ++ (LineCode.encodeAll s.disparity inputs).1,
        (LineCode.encodeAll s.disparity inputs).2⟩ := by
  induction inputs generalizing s with
  | nil => simp
  | cons input rest ih => simp [ih, push, LineCode.encodeAll_cons]

end SymbolStream

/-- The line inputs of a frame: its bytes in the order of sending, then the flag if asked for. -/
def InterleavedFrame.lineInputs (f : InterleavedFrame) (endFlag : Bool) : List LineInput :=
  f.bytes.map .data ++ if endFlag then [.endOfFrame] else []

/-- The symbols of a frame and the disparity behind them. -/
def InterleavedFrame.symbols (f : InterleavedFrame) (endFlag : Bool) (rd : Disparity) :
    SymbolStream :=
  (f.lineInputs endFlag).foldl SymbolStream.push (.start rd)

theorem InterleavedFrame.symbols_eq (f : InterleavedFrame) (endFlag : Bool) (rd : Disparity) :
    f.symbols endFlag rd =
      ⟨(LineCode.encodeAll rd (f.lineInputs endFlag)).1.toArray,
        (LineCode.encodeAll rd (f.lineInputs endFlag)).2⟩ := by
  simp [symbols, SymbolStream.foldl_push, SymbolStream.start]

end Downlink
