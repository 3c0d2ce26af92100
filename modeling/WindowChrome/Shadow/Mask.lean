import WindowChrome.Fault

/-! # Coverage masks -/

namespace WindowChrome

namespace Mask

/-- The offsets of the points tried along one axis of a pixel. -/
def offsets : List Float32 := [0.125, 0.375, 0.625, 0.875]

def samples : List (Float32 × Float32) :=
  offsets.flatMap fun dy => offsets.map fun dx => (dx, dy)

@[specialize] def coverageAt (inside : Float32 → Float32 → Bool)
    (column row : Nat) : Float32 :=
  let x := Float32.ofNat column
  let y := Float32.ofNat row
  let hits := samples.countP fun (dx, dy) => inside (x + dx) (y + dy)
  Float32.ofNat hits / 16.0

@[specialize] def ofFigure (side : Nat) (inside : Float32 → Float32 → Bool) :
    Array Float32 :=
  (Array.range (side * side)).map fun index =>
    coverageAt inside (index % side) (index / side)

/-- The sums of the first 0, 1, 2, … numbers of a line. -/
def runningSums (line : Array Float32) : Array Float32 :=
  (line.foldl (fun (total, sums) value =>
      let total := total + value
      (total, sums.push total))
    ((0.0 : Float32), #[(0.0 : Float32)])).2

/-- The mean over the window of a line that reaches `radius` places to both
sides of a position. -/
def windowMean (sums : Array Float32) (length radius position : Nat) :
    Except Fault Float32 := do
  let high ← entryAt sums (min (position + radius + 1) length)
  let low ← entryAt sums (position - radius)
  return (high - low) / Float32.ofNat (2 * radius + 1)

def softenLine (radius : Nat) (line : Array Float32) :
    Except Fault (Array Float32) :=
  let sums := runningSums line
  (Array.range line.size).mapM (windowMean sums line.size radius)

def row (mask : Array Float32) (side y : Nat) : Array Float32 :=
  mask.extract (y * side) (y * side + side)

def column (mask : Array Float32) (side x : Nat) :
    Except Fault (Array Float32) :=
  (Array.range side).mapM fun y => entryAt mask (y * side + x)

def softenRows (radius side : Nat) (mask : Array Float32) :
    Except Fault (Array Float32) := do
  let rows ← (Array.range side).mapM fun y =>
    softenLine radius (row mask side y)
  return rows.flatten

def softenColumns (radius side : Nat) (mask : Array Float32) :
    Except Fault (Array Float32) := do
  let columns ← (Array.range side).mapM fun x => do
    softenLine radius (← column mask side x)
  (Array.range (side * side)).mapM fun index => do
    entryAt (← entryAt columns (index % side)) (index / side)

/-- Softens a mask a number of times, rows before columns. -/
def soften (radius side : Nat) : Nat → Array Float32 → Except Fault (Array Float32)
  | 0, mask => .ok mask
  | passes + 1, mask => do
      let mask ← softenRows radius side mask
      let mask ← softenColumns radius side mask
      soften radius side passes mask

end Mask

end WindowChrome
