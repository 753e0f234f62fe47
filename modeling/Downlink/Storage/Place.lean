/-!
# Places

A path is a text; the place that it names is a way from the root or from the working directory: some
steps up, then names. Different paths may name one place.
-/

namespace Downlink

/-- A way from the root or from the working directory. -/
structure Place where
  fromRoot : Bool
  /-- Steps up from the working directory. -/
  above : Nat
  /-- The names that lead down, the last one first. -/
  names : List String
  deriving DecidableEq, Repr

namespace Place

/-- The root. -/
def root : Place := ⟨true, 0, []⟩

/-- The working directory. -/
def working : Place := ⟨false, 0, []⟩

/-- The directory that holds a place. The root holds itself. -/
def up (p : Place) : Place :=
  match p.names with
  | _ :: rest => { p with names := rest }
  | [] => if p.fromRoot then p else { p with above := p.above + 1 }

/-- The place with a name in a directory. -/
def down (p : Place) (name : String) : Place := { p with names := name :: p.names }

/-- One component of a path taken from a place. -/
def step (p : Place) (component : String) : Place :=
  if component = "." then p else if component = ".." then p.up else p.down component

/-- Whether a place lies somewhere below another. -/
def isBelow (p q : Place) : Bool :=
  p.fromRoot == q.fromRoot && p.above == q.above && q.names.length < p.names.length &&
    q.names.isSuffixOf p.names

/-- The components of a path. -/
def components (path : String) : List String := (path.splitOn "/").filter (· != "")

/-- Where a path starts. -/
def origin (path : String) : Place := if path.toList.head? = some '/' then root else working

/-- Whether a path ends like that of a directory. -/
def endsInSlash (path : String) : Bool := path.toList.getLast? == some '/'

/-- The place that a path names, whether or not its directories exist. -/
def ofPath (path : String) : Place := (components path).foldl step (origin path)

@[simp] theorem up_down (p : Place) (name : String) : (p.down name).up = p := rfl

theorem isBelow_down (p : Place) (name : String) : (p.down name).isBelow p = true := by
  simp [isBelow, down]

end Place

end Downlink
