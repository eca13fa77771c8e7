import SmartGarden.Swift.String

/-!
This module contains the places of the Firebase database that the app uses and what its handlers do to
the outside world.
-/

open Swift

namespace SmartGarden

inductive Path where
  | CHEDO
  | TINHIEUDONGCO
  | DULIEUCAMBIEN
  | pumpSpeed
  | thresholdTemp
  | thresholdSoilMosture
  | thresholdLight
  | timeoutPump
  | timeoutBulb
  | timeoutFan
  | timeoutCanopy
  deriving DecidableEq, Repr

/--
The value of a snapshot: a string, or any other value that `snapshot.value as? String` rejects.
-/
inductive Value where
  | string (data : Str)
  | other
  deriving DecidableEq, Repr

inductive Result (α : Type) where
  | success (data : α)
  | failure (message : String)
  deriving DecidableEq, Repr

def fetchDataFromFirebase (value : Value) : Result Str :=
  match value with
  | .string data => .success data
  | .other => .failure "Invalid data type"

def writeDataToFirebase (error : Option String) : Result Bool :=
  match error with
  | some message => .failure message
  | none => .success true

inductive Effect where
  | observe (path : Path)
  | setValue (path : Path) (data : Str)
  | displayIndicator (isShow : Bool)
  | showAlert (title message : String)
  -- The process ends here, and the effects in front of it have been issued.
  | trap
  deriving DecidableEq, Repr

def Effect.write? : Effect → Option (Path × Str)
  | .setValue path data => some (path, data)
  | _ => none

def writes (effects : List Effect) : List (Path × Str) :=
  effects.filterMap Effect.write?

def writesTo (path : Path) (effects : List Effect) : List Str :=
  ((writes effects).filter fun write => write.1 = path).map Prod.snd

def Effect.observe? : Effect → Option Path
  | .observe path => some path
  | _ => none

def observes (effects : List Effect) : List Path :=
  effects.filterMap Effect.observe?

def Effect.displayIndicator? : Effect → Option Bool
  | .displayIndicator isShow => some isShow
  | _ => none

/--
What the effects leave of the indicator, `none` if they do not touch it.
-/
def indicator (effects : List Effect) : Option Bool :=
  (effects.filterMap Effect.displayIndicator?).getLast?

@[simp]
theorem observes_append (es fs : List Effect) : observes (es ++ fs) = observes es ++ observes fs := by
  simp [observes]

@[simp]
theorem indicator_append (es fs : List Effect)
    : indicator (es ++ fs) = (indicator fs).or (indicator es) := by
  simp [indicator]

@[simp]
theorem writes_append (es fs : List Effect) : writes (es ++ fs) = writes es ++ writes fs := by
  simp [writes]

@[simp]
theorem writesTo_append (path : Path) (es fs : List Effect)
    : writesTo path (es ++ fs) = writesTo path es ++ writesTo path fs := by
  simp [writesTo]

end SmartGarden
