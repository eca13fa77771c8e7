import SmartGarden.Swift.Number

/-!
This module contains the blocking indicator `ProgressHUD`: its views, its hide timer and what its class
functions leave to the main queue. Sizes, positions, colours and the drawing of the animations are not part
of it.
-/

open Swift

namespace SmartGarden

inductive AnimatedIcon where
  | succeed
  | failed
  | added
  deriving DecidableEq

/--
The notifications that move the indicator.
-/
inductive Notification where
  | keyboardWillShow
  | keyboardWillHide
  | keyboardDidShow
  | keyboardDidHide
  | orientationDidChange
  deriving DecidableEq

/--
The arguments of `setup`.
-/
structure Setup (Image : Type) where
  status : Option Str := none
  progress : Option Rat := none
  animatedIcon : Option AnimatedIcon := none
  staticImage : Option Image := none
  hide : Bool
  interaction : Bool

structure Background where
  isUserInteractionEnabled : Bool
  deriving DecidableEq

structure Label where
  text : Option Str
  isHidden : Bool
  deriving DecidableEq

/--
One of the four views that the toolbar shows above its label.
-/
structure ContentView (α : Type) where
  content : α
  -- The view has a superview.
  attached : Bool

structure ProgressHUD (Image : Type) where
  imageSuccess : Image
  imageError : Image
  alpha : Nat := 0
  viewBackground : Option Background := none
  -- The toolbar's own `alpha`, once its animations are over.
  toolbarHUD : Option Nat := none
  labelStatus : Option Label := none
  viewProgress : Option (ContentView Rat) := none
  viewAnimation : Option (ContentView Unit) := none
  viewAnimatedIcon : Option (ContentView AnimatedIcon) := none
  staticImageView : Option (ContentView Image) := none
  timer : Option Nat := none
  -- What it has registered with the notification center.
  observers : List Notification := []
  -- The number of setups so far. A timer has the number of the setup that schedules it.
  setups : Nat := 0
  -- The timers that have neither fired nor been invalidated.
  live : List Nat := []
  -- The number of hide animations that have not ended.
  hides : Nat := 0

variable {Image : Type}

namespace ContentView

variable {α : Type}

def removeFromSuperview (view : Option (ContentView α)) : Option (ContentView α) :=
  view.map fun view => { view with attached := false }

/--
A content view is created unless there is one, and attached unless it is.
-/
def attach (toolbarHUD : Option Nat) (view : Option (ContentView α)) (content : α)
    : Option (ContentView α) :=
  some { content := content, attached := (view.any ContentView.attached) || toolbarHUD.isSome }

end ContentView

open ContentView

namespace ProgressHUD

def setupNotifications (hud : ProgressHUD Image) : ProgressHUD Image :=
  { hud with
    observers :=
      if hud.viewBackground.isNone then
        hud.observers ++ [.keyboardWillShow, .keyboardWillHide, .keyboardDidShow, .keyboardDidHide,
          .orientationDidChange]
      else
        hud.observers }

def setupBackground (hud : ProgressHUD Image) (interaction : Bool) : ProgressHUD Image :=
  { hud with viewBackground := some { isUserInteractionEnabled := interaction = false } }

def setupToolbar (hud : ProgressHUD Image) : ProgressHUD Image :=
  -- A new view has `alpha` 1.
  { hud with toolbarHUD := hud.toolbarHUD.or (some 1) }

def setupLabel (hud : ProgressHUD Image) (status : Option Str) : ProgressHUD Image :=
  { hud with
    labelStatus := some {
      text := if status = some [] then none else status
      isHidden := status.isNone } }

def setupProgress (hud : ProgressHUD Image) (progress : Rat) : ProgressHUD Image :=
  { hud with
    viewAnimation := removeFromSuperview hud.viewAnimation
    viewAnimatedIcon := removeFromSuperview hud.viewAnimatedIcon
    staticImageView := removeFromSuperview hud.staticImageView
    viewProgress := attach hud.toolbarHUD hud.viewProgress progress }

def setupAnimation (hud : ProgressHUD Image) : ProgressHUD Image :=
  { hud with
    viewProgress := removeFromSuperview hud.viewProgress
    viewAnimatedIcon := removeFromSuperview hud.viewAnimatedIcon
    staticImageView := removeFromSuperview hud.staticImageView
    viewAnimation := attach hud.toolbarHUD hud.viewAnimation () }

def setupAnimatedIcon (hud : ProgressHUD Image) (animatedIcon : AnimatedIcon) : ProgressHUD Image :=
  { hud with
    viewProgress := removeFromSuperview hud.viewProgress
    viewAnimation := removeFromSuperview hud.viewAnimation
    staticImageView := removeFromSuperview hud.staticImageView
    viewAnimatedIcon := attach hud.toolbarHUD hud.viewAnimatedIcon animatedIcon }

def setupStaticImage (hud : ProgressHUD Image) (staticImage : Image) : ProgressHUD Image :=
  { hud with
    viewProgress := removeFromSuperview hud.viewProgress
    viewAnimation := removeFromSuperview hud.viewAnimation
    viewAnimatedIcon := removeFromSuperview hud.viewAnimatedIcon
    staticImageView := attach hud.toolbarHUD hud.staticImageView staticImage }

/--
The four conditions of `setup` that pick the content view.
-/
def setupContent (hud : ProgressHUD Image) (args : Setup Image) : ProgressHUD Image :=
  match args.progress, args.animatedIcon, args.staticImage with
  | none, none, none => hud.setupAnimation
  | some progress, none, none => hud.setupProgress progress
  | none, some animatedIcon, none => hud.setupAnimatedIcon animatedIcon
  | none, none, some staticImage => hud.setupStaticImage staticImage
  | _, _, _ => hud

def invalidate (hud : ProgressHUD Image) : ProgressHUD Image :=
  { hud with
    live := hud.live.filter fun k => some k ≠ hud.timer
    timer := none }

def hudShow (hud : ProgressHUD Image) : ProgressHUD Image :=
  let hud := hud.invalidate
  if hud.alpha ≠ 1 then
    { hud with
      alpha := 1
      toolbarHUD := hud.toolbarHUD.map fun _ => 1 }
  else
    hud

def scheduledTimer (hud : ProgressHUD Image) (hide : Bool) : ProgressHUD Image :=
  let number := hud.setups
  let hud := { hud with setups := number + 1 }
  if hide then
    { hud with
      timer := some number
      live := hud.live ++ [number] }
  else
    hud

def setup (hud : ProgressHUD Image) (args : Setup Image) : ProgressHUD Image :=
  let hud := hud.setupNotifications
  let hud := hud.setupBackground args.interaction
  let hud := hud.setupToolbar
  let hud := hud.setupLabel args.status
  let hud := hud.setupContent args
  let hud := hud.hudShow
  hud.scheduledTimer args.hide

def hudHide (hud : ProgressHUD Image) : ProgressHUD Image :=
  if hud.alpha = 1 then
    { hud with
      toolbarHUD := hud.toolbarHUD.map fun _ => 0
      hides := hud.hides + 1 }
  else
    hud

def hudDestroy (hud : ProgressHUD Image) : ProgressHUD Image :=
  let hud := { hud with
    observers := []
    staticImageView := none
    viewAnimatedIcon := none
    viewAnimation := none
    viewProgress := none
    labelStatus := none
    toolbarHUD := none
    viewBackground := none }
  hud.invalidate

/--
What a hide animation does when it ends.
-/
def hidden (hud : ProgressHUD Image) : ProgressHUD Image :=
  let hud := hud.hudDestroy
  { hud with
    alpha := 0
    hides := hud.hides - 1 }

/--
The timer with number `k` fires.
-/
def fired (hud : ProgressHUD Image) (k : Nat) : ProgressHUD Image :=
  let hud := { hud with live := hud.live.erase k }
  hud.hudHide

/--
The class functions, each with what it passes on to the main queue. The image of an alert icon is looked up
before.
-/
inductive Call (Image : Type) where
  | dismiss
  | show (status : Option Str) (interaction : Bool)
  | showAlertIcon (status : Option Str) (image : Option Image) (interaction : Bool)
  | showAnimatedIcon (status : Option Str) (animatedIcon : AnimatedIcon) (interaction : Bool)
  | showSuccess (status : Option Str) (image : Option Image) (interaction : Bool)
  | showError (status : Option Str) (image : Option Image) (interaction : Bool)
  | showSucceed (status : Option Str) (interaction : Bool)
  | showFailed (status : Option Str) (interaction : Bool)
  | showAdded (status : Option Str) (interaction : Bool)
  | showProgress (status : Option Str) (progress : Rat) (interaction : Bool)
  deriving DecidableEq

/--
`none` for a dismissal.
-/
def Call.setup? (hud : ProgressHUD Image) : Call Image → Option (Setup Image)
  | .dismiss => none
  | .show status interaction => some { status, hide := false, interaction }
  | .showAlertIcon status image interaction =>
    some { status, staticImage := image, hide := true, interaction }
  | .showAnimatedIcon status animatedIcon interaction =>
    some { status, animatedIcon := some animatedIcon, hide := true, interaction }
  | .showSuccess status image interaction =>
    some { status, staticImage := some (image.getD hud.imageSuccess), hide := true, interaction }
  | .showError status image interaction =>
    some { status, staticImage := some (image.getD hud.imageError), hide := true, interaction }
  | .showSucceed status interaction =>
    some { status, animatedIcon := some .succeed, hide := true, interaction }
  | .showFailed status interaction =>
    some { status, animatedIcon := some .failed, hide := true, interaction }
  | .showAdded status interaction =>
    some { status, animatedIcon := some .added, hide := true, interaction }
  | .showProgress status progress interaction =>
    some { status, progress := some progress, hide := false, interaction }

/--
The block that a call has left to the main queue.
-/
def perform (hud : ProgressHUD Image) (call : Call Image) : ProgressHUD Image :=
  match call.setup? hud with
  | some args => hud.setup args
  | none => hud.hudHide

end ProgressHUD

end SmartGarden
