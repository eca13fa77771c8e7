import SmartGarden.ProgressHUD.Impl

/-!
This module contains what the indicator looks like when it is up and what is left of it when it is down.
-/

open Swift

namespace SmartGarden

namespace ProgressHUD

variable {Image : Type}

open ContentView

/--
What a user can see above the label.
-/
inductive Content (Image : Type) where
  | progress (value : Rat)
  | animation
  | animatedIcon (icon : AnimatedIcon)
  | staticImage (image : Image)
  deriving DecidableEq

def shown (view : Option (ContentView α)) : List α :=
  match view with
  | some ⟨content, true⟩ => [content]
  | _ => []

@[simp]
theorem shown_removeFromSuperview (view : Option (ContentView α))
    : shown (removeFromSuperview view) = [] := by
  cases view <;> rfl

@[simp]
theorem shown_attach {toolbarHUD : Option Nat} (h : toolbarHUD.isSome) (view : Option (ContentView α))
    (content : α) : shown (attach toolbarHUD view content) = [content] := by
  unfold attach shown
  rw [h]
  rw [Bool.or_true]

def contents (hud : ProgressHUD Image) : List (Content Image) :=
  (shown hud.viewProgress).map .progress
    ++ (shown hud.viewAnimation).map (fun _ => .animation)
    ++ (shown hud.viewAnimatedIcon).map .animatedIcon
    ++ (shown hud.staticImageView).map .staticImage

/--
`none` if the arguments ask for two content views.
-/
def content? (args : Setup Image) : Option (Content Image) :=
  match args.progress, args.animatedIcon, args.staticImage with
  | none, none, none => some .animation
  | some progress, none, none => some (.progress progress)
  | none, some animatedIcon, none => some (.animatedIcon animatedIcon)
  | none, none, some staticImage => some (.staticImage staticImage)
  | _, _, _ => none

def label (status : Option Str) : Label where
  text := if status = some [] then none else status
  isHidden := status.isNone

def notifications : List Notification :=
  [.keyboardWillShow, .keyboardWillHide, .keyboardDidShow, .keyboardDidHide, .orientationDidChange]

/--
The indicator shows what the arguments of a setup ask for, it is registered once for every notification,
and no timer but the one of that setup can fire.
-/
structure Up (hud : ProgressHUD Image) (args : Setup Image) : Prop where
  alpha : hud.alpha = 1
  viewBackground : hud.viewBackground = some { isUserInteractionEnabled := args.interaction = false }
  toolbarHUD : hud.toolbarHUD.isSome
  visible : hud.hides = 0 → hud.toolbarHUD = some 1
  labelStatus : hud.labelStatus = some (label args.status)
  contents : ∃ content, content? args = some content ∧ hud.contents = [content]
  observers : hud.observers = notifications
  live : ∀ k ∈ hud.live, args.hide = true ∧ hud.timer = some k ∧ k + 1 = hud.setups
  one : hud.live.length ≤ 1

/--
Nothing is left of the indicator.
-/
structure Down (hud : ProgressHUD Image) : Prop where
  alpha : hud.alpha = 0
  viewBackground : hud.viewBackground = none
  toolbarHUD : hud.toolbarHUD = none
  labelStatus : hud.labelStatus = none
  viewProgress : hud.viewProgress = none
  viewAnimation : hud.viewAnimation = none
  viewAnimatedIcon : hud.viewAnimatedIcon = none
  staticImageView : hud.staticImageView = none
  observers : hud.observers = []
  timer : hud.timer = none
  live : hud.live = []

theorem content?_setup? {hud : ProgressHUD Image} {call : Call Image} {args : Setup Image}
    (h : call.setup? hud = some args) : (content? args).isSome := by
  cases call with
  | dismiss => contradiction
  | showAlertIcon status image interaction =>
    cases h
    cases image <;> rfl
  | _ =>
    cases h
    rfl

theorem contents_setupContent {hud : ProgressHUD Image} {args : Setup Image} {content : Content Image}
    (htoolbar : hud.toolbarHUD.isSome) (hcontent : content? args = some content)
    : (hud.setupContent args).contents = [content] := by
  unfold content? at hcontent
  split at hcontent
  . next hprogress hicon himage =>
    cases hcontent
    simp [setupContent, hprogress, hicon, himage, contents, setupAnimation, htoolbar]
  . next hprogress hicon himage =>
    cases hcontent
    simp [setupContent, hprogress, hicon, himage, contents, setupProgress, htoolbar]
  . next hprogress hicon himage =>
    cases hcontent
    simp [setupContent, hprogress, hicon, himage, contents, setupAnimatedIcon, htoolbar]
  . next hprogress hicon himage =>
    cases hcontent
    simp [setupContent, hprogress, hicon, himage, contents, setupStaticImage, htoolbar]
  . contradiction

/--
The content views apart, picking one changes nothing.
-/
theorem setupContent_frame (hud : ProgressHUD Image) (args : Setup Image)
    : ∃ viewProgress viewAnimation viewAnimatedIcon staticImageView,
        hud.setupContent args = { hud with viewProgress, viewAnimation, viewAnimatedIcon, staticImageView }
    := by
  unfold setupContent
  split
  all_goals exact ⟨_, _, _, _, rfl⟩

/--
The indicator when its views are set up and before it is shown.
-/
def fitted (hud : ProgressHUD Image) (args : Setup Image) : ProgressHUD Image :=
  let hud := (hud.setupNotifications).setupBackground args.interaction
  ((hud.setupToolbar).setupLabel args.status).setupContent args

theorem setup_eq (hud : ProgressHUD Image) (args : Setup Image)
    : hud.setup args = ((hud.fitted args).hudShow).scheduledTimer args.hide := by
  rfl

theorem fitted_contents {hud : ProgressHUD Image} {args : Setup Image} {content : Content Image}
    (h : content? args = some content) : (hud.fitted args).contents = [content] := by
  apply contents_setupContent
  . simp [setupLabel, setupToolbar]
  . exact h

/--
What setting up the views leaves alone.
-/
theorem fitted_frame (hud : ProgressHUD Image) (args : Setup Image)
    : ∃ viewProgress viewAnimation viewAnimatedIcon staticImageView,
        hud.fitted args
          =
        { hud with
          viewBackground := some { isUserInteractionEnabled := args.interaction = false }
          toolbarHUD := hud.toolbarHUD.or (some 1)
          labelStatus := some (label args.status)
          observers := if hud.viewBackground.isNone then hud.observers ++ notifications else hud.observers
          viewProgress, viewAnimation, viewAnimatedIcon, staticImageView } := by
  unfold fitted
  dsimp only
  obtain ⟨viewProgress, viewAnimation, viewAnimatedIcon, staticImageView, hframe⟩ :=
    setupContent_frame ((((hud.setupNotifications).setupBackground args.interaction).setupToolbar).setupLabel
      args.status) args
  rw [hframe]
  exact ⟨_, _, _, _, rfl⟩

theorem invalidate_eq (hud : ProgressHUD Image) (h : ∀ k ∈ hud.live, hud.timer = some k)
    : hud.invalidate = { hud with live := [], timer := none } := by
  have hlive : hud.live.filter (fun k => some k ≠ hud.timer) = [] := by
    rw [List.filter_eq_nil_iff]
    intro k hk
    simp [h k hk]
  unfold invalidate
  rw [hlive]

/--
No timer that an earlier setup has scheduled is left.
-/
theorem setup_frame (hud : ProgressHUD Image) (h : ∀ k ∈ hud.live, hud.timer = some k)
    (args : Setup Image)
    : ∃ viewProgress viewAnimation viewAnimatedIcon staticImageView,
        hud.setup args
          =
        { hud with
          alpha := 1
          viewBackground := some { isUserInteractionEnabled := args.interaction = false }
          toolbarHUD := if hud.alpha = 1 then hud.toolbarHUD.or (some 1) else some 1
          labelStatus := some (label args.status)
          timer := if args.hide then some hud.setups else none
          observers := if hud.viewBackground.isNone then hud.observers ++ notifications else hud.observers
          setups := hud.setups + 1
          live := if args.hide then [hud.setups] else []
          viewProgress, viewAnimation, viewAnimatedIcon, staticImageView } := by
  obtain ⟨viewProgress, viewAnimation, viewAnimatedIcon, staticImageView, hframe⟩ := hud.fitted_frame args
  refine ⟨viewProgress, viewAnimation, viewAnimatedIcon, staticImageView, ?_⟩
  have hinvalidate := invalidate_eq (hud.fitted args) (by rw [hframe]; exact h)
  rw [setup_eq]
  unfold hudShow
  rw [hinvalidate, hframe]
  unfold scheduledTimer
  by_cases halpha : hud.alpha = 1
  . cases args.hide <;> simp [halpha]
  . cases args.hide <;> simp [halpha]

theorem setup_contents (hud : ProgressHUD Image) (args : Setup Image)
    : (hud.setup args).contents = (hud.fitted args).contents := by
  have htimer : ∀ (hud : ProgressHUD Image) hide, (hud.scheduledTimer hide).contents = hud.contents := by
    intro hud hide
    cases hide <;> rfl
  rw [setup_eq, htimer]
  unfold hudShow
  dsimp only
  split <;> rfl

theorem up_setup_down {hud : ProgressHUD Image} (h : hud.Down) {args : Setup Image}
    (hargs : (content? args).isSome) : (hud.setup args).Up args := by
  obtain ⟨content, hcontent⟩ := Option.isSome_iff_exists.mp hargs
  have hcontents : (hud.setup args).contents = [content] := by
    rw [setup_contents]
    exact fitted_contents hcontent
  obtain ⟨viewProgress, viewAnimation, viewAnimatedIcon, staticImageView, hframe⟩ :=
    setup_frame hud (by simp [h.live]) args
  rw [hframe] at hcontents ⊢
  constructor
  . rfl
  . rfl
  . simp [h.alpha]
  . simp [h.alpha]
  . rfl
  . exact ⟨content, hcontent, hcontents⟩
  . simp [h.viewBackground, h.observers]
  . simp
  . dsimp only
    split <;> simp

theorem up_setup {hud : ProgressHUD Image} {before : Setup Image} (h : hud.Up before)
    {args : Setup Image} (hargs : (content? args).isSome) : (hud.setup args).Up args := by
  obtain ⟨content, hcontent⟩ := Option.isSome_iff_exists.mp hargs
  have hcontents : (hud.setup args).contents = [content] := by
    rw [setup_contents]
    exact fitted_contents hcontent
  obtain ⟨viewProgress, viewAnimation, viewAnimatedIcon, staticImageView, hframe⟩ :=
    setup_frame hud (fun k hk => (h.live k hk).2.1) args
  rw [hframe] at hcontents ⊢
  constructor
  . rfl
  . rfl
  . simp [h.alpha]
  . intro hhides
    simp [h.alpha, h.visible hhides]
  . rfl
  . exact ⟨content, hcontent, hcontents⟩
  . simp [h.viewBackground, h.observers]
  . simp
  . dsimp only
    split <;> simp

theorem up_hudHide {hud : ProgressHUD Image} {args : Setup Image} (h : hud.Up args)
    : hud.hudHide.Up args := by
  unfold hudHide
  rw [if_pos h.alpha]
  exact { h with
    toolbarHUD := by simpa using h.toolbarHUD
    visible := by simp }

theorem hudHide_down {hud : ProgressHUD Image} (h : hud.Down) : hud.hudHide = hud := by
  unfold hudHide
  rw [if_neg (by simp [h.alpha])]

theorem up_fired {hud : ProgressHUD Image} {args : Setup Image} (h : hud.Up args) (k : Nat)
    : (hud.fired k).Up args := by
  apply up_hudHide
  exact { h with
    live := fun other hother => h.live other (List.mem_of_mem_erase hother)
    one := by
      have hle := List.length_erase_le (l := hud.live) (a := k)
      have hone := h.one
      dsimp only
      omega }

theorem down_hidden {hud : ProgressHUD Image} (h : ∀ k ∈ hud.live, hud.timer = some k)
    : hud.hidden.Down := by
  unfold hidden hudDestroy
  dsimp only
  rw [invalidate_eq _ (by exact h)]
  constructor
  all_goals rfl

end ProgressHUD

end SmartGarden
