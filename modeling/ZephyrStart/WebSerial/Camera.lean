import ZephyrStart.Transition.Run
import ZephyrStart.WebSerial.Text

/-!
# The camera of the pages

`refreshCameraList`, `startCamera` and `stopCamera`, which are the same in
`webserial_bench_tool.html` and `webserial_can_monitor.html`.  `startCamera` goes on when the
browser has answered, and other functions may be called until then.

`camera_held_iff` says in which runs the page always holds exactly the streams that are running.
-/

namespace ZephyrStart

open Transition

/-! ## The list of cameras -/

/-- The options of `cameraSelect`, each with its value and its text, and the value of the list. -/
structure CameraSelect where
  options : List (Text × Text) := []
  value : Text := []
deriving DecidableEq, Repr

/-- The text of the option for the camera number `index`, counted from 0. -/
def cameraLabel (label : Text) (index : ℕ) : Text :=
  if label = [] then "Camera ".toList ++ Nat.toDigits 10 (index + 1) else label

/-- What `refreshCameraList` makes of the list once it has the cameras, each with its identifier and
its label.  The first option of a list is selected unless another one is. -/
def listCameras (previous : Text) (cameras : List (Text × Text)) : CameraSelect :=
  let options := cameras.mapIdx fun index camera => (camera.1, cameraLabel camera.2 index)
  if cameras = [] then { options := [([], "No cameras found".toList)] }
  else
    { options
      value :=
        if previous ≠ [] ∧ previous ∈ options.map Prod.fst then previous
        else (options.head?.map Prod.fst).getD [] }

/-! ## The page -/

/-- A call of `refreshCameraList` that waits: the value that the list had before, and whether
`startCamera` has made the call. -/
structure Listing where
  previous : Text
  ofStart : Bool
deriving DecidableEq, Repr

/-- `cameraStream` and the elements of the page, the calls that wait for a stream, each with the
camera that it has asked for, the calls that wait for the cameras, and the streams that are
running. -/
structure CameraPage where
  stream : Option ℕ := none
  srcObject : Option ℕ := none
  startDisabled : Bool := false
  stopDisabled : Bool := true
  status : Text := "Camera stopped".toList
  select : CameraSelect := {}
  requests : List Text := []
  listings : List Listing := []
  running : List ℕ := []
deriving DecidableEq, Repr

/-- `stopCamera`. -/
def CameraPage.stopCamera (p : CameraPage) : CameraPage :=
  { p with
    running := p.running.filter fun s => some s ≠ p.stream
    stream := none
    srcObject := none
    startDisabled := false
    stopDisabled := true
    status := "Camera stopped".toList }

/-- The status if the browser has no cameras. -/
def noCameraApi : Text := "Camera API is not available in this browser.".toList

/-- `startCamera`, up to the request.  `hasMedia` says whether `navigator.mediaDevices` is there. -/
def CameraPage.startCamera (hasMedia : Bool) (p : CameraPage) : CameraPage :=
  if hasMedia then
    let p := p.stopCamera
    { p with requests := p.requests ++ [p.select.value] }
  else { p with status := noCameraApi }

/-- `refreshCameraList`, up to the request. -/
def CameraPage.refreshCameraList (hasMedia ofStart : Bool) (p : CameraPage) : CameraPage :=
  if hasMedia then
    { p with listings := p.listings ++ [{ previous := p.select.value, ofStart }] }
  else { p with status := noCameraApi }

/-- The `catch` block of `startCamera`. -/
def CameraPage.failed (message : Text) (p : CameraPage) : CameraPage :=
  { p with
    stream := none
    srcObject := none
    status := "Camera failed: ".toList ++ message }

/-- What happens next. -/
inductive CameraEvent
  /-- The button `startCamera`. -/
  | start
  /-- The button `stopCamera`. -/
  | stop
  /-- Another option is selected. -/
  | change (value : Text)
  /-- The monitor has been loaded, which lists the cameras. -/
  | load
  /-- The stream for the request number `i`. -/
  | granted (i stream : ℕ)
  /-- The error for the request number `i`. -/
  | denied (i : ℕ) (message : Text)
  /-- The cameras for the call number `i`. -/
  | listed (i : ℕ) (cameras : List (Text × Text))
  /-- The error for the call number `i`; when the page has been loaded it is shown otherwise. -/
  | listFailed (i : ℕ) (message : Text)
deriving DecidableEq, Repr

/-- The event, or `none` if it cannot happen. -/
def CameraPage.step (hasMedia : Bool) (p : CameraPage) : CameraEvent → Option CameraPage
  | .start => if p.startDisabled then none else some (p.startCamera hasMedia)
  | .stop => if p.stopDisabled then none else some p.stopCamera
  | .change value =>
    if value ∈ p.select.options.map Prod.fst then
      let p := { p with select := { p.select with value } }
      some (if p.stream.isSome then p.startCamera hasMedia else p)
    else none
  | .load => some (p.refreshCameraList hasMedia false)
  | .granted i stream =>
    if i < p.requests.length ∧ stream ∉ p.running then
      let p : CameraPage :=
        { p with
          requests := p.requests.eraseIdx i
          running := p.running ++ [stream]
          stream := some stream
          srcObject := some stream
          startDisabled := true
          stopDisabled := false
          status := "Camera running".toList }
      some (p.refreshCameraList hasMedia true)
    else none
  | .denied i message =>
    if i < p.requests.length then
      some (({ p with requests := p.requests.eraseIdx i } : CameraPage).failed message)
    else none
  | .listed i cameras =>
    (p.listings[i]?).map fun listing =>
      { p with
        listings := p.listings.eraseIdx i
        select := listCameras listing.previous cameras }
  | .listFailed i message =>
    (p.listings[i]?).map fun listing =>
      let p : CameraPage := { p with listings := p.listings.eraseIdx i }
      if listing.ofStart then p.failed message
      else { p with status := "Camera list failed: ".toList ++ message }

/-! ## What is held is what is running -/

/-- The streams that are running are what the page holds and shows, and the buttons say so. -/
structure CameraPage.HoldsRunning (p : CameraPage) : Prop where
  running : p.running = p.stream.toList
  shown : p.srcObject = p.stream
  startButton : p.startDisabled = p.stream.isSome
  stopButton : p.stopDisabled = p.stream.isNone

/-- An answer to `startCamera` comes while the page holds no stream. -/
def AnswersWhenFree (p : CameraPage) : CameraEvent → Prop
  | .granted _ _ | .denied _ _ => p.stream = none
  | .listFailed i _ => (∃ previous, p.listings[i]? = some ⟨previous, true⟩) → p.stream = none
  | _ => True

/-- Once the camera is stopped nothing is running. -/
lemma CameraPage.HoldsRunning.stopCamera {p : CameraPage} (h : p.HoldsRunning) :
    p.stopCamera.HoldsRunning := by
  refine ⟨?_, rfl, rfl, rfl⟩
  change p.running.filter (fun s => some s ≠ p.stream) = []
  rw [h.running]
  cases p.stream <;> simp

/-- A new start leaves nothing running. -/
lemma CameraPage.HoldsRunning.startCamera {p : CameraPage} (h : p.HoldsRunning)
    (hasMedia : Bool) : (p.startCamera hasMedia).HoldsRunning := by
  unfold CameraPage.startCamera
  cases hasMedia with
  | false => exact ⟨h.running, h.shown, h.startButton, h.stopButton⟩
  | true =>
    have hstopped := h.stopCamera
    exact ⟨hstopped.running, hstopped.shown, hstopped.startButton, hstopped.stopButton⟩

/-- A list has nothing to do with what is held. -/
lemma holdsRunning_refreshCameraList_iff {p : CameraPage} (hasMedia ofStart : Bool) :
    (p.refreshCameraList hasMedia ofStart).HoldsRunning ↔ p.HoldsRunning := by
  unfold CameraPage.refreshCameraList
  cases hasMedia <;>
    exact ⟨fun ⟨hr, hs, hb, hb'⟩ => ⟨hr, hs, hb, hb'⟩, fun ⟨hr, hs, hb, hb'⟩ => ⟨hr, hs, hb, hb'⟩⟩

/-- When a start fails, what is held is let go, and it must not be running. -/
lemma CameraPage.HoldsRunning.failed_iff {p : CameraPage} (h : p.HoldsRunning) (message : Text) :
    (p.failed message).HoldsRunning ↔ p.stream = none := by
  obtain ⟨hrunning, -, hstart, hstop⟩ := h
  constructor
  · rintro ⟨hnone, -, -, -⟩
    have hempty : p.stream.toList = [] := hrunning.symm.trans hnone
    cases hstream : p.stream with
    | none => rfl
    | some s =>
      rw [hstream] at hempty
      cases hempty
  · intro hstream
    rw [hstream] at hrunning hstart hstop
    exact ⟨hrunning, rfl, hstart, hstop⟩

/-- After an event, what is held is what is running if and only if an answer has found the page
free. -/
lemma CameraPage.HoldsRunning.step_iff {hasMedia : Bool} {p p' : CameraPage} {e : CameraEvent}
    (h : p.HoldsRunning) (hstep : p.step hasMedia e = some p') :
    p'.HoldsRunning ↔ AnswersWhenFree p e := by
  cases e with
  | start =>
    obtain ⟨-, ⟨⟩⟩ := Option.ite_none_left_eq_some.mp hstep
    exact iff_of_true (h.startCamera hasMedia) trivial
  | stop =>
    obtain ⟨-, ⟨⟩⟩ := Option.ite_none_left_eq_some.mp hstep
    exact iff_of_true h.stopCamera trivial
  | change value =>
    obtain ⟨-, ⟨⟩⟩ := Option.ite_none_right_eq_some.mp hstep
    have hchanged : ({ p with select := { p.select with value } } : CameraPage).HoldsRunning :=
      ⟨h.running, h.shown, h.startButton, h.stopButton⟩
    refine iff_of_true ?_ trivial
    split_ifs
    · exact hchanged.startCamera hasMedia
    · exact hchanged
  | load =>
    obtain rfl := Option.some.inj hstep
    exact iff_of_true ((holdsRunning_refreshCameraList_iff hasMedia false).mpr h) trivial
  | granted i stream =>
    obtain ⟨-, ⟨⟩⟩ := Option.ite_none_right_eq_some.mp hstep
    rw [holdsRunning_refreshCameraList_iff]
    constructor
    · rintro ⟨hrunning, -, -, -⟩
      -- one stream more than those that were running
      have hlength : (p.running ++ [stream]).length = 1 := congrArg List.length hrunning
      rw [h.running, List.length_append, List.length_singleton] at hlength
      cases hstream : p.stream with
      | none => exact hstream
      | some s =>
        rw [hstream] at hlength
        cases hlength
    · intro hfree
      have hfree : p.stream = none := hfree
      have hnone : p.running = [] := by rw [h.running, hfree]; rfl
      exact ⟨by simp [hnone], rfl, rfl, rfl⟩
  | denied i message =>
    obtain ⟨-, ⟨⟩⟩ := Option.ite_none_right_eq_some.mp hstep
    have hless : ({ p with requests := p.requests.eraseIdx i } : CameraPage).HoldsRunning :=
      ⟨h.running, h.shown, h.startButton, h.stopButton⟩
    exact hless.failed_iff message
  | listed i cameras =>
    obtain ⟨listing, -, rfl⟩ := Option.map_eq_some_iff.mp hstep
    exact iff_of_true ⟨h.running, h.shown, h.startButton, h.stopButton⟩ trivial
  | listFailed i message =>
    obtain ⟨⟨previous, ofStart⟩, hlisting, rfl⟩ := Option.map_eq_some_iff.mp hstep
    have hless : ({ p with listings := p.listings.eraseIdx i } : CameraPage).HoldsRunning :=
      ⟨h.running, h.shown, h.startButton, h.stopButton⟩
    cases ofStart with
    | true =>
      rw [if_pos rfl, hless.failed_iff]
      exact ⟨fun hfree _ => hfree, fun hfree => hfree ⟨previous, hlisting⟩⟩
    | false =>
      rw [if_neg Bool.false_ne_true]
      refine iff_of_true ⟨h.running, h.shown, h.startButton, h.stopButton⟩ ?_
      rintro ⟨previous', hlisting'⟩
      cases hlisting.symm.trans hlisting'

/-- **Cameras.**  In every run, however often the camera is started, stopped and changed while
requests are open, the page holds exactly the streams that are running, and the buttons say so, if
and only if every answer to `startCamera` comes while it holds none. -/
theorem camera_held_iff (hasMedia : Bool) (es : List CameraEvent) :
    EveryState (CameraPage.step hasMedia) CameraPage.HoldsRunning {} es ↔
      EveryStep (CameraPage.step hasMedia) AnswersWhenFree {} es := by
  have hstart : ({} : CameraPage).HoldsRunning := ⟨rfl, rfl, rfl, rfl⟩
  exact everyState_iff (fun _ _ _ _ _ _ _ => trivial)
    (fun _ _ _ _ h hstep => h.step_iff hstep) trivial hstart es

/-- Two requests that are both granted: the first stream goes on without being held. -/
example : (run (CameraPage.step true) {} [.start, .start, .granted 0 7, .granted 0 8]).map
    (fun p => (p.stream, p.running)) = some (some 8, [7, 8]) := by
  decide

end ZephyrStart
