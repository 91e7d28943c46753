/-
A camera that was reconnected more often.

A reconnect of a camera that is connected and does not refuse leaves it as it was, but for one more connection and one
more disconnection on its counters (`reconnect_eq`). Nobody reads these two: whatever is done with such a camera has the
same result as with the other, and leaves the same difference. This is said for each operation in turn, up to the steps
of the threads (`RunPoint.step_redialled`, `TestPoint.step_redialled`).
-/
import Mathlib.Tactic
import RemoteShutter.Proofs.Run.Logbook
import RemoteShutter.Shooting.Function

namespace RemoteShutter

namespace Camera

/-- the camera after n more reconnects -/
def redialled (c : Camera) (n : Nat) : Camera :=
  { c with connects := c.connects + .ofNat n, disconnects := c.disconnects + .ofNat n }

variable (c : Camera) (n m : Nat)

@[simp] theorem redialled_zero : c.redialled 0 = c := by
  simp [redialled]

@[simp] theorem redialled_redialled : (c.redialled m).redialled n = c.redialled (m + n) := by
  simp only [redialled, UInt32.ofNat_add, UInt32.add_assoc]

@[simp] theorem isConnected_redialled : (c.redialled n).isConnected = c.isConnected := rfl

@[simp] theorem refusesConnect_redialled : (c.redialled n).refusesConnect = c.refusesConnect := rfl

@[simp] theorem failsCaptures_redialled : (c.redialled n).failsCaptures = c.failsCaptures := rfl

@[simp] theorem shots_redialled : (c.redialled n).shots = c.shots := rfl

@[simp] theorem isResponsive_redialled : (c.redialled n).isResponsive = c.isResponsive := rfl

@[simp] theorem has_redialled (shot : Shot) : (c.redialled n).has shot = c.has shot := rfl

@[simp] theorem captureTime_redialled (exposure : UInt32) : (c.redialled n).captureTime exposure = c.captureTime exposure :=
  rfl

/-- **A reconnect that is made while the camera is connected and does not refuse adds one to both counters.** -/
theorem reconnect_eq (hconnected : c.isConnected = true) (hadmits : c.refusesConnect = false) :
    ∃ log, c.reconnect = (.ok (), c.redialled 1, log) := by
  rcases c with ⟨⟩
  simp only at hconnected hadmits
  subst hconnected hadmits
  exact ⟨_, rfl⟩

/-! ## Operations of the camera -/

theorem exposureMode_redialled : (c.redialled n).exposureMode = c.exposureMode := rfl

theorem expose_redialled : (c.redialled n).expose = (c.expose.1, c.expose.2.redialled n) := by
  unfold expose
  rw [isConnected_redialled, failsCaptures_redialled]
  split_ifs <;> rfl

theorem downloadTo_redialled (files : FileTree) (shot : Shot) (destination : String) :
    (c.redialled n).downloadTo files shot destination =
      ((c.downloadTo files shot destination).1, (c.downloadTo files shot destination).2.1.redialled n,
        (c.downloadTo files shot destination).2.2) := by
  unfold downloadTo
  rw [isConnected_redialled, has_redialled]
  split_ifs
  · rfl
  · rfl
  · cases files.write destination (pictureText shot) <;> rfl

theorem delivered_redialled (files : FileTree) (shot : Shot) (folder : Option String) :
    (c.redialled n).delivered files shot folder =
      ((c.delivered files shot folder).1, (c.delivered files shot folder).2.1.redialled n,
        (c.delivered files shot folder).2.2) := by
  cases folder with
  | none => rfl
  | some folder =>
    simp only [delivered, download, downloadTo_redialled]
    rcases c.downloadTo files shot (Path.join folder shot.name) with ⟨e | _, camera, files⟩ <;> rfl

theorem fire_redialled (files : FileTree) (mode : ExposureMode) (folder : Option String) :
    (c.redialled n).fire files mode folder =
      ((c.fire files mode folder).1, (c.fire files mode folder).2.1.redialled n, (c.fire files mode folder).2.2) := by
  cases mode with
  | bulb =>
    simp only [fire, remoteCapture, expose_redialled]
    rcases c.expose with ⟨e | shot, camera⟩
    · rfl
    · exact delivered_redialled { camera with remoteCaptures := camera.remoteCaptures + 1 } n files shot folder
  | fixed time =>
    simp only [fire, capture, expose_redialled]
    rcases c.expose with ⟨e | shot, camera⟩
    · rfl
    · exact delivered_redialled { camera with captures := camera.captures + 1 } n files shot folder

theorem connect_redialled : (c.redialled n).connect = (c.connect.1, c.connect.2.1.redialled n, c.connect.2.2) := by
  unfold connect
  rw [refusesConnect_redialled]
  split_ifs
  · rfl
  · simp only [redialled, UInt32.add_assoc, UInt32.add_comm 1]

theorem ensureReady_redialled :
    (c.redialled n).ensureReady = (c.ensureReady.1, c.ensureReady.2.1.redialled n, c.ensureReady.2.2) := by
  unfold ensureReady
  rw [isConnected_redialled, isResponsive_redialled]
  split_ifs
  · rw [connect_redialled]
    rcases c.connect with ⟨e | _, camera, log⟩ <;> rfl
  · rfl
  · rfl

theorem disconnect_redialled : (c.redialled n).disconnect = c.disconnect.redialled n := by
  unfold disconnect
  rw [isConnected_redialled]
  split_ifs
  · simp only [redialled, UInt32.add_assoc, UInt32.add_comm 1]
  · rfl

theorem suffer_redialled (f : Fault) : (c.redialled n).suffer f = (c.suffer f).redialled n := by
  cases f <;> rfl

theorem set_redialled (name value : String) :
    (c.redialled n).set name value = ((c.set name value).1, (c.set name value).2.1.redialled n, (c.set name value).2.2) := by
  unfold set
  split_ifs <;> rfl

end Camera

/-! ## Work in the studio -/

namespace Studio

/-- the studio after n more reconnects of its camera -/
def redialled (s : Studio) (n : Nat) : Studio :=
  { s with camera := s.camera.redialled n }

variable (s : Studio) (n : Nat)

@[simp] theorem redialled_zero : s.redialled 0 = s := by
  simp [redialled]

@[simp] theorem camera_redialled : (s.redialled n).camera = s.camera.redialled n := rfl

@[simp] theorem files_redialled : (s.redialled n).files = s.files := rfl

@[simp] theorem clock_redialled : (s.redialled n).clock = s.clock := rfl

theorem fire_redialled (exposure : UInt32) (mode : ExposureMode) (folder : Option String) :
    (s.redialled n).fire exposure mode folder =
      ((s.fire exposure mode folder).1, (s.fire exposure mode folder).2.redialled n) := by
  simp only [fire, camera_redialled, files_redialled, clock_redialled, Camera.fire_redialled, Camera.shots_redialled,
    Camera.captureTime_redialled]
  rfl

theorem fetch_redialled (shot : Option Shot) (folder : String) :
    (s.redialled n).fetch shot folder = ((s.fetch shot folder).1, (s.fetch shot folder).2.redialled n) := by
  cases shot with
  | none => rfl
  | some shot =>
    simp only [fetch, Camera.download, camera_redialled, files_redialled, Camera.downloadTo_redialled]
    rcases s.camera.downloadTo s.files shot (Path.join folder shot.name) with ⟨e | _, camera, files⟩ <;> rfl

end Studio

/-! ## Steps of threads -/

/-- what a step leaves, in a studio whose camera was reconnected n times more -/
def Stepped.redialled {Point : Type} (r : Stepped Point) (n : Nat) : Stepped Point :=
  { r with studio := r.studio.redialled n }

variable (plan : Plan) (folder : String) (life : Lifecycle) (studio : Studio) (n : Nat)

namespace RunPoint

theorem step_redialled (p : RunPoint) :
    p.step plan folder life (studio.redialled n) = (p.step plan folder life studio).redialled n := by
  cases p with
  | head => simp only [step]; split_ifs <;> rfl
  | aim =>
    simp only [step, Studio.camera_redialled, Camera.exposureMode_redialled]
    cases studio.camera.exposureMode <;> rfl
  | fire taken start mode =>
    simp only [step, Studio.fire_redialled]
    rcases studio.fire plan.exposure mode none with ⟨e | shot, studio'⟩ <;> rfl
  | fetch => simp only [step, Studio.fetch_redialled]; rfl
  | sample => cases plan <;> simp only [step] <;> (try split_ifs) <;> rfl
  | wait taken deadline =>
    by_cases hreached : deadline ≤ studio.clock
    · have hthere : deadline ≤ (studio.redialled n).clock := hreached
      simp only [step, if_pos hreached, if_pos hthere]
      split_ifs <;> rfl
    · have hthere : ¬ deadline ≤ (studio.redialled n).clock := hreached
      simp only [step, if_neg hreached, if_neg hthere]
      split_ifs <;> rfl
  | note | deliver | leave => rfl

theorem attempt?_redialled (p : RunPoint) : p.attempt? plan (studio.redialled n) = p.attempt? plan studio := by
  cases p with
  | aim => rfl
  | fire taken start mode => simp only [attempt?, Studio.fire_redialled]
  | _ => rfl

theorem fetch?_redialled (p : RunPoint) : p.fetch? folder life (studio.redialled n) = p.fetch? folder life studio := by
  cases p with
  | fetch => simp only [fetch?, Studio.fetch_redialled]
  | _ => rfl

end RunPoint

theorem TestPoint.step_redialled (p : TestPoint) :
    p.step plan folder life (studio.redialled n) = (p.step plan folder life studio).redialled n := by
  cases p with
  | aim =>
    simp only [step, Studio.camera_redialled, Camera.exposureMode_redialled]
    cases studio.camera.exposureMode <;> rfl
  | fire => simp only [step, Studio.fire_redialled]; rfl
  | begin | leave => rfl

namespace CaptureFunction

variable (f : CaptureFunction)

theorem stepRun_redialled : f.stepRun (studio.redialled n) = ((f.stepRun studio).1, (f.stepRun studio).2.redialled n) := by
  unfold stepRun
  cases f.run with
  | none => rfl
  | some p => simp only [p.step_redialled]; rfl

theorem stepTest_redialled :
    f.stepTest (studio.redialled n) = ((f.stepTest studio).1, (f.stepTest studio).2.redialled n) := by
  unfold stepTest
  cases f.test with
  | none => rfl
  | some p => simp only [p.step_redialled]; rfl

end CaptureFunction

end RemoteShutter
