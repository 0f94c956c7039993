import Mathlib.Order.Lattice
import Mathlib.Order.MinMax

/-!
# Screen capture

The display affinity that Windows keeps for a window, the calls that set it, and the watcher
that polls the state of the Print Screen key.
-/

namespace CryptoUsb

/-! ## Display affinity -/

/-- `WDA_NONE`, `WDA_MONITOR` and `WDA_EXCLUDEFROMCAPTURE`. -/
inductive DisplayAffinity
  | none
  | monitor
  | excludeFromCapture
  deriving DecidableEq, Repr

inductive CaptureProtectionLevel
  | none
  | monitorBlackout
  | excludedFromCapture
  deriving DecidableEq, Repr

structure CaptureProtectionResult where
  level : CaptureProtectionLevel
  detail : String

/-- How a call of `user32` ends: it answers with a nonzero value or with zero, or `ctypes` raises
`OSError`. -/
inductive ApiCall
  | succeeded
  | refused
  | raised
  deriving DecidableEq, Repr

/-- `sys.platform == "win32"`, and the handle of the window. -/
structure NativeWindow where
  isWindows : Bool
  hwnd : Nat

/-- How much of the window a capture still gets. -/
def DisplayAffinity.strength : DisplayAffinity → Nat
  | .none => 0
  | .monitor => 1
  | .excludeFromCapture => 2

/-- The affinity that a level reports. -/
def CaptureProtectionLevel.affinity : CaptureProtectionLevel → DisplayAffinity
  | .none => .none
  | .monitorBlackout => .monitor
  | .excludedFromCapture => .excludeFromCapture

namespace NativeWindow

/-- Windows, and a real handle. -/
def hasAffinity (window : NativeWindow) : Bool :=
  window.isWindows && window.hwnd != 0

/-- `SetWindowDisplayAffinity`; a call that does not succeed changes nothing. -/
def setWindowDisplayAffinity (call : ApiCall) (wanted before : DisplayAffinity) :
    DisplayAffinity :=
  match call with
  | .succeeded => wanted
  | .refused | .raised => before

/-- How the two calls of `apply_capture_protection` end, if they are made. -/
structure AffinityCalls where
  exclude : ApiCall
  monitor : ApiCall

/-- `apply_capture_protection`, with the affinity that it leaves. -/
def applyCaptureProtection (window : NativeWindow) (calls : AffinityCalls)
    (before : DisplayAffinity) : DisplayAffinity × CaptureProtectionResult :=
  if window.hasAffinity then
    match calls.exclude with
    | .succeeded =>
        (setWindowDisplayAffinity calls.exclude .excludeFromCapture before,
          ⟨.excludedFromCapture, "WDA_EXCLUDEFROMCAPTURE applied (requires Windows 10 2004+)"⟩)
    | .refused | .raised =>
        match calls.monitor with
        | .succeeded =>
            (setWindowDisplayAffinity calls.monitor .monitor before,
              ⟨.monitorBlackout, "WDA_EXCLUDEFROMCAPTURE unavailable; fell back to WDA_MONITOR " ++
                "(window will render as a black rectangle in captures)"⟩)
        | .refused | .raised =>
            (setWindowDisplayAffinity calls.monitor .monitor before,
              ⟨.none, "SetWindowDisplayAffinity unavailable"⟩)
  else (before, ⟨.none, "Not running on Windows, or no native window handle"⟩)

/-- `remove_capture_protection`. -/
def removeCaptureProtection (window : NativeWindow) (call : ApiCall) (before : DisplayAffinity) :
    DisplayAffinity :=
  if window.hasAffinity then setWindowDisplayAffinity call .none before else before

variable {window : NativeWindow} {calls : AffinityCalls} {before : DisplayAffinity}

theorem applyCaptureProtection_covers :
    let applied := window.applyCaptureProtection calls before
    applied.2.level.affinity.strength ≤ applied.1.strength := by
  unfold applyCaptureProtection
  split
  · cases calls.exclude with
    | succeeded => exact le_rfl
    | refused | raised =>
        cases calls.monitor with
        | succeeded => exact le_rfl
        | refused | raised => exact Nat.zero_le _
  · exact Nat.zero_le _

end NativeWindow

/-! ## The watcher -/

structure PrintScreenWatcher where
  wasDown : Bool := false
  isActive : Bool := false

namespace PrintScreenWatcher

def start (window : NativeWindow) (watcher : PrintScreenWatcher) : PrintScreenWatcher :=
  if window.isWindows then { wasDown := false, isActive := true } else watcher

def stop (watcher : PrintScreenWatcher) : PrintScreenWatcher :=
  { watcher with isActive := false }

/-- `_is_key_down`: the upper bit of what `GetAsyncKeyState` answers; there is no answer where it
raises. -/
def isKeyDown (window : NativeWindow) (answer : Option (BitVec 32)) : Bool :=
  window.isWindows && (match answer with
    | some state => state &&& 0x8000#32 != 0
    | none => false)

/-- `_poll` detects a press when the key goes down. -/
def detects (watcher : PrintScreenWatcher) (isDown : Bool) : Bool :=
  isDown && !watcher.wasDown

def polled (watcher : PrintScreenWatcher) (isDown : Bool) : PrintScreenWatcher :=
  { watcher with wasDown := isDown }

end PrintScreenWatcher

end CryptoUsb
