/-
  GraphicsBuffer.DeviceNode

  Opening device nodes by path, for reading and writing, and asking what is open for the name of
  the graphics driver behind it. Whatever goes wrong with a path, the error names the path
  (`openPath_error`).
-/

import GraphicsBuffer.FileTree
import GraphicsBuffer.Kernel

namespace GraphicsBuffer

theorem Kernel.zeroByte?_eq_none_iff {name : List UInt8} : zeroByte? name = none ↔ 0 ∉ name := by
  simp only [zeroByte?, List.findIdx?_eq_none_iff, decide_eq_false_iff_not]
  exact ⟨fun h h_zero => h 0 h_zero rfl, fun h _ h_mem h_zero => h (h_zero ▸ h_mem)⟩

/-- An open device node: it is closed in programs that the process starts, and it can be read and
    written. -/
structure DeviceNode where
  /-- The answer to the question for a driver. -/
  driver : Except Errno (List UInt8)
  closeOnExec : Bool := true
  readWrite : Bool := true

namespace DeviceNode

/-- Opens what a path leads to for reading and writing. -/
def openEntry : FileTree.Entry → Except Errno DeviceNode
  | .directory _ _ => .error .isDirectory
  | .node driver => .ok { driver }
  | .guarded refusal => .error refusal
  | .link _ | .jump _ | .workingLink => .error .tooManyLinks

/-- Opens a device node for reading and writing. -/
def openPath (files : FileTree) (path : List UInt8) : Except Error DeviceNode :=
  if 0 ∈ path then
    .error (.deviceOpenFailed path (.custom "file name contained an unexpected NUL byte"))
  else
    match files.resolve path >>= openEntry with
    | .error e => .error (.deviceOpenFailed path (.system e))
    | .ok node => .ok node

/-- The name of the driver behind a node, in bytes. One with a zero byte is refused. -/
def driverName (node : DeviceNode) : Except Error (List UInt8) :=
  match node.driver with
  | .error e => .error (.system e)
  | .ok name =>
    match Kernel.zeroByte? name with
    | some position => .error (.zeroByte position)
    | none => .ok name

variable {files : FileTree} {path : List UInt8} {node : DeviceNode}

theorem openEntry_eq_ok_iff {entry : FileTree.Entry} :
    openEntry entry = .ok node ↔ ∃ driver, entry = .node driver ∧ node = { driver } := by
  cases entry <;> simp [openEntry, eq_comm]

theorem driverName_eq_ok_iff {name : List UInt8} :
    node.driverName = .ok name ↔ node.driver = .ok name ∧ 0 ∉ name := by
  unfold driverName
  rcases h_driver : node.driver with e | answer
  · simp
  rcases h_zero : Kernel.zeroByte? answer with _ | position
  · have h_none := Kernel.zeroByte?_eq_none_iff.mp h_zero
    simp only [h_zero, Except.ok.injEq]
    constructor
    · rintro rfl
      exact ⟨rfl, h_none⟩
    · exact And.left
  · simp only [h_zero, Except.ok.injEq]
    constructor
    · exact nofun
    · rintro ⟨rfl, h_none⟩
      rw [Kernel.zeroByte?_eq_none_iff.mpr h_none] at h_zero
      cases h_zero

/-- Opening fails in one class only, and the error names the path. -/
theorem openPath_error {e : Error} (h : openPath files path = .error e) :
    (∃ cause, e = .deviceOpenFailed path cause) ∧ e.status = .deviceOpenFailed := by
  unfold openPath at h
  by_cases h_zero : 0 ∈ path
  · rw [if_pos h_zero] at h
    cases h
    exact ⟨⟨_, rfl⟩, rfl⟩
  rw [if_neg h_zero] at h
  rcases h_open : files.resolve path >>= openEntry with cause | node
  · rw [h_open] at h
    cases h
    exact ⟨⟨_, rfl⟩, rfl⟩
  · rw [h_open] at h
    cases h

/-- A path is opened exactly if it has no zero byte and leads to something that can be written. What
    is open is then not handed on to other programs. -/
theorem openPath_eq_ok_iff : openPath files path = .ok node ↔
    0 ∉ path ∧ ∃ driver, files.resolve path = .ok (.node driver) ∧ node = { driver } := by
  unfold openPath
  by_cases h_zero : 0 ∈ path
  · simp [h_zero]
  rcases h_resolve : files.resolve path with e | entry
  · simp [h_zero, bind, Except.bind]
  rcases h_open : openEntry entry with e | opened
  · have h_other : ∀ driver, entry ≠ .node driver := by
      rintro driver rfl
      cases h_open
    simp [h_zero, bind, Except.bind, h_open, h_other]
  · obtain ⟨driver, rfl, rfl⟩ := openEntry_eq_ok_iff.mp h_open
    simp [h_zero, bind, Except.bind, h_open, eq_comm]

end DeviceNode

/-- The name of the driver behind a descriptor. No memory, pipe or null device has one. -/
def Descriptor.driverName : Descriptor → Except Error (List UInt8)
  | .closed => .error (.system .badDescriptor)
  | .memory _ | .nullDevice | .pipe => .error (.system .notTerminal)

end GraphicsBuffer
