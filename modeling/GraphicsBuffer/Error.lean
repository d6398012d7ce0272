/-
  GraphicsBuffer.Error

  Why an operation did not do what was asked. An `Error` is a cause that a caller can handle; it
  has a message and a status class. An `Abort` is a broken assumption that ends the operation on
  the spot. `Outcome` is the answer of an operation that may meet either.
-/

import GraphicsBuffer.Errno
import GraphicsBuffer.Geometry
import GraphicsBuffer.Text.Quoted

namespace GraphicsBuffer

open Text (hexNumber quoted)

/-! ## Causes -/

/-- An operation of checked arithmetic. -/
inductive ArithmeticOp where
  | add
  | sub
  | mul
  | div
deriving DecidableEq

/-- The sign of an operation. -/
def ArithmeticOp.symbol : ArithmeticOp → String
  | .add => "+"
  | .sub => "-"
  | .mul => "*"
  | .div => "/"

/-- A named number in a computation. -/
structure Operand where
  name : String
  value : Nat
deriving DecidableEq

/-- A computation whose result does not fit its word. -/
structure ArithmeticFault where
  left : Operand
  op : ArithmeticOp
  right : Operand
deriving DecidableEq

/-- A failed input or output operation: the system's number, or words of its own. -/
inductive IoFault where
  | system (e : Errno)
  | custom (text : String)
deriving DecidableEq

/-- What an input or output failure says. -/
def IoFault.message : IoFault → String
  | .system e => e.withNumber
  | .custom text => text

/-- What is wrong with a flattened handle. -/
inductive HandleDefect where
  | wrongSize
  | badMagic
  | badLayout
  | other (text : String)
deriving DecidableEq

/-- What a defect of a flattened handle says. -/
def HandleDefect.message : HandleDefect → String
  | .wrongSize => "wrong handle size"
  | .badMagic => "bad magic"
  | .badLayout => "unexpected native handle layout"
  | .other text => text

/-- Why a buffer or a mapping of it cannot be made. -/
inductive MappingDefect where
  | zeroSizedBuffer
  | strideTooSmall
  | memoryTooSmall
  | outsideBuffer
  | noAccess
  | zeroSize
  | other (text : String)
deriving DecidableEq

/-- What a defect of a mapping request says. -/
def MappingDefect.message : MappingDefect → String
  | .zeroSizedBuffer => "zero sized buffer"
  | .strideTooSmall => "stride too small for width"
  | .memoryTooSmall => "imported memory is too small"
  | .outsideBuffer => "region outside of buffer"
  | .noAccess => "incorrect access flags"
  | .zeroSize => "zero size mapping"
  | .other text => text

/-- A cause of failure that a caller can handle. -/
inductive Error where
  /-- The allocator refused to make a buffer of this logical size, format code and usage. -/
  | allocationFailed (size : Extent) (format usage : UInt32)
  /-- The buffer has this many locks outstanding and cannot be released. -/
  | bufferLocked (count : UInt32)
  /-- A size or coordinate does not fit its word. -/
  | arithmetic (fault : ArithmeticFault)
  /-- The device node opened, but no allocator could be made on it. -/
  | deviceCreateFailed (path : List UInt8)
  /-- The device node could not be opened. -/
  | deviceOpenFailed (path : List UInt8) (cause : IoFault)
  /-- A mapping is active and a second one was asked for. -/
  | doubleMapping
  /-- The allocator refused to wrap the memory of a handle. -/
  | importFailed (size : Extent) (format : UInt32)
  /-- A nested lock asked for usage that the buffer is not locked for. -/
  | incompatibleLock (lockedFor requested : UInt32)
  /-- The bytes are no flattened handle. -/
  | invalidHandle (defect : HandleDefect)
  /-- The allocator cannot satisfy a request. -/
  | invalidMapping (defect : MappingDefect)
  /-- An input or output operation failed. -/
  | io (fault : IoFault)
  /-- The buffer could not be mapped. -/
  | mappingFailed
  /-- The handle carries no descriptor. -/
  | missingDescriptor
  /-- A system call failed. -/
  | system (e : Errno)
  /-- The handle stands for no buffer of this manager. -/
  | notRegistered
  /-- A name holds a zero byte at this position. -/
  | zeroByte (position : Nat)
  /-- A number does not fit the type that it is converted to. -/
  | conversion
  /-- The pixel format has no form that an allocator knows. -/
  | unsupportedFormat (code : UInt32)
  /-- The lock asks for usage that the buffer was not allocated for. -/
  | usageNotPermitted (allowed requested : UInt32)
deriving DecidableEq

namespace Error

/-- What an error says. -/
def message : Error → String
  | .allocationFailed size format usage =>
    s!"failed to create bo, size={size.width}x{size.height}, fmt={hexNumber format.toNat}, " ++
      s!"usage={hexNumber usage.toNat}"
  | .bufferLocked count => s!"buffer is locked {count} time(s)"
  | .arithmetic ⟨left, op, right⟩ =>
    s!"arithmetic failed: {left.name}({left.value}) {op.symbol} {right.name}({right.value})"
  | .deviceCreateFailed path => s!"failed to create gbm device on {quoted path}"
  | .deviceOpenFailed path cause => s!"failed to open {quoted path}: {cause.message}"
  | .doubleMapping => "buffer is already mapped"
  | .importFailed size format =>
    s!"failed to import bo, size={size.width}x{size.height}, fmt={hexNumber format.toNat}"
  | .incompatibleLock lockedFor requested =>
    s!"buffer locked for {hexNumber lockedFor.toNat}, can not lock for {hexNumber requested.toNat}"
  | .invalidHandle defect => s!"invalid buffer handle: {defect.message}"
  | .invalidMapping defect => s!"invalid mapping: {defect.message}"
  | .io fault => s!"an input/output error occur: {fault.message}"
  | .mappingFailed => "failed to map buffer object"
  | .missingDescriptor => "buffer handle carries no prime fd"
  | .system e => s!"The errno is {e.withName}"
  | .notRegistered => "buffer handle is not registered in this process"
  | .zeroByte position =>
    s!"Nul Error occured nul byte found in provided data at position: {position}"
  | .conversion => "int conversion failed: number too large to fit in target type"
  | .unsupportedFormat code => s!"unsupported pixel format {hexNumber code.toNat}"
  | .usageNotPermitted allowed requested =>
    s!"bo.usage:{hexNumber allowed.toNat}/usage:{hexNumber requested.toNat} " ++
      "is not HW_FB or HW_TEXTURE"

end Error

/-! ## Status classes -/

/-- The classes of failure for callers that know only status codes. -/
inductive Status where
  | invalidArgument
  | outOfMemory
  | allocationFailed
  | deviceOpenFailed
deriving DecidableEq

/-- The negative status code of a class. -/
def Status.code : Status → Int
  | .invalidArgument => -22
  | .outOfMemory => -12
  | .allocationFailed => -12
  | .deviceOpenFailed => -19

/-- Misuse is an invalid argument, a mapping that could not be made is out of memory, a device
    that could not be opened says so, and all else counts as a failed allocation. -/
def Error.status : Error → Status
  | .bufferLocked _ | .doubleMapping | .incompatibleLock _ _ | .invalidHandle _
  | .invalidMapping _ | .missingDescriptor | .notRegistered | .usageNotPermitted _ _ =>
    .invalidArgument
  | .mappingFailed => .outOfMemory
  | .deviceCreateFailed _ | .deviceOpenFailed _ _ => .deviceOpenFailed
  | .allocationFailed _ _ _ | .arithmetic _ | .importFailed _ _ | .io _ | .system _
  | .zeroByte _ | .conversion | .unsupportedFormat _ => .allocationFailed

/-! ## Aborts and outcomes -/

/-- A broken assumption that ends an operation on the spot. -/
inductive Abort where
  /-- A mapping has rows of another length than the handle says. -/
  | strideMismatch
  /-- A size has no page boundary above it that fits 64 bits. -/
  | alignmentOverflow
deriving DecidableEq

/-- What an abort says. -/
def Abort.message : Abort → String
  | .strideMismatch => "mapped stride differs from allocated stride"
  | .alignmentOverflow => "address overflow when aligning address upwards"

/-- Why an operation has no value. -/
inductive Failure where
  | error (e : Error)
  | abort (a : Abort)
deriving DecidableEq

/-- The answer of an operation. -/
abbrev Outcome (α : Type) := Except Failure α

end GraphicsBuffer
