import GraphicsBuffer.Text.Hex
import GraphicsBuffer.Text.Unprintable
import GraphicsBuffer.Text.Quoted
import GraphicsBuffer.FlagSet
import GraphicsBuffer.Usage
import GraphicsBuffer.Arithmetic
import GraphicsBuffer.PixelFormat
import GraphicsBuffer.Kernel
import GraphicsBuffer.Descriptor.Wrapper
import GraphicsBuffer.Handle
import GraphicsBuffer.Handle.Wire
import GraphicsBuffer.Config
import GraphicsBuffer.Path
import GraphicsBuffer.FileTree
import GraphicsBuffer.DeviceNode
import GraphicsBuffer.Backend
import GraphicsBuffer.Backend.Faults
import GraphicsBuffer.Backend.System
import GraphicsBuffer.Backend.Trace
import GraphicsBuffer.BufferObject
import GraphicsBuffer.BufferObject.Lock
import GraphicsBuffer.World
import GraphicsBuffer.Kernel.Touch
import GraphicsBuffer.Session
import GraphicsBuffer.Session.Trial
import GraphicsBuffer.Backend.System.Bench
import GraphicsBuffer.Proofs.Run
import GraphicsBuffer.Proofs.Usage
import GraphicsBuffer.Proofs.Backend.Trace
import GraphicsBuffer.Proofs.BufferObject.Storage
import GraphicsBuffer.Proofs.BufferObject.Lock
import GraphicsBuffer.Proofs.BufferObject.Cycle
import GraphicsBuffer.Proofs.BufferObject.Count
import GraphicsBuffer.Proofs.World.Change
import GraphicsBuffer.Proofs.World.Evolution
import GraphicsBuffer.Proofs.World.Names
import GraphicsBuffer.Proofs.World.Undisturbed
import GraphicsBuffer.Proofs.Session.Effect
import GraphicsBuffer.Proofs.Session.Invariant
import GraphicsBuffer.Proofs.Session.LockState
import GraphicsBuffer.Proofs.Session.Resolution
import GraphicsBuffer.Proofs.Backend.System
import GraphicsBuffer.Proofs.Session.MappedRegion
import GraphicsBuffer.Proofs.Backend.Account
import GraphicsBuffer.Proofs.BufferObject.Account
import GraphicsBuffer.Proofs.World.Ledger
import GraphicsBuffer.Proofs.World.Operation
import GraphicsBuffer.Proofs.World.Ownership
import GraphicsBuffer.Proofs.World.Registration
import GraphicsBuffer.Proofs.Session.Balance
import GraphicsBuffer.Proofs.Backend.Pairing
import GraphicsBuffer.Proofs.World.Pairing
import GraphicsBuffer.Proofs.Backend.Stride
import GraphicsBuffer.Proofs.Session.Pairing
import GraphicsBuffer.Proofs.World.Stride
import GraphicsBuffer.Proofs.Session.Stride
import GraphicsBuffer.Proofs.Session.RunsThrough
import GraphicsBuffer.Proofs.World.Watch
import GraphicsBuffer.Proofs.Session.AbortedLock
import GraphicsBuffer.Proofs.Backend.Admission
import GraphicsBuffer.Proofs.Backend.History
import GraphicsBuffer.Proofs.World.History
import GraphicsBuffer.Proofs.Session.History
import GraphicsBuffer.Proofs.Session.FailedLock
import GraphicsBuffer.Proofs.World.Acts
import GraphicsBuffer.Proofs.Session.Exclusive
import GraphicsBuffer.Proofs.Session.Settled
import GraphicsBuffer.Proofs.BufferObject.Locality
import GraphicsBuffer.Proofs.Session.Portrait
import GraphicsBuffer.Proofs.Session.Site
import GraphicsBuffer.Proofs.Session.Plan
import GraphicsBuffer.Proofs.Session.Plan.Vacant
import GraphicsBuffer.Proofs.Session.Plan.Occupied
import GraphicsBuffer.Proofs.Session.Independence
import GraphicsBuffer.Proofs.Handle.Wire
import GraphicsBuffer.Proofs.Backend.Memory
import GraphicsBuffer.Proofs.Session.Descent
import GraphicsBuffer.Proofs.Session.RoundTrip
import GraphicsBuffer.Proofs.World.Bare
import GraphicsBuffer.Proofs.World.Cover
import GraphicsBuffer.Proofs.Kernel.Touch
import GraphicsBuffer.Proofs.Session.Housing
import GraphicsBuffer.Proofs.Session.Commons
import GraphicsBuffer.Proofs.Session.SharedMemory
import GraphicsBuffer.Proofs.Handle.Layout
import GraphicsBuffer.Proofs.Handle.RoundTrip
import GraphicsBuffer.Proofs.PixelFormat
import GraphicsBuffer.Proofs.Session.Arrival
import GraphicsBuffer.Proofs.Session.Permission
import GraphicsBuffer.Proofs.Backend.Image
import GraphicsBuffer.Proofs.BufferObject.Geometry
import GraphicsBuffer.Proofs.World.Spare
import GraphicsBuffer.Proofs.Session.Geometry
import GraphicsBuffer.Proofs.Session.LockTally
import GraphicsBuffer.Proofs.Session.Withdrawal
import GraphicsBuffer.Proofs.Session.Adoption
import GraphicsBuffer.Proofs.Session.CountLimit
import GraphicsBuffer.Proofs.Session.Allocation
import GraphicsBuffer.Proofs.Session.LockStep
import GraphicsBuffer.Proofs.Session.DeviceLock
import GraphicsBuffer.Proofs.BufferObject.Nesting
import GraphicsBuffer.Proofs.Session.Nesting
import GraphicsBuffer.Proofs.BufferObject.FirstLock
import GraphicsBuffer.Proofs.Session.Bounds
import GraphicsBuffer.Proofs.Backend.Construction
import GraphicsBuffer.Proofs.World.Creation
import GraphicsBuffer.Proofs.World.Linear
import GraphicsBuffer.Proofs.BufferObject.Description
import GraphicsBuffer.Proofs.Backend.Pixels
import GraphicsBuffer.Proofs.Backend.Size
import GraphicsBuffer.Proofs.World.BackendError
