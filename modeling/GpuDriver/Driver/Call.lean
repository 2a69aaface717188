import GpuDriver.Device
import GpuDriver.Image
import GpuDriver.Launch.Extent
import GpuDriver.Launch.OptionList
import GpuDriver.Status

/-!
# Calls of the driver

Everything that a program asks of a driver is one of these calls. A call is answered with a value of
the type `Call.Value`, or with the status of its failure; nothing is translated on the way. Names and
paths are octets without a NUL.
-/

namespace GpuDriver

/-- A kernel to be launched. -/
structure LaunchRequest where
  /-- The kernel. -/
  function : Handle
  /-- How it is launched. -/
  config : LaunchConfig
  /-- The octets of each argument, if they are given one by one. -/
  parameters : Option (List Bytes)
  /-- The option list, if the arguments are given in a buffer. -/
  options : Option (List OptionWord)

/-- Where a variable of a module is, and how large it is. -/
structure Allocation where
  /-- Its first address. -/
  address : Address
  /-- The octets that it takes. -/
  bytes : Nat
deriving DecidableEq, Repr

namespace Driver

/-- A call of the driver. -/
inductive Call
  /-- Starts the driver. -/
  | init (flags : Nat)
  /-- Asks for the driver's version as one number. -/
  | version
  /-- Asks for the number of devices. -/
  | deviceCount
  /-- Asks for the device with an ordinal. -/
  | device (ordinal : Int)
  /-- Asks for an attribute of a device. -/
  | deviceAttribute (which : Attribute) (device : Device)
  /-- Retains the primary context of a device, creating it if need be. -/
  | retainPrimary (device : Device)
  /-- Gives up one retain of the primary context of a device. -/
  | releasePrimary (device : Device)
  /-- Asks for the current context of the calling thread; zero if there is none. -/
  | currentContext
  /-- Replaces the top of the calling thread's stack of contexts; zero takes it off. -/
  | setCurrentContext (context : Handle)
  /-- Asks for the device of the current context. -/
  | currentDevice
  /-- Creates a context and makes it current. -/
  | createContext (flags : Nat) (device : Device)
  /-- Destroys a context. -/
  | destroyContext (context : Handle)
  /-- Begins a link session. -/
  | createLink
  /-- Adds an image to a link session. -/
  | addLinkInput (link : Handle) (kind : ImageKind) (data name : Bytes)
  /-- Links what was added. -/
  | completeLink (link : Handle)
  /-- Ends a link session. -/
  | destroyLink (link : Handle)
  /-- Loads a module from a file. -/
  | loadModule (path : Path)
  /-- Loads a module from memory. -/
  | loadModuleData (image : Bytes)
  /-- Unloads a module. -/
  | unloadModule (module : Handle)
  /-- Looks up a kernel of a module. -/
  | function (module : Handle) (name : Bytes)
  /-- Looks up a variable of a module. -/
  | global (module : Handle) (name : Bytes)
  /-- Launches a kernel. -/
  | launch (request : LaunchRequest)
  /-- Asks for the symbolic name of a status. -/
  | errorName (status : Status)
  /-- Asks for the description of a status. -/
  | errorText (status : Status)

/-- What a call is answered with when it succeeds. A driver need not know a text for a status. -/
abbrev Call.Value : Call → Type
  | .version | .deviceCount | .deviceAttribute .. => Int
  | .device _ | .currentDevice => Device
  | .retainPrimary _ | .currentContext | .createContext .. | .createLink => Handle
  | .loadModule _ | .loadModuleData _ | .function .. => Handle
  | .completeLink _ => Bytes
  | .global .. => Allocation
  | .errorName _ | .errorText _ => Option String
  | _ => Unit

/-- The answer to a call. -/
abbrev Call.Reply (c : Call) : Type := Except Status c.Value

end Driver

end GpuDriver
