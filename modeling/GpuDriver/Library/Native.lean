import GpuDriver.Library.EntryPoint
import GpuDriver.Library.Loader
import GpuDriver.Platform

/-!
# Calling the vendor's libraries

A native function takes arguments and returns a code; if the code is zero it has also written its
results. `DriverBinding.backend` and `NvrtcBinding.backend` say which function each call goes to, what
it is passed, and how what it wrote is read. A result that was not written is zero, null or empty.
-/

namespace GpuDriver.Library

/-- What a native function is passed. -/
inductive Argument
  /-- A number or a handle. -/
  | number (k : Int)
  /-- The address of octets. -/
  | octets (b : Bytes)
  /-- The null address. -/
  | null
  /-- The addresses of kernel arguments. -/
  | parameters (arguments : List Bytes)
  /-- The address of an option list. -/
  | options (options : List OptionWord)
deriving DecidableEq, Repr

/-- A call of a native function. -/
structure NativeCall where
  /-- The symbol that is called. -/
  symbol : String
  /-- What it is passed, results to be written apart. -/
  arguments : List Argument := []
deriving DecidableEq, Repr

/-- What a native function leaves. -/
structure NativeReply where
  /-- The code that it returned. -/
  code : Int
  /-- The numbers that it wrote. -/
  numbers : List Int := []
  /-- The octets that it wrote or pointed at. -/
  data : Option Bytes := none
deriving DecidableEq, Repr

/-- A library, as the replies that it gives. -/
abbrev Native (σ : Type) : Type := NativeCall → σ → NativeReply × σ

namespace NativeReply

/-- A signed number of 32 bits that was written. -/
def int32 (r : NativeReply) (i : Nat) : Int := ((r.numbers[i]?).getD 0).bmod 0x100000000

/-- An unsigned number of 64 bits that was written. -/
def word (r : NativeReply) (i : Nat) : Nat := (((r.numbers[i]?).getD 0) % 0x10000000000000000).toNat

/-- What was read from the results if the code is zero, else the status. -/
def outcome {α : Type} (r : NativeReply) (read : NativeReply → α) : Except Status α :=
  if r.code = 0 then .ok (read r) else .error ⟨r.code⟩

/-- What was read from the results if the code is zero, else the fault. -/
def nvrtcOutcome {α : Type} (r : NativeReply) (read : NativeReply → α) :
    Except Nvrtc.Fault α :=
  if r.code = 0 then .ok (read r) else .error (.code ⟨r.code⟩)

end NativeReply

/-- Octets up to the first NUL, as a function that is passed their address reads them. -/
def upToNul (b : Bytes) : Bytes := b.takeWhile (· != 0)

/-- A handle as an argument. -/
def handle (h : Handle) : Argument := .number h

variable {σ : Type}

/-! ### The driver -/

namespace DriverBinding

variable (b : DriverBinding) (native : Native σ)

/-- Calls an entry point. -/
def invoke {α : Type} (e : DriverEntry) (arguments : List Argument)
    (read : NativeReply → α) (s : σ) : Except Status α × σ :=
  match native ⟨b.symbol e, arguments⟩ s with
  | (r, s) => (r.outcome read, s)

/-- Asks for a text of a status, if the library has the function for it. -/
def statusText (present : Bool) (symbol : String) (status : Status) (s : σ) :
    Except Status (Option String) × σ :=
  if present then
    match native ⟨symbol, [.number status.code]⟩ s with
    | (r, s) => (r.outcome fun r => r.data.map fun d => Utf8.decodeLossy (upToNul d), s)
  else (.ok none, s)

/-- What a launch passes. -/
def launchArguments (r : LaunchRequest) : List Argument :=
  [handle r.function, .number r.config.grid.x, .number r.config.grid.y, .number r.config.grid.z,
    .number r.config.block.x, .number r.config.block.y, .number r.config.block.z,
    .number r.config.sharedBytes, .number r.config.stream,
    (r.parameters.map Argument.parameters).getD .null, (r.options.map Argument.options).getD .null]

/-- The answer to a call, from the entry point that it goes to. -/
def answer : (c : Driver.Call) → σ → c.Reply × σ
  | .init flags => b.invoke native .init [.number flags] fun _ => ()
  | .version => b.invoke native .driverGetVersion [] (·.int32 0)
  | .deviceCount => b.invoke native .deviceGetCount [] (·.int32 0)
  | .device ordinal => b.invoke native .deviceGet [.number ordinal] fun r => ⟨r.int32 0⟩
  | .deviceAttribute which d =>
    b.invoke native .deviceGetAttribute [.number which.code, .number d.ordinal] (·.int32 0)
  | .retainPrimary d => b.invoke native .primaryCtxRetain [.number d.ordinal] (·.word 0)
  | .releasePrimary d => b.invoke native .primaryCtxRelease [.number d.ordinal] fun _ => ()
  | .currentContext => b.invoke native .ctxGetCurrent [] (·.word 0)
  | .setCurrentContext c => b.invoke native .ctxSetCurrent [handle c] fun _ => ()
  | .currentDevice => b.invoke native .ctxGetDevice [] fun r => ⟨r.int32 0⟩
  | .createContext flags d =>
    b.invoke native .ctxCreate [.number flags, .number d.ordinal] (·.word 0)
  | .destroyContext c => b.invoke native .ctxDestroy [handle c] fun _ => ()
  | .createLink => b.invoke native .linkCreate [.number 0, .null, .null] (·.word 0)
  | .addLinkInput l kind data name =>
    b.invoke native .linkAddData
      [handle l, .number kind.code, .octets data, .number data.length, .octets (upToNul name),
        .number 0, .null, .null] fun _ => ()
  | .completeLink l => b.invoke native .linkComplete [handle l] fun r => r.data.getD []
  | .destroyLink l => b.invoke native .linkDestroy [handle l] fun _ => ()
  | .loadModule path => b.invoke native .moduleLoad [.octets (upToNul path)] (·.word 0)
  | .loadModuleData image => b.invoke native .moduleLoadData [.octets (upToNul image)] (·.word 0)
  | .unloadModule m => b.invoke native .moduleUnload [handle m] fun _ => ()
  | .function m name =>
    b.invoke native .moduleGetFunction [handle m, .octets (upToNul name)] (·.word 0)
  | .global m name =>
    b.invoke native .moduleGetGlobal [handle m, .octets (upToNul name)] fun r => ⟨r.word 0, r.word 1⟩
  | .launch r => b.invoke native .launchKernel (launchArguments r) fun _ => ()
  | .errorName status => statusText native b.namesErrors errorNameSymbol status
  | .errorText status => statusText native b.describesErrors errorTextSymbol status

/-- The driver in a library. -/
def backend : Driver.Backend σ := fun _ _ c s => b.answer native c s

end DriverBinding

/-! ### The runtime compiler -/

namespace NvrtcBinding

variable (b : NvrtcBinding) (native : Native σ)

/-- Calls an entry point. -/
def invoke {α : Type} (e : NvrtcEntry) (arguments : List Argument)
    (read : NativeReply → α) (s : σ) : Except Nvrtc.Fault α × σ :=
  match native ⟨e.symbol, arguments⟩ s with
  | (r, s) => (r.nvrtcOutcome read, s)

/-- What a buffer of `size` zeros holds after octets were copied to its start. -/
def filled (size : Nat) (data : Bytes) : Bytes :=
  data.take size ++ List.replicate (size - data.length) 0

/-- Octets without the NULs at their end. -/
def withoutFinalNuls (b : Bytes) : Bytes := (b.reverse.dropWhile (· == 0)).reverse

/-- Asks for a size and then for a text of that size. -/
def readText (size text : NvrtcEntry) (program : Handle) (s : σ) :
    Except Nvrtc.Fault Bytes × σ :=
  match invoke native size [handle program] (·.word 0) s with
  | (.error e, s) => (.error e, s)
  | (.ok 0, s) => (.ok [], s)
  | (.ok size, s) =>
    invoke native text [handle program]
      (fun r => withoutFinalNuls (filled size (r.data.getD []))) s

/-- Numbers that were copied to the start of `count` zeros. -/
def filledNumbers (count : Nat) (numbers : List Int) : List Int :=
  (numbers.take count).map (·.bmod 0x100000000) ++ List.replicate (count - numbers.length) 0

/-- Asks for the architectures, if the library tells them. -/
def architectures (s : σ) : Except Nvrtc.Fault (Option (List Int)) × σ :=
  if b.tellsArchitectures then
    match native ⟨architectureCountSymbol, []⟩ s with
    | (r, s) =>
      match r.nvrtcOutcome (·.int32 0) with
      | .error e => (.error e, s)
      | .ok count =>
        if count ≤ 0 then (.ok (some []), s)
        else match native ⟨architectureListSymbol, []⟩ s with
          | (r, s) => (r.nvrtcOutcome fun r => some (filledNumbers count.toNat r.numbers), s)
  else (.ok none, s)

/-- Asks for the name of a code, if the library has the function for it. That function has no code of
its own. -/
def codeName (code : Nvrtc.Code) (s : σ) : Except Nvrtc.Fault (Option String) × σ :=
  if b.namesCodes then
    match native ⟨codeNameSymbol, [.number code.value]⟩ s with
    | (r, s) => (.ok (r.data.map fun d => Utf8.decodeLossy (upToNul d)), s)
  else (.ok none, s)

/-- The options of a compilation as arguments. -/
def optionArguments (options : List Bytes) : List Argument :=
  if options.isEmpty then [.null] else options.map fun o => .octets (upToNul o)

/-- The answer to a call, from the entry point that it goes to. -/
def answer : (c : Nvrtc.Call) → σ → c.Reply × σ
  | .version => invoke native .version [] fun r => (r.int32 0, r.int32 1)
  | .architectures => b.architectures native
  | .create source name =>
    invoke native .createProgram
      [.octets (upToNul source), .octets (upToNul name), .number 0, .null, .null] (·.word 0)
  | .destroy program => invoke native .destroyProgram [handle program] fun _ => ()
  | .compile program options =>
    invoke native .compileProgram
      (handle program :: .number options.length :: optionArguments options) fun _ => ()
  | .ptx program => readText native .ptxSize .ptx program
  | .log program => fun s =>
    match readText native .logSize .log program s with
    | (r, s) => (r.map Utf8.decodeLossy, s)
  | .errorText code => b.codeName native code

/-- The runtime compiler in a library. -/
def backend : Nvrtc.Backend σ := fun c s => b.answer native c s

end NvrtcBinding

end GpuDriver.Library
