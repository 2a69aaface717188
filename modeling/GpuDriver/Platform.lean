import GpuDriver.Command
import GpuDriver.Driver.Call
import GpuDriver.Error
import GpuDriver.Nvrtc.Call
import GpuDriver.World

/-!
# Platforms

A platform is what the library runs on: an operating system, a driver and a runtime compiler. The native
libraries may be the vendor's or a stand-in; the library only sees calls and answers. The state of both
is a single value, so that two of them can share it.
-/

namespace GpuDriver

/-- A driver, as the answers that it gives. -/
abbrev Driver.Backend (σ : Type) : Type :=
  ThreadId → FileTree → (c : Driver.Call) → σ → c.Reply × σ

/-- A runtime compiler, as the answers that it gives. -/
abbrev Nvrtc.Backend (σ : Type) : Type := (c : Nvrtc.Call) → σ → c.Reply × σ

/-- What is done for the library outside of it, in the files that there are. -/
structure System where
  /-- Runs a command, unless the operating system refuses to start it. -/
  run : Command → FileTree → Except IoError (Finished × FileTree)
  /-- Makes a directory for a time in the directory at a path; its own path. -/
  makeTemporary : Path → FileTree → Except IoError (Path × FileTree)

/-- A system without programs, on which no directory can be made. -/
def System.bare : System where
  run _ _ := .error .notFound
  makeTemporary _ _ := .error .notFound

/-- What the library runs on. -/
structure Platform (σ : Type) extends System where
  /-- The driver. -/
  driver : Driver.Backend σ
  /-- The runtime compiler. -/
  nvrtc : Nvrtc.Backend σ

namespace Platform

variable {σ : Type} (p : Platform σ)

/-- The driver's answer to a call made on a thread. -/
def ask (t : ThreadId) (c : Driver.Call) (w : World σ) : c.Reply × World σ :=
  match p.driver t w.files c w.native with
  | (reply, native) => (reply, { w with native })

/-- The driver's own name and description for a status; the library's where the driver has none. -/
def describe (t : ThreadId) (s : Status) (w : World σ) : CallError × World σ :=
  match p.ask t (.errorName s) w with
  | (name, w) =>
    match p.ask t (.errorText s) w with
    | (text, w) =>
      (⟨s, (name.toOption.bind id).getD s.name, (text.toOption.bind id).getD s.description⟩, w)

/-- A call of the driver, with the driver's texts if it fails. -/
def call (t : ThreadId) (c : Driver.Call) : Act σ CallError c.Value := fun w =>
  match p.ask t c w with
  | (.ok value, w) => (.ok value, w)
  | (.error s, w) =>
    match p.describe t s w with
    | (e, w) => (.error e, w)

/-- The runtime compiler's answer to a call. -/
def askNvrtc (c : Nvrtc.Call) (w : World σ) : c.Reply × World σ :=
  match p.nvrtc c w.native with
  | (reply, native) => (reply, { w with native })

/-- The error of a code, with the runtime compiler's own name for it if it has one. -/
def describeCode (c : Nvrtc.Code) (w : World σ) : Nvrtc.Error × World σ :=
  match p.askNvrtc (.errorText c) w with
  | (name, w) => (.call c ((name.toOption.bind id).getD c.name), w)

/-- A call of the runtime compiler, with the compiler's name for the code if it fails. -/
def callNvrtc (c : Nvrtc.Call) : Act σ Nvrtc.Error c.Value := fun w =>
  match p.askNvrtc c w with
  | (.ok value, w) => (.ok value, w)
  | (.error .crash, w) => (.error .crash, w)
  | (.error (.code code), w) =>
    match p.describeCode code w with
    | (e, w) => (.error e, w)

/-- Runs a command. A NUL in any part of it is refused before the operating system is asked. -/
def runCommand (c : Command) : Act σ IoError Finished := fun w =>
  if c.holdsNul then (.error .nulInArgument, w)
  else match p.run c w.files with
    | .error e => (.error e, w)
    | .ok (finished, files) => (.ok finished, { w with files })

end Platform

end GpuDriver
