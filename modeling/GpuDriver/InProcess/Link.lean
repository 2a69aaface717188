import GpuDriver.InProcess.State

/-!
# Link sessions of the in-process driver

A session collects PTX texts and joins them to one, provided that no two define a kernel of the same
name. Joining changes nothing, so that more can be added and joined again.
-/

namespace GpuDriver.InProcess.State

/-- Begins a link session. -/
def createLink (s : State) (t : ThreadId) : Except Status Handle × State :=
  s.provided (s.current t) fun _ =>
    let l := s.withHandle.lastHandle
    (.ok l, { s.withHandle with links := s.links.insert l [] })

/-- What is wrong with an image of a kind that holds no module. -/
def malformed : ImageKind → Status
  | .ptx => .invalidPtx
  | _ => .invalidImage

/-- Adds an image to a session. -/
def addLinkInput (s : State) (l : Handle) (kind : ImageKind) (data name : Bytes) :
    Except Status Unit × State :=
  s.provided (s.link l) fun inputs =>
    if data.isEmpty then (.error .invalidValue, s)
    else match imageText? data with
      | none => (.error (malformed kind), s)
      | some text =>
        if Ptx.isModule text then
          (.ok (), { s with
            links := s.links.insert l (inputs ++ [⟨kind, Utf8.decodeLossy name, text⟩]) })
        else (.error (malformed kind), s)

/-- The kernels that the inputs define, in order. -/
def linkedEntries (inputs : List LinkInput) : List String :=
  inputs.flatMap fun input => (Ptx.symbols input.text).entries

/-- The text that the inputs are joined to: each followed by a line feed. -/
def linkedText (inputs : List LinkInput) : String :=
  String.join (inputs.map fun input => input.text ++ "\n")

/-- Joins what a session has collected. -/
def completeLink (s : State) (l : Handle) : Except Status Bytes := do
  let inputs ← s.link l
  if inputs.isEmpty then .error .invalidValue
  else if (linkedEntries inputs).Nodup then return Utf8.encode (linkedText inputs)
  else .error .invalidImage

/-- Ends a link session. -/
def destroyLink (s : State) (l : Handle) : Except Status Unit × State :=
  s.provided (s.link l) fun _ => (.ok (), { s with links := s.links.erase l })

end GpuDriver.InProcess.State
