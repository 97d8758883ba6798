import FirmwareAgent.Error
import FirmwareAgent.Wire.Message

/-!
# Scripted targets

A script says how the targets of a rehearsal behave. A request is answered by the first entry that
fits its command and its endpoint and is not used up. The target may first put requests of its own
to the session, one after another, then takes its time, and then answers, fails, or stays silent. A
request that no entry fits is accepted at once.
-/

namespace FirmwareAgent

/-- The header fields of an answer that differ from those of the request. -/
structure HeaderChange where
  command : Option UInt8 := none
  pldmType : Option UInt8 := none
  instanceId : Option InstanceId := none
  deriving DecidableEq, Repr

/-- How a target deals with a request in the end. -/
inductive Ending
  /-- It never answers. -/
  | hang
  /-- The request cannot be delivered, or the answer gets lost. -/
  | fail (error : UpdateError)
  /-- It answers. Without a body the answer has the one that suits the command. -/
  | answer (completionCode : UInt8) (body : Option Bytes) (change : HeaderChange)
  deriving DecidableEq, Repr

/-- How a target behaves when it gets a request. -/
structure Behaviour where
  /-- The requests that the target puts to the session first. -/
  pulls : List Request := []
  /-- Milliseconds until the ending, which count as thirty years at most. -/
  delay : Nat := 0
  ending : Ending := .answer CompletionCode.success none {}
  deriving DecidableEq, Repr

/-- A behaviour and the requests it is for. -/
structure ScriptEntry where
  command : UInt8
  /-- The endpoint it is for, or all of them. -/
  endpoint : Option EndpointId := none
  /-- How often it can still be used, or without limit. -/
  times : Option Nat := none
  behaviour : Behaviour
  deriving DecidableEq, Repr

/-- The entries of a script, in the order in which they are tried. -/
abbrev Script := List ScriptEntry

namespace ScriptEntry

def fits (entry : ScriptEntry) (endpoint : EndpointId) (request : Request) : Bool :=
  entry.command == request.command && entry.endpoint.all (· == endpoint)
    && entry.times != some 0

/-- The entry after one use. -/
def used (entry : ScriptEntry) : ScriptEntry :=
  { entry with times := entry.times.map (· - 1) }

end ScriptEntry

/-- The behaviour for a request, and the script after its use. -/
def Script.pick (endpoint : EndpointId) (request : Request) : Script → Behaviour × Script
  | [] => ({}, [])
  | entry :: entries =>
    if entry.fits endpoint request then (entry.behaviour, entry.used :: entries)
    else
      let (behaviour, entries) := Script.pick endpoint request entries
      (behaviour, entry :: entries)

/-- The body of a successful answer to a command of the agent. -/
def standardBody (command : UInt8) : Bytes :=
  match Command.ofCode? command with
  | some .requestUpdate => [0, 0, 0]
  | some .passComponentTable => [0, 0]
  | some .updateComponent => List.replicate 8 0
  | some .activateFirmware => [0x1E, 0]
  | some .cancelUpdate => List.replicate 9 0
  | _ => []

/-- The outcome of a request whose target comes to an ending, if it ever does. -/
def Ending.outcome? (request : Request) : Ending → Option (Except UpdateError Response)
  | .hang => none
  | .fail error => some (.error error)
  | .answer completionCode body change =>
    let standard :=
      if completionCode == CompletionCode.success then standardBody request.command else []
    some (.ok {
      instanceId := change.instanceId.getD request.instanceId
      pldmType := change.pldmType.getD request.pldmType
      command := change.command.getD request.command
      completionCode := completionCode
      body := body.getD standard })

end FirmwareAgent
