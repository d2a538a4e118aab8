/-
  Kelpie.Slice.Reads

  What the operations over the store share: their errors with the texts of
  notices, the clear commands of the backends, and the reads that decide when a
  prompt may follow a clear.
-/

import Kelpie.Herdr.Exec
import Kelpie.Store.Calls

namespace Kelpie

open Lib Lib.Tx

-- ============================================================================
-- Errors
-- ============================================================================

/-- Failures of an operation that a renew or a prompt may end with. -/
inductive SliceError where
  | store (error : StoreError)
  | herdr (error : HerdrError)
  | unknownOutcome (operationId : String) (source : HerdrError)
  | unsupportedBackend (backendKind : String)
deriving DecidableEq, Repr

/-- The debug text of a duration of whole milliseconds. -/
def durationText (millis : Nat) : String :=
  if millis = 0 then "0ns"
  else if millis < 1000 then s!"{millis}ms"
  else if millis % 1000 = 0 then s!"{millis / 1000}s"
  else if millis % 100 = 0 then s!"{millis / 1000}.{millis % 1000 / 100}s"
  else if millis % 10 = 0 then
    let hundredths := millis % 1000 / 10
    s!"{millis / 1000}.{hundredths / 10}{hundredths % 10}s"
  else
    let rest := millis % 1000
    s!"{millis / 1000}.{rest / 100}{rest / 10 % 10}{rest % 10}s"

/-- The text of the error, as it is displayed. -/
def HerdrError.text : HerdrError → String
  | .unavailable _ message => s!"Herdr is unavailable: {message}"
  | .malformed message => s!"Herdr response was malformed: {message}"
  | .rejected code message => s!"Herdr rejected the request with {code}: {message}"
  | .incompatible actual supported =>
    s!"Herdr protocol {actual} is incompatible; supported protocol is {supported}. " ++
      "Install Herdr 0.9.0 or newer, which negotiates a stable endpoint contract instead"
  | .incompatibleEndpoint actual supported =>
    s!"Herdr endpoint generation {actual} is incompatible; " ++
      s!"Kelpie speaks generation {supported}"
  | .unexpected message => s!"Herdr returned unexpected result type {message}"
  | .readinessTimeout millis =>
    s!"Herdr did not prove agent readiness before the {durationText millis} deadline"

/-- The daemon's settings, with the texts that the database gives its own failures. -/
structure SliceConfig where
  promptSettleDelayMs : Millis
  sqlText : SqlError → String

/-- `PROMPT_SETTLE_DELAY_MS`. -/
def promptSettleDelayMs : Millis := 5000

/-- The settings of a daemon, for runs on fixed inputs. -/
def plainConfig : SliceConfig := { promptSettleDelayMs, sqlText := fun _ => "constraint failed" }

variable (config : SliceConfig)

/-- The text of an error of the store, as it is displayed. -/
def SliceConfig.storeText : StoreError → String
  | .sql e => s!"durable store failed: {config.sqlText e}"
  | .invalidRecord message => s!"durable record is invalid: {message}"
  | .conflict message => s!"coordination conflict: {message}"

/-- The text of the error, as it is displayed. -/
def SliceConfig.errorText : SliceError → String
  | .store error => config.storeText error
  | .herdr error => error.text
  | .unknownOutcome operationId source =>
    s!"Herdr outcome is unknown for operation {operationId}: {source.text}"
  | .unsupportedBackend backendKind =>
    s!"no clear command is defined for backend kind {backendKind}"

/-- Human-readable duration, coarsest two units, never negative. -/
def formatDurationMs (ms : Millis) : String :=
  if ms < 0 then "0s"
  else
    let seconds := ms / 1000
    let minutes := ms / 60000
    let hours := ms / 3600000
    let days := ms / 86400000
    if 0 < days then s!"{days}d{hours % 24}h"
    else if 0 < hours then s!"{hours}h{minutes % 60}m"
    else if 0 < minutes then s!"{minutes}m{seconds % 60}s"
    else s!"{seconds}s"

-- ============================================================================
-- Clear commands
-- ============================================================================

/-- When a cleared backend's replacement conversation becomes observable. -/
inductive RotationTiming where
  | onClear
  /-- The backend allocates its replacement conversation on the next prompt. -/
  | onNextPrompt
deriving DecidableEq, Repr

/-- One backend's verified clear behaviour. -/
structure ClearProtocol where
  command : String
  rotation : RotationTiming
deriving DecidableEq, Repr

/-- How an agent of the backend is cleared, and when its session rotates. -/
def clearProtocolFor (backendKind : String) : Option ClearProtocol :=
  if backendKind = "claude" ∨ backendKind = "codex" then
    some { command := "/clear", rotation := .onClear }
  else if backendKind = "grok" ∨ backendKind = "pi" then
    some { command := "/new", rotation := .onClear }
  else if backendKind = "opencode" then some { command := "/clear", rotation := .onNextPrompt }
  else none

-- ============================================================================
-- Reads
-- ============================================================================

/-- The name under which an agent is reported. -/
def agentAddress (agent : LogicalAgentId) : Query String := fun s =>
  match s.logicalAgents.find agent with
  | some a => .ok a.publicName
  | none => .error (.sql .queryReturnedNoRows)

/-- The backend of an incarnation. -/
def incarnationBackendKind (incarnationId : IncarnationId) : Query String := fun s =>
  match s.incarnations.find incarnationId with
  | some i => .ok i.backendKind
  | none => .error (.conflict "incarnation is absent")

/-- The pane of `ready_binding`, the exact binding of a Ready incarnation. -/
def readyPane (incarnationId : IncarnationId) : Query String := fun s =>
  match (s.incarnations.find incarnationId).filter (·.state = .ready) with
  | none => .error (.conflict "incarnation has no exact ready binding")
  | some i =>
    match i.observedPaneId, i.observedTerminalId with
    | some paneId, some _ => .ok paneId
    | _, _ => .error (.sql .invalidColumnType)

/-- The latest standalone-clear event that requires prompt spacing. -/
def Store.lastClearSpacingAtMs (s : Store) (incarnationId : IncarnationId) : Option Millis :=
  let clears := s.operations.rows.filter fun o =>
    o.kind = .clear ∧ o.targetIncarnationId = incarnationId
  let succeeded := (clears.filter (·.outcome = .succeeded)).filterMap (·.resolvedAtMs)
  let unknown := (clears.filter (·.outcome = .unknown)).flatMap fun o =>
    (s.operationAttempts.rows.filter fun a =>
      a.operationId = o.id ∧ a.phase ≠ .prepared).map (·.startedAtMs)
  (succeeded ++ unknown).max?

/-- `prompt_spacing_active`. -/
def Store.PromptSpacingActive (s : Store) (incarnationId : IncarnationId) (nowMs : Millis) :
    Prop :=
  ∃ atMs ∈ s.lastClearSpacingAtMs incarnationId,
    nowMs < saturatingAdd atMs config.promptSettleDelayMs

instance (s : Store) (incarnationId : IncarnationId) (nowMs : Millis) :
    Decidable (s.PromptSpacingActive config incarnationId nowMs) := by
  unfold Store.PromptSpacingActive
  infer_instance

/-- An attribute of an envelope, which must be safe without quotes. -/
def validatedAttr (name value : String) : Except StoreError String :=
  if value = "" then .error (.invalidRecord "envelope attribute is empty")
  else if value.toList.all fun c =>
      c.isAlphanum || ['-', '_', '.', ':', '/'].contains c then .ok value
  else .error (.invalidRecord s!"envelope attribute value is not safe unquoted: {name}={value}")

end Kelpie
