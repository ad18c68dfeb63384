import GuiTest.Files.Disk
import GuiTest.Json.Decode
import GuiTest.Json.Printer
import GuiTest.Waiting.Retry

/-!
# Timing settings

How long tests wait is kept in a file of JSON. What the file does not say has its standard value; a
file that says something wrong says nothing.
-/

namespace GuiTest

/-- How long to wait, in milliseconds, and how often to retry. -/
structure TimingSettings where
  pollInterval : UInt64 := 500
  defaultTimeout : UInt64 := 20000
  settleTimeout : UInt64 := 2000
  backoff : UInt64 := 1000
  maxCycles : UInt32 := 20
  deriving DecidableEq, Repr

namespace TimingSettings

/-- The options of a plain wait. -/
def waitOptions (t : TimingSettings) : WaitOptions :=
  ⟨t.defaultTimeout.toNat * nanosPerMilli, t.pollInterval.toNat * nanosPerMilli⟩

/-- The options of a repeated action. -/
def retryOptions (t : TimingSettings) : RetryOptions where
  settle := ⟨t.settleTimeout.toNat * nanosPerMilli, RetryOptions.standard.settle.interval⟩
  backoff := t.backoff.toNat * nanosPerMilli
  maxCycles := t.maxCycles.toNat

open Json

/-- The member names of the settings, in order. -/
def memberNames : List String :=
  ["poll_interval_ms", "default_timeout_ms", "settle_timeout_ms", "backoff_ms", "max_cycles"]

/-- The JSON value of the settings. -/
def toJson (t : TimingSettings) : Value :=
  .record
    [("poll_interval_ms", .nat t.pollInterval.toNat),
     ("default_timeout_ms", .nat t.defaultTimeout.toNat),
     ("settle_timeout_ms", .nat t.settleTimeout.toNat),
     ("backoff_ms", .nat t.backoff.toNat), ("max_cycles", .nat t.maxCycles.toNat)]

/-- Reads settings. -/
def decode : Decode TimingSettings := Decode.record memberNames false fun fields depth => do
  let standard : TimingSettings := {}
  return {
    pollInterval := ←
      fields.optional "poll_interval_ms" Decode.uint64 standard.pollInterval depth
    defaultTimeout := ←
      fields.optional "default_timeout_ms" Decode.uint64 standard.defaultTimeout depth
    settleTimeout := ←
      fields.optional "settle_timeout_ms" Decode.uint64 standard.settleTimeout depth
    backoff := ← fields.optional "backoff_ms" Decode.uint64 standard.backoff depth
    maxCycles := ← fields.optional "max_cycles" Decode.uint32 standard.maxCycles depth
  }

/-- The settings that a file says, if there is one. -/
def load (file : Option String) : TimingSettings := (file.bind decode.run).getD {}

/-- The file that says the settings. -/
def save (t : TimingSettings) : String := t.toJson.pretty

/-- Loads the settings from the file of a path. -/
def loadFrom {m : Type → Type} [Monad m] (files : FileAccess m) (p : Path) : m TimingSettings :=
  return load (← files.readText p).toOption

/-- Writes the settings to the file of a path, if it can be written. -/
def saveTo? (t : TimingSettings) (d : Disk) (p : Path) : Option Disk :=
  if p.readable then d.writeBytes? p.text t.save.toUTF8.data.toList else none

end TimingSettings

end GuiTest
