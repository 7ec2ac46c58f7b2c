import Framecast.Proofs.Encoder.Bound
import Framecast.Script.Cast

/-!
# A session to try

A session for small frames whose collaborators refuse nothing, the builder that starts it, and a
frame that it takes.
-/

namespace Framecast

/-- A builder whose driver and encoder library refuse nothing. Its container counts nanoseconds. -/
def sampleBuilder : SessionBuilder ScriptedEncoder MemoryContainer :=
  { driver := Script.driver .null
    backend := Script.backend .null
    container := { muxerTimeBase := some .nanosecond }
    config := {} }

/-- The session that it starts for small frames. -/
def sampleSession : Session ScriptedEncoder MemoryContainer :=
  let config := (sampleBuilder.request 64 48).plan "h264_nvenc"
  { container :=
      { sampleBuilder.container with
        streams := #[config.streamSpec none]
        lastDts := #[none]
        headerWritten := true }
    stream := ⟨0, .microsecond, ⟨60, 1⟩⟩
    drain := {}
    bound :=
      { encoder := { name := "h264_nvenc" }
        pool := ⟨config.poolShape .bgr0, .cuda, ⟨sampleBuilder.driver, ⟨0⟩, ⟨4096⟩, 0⟩⟩
        config
        flushed := false
        framesSent := 0 }
    lastPts := none
    started := ⟨0⟩ }

/-- It does start that session. -/
theorem sampleBuilder_starts :
    (sampleBuilder.start 64 48 .bgra ⟨0⟩).value = .session sampleSession :=
  rfl

/-- A small frame, taken so long after capture started. -/
def sampleFrame (sinceStart : Duration) : CapturedFrame :=
  { address := 4096
    pitch := 256
    width := 64
    height := 48
    format := .bgra
    isNew := true
    timestamp := ⟨⟨0⟩, sinceStart⟩
    sequence := 0 }

end Framecast
