import Framecast.Journal

/-!
# Publishing a stream

A stream is registered with the container under the parameters of its encoder. The container has to
give it the next index.
-/

namespace Framecast

open Journaled

variable {κ : Type} [Container κ]

/-- What a container is told of the stream of an encoder. -/
def EncoderConfig.streamSpec (config : EncoderConfig) (extradata : Option ByteArray) :
    StreamSpec :=
  { codec := config.family
    encoderName := config.encoderName
    width := config.width
    height := config.height
    bitRate := config.bitRate
    timeBase := config.timeBase
    frameRate := config.frameRate
    extradata }

/-- Register the stream of an encoder. -/
def publish (container : κ) (config : EncoderConfig) (extradata : Option ByteArray) :
    Journaled (Except MuxError OutputStream × κ) :=
  within ⟨"publish_stream", [⟨"encoder", .quoted config.encoderName⟩]⟩ do
    if !config.timeBase.isPositive then
      return (.error (.invalidTimeBase config.timeBase), container)
    else
    let expected := Container.streamCount container
    let spec := config.streamSpec extradata
    let (answer, container) := Container.addStream container spec
    call (.addStream spec answer)
    match answer with
    | none => do
      say .error .publishing "Container refused a new stream" []
      return (.error .streamRefused, container)
    | some index =>
      if index ≠ expected then return (.error (.unexpectedIndex expected index), container)
      else
        say .info .publishing "Output stream published"
          [⟨"index", .nat index⟩, ⟨"time_base", .plain config.timeBase.text⟩,
            ⟨"frame_rate", .plain config.frameRate.text⟩]
        return (.ok ⟨index, config.timeBase, config.frameRate⟩, container)

end Framecast
