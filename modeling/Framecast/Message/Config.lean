import Framecast.Text.Blank

/-!
# Session configuration

What an application asks for when it starts a session: where the output goes, how it is encoded and
how many frames per second are expected. The frame size is not configured; it comes from the frame
source.
-/

namespace Framecast

/-- Encoding quality. A higher tier trades bit rate for a tighter quantizer range. -/
inductive Tier
  | low
  | medium
  | high
deriving DecidableEq, Repr

/-- The name of a tier in messages and logs. -/
def Tier.name : Tier → String
  | .low => "low"
  | .medium => "medium"
  | .high => "high"

/-- The tier as a log line shows it within a command. -/
def Tier.label : Tier → String
  | .low => "Low"
  | .medium => "Medium"
  | .high => "High"

/-- A family of compressed video formats. -/
inductive Codec
  /-- H.264. -/
  | avc
  /-- H.265. -/
  | hevc
deriving DecidableEq, Repr

/-- The name of a family in messages and logs. -/
def Codec.name : Codec → String
  | .avc => "avc"
  | .hevc => "hevc"

/-- The family as error texts show it. -/
def Codec.label : Codec → String
  | .avc => "Avc"
  | .hevc => "Hevc"

/-- The settings of one session. Each field has a default. -/
structure SessionConfig where
  /-- Where the output goes: a path, or any location the container knows. -/
  outputUrl : String := "capture.mp4"
  /-- The container format; without one it follows from the location. -/
  outputFormat : Option String := none
  /-- The quality tier. -/
  quality : Tier := .medium
  /-- The codec family. -/
  codec : Codec := .avc
  /-- Frames per second. -/
  fps : UInt32 := 60
deriving DecidableEq, Repr

/-- The highest frame rate a session may ask for. -/
def maxFps : UInt32 := 240

/-- Why a configuration cannot be used. -/
inductive InvalidConfig
  | urlBlank
  | fpsOutOfRange (fps : UInt32)
  | formatBlank
  /-- Whoever builds the session has a reason of its own. -/
  | because (reason : String)
deriving DecidableEq, Repr

/-- The reason in words. -/
def InvalidConfig.message : InvalidConfig → String
  | .urlBlank => "output_url is empty"
  | .fpsOutOfRange fps =>
    "fps must be between 1 and " ++ toString maxFps.toNat ++ ", got " ++ toString fps.toNat
  | .formatBlank => "output_format is empty"
  | .because reason => reason

/-- Why no configuration came out of a file or a document. -/
inductive ConfigError
  /-- There is no such file. -/
  | notFound
  /-- The file does not hold text. -/
  | notText
  /-- The text is not a document of this form. -/
  | malformed
  /-- A field holds an unusable value. -/
  | invalid (reason : InvalidConfig)
deriving DecidableEq, Repr

/-- The error in words. -/
def ConfigError.message : ConfigError → String
  | .notFound => "Failed to read configuration: No such file or directory (os error 2)"
  | .notText => "Failed to read configuration: stream did not contain valid UTF-8"
  | .malformed => "Failed to parse configuration"
  | .invalid reason => "Invalid configuration: " ++ reason.message

/-- The first unusable field of a configuration: the location, then the frame rate, then the
format. -/
def SessionConfig.problem? (c : SessionConfig) : Option InvalidConfig :=
  if isBlankText c.outputUrl then some .urlBlank
  else if c.fps = 0 ∨ maxFps < c.fps then some (.fpsOutOfRange c.fps)
  else if c.outputFormat.any isBlankText then some .formatBlank
  else none

/-- Check that every field is usable. -/
def SessionConfig.validate (c : SessionConfig) : Except ConfigError Unit :=
  match c.problem? with
  | some reason => .error (.invalid reason)
  | none => .ok ()

end Framecast
