import Framecast.Capture.Source

/-!
# Frames from a channel

A bounded queue between a grabber, which may hold any number of senders, and the session, which
holds the receiver. Sending never waits: a frame that finds the queue full is dropped. The receiver
takes what was queued even after the last sender is gone.
-/

namespace Framecast

open Journaled

/-- How many captured frames can wait. -/
def frameCapacity : Nat := 3

/-- A queue of frames with its two ends. -/
structure FrameChannel where
  width : UInt32
  height : UInt32
  format : SurfaceFormat
  /-- Frames sent and not yet received, the oldest first. -/
  pending : List CapturedFrame := []
  /-- How many senders there are. -/
  senders : Nat := 1
  /-- The receiving end is still there. -/
  receiving : Bool := true
  /-- The receiving end has been stopped. -/
  stopped : Bool := false
deriving Repr

namespace FrameChannel

/-- Queue a frame. Without a receiver that is an error; with a full queue the frame is dropped,
which the answer tells. -/
def send (c : FrameChannel) (f : CapturedFrame) : Except CaptureError Bool × FrameChannel :=
  if !c.receiving then (.error .disconnected, c)
  else if c.pending.length < frameCapacity then (.ok true, { c with pending := c.pending ++ [f] })
  else (.ok false, c)

/-- One more sender. -/
def addSender (c : FrameChannel) : FrameChannel := { c with senders := c.senders + 1 }

/-- One sender less. -/
def dropSender (c : FrameChannel) : FrameChannel := { c with senders := c.senders - 1 }

/-- The receiving end goes, and with it the frames that wait. -/
def dropReceiver (c : FrameChannel) : FrameChannel := { c with receiving := false, pending := [] }

/-- The next frame. Once stopped there is none; when the queue is empty there is none yet, or never
again if all senders are gone. -/
def nextFrame (c : FrameChannel) : Journaled (Polled × FrameChannel) :=
  if c.stopped then return (.failed .stopped, c)
  else
    match c.pending with
    | f :: fs => return (.frame f, { c with pending := fs })
    | [] =>
      if c.senders = 0 then do
        say .debug .source "Frame producer disconnected" []
        return (.failed .disconnected, c)
      else return (.nothing, c)

/-- Receive no more. -/
def stop (c : FrameChannel) : FrameChannel := { c with stopped := true }

/-- The receiving end of a channel is a source of frames. -/
instance : FrameSource FrameChannel where
  dimensions c := (c.width, c.height)
  format := format
  nextFrame c _ := c.nextFrame
  stop c := (.ok (), c.stop)

end FrameChannel

end Framecast
