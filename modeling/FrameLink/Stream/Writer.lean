import FrameLink.Sender.Push
import FrameLink.Transport.Endpoint

/-!
# Writing frames to a transport

A sender whose packets go out as datagrams.
-/

namespace FrameLink

open FrameLink.Transport (DatagramSink)

/-- Hands packets over to a sink as datagrams. -/
def pushTo {σ : Type} [DatagramSink σ] : Push σ :=
  fun packet sink => DatagramSink.send packet.toDatagram sink

/-- Writes a frame to a sink, and tells how many datagrams went out. -/
def Sender.write {σ : Type} [DatagramSink σ] (sender : Sender) (frame : Frame) (sink : σ) :
    Except FrameError Nat × Sender × σ :=
  sender.send pushTo frame sink

end FrameLink
