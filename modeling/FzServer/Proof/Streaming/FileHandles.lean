import FzServer.Construction.Media.OpenFiles
import FzServer.Construction.Media.SendH264Aac
import FzServer.Proof.Packetisation.SendTrace
import FzServer.Proof.Streaming.Turns

/-
This file says when the media loops close their files.
-/

namespace FzServer.Streaming

open Foundation Rtp H264 Aac Media Packetisation

/-- The reads and the cuts use up the file and yield these units with their lengths. -/
inductive CutsInto : FileStream UInt8 → Memory UInt8 → List (Memory UInt8 × Nat) → Prop where
  | ended {fp : FileStream UInt8} {buffer : Memory UInt8}
      (empty : (fp.fread H264_FILE_BUFFER).1 = []) : CutsInto fp buffer []
  | unit {fp moved : FileStream UInt8} {buffer rec_ : Memory UInt8} {found step : Nat}
      {units : List (Memory UInt8 × Nat)} (filled : (fp.fread H264_FILE_BUFFER).1 ≠ [])
      (read : rec_ = overlay buffer 0 (fp.fread H264_FILE_BUFFER).1)
      (cut : extract_content rec_ (fp.fread H264_FILE_BUFFER).2
        (fp.fread H264_FILE_BUFFER).1.length = some (found, moved))
      (front : step = if startCode4 rec_ then 4 else if startCode3 rec_ then 3 else 0)
      (rest : CutsInto moved rec_ units) :
      CutsInto fp buffer ((rec_.advance step, found - step) :: units)

/-- The units leave in these buffers when the socket takes each of them. -/
def unitFrames (frame : List UInt8 → List UInt8) :
    RtpHeader → List (Memory UInt8 × Nat) → List (List UInt8)
  | _, [] => []
  | header, unit :: units =>
      let payloads := nalPayloads unit.1 unit.2
      (wirePackets header payloads).map frame ++
        unitFrames frame ((header.skip payloads.length).after (nalTicks unit.1 unit.2)) units

/-- The file can be cut to its end, and the socket takes every packet of the units. -/
def VideoState.PlaysOut (state : VideoState) : Prop :=
  ∃ units, CutsInto state.fp state.buffer units ∧
    Takes state.sender.socket.results state.sender.socket.sent.length
      (unitFrames (tcpFrame 0x00) state.sender.rtpPacket.rtpHeader units)

namespace VideoState

variable {state : VideoState}

theorem playsOut_ended (empty : state.chunk = []) : state.PlaysOut :=
  ⟨[], .ended empty, trivial⟩

theorem not_playsOut_uncut (filled : state.chunk ≠ []) (uncut : state.cut = none) :
    ¬state.PlaysOut := by
  rintro ⟨units, cuts, _⟩
  cases cuts with
  | ended empty => exact filled empty
  | unit _ read cut _ _ =>
      subst read
      nomatch cut.symm.trans uncut

section Unit

variable {found : Nat} {moved : FileStream UInt8} (filled : state.chunk ≠ [])
  (cut : state.cut = some (found, moved))

include filled cut

/-- The first unit of the file is the one that the turn sends. -/
theorem playsOut_unit : state.PlaysOut ↔ ∃ units, CutsInto moved state.rec_ units ∧
    Takes state.sender.socket.results state.sender.socket.sent.length
      (unitFrames (tcpFrame 0x00) state.sender.rtpPacket.rtpHeader
        ((state.unit, found - state.step) :: units)) := by
  constructor
  · rintro ⟨units, cuts, takes⟩
    cases cuts with
    | ended empty => exact absurd empty filled
    | unit _ read here front rest =>
        subst read front
        cases cut.symm.trans here
        exact ⟨_, rest, takes⟩
  · rintro ⟨units, rest, takes⟩
    exact ⟨_, .unit filled rfl cut rfl rest, takes⟩

theorem not_playsOut_refused (failed : (state.sending sendManagerTcp found).1 = -1) :
    ¬state.PlaysOut := by
  rw [playsOut_unit filled cut]
  rintro ⟨units, _, takes⟩
  rcases sendManagerWith_outcome (tcpFrame 0x00) state.sender state.unit (found - state.step) with
    ⟨_, refuses⟩ | ⟨positive, _⟩
  · exact refuses.not_accepts ((takes_append _ _ _ _).mp takes).1
  · exact absurd (failed ▸ positive : (0 : Int) ≤ -1) (by decide)

/-- A turn that goes on leaves the rest of the units to the next. -/
theorem playsOut_next (sent : (state.sending sendManagerTcp found).1 ≠ -1) :
    state.PlaysOut ↔ (state.next sendManagerTcp found moved).PlaysOut := by
  rw [playsOut_unit filled cut]
  rcases sendManagerWith_outcome (tcpFrame 0x00) state.sender state.unit (found - state.step) with
    ⟨negative, _⟩ | ⟨_, middle, delivers, result⟩
  · exact absurd negative sent
  have sender : (state.next sendManagerTcp found moved).sender = _ := result
  have both (units : List (Memory UInt8 × Nat)) :
      Takes state.sender.socket.results state.sender.socket.sent.length
          (unitFrames (tcpFrame 0x00) state.sender.rtpPacket.rtpHeader
            ((state.unit, found - state.step) :: units)) ↔
        Takes middle.socket.results middle.socket.sent.length
          (unitFrames (tcpFrame 0x00) (middle.rtpPacket.rtpHeader.after
            (nalTicks state.unit (found - state.step))) units) := by
    rw [unitFrames, takes_append, delivers.results, delivers.header, delivers.place, framesOf]
    exact and_iff_right delivers.accepts
  rw [VideoState.PlaysOut, sender]
  simp only [both]
  rfl

end Unit

/-- Each turn keeps the question whether the file plays out, and the last turn answers it. -/
theorem playsOut_iff {fuel : Nat} {run : VideoRun}
    (ends : loop (videoTurn sendManagerTcp) fuel state = some run) :
    run.leftOpen = 0 ↔ state.PlaysOut := by
  refine (loop_results (fun now : VideoState => now.PlaysOut ↔ state.PlaysOut)
    (fun run : VideoRun => run.leftOpen = 0 ↔ state.PlaysOut) ?_ ?_ Iff.rfl ends)
  · intro now next same on
    obtain ⟨found, moved, filled, cut, sent, rfl⟩ := videoTurn_goes on
    exact (playsOut_next filled cut sent).symm.trans same
  · intro now run same leaves
    rcases videoTurn_stops leaves with
      ⟨empty, rfl⟩ | ⟨filled, uncut, rfl⟩ | ⟨found, moved, filled, cut, failed, rfl⟩
    · exact iff_of_true rfl (same.mp (playsOut_ended empty))
    · exact iff_of_false Nat.one_ne_zero (mt same.mpr (not_playsOut_uncut filled uncut))
    · exact iff_of_false Nat.one_ne_zero (mt same.mpr (not_playsOut_refused filled cut failed))

end VideoState

section Files

/-- The stream was closed once if it was opened, and the same streams are open as before. -/
structure ClosedOnce (files after : OpenFiles) (fp : Nat) (file : Option (List UInt8)) : Prop where
  streams : after.streams = files.streams
  closed : after.closed = if file.isSome then fp :: files.closed else files.closed

/-- A run that left nothing open closed its file once. -/
theorem closedOnce_behind (files : OpenFiles) (fp : Nat) (file : Option (List UInt8))
    (leftOpen : Nat) :
    ClosedOnce files (files.behind fp file leftOpen) fp file ↔ file = none ∨ leftOpen = 0 := by
  cases file with
  | none => exact iff_of_true ⟨rfl, rfl⟩ (Or.inl rfl)
  | some content =>
      by_cases closed : leftOpen = 0
      · refine iff_of_true ⟨?_, ?_⟩ (Or.inr closed)
        · simp [OpenFiles.behind, closed, OpenFiles.fopen, OpenFiles.fclose]
        · simp [OpenFiles.behind, closed, OpenFiles.fopen, OpenFiles.fclose]
      · refine iff_of_false (fun once => ?_) (by simp [closed])
        have same := congrArg List.length once.streams
        simp [OpenFiles.behind, closed, OpenFiles.fopen] at same

theorem sendAacOverTcp_leftOpen {file : Option (List UInt8)} {heap : Memory UInt8}
    {packetHeap : RtpPacket} {socket : Socket} {run : AudioRun}
    (ran : sendAacOverTcp file heap packetHeap socket = some run) : run.leftOpen = 0 := by
  cases file with
  | none =>
      cases ran
      rfl
  | some content =>
      rw [sendAacOverTcp, sendAacOver_eq_loop] at ran
      refine loop_results (fun _ => True) (fun run : AudioRun => run.leftOpen = 0)
        (fun _ _ _ _ => trivial) (fun state run _ leaves => ?_) trivial ran
      rw [audioTurn_stops leaves]
      rfl

variable (files : OpenFiles) (fp : Nat) (file : Option (List UInt8)) (heap : Memory UInt8)
  (packetHeap : RtpPacket) (socket : Socket)

/-- The audio function closes its file on every path. -/
theorem sendAacOverTcp_closes :
    ∃ run after, sendAacOverTcpFiles files fp file heap packetHeap socket = some (run, after) ∧
      ClosedOnce files after fp file := by
  obtain ⟨run, ran⟩ := sendAacOver_ends rtpSendAACFrameTcp file heap packetHeap socket
  refine ⟨run, _, ?_, (closedOnce_behind files fp file run.leftOpen).mpr
    (Or.inr (sendAacOverTcp_leftOpen ran))⟩
  rw [sendAacOverTcpFiles, sendAacOverTcp, ran]
  rfl

/-- The video function closes its file exactly when the file plays out. -/
theorem sendH264OverTcp_closes_iff :
    ∃ run after, sendH264OverTcpFiles files fp file heap packetHeap socket = some (run, after) ∧
      (ClosedOnce files after fp file ↔
        ∀ content ∈ file, (videoStart content heap packetHeap socket).PlaysOut) := by
  cases file with
  | none =>
      exact ⟨_, _, rfl, iff_of_true ((closedOnce_behind files fp none 0).mpr (Or.inl rfl)) nofun⟩
  | some content =>
      obtain ⟨_, run, ends, ran⟩ := sendH264OverTcp_progress content heap packetHeap socket
      refine ⟨run, files.behind fp (some content) run.leftOpen, ?_, ?_⟩
      · rw [sendH264OverTcpFiles, ran]
        rfl
      · rw [closedOnce_behind, VideoState.playsOut_iff ends]
        simp

end Files

/-- Both files are closed exactly when the video file plays out. -/
theorem media_closeFiles_iff (files : OpenFiles) (aacFp h264Fp : Nat) (source : MediaSource) :
    ∃ audio behindAudio video behindVideo,
      sendAacOverTcpFiles files aacFp source.aacFile source.aacHeap source.aacPacketHeap
        ⟨source.aacResults, []⟩ = some (audio, behindAudio) ∧
      sendH264OverTcpFiles files h264Fp source.h264File source.h264Heap source.h264PacketHeap
        ⟨source.h264Results, []⟩ = some (video, behindVideo) ∧
      (ClosedOnce files behindAudio aacFp source.aacFile ∧
          ClosedOnce files behindVideo h264Fp source.h264File ↔
        ∀ content ∈ source.h264File, (videoStart content source.h264Heap source.h264PacketHeap
          ⟨source.h264Results, []⟩).PlaysOut) := by
  obtain ⟨audio, behindAudio, audioRan, audioClosed⟩ := sendAacOverTcp_closes files aacFp
    source.aacFile source.aacHeap source.aacPacketHeap ⟨source.aacResults, []⟩
  obtain ⟨video, behindVideo, videoRan, videoClosed⟩ := sendH264OverTcp_closes_iff files h264Fp
    source.h264File source.h264Heap source.h264PacketHeap ⟨source.h264Results, []⟩
  exact ⟨audio, behindAudio, video, behindVideo, audioRan, videoRan,
    (and_iff_right audioClosed).trans videoClosed⟩

/-- A file of one unit stays open, although every call sends its whole buffer. -/
theorem sendH264OverTcp_leavesOpen :
    ∃ run after, sendH264OverTcpFiles ⟨[], []⟩ 7 (some [0, 0, 1, 0x65]) (fun _ => 0)
        wholeSender.rtpPacket wholeSender.socket = some (run, after) ∧
      after.streams = [7] ∧ ¬ClosedOnce ⟨[], []⟩ after 7 (some [0, 0, 1, 0x65]) := by
  have left : (sendH264OverTcpFiles ⟨[], []⟩ 7 (some [0, 0, 1, 0x65]) (fun _ => 0)
      wholeSender.rtpPacket wholeSender.socket).map (fun result => result.2.streams) =
        some [7] := by
    decide +kernel
  rw [Option.map_eq_some_iff] at left
  obtain ⟨⟨run, after⟩, ran, streams⟩ := left
  refine ⟨run, after, ran, streams, fun once => ?_⟩
  exact absurd (streams.symm.trans once.streams) (List.cons_ne_nil _ _)

end FzServer.Streaming
