import FzServer.Construction.Media.SendH264Aac
import FzServer.Proof.Streaming.AudioLengths
import FzServer.Proof.Streaming.FramePointer

/-
This file says which audio files keep the audio thread inside its memory.
-/

namespace FzServer.Streaming

open Foundation Rtp Aac Media Packetisation

/-- The thread stops at a header that it refuses. Each header that it accepts announces no checksum
and counts itself in its length. -/
inductive SoundFrames : List UInt8 → Prop
  | done : SoundFrames []
  | refused {content : List UInt8}
      (lost : ∀ memory, (parseAdtsHeader (overlay memory 0 (content.take 7))).1 = -1) :
      SoundFrames content
  | frame {content : List UInt8} {header : AdtsHeader}
      (accepted : ∀ memory, parseAdtsHeader (overlay memory 0 (content.take 7)) = (0, header))
      (plain : header.protectionAbsent ≠ 0) (length : 7 ≤ header.aacFrameLength.toNat)
      (rest : SoundFrames (content.drop header.aacFrameLength.toNat)) : SoundFrames content

/-- A file that is missing holds no frame. -/
def SoundAudio (file : Option (List UInt8)) : Prop := ∀ content ∈ file, SoundFrames content

/-- An accepted header is followed by the rest of a sound file. -/
theorem SoundFrames.header {content : List UInt8} (sound : SoundFrames content)
    (memory : Memory UInt8) (present : content ≠ [])
    (accepted : (parseAdtsHeader (overlay memory 0 (content.take 7))).1 ≠ -1) :
    let header := (parseAdtsHeader (overlay memory 0 (content.take 7))).2
    header.protectionAbsent ≠ 0 ∧ 7 ≤ header.aacFrameLength.toNat ∧
      SoundFrames (content.drop header.aacFrameLength.toNat) := by
  cases sound with
  | done => exact absurd rfl present
  | refused lost => exact absurd (lost memory) accepted
  | frame whole plain length rest =>
      rw [whole memory]
      exact ⟨plain, length, rest⟩

/-- The frames in front of the loop are sound, and those behind have not moved its pointer. -/
structure Sound (state : AudioState) : Prop where
  ahead : SoundFrames state.fp.unread
  pointer : state.frame = 0
  calls : ∀ call ∈ state.calls, call.length ≤ 8184

section Turns

variable {send : Sender → Memory UInt8 → UInt32 → Int × Sender} {state next : AudioState}

/-- The thread accepts no header with a checksum and none with a length below seven. -/
theorem Sound.header (sound : Sound state) (accepts : state.Accepts) :
    state.parsed.2.protectionAbsent ≠ 0 ∧ 7 ≤ state.parsed.2.aacFrameLength.toNat ∧
      SoundFrames (state.fp.unread.drop state.parsed.2.aacFrameLength.toNat) := by
  obtain ⟨positive, accepted⟩ := accepts
  have parsed : state.parsed =
      parseAdtsHeader (overlay state.buffer 0 (state.fp.unread.take 7)) := by
    rw [AudioState.parsed, AudioState.headed, AudioState.head, FileStream.fread_cells,
      sound.pointer]
    congr 1
    funext address
    rw [advance_apply, Nat.zero_add]
  have present : state.fp.unread ≠ [] := by
    intro empty
    rw [AudioState.head, FileStream.fread_cells, empty] at positive
    exact absurd positive (by decide)
  rw [parsed] at accepted ⊢
  exact sound.ahead.header state.buffer present accepted

theorem Sound.complete (sound : Sound state) (accepts : state.Accepts) : state.Complete :=
  ⟨(sound.header accepts).2.1, fun checked => (sound.header accepts).1 checked.1⟩

/-- A turn that goes on has accepted its header. -/
theorem audioTurn_accepts (on : audioTurn send state = .inr next) :
    state.Accepts ∧ 0 < readSize state.body := by
  rw [audioTurn] at on
  split_ifs at on with ended refused empty
  exact ⟨⟨Int.not_le.mp ended, refused⟩, Int.not_le.mp empty⟩

theorem Sound.goes (sound : Sound state) (on : audioTurn send state = .inr next) : Sound next := by
  obtain ⟨accepts, delivers⟩ := audioTurn_accepts on
  obtain ⟨plain, length, rest⟩ := sound.header accepts
  obtain ⟨_, rfl⟩ := audioTurn_goes on
  have count : state.count.toNat = state.parsed.2.aacFrameLength.toNat - 7 := by
    rw [AudioState.count_toNat accepts, if_pos length]
  have small := accepts.length
  refine ⟨?_, ?_, ?_⟩
  · rw [AudioState.next, FileStream.fread_unread, FileStream.fread_unread, List.drop_drop, count,
      Nat.add_sub_cancel' length]
    exact rest
  · change state.frame + state.skipped = 0
    rw [sound.pointer, AudioState.skipped, if_neg plain]
  · intro call member
    rcases List.mem_append.mp member with earlier | now
    · exact sound.calls call earlier
    · have stays := (AudioState.staysInside_iff accepts).mpr (sound.complete accepts)
      have inside := stays.size delivers
      rw [AudioState.body_length, count] at inside
      rw [List.mem_singleton.mp now, window_length]
      omega

end Turns

/-- The lengths stay inside the buffers, and the pointer that is freed was allocated. -/
def AudioInBounds (send : Sender → Memory UInt8 → UInt32 → Int × Sender)
    (file : Option (List UInt8)) (heap : Memory UInt8) (packetHeap : RtpPacket) (socket : Socket)
    (run : AudioRun) : Prop :=
  ∀ content ∈ file, LengthsStayInside send (audioStart content heap packetHeap socket) ∧
    KeepsPointer send (audioStart content heap packetHeap socket) run

/-- The audio thread of the playback ran inside its memory. -/
def MediaInBounds (send : Sender → Memory UInt8 → UInt32 → Int × Sender) (source : MediaSource)
    (run : MediaRun) : Prop :=
  AudioInBounds send source.aacFile source.aacHeap source.aacPacketHeap ⟨source.aacResults, []⟩
    run.audio

section Threads

variable {send : Sender → Memory UInt8 → UInt32 → Int × Sender} {file : Option (List UInt8)}
  (sound : SoundAudio file) {heap : Memory UInt8} {packetHeap : RtpPacket} {socket : Socket}
  {run : AudioRun} (ran : sendAacOver send file heap packetHeap socket = some run)

include sound

theorem SoundAudio.start {content : List UInt8} (held : file = some content) :
    Sound (audioStart content heap packetHeap socket) :=
  ⟨sound content held, rfl, by simp [audioStart]⟩

include ran

/-- A sound file keeps the audio thread inside its memory. -/
theorem SoundAudio.inBounds : AudioInBounds send file heap packetHeap socket run := by
  intro content held
  have start : Sound (audioStart content heap packetHeap socket) := sound.start held
  rw [held, sendAacOver_eq_loop] at ran
  have visited (state : AudioState)
      (visits : Visits (audioTurn send) (audioStart content heap packetHeap socket) state) :
      Sound state := visits.invariant Sound start fun _ _ here on => here.goes on
  refine ⟨fun state visits accepts => ?_, fun state visits => (visited state visits).pointer, ?_⟩
  · exact (AudioState.staysInside_iff accepts).mpr ((visited state visits).complete accepts)
  · exact loop_results Sound (fun run : AudioRun => run.frame = 0) (fun _ _ here on => here.goes on)
      (fun _ _ here ends => by rw [audioTurn_stops ends]; exact here.pointer) start ran

/-- The thread hands over no frame that the size field of its packet could not hold. -/
theorem SoundAudio.calls : ∀ call ∈ run.calls, call.length ≤ 8184 := by
  cases held : file with
  | none =>
      rw [held] at ran
      obtain rfl := Option.some.inj ran
      simp
  | some content =>
      have start : Sound (audioStart content heap packetHeap socket) := sound.start held
      rw [held, sendAacOver_eq_loop] at ran
      exact loop_results Sound (fun run : AudioRun => ∀ call ∈ run.calls, call.length ≤ 8184)
        (fun _ _ here on => here.goes on)
        (fun _ _ here ends => by rw [audioTurn_stops ends]; exact here.calls) start ran

end Threads

section Frames

/-- The parser reads seven bytes. -/
theorem parseAdtsHeader_congr {first second : Memory UInt8}
    (agree : ∀ index < 7, first index = second index) :
    parseAdtsHeader first = parseAdtsHeader second := by
  rw [parseAdtsHeader, parseAdtsHeader]
  simp only [frameLength, agree 0 (by decide), agree 1 (by decide), agree 2 (by decide),
    agree 3 (by decide), agree 4 (by decide), agree 5 (by decide), agree 6 (by decide)]

/-- A file of frames without a checksum is sound. -/
theorem soundFrames_encodeAudio (frames : List AdtsFrame)
    (plain : ∀ frame ∈ frames, frame.crc = none) : SoundFrames (encodeAudio frames) := by
  induction frames with
  | nil => exact .done
  | cons frame frames ih =>
      obtain ⟨first, others⟩ := List.forall_mem_cons.mp plain
      have seven := frame.fields.bytes_length
      have content : encodeAudio (frame :: frames) = frame.encode ++ encodeAudio frames := rfl
      have head : (encodeAudio (frame :: frames)).take 7 = frame.fields.bytes := by
        rw [content, AdtsFrame.encode, List.append_assoc]
        exact List.take_left' seven
      have stands (memory : Memory UInt8) (index : Nat)
          (inside : index < frame.fields.bytes.length) :
          overlay memory 0 frame.fields.bytes index = frame.fields.bytes[index] := by
        have cell := overlay_inside memory 0 frame.fields.bytes index inside
        rwa [Nat.zero_add] at cell
      obtain ⟨accepted, flag, length⟩ :=
        parseAdtsHeader_layout frame.fields frame.sync _ (stands fun _ => 0)
      have size := frame.length
      rw [first] at size
      have whole (memory : Memory UInt8) :
          parseAdtsHeader (overlay memory 0 ((encodeAudio (frame :: frames)).take 7)) =
            (0, (parseAdtsHeader (overlay (fun _ => 0) 0 frame.fields.bytes)).2) := by
        have same : parseAdtsHeader (overlay memory 0 frame.fields.bytes) =
            parseAdtsHeader (overlay (fun _ => 0) 0 frame.fields.bytes) :=
          parseAdtsHeader_congr fun index inside =>
            (stands memory index (by omega)).trans (stands _ index (by omega)).symm
        rw [head, same]
        exact Prod.ext accepted rfl
      refine .frame whole ?_ ?_ ?_
      · intro zero
        rw [zero, frame.absent, first] at flag
        exact absurd flag (by decide)
      · rw [length, size]
        exact Nat.le_add_right _ _
      · have bytes : frame.encode.length = frame.fields.aacFrameLength.toNat := by
          rw [AdtsFrame.encode, List.length_append, seven, ← body_length]
        rw [length, ← bytes, content, List.drop_left]
        exact ih others

def longerFrame : AdtsFrame where
  fields := plainFields 1 10
  crc := none
  raw := [2, 3, 4]
  sync := rfl
  absent := rfl
  nonempty := by decide
  length := rfl

/-- Neither frame has a checksum. -/
def plainFrames : List AdtsFrame := [longerFrame, shortFrame]

theorem soundAudio_plainFrames : SoundAudio (some (encodeAudio plainFrames)) := by
  rintro content ⟨⟩
  exact soundFrames_encodeAudio plainFrames (by simp [plainFrames, longerFrame, shortFrame])

end Frames

end FzServer.Streaming
