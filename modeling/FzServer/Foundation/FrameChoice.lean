import FzServer.Foundation.FrameCodec

/-
This file mixes the frames of two codecs in one stream.
-/

namespace FzServer.Foundation.FrameCodec

variable {First Second Symbol : Type}

/-- The first symbol of each frame says which codec wrote it. -/
def choice (first : FrameCodec First Symbol) (second : FrameCodec Second Symbol)
    (marks : Symbol → Bool) : FrameCodec (First ⊕ Second) Symbol where
  encode
    | .inl frame => first.encode frame
    | .inr frame => second.encode frame
  decode
    | [] => none
    | symbol :: symbols =>
        if marks symbol then
          (first.decode (symbol :: symbols)).map fun found => (.inl found.1, found.2)
        else (second.decode (symbol :: symbols)).map fun found => (.inr found.1, found.2)
  Valid
    | .inl frame => first.Valid frame ∧ ∀ symbol ∈ (first.encode frame).head?, marks symbol = true
    | .inr frame =>
        second.Valid frame ∧ ∀ symbol ∈ (second.encode frame).head?, marks symbol = false
  decode_encode frame rest valid := by
    cases frame with
    | inl frame =>
        obtain ⟨good, marked⟩ := valid
        have decoded := first.decode_encode frame rest good
        cases shape : first.encode frame with
        | nil => exact absurd shape (first.encode_ne_nil frame)
        | cons symbol symbols =>
            rw [shape] at decoded marked
            dsimp only
            rw [shape, List.cons_append]
            dsimp only
            rw [if_pos (marked symbol rfl), ← List.cons_append, decoded, Option.map_some]
    | inr frame =>
        obtain ⟨good, marked⟩ := valid
        have decoded := second.decode_encode frame rest good
        cases shape : second.encode frame with
        | nil => exact absurd shape (second.encode_ne_nil frame)
        | cons symbol symbols =>
            rw [shape] at decoded marked
            dsimp only
            rw [shape, List.cons_append]
            dsimp only
            rw [if_neg (by rw [marked symbol rfl]; decide), ← List.cons_append, decoded,
              Option.map_some]
  encode_ne_nil
    | .inl frame => first.encode_ne_nil frame
    | .inr frame => second.encode_ne_nil frame

/-- A frame of the first codec keeps its encoding. -/
theorem encodeAll_inl (first : FrameCodec First Symbol) (second : FrameCodec Second Symbol)
    (marks : Symbol → Bool) (frames : List First) :
    (choice first second marks).encodeAll (frames.map .inl) = first.encodeAll frames := by
  rw [encodeAll, List.flatMap_map]
  rfl

theorem encodeAll_append (codec : FrameCodec First Symbol) (front back : List First) :
    codec.encodeAll (front ++ back) = codec.encodeAll front ++ codec.encodeAll back := by
  rw [encodeAll, List.flatMap_append, encodeAll, encodeAll]

end FzServer.Foundation.FrameCodec
