import Mathlib
import DocSamples.Text.Utf8

namespace DocSamples.Text.Utf8

/-! # Reading back what is written

The bytes of a text are decoded to that text.
-/

variable {code : Nat} {rest : Bytes} {first second third fourth : UInt8}

/-! ## Bytes of one character -/

theorem isContinuation_iff {byte : UInt8} :
    isContinuation byte = true ↔ 128 ≤ byte.toNat ∧ byte.toNat < 192 := by
  simp [isContinuation, UInt8.le_iff_toNat_le, UInt8.lt_iff_toNat_lt]

theorem secondAllowed_iff : secondAllowed first second = true ↔
    isContinuation second = true ∧ (first.toNat = 224 → 160 ≤ second.toNat) ∧
      (first.toNat = 237 → second.toNat < 160) ∧ (first.toNat = 240 → 144 ≤ second.toNat) ∧
      (first.toNat = 244 → second.toNat < 144) := by
  simp only [secondAllowed, Bool.and_eq_true, ← UInt8.toNat_inj]
  refine and_congr_right fun _ => ?_
  split_ifs <;> simp_all [UInt8.le_iff_toNat_le, UInt8.lt_iff_toNat_lt]

theorem piece_one (small : code < 128) (lead : first.toNat = code) :
    piece first rest = .char (Char.ofNat code) 0 := by
  have least : first < 0x80 := by simpa [UInt8.lt_iff_toNat_lt, lead] using small
  simp only [piece, least, if_true, lead]

theorem piece_two (lower : 128 ≤ code) (upper : code < 2048)
    (lead : first.toNat = code / 64 % 32 + 192) (tail : second.toNat = code % 64 + 128) :
    piece first (second :: rest) = .char (Char.ofNat code) 1 := by
  have continued : isContinuation second = true := isContinuation_iff.mpr (by omega)
  have value : first.toNat % 32 * 64 + second.toNat % 64 = code := by omega
  have range : ¬ first < 0x80 ∧ ¬ first < 0xc2 ∧ first < 0xe0 := by
    simp only [UInt8.lt_iff_toNat_lt, UInt8.reduceToNat]
    omega
  simp only [piece, range, continued, if_true, if_false]
  exact congrArg (fun code => Piece.char (Char.ofNat code) 1) value

theorem piece_three (lower : 2048 ≤ code) (upper : code < 65536)
    (valid : code < 55296 ∨ 57343 < code) (lead : first.toNat = code / 4096 % 16 + 224)
    (next : second.toNat = code / 64 % 64 + 128) (tail : third.toNat = code % 64 + 128) :
    piece first (second :: third :: rest) = .char (Char.ofNat code) 2 := by
  have allowed : secondAllowed first second = true := by
    rw [secondAllowed_iff, isContinuation_iff]
    omega
  have continued : isContinuation third = true := isContinuation_iff.mpr (by omega)
  have value : (first.toNat % 16 * 64 + second.toNat % 64) * 64 + third.toNat % 64 = code := by
    omega
  have range : ¬ first < 0x80 ∧ ¬ first < 0xc2 ∧ ¬ first < 0xe0 ∧ first < 0xf0 := by
    simp only [UInt8.lt_iff_toNat_lt, UInt8.reduceToNat]
    omega
  simp only [piece, range, allowed, continued, Bool.not_true, Bool.false_eq_true, if_true, if_false]
  exact congrArg (fun code => Piece.char (Char.ofNat code) 2) value

theorem piece_four (lower : 65536 ≤ code) (upper : code < 1114112)
    (lead : first.toNat = code / 262144 % 8 + 240) (next : second.toNat = code / 4096 % 64 + 128)
    (more : third.toNat = code / 64 % 64 + 128) (tail : fourth.toNat = code % 64 + 128) :
    piece first (second :: third :: fourth :: rest) = .char (Char.ofNat code) 3 := by
  have allowed : secondAllowed first second = true := by
    rw [secondAllowed_iff, isContinuation_iff]
    omega
  have continued : isContinuation third = true ∧ isContinuation fourth = true := by
    rw [isContinuation_iff, isContinuation_iff]
    omega
  have value : ((first.toNat % 8 * 64 + second.toNat % 64) * 64 + third.toNat % 64) * 64 +
      fourth.toNat % 64 = code := by omega
  have range : ¬ first < 0x80 ∧ ¬ first < 0xc2 ∧ ¬ first < 0xe0 ∧ ¬ first < 0xf0 ∧ first < 0xf5 := by
    simp only [UInt8.lt_iff_toNat_lt, UInt8.reduceToNat]
    omega
  simp only [piece, range, allowed, continued, Bool.not_true, Bool.false_eq_true, if_true, if_false]
  exact congrArg (fun code => Piece.char (Char.ofNat code) 3) value

/-- The bytes of a character are read as one piece, whatever stands behind them. -/
theorem exists_piece_encodeChar (c : Char) :
    ∃ first more, String.utf8EncodeChar c = first :: more ∧
      ∀ rest, piece first (more ++ rest) = .char c more.length := by
  have valid := c.valid
  have same : Char.ofNat c.val.toNat = c := Char.ofNat_toNat c
  simp only [UInt32.isValidChar, Nat.isValidChar] at valid
  unfold String.utf8EncodeChar
  generalize c.val.toNat = code at valid same ⊢
  have byte {value : Nat} (small : value < 256) : (UInt8.ofNat value).toNat = value := by
    simpa using small
  subst same
  dsimp only
  split_ifs with one two three
  · exact ⟨_, _, rfl, fun _ => piece_one (by omega) (byte (by omega))⟩
  · exact ⟨_, _, rfl, fun _ =>
      piece_two (by omega) (by omega) (byte (by omega)) (byte (by omega))⟩
  · exact ⟨_, _, rfl, fun _ => piece_three (by omega) (by omega) (by omega) (byte (by omega))
      (byte (by omega)) (byte (by omega))⟩
  · exact ⟨_, _, rfl, fun _ => piece_four (by omega) (by omega) (byte (by omega))
      (byte (by omega)) (byte (by omega)) (byte (by omega))⟩

/-! ## Texts -/

theorem decodeFrom_encode (chars : List Char) (position : Nat) :
    decodeFrom position (encode chars) = .ok chars := by
  induction chars generalizing position with
  | nil => simp [encode, decodeFrom]
  | cons c chars ih =>
      obtain ⟨first, more, bytes, read⟩ := exists_piece_encodeChar c
      have split : encode (c :: chars) = first :: (more ++ encode chars) := by
        simp [encode, bytes]
      rw [split, decodeFrom, read]
      simp [ih]

theorem decode_encodeText (text : String) : decode (encodeText text) = .ok text.toList :=
  decodeFrom_encode text.toList 0

end DocSamples.Text.Utf8
