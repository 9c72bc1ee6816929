import Mend.Proofs.Text.Lines

/-! Texts as bytes. A newline is one byte, and that byte is part of no other character, so the lines
of a file are the lines of its text, line by line. -/

namespace Mend.Lines

def ofBytes (bytes : ByteArray) : List (List UInt8) := bytes.data.toList.splitOn 10

def encode (l : Line) : List UInt8 := l.flatMap String.utf8EncodeChar

theorem newline_not_mem_encodeChar {c : Char} (h : c ≠ '\n') : 10 ∉ String.utf8EncodeChar c := by
  have hc : c.val.toNat ≠ 10 := fun hval => h (Char.ext (UInt32.toNat.inj hval))
  have hbyte {n : Nat} (hn : n % 256 ≠ 10) : (10 : UInt8) ≠ UInt8.ofNat n := by
    intro heq
    apply hn
    rw [← UInt8.toNat_ofNat', ← heq]
    rfl
  unfold String.utf8EncodeChar
  dsimp only
  -- every byte of a longer character is greater
  split
  · simp only [List.mem_singleton]
    exact hbyte (by omega)
  · split
    · simp only [List.mem_cons, List.not_mem_nil, or_false, not_or]
      exact ⟨hbyte (by omega), hbyte (by omega)⟩
    · split
      · simp only [List.mem_cons, List.not_mem_nil, or_false, not_or]
        exact ⟨hbyte (by omega), hbyte (by omega), hbyte (by omega)⟩
      · simp only [List.mem_cons, List.not_mem_nil, or_false, not_or]
        exact ⟨hbyte (by omega), hbyte (by omega), hbyte (by omega), hbyte (by omega)⟩

theorem newline_not_mem_encode {l : Line} (h : '\n' ∉ l) : 10 ∉ encode l := by
  intro hmem
  obtain ⟨c, hc, hbyte⟩ := List.mem_flatMap.1 hmem
  exact newline_not_mem_encodeChar (fun hnl => h (hnl ▸ hc)) hbyte

theorem encode_join (ls : List Line) :
    encode (join '\n' ls) = [10].intercalate (ls.map encode) := by
  induction ls with
  | nil => rfl
  | cons l ls ih =>
    cases ls with
    | nil => simp [join, List.intercalate]
    | cons m ls =>
      have hjoin : join '\n' (l :: m :: ls) = l ++ '\n' :: join '\n' (m :: ls) := rfl
      have hnewline : encode ('\n' :: join '\n' (m :: ls)) = 10 :: encode (join '\n' (m :: ls)) := rfl
      have hsplit : encode (l ++ '\n' :: join '\n' (m :: ls)) =
          encode l ++ encode ('\n' :: join '\n' (m :: ls)) := List.flatMap_append
      rw [hjoin, hsplit, hnewline, ih]
      simp [List.intercalate]

theorem ofBytes_toUTF8 (s : String) : ofBytes s.toUTF8 = (ofText s).map encode := by
  have hbytes : s.toUTF8.data.toList = encode s.toList := by
    have h : s.toUTF8 = (encode s.toList).toByteArray := String.utf8Encode_toList.symm
    rw [h, List.toList_data_toByteArray]
  rw [ofBytes, hbytes, ← join_ofText, encode_join]
  apply List.splitOn_intercalate
  · intro l hl
    obtain ⟨k, hk, rfl⟩ := List.mem_map.1 hl
    exact newline_not_mem_encode (newline_not_mem hk)
  · rw [ne_eq, List.map_eq_nil_iff]
    exact ofText_ne_nil s

end Mend.Lines
