/-
Percent-encoding loses nothing.

Wherever the percent sign itself is encoded, a percent sign in the encoded text
begins a triplet. Decoding then finds the bytes of the original text again,
and so the text. An encoded text is the same as the original only if there was
nothing to encode.
-/

import SymbolJump.Uri.Percent

namespace SymbolJump.Uri

theorem hexValue?_hexDigit : ∀ value < 16, hexValue? (hexDigit value) = some value := by
  decide

theorem byteOf?_hexDigit (byte : UInt8) :
    byteOf? (hexDigit (byte.toNat / 16)) (hexDigit (byte.toNat % 16)) = some byte := by
  have small : byte.toNat < 256 := byte.toNat_lt
  rw [byteOf?, hexValue?_hexDigit _ (by omega), hexValue?_hexDigit _ (by omega)]
  simp only [Option.bind_eq_bind, Option.bind_some, Nat.div_add_mod]
  exact congrArg some byte.ofNat_toNat

theorem decodeBytes_triplet (byte : UInt8) (rest : List Char) :
    decodeBytes (triplet byte ++ rest) = byte :: decodeBytes rest := by
  change decodeBytes ('%' :: hexDigit (byte.toNat / 16) :: hexDigit (byte.toNat % 16) :: rest) = _
  rw [decodeBytes, byteOf?_hexDigit]

theorem decodeBytes_triplets (bytes : List UInt8) (rest : List Char) :
    decodeBytes (bytes.flatMap triplet ++ rest) = bytes ++ decodeBytes rest := by
  induction bytes with
  | nil => rfl
  | cons byte others ih =>
      rw [List.flatMap_cons, List.append_assoc, decodeBytes_triplet, ih, List.cons_append]

theorem decodeBytes_cons {c : Char} (plain : c ≠ '%') (rest : List Char) :
    decodeBytes (c :: rest) = String.utf8EncodeChar c ++ decodeBytes rest := by
  rw [decodeBytes]
  intro high low others isPercent
  exact absurd isPercent plain

theorem decodeBytes_encode {encoded : Char → Bool} (percent : encoded '%' = true)
    (text : List Char) :
    decodeBytes (encode encoded text) = text.flatMap String.utf8EncodeChar := by
  induction text with
  | nil => simp [encode, decodeBytes]
  | cons c rest ih =>
      change decodeBytes (encodeChar encoded c ++ encode encoded rest) = _
      rw [List.flatMap_cons, encodeChar]
      split
      · rw [decodeBytes_triplets, ih]
      · next plain =>
          have notPercent : c ≠ '%' := by
            rintro rfl
            exact plain percent
          rw [List.singleton_append, decodeBytes_cons notPercent, ih]

theorem fromUTF8?_flatMap (text : List Char) :
    String.fromUTF8? ⟨(text.flatMap String.utf8EncodeChar).toArray⟩ =
      some (String.ofList text) := by
  have sameBytes :
      (⟨(text.flatMap String.utf8EncodeChar).toArray⟩ : ByteArray) = text.utf8Encode := by
    apply ByteArray.ext
    rw [List.utf8Encode, List.data_toByteArray]
  rw [sameBytes, String.fromUTF8?, dif_pos (.intro text rfl)]
  rfl

theorem decode?_of_bytes {text decoded : List Char}
    (sameBytes : decodeBytes text = decoded.flatMap String.utf8EncodeChar) :
    decode? text = some decoded := by
  rw [decode?, sameBytes, fromUTF8?_flatMap, Option.map_some, String.toList_ofList]

theorem decode?_encode {encoded : Char → Bool} (percent : encoded '%' = true)
    (text : List Char) : decode? (encode encoded text) = some text :=
  decode?_of_bytes (decodeBytes_encode percent text)

/-! ### Texts without anything to encode -/

theorem encode_append (encoded : Char → Bool) (left right : List Char) :
    encode encoded (left ++ right) = encode encoded left ++ encode encoded right :=
  List.flatMap_append

theorem encode_of_plain {encoded : Char → Bool} {text : List Char}
    (plain : ∀ c ∈ text, encoded c = false) : encode encoded text = text := by
  induction text with
  | nil => rfl
  | cons c rest ih =>
      obtain ⟨first, others⟩ := List.forall_mem_cons.mp plain
      change encodeChar encoded c ++ encode encoded rest = _
      rw [ih others, encodeChar, first]
      rfl

theorem three_le_triplets (c : Char) :
    3 ≤ ((String.utf8EncodeChar c).flatMap triplet).length := by
  have nonempty : String.utf8EncodeChar c ≠ [] := String.utf8EncodeChar_ne_nil
  obtain ⟨byte, others, isBytes⟩ := List.exists_cons_of_ne_nil nonempty
  rw [isBytes, List.flatMap_cons, List.length_append]
  exact Nat.le_add_right 3 _

theorem length_le_encode (encoded : Char → Bool) (text : List Char) :
    text.length ≤ (encode encoded text).length := by
  induction text with
  | nil => exact Nat.le_refl 0
  | cons c rest ih =>
      have nonempty : 1 ≤ (encodeChar encoded c).length := by
        unfold encodeChar
        split
        · exact Nat.le_trans (by decide) (three_le_triplets c)
        · exact Nat.le_refl 1
      change _ ≤ (encodeChar encoded c ++ encode encoded rest).length
      rw [List.length_append, List.length_cons]
      omega

theorem encode_eq_self_iff {encoded : Char → Bool} {text : List Char} :
    encode encoded text = text ↔ ∀ c ∈ text, encoded c = false := by
  constructor
  · intro unchanged
    induction text with
    | nil =>
        intro c absent
        cases absent
    | cons c rest ih =>
        change encodeChar encoded c ++ encode encoded rest = c :: rest at unchanged
        cases isEncoded : encoded c with
        | true =>
            -- Three characters in the place of one cannot be made up for.
            have longer := three_le_triplets c
            have atLeast := length_le_encode encoded rest
            have sameLength := congrArg List.length unchanged
            rw [encodeChar, if_pos isEncoded, List.length_append, List.length_cons] at sameLength
            omega
        | false =>
            rw [encodeChar, isEncoded] at unchanged
            exact List.forall_mem_cons.mpr ⟨isEncoded, ih (List.cons.inj unchanged).2⟩
  · exact encode_of_plain

end SymbolJump.Uri
