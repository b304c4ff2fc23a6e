/-!
# HttpChain.Text.Utf8

The bytes of a text and back.  `decode?` refuses whatever is not the encoding
of some text: stray continuation bytes, overlong forms, surrogates and values
above U+10FFFF.
-/

namespace HttpChain.Text

/-- The UTF-8 bytes of a text. -/
def utf8 (cs : List Char) : List UInt8 := cs.flatMap String.utf8EncodeChar

/-- The UTF-8 bytes of a string. -/
def bytes (s : String) : List UInt8 := utf8 s.toList

/-- The text that bytes encode, if they are well-formed UTF-8. -/
def decode? (bs : List UInt8) : Option String := String.fromUTF8? ⟨bs.toArray⟩

/-- The bytes of a text decode to it. -/
theorem decode?_bytes (s : String) : decode? (bytes s) = some s := by
  have hbytes : (⟨(bytes s).toArray⟩ : ByteArray) = s.toByteArray := by
    apply ByteArray.ext
    rw [← String.utf8Encode_toList, List.utf8Encode, List.data_toByteArray]
    rfl
  rw [decode?, hbytes, String.fromUTF8?, dif_pos s.isValidUTF8]
  rfl

/-- A continuation byte of a multi-byte sequence. -/
private def isContinuation (b : UInt8) : Bool := b &&& 0xC0 == 0x80

/-- The length of the well-formed sequence at the front, if there is one, and
otherwise how many bytes its well-formed beginning has (at least one). -/
private def leading (bs : List UInt8) : Bool × Nat :=
  match bs with
  | [] => (true, 0)
  | b :: rest =>
    if b < 0x80 then (true, 1)
    else if b < 0xC2 || b > 0xF4 then (false, 1)
    else
      let lower : UInt8 := if b == 0xE0 then 0xA0 else if b == 0xF0 then 0x90 else 0x80
      let upper : UInt8 := if b == 0xED then 0x9F else if b == 0xF4 then 0x8F else 0xBF
      let need := if b < 0xE0 then 1 else if b < 0xF0 then 2 else 3
      match rest with
      | [] => (false, 1)
      | c :: more =>
        if c < lower || c > upper then (false, 1)
        else
          let tail := (more.take (need - 1)).takeWhile isContinuation
          if tail.length + 1 = need then (true, need + 1) else (false, tail.length + 2)

/-- The text of bytes where each maximal malformed part reads as U+FFFD. -/
def decodeLossy (bs : List UInt8) : String :=
  go bs.length bs ""
where
  go : Nat → List UInt8 → String → String
    | 0, _, acc => acc
    | _, [], acc => acc
    | fuel + 1, bs@(_ :: _), acc =>
      let (good, n) := leading bs
      let piece := if good then (decode? (bs.take n)).getD "\uFFFD" else "\uFFFD"
      go fuel (bs.drop n) (acc ++ piece)

end HttpChain.Text
