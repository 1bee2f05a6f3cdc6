import VpsGuardian.Lib.Bytes
import VpsGuardian.Lib.FileTree
import VpsGuardian.Lib.Utf8Order

/-!
Names of files as a disk has them: bytes.

`os.fsdecode` makes a text of the bytes, in which a low surrogate stands for a
byte that belongs to no UTF-8. `os.fsencode` takes the text back to the bytes,
so two names of one text are one name.
-/

namespace VpsGuardian.Lib

/-! ### Texts of bytes -/

/-- The bytes of a code point. The surrogates that stand for no byte have none in Python; no text
of bytes has such a surrogate. -/
def fsencodeChar (c : CodePoint) : Bytes :=
  if 0xDC80 ≤ c.val ∧ c.val ≤ 0xDCFF then [UInt8.ofNat (c.val - 0xDC00)]
  else (utf8Char c.val).map UInt8.ofNat

def fsencode (s : Text) : Bytes := s.flatMap fsencodeChar

/-- The number in the payload of the UTF-8 sequence that some bytes may begin with. -/
def payload (bytes : Bytes) : Nat :=
  let byte (i : Nat) : Nat := (bytes.getD i 0).toNat
  if byte 0 < 0x80 then byte 0
  else if byte 0 < 0xE0 then byte 0 % 32 * 64 + byte 1 % 64
  else if byte 0 < 0xF0 then (byte 0 % 16 * 64 + byte 1 % 64) * 64 + byte 2 % 64
  else ((byte 0 % 8 * 64 + byte 1 % 64) * 64 + byte 2 % 64) * 64 + byte 3 % 64

/-- The character whose UTF-8 some bytes begin with. -/
def character? (bytes : Bytes) : Option CodePoint :=
  let c := Fin.ofNat 0x110000 (payload bytes)
  if !Text.isHigh c && !Text.isLow c && (fsencodeChar c).isPrefixOf bytes then some c else none

/-- What stands for a byte that belongs to no UTF-8. -/
def escapeByte (b : UInt8) : CodePoint := Fin.ofNat 0x110000 (0xDC00 + b.toNat)

/-- The first argument counts the bytes that belong to the last character. -/
def decodeFrom : Nat → Bytes → Text
  | _, [] => []
  | skip + 1, _ :: rest => decodeFrom skip rest
  | 0, b :: rest =>
      match character? (b :: rest) with
      | some c => c :: decodeFrom ((fsencodeChar c).length - 1) rest
      | none => escapeByte b :: decodeFrom 0 rest

def fsdecode (bytes : Bytes) : Text := decodeFrom 0 bytes

theorem fsencodeChar_ne_nil (c : CodePoint) : fsencodeChar c ≠ [] := by
  unfold fsencodeChar
  split_ifs
  · exact List.cons_ne_nil _ _
  · simpa using utf8Char_ne_nil c.val

/-- A byte that begins no character is no ASCII. -/
theorem le_of_character?_eq_none {b : UInt8} {rest : Bytes} (h : character? (b :: rest) = none) :
    0x80 ≤ b.toNat := by
  by_contra hlt
  have hascii : b.toNat < 0x80 := by omega
  have hpayload : payload (b :: rest) = b.toNat := by simp [payload, hascii]
  have hval : (Fin.ofNat 0x110000 b.toNat : CodePoint).val = b.toNat :=
    Nat.mod_eq_of_lt (by omega)
  have hencode : fsencodeChar (Fin.ofNat 0x110000 b.toNat) = [b] := by
    rw [fsencodeChar, hval, if_neg (by omega), utf8Char, if_pos hascii]
    simp
  have hhigh : Text.isHigh (Fin.ofNat 0x110000 b.toNat) = false := by
    simp only [Text.isHigh, Json.isHighSurrogate, hval, Bool.and_eq_false_iff,
      decide_eq_false_iff_not]
    omega
  have hlow : Text.isLow (Fin.ofNat 0x110000 b.toNat) = false := by
    simp only [Text.isLow, Json.isLowSurrogate, hval, Bool.and_eq_false_iff,
      decide_eq_false_iff_not]
    omega
  have hsome : character? (b :: rest) = some (Fin.ofNat 0x110000 b.toNat) := by
    rw [character?, hpayload]
    refine if_pos ?_
    rw [hhigh, hlow, hencode, List.isPrefixOf_cons_cons, beq_self_eq_true, List.isPrefixOf_nil_left]
    rfl
  rw [hsome] at h
  cases h

theorem val_escapeByte (b : UInt8) : (escapeByte b).val = 0xDC00 + b.toNat := by
  have hlt := b.toNat_lt
  exact Nat.mod_eq_of_lt (by omega)

theorem fsencodeChar_escapeByte {b : UInt8} (h : 0x80 ≤ b.toNat) :
    fsencodeChar (escapeByte b) = [b] := by
  have hlt := b.toNat_lt
  rw [fsencodeChar, val_escapeByte, if_pos (by omega), Nat.add_sub_cancel_left]
  simp

theorem fsencode_decodeFrom (bytes : Bytes) (skip : Nat) :
    fsencode (decodeFrom skip bytes) = bytes.drop skip := by
  induction bytes generalizing skip with
  | nil => simp [decodeFrom, fsencode]
  | cons b rest ih =>
    cases skip with
    | succ skip => exact ih skip
    | zero =>
      cases hc : character? (b :: rest) with
      | none =>
        simp only [decodeFrom, hc]
        rw [fsencode, List.flatMap_cons, fsencodeChar_escapeByte (le_of_character?_eq_none hc)]
        exact congrArg (b :: ·) (ih 0)
      | some c =>
        simp only [decodeFrom, hc]
        have hprefix : fsencodeChar c <+: b :: rest := by
          simp only [character?, Option.ite_none_right_eq_some, Bool.and_eq_true,
            List.isPrefixOf_iff_prefix, Option.some.injEq] at hc
          exact hc.2 ▸ hc.1.2
        obtain ⟨first, more, hencode⟩ := List.exists_cons_of_ne_nil (fsencodeChar_ne_nil c)
        obtain ⟨after, hafter⟩ := hprefix
        rw [hencode, List.cons_append] at hafter
        obtain ⟨rfl, rfl⟩ := List.cons.inj hafter
        rw [fsencode, List.flatMap_cons, hencode]
        change first :: more ++ fsencode (decodeFrom more.length (more ++ after)) = _
        rw [ih, List.drop_left, List.cons_append, List.drop_zero]

/-- A text of bytes goes back to the bytes. -/
theorem fsencode_fsdecode (bytes : Bytes) : fsencode (fsdecode bytes) = bytes :=
  fsencode_decodeFrom bytes 0

theorem fsdecode_injective : Function.Injective fsdecode :=
  Function.LeftInverse.injective fsencode_fsdecode

/-- The only surrogates in a text of bytes stand for bytes. -/
theorem surrogate_of_mem_decodeFrom {bytes : Bytes} {skip : Nat} {c : CodePoint}
    (h : c ∈ decodeFrom skip bytes) :
    c.val < 0xD800 ∨ 0xDFFF < c.val ∨ (0xDC80 ≤ c.val ∧ c.val ≤ 0xDCFF) := by
  induction bytes generalizing skip with
  | nil => simp [decodeFrom] at h
  | cons b rest ih =>
    cases skip with
    | succ skip => exact ih h
    | zero =>
      cases hc : character? (b :: rest) with
      | none =>
        simp only [decodeFrom, hc, List.mem_cons] at h
        obtain rfl | h := h
        · have hlt := b.toNat_lt
          have hle := le_of_character?_eq_none hc
          rw [val_escapeByte]
          omega
        · exact ih h
      | some d =>
        simp only [decodeFrom, hc, List.mem_cons] at h
        obtain rfl | h := h
        · simp only [character?, Option.ite_none_right_eq_some, Bool.and_eq_true,
            Bool.not_eq_true', Option.some.injEq] at hc
          obtain ⟨⟨⟨hhigh, hlow⟩, -⟩, rfl⟩ := hc
          simp only [Text.isHigh, Json.isHighSurrogate, Text.isLow, Json.isLowSurrogate,
            Bool.and_eq_false_iff, decide_eq_false_iff_not] at hhigh hlow
          omega
        · exact ih h

theorem not_isHigh_of_mem_fsdecode {bytes : Bytes} {c : CodePoint} (h : c ∈ fsdecode bytes) :
    Text.isHigh c = false := by
  have hchar := surrogate_of_mem_decodeFrom h
  simp only [Text.isHigh, Json.isHighSurrogate, Bool.and_eq_false_iff, decide_eq_false_iff_not]
  omega

/-! ### Names -/

/-- Byte strings compare as the lists of their numbers. -/
def numbers (bytes : Bytes) : List Nat := bytes.map UInt8.toNat

def isDiskName (bytes : Bytes) : Bool :=
  bytes != [] && bytes != [46] && bytes != [46, 46] && !bytes.contains 0 && !bytes.contains 47

structure DiskName where
  bytes : Bytes
  valid : isDiskName bytes = true

namespace DiskName

theorem bytes_injective : Function.Injective DiskName.bytes := by
  rintro ⟨b, hb⟩ ⟨c, hc⟩ h
  cases h
  rfl

theorem numbers_injective : Function.Injective fun name : DiskName => numbers name.bytes :=
  (List.map_injective_iff.mpr fun _ _ h => UInt8.toNat_inj.mp h).comp bytes_injective

/-- Names are in the order of their bytes. -/
instance linearOrder : LinearOrder DiskName :=
  LinearOrder.lift' (fun name => numbers name.bytes) numbers_injective

/-- An ASCII character of the text is one of the bytes. -/
theorem mem_of_mem_fsdecode {bytes : Bytes} {c : CodePoint} (h : c ∈ fsdecode bytes)
    (hascii : c.val < 0x80) : UInt8.ofNat c.val ∈ bytes := by
  have hencode : fsencodeChar c = [UInt8.ofNat c.val] := by
    rw [fsencodeChar, if_neg (by omega), utf8Char, if_pos hascii]
    rfl
  rw [← fsencode_fsdecode bytes]
  exact List.mem_flatMap.mpr ⟨c, h, hencode ▸ List.mem_singleton_self _⟩

theorem isFileName_fsdecode {bytes : Bytes} (h : isDiskName bytes = true) :
    isFileName (fsdecode bytes) = true := by
  simp only [isDiskName, Bool.and_eq_true, bne_iff_ne, Bool.not_eq_true', List.contains_eq_mem,
    decide_eq_false_iff_not] at h
  obtain ⟨⟨⟨⟨hnil, hdot⟩, hdots⟩, hzero⟩, hslash⟩ := h
  have hne {s : Text} {b : Bytes} (hb : fsencode s = b) (hbytes : bytes ≠ b) :
      fsdecode bytes ≠ s := fun heq => hbytes (by rw [← fsencode_fsdecode bytes, heq, hb])
  simp only [isFileName, Bool.and_eq_true, bne_iff_ne, List.all_eq_true]
  refine ⟨⟨⟨hne rfl hnil, hne rfl hdot⟩, hne rfl hdots⟩, fun c hc => ?_⟩
  have hchar := surrogate_of_mem_decodeFrom hc
  simp only [isNameChar, Bool.and_eq_true, bne_iff_ne, Bool.or_eq_true, decide_eq_true_eq]
  refine ⟨⟨fun heq => hslash ?_, fun heq => hzero ?_⟩, by omega⟩
  · subst heq
    exact mem_of_mem_fsdecode hc (by decide)
  · have hmem := mem_of_mem_fsdecode hc (by omega)
    rwa [heq] at hmem

/-- What `os.scandir` returns. -/
def fileName (name : DiskName) : FileName := ⟨fsdecode name.bytes, isFileName_fsdecode name.valid⟩

theorem fileName_injective : Function.Injective fileName := fun _ _ h =>
  bytes_injective (fsdecode_injective (congrArg FileName.text h))

end DiskName

end VpsGuardian.Lib
