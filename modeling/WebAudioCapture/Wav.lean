import WebAudioCapture.Handle
import WebAudioCapture.Lib.Fields

/-!
# The recorder's file

What `webacap-dump` writes: a WAV header with sizes it does not know yet, the
frames as they come, and the sizes in their places at the end; and what such a
file says to one who reads it.
-/

namespace WebAudioCapture

/-- The bytes of a literal. -/
def ascii (text : String) : List UInt8 := text.toList.map fun c => UInt8.ofNat c.toNat

/-- A `FILE`: its contents, and where the next byte goes. -/
structure File where
  bytes : List UInt8 := []
  pos : Nat := 0
  deriving DecidableEq, Repr

namespace File

/-- `fwrite` of `data`; a gap before it reads as zeros. -/
def write (f : File) (data : List UInt8) : File :=
  { bytes := f.bytes.take f.pos ++ List.replicate (f.pos - f.bytes.length) 0 ++ data ++
      f.bytes.drop (f.pos + data.length)
    pos := f.pos + data.length }

def fputc (f : File) (c : UInt8) : File := f.write [c]

/-- `fseek` from the start. -/
def seek (f : File) (pos : Nat) : File := { f with pos }

/-- `put_u32le`. -/
def putU32le (f : File) (value : UInt32) : File :=
  (((f.fputc (value &&& 0xff).toUInt8).fputc ((value >>> 8) &&& 0xff).toUInt8).fputc
    ((value >>> 16) &&& 0xff).toUInt8).fputc ((value >>> 24) &&& 0xff).toUInt8

/-- `put_u16le`. -/
def putU16le (f : File) (value : UInt16) : File :=
  (f.fputc (value &&& 0xff).toUInt8).fputc ((value >>> 8) &&& 0xff).toUInt8

theorem write_pos (f : File) (data : List UInt8) : (f.write data).pos = f.pos + data.length := rfl

/-- The front of a file up to where the next byte goes. -/
theorem length_front (f : File) :
    (f.bytes.take f.pos ++ List.replicate (f.pos - f.bytes.length) 0).length = f.pos := by
  rw [List.length_append, List.length_take, List.length_replicate]
  omega

/-- Two writes are one. -/
theorem write_write (f : File) (a b : List UInt8) : (f.write a).write b = f.write (a ++ b) := by
  have front : (f.bytes.take f.pos ++ List.replicate (f.pos - f.bytes.length) 0 ++ a).length =
      f.pos + a.length := by rw [List.length_append, length_front]
  have filled : f.pos + a.length - (f.write a).bytes.length = 0 := by
    unfold write
    dsimp only
    rw [List.length_append, front]
    omega
  have kept : (f.write a).bytes.take (f.pos + a.length) =
      f.bytes.take f.pos ++ List.replicate (f.pos - f.bytes.length) 0 ++ a :=
    List.take_left' front
  have rest : (f.write a).bytes.drop (f.pos + a.length + b.length) =
      f.bytes.drop (f.pos + (a ++ b).length) := by
    rw [← List.drop_drop, show (f.write a).bytes.drop (f.pos + a.length) =
      f.bytes.drop (f.pos + a.length) from List.drop_left' front, List.drop_drop,
      List.length_append, Nat.add_assoc]
  rw [write, write_pos, filled, kept, rest, List.replicate_zero, List.append_nil]
  unfold write
  rw [List.length_append, Nat.add_assoc, List.append_assoc _ a b]

/-- Writing at the end. -/
theorem write_end {f : File} (end_ : f.pos = f.bytes.length) (data : List UInt8) :
    f.write data = { bytes := f.bytes ++ data, pos := f.pos + data.length } := by
  rw [write, end_, List.take_length, Nat.sub_self, List.replicate_zero, List.append_nil,
    List.drop_eq_nil_of_le (Nat.le_add_right _ _), List.append_nil]

/-- Writing over what stands there. -/
theorem write_seek (a old b data : List UInt8) (pos : Nat) (same : data.length = old.length) :
    ((⟨a ++ old ++ b, pos⟩ : File).seek a.length).write data =
      ⟨a ++ data ++ b, a.length + data.length⟩ := by
  have inside : a.length - (a ++ old ++ b).length = 0 := by
    rw [List.length_append, List.length_append]
    omega
  have front : (a ++ old).length = a.length + data.length := by rw [List.length_append, same]
  unfold seek write
  dsimp only
  rw [inside, List.replicate_zero, List.append_nil, List.append_assoc a old b, List.take_left,
    ← List.append_assoc, List.drop_left' front]

theorem lowByte (value : UInt32) : (value &&& 0xff).toUInt8 = UInt8.ofNat value.toNat := by
  apply UInt8.toNat_inj.mp
  have mask : (value &&& 0xff).toNat = value.toNat % 256 :=
    Nat.and_two_pow_sub_one_eq_mod value.toNat 8
  rw [UInt32.toNat_toUInt8, mask, UInt8.toNat_ofNat', Nat.mod_mod]

theorem putU32le_eq (f : File) (value : UInt32) :
    f.putU32le value = f.write (Fields.encode 4 value.toNat) := by
  have second : (value >>> 8).toNat = value.toNat / 256 := Nat.shiftRight_eq_div_pow value.toNat 8
  have third : (value >>> 16).toNat = value.toNat / 256 / 256 := by
    rw [Nat.div_div_eq_div_mul]
    exact Nat.shiftRight_eq_div_pow value.toNat 16
  have fourth : (value >>> 24).toNat = value.toNat / 256 / 256 / 256 := by
    rw [Nat.div_div_eq_div_mul, Nat.div_div_eq_div_mul]
    exact Nat.shiftRight_eq_div_pow value.toNat 24
  rw [putU32le, fputc, fputc, fputc, fputc, lowByte, lowByte, lowByte, lowByte, second, third, fourth,
    write_write, write_write, write_write]
  rfl

theorem putU16le_eq (f : File) (value : UInt16) :
    f.putU16le value = f.write (Fields.encode 2 value.toNat) := by
  have low : ∀ v : UInt16, (v &&& 0xff).toUInt8 = UInt8.ofNat v.toNat := by
    intro v
    apply UInt8.toNat_inj.mp
    have mask : (v &&& 0xff).toNat = v.toNat % 256 := Nat.and_two_pow_sub_one_eq_mod v.toNat 8
    rw [UInt16.toNat_toUInt8, mask, UInt8.toNat_ofNat', Nat.mod_mod]
  have second : (value >>> 8).toNat = value.toNat / 256 := Nat.shiftRight_eq_div_pow value.toNat 8
  rw [putU16le, fputc, fputc, low, low, second, write_write]
  rfl

end File

/-! ## What the recorder writes -/

/-- `sample_bytes`. -/
def sampleBytes (format : SampleFormat) : Nat := if format = .s16le then 2 else 4

/-- `wav_format_code`. -/
def wavFormatCode (format : SampleFormat) : UInt16 := if format = .f32le then 3 else 1

/-- The header, with placeholders for the two sizes. -/
def writeHeader (info : FormatInfo) (out : File) : File :=
  let channels := info.channels.toUInt16
  let bits := UInt16.ofNat (sampleBytes info.format * 8)
  let out := (out.write (ascii "RIFF")).putU32le 0
  let out := (out.write (ascii "WAVEfmt ")).putU32le 16
  let out := (out.putU16le (wavFormatCode info.format)).putU16le channels
  let out := out.putU32le info.sampleRate
  let out := out.putU32le
    (info.sampleRate * channels.toUInt32 * UInt32.ofNat (sampleBytes info.format))
  let out := out.putU16le (UInt16.ofNat (channels.toNat * sampleBytes info.format))
  let out := out.putU16le bits
  (out.write (ascii "data")).putU32le 0

/-- The end of a recording: the sizes, now known. -/
def patchSizes (out : File) (dataOffset : Nat) : File :=
  let dataBytes := UInt32.ofNat (out.pos - dataOffset)
  let out := (out.seek 4).putU32le (36 + dataBytes)
  (out.seek (dataOffset - 4)).putU32le dataBytes

/-- A recording, from the header to the sizes. -/
def recording (info : FormatInfo) (frames : List (List UInt8)) : File :=
  let out := writeHeader info {}
  patchSizes (frames.foldl File.write out) out.pos

/-! ## What a reader makes of it -/

/-- The `fmt ` chunk. -/
structure WavFormat where
  code : UInt16
  channels : UInt16
  sampleRate : UInt32
  byteRate : UInt32
  blockAlign : UInt16
  bits : UInt16
  deriving DecidableEq, Repr

/-- A WAV of one `fmt ` and one `data` chunk, small enough for its sizes. -/
structure Wav where
  format : WavFormat
  data : List UInt8
  fits : 36 + data.length < 2 ^ 32
  deriving DecidableEq, Repr

namespace Wav

def fmt (format : WavFormat) : List UInt8 :=
  Fields.encode 2 format.code.toNat ++ Fields.encode 2 format.channels.toNat ++
    Fields.encode 4 format.sampleRate.toNat ++ Fields.encode 4 format.byteRate.toNat ++
    Fields.encode 2 format.blockAlign.toNat ++ Fields.encode 2 format.bits.toNat

/-- A header that gives its two sizes as `riff` and `count`. -/
def header (format : WavFormat) (riff count : Nat) : List UInt8 :=
  ascii "RIFF" ++ Fields.encode 4 riff ++ ascii "WAVEfmt " ++ Fields.encode 4 16 ++ fmt format ++
    ascii "data" ++ Fields.encode 4 count

def render (w : Wav) : List UInt8 :=
  header w.format (36 + w.data.length) w.data.length ++ w.data

def parseFmt (bytes : List UInt8) : Option (WavFormat × List UInt8) := do
  let (code, bytes) ← Fields.take 2 bytes
  let (channels, bytes) ← Fields.take 2 bytes
  let (sampleRate, bytes) ← Fields.take 4 bytes
  let (byteRate, bytes) ← Fields.take 4 bytes
  let (blockAlign, bytes) ← Fields.take 2 bytes
  let (bits, bytes) ← Fields.take 2 bytes
  some ({ code := .ofNat code, channels := .ofNat channels, sampleRate := .ofNat sampleRate
          byteRate := .ofNat byteRate, blockAlign := .ofNat blockAlign, bits := .ofNat bits }, bytes)

/-- Read a file: every size in it must be the true one. -/
def parse (bytes : List UInt8) : Option Wav := do
  let bytes ← (ascii "RIFF").isPrefixOf? bytes
  let (riff, bytes) ← Fields.take 4 bytes
  let bytes ← (ascii "WAVEfmt ").isPrefixOf? bytes
  let (size, bytes) ← Fields.take 4 bytes
  let (format, bytes) ← parseFmt bytes
  let bytes ← (ascii "data").isPrefixOf? bytes
  let (count, data) ← Fields.take 4 bytes
  if fits : 36 + data.length < 2 ^ 32 then
    if size = 16 ∧ riff = 36 + data.length ∧ count = data.length then some ⟨format, data, fits⟩
    else none
  else none

theorem ofNat_toNat16 (v : UInt16) : UInt16.ofNat (v.toNat % 256 ^ 2) = v := by
  have small : v.toNat < 256 ^ 2 := v.toNat_lt
  rw [Nat.mod_eq_of_lt small, UInt16.ofNat_toNat]

theorem ofNat_toNat32 (v : UInt32) : UInt32.ofNat (v.toNat % 256 ^ 4) = v := by
  have small : v.toNat < 256 ^ 4 := v.toNat_lt
  rw [Nat.mod_eq_of_lt small, UInt32.ofNat_toNat]

theorem toNat_ofNat16 {n : Nat} (small : n < 256 ^ 2) : (UInt16.ofNat n).toNat = n :=
  UInt16.toNat_ofNat'.trans (Nat.mod_eq_of_lt small)

theorem toNat_ofNat32 {n : Nat} (small : n < 256 ^ 4) : (UInt32.ofNat n).toNat = n :=
  UInt32.toNat_ofNat'.trans (Nat.mod_eq_of_lt small)

theorem parseFmt_fmt (format : WavFormat) (rest : List UInt8) :
    parseFmt (fmt format ++ rest) = some (format, rest) := by
  simp only [parseFmt, fmt, List.append_assoc, Fields.take_encode, Option.bind_eq_bind,
    Option.bind_some, ofNat_toNat16, ofNat_toNat32]

theorem fmt_of_parseFmt {bytes rest : List UInt8} {format : WavFormat}
    (h : parseFmt bytes = some (format, rest)) : bytes = fmt format ++ rest := by
  simp only [parseFmt, Option.bind_eq_bind, Option.bind_eq_some_iff, Prod.exists, Option.some.injEq,
    Prod.mk.injEq] at h
  obtain ⟨code, _, h1, channels, _, h2, rate, _, h3, bytes, _, h4, align, _, h5, bits, _, h6, rfl,
    rfl⟩ := h
  obtain ⟨rfl, lt1⟩ := Fields.take_inv h1
  obtain ⟨rfl, lt2⟩ := Fields.take_inv h2
  obtain ⟨rfl, lt3⟩ := Fields.take_inv h3
  obtain ⟨rfl, lt4⟩ := Fields.take_inv h4
  obtain ⟨rfl, lt5⟩ := Fields.take_inv h5
  obtain ⟨rfl, lt6⟩ := Fields.take_inv h6
  simp only [fmt, List.append_assoc, toNat_ofNat16 lt1, toNat_ofNat16 lt2, toNat_ofNat32 lt3,
    toNat_ofNat32 lt4, toNat_ofNat16 lt5, toNat_ofNat16 lt6]

/-- The reader on any header and data. -/
theorem parse_header (format : WavFormat) (riff count : Nat) (data : List UInt8) :
    parse (header format riff count ++ data) =
      if fits : 36 + data.length < 2 ^ 32 then
        if riff % 256 ^ 4 = 36 + data.length ∧ count % 256 ^ 4 = data.length then
          some ⟨format, data, fits⟩
        else none
      else none := by
  have sixteen : 16 % 256 ^ 4 = 16 := rfl
  simp only [parse, header, List.append_assoc, Fields.isPrefixOf?_append, Fields.take_encode,
    parseFmt_fmt, Option.bind_eq_bind, Option.bind_some, sixteen, true_and]

/-- A rendered WAV reads back, and only rendered ones are read. -/
theorem parse_eq_some_iff {bytes : List UInt8} {w : Wav} :
    parse bytes = some w ↔ bytes = w.render := by
  constructor
  · intro h
    simp only [parse, Option.bind_eq_bind, Option.bind_eq_some_iff, Prod.exists] at h
    obtain ⟨_, tag1, riff, _, h1, _, tag2, size, _, h2, format, _, h3, _, tag3, count, data, h4,
      sized⟩ := h
    split at sized
    · split at sized
      · rename_i fits sizes
        cases sized
        obtain ⟨rfl, rfl, rfl⟩ := sizes
        rw [← List.isPrefixOf?_eq_some_iff_append_eq.mp tag1, (Fields.take_inv h1).1,
          ← List.isPrefixOf?_eq_some_iff_append_eq.mp tag2, (Fields.take_inv h2).1,
          fmt_of_parseFmt h3, ← List.isPrefixOf?_eq_some_iff_append_eq.mp tag3,
          (Fields.take_inv h4).1]
        simp only [render, header, List.append_assoc]
      · cases sized
    · cases sized
  · rintro rfl
    have small : w.data.length % 256 ^ 4 = w.data.length :=
      Nat.mod_eq_of_lt (by have := w.fits; omega)
    have whole : (36 + w.data.length) % 256 ^ 4 = 36 + w.data.length := Nat.mod_eq_of_lt w.fits
    rw [render, parse_header, dif_pos w.fits, if_pos ⟨whole, small⟩]

end Wav

/-! ## A recording, read back -/

/-- What the header says of `info`. -/
def formatOf (info : FormatInfo) : WavFormat :=
  { code := wavFormatCode info.format
    channels := info.channels.toUInt16
    sampleRate := info.sampleRate
    byteRate := info.sampleRate * info.channels.toUInt16.toUInt32 *
      UInt32.ofNat (sampleBytes info.format)
    blockAlign := UInt16.ofNat (info.channels.toUInt16.toNat * sampleBytes info.format)
    bits := UInt16.ofNat (sampleBytes info.format * 8) }

theorem length_fmt (format : WavFormat) : (Wav.fmt format).length = 16 := by
  simp only [Wav.fmt, List.length_append, Fields.length_encode]

theorem length_header (format : WavFormat) (riff count : Nat) :
    (Wav.header format riff count).length = 44 := by
  have tags : (ascii "RIFF").length = 4 ∧ (ascii "WAVEfmt ").length = 8 ∧
      (ascii "data").length = 4 := ⟨rfl, rfl, rfl⟩
  simp only [Wav.header, List.length_append, Fields.length_encode, length_fmt, tags]

theorem writeHeader_eq (info : FormatInfo) :
    writeHeader info {} = { bytes := Wav.header (formatOf info) 0 0, pos := 44 } := by
  have length := length_header (formatOf info) 0 0
  have written : writeHeader info {} = ({} : File).write (Wav.header (formatOf info) 0 0) := by
    simp only [writeHeader, File.putU32le_eq, File.putU16le_eq, File.write_write]
    simp only [Wav.header, Wav.fmt, formatOf, List.append_assoc]
    rfl
  rw [written, File.write_end rfl, length]
  rfl

/-- Frames are appended. -/
theorem foldl_write (frames : List (List UInt8)) {f : File} (end_ : f.pos = f.bytes.length) :
    frames.foldl File.write f =
      { bytes := f.bytes ++ frames.flatten, pos := f.pos + frames.flatten.length } := by
  induction frames generalizing f with
  | nil => rw [List.foldl_nil, List.flatten_nil, List.append_nil, List.length_nil, Nat.add_zero]
  | cons frame frames ih =>
    rw [List.foldl_cons, File.write_end end_, ih, List.flatten_cons]
    · simp only [List.append_assoc, List.length_append, Nat.add_assoc]
    · dsimp only
      rw [List.length_append, end_]

/-- The sizes go where the placeholders were. -/
theorem patchSizes_eq (format : WavFormat) (data : List UInt8) :
    (patchSizes ⟨Wav.header format 0 0 ++ data, 44 + data.length⟩ 44).bytes =
      Wav.header format ((36 + data.length) % 2 ^ 32) (data.length % 2 ^ 32) ++ data := by
  have count : (UInt32.ofNat data.length).toNat = data.length % 2 ^ 32 := UInt32.toNat_ofNat'
  have riff : (36 + UInt32.ofNat data.length).toNat = (36 + data.length) % 2 ^ 32 := by
    have small : (36 : UInt32).toNat = 36 := rfl
    rw [UInt32.toNat_add, count, small]
    omega
  have length : 44 + data.length - 44 = data.length := Nat.add_sub_cancel_left ..
  -- the size of the whole stands behind the first tag
  have first (rest : List UInt8) (size pos : Nat) :
      ((⟨ascii "RIFF" ++ Fields.encode 4 0 ++ rest, pos⟩ : File).seek 4).write
        (Fields.encode 4 size) = ⟨ascii "RIFF" ++ Fields.encode 4 size ++ rest, 8⟩ :=
    File.write_seek (ascii "RIFF") (Fields.encode 4 0) rest (Fields.encode 4 size) pos rfl
  -- that of the data ends the header
  have second (size pos : Nat) :
      ((⟨ascii "RIFF" ++ Fields.encode 4 size ++ (ascii "WAVEfmt " ++ Fields.encode 4 16 ++
        Wav.fmt format ++ ascii "data" ++ Fields.encode 4 0 ++ data), pos⟩ : File).seek 40).write
        (Fields.encode 4 (data.length % 2 ^ 32)) =
      ⟨Wav.header format size (data.length % 2 ^ 32) ++ data, 44⟩ := by
    have front : (ascii "RIFF" ++ Fields.encode 4 size ++ ascii "WAVEfmt " ++ Fields.encode 4 16 ++
        Wav.fmt format ++ ascii "data").length = 40 := by
      simp only [List.length_append, Fields.length_encode, length_fmt]
      rfl
    have written := File.write_seek (ascii "RIFF" ++ Fields.encode 4 size ++ ascii "WAVEfmt " ++
      Fields.encode 4 16 ++ Wav.fmt format ++ ascii "data") (Fields.encode 4 0) data
      (Fields.encode 4 (data.length % 2 ^ 32)) pos rfl
    rw [front, Fields.length_encode] at written
    simp only [Wav.header, List.append_assoc] at written ⊢
    exact written
  have placed (pos : Nat) : (⟨Wav.header format 0 0 ++ data, pos⟩ : File) =
      ⟨ascii "RIFF" ++ Fields.encode 4 0 ++ (ascii "WAVEfmt " ++ Fields.encode 4 16 ++
        Wav.fmt format ++ ascii "data" ++ Fields.encode 4 0 ++ data), pos⟩ := by
    simp only [Wav.header, List.append_assoc]
  rw [patchSizes, length]
  simp only [File.putU32le_eq, count, riff]
  rw [placed, first, second]

/-- What a recording holds: its header, with the two sizes cut to 32 bits, and its
frames. -/
theorem recording_bytes (info : FormatInfo) (frames : List (List UInt8)) :
    (recording info frames).bytes =
      Wav.header (formatOf info) ((36 + frames.flatten.length) % 2 ^ 32)
        (frames.flatten.length % 2 ^ 32) ++ frames.flatten := by
  have length := length_header (formatOf info) 0 0
  have written : recording info frames =
      patchSizes ⟨Wav.header (formatOf info) 0 0 ++ frames.flatten, 44 + frames.flatten.length⟩
        44 := by
    rw [recording, writeHeader_eq, foldl_write frames (by rw [length])]
  rw [written, patchSizes_eq]

/-- It is a WAV exactly when its sizes can be told. -/
theorem parse_recording (info : FormatInfo) (frames : List (List UInt8)) :
    Wav.parse (recording info frames).bytes =
      if fits : 36 + frames.flatten.length < 2 ^ 32 then
        some ⟨formatOf info, frames.flatten, fits⟩
      else none := by
  have wide : (256 : Nat) ^ 4 = 2 ^ 32 := rfl
  rw [recording_bytes, Wav.parse_header, wide, Nat.mod_mod, Nat.mod_mod]
  split
  · rename_i fits
    rw [if_pos ⟨Nat.mod_eq_of_lt fits, Nat.mod_eq_of_lt (by omega)⟩]
  · rfl

/-- A recording is, byte for byte, the WAV of its format and its frames, and no
other: where they are too long for one, it is none. -/
theorem recording_renders_iff (info : FormatInfo) (frames : List (List UInt8)) (w : Wav) :
    (recording info frames).bytes = w.render ↔
      w.format = formatOf info ∧ w.data = frames.flatten := by
  rw [← Wav.parse_eq_some_iff, parse_recording]
  constructor
  · intro h
    split at h
    · cases h
      exact ⟨rfl, rfl⟩
    · cases h
  · rintro ⟨format, data⟩
    have fits := w.fits
    rw [data] at fits
    rw [dif_pos fits, Option.some.injEq]
    cases w
    cases format
    cases data
    rfl

end WebAudioCapture
