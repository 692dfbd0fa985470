import Mathlib.Data.List.DropRight
import Kergit.KeyPairs
import Kergit.KeyRaces

/-!
The blob a channel key is stored as: a version byte, the nonce, the ciphertext and the tag, in base64.

`EVP_EncodeBlock` and `EVP_DecodeBlock` are the standard base64 of whole blocks; the decoder trims
its text first, and takes a pad for a zero and counts it, so `base64_decode` takes the pads off
again.  AES-256-GCM is a parameter.
-/

namespace Kergit

/-- AES-256-GCM, each with key, nonce and text; the ciphertext comes with its tag. -/
structure Gcm where
  encrypt : List UInt8 → List UInt8 → List UInt8 → List UInt8 × List UInt8
  decrypt : List UInt8 → List UInt8 → List UInt8 → List UInt8 → Option (List UInt8)

namespace KeyBlobs

def alphabet : List Char := "ABCDEFGHIJKLMNOPQRSTUVWXYZabcdefghijklmnopqrstuvwxyz0123456789+/".toList

/-- The character of the last six bits. -/
def symbol (n : Nat) : Char := alphabet.getD (n % 64) '='

def sextet (c : Char) : Option Nat := if c = '=' then some 0 else alphabet.idxOf? c

/-- Three bytes as one number. -/
def packed (a b c : UInt8) : Nat := a.toNat * 65536 + b.toNat * 256 + c.toNat

-- `EVP_EncodeBlock`.
def encodeBlock : List UInt8 → List Char
  | a :: b :: c :: rest =>
    symbol (packed a b c / 262144) :: symbol (packed a b c / 4096) :: symbol (packed a b c / 64) ::
      symbol (packed a b c) :: encodeBlock rest
  | [a, b] =>
    [symbol (packed a b 0 / 262144), symbol (packed a b 0 / 4096), symbol (packed a b 0 / 64), '=']
  | [a] => [symbol (packed a 0 0 / 262144), symbol (packed a 0 0 / 4096), '=', '=']
  | [] => []

/-- `B64_WS`. -/
def isBlank (c : Char) : Bool := c = ' ' || c = '\t'

/-- `B64_NOT_BASE64`: blanks, ends of lines and the end of a text. -/
def endsText (c : Char) : Bool := isBlank c || c = '\n' || c = '\r' || c = '-'

/-- Without the blanks in front, and without what ends it; three characters are left alone. -/
def trimmed (text : List Char) : List Char :=
  let text := text.dropWhile isBlank
  text.take 3 ++ (text.drop 3).rdropWhile endsText

/-- Four characters at a time. -/
def decodeQuads : List Char → Option (List UInt8)
  | [] => some []
  | a :: b :: c :: d :: rest => do
    let n := (← sextet a) * 262144 + (← sextet b) * 4096 + (← sextet c) * 64 + (← sextet d)
    return UInt8.ofNat (n / 65536 % 256) :: UInt8.ofNat (n / 256 % 256) :: UInt8.ofNat (n % 256) ::
      (← decodeQuads rest)
  | _ => none

-- `EVP_DecodeBlock`; `none` is a negative length.
def decodeBlock (text : List Char) : Option (List UInt8) := decodeQuads (trimmed text)

def base64Encode (input : List UInt8) : List Char :=
  if input = [] then [] else encodeBlock input

/-- The pads in the last two places. -/
def pads (input : List Char) : Nat :=
  (if input.getLast? = some '=' then 1 else 0) +
    if 1 < input.length ∧ input.dropLast.getLast? = some '=' then 1 else 0

def base64Decode (input : List Char) : Option (List UInt8) :=
  if input = [] then some []
  else if input.length % 4 ≠ 0 then none
  else (decodeBlock input).map fun out => out.take (out.length - pads input)

variable (gcm : Gcm) (masterKey : List UInt8)

-- `encrypt_key_blob`, with the nonce that was drawn.
def encryptKeyBlob (nonce plaintext : List UInt8) : List Char :=
  let (ciphertext, tag) := gcm.encrypt masterKey nonce plaintext
  base64Encode (1 :: nonce ++ ciphertext ++ tag)

def decryptKeyBlob (encoded : List Char) : Option (List UInt8) :=
  match base64Decode encoded with
  | none => none
  | some packed =>
    if packed.length < 1 + 12 + 16 then none
    else if packed.head? ≠ some 1 then none
    else
      gcm.decrypt masterKey ((packed.drop 1).take 12)
        ((packed.drop (1 + 12)).take (packed.length - (1 + 12 + 16)))
        (packed.drop (packed.length - 16))

/-- `encrypt_key_blob` of a key as the voice model has it, with the nonce that was drawn. -/
def sealKey (nonce : List UInt8) (key : String) : Option String :=
  some (String.ofList (encryptKeyBlob gcm masterKey nonce key.toByteArray.data.toList))

def openBlob (blob : String) : Option String :=
  (decryptKeyBlob gcm masterKey blob.toList).bind fun plaintext =>
    String.fromUTF8? ⟨plaintext.toArray⟩

/-! ## Base64 -/

theorem sextet_symbol (n : Nat) : sextet (symbol n) = some (n % 64) ∧ symbol n ≠ '=' := by
  have all : ∀ i < 64, sextet (alphabet.getD i '=') = some i ∧ alphabet.getD i '=' ≠ '=' := by
    decide +kernel
  exact all (n % 64) (Nat.mod_lt n (by decide))

theorem endsText_symbol (n : Nat) : endsText (symbol n) = false := by
  have all : ∀ i < 64, endsText (alphabet.getD i '=') = false := by decide +kernel
  exact all (n % 64) (Nat.mod_lt n (by decide))

theorem sextets_whole (small : n < 16777216) :
    n / 262144 % 64 * 262144 + n / 4096 % 64 * 4096 + n / 64 % 64 * 64 + n % 64 = n := by
  omega

/-- Four characters are the three bytes they were made of. -/
theorem decodeQuads_cons (a b c : UInt8) (rest : List Char)
    (is : sextet third = some (packed a b c / 64 % 64))
    (is' : sextet fourth = some (packed a b c % 64)) :
    decodeQuads (symbol (packed a b c / 262144) :: symbol (packed a b c / 4096) :: third :: fourth ::
      rest) = (decodeQuads rest).map fun bytes => a :: b :: c :: bytes := by
  have small := a.toNat_lt
  have small' := b.toNat_lt
  have small'' := c.toNat_lt
  have whole : _ = packed a b c := sextets_whole (by unfold packed; omega)
  have first : packed a b c / 65536 % 256 = a.toNat := by unfold packed; omega
  have second : packed a b c / 256 % 256 = b.toNat := by unfold packed; omega
  have last : packed a b c % 256 = c.toNat := by unfold packed; omega
  simp only [decodeQuads, (sextet_symbol _).1, is, is', Option.pure_def, Option.bind_eq_bind,
    Option.bind_some, whole, first, second, last, UInt8.ofNat_toNat]
  cases decodeQuads rest <;> rfl

variable (bytes : List UInt8)

theorem length_encodeBlock : (encodeBlock bytes).length = 4 * ((bytes.length + 2) / 3) := by
  fun_induction encodeBlock bytes with
  | case1 a b c rest ih =>
    simp only [List.length_cons, ih]
    omega
  | case2 | case3 | case4 => simp

theorem pads_cons (long : 2 ≤ text.length) : pads (a :: b :: c :: d :: text) = pads text := by
  match text, long with
  | e :: f :: rest, _ => simp [pads]

/-- Blocks decode to what was encoded, with a zero for every pad. -/
theorem decode_encode :
    decodeQuads (encodeBlock bytes) =
      some (bytes ++ List.replicate (pads (encodeBlock bytes)) 0) := by
  fun_induction encodeBlock bytes with
  | case1 a b c rest ih =>
    rw [decodeQuads_cons a b c _ (sextet_symbol _).1 (sextet_symbol _).1, ih]
    cases rest with
    | nil => simp [encodeBlock, pads, sextet_symbol]
    | cons d rest =>
      have long := length_encodeBlock (d :: rest)
      rw [List.length_cons] at long
      rw [pads_cons (by omega)]
      rfl
  | case2 a b =>
    have last : packed a b 0 % 64 = 0 := by simp [packed]; omega
    rw [decodeQuads_cons a b 0 [] (sextet_symbol _).1 (last ▸ rfl)]
    simp [pads, decodeQuads, sextet_symbol]
  | case3 a =>
    have third : packed a 0 0 / 64 % 64 = 0 := by simp [packed]; omega
    have last : packed a 0 0 % 64 = 0 := by simp [packed]; omega
    rw [decodeQuads_cons a 0 0 [] (third ▸ rfl) (last ▸ rfl)]
    simp [pads, decodeQuads]
  | case4 => rfl

theorem endsText_encodeBlock : ∀ c ∈ encodeBlock bytes, endsText c = false := by
  have pad : endsText '=' = false := by decide
  fun_induction encodeBlock bytes with
  | case1 a b c rest ih => simpa [endsText_symbol] using ih
  | case2 | case3 | case4 => simp [endsText_symbol, pad]

/-- A text without ends is not trimmed. -/
theorem trimmed_eq_self (plain : ∀ c ∈ text, endsText c = false) : trimmed text = text := by
  have front : text.dropWhile isBlank = text := by
    cases text with
    | nil => rfl
    | cons c rest =>
      have shown := plain c List.mem_cons_self
      simp only [endsText, Bool.or_eq_false_iff] at shown
      exact List.dropWhile_cons_of_neg (by simp [shown])
  have back : (text.drop 3).rdropWhile endsText = text.drop 3 := by
    rw [List.rdropWhile_eq_self_iff]
    intro long
    rw [plain _ (List.mem_of_mem_drop (List.getLast_mem long))]
    exact Bool.false_ne_true
  simp only [trimmed, front, back, List.take_append_drop]

theorem base64_round_trip : base64Decode (base64Encode bytes) = some bytes := by
  unfold base64Encode
  split
  · rename_i empty
    rw [empty]
    rfl
  · rename_i some
    have length := length_encodeBlock bytes
    have positive := List.length_pos_iff.mpr some
    have nonempty : encodeBlock bytes ≠ [] := by
      rw [← List.length_pos_iff]
      omega
    rw [base64Decode, if_neg nonempty, if_neg (by omega), decodeBlock,
      trimmed_eq_self (endsText_encodeBlock bytes), decode_encode]
    simp

/-! ## The frame -/

variable {gcm masterKey}

theorem decryptKeyBlob_framed (framed : encoded.length % 4 ≠ 0 ∨ ∀ packed,
    base64Decode encoded = some packed → packed.length < 29 ∨ packed.head? ≠ some 1) :
    decryptKeyBlob gcm masterKey encoded = none := by
  unfold decryptKeyBlob
  cases decoded : base64Decode encoded with
  | none => rfl
  | some packed =>
    have whole : ¬ encoded.length % 4 ≠ 0 := by
      intro odd
      rw [base64Decode, if_neg (by rintro rfl; exact odd rfl), if_pos odd] at decoded
      cases decoded
    rcases framed.resolve_left whole packed decoded with short | version
    · exact if_pos short
    · dsimp only
      rw [if_pos version, ite_self]

section Cipher

variable (tagged : ∀ key nonce plain, (gcm.encrypt key nonce plain).2.length = 16)
  (inverts : ∀ key nonce plain, gcm.decrypt key nonce (gcm.encrypt key nonce plain).1
    (gcm.encrypt key nonce plain).2 = some plain)

include tagged inverts

theorem decrypt_encryptKeyBlob (plaintext : List UInt8) (drawn : nonce.length = 12) :
    decryptKeyBlob gcm masterKey (encryptKeyBlob gcm masterKey nonce plaintext) =
      some plaintext := by
  have tag := tagged masterKey nonce plaintext
  have opened := inverts masterKey nonce plaintext
  rcases cipher : gcm.encrypt masterKey nonce plaintext with ⟨ciphertext, tag'⟩
  simp only [cipher] at tag opened
  have length : (1 :: nonce ++ ciphertext ++ tag').length = ciphertext.length + 29 := by
    simp only [List.length_append, List.length_cons, drawn, tag]
    omega
  have first : (nonce ++ (ciphertext ++ tag')).take 12 = nonce := List.take_left' drawn
  have middle : (nonce ++ (ciphertext ++ tag')).drop 12 = ciphertext ++ tag' :=
    List.drop_left' drawn
  have last : (nonce ++ (ciphertext ++ tag')).drop (ciphertext.length + 12) = tag' := by
    rw [← List.append_assoc]
    exact List.drop_left' (by simp [drawn, Nat.add_comm])
  simp only [encryptKeyBlob, decryptKeyBlob, base64_round_trip, cipher, length]
  simp [first, middle, last, opened]

variable (gcm masterKey)

/-- **A stored key reads back**, and nothing that is not framed as one does, for every cipher that
undoes its encryption. -/
theorem key_blob_round_trip :
    (∀ nonce plaintext, nonce.length = 12 →
      decryptKeyBlob gcm masterKey (encryptKeyBlob gcm masterKey nonce plaintext) = some plaintext) ∧
    ∀ encoded, (encoded.length % 4 ≠ 0 ∨ ∀ packed, base64Decode encoded = some packed →
      packed.length < 29 ∨ packed.head? ≠ some 1) → decryptKeyBlob gcm masterKey encoded = none :=
  ⟨fun _ plaintext drawn => decrypt_encryptKeyBlob tagged inverts plaintext drawn,
    fun _ framed => decryptKeyBlob_framed framed⟩

/-! ## In the voice model -/

theorem openBlob_of_sealKey (drawn : nonce.length = 12)
    (sealed : sealKey gcm masterKey nonce key = some blob) :
    openBlob gcm masterKey blob = some key := by
  cases sealed
  rw [openBlob, String.toList_ofList, decrypt_encryptKeyBlob tagged inverts _ drawn,
    Option.bind_some, Array.toArray_toList, String.fromUTF8?, dif_pos key.isValidUTF8]
  rfl

variable {cfg : Config} (opens : cfg.decryptKeyBlob = openBlob gcm masterKey)

include opens

theorem persisted_opens (drawn : nonce.length = 12)
    (sealed : sealKey gcm masterKey nonce key = some blob) : cfg.decryptKeyBlob blob = some key := by
  rw [opens]
  exact openBlob_of_sealKey gcm masterKey tagged inverts drawn sealed

/-- A call of `persist_to_storage` with a blob of this module. -/
def persistCall {nonce : List UInt8} (drawn : nonce.length = 12) (key : ChannelKey)
    (slot : key.keyIndex < keyringSize) (blobLink indexLink : Lib.Link) : PersistCall cfg where
  key := key
  slot := slot
  encrypted := sealKey gcm masterKey nonce key.key
  opens _ sealed := persisted_opens gcm masterKey tagged inverts opens drawn sealed
  blobLink := blobLink
  indexLink := indexLink

theorem seals_sealKey {env : Env} (drawn : nonce.length = 12)
    (seals : env.encryptKeyBlob = sealKey gcm masterKey nonce) : KeyRaces.Seals cfg env := by
  intro key
  refine ⟨_, congrFun seals key, ?_⟩
  exact persisted_opens gcm masterKey tagged inverts opens drawn rfl

end Cipher

/-! ## A known vector -/

namespace ZeroVector

def ciphertext : List UInt8 :=
  [0xce, 0xa7, 0x40, 0x3d, 0x4d, 0x60, 0x6b, 0x6e, 0x07, 0x4e, 0xc5, 0xd3, 0xba, 0xf3, 0x9d, 0x18]

def tag : List UInt8 :=
  [0xd0, 0xd1, 0xc8, 0xa7, 0x99, 0x99, 0x6b, 0xf0, 0x26, 0x5b, 0x98, 0xb5, 0xd4, 0x8a, 0xb9, 0x19]

/-- `count` bytes of zero. -/
def zeros (count : Nat) : List UInt8 := List.replicate count 0

/-- AES-256-GCM where all is zero, and a cipher that seals nothing elsewhere. -/
def cipher : Gcm where
  encrypt key nonce plain :=
    if key = zeros 32 ∧ nonce = zeros 12 ∧ plain = zeros 16 then (ciphertext, tag)
    else (plain, zeros 16)
  decrypt key nonce sealed mark :=
    if key = zeros 32 ∧ nonce = zeros 12 ∧ sealed = ciphertext ∧ mark = tag then some (zeros 16)
    else if mark = zeros 16 then some sealed
    else none

theorem key_blob_round_trip_zeros :
    let blob := "AQAAAAAAAAAAAAAAAM6nQD1NYGtuB07F07rznRjQ0cinmZlr8CZbmLXUirkZ".toList
    encryptKeyBlob cipher (zeros 32) (zeros 12) (zeros 16) = blob ∧
      decryptKeyBlob cipher (zeros 32) blob = some (zeros 16) ∧
      decryptKeyBlob cipher (zeros 32) ("    ".toList ++ blob) = some (zeros 16) ∧
      decryptKeyBlob cipher (zeros 32) (' ' :: blob) = none := by
  intro blob
  have written : encryptKeyBlob cipher (zeros 32) (zeros 12) (zeros 16) = blob := by decide +kernel
  have tagged : ∀ key nonce plain, (cipher.encrypt key nonce plain).2.length = 16 := by
    intro key nonce plain
    unfold cipher
    dsimp only
    split <;> rfl
  have inverts : ∀ key nonce plain, cipher.decrypt key nonce (cipher.encrypt key nonce plain).1
      (cipher.encrypt key nonce plain).2 = some plain := by
    intro key nonce plain
    have differ : zeros 16 ≠ tag := by decide
    unfold cipher
    dsimp only
    split <;> simp_all
  have round := key_blob_round_trip cipher (zeros 32) tagged inverts
  refine ⟨written, ?_, by decide +kernel, round.2 _ (.inl (by decide))⟩
  rw [← written]
  exact round.1 _ _ rfl

end ZeroVector

end KeyBlobs

end Kergit
