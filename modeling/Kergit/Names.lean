import Kergit.Footprint
import Kergit.UserService
import Mathlib.Data.List.DropRight

/-!
Names, and what the database asks of them.

The commands see bytes: `sanitize` strips the bytes `std::isspace` knows at both ends, and
`utf8_length` counts the bytes that begin a character.  Of a text in UTF-8 both do what
`Handlers.sanitize` and `Handlers.checkText` do of its characters: a blank is a byte of its own,
and no byte of another character is a blank.
-/

namespace Kergit

namespace Names

open VoiceState (Refusal)

-- `std::isspace`, in the C locale.
def isSpace (ch : UInt8) : Bool := ch = 32 || (9 ≤ ch.toNat && ch.toNat ≤ 13)

def sanitize (value : List UInt8) : List UInt8 :=
  ((value.dropWhile isSpace).reverse.dropWhile isSpace).reverse

def utf8Length (value : List UInt8) : Nat := value.countP fun ch => ch &&& 0xC0 ≠ 0x80

def accepts (bound : Nat) (value : List UInt8) : Bool :=
  sanitize value ≠ [] && utf8Length (sanitize value) ≤ bound

def utf8 (text : String) : List UInt8 := text.toList.flatMap String.utf8EncodeChar

/-! ## Bytes and characters -/

/-- A character is its own byte, or a leading byte with continuation bytes behind it. -/
theorem encode_cases (c : Char) :
    c.toNat < 128 ∧ String.utf8EncodeChar c = [UInt8.ofNat c.toNat] ∨
      128 ≤ c.toNat ∧ ∃ first rest, String.utf8EncodeChar c = first :: rest ∧ 192 ≤ first.toNat ∧
        ∀ ch ∈ rest, 128 ≤ ch.toNat ∧ ch.toNat < 192 := by
  change c.val.toNat < 128 ∧ _ ∨ 128 ≤ c.val.toNat ∧ _
  unfold String.utf8EncodeChar
  dsimp only
  split
  · exact .inl ⟨by omega, rfl⟩
  · refine .inr ⟨by omega, ?_⟩
    split
    · refine ⟨_, _, rfl, ?_, ?_⟩ <;> simp <;> omega
    · split
      all_goals refine ⟨_, _, rfl, ?_, ?_⟩ <;> simp <;> omega

theorem isSpace_eq (ch : UInt8) :
    isSpace ch = (ch.toNat = 32 || (9 ≤ ch.toNat && ch.toNat ≤ 13) : Bool) := by
  simp [isSpace, ← UInt8.toNat_inj]

theorem isSpace_char (c : Char) :
    Handlers.isSpace c = (c.toNat = 32 || (9 ≤ c.toNat && c.toNat ≤ 13) : Bool) := by
  simp [Handlers.isSpace, ← Char.toNat_inj]

/-- A blank is one blank byte, and no other character has a blank byte. -/
theorem encode_blank (c : Char) :
    Handlers.isSpace c = true ∧ (∃ ch, String.utf8EncodeChar c = [ch] ∧ isSpace ch = true) ∨
      Handlers.isSpace c = false ∧ String.utf8EncodeChar c ≠ [] ∧
        ∀ ch ∈ String.utf8EncodeChar c, isSpace ch = false := by
  simp only [isSpace_eq, isSpace_char]
  rcases encode_cases c with ⟨small, is⟩ | ⟨large, first, rest, is, leads, continues⟩
  · have same : (UInt8.ofNat c.toNat).toNat = c.toNat := by
      rw [UInt8.toNat_ofNat']
      omega
    grind
  · grind

/-- The test of `utf8_length`. -/
theorem leads_iff (ch : UInt8) :
    (ch &&& 0xC0 ≠ 0x80) ↔ ch.toNat < 128 ∨ 192 ≤ ch.toNat := by
  have all : ∀ n < 256, (UInt8.ofNat n &&& 0xC0 ≠ 0x80) ↔ n < 128 ∨ 192 ≤ n := by decide +kernel
  simpa using all ch.toNat ch.toNat_lt

theorem encode_length (c : Char) : utf8Length (String.utf8EncodeChar c) = 1 := by
  simp only [utf8Length, leads_iff]
  rcases encode_cases c with ⟨small, is⟩ | ⟨large, first, rest, is, leads, continues⟩
  · rw [is]
    simp
    omega
  · have none : rest.countP (fun ch => decide (ch.toNat < 128 ∨ 192 ≤ ch.toNat)) = 0 := by
      grind
    rw [is, List.countP_cons, none]
    simp [leads]

theorem utf8Length_utf8 (text : String) : utf8Length (utf8 text) = text.length := by
  rw [utf8, ← String.length_toList]
  induction text.toList with
  | nil => rfl
  | cons c rest ih =>
    have one := encode_length c
    simp [utf8Length] at one ih ⊢
    omega

/-- Stripping the bytes is stripping the characters. -/
theorem dropWhile_flatMap {α β : Type} {p : α → Bool} {q : β → Bool} {f : α → List β}
    (each : ∀ a, p a = true ∧ (∃ b, f a = [b] ∧ q b = true) ∨
      p a = false ∧ f a ≠ [] ∧ ∀ b ∈ f a, q b = false) (l : List α) :
    (l.flatMap f).dropWhile q = (l.dropWhile p).flatMap f := by
  induction l with
  | nil => rfl
  | cons a rest ih =>
    rcases each a with ⟨blank, b, is, drops⟩ | ⟨kept, some, none⟩
    · simp [blank, is, drops, ih]
    · obtain ⟨b, more, is⟩ := List.exists_cons_of_ne_nil some
      simp [kept, is, none b (is ▸ List.mem_cons_self)]

theorem sanitize_utf8 (text : String) : sanitize (utf8 text) = utf8 (Handlers.sanitize text) := by
  rw [sanitize, utf8, dropWhile_flatMap encode_blank, List.reverse_flatMap,
    dropWhile_flatMap (p := Handlers.isSpace), List.reverse_flatMap]
  · simp [utf8, Handlers.sanitize, Function.comp_def]
  · simpa using encode_blank

/-! ## Stripped texts -/

section Stripped

variable {α : Type} {p : α → Bool} (l : List α)

/-- What stripping leaves neither begins nor ends with something to strip. -/
theorem stripped_ends :
    let kept := ((l.dropWhile p).reverse.dropWhile p).reverse
    kept.dropWhile p = kept ∧ kept.reverse.dropWhile p = kept.reverse := by
  intro kept
  constructor
  · rw [List.dropWhile_eq_self_iff]
    intro some
    obtain ⟨cut, split⟩ : kept <+: l.dropWhile p := by
      rw [← List.reverse_suffix, List.reverse_reverse]
      exact List.dropWhile_suffix p
    have first := List.dropWhile_eq_self_iff.mp (List.dropWhile_idempotent p l)
    rw [← split] at first
    have unblank := first (by simp; omega)
    rwa [List.getElem_append_left some] at unblank
  · rw [List.reverse_reverse, List.dropWhile_idempotent]

end Stripped

theorem sanitize_idempotent (value : List UInt8) : sanitize (sanitize value) = sanitize value := by
  obtain ⟨front, back⟩ := stripped_ends (p := isSpace) value
  rw [sanitize, sanitize, front, back, List.reverse_reverse]

/-- A stripped text has no blanks for `btrim` to take. -/
theorem btrim_sanitize (raw : String) :
    btrim (Handlers.sanitize raw) = Handlers.sanitize raw := by
  obtain ⟨front, back⟩ := stripped_ends (p := Handlers.isSpace) raw.toList
  have weaker : ∀ {l : List Char}, l.dropWhile Handlers.isSpace = l →
      l.dropWhile (fun c => c = ' ') = l := by
    intro l same
    rw [List.dropWhile_eq_self_iff] at same ⊢
    exact fun some blank => same some (by simp_all [Handlers.isSpace])
  rw [btrim, Handlers.sanitize, String.toList_ofList, weaker front, weaker back,
    List.reverse_reverse]

theorem utf8_eq_nil : utf8 text = [] ↔ text = "" := by
  rw [utf8, List.flatMap_eq_nil_iff, ← String.toList_eq_nil_iff]
  constructor
  · intro none
    by_contra some
    obtain ⟨c, rest, is⟩ := List.exists_cons_of_ne_nil some
    have := none c (is ▸ List.mem_cons_self)
    rcases encode_cases c with ⟨-, is⟩ | ⟨-, first, rest, is, -⟩ <;> simp_all
  · simp +contextual

/-! ## The checks of `hubs` and `channels` -/

/-- `hubs_name_length` and `channels_name_length`. -/
def NameLength (name : String) : Prop := 1 ≤ (btrim name).length ∧ name.length ≤ 80

/-- The text that a call writes satisfies the CHECK of its column. -/
def FitsSchema : HubCall → Prop
  | .database (.createHub _ name) | .database (.renameHub _ name)
  | .database (.createChannel _ _ name) | .database (.renameChannel _ name) =>
    NameLength (textParam name)
  | .database (.updateHubAvatarSeed _ seed) => (textParam seed).length ≤ 128
  | _ => True

/-- A text without NUL. -/
def Plain (text : String) : Prop := Char.ofNat 0 ∉ text.toList
deriving Decidable

theorem mem_sanitize (listed : c ∈ (Handlers.sanitize raw).toList) : c ∈ raw.toList := by
  rw [Handlers.sanitize, String.toList_ofList, List.mem_reverse] at listed
  have kept := (List.dropWhile_suffix _).subset listed
  exact (List.dropWhile_suffix _).subset (List.mem_reverse.mp kept)

theorem textParam_plain (plain : Plain text) : textParam text = text := by
  rw [textParam, List.takeWhile_eq_self_iff.mpr, String.ofList_toList]
  intro c listed
  exact decide_eq_true fun nul => plain (nul ▸ listed)

theorem checkText_ok : Handlers.checkText what bound raw = .ok text ↔
    text = Handlers.sanitize raw ∧ text ≠ "" ∧ text.length ≤ bound := by
  grind [Handlers.checkText]

/-- What a command's check lets through has a character besides blanks, and no more characters
than the bound. -/
theorem checked_fits (plain : Plain raw) (checked : Handlers.checkText what bound raw = .ok text) :
    1 ≤ (btrim (textParam text)).length ∧ (textParam text).length ≤ bound := by
  obtain ⟨rfl, some, short⟩ := checkText_ok.mp checked
  rw [textParam_plain fun nul => plain (mem_sanitize nul), btrim_sanitize]
  exact ⟨Nat.one_le_iff_ne_zero.mpr (String.length_eq_zero_iff.not.mpr some), short⟩

/-- The names and seeds that a request gives. -/
def texts : Request → List String
  | .createHub _ name | .createChannel _ _ _ name => [name]
  | .updateHub _ _ name seed => name.toList ++ seed.toList
  | .renameChannel _ _ _ name => name.toList
  | _ => []

theorem writes_fit {r : Request} (plain : ∀ text ∈ texts r, Plain text) (writes : r.Writes d) :
    FitsSchema (.database d) := by
  unfold Request.Writes at writes
  split at writes
  · exact checked_fits (plain _ (by simp [texts])) writes.2
  · rw [writes]
    exact ⟨by decide +kernel, by decide +kernel⟩
  · obtain ⟨raw, given, checked⟩ := writes
    exact checked_fits (plain raw (by simpa [texts] using given)) checked
  · trivial
  · exact checked_fits (plain _ (by simp [texts])) writes
  · obtain ⟨-, raw, given, checked⟩ := writes
    exact checked_fits (plain raw (by simp [texts, Option.mem_def.mp given])) checked
  · obtain ⟨-, raw, given, checked⟩ := writes
    exact (checked_fits (plain raw (by simp [texts, Option.mem_def.mp given])) checked).2
  · trivial
  · trivial
  · trivial
  · trivial
  · trivial
  · exact writes.elim

theorem prog_fits {r : Request} (plain : ∀ text ∈ texts r, Plain text) :
    r.prog.Only FitsSchema := by
  refine r.prog_makes.mono fun c makes => ?_
  cases c with
  | session c | subscription c | cache c | outside c => trivial
  | database d =>
    rcases makes with reads | writes
    · cases d <;> trivial
    · exact writes_fit plain writes

/-- **Names that pass satisfy the schema.**  Whatever the four commands write of a text without NUL
satisfies the CHECK of its column.  Of every text in UTF-8, `sanitize` leaves UTF-8 and nothing more
to strip, and the commands accept what the check of its characters accepts. -/
theorem names_fit_schema (conn : GlobalConnId) (hub : HubId) (channel : ChannelId)
    (type : Option ChannelType) {name : String} {asked seed : Option String} (plain : Plain name)
    (plainAsked : ∀ text ∈ asked, Plain text) (plainSeed : ∀ text ∈ seed, Plain text) :
    ((Handlers.createHub conn name).Only FitsSchema ∧
      (Handlers.updateHub conn hub asked seed).Only FitsSchema ∧
      (Handlers.createChannel conn hub type name).Only FitsSchema ∧
      (Handlers.renameChannel conn hub channel asked).Only FitsSchema) ∧
    ∀ raw, sanitize (utf8 raw) = utf8 (Handlers.sanitize raw) ∧
      sanitize (sanitize (utf8 raw)) = sanitize (utf8 raw) ∧
      ∀ what bound, (Handlers.checkText what bound raw).toOption =
        if accepts bound (utf8 raw) then some (Handlers.sanitize raw) else none := by
  refine ⟨⟨?_, ?_, ?_, ?_⟩, fun raw => ⟨sanitize_utf8 raw, sanitize_idempotent _, ?_⟩⟩
  · exact prog_fits (r := .createHub conn name) (by simpa [texts] using plain)
  · refine prog_fits (r := .updateHub conn hub asked seed) fun text listed => ?_
    rw [texts, List.mem_append, Option.mem_toList, Option.mem_toList] at listed
    exact listed.elim (plainAsked text) (plainSeed text)
  · exact prog_fits (r := .createChannel conn hub type name) (by simpa [texts] using plain)
  · refine prog_fits (r := .renameChannel conn hub channel asked) fun text listed => ?_
    exact plainAsked text (Option.mem_toList.mp listed)
  · intro what bound
    have accepted : accepts bound (utf8 raw) = true ↔
        Handlers.sanitize raw ≠ "" ∧ (Handlers.sanitize raw).length ≤ bound := by
      simp [accepts, utf8_eq_nil, sanitize_utf8, utf8Length_utf8]
    grind [Handlers.checkText, Except.toOption]

namespace Den

open Lobby (desk home general world)

/-- Alice calls her hub "den", with blanks around it. -/
theorem names_fit_schema_den :
    (Handlers.updateHub desk home (some " den ") (some "fox")).Only FitsSchema ∧
      ((Lib.Prog.alone World.exec {} (Handlers.updateHub desk home (some " den ") (some "fox"))
        world).2.database.getHub home).map Hub.profile = some ⟨"den", "fox"⟩ := by
  have plain : Plain "den" := by decide
  have asked : ∀ text ∈ some " den ", Plain text := by decide
  have seed : ∀ text ∈ some "fox", Plain text := by decide
  have fits := names_fit_schema desk home general (some .chat) plain asked seed
  exact ⟨fits.1.2.1, by decide +kernel⟩

end Den

/-! ## Profiles -/

def checkSize (refusal : String) (most : Nat) : Option String → Except Refusal (Option String)
  | none => .ok none
  | some raw =>
    let text := Handlers.sanitize raw
    if text = "" ∨ most < text.utf8ByteSize then .error (.error .invalidArgument refusal)
    else .ok (some text)

-- the checks of `UpdateUserCommand::execute`.
def checkUpdate (cmd : ProfileUpdate) : Except Refusal ProfileUpdate := do
  let userName ← checkSize "Username length must be between 1 and 48" 48 cmd.userName
  let displayName ← checkSize "Display name length must be between 1 and 48" 48 cmd.displayName
  let avatarSeed ← checkSize "Avatar seed must be between 1 and 64" 64 cmd.avatarSeed
  if userName = none ∧ displayName = none ∧ avatarSeed = none then
    .error (.error .invalidArgument "No changes requested")
  else return { userName, displayName, avatarSeed }

/-- `[a-z0-9_]`. -/
def isWord (c : Char) : Bool := c.isLower || c.isDigit || c = '_'

def userNameFormat (name : List Char) : Bool :=
  name.map Char.toLower = name && name.head?.any isWord && name.tail.getLast?.any isWord &&
    name.all fun c => isWord c || c = '.' || c = '-'

-- the checks of `profiles` on an active row, of the columns that are written.
structure FitsProfile (update : ProfileUpdate) : Prop where
  userName : ∀ name ∈ update.userName, 3 ≤ (btrim (textParam name)).length ∧
    (textParam name).length ≤ 32 ∧ userNameFormat (textParam name).toList = true
  displayName : ∀ name ∈ update.displayName, 1 ≤ (btrim (textParam name)).length ∧
    (textParam name).length ≤ 40
  avatarSeed : ∀ seed ∈ update.avatarSeed, (textParam seed).length ≤ 128

/-- What the database gets of a text: stripped, and cut at the first NUL. -/
def written (raw : String) : String := textParam (Handlers.sanitize raw)

theorem btrim_of_format (format : userNameFormat text.toList = true) : btrim text = text := by
  have kept : ∀ l : List Char, (∀ c ∈ l, c ∈ text.toList) →
      l.dropWhile (fun c => decide (c = ' ')) = l := by
    intro l within
    rw [List.dropWhile_eq_self_iff]
    intro some blank
    simp only [userNameFormat, Bool.and_eq_true, List.all_eq_true] at format
    have word := format.2 _ (within _ (List.getElem_mem some))
    rw [of_decide_eq_true blank] at word
    exact absurd word (by decide)
  rw [btrim, kept _ fun _ => id, kept _ fun _ => List.mem_reverse.mp, List.reverse_reverse,
    String.ofList_toList]

/-- A stripped text begins with something besides a blank, unless the cut leaves nothing. -/
theorem btrim_written (raw : String) : 1 ≤ (btrim (written raw)).length ↔ written raw ≠ "" := by
  rw [btrim_length_pos]
  constructor
  · rintro ⟨c, listed, -⟩ empty
    simp [empty] at listed
  · intro some
    have first := (stripped_ends (p := Handlers.isSpace) raw.toList).1
    rw [List.dropWhile_eq_self_iff] at first
    rw [written, textParam, Handlers.sanitize, String.toList_ofList] at some ⊢
    generalize ((raw.toList.dropWhile Handlers.isSpace).reverse.dropWhile
      Handlers.isSpace).reverse = kept at first some
    cases kept with
    | nil => exact absurd rfl some
    | cons c rest =>
      have inked := first (by simp)
      by_cases nul : c = Char.ofNat 0
      · exact absurd (by simp [nul]) some
      · refine ⟨c, by simp [nul], fun blank => inked ?_⟩
        simp [blank, Handlers.isSpace]

theorem checkSize_ok (checked : checkSize refusal most asked = .ok text) :
    text = asked.map Handlers.sanitize ∧ ∀ raw ∈ asked, (written raw).length ≤ most := by
  cases asked with
  | none => grind [checkSize]
  | some raw =>
    have cut := textParam_length_le (Handlers.sanitize raw)
    have bytes := length_le_byteSize (Handlers.sanitize raw)
    simp only [checkSize] at checked
    split at checked
    · cases checked
    · grind [written]

theorem checkUpdate_ok {cmd update : ProfileUpdate} (accepted : checkUpdate cmd = .ok update) :
    update.userName = cmd.userName.map Handlers.sanitize ∧
      update.displayName = cmd.displayName.map Handlers.sanitize ∧
      update.avatarSeed = cmd.avatarSeed.map Handlers.sanitize ∧
      ∀ raw ∈ cmd.avatarSeed, (written raw).length ≤ 64 := by
  simp only [checkUpdate, bind, Except.bind] at accepted
  split at accepted
  · cases accepted
  · rename_i userName named
    split at accepted
    · cases accepted
    · rename_i displayName shown
      split at accepted
      · cases accepted
      · rename_i avatarSeed seeded
        split at accepted
        · cases accepted
        · cases accepted
          obtain ⟨seeds, short⟩ := checkSize_ok seeded
          exact ⟨(checkSize_ok named).1, (checkSize_ok shown).1, seeds, short⟩

/-- **When an accepted profile update fits the table**: what the database gets of the user name, if
one is given, has three to 32 characters of the table's format, and of the display name, if one is
given, something, and at most 40 characters. -/
theorem profile_update_fits_iff {cmd update : ProfileUpdate}
    (accepted : checkUpdate cmd = .ok update) :
    FitsProfile update ↔
      (∀ raw ∈ cmd.userName, 3 ≤ (written raw).length ∧ (written raw).length ≤ 32 ∧
        userNameFormat (written raw).toList = true) ∧
      ∀ raw ∈ cmd.displayName, written raw ≠ "" ∧ (written raw).length ≤ 40 := by
  obtain ⟨named, shown, seeded, short⟩ := checkUpdate_ok accepted
  have every {asked : Option String} {P : String → Prop} :
      (∀ text ∈ asked.map Handlers.sanitize, P text) ↔
        ∀ raw ∈ asked, P (Handlers.sanitize raw) := by simp
  constructor
  · rintro ⟨names, displays, -⟩
    rw [named, every] at names
    rw [shown, every] at displays
    refine ⟨fun raw asked => ?_, fun raw asked => ?_⟩
    · obtain ⟨long, fits, format⟩ := names raw asked
      rw [btrim_of_format format] at long
      exact ⟨long, fits, format⟩
    · exact (displays raw asked).imp_left (btrim_written raw).mp
  · rintro ⟨names, displays⟩
    constructor
    · rw [named, every]
      intro raw asked
      obtain ⟨long, fits, format⟩ := names raw asked
      change 3 ≤ (btrim (written raw)).length ∧ _
      rw [btrim_of_format format]
      exact ⟨long, fits, format⟩
    · rw [shown, every]
      exact fun raw asked => (displays raw asked).imp_left (btrim_written raw).mpr
    · rw [seeded, every]
      exact fun raw asked => (short raw asked).trans (by decide)

/-- A name of the right form; of what stands behind a NUL the table knows nothing. -/
theorem profile_update_fits_ada :
    FitsProfile { userName := some "ada.l\x00!", displayName := some "Ada" } := by
  have accepted : checkUpdate { userName := some " ada.l\x00!", displayName := some "Ada" } =
      .ok { userName := some "ada.l\x00!", displayName := some "Ada" } := by
    decide +kernel
  refine (profile_update_fits_iff accepted).mpr ?_
  decide +kernel

/-- The command takes a capital letter and a text that is one NUL, the table takes neither. -/
theorem capital_is_accepted :
    (checkUpdate { userName := some "Ada" } = .ok { userName := some "Ada" } ∧
      ¬ FitsProfile { userName := some "Ada" }) ∧
    checkUpdate { displayName := some "\x00" } = .ok { displayName := some "\x00" } ∧
      ¬ FitsProfile { displayName := some "\x00" } := by
  refine ⟨⟨by decide +kernel, fun fits => ?_⟩, by decide +kernel, fun fits => ?_⟩
  · have := (fits.userName "Ada" rfl).2.2
    revert this
    decide +kernel
  · have := (fits.displayName "\x00" rfl).1
    revert this
    decide +kernel

end Names

end Kergit
