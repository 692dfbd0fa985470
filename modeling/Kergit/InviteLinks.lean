import Mathlib.Data.List.TakeWhile

/-!
Invite links, from the configured origin to the token a client sends back.

A link is the origin, `/invite/` and the token, and the token of a join code is what follows the
first `/invite/` in it.  No origin contains a slash after its scheme, but the second slash of
the scheme and a host called `invite` make that marker as well, one place too early.

Texts are lists of characters, one a byte.
-/

namespace Kergit

namespace InviteLinks

/-! ## `PublicEndpointConfig` -/

/-- What `inet_pton` accepts, for each family. -/
structure Inet where
  four : List Char → Bool
  six : List Char → Bool

variable (inet : Inet) (key : String)

def isValidPort (port : List Char) : Bool :=
  port ≠ [] && port.all Char.isDigit && 0 < Nat.ofDigitChars 10 port 0 &&
    Nat.ofDigitChars 10 port 0 ≤ 65535

/-- A label of a DNS name. -/
def isValidLabel (label : List Char) : Bool :=
  label ≠ [] && label.head? ≠ some '-' && label.getLast? ≠ some '-' &&
    label.all fun ch => ch.isLower || ch.isDigit || ch = '-'

def isValidDnsOrIpv4Host (host : List Char) : Bool :=
  host ≠ [] && host.head? ≠ some '.' && host.getLast? ≠ some '.' &&
    (inet.four host || (host.splitOn '.').all isValidLabel)

-- `PublicEndpointConfig::validate_origin`, of the host; the answer is the port.
def validateHost (authority : List Char) : Except String (Option (List Char)) :=
  if authority.head? = some '[' then
    match authority.dropWhile (· ≠ ']') with
    | [] => .error (key ++ " contains an invalid IPv6 host")
    | _ :: suffix =>
      let host := (authority.takeWhile (· ≠ ']')).tail
      if host = [] ∨ inet.six host = false then .error (key ++ " contains an invalid IPv6 host")
      else
        match suffix with
        | [] => .ok none
        | c :: port =>
          if c = ':' then .ok (some port) else .error (key ++ " contains an invalid authority")
  else
    let host := authority.takeWhile (· ≠ ':')
    match authority.dropWhile (· ≠ ':') with
    | [] =>
      if isValidDnsOrIpv4Host inet host then .ok none else .error (key ++ " contains an invalid host")
    | _ :: port =>
      if host = [] ∨ ':' ∈ port ∨ isValidDnsOrIpv4Host inet host = false then
        .error (key ++ " contains an invalid host")
      else .ok (some port)

def validateOrigin (origin : List Char) : Except String Unit :=
  let authority := origin.drop "https://".length
  if origin.take "https://".length ≠ "https://".toList then
    .error (key ++ " must be a canonical HTTPS origin")
  else if authority = [] ∨ authority.any (· ∈ "/?#@ \t\r\n".toList) then
    .error (key ++ " must contain only an HTTPS scheme, host, and optional port")
  else if authority.any Char.isUpper then .error (key ++ " must use a lowercase host")
  else
    match validateHost inet key authority with
    | .error error => .error error
    | .ok none => .ok ()
    | .ok (some port) =>
      if isValidPort port = false then .error (key ++ " contains an invalid port")
      else if port = "443".toList then .error (key ++ " must omit the default HTTPS port :443")
      else .ok ()

/-- The path segment of a link. -/
def segment : List Char := "invite".toList

-- `PublicEndpointConfig::invite_base_url`, where `/invite` is appended.
def inviteBaseUrl (origin : List Char) : List Char := origin ++ '/' :: segment

/-! ## `InviteService` and `JoinHubByInviteCommand` -/

def base62Chars : List Char := "abcdefghijklmnopqrstuvwxyzABCDEFGHIJKLMNOPQRSTUVWXYZ0123456789".toList

-- `InviteService::generate_token`, with what is drawn.
def generateToken (draws : Fin 10 → Fin 62) : List Char := List.ofFn fun i => base62Chars.get (draws i)

-- `InviteService::createInvite`, the link it returns for a token, old or new.
def inviteLink (origin token : List Char) : List Char := inviteBaseUrl origin ++ '/' :: token

/-- What a code is searched for, `/invite/`. -/
def marker : List Char := '/' :: (segment ++ ['/'])

/-- What follows the first marker, as `find` and `substr` have it. -/
def afterMarker : List Char → Option (List Char)
  | [] => none
  | c :: text => if marker <+: c :: text then some ((c :: text).drop 8) else afterMarker text

-- `JoinHubByInviteCommand::execute`, the token of a join code.
def extractToken (code : List Char) : List Char := (afterMarker code).getD code

/-! ## The round trip -/

variable {inet key} {origin : List Char}

theorem validateOrigin_ok (valid : validateOrigin inet key origin = .ok ()) :
    ∃ authority, origin = "https://".toList ++ authority ∧ '/' ∉ authority := by
  unfold validateOrigin at valid
  dsimp only at valid
  split at valid
  · nomatch valid
  · rename_i scheme
    split at valid
    · nomatch valid
    · rename_i bare
      refine ⟨origin.drop "https://".length, ?_, fun slash => bare (.inr ?_)⟩
      · rw [← not_ne_iff.mp scheme, List.take_append_drop]
      · exact List.any_eq_true.mpr ⟨'/', slash, by decide⟩

/-- Where no slash is, no marker starts. -/
theorem afterMarker_append (front rest : List Char) (plain : '/' ∉ front) :
    afterMarker (front ++ rest) = afterMarker rest := by
  induction front with
  | nil => rfl
  | cons c front ih =>
    rw [List.mem_cons, not_or] at plain
    rw [List.cons_append, afterMarker, if_neg, ih plain.2]
    exact fun starts => plain.1 (List.cons_prefix_cons.mp starts).1

theorem takeWhile_slash (rest : List Char) (plain : '/' ∉ front) :
    (front ++ '/' :: rest).takeWhile (· ≠ '/') = front := by
  rw [List.takeWhile_append_of_pos (by grind)]
  simp

theorem segment_plain : '/' ∉ segment := by decide

/-- A marker starts at the scheme's second slash only if the host is called `invite`. -/
theorem marker_starts (plain : '/' ∉ authority) :
    marker <+: '/' :: (authority ++ '/' :: rest) ↔ authority = segment := by
  rw [marker, List.cons_prefix_cons, and_iff_right rfl]
  constructor
  · rintro ⟨tail, whole⟩
    have cut := congrArg (List.takeWhile (· ≠ '/')) whole
    rw [List.append_assoc, List.singleton_append, takeWhile_slash _ segment_plain,
      takeWhile_slash _ plain] at cut
    exact cut.symm
  · rintro rfl
    exact (List.prefix_append_right_inj _).mpr (List.cons_prefix_cons.mpr ⟨rfl, List.nil_prefix⟩)

/-- **The token of a link** is the one it was made with, unless the host is called `invite`. -/
theorem extractToken_link (token : List Char) (plain : '/' ∉ authority) :
    extractToken (inviteLink ("https://".toList ++ authority) token) =
      if authority = segment then segment ++ '/' :: token else token := by
  have link : inviteLink ("https://".toList ++ authority) token =
      "https:".toList ++ '/' :: '/' :: (authority ++ '/' :: (segment ++ '/' :: token)) := by
    simp [inviteLink, inviteBaseUrl]
  have early : afterMarker (inviteLink ("https://".toList ++ authority) token) =
      afterMarker ('/' :: (authority ++ '/' :: (segment ++ '/' :: token))) := by
    rw [link, afterMarker_append _ _ (by decide), afterMarker, if_neg]
    exact fun starts => nomatch (List.cons_prefix_cons.mp (List.cons_prefix_cons.mp starts).2).1
  rw [extractToken, early, afterMarker]
  by_cases named : authority = segment
  · rw [if_pos ((marker_starts plain).mpr named), if_pos named, named]
    rfl
  · rw [if_neg (mt (marker_starts plain).mp named), if_neg named, afterMarker_append _ _ plain,
      afterMarker, if_pos (by simp [marker])]
    rfl

theorem generateToken_plain (draws : Fin 10 → Fin 62) : '/' ∉ generateToken draws := by
  intro slash
  obtain ⟨i, is⟩ := List.mem_ofFn.mp slash
  have plain : '/' ∉ base62Chars := by decide
  exact plain (is ▸ List.get_mem _ _)

/-- **An invite link brings its token back** exactly if the origin's host is not `invite`, and so
does the token alone. -/
theorem invite_link_round_trip_iff (valid : validateOrigin inet key origin = .ok ())
    (draws : Fin 10 → Fin 62) :
    (extractToken (inviteLink origin (generateToken draws)) = generateToken draws ∧
      extractToken (generateToken draws) = generateToken draws) ↔
      origin ≠ "https://".toList ++ segment := by
  obtain ⟨authority, rfl, plain⟩ := validateOrigin_ok valid
  have alone : extractToken (generateToken draws) = generateToken draws := by
    have none := afterMarker_append _ [] (generateToken_plain draws)
    rw [List.append_nil] at none
    rw [extractToken, none]
    rfl
  rw [extractToken_link _ plain, and_iff_left alone, Ne, List.append_right_inj]
  constructor
  · intro same named
    rw [if_pos named] at same
    have longer := congrArg List.length same
    simp only [List.length_append, List.length_cons] at longer
    omega
  · exact fun other => if_neg other

/-- An `inet_pton` that accepts nothing. -/
def noInet : Inet := ⟨fun _ => false, fun _ => false⟩

theorem invite_link_round_trip_example :
    extractToken (inviteLink "https://a.org".toList (generateToken fun _ => 0)) =
      generateToken fun _ => 0 :=
  have valid : validateOrigin noInet "WEB_DOMAIN" "https://a.org".toList = .ok () := rfl
  ((invite_link_round_trip_iff valid _).mpr (by decide)).1

/-- The host `invite` makes a marker of its own. -/
theorem invite_host_breaks_link :
    validateOrigin noInet "WEB_DOMAIN" "https://invite".toList = .ok () ∧
      extractToken (inviteLink "https://invite".toList (generateToken fun _ => 0)) =
        "invite/aaaaaaaaaa".toList := ⟨rfl, rfl⟩

end InviteLinks

end Kergit
