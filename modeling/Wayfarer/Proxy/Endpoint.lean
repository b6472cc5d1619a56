import Wayfarer.Http.Field
import Wayfarer.Text.Base64
import Wayfarer.Url.Parse

/-!
Proxies as settings name them.

* `Credentials`: a user name and a password; `Credentials.basic` is their text in base 64 and
  `Credentials.field` the header value that presents them;
* `Endpoint`: the address of a proxy and the credentials for it;
* `Endpoint.parse`: the endpoint that a text names;
* `EndpointError`: why it names none.
-/

namespace Wayfarer

/-! ### Credentials -/

/-- A user name and a password. -/
structure Credentials where
  user : String
  password : String
deriving Repr, DecidableEq

namespace Credentials

/-- User name and password with a colon between them, as bytes: one for each character where all
of them are below 256, in UTF-8 otherwise. -/
def bytes (c : Credentials) : Bytes :=
  let pair := (c.user ++ ":" ++ c.password).toList
  if pair.all (·.toNat ≤ 0xFF) then pair.map fun x => UInt8.ofNat x.toNat
  else Utf8.encode pair

/-- The credentials in base 64. -/
def basic (c : Credentials) : String :=
  String.ofList (Base64.encode c.bytes)

/-- A visible character is a byte that a field value may hold. -/
theorem isValueByte_of_visible {c : Char} (h : Base64.Visible c) :
    (String.utf8EncodeChar c).all isValueByte = true := by
  obtain ⟨h1, h2⟩ := h
  have hv : c.val.toNat ≤ 127 := by
    have : c.toNat = c.val.toNat := rfl
    omega
  simp only [String.utf8EncodeChar, hv, if_true, List.all_cons, List.all_nil, Bool.and_true]
  have h3 : c.val.toNat = c.toNat := rfl
  rw [h3]
  simp only [isValueByte, Bool.or_eq_true, Bool.and_eq_true, decide_eq_true_eq]
  right
  constructor
  · rw [UInt8.le_iff_toNat_le, UInt8.toNat_ofNat']
    simp only [UInt8.toNat_ofNat]
    omega
  · intro h
    have := congrArg UInt8.toNat h
    rw [UInt8.toNat_ofNat'] at this
    simp only [UInt8.toNat_ofNat] at this
    omega

/-- The header value that presents the credentials. -/
def field (c : Credentials) : FieldValue where
  bytes := utf8 "Basic " ++ utf8 c.basic
  valid := by
    rw [List.all_append, Bool.and_eq_true]
    refine ⟨by decide, ?_⟩
    simp only [utf8, basic, String.toList_ofList, Utf8.encode, List.all_flatMap, List.all_eq_true]
    exact fun x hx => List.all_eq_true.1 (isValueByte_of_visible (Base64.encode_visible _ x hx))

end Credentials

/-! ### Endpoints -/

/-- The address of a proxy without credentials, and the credentials for it. -/
structure Endpoint where
  address : String
  credentials : Option Credentials
deriving Repr, DecidableEq

/-- Why a text names no proxy. -/
inductive EndpointError where
  | unreadable (raw : String) (cause : UrlError)
  | noHost (raw : String)
deriving Repr, DecidableEq

/-- What is wrong, in words. -/
def EndpointError.detail : EndpointError → String
  | unreadable raw cause => raw ++ ": " ++ cause.message
  | noHost raw => raw ++ ": 缺少主机"

namespace Endpoint

/-- A text with the scheme of proxies that name none. -/
def withScheme (raw : String) : String :=
  if hasInfix [':', '/', '/'] raw.toList then raw else "http://" ++ raw

/-- The text that escapes in a part of a URL stand for. -/
def unescaped (s : String) : String :=
  String.ofList (Utf8.decodeLossy (Percent.decode (utf8 s)))

/-- The credentials that a URL carries. A password alone is none. -/
def credentialsOf (u : Url) : Option Credentials :=
  if u.username.isEmpty then none else some ⟨unescaped u.username, unescaped u.password⟩

/-- The proxy that a URL names, if it has a host. -/
def ofUrl? (u : Url) : Option Endpoint :=
  match u.hostText? with
  | none => none
  | some host =>
      if host.isEmpty then none
      else
        let port := match u.port? with
          | some port => ":" ++ toString port
          | none => ""
        some ⟨u.scheme ++ "://" ++ host ++ port, credentialsOf u⟩

/-- The proxy that a text names: a URL, possibly without its scheme and with credentials. -/
def parse (raw : String) : Except EndpointError Endpoint :=
  let raw := trimBlanks raw
  match Url.parse (withScheme raw) with
  | .error e => .error (.unreadable raw e)
  | .ok u =>
      match ofUrl? u with
      | some e => .ok e
      | none => .error (.noHost raw)

end Endpoint

end Wayfarer
