import Mathlib.Data.List.Basic
import Courier.Settings

/-!
# The URI to connect to

The URI puts user, password, host, port and virtual host one behind the other with a separator
between them, and escapes nothing but the default virtual host. Where no part holds the separator
behind it, the parts are read back from the URI, and two URIs are the same exactly if who connects
where is the same (`Settings.uri_unambiguous`). Where one does, two settings may have one URI
(`Settings.uri_ambiguous`).
-/

namespace Courier
set_option autoImplicit false

/-! ## Separators -/

section Cut
variable {sep : Char} {part front back rest : List Char}

/-- What stands in front of the first separator, and what stands behind it. -/
def cut (sep : Char) (cs : List Char) : List Char × List Char :=
  (cs.takeWhile (· != sep), (cs.dropWhile (· != sep)).drop 1)

/-- What stands in front of the last separator, and what stands behind it. -/
def cutLast (sep : Char) (cs : List Char) : List Char × List Char :=
  ((cut sep cs.reverse).2.reverse, (cut sep cs.reverse).1.reverse)

theorem cut_append (free : sep ∉ part) : cut sep (part ++ sep :: rest) = (part, rest) := by
  have other : ∀ c ∈ part, (c != sep) = true := by
    intro c mem
    exact bne_iff_ne.2 fun same => free (same ▸ mem)
  have stop : ¬(sep != sep) = true := by simp
  unfold cut
  rw [List.takeWhile_append_of_pos other, List.dropWhile_append_of_pos other,
    List.takeWhile_cons_of_neg (p := (· != sep)) stop,
    List.dropWhile_cons_of_neg (p := (· != sep)) stop, List.append_nil, List.drop_one,
    List.tail_cons]

theorem cutLast_append (free : sep ∉ back) :
    cutLast sep (front ++ sep :: back) = (front, back) := by
  have turned : (front ++ sep :: back).reverse = back.reverse ++ sep :: front.reverse := by simp
  have cutTurned : cut sep (front ++ sep :: back).reverse = (back.reverse, front.reverse) := by
    rw [turned]
    exact cut_append fun mem => free (List.mem_reverse.1 mem)
  rw [cutLast, cutTurned, List.reverse_reverse, List.reverse_reverse]

end Cut

/-! ## Endpoints -/

/-- What a connection is opened with: who connects where. -/
structure Endpoint where
  user : String
  password : String
  host : String
  port : Nat
  vhost : String
  deriving DecidableEq

/-- The endpoint that a URI names, read from the left; the port stands behind the last colon of what
stands in front of the path. -/
def Endpoint.ofUri (uri : String) : Endpoint :=
  let (user, behindUser) := cut ':' (uri.toList.drop "amqp://".length)
  let (password, behindPassword) := cut '@' behindUser
  let (address, path) := cut '/' behindPassword
  let (host, port) := cutLast ':' address
  { user := String.ofList user
    password := String.ofList password
    host := String.ofList host
    port := Nat.ofDigitChars 10 port 0
    vhost := if String.ofList path = "%2f" then "/" else String.ofList path }

namespace Settings

variable {s a b : Settings}

/-- The virtual host that the settings name: the default one, or one without leading slashes. -/
def vhostName (s : Settings) : String :=
  if s.vhost = "/" then "/" else String.ofList (s.vhost.toList.dropWhile (· = '/'))

/-- The endpoint that the settings name. -/
def endpoint (s : Settings) : Endpoint := ⟨s.user, s.password, s.host, s.port, s.vhostName⟩

/-- No part of the URI holds the separator behind it, and no virtual host looks like the escaped
default one. -/
structure Plain (s : Settings) : Prop where
  user : ':' ∉ s.user.toList
  password : '@' ∉ s.password.toList
  host : '/' ∉ s.host.toList
  vhost : s.vhostName ≠ "%2f"

theorem vhostName_eq_slash_iff : s.vhostName = "/" ↔ s.vhost = "/" := by
  unfold vhostName
  split
  · next default => exact iff_of_true rfl default
  · next other =>
    refine iff_of_false (fun same => ?_) other
    have chars : s.vhost.toList.dropWhile (· = '/') = ['/'] := String.ofList_inj.1 same
    have first := List.head?_dropWhile_not (· = '/') s.vhost.toList
    simp [chars] at first

/-- The path escapes the default virtual host. -/
theorem vhostPath_eq : s.vhostPath = if s.vhostName = "/" then "%2f" else s.vhostName := by
  unfold vhostPath
  by_cases default : s.vhost = "/"
  · rw [if_pos default, if_pos (vhostName_eq_slash_iff.2 default)]
  · rw [if_neg default, if_neg (mt vhostName_eq_slash_iff.1 default), vhostName, if_neg default]

/-- The URI shows nothing of the settings but their endpoint. -/
theorem uri_congr (same : a.endpoint = b.endpoint) : a.uri = b.uri := by
  simp only [endpoint, Endpoint.mk.injEq] at same
  obtain ⟨user, password, host, port, vhost⟩ := same
  unfold uri
  rw [vhostPath_eq, vhostPath_eq, user, password, host, port, vhost]

/-- The URI as a row of parts, with separators between them. -/
theorem uri_chars (s : Settings) :
    s.uri.toList.drop "amqp://".length = s.user.toList ++ ':' :: (s.password.toList ++ '@' ::
      ((s.host.toList ++ ':' :: Nat.toDigits 10 s.port) ++ '/' :: s.vhostPath.toList)) := by
  have port : (toString s.port).toList = Nat.toDigits 10 s.port := Nat.toList_repr
  have row : s.uri.toList = "amqp://".toList ++ (s.user.toList ++ ':' :: (s.password.toList ++
      '@' :: ((s.host.toList ++ ':' :: Nat.toDigits 10 s.port) ++ '/' :: s.vhostPath.toList))) := by
    unfold uri
    simp only [String.toList_append, port, List.append_assoc]
    rfl
  have scheme : "amqp://".length = "amqp://".toList.length := rfl
  rw [row, scheme, List.drop_left]

theorem isDigit_toDigits {n : Nat} {c : Char} (mem : c ∈ Nat.toDigits 10 n) : c.isDigit = true :=
  Nat.isDigit_of_mem_toDigits (by decide) (by decide) mem

theorem Plain.ofUri_uri (plain : s.Plain) : Endpoint.ofUri s.uri = s.endpoint := by
  have noColon : ':' ∉ Nat.toDigits 10 s.port :=
    fun mem => absurd (isDigit_toDigits mem) (by decide)
  have noSlash : '/' ∉ s.host.toList ++ ':' :: Nat.toDigits 10 s.port := by
    intro mem
    rcases List.mem_append.1 mem with mem | mem
    · exact plain.host mem
    · rcases List.mem_cons.1 mem with odd | mem
      · exact absurd odd (by decide)
      · exact absurd (isDigit_toDigits mem) (by decide)
  have vhost : (if s.vhostPath = "%2f" then "/" else s.vhostPath) = s.vhostName := by
    rw [vhostPath_eq]
    by_cases default : s.vhostName = "/"
    · rw [if_pos default, if_pos rfl, default]
    · rw [if_neg default, if_neg plain.vhost]
  unfold Endpoint.ofUri
  rw [uri_chars, cut_append plain.user]
  dsimp only
  rw [cut_append plain.password]
  dsimp only
  rw [cut_append noSlash]
  dsimp only
  rw [cutLast_append noColon]
  rw [String.ofList_toList, String.ofList_toList, String.ofList_toList, String.ofList_toList,
    Nat.ofDigitChars_ten_toDigits, vhost]
  rfl

/-- Where no part of the URI holds the separator behind it, the endpoint of the settings is read
back from the URI, and two URIs are the same exactly if their endpoints are. -/
theorem uri_unambiguous (ha : a.Plain) (hb : b.Plain) :
    Endpoint.ofUri a.uri = a.endpoint ∧ (a.uri = b.uri ↔ a.endpoint = b.endpoint) := by
  refine ⟨ha.ofUri_uri, fun same => ?_, uri_congr⟩
  calc
    a.endpoint = Endpoint.ofUri a.uri := ha.ofUri_uri.symm
    _ = Endpoint.ofUri b.uri := congrArg Endpoint.ofUri same
    _ = b.endpoint := hb.ofUri_uri

/-- A host that is an address with colons, a password with other separators and a virtual host with
slashes leave the URI readable. -/
theorem uri_unambiguous_separators :
    let a := { default with
      user := "svc", password := "s:e/cret", host := "[::1]", vhost := "/clients/eu" }
    a.Plain ∧ default.Plain ∧ Endpoint.ofUri a.uri = a.endpoint ∧
      (a.uri = default.uri ↔ a.endpoint = default.endpoint) := by
  intro a
  have ha : a.Plain := ⟨by decide, by decide, by decide, by decide⟩
  have hb : default.Plain := ⟨by decide, by decide, by decide, by decide⟩
  exact ⟨ha, hb, uri_unambiguous ha hb⟩

/-- Settings that differ in what a connection is opened with. -/
def Differ (a b : Settings) : Prop :=
  a.user ≠ b.user ∨ a.password ≠ b.password ∨ a.host ≠ b.host ∨ a.port ≠ b.port ∨ a.vhost ≠ b.vhost

instance : Decidable (Differ a b) :=
  inferInstanceAs (Decidable (_ ∨ _))

/-- Settings that differ may have one URI: where a part holds the separator behind it, where a
virtual host looks like the escaped default one, and where virtual hosts differ in leading slashes
only. -/
theorem uri_ambiguous :
    let user : Settings := { default with user := "a:b", password := "c" }
    let user' : Settings := { default with user := "a", password := "b:c" }
    let password : Settings := { default with password := "p@h", host := "x" }
    let password' : Settings := { default with password := "p", host := "h@x" }
    let host : Settings := { default with host := "h:1/v", port := 2, vhost := "w" }
    let host' : Settings := { default with host := "h", port := 1, vhost := "v:2/w" }
    let escaped : Settings := { default with vhost := "%2f" }
    let slashed : Settings := { default with vhost := "/clients" }
    let bare : Settings := { default with vhost := "clients" }
    (Differ user user' ∧ user.uri = user'.uri) ∧
    (Differ password password' ∧ password.uri = password'.uri) ∧
    (Differ host host' ∧ host.uri = host'.uri) ∧
    (Differ escaped default ∧ escaped.uri = default.uri) ∧
    (Differ slashed bare ∧ slashed.uri = bare.uri) := by
  decide

end Settings

end Courier
