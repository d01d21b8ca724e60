import ScrollExport.Proofs.Search.Admission

/-!
# Credentials that are shown

The text of a URL tells its password. An endpoint keeps its URL without user name and password, and
what is told of a session is told of that URL; but a password without a user name stays in it
(`Search.Endpoint.shown_access`).
-/

namespace ScrollExport

namespace Url

/-! ### Passwords -/

/-- The URL with another password; without an authority it has room for none. -/
def withPassword (u : Url) (password : Option String) : Url :=
  { u with authority := u.authority.map fun a => { a with password } }

lemma withPassword_withPassword (u : Url) (password password' : Option String) :
    (u.withPassword password).withPassword password' = u.withPassword password' := by
  cases h : u.authority <;> simp [withPassword, h]

lemma withPassword_password (u : Url) : u.withPassword u.password = u := by
  obtain ⟨scheme, authority, path, query, fragment⟩ := u
  cases authority <;> rfl

/-- A URL is known from its password and all the rest of it. -/
lemma eq_withPassword {u u' : Url} (h : u.withPassword none = u'.withPassword none) :
    u = u'.withPassword u.password :=
  calc
    u = (u.withPassword none).withPassword u.password := by
      rw [withPassword_withPassword, withPassword_password]
    _ = u'.withPassword u.password := by rw [h, withPassword_withPassword]

lemma eq_of_password_eq {u u' : Url} (h : u.withPassword none = u'.withPassword none)
    (hp : u.password = u'.password) : u = u' := by
  rw [eq_withPassword h, hp]
  exact u'.withPassword_password

/-! ### Texts -/

/-- Behind the same user name every password is written in its own way, and so is none. -/
lemma UserInfo.chars_injective (username : String) :
    Function.Injective (UserInfo.chars username) := by
  intro password password' h
  have hl := congrArg List.length h
  cases password with
  | none =>
    cases password' with
    | none => rfl
    | some p' =>
      simp only [chars] at hl
      split_ifs at hl <;> simp at hl
  | some p =>
    cases password' with
    | none =>
      simp only [chars] at hl
      split_ifs at hl <;> simp at hl
    | some p' =>
      simp only [chars, List.append_cancel_left_eq, List.cons.injEq, List.append_cancel_right_eq,
        true_and] at h
      rw [String.toList_injective h]

/-- The text of a URL tells its password. -/
lemma eq_of_toText_eq {u u' : Url} (h : u.withPassword none = u'.withPassword none)
    (ht : u.toText = u'.toText) : u = u' := by
  have hu := eq_withPassword h
  rw [hu] at ht ⊢
  generalize u.password = password at ht ⊢
  obtain ⟨scheme, authority, path, query, fragment⟩ := u'
  cases authority with
  | none => rfl
  | some a =>
    obtain ⟨username, password', host, port⟩ := a
    -- only the part before the host can differ
    have hc : UserInfo.chars username password = UserInfo.chars username password' := by
      have hc := String.ofList_injective ht
      simpa only [withPassword, Option.map_some, toChars, authorityChars, targetChars,
        List.append_assoc, List.cons_append, List.nil_append, List.append_cancel_left_eq,
        List.cons.injEq, true_and, List.append_cancel_right_eq] using hc
    rw [UserInfo.chars_injective username hc]
    rfl

/-! ### Taking credentials away -/

lemma username_withoutCredentials (u : Url) : u.withoutCredentials.username = "" := by
  cases h : u.authority <;> simp [withoutCredentials, username, h]

lemma password_withoutCredentials (u : Url) : u.withoutCredentials.password = none := by
  cases h : u.authority <;> simp [withoutCredentials, password, h]

lemma withoutCredentials_withoutCredentials (u : Url) :
    u.withoutCredentials.withoutCredentials = u.withoutCredentials := by
  cases h : u.authority <;> simp [withoutCredentials, h]

lemma withPassword_withoutCredentials {u : Url} (hu : u.username = "") :
    u.withoutCredentials.withPassword none = u.withPassword none := by
  obtain ⟨scheme, authority, path, query, fragment⟩ := u
  cases authority with
  | none => rfl
  | some a =>
    obtain ⟨username, password, host, port⟩ := a
    obtain rfl : username = "" := hu
    rfl

/-- Without a user name the password is all there is to take away. -/
lemma withoutCredentials_eq_self_iff {u : Url} (hu : u.username = "") :
    u.withoutCredentials = u ↔ u.password = none := by
  constructor
  · intro h
    rw [← h]
    exact u.password_withoutCredentials
  · intro hp
    obtain ⟨scheme, authority, path, query, fragment⟩ := u
    cases authority with
    | none => rfl
    | some a =>
      obtain ⟨username, password, host, port⟩ := a
      obtain rfl : username = "" := hu
      obtain rfl : password = none := hp
      rfl

end Url

namespace Search

namespace Access

/-- What is told of a session: its URL, the log, and why there is no connection. -/
def shown (a : Access) (s : Server) : List String :=
  a.url.toText :: a.startLog s ++
    match (a.connect s).1 with
    | .ok () => []
    | .error cause => [cause.message]

/-- The credentials of the requests are never told. -/
lemma shown_eq (u : Url) (c c' : Option Credentials) (s : Server) :
    shown ⟨u, c⟩ s = shown ⟨u, c'⟩ s := by
  have hs : (start ⟨u, c⟩ s).1 = (start ⟨u, c'⟩ s).1 := by rw [fst_start, fst_start]
  simp only [shown, startLog, connect, hs]

lemma toText_eq_of_shown_eq {a a' : Access} {s : Server} (h : a.shown s = a'.shown s) :
    a.url.toText = a'.url.toText :=
  (List.cons.inj h).1

end Access

namespace Endpoint

/-- The URL is kept as it is exactly if it has no user name. -/
lemma url_of_access {e : Endpoint} {a : Access} (h : e.access = .ok a) :
    a.url = if e.url.username = "" then e.url else e.url.withoutCredentials := by
  rw [access, splitCredentials] at h
  split_ifs at h ⊢ with hu hc
  · obtain rfl := Except.ok.inj h
    cases e.username <;> rfl
  · obtain rfl := Except.ok.inj h
    cases e.username <;> rfl
  · cases h

/-- No user name stays in the URL of an endpoint, and nothing but credentials is taken from it. A
password stays in it, and is told, exactly if it stands there without a user name; otherwise all
that is told is what would be told without any credentials. -/
theorem shown_access {e : Endpoint} {a : Access} (h : e.access = .ok a) :
    a.url.withoutCredentials = e.url.withoutCredentials ∧ a.url.username = "" ∧
      (a.url.password = none ↔ (e.url.username = "" → e.url.password = none)) ∧
      ∀ server, a.shown server = Access.shown ⟨e.url.withoutCredentials, none⟩ server ↔
        (e.url.username = "" → e.url.password = none) := by
  have ha := url_of_access h
  obtain ⟨url, credentials⟩ := a
  by_cases hu : e.url.username = ""
  · obtain rfl : url = e.url := by rwa [if_pos hu] at ha
    refine ⟨rfl, hu, by simp [hu], fun server => ?_⟩
    simp only [hu, forall_const]
    constructor
    · intro hs
      have ht := Access.toText_eq_of_shown_eq hs
      have he := Url.eq_of_toText_eq (Url.withPassword_withoutCredentials hu).symm ht
      exact (Url.withoutCredentials_eq_self_iff hu).1 he.symm
    · intro hp
      rw [(Url.withoutCredentials_eq_self_iff hu).2 hp]
      exact Access.shown_eq e.url credentials none server
  · obtain rfl : url = e.url.withoutCredentials := by rwa [if_neg hu] at ha
    refine ⟨e.url.withoutCredentials_withoutCredentials, e.url.username_withoutCredentials, ?_,
      fun server => ?_⟩
    · exact iff_of_true e.url.password_withoutCredentials (absurd · hu)
    · exact iff_of_true (Access.shown_eq _ credentials none server) (absurd · hu)

/-- A password that stands alone is told. -/
theorem shown_access_of_password :
    let e : Endpoint :=
      { url :=
          { scheme := "http"
            authority := some ⟨"", some "s3cr3t", .domain "localhost", some 9200⟩
            path := .segments [""]
            query := none
            fragment := none }
        timeout := 10000
        username := none
        password := none }
    let a : Access := ⟨e.url, none⟩
    Url.read "http://:s3cr3t@localhost:9200" = .ok e.url ∧ e.access = .ok a ∧
      a.url.toText = "http://:s3cr3t@localhost:9200/" ∧
      ∀ server, a.shown server ≠ Access.shown ⟨e.url.withoutCredentials, none⟩ server := by
  intro e a
  have ha : e.access = .ok a := by rfl
  refine ⟨by rfl, ha, by decide +kernel, fun server hs => ?_⟩
  have hp := ((shown_access ha).2.2.2 server).1 hs rfl
  cases hp

end Endpoint

end Search

end ScrollExport
