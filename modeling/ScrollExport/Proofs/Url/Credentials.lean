import ScrollExport.Proofs.Results
import ScrollExport.Search.Endpoint

/-!
# Credentials in URLs

A user name is read only before a host that is not empty, and the URL of a file has none. So the
credentials can be taken out of every URL that was read (`Search.Endpoint.exists_access_of_read`).
-/

namespace ScrollExport

namespace Url

/-! ### User names -/

lemma eq_empty_of_check {host : Host} {username : String} {hasPassword : Bool}
    (h : ¬ (host = .domain "" && (username ≠ "" || hasPassword)) = true) (hh : host = .domain "") :
    username = "" := by
  by_contra hu
  simp [hh, hu] at h

/-- The user information of an authority is what stands before its last `@`. A user name is refused
where there is no host. -/
lemma userInfo_of_readAuthority {scheme : String} {stopped : Bool} {cs : List Char}
    {a : Authority} (h : readAuthority scheme stopped cs = .ok a) :
    readUserInfo (((splitUserInfo cs).map Prod.fst).getD []) = (a.username, a.password) ∧
      (a.host = .domain "" → a.username = "") := by
  simp only [readAuthority, throw_or_eq_ok_iff, bind_eq_ok_iff] at h
  obtain ⟨-, host, -, -, h⟩ := h
  generalize (splitPort false _).2 = portText at h
  -- the port is of no account
  cases portText
  all_goals
    obtain ⟨port, -, h⟩ := bind_eq_ok_iff.1 h
    obtain ⟨hn, h⟩ := throw_or_eq_ok_iff.1 h
    obtain rfl := Except.ok.inj h
    exact ⟨by cases splitUserInfo cs <;> rfl, eq_empty_of_check hn⟩

lemma authority_of_fileUrl {cs : List Char} {u : Url} (h : fileUrl cs = .ok u) :
    ∃ host, u.authority = some ⟨"", none, host, none⟩ := by
  simp only [fileUrl] at h
  split at h
  · split_ifs at h
    · obtain rfl := Except.ok.inj h
      exact ⟨_, rfl⟩
    · obtain ⟨host, -, h⟩ := bind_eq_ok_iff.1 h
      obtain rfl := Except.ok.inj h
      exact ⟨_, rfl⟩
    · obtain rfl := Except.ok.inj h
      exact ⟨_, rfl⟩
  · obtain rfl := Except.ok.inj h
    exact ⟨_, rfl⟩

/-- Where the authority of a URL comes from. -/
inductive HasAuthority (u : Url) : Prop
  | missing (h : u.authority = none)
  | ofFile (host : Host) (h : u.authority = some ⟨"", none, host, none⟩)
  | ofText (stopped : Bool) (cs : List Char) (a : Authority) (hs : u.scheme ≠ "file")
      (h : u.authority = some a) (ha : readAuthority u.scheme stopped cs = .ok a)

lemma hasAuthority_of_afterSlashes {scheme : String} {cs : List Char} {u : Url}
    (hs : scheme ≠ "file") (h : afterSlashes scheme cs = .ok u) : u.HasAuthority := by
  obtain ⟨a, ha, h⟩ := bind_eq_ok_iff.1 h
  obtain rfl := Except.ok.inj h
  exact .ofText _ _ a hs rfl ha

lemma hasAuthority_of_read {s : String} {u : Url} (h : read s = .ok u) : u.HasAuthority := by
  rw [read, readChars] at h
  split at h
  · cases h
  · split_ifs at h with hf hsp
    · obtain ⟨host, h⟩ := authority_of_fileUrl h
      exact .ofFile host h
    · exact hasAuthority_of_afterSlashes hf h
    · split at h
      · exact hasAuthority_of_afterSlashes hf h
      · obtain rfl := Except.ok.inj h
        exact .missing rfl

end Url

namespace Search

/-- A URL with a user name has room for one. -/
lemma canHoldUser_of_read {s : String} {u : Url} (h : Url.read s = .ok u)
    (hu : u.username ≠ "") : canHoldUser u = true := by
  cases Url.hasAuthority_of_read h with
  | missing h => simp [Url.username, h] at hu
  | ofFile host h => simp [Url.username, h] at hu
  | ofText stopped cs a hs h ha =>
    have hhost : a.host ≠ .domain "" := fun he =>
      hu (by simp [Url.username, h, (Url.userInfo_of_readAuthority ha).2 he])
    simp [canHoldUser, hs, h, hhost]

/-- The URL is kept as it is, or without its credentials. -/
lemma Endpoint.exists_access {e : Endpoint}
    (h : e.url.username ≠ "" → canHoldUser e.url = true) :
    ∃ a, e.access = .ok a ∧ (a.url = e.url ∨ a.url = e.url.withoutCredentials) := by
  obtain ⟨url, credentials, hc, hurl⟩ : ∃ url credentials,
      splitCredentials e.url = .ok (url, credentials) ∧
        (url = e.url ∨ url = e.url.withoutCredentials) := by
    rw [splitCredentials]
    split_ifs with hu hf
    · exact ⟨_, _, rfl, .inl rfl⟩
    · exact ⟨_, _, rfl, .inr rfl⟩
    · exact absurd (h hu) hf
  rw [Endpoint.access, hc]
  cases e.username with
  | none => exact ⟨_, rfl, hurl⟩
  | some username => exact ⟨_, rfl, hurl⟩

/-- The credentials can be taken out of every URL that was read. -/
theorem Endpoint.exists_access_of_read {e : Endpoint} {s : String}
    (h : Url.read s = .ok e.url) :
    ∃ a, e.access = .ok a ∧ (a.url = e.url ∨ a.url = e.url.withoutCredentials) :=
  exists_access (canHoldUser_of_read h)

end Search

end ScrollExport
