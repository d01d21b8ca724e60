import ScrollExport.Program
import ScrollExport.Proofs.Json.Rendering
import ScrollExport.Proofs.Url.Disclosure

/-!
# Printed settings

Settings are printed without their password, but with their URL. So nobody learns the password from
them exactly if it does not stand in the URL (`Settings.printed_eq_iff`).
-/

namespace ScrollExport

/-! ### Values that are written alike -/

namespace Json

/-- What is written the same way in one layout has the same tree. -/
lemma ofJson_eq_of_pretty_eq {v w : Json} (h : v.pretty = w.pretty) :
    Tree.ofJson v = Tree.ofJson w := by
  have hv := Tree.ofChars?_render (.indented 0) v
  rw [String.ofList_injective h, Tree.ofChars?_render] at hv
  exact (Option.some.inj hv).symm

end Json

namespace Settings

/-- The settings without the password, wherever it is given. -/
def withoutPassword (s : Settings) : Settings :=
  { s with
    endpoint := { s.endpoint with url := s.endpoint.url.withPassword none, password := none } }

/-- Printed settings tell the URL. -/
lemma toText_url_of_printed_eq {s s' : Settings} (h : s.printed = s'.printed) :
    s.endpoint.url.toText = s'.endpoint.url.toText := by
  have ht := Json.ofJson_eq_of_pretty_eq h
  simp only [toJson, Search.Endpoint.toJson, Json.Tree.ofJson, List.map_cons, List.map_nil,
    Json.Tree.obj.injEq, List.cons.injEq, Prod.mk.injEq, Json.Tree.text.injEq,
    Option.some.injEq, true_and] at ht
  exact ht.2.2.1.1

/-- What is printed depends on the URL and on all but the password. -/
lemma printed_eq (s : Settings) :
    s.printed = printed { s.withoutPassword with
      endpoint := { s.withoutPassword.endpoint with url := s.endpoint.url } } := rfl

/-- Of two settings that differ in nothing but the password, the printed texts are the same exactly
if their URLs have the same password, or none. -/
theorem printed_eq_iff {s s' : Settings} (h : s.withoutPassword = s'.withoutPassword) :
    (s.printed = s'.printed ↔ s.endpoint.url.password = s'.endpoint.url.password) ∧
      ∀ elapsed server files,
        ((Program.perform .config s elapsed server files).output =
            (Program.perform .config s' elapsed server files).output ↔
          s.endpoint.url.password = s'.endpoint.url.password) := by
  have hu : s.endpoint.url.withPassword none = s'.endpoint.url.withPassword none :=
    congrArg (fun s : Settings => s.endpoint.url) h
  have hiff : s.printed = s'.printed ↔ s.endpoint.url.password = s'.endpoint.url.password := by
    constructor
    · intro hp
      rw [Url.eq_of_toText_eq hu (toText_url_of_printed_eq hp)]
    · intro hp
      rw [s.printed_eq, s'.printed_eq, h, Url.eq_of_password_eq hu hp]
  refine ⟨hiff, fun elapsed server files => ?_⟩
  rw [← hiff]
  exact String.append_left_inj "\n"

/-- A password of its own is not printed, but one in the URL is. -/
theorem printed_eq_iff_of_reader :
    let s (embedded password : Option String) : Settings :=
      { mode := none
        logPath := none
        endpoint :=
          { url :=
              { scheme := "http"
                authority := some ⟨"reader", embedded, .domain "localhost", some 9200⟩
                path := .segments [""]
                query := none
                fragment := none }
            timeout := 10000
            username := none
            password }
        query := ⟨["a"], 10, "1m", "t", "date", none, none⟩
        output := ⟨"object.json", "object.csv", "objectrocket.html", ","⟩
        onSearchError := .discard }
    (∀ embedded password, (s embedded password).withoutPassword = (s none none).withoutPassword) ∧
      (s none (some "s3cr3t")).printed = (s none none).printed ∧
      (s (some "s3cr3t") none).printed ≠ (s none none).printed := by
  intro s
  have h (embedded password : Option String) :
      (s embedded password).withoutPassword = (s none none).withoutPassword := rfl
  refine ⟨h, (printed_eq_iff (h none (some "s3cr3t"))).1.2 rfl, fun hp => ?_⟩
  have hpassword := (printed_eq_iff (h (some "s3cr3t") none)).1.1 hp
  cases hpassword

end Settings

end ScrollExport
