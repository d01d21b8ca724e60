import Mathlib.Data.List.Basic
import Mathlib.Tactic.Common
import ScrollExport.Json.Tree
import ScrollExport.Text.Split

/-!
# Trees and their tokens

Every tree has tokens, and from these it is built again (`ofTokens?_tokens`).
-/

namespace ScrollExport.Json

lemma sizeOf_snd_lt_of_mem {α β : Type} [SizeOf α] [SizeOf β] {pairs : List (α × β)} {p : α × β}
    (hp : p ∈ pairs) : sizeOf p.2 < sizeOf pairs := by
  have h := List.sizeOf_lt_of_mem hp
  obtain ⟨a, b⟩ := p
  simp only [Prod.mk.sizeOf_spec] at h
  change sizeOf b < _
  omega

namespace Tree

/-- Induction on the nesting of arrays and objects. -/
theorem induction {motive : Tree → Prop} (null : motive .null) (bool : ∀ b, motive (.bool b))
    (number : ∀ n, motive (.number n)) (text : ∀ s, motive (.text s))
    (arr : ∀ items, (∀ t ∈ items, motive t) → motive (.arr items))
    (obj : ∀ members, (∀ m ∈ members, motive m.2) → motive (.obj members)) (t : Tree) :
    motive t :=
  @Tree.rec motive (fun items => ∀ t ∈ items, motive t)
    (fun members => ∀ m ∈ members, motive m.2) (fun m => motive m.2) null bool number text arr obj
    nofun (fun _ _ h hs => List.forall_mem_cons.2 ⟨h, hs⟩)
    nofun (fun _ _ h hs => List.forall_mem_cons.2 ⟨h, hs⟩) (fun _ _ h => h) t

/-! ### Tokens -/

def tokens : Tree → List Token
  | .null => [.null]
  | .bool b => [.bool b]
  | .number n => [.number n]
  | .text s => [.text s]
  | .arr items => .arrOpen :: [.comma].intercalate (items.map tokens) ++ [.arrClose]
  | .obj members =>
    .objOpen :: [.comma].intercalate (members.map fun m => .text m.1 :: .colon :: tokens m.2) ++
      [.objClose]
termination_by t => sizeOf t
decreasing_by
  · have := List.sizeOf_lt_of_mem ‹_›
    simp only [arr.sizeOf_spec]
    omega
  · have := sizeOf_snd_lt_of_mem ‹_›
    simp only [obj.sizeOf_spec]
    omega

/-- The first token of a tree is the last one of no array. -/
lemma exists_tokens (t : Tree) : ∃ token rest, t.tokens = token :: rest ∧ token ≠ .arrClose := by
  cases t <;> simp [tokens]

/-! ### Building -/

namespace Builder

variable {b c : Builder}

/-- Read one token after the other. -/
def run? (b : Builder) (ts : List Token) : Option Builder :=
  ts.foldlM step? b

lemma run?_cons {token : Token} (h : b.step? token = some c) (ts : List Token) :
    b.run? (token :: ts) = c.run? ts := by
  simp [run?, h]

lemma run?_append {ts : List Token} (h : b.run? ts = some c) (us : List Token) :
    b.run? (ts ++ us) = c.run? us := by
  rw [run?] at h
  simp [run?, h]

/-- The tokens of a tree lead from where a value is awaited to where it has come. -/
def Builds (t : Tree) : Prop :=
  ∀ stack, run? ⟨stack, .value⟩ t.tokens = some ⟨stack, .separator t⟩

variable {t : Tree} {stack : List Frame}

/-- The first item of an array starts like any other value. -/
lemma Builds.firstItem (ht : Builds t) (stack : List Frame) :
    run? ⟨stack, .firstItem⟩ t.tokens = some ⟨.arr [] :: stack, .separator t⟩ := by
  obtain ⟨token, rest, htokens, hne⟩ := t.exists_tokens
  have hs : step? ⟨stack, .firstItem⟩ token = step? ⟨.arr [] :: stack, .value⟩ token := by
    simp [step?, hne]
  have hv := ht (.arr [] :: stack)
  rw [htokens, run?, List.foldlM_cons] at hv ⊢
  rwa [hs]

/-- After an item come the others, and the end of the array. -/
lemma run?_items (before : List Tree) (t : Tree) {items : List Tree}
    (hi : ∀ u ∈ items, Builds u) (stack : List Frame) :
    run? ⟨.arr before :: stack, .separator t⟩
        ((items.map tokens).flatMap (.comma :: ·) ++ [.arrClose]) =
      some ⟨stack, .separator (.arr (before.reverse ++ t :: items))⟩ := by
  induction items generalizing before t with
  | nil =>
    have hr : before.reverse ++ [t] = (t :: before).reverse := List.reverse_cons.symm
    rw [hr]
    rfl
  | cons u items ih =>
    obtain ⟨hu, hi⟩ := List.forall_mem_cons.1 hi
    rw [List.map_cons, List.flatMap_cons, List.append_assoc, List.cons_append,
      run?_cons (c := ⟨.arr (t :: before) :: stack, .value⟩) rfl, run?_append (hu _), ih _ _ hi]
    simp

/-- After a member come the others, and the end of the object. -/
lemma run?_members (before : List (Option String × Tree)) (key : Option String) (t : Tree)
    {members : List (Option String × Tree)} (hm : ∀ m ∈ members, Builds m.2)
    (stack : List Frame) :
    run? ⟨.obj before key :: stack, .separator t⟩
        ((members.map fun m => .text m.1 :: .colon :: m.2.tokens).flatMap (.comma :: ·) ++
          [.objClose]) =
      some ⟨stack, .separator (.obj (before.reverse ++ (key, t) :: members))⟩ := by
  induction members generalizing before key t with
  | nil =>
    have hr : before.reverse ++ [(key, t)] = ((key, t) :: before).reverse :=
      List.reverse_cons.symm
    rw [hr]
    rfl
  | cons m members ih =>
    obtain ⟨hu, hm⟩ := List.forall_mem_cons.1 hm
    rw [List.map_cons, List.flatMap_cons, List.append_assoc, List.cons_append, List.cons_append,
      List.cons_append, run?_cons (c := ⟨stack, .key ((key, t) :: before)⟩) rfl,
      run?_cons (c := ⟨stack, .colon ((key, t) :: before) m.1⟩) rfl,
      run?_cons (c := ⟨.obj ((key, t) :: before) m.1 :: stack, .value⟩) rfl,
      run?_append (hu _), ih _ _ _ hm]
    simp

end Builder

open Builder (run?_cons run?_append run?_items run?_members)

lemma builds (t : Tree) : Builder.Builds t := by
  intro stack
  induction t using Tree.induction generalizing stack with
  | null =>
    rw [tokens]
    rfl
  | bool b =>
    rw [tokens]
    rfl
  | number n =>
    rw [tokens]
    rfl
  | text s =>
    rw [tokens]
    rfl
  | arr items ih =>
    rw [tokens, List.cons_append, run?_cons (c := ⟨stack, .firstItem⟩) rfl]
    cases items with
    | nil => rfl
    | cons t items =>
      obtain ⟨ht, hi⟩ := List.forall_mem_cons.1 ih
      rw [List.map_cons, Text.intercalate_cons, List.append_assoc,
        run?_append (Builder.Builds.firstItem ht stack), run?_items [] t hi]
      rfl
  | obj members ih =>
    rw [tokens, List.cons_append, run?_cons (c := ⟨stack, .firstKey⟩) rfl]
    cases members with
    | nil => rfl
    | cons m members =>
      obtain ⟨ht, hm⟩ := List.forall_mem_cons.1 ih
      rw [List.map_cons, Text.intercalate_cons, List.append_assoc, List.cons_append,
        List.cons_append, run?_cons (c := ⟨stack, .colon [] m.1⟩) rfl,
        run?_cons (c := ⟨.obj [] m.1 :: stack, .value⟩) rfl, run?_append (ht _),
        run?_members [] m.1 m.2 hm]
      rfl

/-- A tree is built from its tokens. -/
theorem ofTokens?_tokens (t : Tree) : ofTokens? t.tokens = some t := by
  have h : t.tokens.foldlM Builder.step? Builder.start = some ⟨[], .separator t⟩ := t.builds []
  rw [ofTokens?, h]
  rfl

end Tree

end ScrollExport.Json
