import Docstore.Proofs.Sql.Numbering
import Mathlib.Data.List.Forall2

/-!
# Equality but for letter case

The names and addresses of users can be compared without regard to letter case. Text cannot be mistaken for such
a comparison, so that to replace them in the text of a template is to replace them in the template. Main
statement: `Template.Unfolds.chars`.
-/

namespace Docstore.Sql

/-! ## Replacement in texts -/

/-- The fields by which users are told apart. -/
def identityFields : List String := ["username", "email"]

/-- Equality of a field with a bound value, but for letter case. -/
def foldedEquality (field : String) (n : Nat) : String :=
  "LOWER(\"" ++ field ++ "\") = LOWER($" ++ toString n ++ ")"

def strictEquality (field : String) (n : Nat) : String := "\"" ++ field ++ "\" = $" ++ toString n

/-- Whether a text starts with an equality of an identity field but for letter case. -/
def StartsFolded (cs : List Char) : Prop :=
  ∃ field ∈ identityFields, ∃ n, (foldedEquality field n).toList <+: cs

/-- What becomes of a text when every equality of an identity field but for letter case is replaced, from left to
right, by a strict one. -/
inductive Unfolded : List Char → List Char → Prop
  | nil : Unfolded [] []
  | keep {c : Char} {cs cs' : List Char} (h : ¬ StartsFolded (c :: cs)) (hrest : Unfolded cs cs') :
      Unfolded (c :: cs) (c :: cs')
  | replace {field : String} (h : field ∈ identityFields) (n : Nat) {cs cs' : List Char}
      (hrest : Unfolded cs cs') :
      Unfolded ((foldedEquality field n).toList ++ cs) ((strictEquality field n).toList ++ cs')

theorem toList_foldedEquality (field : String) (n : Nat) (cs : List Char) :
    (foldedEquality field n).toList ++ cs =
      "LOWER(".toList ++ '"' :: (field.toList ++ '"' :: (") = LOWER(".toList ++
        '$' :: (Nat.toDigits 10 n ++ ')' :: cs))) := by
  simp [foldedEquality, toString, Nat.repr]

theorem toList_strictEquality (field : String) (n : Nat) (cs : List Char) :
    (strictEquality field n).toList ++ cs =
      '"' :: (field.toList ++ '"' :: (" = ".toList ++ '$' :: (Nat.toDigits 10 n ++ cs))) := by
  simp [strictEquality, toString, Nat.repr]

theorem StartsFolded.eq {cs : List Char} (h : StartsFolded cs) :
    ∃ field ∈ identityFields, ∃ rest,
      cs = "LOWER(".toList ++ '"' :: (field.toList ++ '"' :: (") = LOWER(".toList ++ '$' :: rest)) := by
  obtain ⟨field, hfield, n, cs, rfl⟩ := h
  exact ⟨field, hfield, _, toList_foldedEquality field n cs⟩

theorem not_startsFolded_of_ne {c : Char} {cs : List Char} (h : c ≠ 'L') : ¬ StartsFolded (c :: cs) := by
  intro hs
  obtain ⟨field, -, rest, he⟩ := hs.eq
  exact h (List.cons.inj he).1

theorem identityFields_plain {field : String} (h : field ∈ identityFields) : '"' ∉ field.toList := by
  have hall : ∀ field ∈ identityFields, '"' ∉ field.toList := by decide
  exact hall field h

theorem not_mem_toDigits {c : Char} (h : c.isDigit = false) (n : Nat) : c ∉ Nat.toDigits 10 n := by
  intro hc
  have hd := Nat.isDigit_of_mem_toDigits (by decide) (by decide) hc
  rw [h] at hd
  cases hd

/-- A text is cut in one way at a character that is not in front of the cut. -/
theorem eq_of_append_cons_eq {a b : Char} {x y z w : List Char} (hb : b ∉ x) (ha : a ∉ y)
    (h : x ++ a :: z = y ++ b :: w) : x = y ∧ a = b ∧ z = w := by
  rcases List.append_eq_append_iff.mp h with ⟨c, rfl, hc⟩ | ⟨c, rfl, hc⟩
  · cases c with
    | nil => simpa using hc
    | cons d c =>
        obtain ⟨rfl, -⟩ := List.cons.inj hc
        exact absurd (by simp) ha
  · cases c with
    | nil => simpa [eq_comm] using hc
    | cons d c =>
        obtain ⟨rfl, -⟩ := List.cons.inj hc
        exact absurd (by simp) hb

/-- A text has one replacement. -/
theorem Unfolded.unique {cs a b : List Char} (ha : Unfolded cs a) (hb : Unfolded cs b) : a = b := by
  induction ha generalizing b with
  | nil =>
      generalize hcs : ([] : List Char) = cs at hb
      cases hb with
      | nil => rfl
      | keep h hrest => cases hcs
      | replace hf n hrest => simp [foldedEquality] at hcs
  | @keep c cs cs' h hrest ih =>
      generalize hds : c :: cs = ds at hb
      cases hb with
      | nil => cases hds
      | keep h' hrest' =>
          obtain ⟨rfl, rfl⟩ := List.cons.inj hds
          rw [ih hrest']
      | replace hf n hrest' => exact absurd ⟨_, hf, n, _, hds.symm⟩ h
  | @replace field hf n cs cs' hrest ih =>
      generalize hds : (foldedEquality field n).toList ++ cs = ds at hb
      cases hb with
      | nil => simp [foldedEquality] at hds
      | keep h' hrest' => exact absurd ⟨_, hf, n, _, hds⟩ h'
      | @replace field' hf' n' cs' cs'' hrest' =>
          rw [toList_foldedEquality, toList_foldedEquality, List.append_cancel_left_eq,
            List.cons_inj_right] at hds
          obtain ⟨hfield, -, hds⟩ :=
            eq_of_append_cons_eq (identityFields_plain hf) (identityFields_plain hf') hds
          rw [List.append_cancel_left_eq, List.cons_inj_right] at hds
          obtain ⟨hdigits, -, rfl⟩ :=
            eq_of_append_cons_eq (not_mem_toDigits rfl n) (not_mem_toDigits rfl n') hds
          rw [toList_strictEquality, toList_strictEquality, hfield, hdigits, ih hrest']

/-! ## Text that is kept -/

/-- A text that does not go on with the word of a comparison that ignores letter case. -/
def NoWord (cs : List Char) : Prop := ∀ rest, cs ≠ 'W' :: rest ∧ cs ≠ 'O' :: 'W' :: rest

variable {cs cs' : List Char}

theorem Unfolded.keepAll {a : List Char} (h : ∀ c b, c :: b <:+ a → ¬ StartsFolded (c :: b ++ cs))
    (hrest : Unfolded cs cs') : Unfolded (a ++ cs) (a ++ cs') := by
  induction a with
  | nil => exact hrest
  | cons c a ih =>
      exact .keep (h c a List.suffix_rfl) (ih fun d b hb => h d b (hb.trans (List.suffix_cons c a)))

theorem Unfolded.keepText {a : List Char} (ha : 'W' ∉ a) (hcs : NoWord cs) (hrest : Unfolded cs cs') :
    Unfolded (a ++ cs) (a ++ cs') := by
  refine hrest.keepAll fun c b hb hs => ?_
  have hw : 'W' ∉ c :: b := fun h => ha (hb.subset h)
  obtain ⟨field, -, rest, he⟩ := hs.eq
  obtain ⟨-, he⟩ := List.cons.inj he
  match b with
  | [] => exact (hcs _).2 he
  | [d] => exact (hcs _).1 (List.cons.inj he).2
  | d :: e :: b =>
      obtain ⟨rfl, -⟩ := List.cons.inj (List.cons.inj he).2
      exact hw (.tail _ (.tail _ (.head _)))

theorem Unfolded.keepDigits (n : Nat) (hrest : Unfolded cs cs') :
    Unfolded (Nat.toDigits 10 n ++ cs) (Nat.toDigits 10 n ++ cs') := by
  refine hrest.keepAll fun c b hb => not_startsFolded_of_ne ?_
  rintro rfl
  exact not_mem_toDigits rfl n (hb.subset (.head _))

theorem quoted_of_not_mem {q : Char} {s : String} (h : q ∉ s.toList) : quoted q s = q :: (s.toList ++ [q]) := by
  have hs : s.toList.flatMap (fun c => if c = q then [q, q] else [c]) = s.toList := by
    rw [List.flatMap_congr fun c hc => if_neg (ne_of_mem_of_not_mem hc h), List.flatMap_singleton']
  rw [quoted, hs]

/-- A comparison that ignores letter case does not start between quotes, unless another name follows that has a
dollar sign. -/
theorem Unfolded.keepQuoted {q : Char} {s : String} (hq : q = '"' ∨ q = '\'') (hs : q ∉ s.toList)
    (hdouble : '"' ∉ s.toList)
    (hcs : ∀ a b, '"' ∉ a → '\'' ∉ a → '$' ∉ a → cs = a ++ '"' :: b → ∃ s r, b = s ++ '"' :: r ∧ '$' ∉ s)
    (hrest : Unfolded cs cs') : Unfolded (quoted q s ++ cs) (quoted q s ++ cs') := by
  have hL : q ≠ 'L' := by rcases hq with rfl | rfl <;> decide
  rw [quoted_of_not_mem hs, List.cons_append, List.cons_append, List.append_assoc, List.append_assoc]
  refine .keep (not_startsFolded_of_ne hL) (Unfolded.keepAll (fun c b hb hfolded => ?_)
    (.keep (not_startsFolded_of_ne hL) hrest))
  obtain ⟨field, hfield, rest, he⟩ := hfolded.eq
  have hb : '"' ∉ c :: b := fun h => hdouble (hb.subset h)
  have hword : q ∉ "LOWER(".toList := by rcases hq with rfl | rfl <;> decide
  obtain ⟨-, rfl, rfl⟩ := eq_of_append_cons_eq hb hword he
  have hplain : ∀ field ∈ identityFields, '"' ∉ field.toList ∧ '\'' ∉ field.toList ∧ '$' ∉ field.toList := by
    decide
  obtain ⟨h1, h2, h3⟩ := hplain field hfield
  obtain ⟨s', r, he, hs'⟩ := hcs _ _ h1 h2 h3 rfl
  obtain ⟨-, hne, -⟩ := eq_of_append_cons_eq hs' (by decide) he.symm
  exact absurd hne (by decide)

/-! ## Replacement in templates -/

namespace Fragment

variable {names literals : String → Prop}

/-- Behind a double quote outside names and constants stands a name. -/
theorem WellFormed.name_of_quote (hn : ∀ s, names s → '"' ∉ s.toList ∧ '$' ∉ s.toList) {f : Fragment}
    (h : WellFormed names literals f) {a b : List Char} (h1 : '"' ∉ a) (h2 : '\'' ∉ a) (h3 : '$' ∉ a)
    (he : chars f = a ++ '"' :: b) : ∃ s r, b = s ++ '"' :: r ∧ '$' ∉ s := by
  induction f generalizing a with
  | nil => simp [chars] at he
  | cons t rest ih =>
      rw [chars_cons] at he
      cases t with
      | text s =>
          rw [Token.chars, List.append_eq_append_iff] at he
          rcases he with ⟨a', rfl, he⟩ | ⟨c', hs, he⟩
          · exact ih h.2 (fun hm => h1 (by simp [hm])) (fun hm => h2 (by simp [hm]))
              (fun hm => h3 (by simp [hm])) he
          · cases c' with
            | nil => exact ih h.2 (List.not_mem_nil) (List.not_mem_nil) (List.not_mem_nil) he.symm
            | cons d c' =>
                obtain ⟨rfl, -⟩ := List.cons.inj he
                exact absurd rfl (h.1 '"' (by simp [hs])).1
      | name s =>
          obtain ⟨hq, hd⟩ := hn s h.1
          rw [Token.chars, quoted_of_not_mem hq] at he
          cases a with
          | nil =>
              obtain ⟨-, rfl⟩ := List.cons.inj he
              exact ⟨s.toList, chars rest, by simp, hd⟩
          | cons d a =>
              obtain ⟨rfl, -⟩ := List.cons.inj he
              exact absurd (.head _) h1
      | literal s =>
          cases a with
          | nil => cases he
          | cons d a =>
              obtain ⟨rfl, -⟩ := List.cons.inj he
              exact absurd (.head _) h2
      | placeholder n =>
          cases a with
          | nil => cases he
          | cons d a =>
              obtain ⟨rfl, -⟩ := List.cons.inj he
              exact absurd (.head _) h3

end Fragment

namespace Template

/-- Whether text of a template has the word of a comparison that ignores letter case. -/
def Strict (t : Template) : Prop := ∀ s, Part.text s ∈ t → 'W' ∉ s.toList

/-- A template and the one that has strict equalities of identity fields in the place of those but for letter
case. -/
inductive Unfolds : Template → Template → Prop
  | nil : Unfolds [] []
  | keep {part : Part} {t t' : Template} (h : Strict [part]) (hrest : Unfolds t t') :
      Unfolds (part :: t) (part :: t')
  | replace {field : String} (h : field ∈ identityFields) (v : Value) {t t' : Template}
      (hrest : Unfolds t t') :
      Unfolds (.text "LOWER(" :: .name field :: .text ") = LOWER(" :: .bind v :: .text ")" :: t)
        (.name field :: .text " = " :: .bind v :: t')

variable {t t' : Template}

theorem strict_nil : Strict [] := by
  intro s hs
  cases hs

@[simp] theorem strict_append {s t : Template} : Strict (s ++ t) ↔ Strict s ∧ Strict t := by
  simp only [Strict, List.mem_append, or_imp, forall_and]

@[simp] theorem strict_words {s : String} : Strict (words s) ↔ 'W' ∉ s.toList := by
  simp [Strict, words]

@[simp] theorem strict_named (s : String) : Strict (named s) := by
  simp [Strict, named]

@[simp] theorem strict_value (v : Value) : Strict (value v) := by
  simp [Strict, value]

theorem strict_join {sep : String} (hsep : 'W' ∉ sep.toList) {ts : List Template} (h : ∀ t ∈ ts, Strict t) :
    Strict (join sep ts) := by
  match ts with
  | [] => exact strict_nil
  | [t] => exact h t (.head _)
  | t :: u :: ts =>
      obtain ⟨ht, hts⟩ := List.forall_mem_cons.mp h
      simp only [join, strict_append, strict_words]
      exact ⟨⟨ht, hsep⟩, strict_join hsep hts⟩

@[simp] theorem strict_listed (vs : List Value) : Strict (listed vs) := by
  refine strict_join (by decide) fun t ht => ?_
  obtain ⟨v, -, rfl⟩ := List.mem_map.mp ht
  exact strict_value v

theorem Strict.unfolds (h : Strict t) : Unfolds t t := by
  induction t with
  | nil => exact .nil
  | cons part t ih =>
      refine .keep (fun s hs => h s ?_) (ih fun s hs => h s (.tail _ hs))
      rw [List.mem_singleton.mp hs]
      exact .head _

theorem Unfolds.append {s s' : Template} (hs : Unfolds s s') (ht : Unfolds t t') :
    Unfolds (s ++ t) (s' ++ t') := by
  induction hs with
  | nil => exact ht
  | keep h hrest ih => exact .keep h ih
  | replace h v hrest ih => exact .replace h v ih

theorem Unfolds.join {sep : String} (hsep : 'W' ∉ sep.toList) {ts ts' : List Template}
    (h : List.Forall₂ Unfolds ts ts') : Unfolds (Template.join sep ts) (Template.join sep ts') := by
  have hwords : Unfolds (words sep) (words sep) := (strict_words.mpr hsep).unfolds
  induction h with
  | nil => exact .nil
  | cons ht hts ih =>
      cases hts with
      | nil => exact ht
      | cons hu hts => exact (ht.append hwords).append ih

theorem strict_text {s : String} (h : Strict [.text s]) : 'W' ∉ s.toList := h s (.head _)

theorem noWord_of_ne {c : Char} (hw : c ≠ 'W') (ho : c ≠ 'O') (cs : List Char) : NoWord (c :: cs) := by
  intro rest
  constructor
  · intro he
    exact hw (List.cons.inj he).1
  · intro he
    exact ho (List.cons.inj he).1

theorem Unfolds.noWord (h : Unfolds t t') (next : Nat) : NoWord (Fragment.chars (number next t)) := by
  induction h generalizing next with
  | nil => exact fun rest => ⟨(List.cons_ne_nil _ _).symm, (List.cons_ne_nil _ _).symm⟩
  | @keep part t t' hpart hrest ih =>
      cases part with
      | text s =>
          have hw := strict_text hpart
          rw [number, Fragment.chars_cons, Token.chars]
          cases hs : s.toList with
          | nil => exact ih next
          | cons c cs =>
              rw [hs] at hw
              intro rest
              constructor
              · intro he
                obtain ⟨rfl, -⟩ := List.cons.inj he
                exact hw (.head _)
              · intro he
                obtain ⟨-, he⟩ := List.cons.inj he
                cases cs with
                | nil => exact (ih next rest).1 he
                | cons d cs =>
                    obtain ⟨rfl, -⟩ := List.cons.inj he
                    exact hw (.tail _ (.head _))
      | name s | literal s | bind v | again => exact noWord_of_ne (by decide) (by decide) _
  | replace h v hrest ih => exact noWord_of_ne (by decide) (by decide) _

/-- The text of a template has the equalities to be replaced where the template has them. -/
theorem Unfolds.chars {names literals : String → Prop}
    (hn : ∀ s, names s → '"' ∉ s.toList ∧ '$' ∉ s.toList)
    (hl : ∀ s, literals s → '"' ∉ s.toList ∧ '\'' ∉ s.toList) (h : Unfolds t t') (next : Nat)
    (hw : Fragment.WellFormed names literals (number next t)) :
    Unfolded (Fragment.chars (number next t)) (Fragment.chars (number next t')) := by
  induction h generalizing next with
  | nil => exact .nil
  | @keep part t t' hpart hrest ih =>
      cases part with
      | text s => exact (ih next hw.2).keepText (strict_text hpart) (hrest.noWord next)
      | name s =>
          obtain ⟨hs, -, hw⟩ := hw
          exact (ih next hw).keepQuoted (.inl rfl) (hn s hs).1 (hn s hs).1 fun a b => hw.name_of_quote hn
      | literal s =>
          obtain ⟨hs, -, hw⟩ := hw
          exact (ih next hw).keepQuoted (.inr rfl) (hl s hs).2 (hl s hs).1 fun a b => hw.name_of_quote hn
      | bind v => exact .keep (not_startsFolded_of_ne (by decide)) ((ih (next + 1) hw.2).keepDigits next)
      | again => exact .keep (not_startsFolded_of_ne (by decide)) ((ih next hw.2).keepDigits (next - 1))
  | @replace field hf v t t' hrest ih =>
      have hrest := Unfolded.replace hf next (ih (next + 1) hw.2.2.2.2.2.2)
      have hq := identityFields_plain hf
      rw [toList_foldedEquality, toList_strictEquality] at hrest
      simpa [number, Fragment.chars_cons, Token.chars, quoted_of_not_mem hq] using hrest

end Template

end Docstore.Sql
