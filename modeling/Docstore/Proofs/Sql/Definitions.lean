import Docstore.Proofs.Sql.Nesting
import Docstore.Proofs.Sql.Statements
import Docstore.Sql.Definition

/-!
# Names in definitions

A definition is written with names that nobody has checked. Read by the rule of quotes its text shows these names
and no others, each whole; what stands around them is the same whatever the names are, and ends with the
statement's only semicolon. Main statement: `definition_names_stay_quoted`.
-/

namespace Docstore.Sql

/-! ## What stands inside and outside quotes -/

namespace Lexeme

def name? : Lexeme → Option String
  | name s => some s
  | _ => none

/-- A character outside quotes; nothing is said of what quotes enclose. -/
def char? : Lexeme → Option Char
  | char c => some c
  | _ => none

end Lexeme

namespace Fragment

def names (f : Fragment) : List String :=
  f.filterMap fun
    | .name s => some s
    | _ => none

/-- The text of a fragment with gaps where something is quoted. -/
def outside (f : Fragment) : List (Option Char) :=
  f.flatMap fun
    | .text s => s.toList.map some
    | _ => [none]

@[simp] theorem names_nil : names [] = [] := rfl

@[simp] theorem names_text (s : String) (f : Fragment) : names (.text s :: f) = names f := rfl

@[simp] theorem names_name (s : String) (f : Fragment) : names (.name s :: f) = s :: names f := rfl

@[simp] theorem names_append (f g : Fragment) : names (f ++ g) = names f ++ names g := List.filterMap_append

@[simp] theorem outside_nil : outside [] = [] := rfl

@[simp] theorem outside_text (s : String) (f : Fragment) :
    outside (.text s :: f) = s.toList.map some ++ outside f := rfl

@[simp] theorem outside_name (s : String) (f : Fragment) : outside (.name s :: f) = none :: outside f := rfl

@[simp] theorem outside_append (f g : Fragment) : outside (f ++ g) = outside f ++ outside g := List.flatMap_append

theorem names_lexemes (f : Fragment) : (lexemes f).filterMap Lexeme.name? = names f := by
  match f with
  | [] => rfl
  | .text s :: rest =>
      have hs : s.toList.filterMap (Lexeme.name? ∘ Lexeme.char) = [] := by simp [Lexeme.name?]
      rw [lexemes, List.filterMap_append, List.filterMap_map, hs, names_lexemes rest]
      rfl
  | .name s :: rest => exact congrArg (s :: ·) (names_lexemes rest)
  | .literal _ :: rest => exact names_lexemes rest
  | .placeholder _ :: rest => exact names_lexemes rest

theorem outside_lexemes (f : Fragment) : (lexemes f).map Lexeme.char? = outside f := by
  match f with
  | [] => rfl
  | .text s :: rest =>
      have hs : s.toList.map (Lexeme.char? ∘ Lexeme.char) = s.toList.map some := rfl
      rw [lexemes, List.map_append, List.map_map, hs, outside_lexemes rest]
      rfl
  | .name _ :: rest => exact congrArg (none :: ·) (outside_lexemes rest)
  | .literal _ :: rest => exact congrArg (none :: ·) (outside_lexemes rest)
  | .placeholder _ :: rest => exact congrArg (none :: ·) (outside_lexemes rest)

theorem names_joinFragments (sep : String) (fs : List Fragment) : names (joinFragments sep fs) = fs.flatMap names := by
  match fs with
  | [] => rfl
  | [f] => simp [joinFragments]
  | f :: g :: fs => simp [joinFragments, names_joinFragments sep (g :: fs)]

/-- Between separators only what stands outside quotes tells lists of fragments apart. -/
theorem outside_joinFragments (sep : String) {fs gs : List Fragment} (h : fs.map outside = gs.map outside) :
    outside (joinFragments sep fs) = outside (joinFragments sep gs) := by
  match fs, gs with
  | [], [] => rfl
  | [f], [g] => simpa [joinFragments] using h
  | f :: f' :: fs, g :: g' :: gs =>
      obtain ⟨hhead, hrest⟩ := List.cons.inj h
      have ih : outside (joinFragments sep (f' :: fs)) = outside (joinFragments sep (g' :: gs)) :=
        outside_joinFragments sep hrest
      simp [joinFragments, hhead, ih]
  | [], _ :: _ | _ :: _, [] | [_], _ :: _ :: _ | _ :: _ :: _, [_] => simp at h

end Fragment

/-! ## Fragments of names and bare text -/

/-- A name, or text without quotes, dollar signs and semicolons. -/
def Token.IsBare : Token → Prop
  | .text s => IsPlain s ∧ ';' ∉ s.toList
  | .name _ => True
  | .literal _ | .placeholder _ => False

instance : DecidablePred Token.IsBare
  | .text s => inferInstanceAs (Decidable (IsPlain s ∧ ';' ∉ s.toList))
  | .name _ => isTrue trivial
  | .literal _ | .placeholder _ => isFalse id

namespace Fragment

/-- Nothing but names and bare text, each told from the next. -/
structure Bare (f : Fragment) : Prop where
  readable : f.Readable
  tokens : ∀ t ∈ f, t.IsBare

/-- The same, and told from a token before it. -/
structure BareBehind (f : Fragment) : Prop extends Bare f where
  detached : f.Detached

variable {f g : Fragment} {s : String}

theorem Bare.nil : Bare [] := ⟨trivial, nofun⟩

theorem BareBehind.nil : BareBehind [] := ⟨.nil, trivial⟩

theorem Bare.text (hs : Token.IsBare (.text s)) (hf : Bare f) : Bare (.text s :: f) :=
  ⟨⟨hs.1, hf.readable⟩, List.forall_mem_cons.mpr ⟨hs, hf.tokens⟩⟩

theorem BareBehind.text (hs : Token.IsBare (.text s)) (hapart : StartsApart s) (hf : Bare f) :
    BareBehind (.text s :: f) :=
  ⟨.text hs hf, detached_text hapart⟩

theorem Bare.name (hf : BareBehind f) : Bare (.name s :: f) :=
  ⟨⟨trivial, hf.detached, hf.readable⟩, List.forall_mem_cons.mpr ⟨trivial, hf.tokens⟩⟩

theorem Bare.append (hf : Bare f) (hg : BareBehind g) : Bare (f ++ g) :=
  ⟨(readable_append hg.detached).mpr ⟨hf.readable, hg.readable⟩, List.forall_mem_append.mpr ⟨hf.tokens, hg.tokens⟩⟩

theorem Bare.join {fs : List Fragment} (h : ∀ f ∈ fs, Bare f) : Bare (joinFragments ", " fs) := by
  match fs with
  | [] => exact .nil
  | [f] => exact h f (.head _)
  | f :: g :: fs =>
      have hrest : Bare (joinFragments ", " (g :: fs)) := .join fun e he => h e (.tail _ he)
      exact (h f (.head _)).append (.text (by decide) (by decide) hrest)

theorem mem_lexemes_of_bare (h : ∀ t ∈ f, t.IsBare) {l : Lexeme} (hl : l ∈ lexemes f) :
    (∃ s, l = .name s) ∨ ∃ c, l = .char c ∧ c ≠ ';' := by
  induction f with
  | nil => cases hl
  | cons t rest ih =>
      obtain ⟨ht, hrest⟩ := List.forall_mem_cons.mp h
      cases t with
      | text s =>
          rcases List.mem_append.mp hl with hl | hl
          · obtain ⟨c, hc, rfl⟩ := List.mem_map.mp hl
            exact .inr ⟨c, rfl, fun e => ht.2 (e ▸ hc)⟩
          · exact ih hrest hl
      | name s =>
          rcases List.mem_cons.mp hl with rfl | hl
          · exact .inl ⟨s, rfl⟩
          · exact ih hrest hl
      | literal s | placeholder n => exact ht.elim

end Fragment

/-! ## Parts of definitions -/

open Fragment (Bare BareBehind)

theorem DefinedType.sql_isBare (type : DefinedType) : Token.IsBare (.text (" " ++ type.sql)) := by
  cases type with
  | column type => cases type <;> decide
  | boolean | jsonb => decide
  | varchar size =>
      -- The size is any number, so its digits are looked at one by one.
      have hdigits : ∀ c ∈ Nat.toDigits 10 size, c ≠ '"' ∧ c ≠ '\'' ∧ c ≠ '$' ∧ c ≠ ';' := by
        intro c hc
        have hdigit := Nat.isDigit_of_mem_toDigits (by decide) (by decide) hc
        refine ⟨?_, ?_, ?_, ?_⟩ <;>
          · rintro rfl
            cases hdigit
      have hchars : (" " ++ (varchar size).sql).toList = " varchar(".toList ++ Nat.toDigits 10 size ++ [')'] := by
        simp [sql, toString, Nat.repr]
      have hall : ∀ c ∈ (" " ++ (varchar size).sql).toList, c ≠ '"' ∧ c ≠ '\'' ∧ c ≠ '$' ∧ c ≠ ';' := by
        rw [hchars]
        exact List.forall_mem_append.mpr ⟨List.forall_mem_append.mpr ⟨by simp, hdigits⟩, by simp⟩
      refine ⟨fun c hc => ?_, fun hmem => (hall ';' hmem).2.2.2 rfl⟩
      obtain ⟨hdouble, hsingle, hdollar, -⟩ := hall c hc
      exact ⟨hdouble, hsingle, hdollar⟩

theorem ColumnDefinition.fragment_bare (c : ColumnDefinition) : Bare c.fragment :=
  .name (.text c.type.sql_isBare ⟨' ', by simp, by decide⟩ .nil)

theorem IndexColumn.fragment_bare (c : IndexColumn) : Bare c.fragment := by
  obtain ⟨name, descending, ignoreCase⟩ := c
  cases descending <;> cases ignoreCase <;> constructor
  all_goals simp +decide [fragment, Token.IsBare]

theorem IndexColumn.outside_fragment (c : IndexColumn) :
    Fragment.outside c.fragment = Fragment.outside (fragment ⟨"", c.descending, c.ignoreCase⟩) := by
  unfold fragment
  cases c.ignoreCase <;> cases c.descending <;> rfl

namespace Definition

/-- The names that a definition is written with, in their order. -/
def writtenNames : Definition → List String
  | createTable name columns primaryKey => name :: columns.map (·.name) ++ primaryKey
  | addColumn table column => [table, column.name]
  | dropColumns table columns => table :: columns
  | dropTable name | truncate name | dropIndex name => [name]
  | createIndex name table columns _ => name :: table :: columns.map (·.name)

/-- What is left of a definition without its names: its kind, the types of columns, flags and numbers of columns. -/
inductive Shape
  | createTable (types : List DefinedType) (primaryKey : Nat)
  | addColumn (type : DefinedType)
  | dropColumns (columns : Nat)
  | dropTable
  | truncate
  /-- For each column whether it is descending and whether its lower case is indexed. -/
  | createIndex (columns : List (Bool × Bool)) (unique : Bool)
  | dropIndex
deriving DecidableEq, Repr

def shape : Definition → Shape
  | createTable _ columns primaryKey => .createTable (columns.map (·.type)) primaryKey.length
  | addColumn _ column => .addColumn column.type
  | dropColumns _ columns => .dropColumns columns.length
  | dropTable _ => .dropTable
  | truncate _ => .truncate
  | createIndex _ _ columns unique => .createIndex (columns.map fun c => (c.descending, c.ignoreCase)) unique
  | dropIndex _ => .dropIndex

/-! ## Whole definitions -/

theorem names_bare (ns : List String) : Bare (names ns) := by
  refine .join fun f hf => ?_
  obtain ⟨n, -, rfl⟩ := List.mem_map.mp hf
  exact .name .nil

theorem columns_bare {α : Type} {f : α → Fragment} (h : ∀ c, Bare (f c)) (columns : List α) :
    Bare (joinFragments ", " (columns.map f)) :=
  .join (List.forall_mem_map.mpr fun c _ => h c)

theorem body_bare (d : Definition) : Bare d.body := by
  have hclose : BareBehind [.text ")"] := .text (by decide) (by decide) .nil
  cases d with
  | createTable name columns primaryKey =>
      have hend : BareBehind ((if primaryKey.isEmpty then []
          else .text ", PRIMARY KEY (" :: names primaryKey ++ [.text ")"]) ++ [.text ")"]) := by
        split
        · exact hclose
        · rw [List.cons_append]
          exact .text (by decide) (by decide) (((names_bare primaryKey).append hclose).append hclose)
      have hcolumns := (columns_bare ColumnDefinition.fragment_bare columns).append hend
      simp only [body, List.cons_append, List.append_assoc] at hcolumns ⊢
      exact .text (by decide) (.name (.text (by decide) (by decide) hcolumns))
  | addColumn table column =>
      rw [body]
      exact .text (by decide) (.name (.text (by decide) (by decide) column.fragment_bare))
  | dropColumns table columns =>
      have hdrop (c : String) : Bare [.text "DROP COLUMN IF EXISTS ", .name c] := .text (by decide) (.name .nil)
      rw [body]
      exact .text (by decide) (.name (.text (by decide) (by decide) (columns_bare hdrop columns)))
  | dropTable name | truncate name | dropIndex name =>
      rw [body]
      exact .text (by decide) (.name .nil)
  | createIndex name table columns unique =>
      have hcolumns := (columns_bare IndexColumn.fragment_bare columns).append hclose
      have hstart : Token.IsBare (.text (if unique then "CREATE UNIQUE INDEX IF NOT EXISTS "
          else "CREATE INDEX IF NOT EXISTS ")) := by
        cases unique <;> decide
      simp only [body, List.cons_append]
      exact .text hstart (.name (.text (by decide) (by decide)
        (.name (.text (by decide) (by decide) hcolumns))))

theorem names_names (ns : List String) : Fragment.names (names ns) = ns := by
  rw [names, Fragment.names_joinFragments, List.flatMap_map]
  exact List.flatMap_singleton' ns

theorem names_columns {α : Type} {f : α → Fragment} {name : α → String} (h : ∀ c, Fragment.names (f c) = [name c])
    (columns : List α) : Fragment.names (joinFragments ", " (columns.map f)) = columns.map name := by
  rw [Fragment.names_joinFragments, List.flatMap_map]
  simp only [h]
  exact (List.map_eq_flatMap ..).symm

theorem names_body (d : Definition) : Fragment.names d.body = d.writtenNames := by
  cases d with
  | createTable name columns primaryKey =>
      have hkey : Fragment.names (if primaryKey.isEmpty then []
          else .text ", PRIMARY KEY (" :: names primaryKey ++ [.text ")"]) = primaryKey := by
        cases primaryKey with
        | nil => rfl
        | cons key keys => simp [names_names]
      have hcolumns : Fragment.names (joinFragments ", " (columns.map ColumnDefinition.fragment)) =
          columns.map (·.name) := names_columns (fun _ => rfl) columns
      rw [body, Fragment.names_append, Fragment.names_append, hkey]
      simp [writtenNames, hcolumns]
  | addColumn table column => rfl
  | dropColumns table columns =>
      have hdrop (c : String) : Fragment.names [.text "DROP COLUMN IF EXISTS ", .name c] = [id c] := rfl
      simp [body, writtenNames, names_columns hdrop]
  | dropTable name | truncate name | dropIndex name => rfl
  | createIndex name table columns unique =>
      have hindex (c : IndexColumn) : Fragment.names c.fragment = [c.name] := by
        unfold IndexColumn.fragment
        cases c.ignoreCase <;> cases c.descending <;> rfl
      simp [body, writtenNames, names_columns hindex]

/-- What is written of columns outside quotes is told from what they have besides their names. -/
theorem outside_columns {α β : Type} (f : α → Fragment) (kind : α → β) (text : β → List (Option Char))
    (h : ∀ c, Fragment.outside (f c) = text (kind c)) {columns columns' : List α}
    (hkinds : columns.map kind = columns'.map kind) :
    Fragment.outside (joinFragments ", " (columns.map f)) = Fragment.outside (joinFragments ", " (columns'.map f)) := by
  have hmap (cs : List α) : (cs.map f).map Fragment.outside = (cs.map kind).map text := by
    simp [h]
  exact Fragment.outside_joinFragments ", " (by rw [hmap, hmap, hkinds])

theorem outside_plain_columns (f : String → Fragment) (text : List (Option Char))
    (h : ∀ c, Fragment.outside (f c) = text) {ns ns' : List String} (hlength : ns.length = ns'.length) :
    Fragment.outside (joinFragments ", " (ns.map f)) = Fragment.outside (joinFragments ", " (ns'.map f)) := by
  have hkinds : ns.map (fun _ => ()) = ns'.map fun _ => () := by
    rw [List.map_const', List.map_const', hlength]
  exact outside_columns f (fun _ => ()) (fun _ => text) h hkinds

theorem outside_names {ns ns' : List String} (h : ns.length = ns'.length) :
    Fragment.outside (names ns) = Fragment.outside (names ns') :=
  outside_plain_columns _ [none] (fun _ => rfl) h

theorem outside_body {d e : Definition} (h : e.shape = d.shape) :
    Fragment.outside e.body = Fragment.outside d.body := by
  cases d with
  | createTable name columns primaryKey =>
      cases e with
      | createTable name' columns' primaryKey' =>
          obtain ⟨htypes, hkeys⟩ := Shape.createTable.inj h
          have hcolumns := outside_columns ColumnDefinition.fragment (·.type)
            (fun type => none :: (" " ++ type.sql).toList.map some ++ []) (fun _ => rfl) htypes
          -- Whether a key is written at all depends on how many columns it has.
          have hempty : primaryKey'.isEmpty = primaryKey.isEmpty := by
            rw [Bool.eq_iff_iff, List.isEmpty_iff_length_eq_zero, List.isEmpty_iff_length_eq_zero, hkeys]
          have hnames := outside_names hkeys
          rw [body, body, hempty]
          cases primaryKey.isEmpty <;> simp [hcolumns, hnames]
      | _ => cases h
  | addColumn table column =>
      cases e with
      | addColumn table' column' =>
          have htype : column'.type = column.type := Shape.addColumn.inj h
          simp [body, ColumnDefinition.fragment, htype]
      | _ => cases h
  | dropColumns table columns =>
      cases e with
      | dropColumns table' columns' =>
          have hlength : columns'.length = columns.length := Shape.dropColumns.inj h
          have hcolumns := outside_plain_columns (fun c => [.text "DROP COLUMN IF EXISTS ", .name c])
            ("DROP COLUMN IF EXISTS ".toList.map some ++ [none]) (fun _ => rfl) hlength
          simp [body, hcolumns]
      | _ => cases h
  | dropTable name | truncate name | dropIndex name =>
      cases e <;> cases h
      rfl
  | createIndex name table columns unique =>
      cases e with
      | createIndex name' table' columns' unique' =>
          obtain ⟨hkinds, rfl⟩ := Shape.createIndex.inj h
          have hcolumns := outside_columns IndexColumn.fragment (fun c => (c.descending, c.ignoreCase))
            (fun k => Fragment.outside (IndexColumn.fragment ⟨"", k.1, k.2⟩)) IndexColumn.outside_fragment hkinds
          simp [body, hcolumns]
      | _ => cases h

end Definition

/--
The text of a definition is read as its names, each whole, and of characters outside quotes. The last character is
the only semicolon among these. Definitions of one shape are read alike but for the names.
-/
theorem definition_names_stay_quoted (d : Definition) :
    ∃ ls, read d.text = some ls ∧ (∀ l ∈ ls, (∃ s, l = .name s) ∨ ∃ c, l = .char c) ∧
      ls.filterMap Lexeme.name? = d.writtenNames ∧
      (ls.getLast? = some (.char ';') ∧ ls.count (.char ';') = 1) ∧
      ∀ e : Definition, e.shape = d.shape → (read e.text).map (·.map Lexeme.char?) = some (ls.map Lexeme.char?) := by
  have hread (e : Definition) : read e.text = some (Fragment.lexemes e.body ++ [.char ';']) := by
    have hend : Fragment.Trailing [.text ";"] := .text (by decide) (by decide) trivial
    have hreadable : e.fragment.Readable := e.body_bare.readable.append hend
    rw [Definition.text, hreadable.read_render, Definition.fragment, Fragment.lexemes_append]
    rfl
  have hbody {l : Lexeme} (hl : l ∈ Fragment.lexemes d.body) := Fragment.mem_lexemes_of_bare d.body_bare.tokens hl
  refine ⟨_, hread d, fun l hl => ?_, ?_, ⟨?_, ?_⟩, fun e hshape => ?_⟩
  · rcases List.mem_append.mp hl with hl | hl
    · exact (hbody hl).imp id fun ⟨c, hc, _⟩ => ⟨c, hc⟩
    · exact .inr ⟨';', List.mem_singleton.mp hl⟩
  · rw [List.filterMap_append, Fragment.names_lexemes, Definition.names_body]
    exact List.append_nil _
  · exact List.getLast?_concat ..
  · have hnone : (Fragment.lexemes d.body).count (.char ';') = 0 := by
      refine List.count_eq_zero.mpr fun hl => ?_
      rcases hbody hl with ⟨s, hs⟩ | ⟨c, hc, hne⟩
      · cases hs
      · exact hne (Lexeme.char.inj hc).symm
    rw [List.count_append, hnone]
    rfl
  · rw [hread e, Option.map_some, List.map_append, List.map_append, Fragment.outside_lexemes,
      Fragment.outside_lexemes, Definition.outside_body hshape]

/-- A name that would end its quotes and the statement stays a name. -/
example : (Definition.truncate "a\"; DROP TABLE b; --").text = "TRUNCATE TABLE \"a\"\"; DROP TABLE b; --\";" := by
  decide

end Docstore.Sql
