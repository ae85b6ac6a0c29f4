import Docstore.Proofs.Query.Membership
import Docstore.Proofs.Query.Quotes
import Mathlib.Data.List.Infix

/-!
# Lists of patterns for the start of a text

What becomes of a demand that a list has texts that start in given ways. Main statement: it becomes patterns of `LIKE`
that are like the texts that start so and no others, and no pattern is cut where no character ends (`all_prefixes`).
-/

namespace Docstore

namespace Sql

/-! ## Patterns of `LIKE` -/

/-- What a pattern of `LIKE` is made of. -/
inductive LikeItem
  | char (c : Char)
  /-- Any character. -/
  | one
  /-- Any text. -/
  | any
deriving DecidableEq

namespace LikeItem

/-- The items of a pattern. The character behind a backslash is meant as it is, and there has to be one. -/
def items? : List Char → Option (List LikeItem)
  | [] => some []
  | ['\\'] => none
  | '\\' :: c :: rest => (items? rest).map (char c :: ·)
  | c :: rest => (items? rest).map ((if c = '%' then any else if c = '_' then one else char c) :: ·)

/-- Whether a text is made of what the items stand for. -/
def fit : List LikeItem → List Char → Bool
  | [], cs => cs.isEmpty
  | char _ :: _, [] => false
  | char c :: items, d :: cs => c == d && fit items cs
  | one :: _, [] => false
  | one :: items, _ :: cs => fit items cs
  | any :: items, cs => cs.tails.any (fit items)

end LikeItem

/-- Whether a text is like a pattern, if it is a pattern. -/
def like? (text pattern : String) : Option Bool :=
  (LikeItem.items? pattern.toList).map (LikeItem.fit · text.toList)

namespace LikeItem

open Query.Pattern (escape escape_cons)

theorem items?_escaped (c : Char) (rest : List Char) :
    items? ('\\' :: c :: rest) = (items? rest).map (char c :: ·) := by rw [items?]

theorem items?_plain {c : Char} (h : c.isDigit = true ∨ c = ' ' ∨ Text.isAlphabetic c = true) (rest : List Char) :
    items? (c :: rest) = (items? rest).map (char c :: ·) := by
  have hne (d : Char) (hd : ¬ (d.isDigit = true ∨ d = ' ' ∨ Text.isAlphabetic d = true)) : c ≠ d := by
    rintro rfl
    exact hd h
  have hslash : c ≠ '\\' := hne _ (by decide)
  rw [items?, if_neg (hne '%' (by decide)), if_neg (hne '_' (by decide))]
  · exact fun heq _ => hslash heq
  · exact fun _ _ heq _ => hslash heq

/-- An escaped text stands for itself in a pattern. -/
theorem items?_escape (s rest : List Char) :
    items? (escape s ++ rest) = (items? rest).map (s.map char ++ ·) := by
  induction s with
  | nil => simp [escape]
  | cons c s ih =>
      rw [escape_cons, List.append_assoc]
      split
      next hc =>
        rw [List.singleton_append, items?_plain hc, ih, Option.map_map]
        rfl
      next =>
        rw [List.cons_append, List.singleton_append, items?_escaped, ih, Option.map_map]
        rfl

theorem fit_start (s cs : List Char) : fit (s.map char ++ [any]) cs = s.isPrefixOf cs := by
  induction s generalizing cs with
  | nil =>
      have hend : [] ∈ cs.tails := (List.mem_tails _ _).mpr List.nil_suffix
      exact List.any_eq_true.mpr ⟨[], hend, rfl⟩
  | cons c s ih =>
      cases cs with
      | nil => rfl
      | cons d cs => rw [List.map_cons, List.cons_append, fit, ih, List.isPrefixOf_cons_cons]

end LikeItem

theorem like?_escape (s text : String) :
    like? text (String.ofList (Query.Pattern.escape s.toList ++ ['%'])) = some (s.toList.isPrefixOf text.toList) := by
  rw [like?, String.toList_ofList, LikeItem.items?_escape]
  exact congrArg some (LikeItem.fit_start s.toList text.toList)

end Sql

namespace Query

open Docstore.Sql (render)
open Pattern (process allOrNone memberStartsWith cutAt?_append)

/-! ## Patterns for the start of a text -/

/-- A member of a list that starts with a text. -/
def startingWith (s : String) : Json := .object [("$regex", .string ("^\\Q" ++ s ++ "\\E"))]

namespace Pattern

theorem isSome_cutAt? (word before after : List Char) : (cutAt? word (before ++ (word ++ after))).isSome = true := by
  induction before with
  | nil =>
      rw [List.nil_append]
      cases word with
      | nil => cases after <;> rfl
      | cons c word => rw [← List.nil_append (c :: word ++ after), cutAt?_append List.not_mem_nil]; rfl
  | cons c before ih =>
      rw [List.cons_append, cutAt?]
      split
      · rfl
      · rw [Option.isSome_map, ih]

theorem memberStartsWith_startingWith (s : String) : memberStartsWith (startingWith s) = true := by
  have hget : (startingWith s).get? "$regex" = some (.string ("^\\Q" ++ s ++ "\\E")) := rfl
  have htext : ("^\\Q" ++ s ++ "\\E").toList = '^' :: '\\' :: 'Q' :: (s.toList ++ closeQuote) := by
    simp [closeQuote]
  have hcut : cutAt? ('^' :: openQuote) ('^' :: '\\' :: 'Q' :: (s.toList ++ closeQuote)) =
      some ([], s.toList ++ closeQuote) := cutAt?_append List.not_mem_nil _
  have hclose := isSome_cutAt? closeQuote s.toList []
  rw [List.append_nil] at hclose
  rw [memberStartsWith, hget, isStartsWith, htext]
  simp only [hcut, hclose]

/-- A pattern for the start of a text has the anchor in front. -/
theorem exists_of_memberStartsWith {member : Json} (h : memberStartsWith member = true) :
    ∃ pattern rest, member.get? "$regex" = some (.string pattern) ∧ pattern.toList = '^' :: rest := by
  unfold memberStartsWith isStartsWith at h
  split at h
  next pattern hget =>
    split at h
    next rest htext => exact ⟨pattern, rest, hget, htext⟩
    next => cases h
  next => cases h

theorem toList_process {pattern : String} {rest : List Char} (h : pattern.toList = '^' :: rest) :
    (process pattern).toList = '^' :: literalize rest := by
  rw [process, String.toList_ofList, h, expand_of_start]

theorem process_startingWith (s : String) :
    (process ("^\\Q" ++ s ++ "\\E")).toList = '^' :: escape s.toList := by
  have htext : ("^\\Q" ++ s ++ "\\E").toList = '^' :: ([] ++ (openQuote ++ (s.toList ++ (closeQuote ++ [])))) := by
    simp [openQuote, closeQuote]
  rw [toList_process htext, literalize_quoted List.not_mem_nil List.not_mem_nil, if_pos rfl, List.nil_append]

theorem allOrNone_of_forall {members : List Json} (hne : members ≠ [])
    (h : ∀ member ∈ members, memberStartsWith member = true) : allOrNone members = true := by
  match members with
  | [member] => exact h member (.head _)
  | first :: second :: rest =>
      refine List.all_eq_true.mpr fun member hmember => ?_
      rw [h first (.head _), h member (.tail _ hmember)]
      rfl

/-- Where members agree and one is a pattern for the start of a text, all are. -/
theorem forall_of_allOrNone {members : List Json} (hany : members.any memberStartsWith = true)
    (hall : allOrNone members = true) : ∀ member ∈ members, memberStartsWith member = true := by
  match members with
  | [member] =>
      intro m hm
      rwa [List.mem_singleton.mp hm]
  | first :: second :: rest =>
      have hsame : ∀ member ∈ second :: rest, memberStartsWith member = memberStartsWith first := by
        intro member hmember
        exact eq_of_beq (List.all_eq_true.mp hall member hmember)
      obtain ⟨member, hmember, hstart⟩ := List.any_eq_true.mp hany
      have hfirst : memberStartsWith first = true := by
        rcases List.mem_cons.mp hmember with rfl | hmember
        · exact hstart
        · rw [← hsame member hmember, hstart]
      intro m hm
      rcases List.mem_cons.mp hm with rfl | hm
      · exact hfirst
      · rw [hsame m hm, hfirst]

end Pattern

namespace Operator

/-! ## The pattern behind its anchor -/

/-- What is left of a text without its first byte, if the first character is that byte. -/
def behindFirstByte? : List Char → Option (List Char)
  | [] => none
  | c :: rest => if c.utf8Size = 1 then some rest else none

/-- The pattern of a list's member. -/
def patternOf? (member : Json) : Option String := (member.get? "$regex").bind Json.text?

/-- A pattern for the start of a text as one of `LIKE`: the anchor is cut off and any text may follow. -/
def cutPattern? (pattern : String) : Option Json :=
  (behindFirstByte? (process pattern).toList).map fun rest => .string (String.ofList (rest ++ ['%']))

/-- `$all` with a crash where the byte that is cut off is no character. -/
def allCutting (s : Subject) (members : List Json) : Clauses :=
  if s.isArray && members.any memberStartsWith && allOrNone members then
    match (members.filterMap patternOf?).mapM cutPattern? with
    | some patterns => .test (.hasAllLike s.list patterns)
    | none => Clauses.fault .crash
  else all s (some (.array members))

theorem mapM_cutPattern? {members : List Json} (h : ∀ member ∈ members, memberStartsWith member = true) :
    (members.filterMap patternOf?).mapM cutPattern? = some (members.filterMap likePattern) := by
  induction members with
  | nil => rfl
  | cons member members ih =>
      obtain ⟨pattern, rest, hget, htext⟩ := Pattern.exists_of_memberStartsWith (h member (.head _))
      have hprocess := Pattern.toList_process htext
      have hread : patternOf? member = some pattern := by rw [patternOf?, hget]; rfl
      have hcut : cutPattern? pattern = some (.string (String.ofList (Pattern.literalize rest ++ ['%']))) := by
        rw [cutPattern?, hprocess]
        rfl
      have hlike : likePattern member = some (.string (String.ofList (Pattern.literalize rest ++ ['%']))) := by
        rw [likePattern, ← patternOf?, hread, Option.map_some, hprocess]
        rfl
      rw [List.filterMap_cons_some hread, List.filterMap_cons_some hlike, List.mapM_cons, hcut,
        ih fun m hm => h m (.tail _ hm)]
      rfl

theorem all_patterns {s : Subject} {members : List Json} (harray : s.isArray = true)
    (hany : members.any memberStartsWith = true) (hall : allOrNone members = true) :
    all s (some (.array members)) = Clauses.test (.hasAllLike s.list (members.filterMap likePattern)) := by
  simp only [all, harray, hany, hall, if_true]

/-- Every pattern whose anchor is cut off has one. -/
theorem allCutting_eq (s : Subject) (members : List Json) : allCutting s members = all s (some (.array members)) := by
  unfold allCutting
  split
  next h =>
    obtain ⟨⟨harray, hany⟩, hall⟩ := by simpa only [Bool.and_eq_true] using h
    rw [mapM_cutPattern? (Pattern.forall_of_allOrNone hany hall), all_patterns harray hany hall]
  next => rfl

theorem all_ne_crash (s : Subject) (v : Option Json) (bound : List Value) : all s v ≠ .error ⟨.crash, bound⟩ := by
  unfold all
  split
  · split
    · split
      · split <;> nofun
      · nofun
    · split <;> nofun
  · nofun

theorem constraint_all (now : Time.Instant) (s : Subject) (v : Json) :
    constraint now s [("$all", v)] = all s (some v) := by
  simp [constraint, Fields.get?, dottedMembership, membership, endsConstraint, Clauses.concat, Clauses.none_append,
    Clauses.append_none, notEqual, equal, present, containedBy, text, nearSphere, withinBox, centerSphere,
    withinPolygon, intersects, regex, compare]

theorem likePattern_startingWith (s : String) :
    likePattern (startingWith s) = some (.string (String.ofList (Pattern.escape s.toList ++ ['%']))) := by
  have hread : patternOf? (startingWith s) = some ("^\\Q" ++ s ++ "\\E") := rfl
  rw [likePattern, ← patternOf?, hread, Option.map_some, Pattern.process_startingWith]
  rfl

/-- The pattern of `LIKE` for texts that start with a text. -/
def likeStart (s : String) : String := String.ofList (Pattern.escape s.toList ++ ['%'])

theorem all_startingWith {s : Subject} (harray : s.isArray = true) {ss : List String} (hss : ss ≠ []) :
    all s (some (.array (ss.map startingWith))) =
      Clauses.test (.hasAllLike s.list ((ss.map likeStart).map .string)) := by
  have hstarts : ∀ member ∈ ss.map startingWith, memberStartsWith member = true := by
    intro member hmember
    obtain ⟨t, -, rfl⟩ := List.mem_map.mp hmember
    exact Pattern.memberStartsWith_startingWith t
  have hne : ss.map startingWith ≠ [] := by simpa using hss
  have hany : (ss.map startingWith).any memberStartsWith = true := by
    obtain ⟨member, hmember⟩ := List.exists_mem_of_ne_nil _ hne
    exact List.any_eq_true.mpr ⟨member, hmember, hstarts member hmember⟩
  have hlike : likePattern ∘ startingWith = some ∘ (Json.string ∘ likeStart) := funext likePattern_startingWith
  rw [all_patterns harray hany (Pattern.allOrNone_of_forall hne hstarts), List.filterMap_map, hlike,
    List.filterMap_eq_map, List.map_map]

end Operator

/-- The column of a list, a native one turned into a document. -/
def listColumn (f : String) (native : Bool) : Sql.Fragment :=
  if native then [.text "to_jsonb(", .name f, .text ")"] else [.name f]

section

variable (s : Subject) (patterns : List Json)

theorem number_hasAllLike (next : Nat) : (Predicate.number next [.test (.hasAllLike s.list patterns)]).sql =
    .text "array_contains_all_regex(" ::
      (listColumn s.key s.isStringArray ++ [.text ", ", .placeholder next, .text "::jsonb)"]) := by
  rw [Subject.list]
  cases s.isStringArray <;> rfl

theorem values_hasAllLike :
    Condition.values [.test (.hasAllLike s.list patterns)] = [.json (.array patterns)] := by
  rw [Subject.list]
  cases s.isStringArray <;> rfl

end

/-- The demand that a list has texts that start in given ways becomes one call, to which a pattern of `LIKE` is bound
for each of them, in their order, that the texts are like that start so. Cutting the anchor off a pattern fails for no
list of demands. -/
theorem all_prefixes {c : Context} {f : String} (harray : (c.subject f).isArray = true) {ss : List String}
    (hss : ss ≠ []) :
    (∃ patterns : List String,
      List.Forall₂ (fun s p => ∀ text : String, Sql.like? text p = some (s.toList.isPrefixOf text.toList))
        ss patterns ∧
      fieldClauses c f (.object [("$all", .array (ss.map startingWith))]) =
        Clauses.test (.hasAllLike (c.subject f).list (patterns.map .string)) ∧
      (¬ IsUnsafe f → ¬ IsAuthData f → ∀ b : Sql.Bindings, ∃ p,
        predicate c [(f, .object [("$all", .array (ss.map startingWith))])] b =
          (.ok p, b.append [.json (.array (patterns.map .string))]) ∧
        p.sql = .text "array_contains_all_regex(" ::
          (listColumn f (c.subject f).isStringArray ++ [.text ", ", .placeholder b.next, .text "::jsonb)"]))) ∧
      ∀ (s : Subject) (members : List Json),
        Operator.allCutting s members = Operator.all s (some (.array members)) ∧
          ∀ bound, Operator.allCutting s members ≠ .error ⟨.crash, bound⟩ := by
  have hclauses := Operator.all_startingWith harray hss
  refine ⟨⟨ss.map Operator.likeStart, ?_, ?_, fun hkey hauth b => ?_⟩, fun s members => ⟨?_, fun bound => ?_⟩⟩
  · exact List.forall₂_map_right_iff.mpr (List.forall₂_same.mpr fun s _ => Sql.like?_escape s)
  · rw [fieldClauses_object rfl, Operator.constraint_all, hclauses]
  · obtain ⟨hpredicate, -⟩ := predicate_operator (c := c) hkey hauth (by decide) (by decide)
      ((Operator.constraint_all c.now _ _).trans hclauses) (List.cons_ne_nil _ _) b
    rw [values_hasAllLike] at hpredicate
    exact ⟨_, hpredicate, number_hasAllLike _ _ b.next⟩
  · exact Operator.allCutting_eq s members
  · rw [Operator.allCutting_eq]
    exact Operator.all_ne_crash s _ bound

theorem all_prefixes_items :
    ∃ (patterns : List String) (p : Predicate),
      List.Forall₂ (fun s p => ∀ text : String, Sql.like? text p = some (s.toList.isPrefixOf text.toList))
        ["50%", "\\E_"] patterns ∧
      predicate variedContext [("items", .object [("$all", .array (["50%", "\\E_"].map startingWith))])] ⟨1, []⟩ =
        (.ok p, ⟨1, [.json (.array (patterns.map .string))]⟩) ∧
      render p.sql = "array_contains_all_regex(\"items\", $1::jsonb)" := by
  have hkey : ¬ IsUnsafe "items" := (isValidKey_iff _).mp (by decide)
  have hauth : ¬ IsAuthData "items" := (isAuthDataKey_eq_false_iff _).mp (by decide)
  obtain ⟨⟨patterns, hlike, -, hpredicate⟩, -⟩ :=
    all_prefixes (c := variedContext) (f := "items") (by decide) (List.cons_ne_nil "50%" ["\\E_"])
  obtain ⟨p, hp, hsql⟩ := hpredicate hkey hauth ⟨1, []⟩
  refine ⟨patterns, p, hlike, hp, ?_⟩
  rw [hsql]
  rfl

end Query

end Docstore
